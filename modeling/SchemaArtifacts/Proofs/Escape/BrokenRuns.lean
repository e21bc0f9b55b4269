import Mathlib.Data.List.SplitBy
import SchemaArtifacts.Proofs.Escape.Line
import SchemaArtifacts.Proofs.Text.Patterns

/-!
# Runs with line breaks

A text is put on one line by replacing matches of a pattern: blanks, one or more line breaks, and
blanks again.  Line breaks are blanks themselves, so the three stretches overlap, but whichever way
they share the characters, a match is a whole run of blanks.  A text is left alone just if it is
trimmed and has no line break.
-/

namespace SchemaArtifacts.Escape

open Text

def breakPattern : Pattern where
  stretches := [⟨isBlank, 0⟩, ⟨isLineBreak, 1⟩, ⟨isBlank, 0⟩]

section Matches

variable {run rest : List Char}

theorem isLineBreak_of_visible {c : Char} (visible : isBlank c = false) :
    isLineBreak c = false := by
  refine Bool.eq_false_iff.mpr fun breaks => ?_
  rw [isBlank_of_isLineBreak breaks] at visible
  cases visible

theorem afterStretches?_no_break (stops : ∀ c ∈ rest.head?, isLineBreak c = false) :
    afterStretches? [⟨isLineBreak, 1⟩, ⟨isBlank, 0⟩] rest = none := by
  refine afterStretches?_eq_none_iff.mpr fun taken mem => ?_
  have choices : taken ∈ Stretch.choices ⟨isLineBreak, 1⟩ rest ↔ 1 ≤ taken ∧ taken ≤ 0 :=
    Stretch.mem_choices_run (List.forall_mem_nil _) stops
  obtain ⟨enough, most⟩ := choices.mp mem
  exact absurd (Nat.le_trans enough most) (by decide)

theorem afterStretches?_breaks (blank : ∀ c ∈ run, isBlank c = true)
    (stops : ∀ c ∈ rest.head?, isBlank c = false) :
    afterStretches? [⟨isLineBreak, 1⟩, ⟨isBlank, 0⟩] (run ++ rest) =
      if run.head?.any isLineBreak then some rest else none := by
  cases run with
  | nil => exact afterStretches?_no_break fun c first => isLineBreak_of_visible (stops c first)
  | cons c others =>
      rw [List.head?_cons, Option.any_some]
      split
      case isTrue breaks =>
        have left : ∀ d ∈ (c :: others).dropWhile isLineBreak, isBlank d = true :=
          fun d mem => blank d ((List.dropWhile_sublist isLineBreak).mem mem)
        have taken : ∀ d ∈ (c :: others).takeWhile isLineBreak, isLineBreak d = true :=
          List.all_eq_true.mp List.all_takeWhile
        have enough : 1 ≤ ((c :: others).takeWhile isLineBreak).length := by
          rw [List.takeWhile_cons_of_pos breaks, List.length_cons]
          omega
        have last := @afterStretches?_of_longest ⟨isBlank, 0⟩ [] _ rest left stops
          (Nat.zero_le _) rest rfl
        rw [← List.takeWhile_append_dropWhile (p := isLineBreak) (l := c :: others),
          List.append_assoc]
        have ends : ∀ d ∈ ((c :: others).dropWhile isLineBreak ++ rest).head?,
            isLineBreak d = false :=
          head?_dropWhile_append fun d first => isLineBreak_of_visible (stops d first)
        exact afterStretches?_of_longest taken ends enough last
      case isFalse unbroken =>
        exact afterStretches?_no_break (by simpa using unbroken)

theorem afterStretches?_breakPattern (blank : ∀ c ∈ run, isBlank c = true)
    (stops : ∀ c ∈ rest.head?, isBlank c = false) :
    afterStretches? breakPattern.stretches (run ++ rest) =
      if run.any isLineBreak then some rest else none := by
  have choices {taken : Nat} := @Stretch.mem_choices_run ⟨isBlank, 0⟩ run rest blank stops taken
  -- However much the first stretch takes, the others match up to the end of the run or not at all.
  have later {taken : Nat} (mem : taken ∈ (Stretch.mk isBlank 0).choices (run ++ rest)) :
      afterStretches? [⟨isLineBreak, 1⟩, ⟨isBlank, 0⟩] ((run ++ rest).drop taken) =
        if (run.drop taken).head?.any isLineBreak then some rest else none := by
    rw [List.drop_append_of_le_length (choices.mp mem).2]
    exact afterStretches?_breaks (fun c inside => blank c (List.mem_of_mem_drop inside)) stops
  split
  case isTrue broken =>
    obtain ⟨c, inside, breaks⟩ := List.any_eq_true.mp broken
    obtain ⟨before, after, rfl⟩ := List.append_of_mem inside
    have mem : before.length ∈ (Stretch.mk isBlank 0).choices (before ++ c :: after ++ rest) :=
      choices.mpr (by simp)
    refine afterStretches?_of_agree (fun taken chosen found given => ?_) mem ?_
    · rw [later chosen] at given
      split at given
      · exact (Option.some.inj given).symm
      · cases given
    · rw [later mem, List.drop_left, List.head?_cons, Option.any_some, if_pos breaks]
  case isFalse unbroken =>
    refine afterStretches?_eq_none_iff.mpr fun taken mem => ?_
    rw [later mem, if_neg]
    cases first : (run.drop taken).head? with
    | none => exact Bool.false_ne_true
    | some c =>
        have inside := List.mem_of_mem_drop (List.mem_of_mem_head? first)
        exact fun breaks => unbroken (List.any_eq_true.mpr ⟨c, inside, breaks⟩)

end Matches

theorem substitute_unbroken {run rest : List Char} (blank : ∀ c ∈ run, isBlank c = true)
    (unbroken : run.any isLineBreak = false) (stops : ∀ c ∈ rest.head?, isBlank c = false)
    (replacement : List Char) :
    breakPattern.substitute replacement (run ++ rest) =
      run ++ breakPattern.substitute replacement rest := by
  induction run with
  | nil => rfl
  | cons c run ih =>
      have missing := afterStretches?_breakPattern blank stops
      rw [if_neg (by simp [unbroken])] at missing
      rw [List.any_cons, Bool.or_eq_false_iff] at unbroken
      rw [List.cons_append] at missing ⊢
      rw [Pattern.substitute_of_no_match missing, ih (List.forall_mem_cons.mp blank).2 unbroken.2,
        List.cons_append]

theorem substitute_breakPattern (cs : List Char) :
    breakPattern.substitute [' '] cs = collapseBreaks cs := by
  fun_induction collapseBreaks cs with
  | case1 => rw [Pattern.substitute]
  | case2 c rest blank ih =>
      have run : ∀ d ∈ c :: rest.takeWhile isBlank, isBlank d = true :=
        List.forall_mem_cons.mpr ⟨blank, List.all_eq_true.mp List.all_takeWhile⟩
      have stops : ∀ d ∈ (rest.dropWhile isBlank).head?, isBlank d = false :=
        fun d => isBlank_head?_dropWhile
      have cut : c :: rest = c :: rest.takeWhile isBlank ++ rest.dropWhile isBlank := by
        rw [List.cons_append, List.takeWhile_append_dropWhile]
      rw [cut, ← ih, collapseRun]
      split
      case isTrue broken =>
        refine Pattern.substitute_of_match ?_
        rw [afterStretches?_breakPattern run stops, if_pos broken]
      case isFalse unbroken =>
        exact substitute_unbroken run (Bool.eq_false_iff.mpr unbroken) stops [' ']
  | case3 c rest visible ih =>
      have missing := @afterStretches?_breakPattern [] (c :: rest) (List.forall_mem_nil _)
        (by simpa using visible)
      rw [Pattern.substitute_of_no_match (by simpa using missing), ih]

/-- A text cut into its longest runs of blanks and of other characters. -/
structure AreRuns (runs : List (List Char)) (cs : List Char) : Prop where
  whole : runs.flatten = cs
  nonempty : [] ∉ runs
  alike : ∀ run ∈ runs, ∀ c ∈ run, ∀ d ∈ run, isBlank c = isBlank d
  longest : runs.IsChain fun run next => ∀ c ∈ run, ∀ d ∈ next, isBlank c ≠ isBlank d

def runsOf (cs : List Char) : List (List Char) := cs.splitBy fun c d => isBlank c == isBlank d

theorem areRuns_runsOf (cs : List Char) : AreRuns (runsOf cs) cs := by
  have alike : ∀ run ∈ runsOf cs, ∀ c ∈ run, ∀ d ∈ run, isBlank c = isBlank d := by
    intro run mem c first d second
    have chain : (run.map isBlank).IsChain (· = ·) :=
      (List.isChain_map isBlank).mpr
        ((List.isChain_of_mem_splitBy mem).imp fun _ _ same => beq_iff_eq.mp same)
    exact chain.pairwise.forall_of_forall (fun _ _ => rfl)
      (List.mem_map_of_mem first) (List.mem_map_of_mem second)
  refine ⟨List.flatten_splitBy _ cs, List.nil_notMem_splitBy _ cs, alike, ?_⟩
  refine (List.isChain_getLast_head_splitBy _ cs).imp_of_mem_imp ?_
  rintro run next held held' ⟨filled, filled', differs⟩ c mem d mem'
  rw [alike run held c mem _ (List.getLast_mem filled),
    alike next held' d mem' _ (List.head_mem filled')]
  exact beq_eq_false_iff_ne.mp differs

theorem collapseRun_of_unbroken {run : List Char} (unbroken : ∀ c ∈ run, isLineBreak c = false) :
    collapseRun run = run := by
  rw [collapseRun, if_neg]
  intro broken
  obtain ⟨c, mem, breaks⟩ := List.any_eq_true.mp broken
  rw [unbroken c mem] at breaks
  cases breaks

theorem collapseBreaks_append_of_visible {run : List Char}
    (visible : ∀ c ∈ run, isBlank c = false) (rest : List Char) :
    collapseBreaks (run ++ rest) = run ++ collapseBreaks rest := by
  induction run with
  | nil => rfl
  | cons c run ih =>
      obtain ⟨first, later⟩ := List.forall_mem_cons.mp visible
      rw [List.cons_append, collapseBreaks_visible first, ih later, List.cons_append]

theorem collapseBreaks_runs {runs : List (List Char)} {cs : List Char} (cut : AreRuns runs cs) :
    collapseBreaks cs = runs.flatMap collapseRun := by
  obtain ⟨rfl, nonempty, alike, longest⟩ := cut
  induction runs with
  | nil => rw [List.flatten_nil, collapseBreaks, List.flatMap_nil]
  | cons run runs ih =>
      obtain ⟨filled, others⟩ := not_or.mp (List.mem_cons.not.mp nonempty)
      obtain ⟨same, alike⟩ := List.forall_mem_cons.mp alike
      obtain ⟨differs, longest⟩ := List.isChain_cons.mp longest
      obtain ⟨c, rest, written⟩ := List.exists_cons_of_ne_nil (Ne.symm filled)
      have first : c ∈ run := written ▸ List.mem_cons_self
      have later := ih others alike longest
      rw [List.flatten_cons, List.flatMap_cons]
      cases blank : isBlank c with
      | true =>
          have stops : ∀ d ∈ runs.flatten.head?, isBlank d = false := by
            intro d head
            cases runs with
            | nil => cases head
            | cons next runs =>
                rw [List.flatten_cons,
                  List.head?_append_of_ne_nil _ fun empty => others (by simp [empty])] at head
                have other := differs next rfl c first d (List.mem_of_mem_head? head)
                rwa [blank, ne_comm, ne_eq, Bool.not_eq_true] at other
          rw [collapseBreaks_run (Ne.symm filled) (fun d mem => (same d mem c first).trans blank)
            stops, later]
      | false =>
          have visible : ∀ d ∈ run, isBlank d = false :=
            fun d mem => (same d mem c first).trans blank
          have unbroken : ∀ d ∈ run, isLineBreak d = false :=
            fun d mem => isLineBreak_of_visible (visible d mem)
          rw [collapseBreaks_append_of_visible visible, later, collapseRun_of_unbroken unbroken]

theorem collapseBreaks_of_unbroken {cs : List Char} (unbroken : ∀ c ∈ cs, isLineBreak c = false) :
    collapseBreaks cs = cs := by
  fun_induction collapseBreaks cs with
  | case1 => rfl
  | case2 c rest blank ih =>
      have cut : c :: rest = c :: rest.takeWhile isBlank ++ rest.dropWhile isBlank := by
        rw [List.cons_append, List.takeWhile_append_dropWhile]
      rw [cut] at unbroken
      obtain ⟨run, later⟩ := List.forall_mem_append.mp unbroken
      rw [collapseRun_of_unbroken run, ih later, ← cut]
  | case3 c rest visible ih => rw [ih (List.forall_mem_cons.mp unbroken).2]

theorem singleLine_eq_self_iff {s : String} :
    singleLine s = s ↔ IsOneLine s ∧ IsTrimmed s.toList := by
  constructor
  · intro same
    have single := isOneLine_singleLine s
    have trimmed : IsTrimmed (singleLine s).toList := by
      rw [singleLine, String.toList_ofList]
      exact isTrimmed_trimChars _
    rw [same] at single trimmed
    exact ⟨single, trimmed⟩
  · rintro ⟨single, trimmed⟩
    rw [singleLine, singleLineChars, collapseBreaks_of_unbroken single,
      trimChars_of_isTrimmed trimmed, String.ofList_toList]

/--
A text on one line has a space for each run of blanks with a line break and every other run as it
is, but for blanks at its ends: this is what replacing the matches of the pattern comes to.  No line
break is left, and putting the text on one line again changes nothing.
-/
theorem singleLine_replaces_runs (s : String) :
    (singleLine s).toList = trimChars (breakPattern.substitute [' '] s.toList) ∧
      (∃ runs, AreRuns runs s.toList) ∧
      (∀ runs, AreRuns runs s.toList → (singleLine s).toList = trimChars (runs.flatMap fun run =>
        if run.any isLineBreak then [' '] else run)) ∧
      IsOneLine (singleLine s) ∧ singleLine (singleLine s) = singleLine s := by
  have chars : (singleLine s).toList = trimChars (collapseBreaks s.toList) := String.toList_ofList
  refine ⟨?_, ⟨_, areRuns_runsOf s.toList⟩, fun runs cut => ?_, isOneLine_singleLine s, ?_⟩
  · rw [chars, substitute_breakPattern]
  · rw [chars, collapseBreaks_runs cut]
    rfl
  · rw [singleLine_eq_self_iff, chars]
    exact ⟨isOneLine_singleLine s, isTrimmed_trimChars _⟩

example : singleLine " a \r\n\tb\t c\n" = "a b\t c" := by
  decide +kernel

end SchemaArtifacts.Escape
