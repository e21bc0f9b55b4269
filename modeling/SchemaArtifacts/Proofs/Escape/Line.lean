import SchemaArtifacts.Escape.Line
import SchemaArtifacts.Escape.Markdown
import SchemaArtifacts.Proofs.Text.Lines
import SchemaArtifacts.Proofs.Text.Reading
import SchemaArtifacts.Proofs.Text.Trimming

/-!
# Texts on one line

Text in a comment neither breaks the line that the comment stands on nor ends the comment before
its end.  In a script a separator of lines or paragraphs ends a comment, too: it stays in the text
unless a line break stands among the blanks around it.  Text in a cell of a Markdown table does not
end the line of its row.
-/

namespace SchemaArtifacts.Escape

open Text

theorem not_mem_collapseBreaks (cs : List Char) {c : Char} (breaks : isLineBreak c = true) :
    c ∉ collapseBreaks cs := by
  fun_induction collapseBreaks cs with
  | case1 => exact List.not_mem_nil
  | case2 first rest blank ih =>
      rw [List.mem_append, not_or]
      exact ⟨not_mem_collapseRun breaks, ih⟩
  | case3 first rest visible ih =>
      rw [List.mem_cons, not_or]
      refine ⟨?_, ih⟩
      rintro rfl
      exact visible (isBlank_of_isLineBreak breaks)

theorem not_mem_singleLineChars (cs : List Char) {c : Char} (breaks : isLineBreak c = true) :
    c ∉ singleLineChars cs :=
  fun mem => not_mem_collapseBreaks cs breaks (mem_trimChars mem)

/-- A text on one line, whichever of the two line breaks ends a line. -/
def IsOneLine (s : String) : Prop := ∀ c ∈ s.toList, isLineBreak c = false

instance (s : String) : Decidable (IsOneLine s) := List.decidableBAll _ s.toList

theorem IsOneLine.append {s rest : String} (first : IsOneLine s) (later : IsOneLine rest) :
    IsOneLine (s ++ rest) := by
  rw [IsOneLine, String.toList_append, List.forall_mem_append]
  exact ⟨first, later⟩

theorem IsOneLine.isUnbroken {s : String} (single : IsOneLine s) : IsUnbroken s :=
  fun mem => absurd (single _ mem) (by decide)

theorem isOneLine_singleLine (s : String) : IsOneLine (singleLine s) := by
  intro c mem
  rw [singleLine, String.toList_ofList] at mem
  exact Bool.eq_false_iff.mpr fun breaks => not_mem_singleLineChars _ breaks mem

theorem isUnbroken_singleLine (s : String) : IsUnbroken (singleLine s) :=
  (isOneLine_singleLine s).isUnbroken

theorem mem_guardCommentEnd {cs : List Char} {c : Char} (mem : c ∈ guardCommentEnd cs) :
    c ∈ cs ∨ c = '\\' := by
  fun_induction guardCommentEnd cs with
  | case1 => simp at mem
  | case2 rest ih =>
      simp only [List.mem_cons] at mem ⊢
      rcases mem with rfl | rfl | rfl | mem
      · simp
      · simp
      · simp
      · rcases ih mem with mem | rfl <;> simp [*]
  | case3 first rest open_ ih =>
      rcases List.mem_cons.mp mem with rfl | mem
      · simp
      · rcases ih mem with mem | rfl <;> simp [*]

theorem isOneLine_blockComment (s : String) : IsOneLine (blockComment s) := by
  intro c mem
  rw [blockComment, String.toList_ofList] at mem
  rcases mem_guardCommentEnd mem with mem | rfl
  · exact Bool.eq_false_iff.mpr fun breaks => not_mem_singleLineChars _ breaks mem
  · rfl

theorem isUnbroken_blockComment (s : String) : IsUnbroken (blockComment s) :=
  (isOneLine_blockComment s).isUnbroken

theorem isBlank_of_mem_collapseRun {run : List Char} (blank : ∀ c ∈ run, isBlank c = true)
    {c : Char} (mem : c ∈ collapseRun run) : isBlank c = true := by
  rw [collapseRun] at mem
  split at mem
  · rw [List.mem_singleton.mp mem]
    decide
  · exact blank c mem

theorem collapseBreaks_blank {c : Char} (blank : isBlank c = true) (rest : List Char) :
    collapseBreaks (c :: rest) =
      collapseRun (c :: rest.takeWhile isBlank) ++ collapseBreaks (rest.dropWhile isBlank) := by
  rw [collapseBreaks, if_pos blank]

theorem collapseBreaks_visible {c : Char} (visible : isBlank c = false) (rest : List Char) :
    collapseBreaks (c :: rest) = c :: collapseBreaks rest := by
  rw [collapseBreaks, if_neg (by simp [visible])]

theorem collapseBreaks_run {run rest : List Char} (nonempty : run ≠ [])
    (blank : ∀ c ∈ run, isBlank c = true) (starts : ∀ c ∈ rest.head?, isBlank c = false) :
    collapseBreaks (run ++ rest) = collapseRun run ++ collapseBreaks rest := by
  obtain ⟨c, others, rfl⟩ := List.exists_cons_of_ne_nil nonempty
  obtain ⟨first, later⟩ := List.forall_mem_cons.mp blank
  obtain ⟨taken, left⟩ := span_append later starts
  rw [List.cons_append, collapseBreaks_blank first, taken, left]

theorem isBlank_head?_dropWhile {cs : List Char} {c : Char}
    (first : c ∈ (cs.dropWhile isBlank).head?) : isBlank c = false := by
  have stopped := List.head?_dropWhile_not isBlank cs
  rw [Option.mem_def.mp first] at stopped
  simpa using stopped

theorem collapseBreaks_append {rest : List Char} (starts : ∀ c ∈ rest.head?, isBlank c = false)
    (cs : List Char) : collapseBreaks (cs ++ rest) = collapseBreaks cs ++ collapseBreaks rest := by
  fun_induction collapseBreaks cs with
  | case1 => rfl
  | case2 c others blank ih =>
      have run : ∀ d ∈ c :: others.takeWhile isBlank, isBlank d = true :=
        List.forall_mem_cons.mpr ⟨blank, List.all_eq_true.mp List.all_takeWhile⟩
      have starts' := @head?_dropWhile_append _ _ others _ starts
      have cut : c :: others ++ rest =
          c :: others.takeWhile isBlank ++ (others.dropWhile isBlank ++ rest) := by
        rw [List.cons_append, List.cons_append, ← List.append_assoc,
          List.takeWhile_append_dropWhile]
      rw [cut, collapseBreaks_run (List.cons_ne_nil _ _) run starts', ih, List.append_assoc]
  | case3 c others visible ih =>
      rw [List.cons_append, collapseBreaks_visible (by simpa using visible), ih, List.cons_append]

theorem isBlank_of_mem_collapseBreaks {cs : List Char} (blank : ∀ c ∈ cs, isBlank c = true)
    {c : Char} (mem : c ∈ collapseBreaks cs) : isBlank c = true := by
  by_cases empty : cs = []
  · rw [empty, collapseBreaks] at mem
    cases mem
  · have run := @collapseBreaks_run _ [] empty blank (by simp)
    rw [collapseBreaks, List.append_nil, List.append_nil] at run
    exact isBlank_of_mem_collapseRun blank (run ▸ mem)

theorem isTrimmed_collapseBreaks {cs : List Char} (trimmed : IsTrimmed cs) :
    IsTrimmed (collapseBreaks cs) := by
  obtain ⟨starts, ends⟩ := trimmed
  constructor
  · intro c first
    cases cs with
    | nil => simp [collapseBreaks] at first
    | cons d rest =>
        rw [collapseBreaks_visible (starts d rfl)] at first
        exact starts c first
  · intro c last
    cases cs using List.reverseRecOn with
    | nil => simp [collapseBreaks] at last
    | append_singleton inner d =>
        have visible : isBlank d = false := ends d (by simp)
        rw [collapseBreaks_append (by simpa using visible), collapseBreaks_visible visible] at last
        exact ends c (by simpa [collapseBreaks] using last)

theorem singleLineChars_eq (cs : List Char) :
    singleLineChars cs = collapseBreaks (trimChars cs) := by
  obtain ⟨before, after, blank, blank', whole⟩ := exists_between_blanks cs
  have trimmed := isTrimmed_trimChars cs
  have cut : ∃ first last, collapseBreaks cs = first ++ collapseBreaks (trimChars cs) ++ last ∧
      (∀ c ∈ first, isBlank c = true) ∧ ∀ c ∈ last, isBlank c = true := by
    rcases List.eq_nil_or_concat' (trimChars cs) with empty | ⟨inner, d, kept⟩
    · rw [empty, List.append_nil] at whole
      have all : ∀ c ∈ cs, isBlank c = true := by
        rw [whole]
        exact List.forall_mem_append.mpr ⟨blank, blank'⟩
      refine ⟨collapseBreaks cs, [], ?_, fun c => isBlank_of_mem_collapseBreaks all, by simp⟩
      simp [empty, collapseBreaks]
    · have visible : isBlank d = false := trimmed.2 d (by simp [kept])
      have starts : ∀ c ∈ (trimChars cs ++ after).head?, isBlank c = false := by
        intro c first
        rw [List.head?_append_of_ne_nil _ (by simp [kept])] at first
        exact trimmed.1 c first
      refine ⟨collapseBreaks before, collapseBreaks after, ?_,
        fun c => isBlank_of_mem_collapseBreaks blank, fun c => isBlank_of_mem_collapseBreaks blank'⟩
      conv_lhs => rw [whole, List.append_assoc, collapseBreaks_append starts, kept]
      have alone := @collapseBreaks_append [d] (by simpa using visible) inner
      rw [List.append_assoc, collapseBreaks_append (by simpa using visible), kept, alone]
      simp [collapseBreaks_visible visible, collapseBreaks]
  obtain ⟨first, last, collapsed, blank, blank'⟩ := cut
  rw [singleLineChars, collapsed, trimChars_between blank (isTrimmed_collapseBreaks trimmed) blank']

/-! ## Runs of blanks -/

def blankRuns (cs : List Char) : List (List Char) :=
  match cs with
  | [] => []
  | c :: rest =>
    if isBlank c then (c :: rest.takeWhile isBlank) :: blankRuns (rest.dropWhile isBlank)
    else blankRuns rest
termination_by cs.length
decreasing_by
  · exact Nat.lt_succ_of_le (List.dropWhile_sublist isBlank).length_le
  · exact Nat.lt_succ_self _

theorem mem_collapseBreaks_iff {c : Char} (blank : isBlank c = true) (cs : List Char) :
    c ∈ collapseBreaks cs ↔ ∃ run ∈ blankRuns cs, c ∈ collapseRun run := by
  fun_induction collapseBreaks cs with
  | case1 => simp [blankRuns]
  | case2 first rest starts ih =>
      rw [blankRuns, if_pos starts, List.mem_append, ih, List.exists_mem_cons_iff]
  | case3 first rest visible ih =>
      have other : c ≠ first := by
        rintro rfl
        exact visible blank
      rw [blankRuns, if_neg visible, List.mem_cons, ih, or_iff_right other]

/-- The separators of lines and paragraphs end a line of a script, but a literal may hold them. -/
def isSeparator (c : Char) : Bool := c == '\u2028' || c == '\u2029'

theorem isSeparator.elim {c : Char} {p : Char → Prop} (separates : isSeparator c = true)
    (lines : p '\u2028') (paragraphs : p '\u2029') : p c := by
  rw [isSeparator, Bool.or_eq_true, beq_iff_eq, beq_iff_eq] at separates
  rcases separates with rfl | rfl
  · exact lines
  · exact paragraphs

/-- The characters that end a line of a script. -/
def endsScriptLine (c : Char) : Bool := isLineBreak c || isSeparator c

theorem isBlank_of_endsScriptLine {c : Char} (ends : endsScriptLine c = true) :
    isBlank c = true := by
  rw [endsScriptLine, Bool.or_eq_true] at ends
  rcases ends with breaks | separates
  · exact isBlank_of_isLineBreak breaks
  · exact isSeparator.elim separates (p := fun c => isBlank c = true) (by decide) (by decide)

/-- Each run of blanks inside a text that has a separator has a line break, too, and so is lost as a
whole where the text is put on one line. -/
def LosesSeparators (s : String) : Prop :=
  ∀ run ∈ blankRuns (trimChars s.toList), run.any isSeparator = true → run.any isLineBreak = true

instance (s : String) : Decidable (LosesSeparators s) :=
  inferInstanceAs (Decidable (∀ run ∈ blankRuns (trimChars s.toList), _))

theorem mem_singleLine_iff {c : Char} (separates : isSeparator c = true) (s : String) :
    c ∈ (singleLine s).toList ↔
      ∃ run ∈ blankRuns (trimChars s.toList), run.any isLineBreak = false ∧ c ∈ run := by
  have blank : isBlank c = true :=
    isSeparator.elim separates (p := fun c => isBlank c = true) (by decide) (by decide)
  have noSpace : c ≠ ' ' := isSeparator.elim separates (p := (· ≠ ' ')) (by decide) (by decide)
  have kept (run : List Char) :
      c ∈ collapseRun run ↔ run.any isLineBreak = false ∧ c ∈ run := by
    rw [collapseRun]
    split
    case isTrue breaks => simp [breaks, noSpace]
    case isFalse unbroken => simp [Bool.eq_false_iff.mpr unbroken]
  rw [singleLine, String.toList_ofList, singleLineChars_eq, mem_collapseBreaks_iff blank]
  simp only [kept]

theorem endsScriptLine_singleLine_iff {s : String} :
    (∀ c ∈ (singleLine s).toList, endsScriptLine c = false) ↔ LosesSeparators s := by
  constructor
  · intro closed run mem separated
    obtain ⟨c, inside, separates⟩ := List.any_eq_true.mp separated
    by_contra unbroken
    have stays := (mem_singleLine_iff separates s).mpr
      ⟨run, mem, Bool.eq_false_iff.mpr unbroken, inside⟩
    have none := closed c stays
    rw [endsScriptLine, separates, Bool.or_true] at none
    cases none
  · intro loses c mem
    have single := isOneLine_singleLine s c mem
    by_contra ends
    have separates : isSeparator c = true := by simpa [endsScriptLine, single] using ends
    obtain ⟨run, held, unbroken, inside⟩ := (mem_singleLine_iff separates s).mp mem
    have breaks := loses run held (List.any_eq_true.mpr ⟨c, inside, separates⟩)
    rw [unbroken] at breaks
    cases breaks

def afterComment? : List Char → Option (List Char)
  | [] => none
  | '*' :: '/' :: rest => some rest
  | _ :: rest => afterComment? rest

theorem afterComment?_cons {c : Char} {cs : List Char} (open_ : c = '*' → cs.head? ≠ some '/') :
    afterComment? (c :: cs) = afterComment? cs := by
  rw [afterComment?]
  rintro rest rfl rfl
  exact open_ rfl rfl

theorem head?_guardCommentEnd (cs : List Char) : (guardCommentEnd cs).head? = cs.head? := by
  fun_cases guardCommentEnd cs <;> rfl

theorem afterComment?_guardCommentEnd (cs rest : List Char) :
    afterComment? (guardCommentEnd cs ++ ' ' :: '*' :: '/' :: rest) = some rest := by
  fun_induction guardCommentEnd cs with
  | case1 => simp [afterComment?]
  | case2 cs ih =>
      rw [← ih]
      simp [afterComment?]
  | case3 first cs open_ ih =>
      rw [← ih, List.cons_append]
      apply afterComment?_cons
      rintro rfl head
      rw [List.head?_append, head?_guardCommentEnd] at head
      cases cs with
      | nil => simp at head
      | cons next others =>
          simp only [List.head?_cons, Option.some_or, Option.some.injEq] at head
          subst head
          exact open_ others rfl rfl

theorem exists_afterComment? (before after : List Char) :
    ∃ rest, afterComment? (before ++ '*' :: '/' :: after) = some rest ∧ after <:+ rest := by
  induction before with
  | nil => exact ⟨after, rfl, List.suffix_rfl⟩
  | cons c before ih =>
      by_cases ends : c = '*' ∧ (before ++ '*' :: '/' :: after).head? = some '/'
      · obtain ⟨rfl, slash⟩ := ends
        cases before with
        | nil => simp at slash
        | cons d before =>
            obtain rfl : d = '/' := by simpa using slash
            exact ⟨_, rfl, before ++ ['*', '/'], by simp⟩
      · rw [List.cons_append, afterComment?_cons fun star slash => ends ⟨star, slash⟩]
        exact ih

theorem guardCommentEnd_eq_replaceChars (cs : List Char) :
    guardCommentEnd cs = replaceChars '*' ['/'] ['*', '\\', '/'] cs := by
  fun_induction guardCommentEnd cs with
  | case1 => rw [replaceChars]
  | case2 rest ih =>
      have found : afterPattern? ['*', '/'] ('*' :: '/' :: rest) = some rest := rfl
      rw [replaceChars_of_match found, ih]
      rfl
  | case3 c rest open_ ih =>
      have missing : afterPattern? ['*', '/'] (c :: rest) = none := by
        refine Option.eq_none_iff_forall_ne_some.mpr fun tail found => ?_
        obtain ⟨rfl, rfl⟩ := List.cons.inj (afterPattern?_eq_some_iff.mp found)
        exact open_ tail rfl rfl
      rw [replaceChars_of_no_match missing, ih]

/--
A comment that a template closes after a guarded text is closed there and nowhere before, whatever
follows it, and it stands on one line.
-/
theorem blockComment_closes (s : String) :
    IsOneLine ("/** " ++ blockComment s ++ " */") ∧
      (∀ before after, ("/** " ++ blockComment s ++ " */").toList = before ++ '*' :: '/' :: after ↔
        before = ("/** " ++ blockComment s ++ " ").toList ∧ after = []) ∧
      (∀ rest, afterComment? ("/** " ++ blockComment s ++ " */" ++ rest).toList =
        some rest.toList) ∧
      blockComment s = replace "*/" "*\\/" (singleLine s) := by
  have written : ("/** " ++ blockComment s ++ " */").toList =
      ("/** " ++ blockComment s ++ " ").toList ++ ['*', '/'] := by
    simp [String.toList_append]
  have closes (rest : List Char) :
      afterComment? (("/** " ++ blockComment s ++ " */").toList ++ rest) = some rest := by
    have guarded := afterComment?_guardCommentEnd (singleLineChars s.toList) rest
    simp [blockComment, String.toList_append, afterComment?, guarded]
  refine ⟨?_, fun before after => ⟨fun cut => ?_, ?_⟩, fun rest => ?_, ?_⟩
  · exact IsOneLine.append (IsOneLine.append (by decide) (isOneLine_blockComment s)) (by decide)
  · obtain ⟨rest, found, ends⟩ := exists_afterComment? before after
    rw [← cut, ← List.append_nil (String.toList _), closes] at found
    obtain rfl : [] = rest := Option.some.inj found
    obtain rfl := List.suffix_nil.mp ends
    exact ⟨(List.append_cancel_right (written.symm.trans cut)).symm, rfl⟩
  · rintro ⟨rfl, rfl⟩
    exact written
  · rw [String.toList_append, closes]
  · rw [blockComment, guardCommentEnd_eq_replaceChars]
    simp only [replace, singleLine, String.toList_ofList]
    rfl

example : blockComment "**/\n*/*/" = "**\\/ *\\/*\\/" := by
  decide +kernel

theorem not_mem_breakTags (cs : List Char) : '\n' ∉ breakTags cs := by
  fun_induction breakTags cs with
  | case1 => exact List.not_mem_nil
  | case2 rest ih | case3 rest ih =>
      rw [List.mem_append, not_or]
      exact ⟨by decide, ih⟩
  | case4 c rest _ other ih =>
      rw [List.mem_cons, not_or]
      exact ⟨fun same => other same.symm, ih⟩

theorem not_mem_cellChars (cs : List Char) : '\n' ∉ cellChars cs :=
  fun mem => not_mem_breakTags _ (mem_trimChars mem)

theorem isUnbroken_markdownCell (s : String) : IsUnbroken (markdownCell s) := by
  rw [IsUnbroken, markdownCell, String.toList_ofList]
  exact not_mem_cellChars _

end SchemaArtifacts.Escape
