import Mathlib.Data.List.Basic
import SchemaArtifacts.Text.Lines

/-!
# Cutting a text at line feeds

No line holds a line feed, and lines without line feeds are what their text is cut into.  Another
line ending takes the place of every line feed, so a text without line feeds stays as it is.  Line
feeds at the ends of a text are of no account to the lines that hold something.
-/

namespace SchemaArtifacts.Text

def IsUnbroken (s : String) : Prop := '\n' ∉ s.toList

instance (s : String) : Decidable (IsUnbroken s) := inferInstanceAs (Decidable (¬ _))

theorem IsUnbroken.append {s rest : String} (unbroken : IsUnbroken s) (others : IsUnbroken rest) :
    IsUnbroken (s ++ rest) := by
  rw [IsUnbroken, String.toList_append, List.mem_append, not_or]
  exact ⟨unbroken, others⟩

theorem IsUnbroken.intercalate {separator : String} {parts : List String}
    (separates : IsUnbroken separator) (unbroken : ∀ part ∈ parts, IsUnbroken part) :
    IsUnbroken (String.intercalate separator parts) := by
  induction parts with
  | nil => exact List.not_mem_nil
  | cons part others ih =>
      have first := unbroken part List.mem_cons_self
      have later := ih fun other mem => unbroken other (List.mem_cons_of_mem _ mem)
      cases others with
      | nil => simpa [String.intercalate_singleton] using first
      | cons next others =>
          rw [String.intercalate_cons_cons]
          exact (first.append separates).append later

theorem lineChars_append_break (cs rest : List Char) :
    lineChars (cs ++ '\n' :: rest) = lineChars cs ++ lineChars rest :=
  List.splitOn_append_cons_self cs rest

theorem lineChars_of_not_mem {cs : List Char} (unbroken : '\n' ∉ cs) : lineChars cs = [cs] :=
  List.splitOn_eq_singleton unbroken

theorem lines_append_break (s rest : String) :
    lines (s ++ "\n" ++ rest) = lines s ++ lines rest := by
  simp [lines, lineChars_append_break]

theorem lines_append_blank (s rest : String) :
    lines (s ++ "\n\n" ++ rest) = lines s ++ "" :: lines rest := by
  have blank : s ++ "\n\n" ++ rest = s ++ "\n" ++ ("" ++ "\n" ++ rest) := by
    simp [String.append_assoc, ← String.toList_inj]
  rw [blank, lines_append_break, lines_append_break]
  rfl

theorem lines_append_end (s : String) : lines (s ++ "\n") = lines s ++ [""] := by
  have ended := lines_append_break s ""
  rwa [String.append_empty] at ended

theorem lines_ne_nil (s : String) : lines s ≠ [] := by
  rw [lines, Ne, List.map_eq_nil_iff]
  exact List.splitOn_ne_nil _ _

theorem exists_lines_append {start : String} (unbroken : IsUnbroken start) (rest : String) :
    ∃ first others, lines (start ++ rest) = (start ++ first) :: others := by
  obtain ⟨first, others, cut⟩ := List.exists_cons_of_ne_nil (List.splitOn_ne_nil '\n' rest.toList)
  have whole (cs : List Char) (absent : '\n' ∉ cs) :
      lineChars (cs ++ rest.toList) = (cs ++ first) :: others := by
    induction cs with
    | nil => exact cut
    | cons c cs ih =>
        rw [List.mem_cons, not_or] at absent
        rw [List.cons_append, lineChars, List.splitOn_cons_eq_if_modifyHead,
          if_neg (by simpa using Ne.symm absent.1), ← lineChars, ih absent.2]
        rfl
  refine ⟨String.ofList first, others.map String.ofList, ?_⟩
  rw [lines, String.toList_append, whole _ unbroken, List.map_cons, String.ofList_append,
    String.ofList_toList]

theorem lines_of_isUnbroken {s : String} (unbroken : IsUnbroken s) : lines s = [s] := by
  rw [lines, lineChars_of_not_mem unbroken, List.map_singleton, String.ofList_toList]

theorem mem_and_ne_of_mem_splitOn {separator c : Char} {cs part : List Char}
    (cut : part ∈ cs.splitOn separator) (mem : c ∈ part) : c ∈ cs ∧ c ≠ separator := by
  induction cs generalizing part with
  | nil => simp_all
  | cons first cs ih =>
      rw [List.splitOn_cons_eq_if_modifyHead] at cut
      by_cases separates : first = separator
      · rw [if_pos (beq_iff_eq.mpr separates)] at cut
        rcases List.mem_cons.mp cut with rfl | later
        · exact absurd mem List.not_mem_nil
        · exact (ih later mem).imp_left (List.mem_cons_of_mem _)
      · rw [if_neg (by simpa using separates)] at cut
        cases rest : cs.splitOn separator with
        | nil => exact absurd rest (List.splitOn_ne_nil _ _)
        | cons next others =>
            rw [rest] at cut ih
            rcases List.mem_cons.mp cut with rfl | later
            · rcases List.mem_cons.mp mem with rfl | mem
              · exact ⟨List.mem_cons_self, separates⟩
              · exact (ih List.mem_cons_self mem).imp_left (List.mem_cons_of_mem _)
            · exact (ih (List.mem_cons_of_mem _ later) mem).imp_left (List.mem_cons_of_mem _)

theorem not_mem_of_mem_lineChars {cs line : List Char} (cut : line ∈ lineChars cs) :
    '\n' ∉ line :=
  fun mem => (mem_and_ne_of_mem_splitOn cut mem).2 rfl

theorem lineChars_joinLines {parts : List String} (nonempty : parts ≠ [])
    (unbroken : ∀ part ∈ parts, IsUnbroken part) :
    lineChars (joinLines parts).toList = parts.map String.toList := by
  have written : (joinLines parts).toList = ['\n'].intercalate (parts.map String.toList) := by
    simp [joinLines, String.toList_intercalate]
  rw [written, lineChars]
  exact List.splitOn_intercalate _ (List.forall_mem_map.mpr unbroken) (by simpa using nonempty)

theorem lines_joinLines {parts : List String} (nonempty : parts ≠ [])
    (unbroken : ∀ part ∈ parts, IsUnbroken part) : lines (joinLines parts) = parts := by
  rw [lines, lineChars_joinLines nonempty unbroken, List.map_map]
  exact (List.map_congr_left fun part _ => String.ofList_toList).trans (List.map_id parts)

theorem lines_joinLines_concat {parts : List String} (unbroken : ∀ part ∈ parts, IsUnbroken part)
    (last : String) : lines (joinLines (parts ++ [last])) = parts ++ lines last := by
  cases parts with
  | nil => simp [joinLines, String.intercalate_singleton]
  | cons part others =>
      rw [joinLines, String.intercalate_append_of_ne_nil (by simp) (by simp),
        String.intercalate_singleton, lines_append_break, ← joinLines,
        lines_joinLines (by simp) unbroken]

section LineEndings

variable {ending : String}

theorem withLineEnding_append (s rest : String) :
    withLineEnding ending (s ++ rest) = withLineEnding ending s ++ withLineEnding ending rest := by
  simp [← String.toList_inj]

theorem withLineEnding_break : withLineEnding ending "\n" = ending := by
  simp [← String.toList_inj]

theorem withLineEnding_blank : withLineEnding ending "\n\n" = ending ++ ending := by
  simp [← String.toList_inj]

theorem withLineEnding_intercalate (separator : String) (parts : List String) :
    withLineEnding ending (separator.intercalate parts) =
      (withLineEnding ending separator).intercalate (parts.map (withLineEnding ending)) := by
  induction parts with
  | nil => rfl
  | cons part others ih =>
      cases others with
      | nil => simp [String.intercalate_singleton]
      | cons next others =>
          rw [String.intercalate_cons_cons, withLineEnding_append, withLineEnding_append, ih]
          simp [String.intercalate_cons_cons]

theorem withLineEnding_joinLines (parts : List String) :
    withLineEnding ending (joinLines parts) =
      ending.intercalate (parts.map (withLineEnding ending)) := by
  rw [joinLines, withLineEnding_intercalate, withLineEnding_break]

theorem withLineEnding_of_isUnbroken {s : String} (unbroken : IsUnbroken s) :
    withLineEnding ending s = s := by
  rw [← String.toList_inj, toList_withLineEnding]
  refine (List.flatMap_congr fun c mem => if_neg ?_).trans (List.flatMap_singleton' s.toList)
  rintro rfl
  exact unbroken mem

theorem withLineEnding_joinLines_of_isUnbroken {parts : List String}
    (unbroken : ∀ part ∈ parts, IsUnbroken part) :
    withLineEnding ending (joinLines parts) = ending.intercalate parts := by
  have same : parts.map (withLineEnding ending) = parts := by
    rw [List.map_congr_left fun part mem => withLineEnding_of_isUnbroken (unbroken part mem),
      List.map_id']
  rw [withLineEnding_joinLines, same]

theorem length_withLineEnding (s : String) :
    (withLineEnding ending s).length + s.toList.count '\n' =
      s.length + s.toList.count '\n' * ending.length := by
  rw [← String.length_toList, ← String.length_toList, ← String.length_toList,
    toList_withLineEnding]
  induction s.toList with
  | nil => simp
  | cons c cs ih =>
      by_cases breaks : c = '\n'
      · subst breaks
        rw [List.flatMap_cons, if_pos rfl, List.length_append, List.length_cons,
          List.count_cons_self, Nat.add_mul]
        omega
      · rw [List.flatMap_cons, if_neg breaks, List.singleton_append, List.length_cons,
          List.length_cons, List.count_cons_of_ne breaks]
        omega

theorem count_withLineEnding (s : String) :
    (withLineEnding ending s).toList.count '\n' =
      s.toList.count '\n' * ending.toList.count '\n' := by
  rw [toList_withLineEnding]
  induction s.toList with
  | nil => simp
  | cons c cs ih =>
      by_cases breaks : c = '\n'
      · subst breaks
        rw [List.flatMap_cons, if_pos rfl, List.count_append, List.count_cons_self, ih,
          Nat.add_mul, Nat.one_mul, Nat.add_comm]
      · rw [List.flatMap_cons, if_neg breaks, List.singleton_append, List.count_cons_of_ne breaks,
          List.count_cons_of_ne breaks, ih]

theorem withLineEnding_eq_self_iff {s : String} :
    withLineEnding ending s = s ↔ ending = "\n" ∨ IsUnbroken s := by
  constructor
  · intro same
    rw [or_iff_not_imp_right, IsUnbroken, not_not]
    intro broken
    have positive : 0 < s.toList.count '\n' := List.count_pos_iff.mpr broken
    have lengths := @length_withLineEnding ending s
    have counts := @count_withLineEnding ending s
    rw [same] at lengths counts
    have one : ending.length = 1 := Nat.eq_of_mul_eq_mul_left positive (by omega)
    have feed : ending.toList.count '\n' = 1 := Nat.eq_of_mul_eq_mul_left positive (by omega)
    obtain ⟨c, single⟩ := List.length_eq_one_iff.mp (String.length_toList.trans one)
    obtain rfl : c = '\n' := by simpa [single, List.count_singleton] using feed
    exact String.toList_injective single
  · rintro (rfl | unbroken)
    · exact withLineEnding_lineFeed s
    · exact withLineEnding_of_isUnbroken unbroken

end LineEndings

def filledLines (cs : List Char) : List (List Char) :=
  (lineChars cs).filter fun line => !line.isEmpty

theorem filledLines_append_break (cs rest : List Char) :
    filledLines (cs ++ '\n' :: rest) = filledLines cs ++ filledLines rest := by
  rw [filledLines, lineChars_append_break, List.filter_append]
  rfl

theorem filledLines_nil : filledLines [] = [] := rfl

theorem filledLines_dropStart (cs : List Char) :
    filledLines (cs.dropWhile (· == '\n')) = filledLines cs := by
  induction cs with
  | nil => rfl
  | cons c cs ih =>
      by_cases breaks : c = '\n'
      · subst breaks
        have first := filledLines_append_break [] cs
        rw [filledLines_nil, List.nil_append, List.nil_append] at first
        rw [List.dropWhile_cons_of_pos (by simp), ih, first]
      · rw [List.dropWhile_cons_of_neg (by simpa using breaks)]

theorem filledLines_dropEnd (cs : List Char) :
    filledLines (cs.reverse.dropWhile (· == '\n')).reverse = filledLines cs := by
  -- Line feeds are dropped from the front of the reversed text, so the induction is on that.
  rw [← List.reverse_reverse cs, List.reverse_reverse cs.reverse]
  induction cs.reverse with
  | nil => rfl
  | cons c cs ih =>
      by_cases breaks : c = '\n'
      · subst breaks
        have last := filledLines_append_break cs.reverse []
        rw [filledLines_nil, List.append_nil] at last
        rw [List.dropWhile_cons_of_pos (by simp), ih, List.reverse_cons, last]
      · rw [List.dropWhile_cons_of_neg (by simpa using breaks)]

theorem filledLines_dropOuterBreaks (s : String) :
    filledLines (dropOuterBreaks s).toList = filledLines s.toList := by
  rw [dropOuterBreaks, String.toList_ofList, filledLines_dropEnd, filledLines_dropStart]

theorem filledLines_joinLines {parts : List String}
    (unbroken : ∀ part ∈ parts, IsUnbroken part) :
    filledLines (joinLines parts).toList =
      (parts.map String.toList).filter fun line => !line.isEmpty := by
  cases parts with
  | nil => rfl
  | cons part others => rw [filledLines, lineChars_joinLines (by simp) unbroken]

end SchemaArtifacts.Text
