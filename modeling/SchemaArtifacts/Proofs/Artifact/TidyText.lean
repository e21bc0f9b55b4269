import Mathlib.Data.List.Chain
import Mathlib.Data.List.DropRight
import SchemaArtifacts.Artifact.Kind
import SchemaArtifacts.Proofs.Artifact.CodeLines

/-!
# Tidy texts

A tidied text is made of lines that do not end in blanks, of which no two empty ones follow each
other and none stands at either end, and it ends in one line feed.  Tidying leaves such a text as it
is, so tidying twice is tidying once, also where lines end in a carriage return and a line feed: the
carriage return is a blank at the end of its line.
-/

namespace SchemaArtifacts.Artifact

open Text

def lineText (lines : List (List Char)) : List Char := ['\n'].intercalate lines

theorem toList_joinLines (parts : List String) :
    (joinLines parts).toList = lineText (parts.map String.toList) := by
  simp [joinLines, lineText, String.toList_intercalate]

theorem lineText_cons_cons (line next : List Char) (rest : List (List Char)) :
    lineText (line :: next :: rest) = line ++ '\n' :: lineText (next :: rest) := by
  simp [lineText]

theorem lineText_concat {lines : List (List Char)} (nonempty : lines ≠ []) (last : List Char) :
    lineText (lines ++ [last]) = lineText lines ++ '\n' :: last := by
  induction lines with
  | nil => exact absurd rfl nonempty
  | cons line rest ih =>
      cases rest with
      | nil => simp [lineText]
      | cons next others =>
          rw [List.cons_append, List.cons_append, lineText_cons_cons, lineText_cons_cons,
            List.append_assoc, List.cons_append, ← ih (by simp), List.cons_append]

theorem lineChars_lineText {lines : List (List Char)} (nonempty : lines ≠ [])
    (unbroken : ∀ line ∈ lines, '\n' ∉ line) : lineChars (lineText lines) = lines :=
  List.splitOn_intercalate '\n' unbroken nonempty

theorem lineText_lineChars (cs : List Char) : lineText (lineChars cs) = cs :=
  List.intercalate_splitOn '\n'

theorem dropWhile_lineText {lines : List (List Char)} (unbroken : ∀ line ∈ lines, '\n' ∉ line) :
    (lineText lines).dropWhile (· == '\n') = lineText (lines.dropWhile List.isEmpty) := by
  induction lines with
  | nil => rfl
  | cons line rest ih =>
      obtain ⟨first, later⟩ := List.forall_mem_cons.mp unbroken
      cases line with
      | nil =>
          rw [List.dropWhile_cons_of_pos rfl, ← ih later]
          cases rest with
          | nil => rfl
          | cons next others => rw [lineText_cons_cons]; rfl
      | cons c line =>
          obtain ⟨tail, starts⟩ : ∃ tail, lineText ((c :: line) :: rest) = c :: tail := by
            cases rest with
            | nil => exact ⟨line, by simp [lineText]⟩
            | cons next others => exact ⟨_, lineText_cons_cons _ _ _⟩
          have visible : (c == '\n') = false :=
            beq_false_of_ne fun same => first (same ▸ List.mem_cons_self)
          rw [List.dropWhile_cons_of_neg (by simp), starts,
            List.dropWhile_cons_of_neg (by simp [visible])]

theorem rdropWhile_lineText {lines : List (List Char)} (unbroken : ∀ line ∈ lines, '\n' ∉ line) :
    (lineText lines).rdropWhile (· == '\n') = lineText (lines.rdropWhile List.isEmpty) := by
  induction lines using List.reverseRecOn with
  | nil => rfl
  | append_singleton lines last ih =>
      obtain ⟨earlier, unbrokenLast⟩ := List.forall_mem_append.mp unbroken
      cases last using List.reverseRecOn with
      | nil =>
          rw [List.rdropWhile_concat_pos _ _ _ rfl, ← ih earlier]
          by_cases none : lines = []
          · subst none
            rfl
          · rw [lineText_concat none, List.rdropWhile_concat_pos _ _ _ (by simp)]
      | append_singleton line c =>
          obtain ⟨start, ends⟩ : ∃ start, lineText (lines ++ [line ++ [c]]) = start ++ [c] := by
            by_cases none : lines = []
            · subst none
              exact ⟨line, by simp [lineText]⟩
            · exact ⟨lineText lines ++ '\n' :: line, by simp [lineText_concat none]⟩
          have visible : ¬ (c == '\n') = true := by
            rw [beq_iff_eq]
            rintro rfl
            exact unbrokenLast (line ++ ['\n']) List.mem_cons_self (by simp)
          rw [List.rdropWhile_concat_neg _ _ _ (by simp), ends]
          exact List.rdropWhile_concat_neg _ _ _ visible

def dropOuterEmpty (lines : List (List Char)) : List (List Char) :=
  (lines.dropWhile List.isEmpty).rdropWhile List.isEmpty

theorem dropOuterEmpty_isInfix (lines : List (List Char)) : dropOuterEmpty lines <:+: lines :=
  (List.rdropWhile_prefix _ _).isInfix.trans (List.dropWhile_suffix _).isInfix

theorem toList_dropOuterBreaks {s : String} {lines : List (List Char)}
    (written : s.toList = lineText lines) (unbroken : ∀ line ∈ lines, '\n' ∉ line) :
    (dropOuterBreaks s).toList = lineText (dropOuterEmpty lines) := by
  have later : ∀ line ∈ lines.dropWhile List.isEmpty, '\n' ∉ line := fun line mem =>
    unbroken line ((List.dropWhile_sublist _).mem mem)
  rw [dropOuterBreaks, String.toList_ofList, written, dropWhile_lineText unbroken]
  exact rdropWhile_lineText later

def IsSpaced (lines : List (List Char)) : Prop :=
  lines.IsChain fun line next => line ≠ [] ∨ next ≠ []

structure AreTidy (lines : List (List Char)) : Prop where
  unbroken : ∀ line ∈ lines, '\n' ∉ line
  trimmed : ∀ line ∈ lines, trimEndChars line = line
  spaced : IsSpaced lines
  starts : ∀ line ∈ lines.head?, line ≠ []
  ends : ∀ line ∈ lines.getLast?, line ≠ []

theorem head?_mergeEmptyLines (lines : List (List Char)) :
    (mergeEmptyLines lines).head? = lines.head? := by
  fun_induction mergeEmptyLines lines with
  | case1 | case2 | case4 => rfl
  | case3 line next rest empty ih =>
      obtain ⟨none, noneNext⟩ := Bool.and_eq_true_iff.mp empty
      rw [ih, List.head?_cons, List.head?_cons, List.isEmpty_iff.mp none,
        List.isEmpty_iff.mp noneNext]

theorem isSpaced_mergeEmptyLines (lines : List (List Char)) : IsSpaced (mergeEmptyLines lines) := by
  fun_induction mergeEmptyLines lines with
  | case1 => exact .nil
  | case2 line => exact .singleton line
  | case3 line next rest empty ih => exact ih
  | case4 line next rest filled ih =>
      refine List.isChain_cons.mpr ⟨fun other mem => ?_, ih⟩
      rw [head?_mergeEmptyLines, List.head?_cons, Option.mem_some] at mem
      subst mem
      have apart : line = [] → next ≠ [] := by simpa using filled
      exact Decidable.not_or_of_imp apart

theorem mergeEmptyLines_of_isSpaced {lines : List (List Char)} (spaced : IsSpaced lines) :
    mergeEmptyLines lines = lines := by
  fun_induction mergeEmptyLines lines with
  | case1 | case2 => rfl
  | case3 line next rest empty ih =>
      have apart := (List.isChain_cons_cons.mp spaced).1
      simp_all
  | case4 line next rest filled ih => rw [ih (List.isChain_cons_cons.mp spaced).2]

theorem dropOuterEmpty_starts (lines : List (List Char)) :
    ∀ line ∈ (dropOuterEmpty lines).head?, line ≠ [] := by
  intro line mem
  obtain ⟨rest, whole⟩ := List.rdropWhile_prefix List.isEmpty (lines.dropWhile List.isEmpty)
  have stopped := List.head?_dropWhile_not List.isEmpty lines
  obtain ⟨others, kept⟩ := List.head?_eq_some_iff.mp mem
  rw [← whole, show List.rdropWhile _ _ = line :: others from kept] at stopped
  simpa using stopped

theorem dropOuterEmpty_ends (lines : List (List Char)) :
    ∀ line ∈ (dropOuterEmpty lines).getLast?, line ≠ [] := by
  intro line mem
  obtain ⟨before, kept⟩ := List.getLast?_eq_some_iff.mp mem
  have stopped := List.rdropWhile_last_not List.isEmpty (lines.dropWhile List.isEmpty)
  rw [show List.rdropWhile _ _ = before ++ [line] from kept] at stopped
  simpa using stopped

def settledLines (cs : List Char) : List (List Char) := dropOuterEmpty (tidyLines cs)

theorem areTidy_settledLines (cs : List Char) : AreTidy (settledLines cs) where
  unbroken line mem := not_mem_of_mem_tidyLines ((dropOuterEmpty_isInfix _).subset mem)
  trimmed line mem := by
    obtain ⟨whole, -, rfl⟩ :=
      List.mem_map.mp (mem_mergeEmptyLines ((dropOuterEmpty_isInfix _).subset mem))
    exact List.rdropWhile_idempotent _ _
  spaced := List.IsChain.infix (isSpaced_mergeEmptyLines _) (dropOuterEmpty_isInfix _)
  starts := dropOuterEmpty_starts _
  ends := dropOuterEmpty_ends _

theorem toList_tidied (code : String) :
    (tidied code).toList = lineText (settledLines code.toList) ++ ['\n'] := by
  have lines : ((tidyLines code.toList).map String.ofList).map String.toList =
      tidyLines code.toList := by
    simp [Function.comp_def]
  have written : (joinLines ((tidyLines code.toList).map String.ofList)).toList =
      lineText (tidyLines code.toList) := by rw [toList_joinLines, lines]
  rw [tidied, String.toList_append,
    toList_dropOuterBreaks written fun line => not_mem_of_mem_tidyLines]
  rfl

/-! ## Tidying once more -/

theorem AreTidy.settledLines_eq {lines : List (List Char)} (tidy : AreTidy lines) :
    settledLines (lineText lines ++ ['\n']) = lines := by
  cases lines with
  | nil => rfl
  | cons first rest =>
      have spaced : IsSpaced (first :: rest ++ [[]]) :=
        tidy.spaced.append (.singleton []) fun line mem _ _ => .inl (tidy.ends line mem)
      have unbroken : ∀ line ∈ first :: rest ++ [[]], '\n' ∉ line :=
        List.forall_mem_append.mpr ⟨tidy.unbroken, by simp⟩
      have trimmed : (first :: rest ++ [[]]).map trimEndChars = first :: rest ++ [[]] := by
        rw [List.map_append, List.map_congr_left tidy.trimmed, List.map_id']
        rfl
      have kept : (first :: rest).rdropWhile List.isEmpty = first :: rest :=
        List.rdropWhile_eq_self_iff.mpr fun nonempty => by
          simpa using tidy.ends _ (List.getLast?_eq_some_getLast nonempty)
      have visible : first ≠ [] := tidy.starts first rfl
      rw [← lineText_concat (by simp), settledLines, tidyLines,
        lineChars_lineText (by simp) unbroken, trimmed, mergeEmptyLines_of_isSpaced spaced,
        dropOuterEmpty, List.cons_append, List.dropWhile_cons_of_neg (by simpa using visible),
        ← List.cons_append, List.rdropWhile_concat_pos _ _ _ rfl, kept]

theorem tidied_congr {code other : String}
    (same : (lineChars code.toList).map trimEndChars = (lineChars other.toList).map trimEndChars) :
    tidied code = tidied other := by
  rw [tidied, tidied, tidyLines, tidyLines, same]

theorem tidied_tidied (code : String) : tidied (tidied code) = tidied code := by
  rw [← String.toList_inj, toList_tidied, toList_tidied,
    (areTidy_settledLines _).settledLines_eq]

theorem trimmedLines_intercalate {parts : List String} (nonempty : parts ≠ [])
    (unbroken : ∀ part ∈ parts, IsUnbroken part) :
    (lineChars ("\r\n".intercalate parts).toList).map trimEndChars =
      parts.map fun part => trimEndChars part.toList := by
  induction parts with
  | nil => exact absurd rfl nonempty
  | cons part rest ih =>
      obtain ⟨first, later⟩ := List.forall_mem_cons.mp unbroken
      cases rest with
      | nil =>
          rw [String.intercalate_singleton, lineChars_of_not_mem first]
          rfl
      | cons next others =>
          have returned : '\n' ∉ part.toList ++ ['\r'] := by
            rw [List.mem_append, not_or]
            exact ⟨first, by decide⟩
          have cut : ("\r\n".intercalate (part :: next :: others)).toList =
              (part.toList ++ ['\r']) ++ '\n' :: ("\r\n".intercalate (next :: others)).toList := by
            simp [String.intercalate_cons_cons]
          rw [cut, lineChars_append_break, lineChars_of_not_mem returned, List.map_append,
            ih (by simp) later, List.map_singleton, trimEndChars_append_blank _ (by decide)]
          rfl

theorem trimmedLines_withLineEnding (code : String) :
    (lineChars (withLineEnding "\r\n" code).toList).map trimEndChars =
      (lineChars code.toList).map trimEndChars := by
  have unbroken : ∀ part ∈ lines code, IsUnbroken part := by
    intro part mem
    obtain ⟨line, cut, rfl⟩ := List.mem_map.mp mem
    rw [IsUnbroken, String.toList_ofList]
    exact not_mem_of_mem_lineChars cut
  have joined : code = joinLines (lines code) := by
    rw [← String.toList_inj, toList_joinLines, lines, List.map_map]
    simp [Function.comp_def, lineText_lineChars]
  have ended : withLineEnding "\r\n" code = "\r\n".intercalate (lines code) := by
    conv_lhs => rw [joined, withLineEnding_joinLines]
    rw [List.map_congr_left fun part mem => withLineEnding_of_isUnbroken (unbroken part mem),
      List.map_id']
  rw [ended, trimmedLines_intercalate (lines_ne_nil code) unbroken, lines, List.map_map]
  simp [Function.comp_def]

def endedLinesOf (s : String) : List String := (lines s).dropLast

def filledLinesOf (s : String) : List String := (lines s).filter fun line => !isBlankText line

/-- A text that ends in one line feed, whose lines do not end in blanks, without two blank lines in
a row and, but for the text of one line feed, without a blank first or last line. -/
structure IsTidy (s : String) : Prop where
  ended : ∃ body, s = body ++ "\n" ∧ body.toList.getLast? ≠ some '\n'
  trimmed : ∀ line ∈ endedLinesOf s, trimEnd line = line
  spaced : (endedLinesOf s).IsChain fun line next => ¬ (isBlankText line ∧ isBlankText next)
  filled : s ≠ "\n" → ∀ line, line ∈ (endedLinesOf s).head? ∨ line ∈ (endedLinesOf s).getLast? →
    isBlankText line = false

theorem isEmpty_trimEndChars (cs : List Char) :
    (trimEndChars cs).isEmpty = isBlankText (String.ofList cs) := by
  rw [Bool.eq_iff_iff, List.isEmpty_iff, isBlankText, String.toList_ofList, List.all_eq_true]
  exact List.rdropWhile_eq_nil_iff

section Tidy

variable {s : String} {body : List (List Char)}

theorem endedLinesOf_eq (nonempty : body ≠ []) (unbroken : ∀ line ∈ body, '\n' ∉ line)
    (written : s.toList = lineText body ++ ['\n']) :
    endedLinesOf s = body.map String.ofList := by
  have cut : lineChars s.toList = body ++ [[]] := by
    rw [written, ← lineText_concat nonempty, lineChars_lineText (by simp)]
    exact List.forall_mem_append.mpr ⟨unbroken, by simp⟩
  rw [endedLinesOf, lines, cut, List.map_append, List.map_singleton, List.dropLast_concat]

theorem AreTidy.isBlankText (tidy : AreTidy body) {line : List Char} (mem : line ∈ body) :
    isBlankText (String.ofList line) = line.isEmpty := by
  rw [← isEmpty_trimEndChars, tidy.trimmed line mem]

theorem AreTidy.isTidy (tidy : AreTidy body) (written : s.toList = lineText body ++ ['\n']) :
    IsTidy s := by
  by_cases none : body = []
  · subst none
    obtain rfl : s = "\n" := String.toList_inj.mp written
    exact ⟨⟨"", rfl, by decide⟩, by decide, .singleton _, fun other => absurd rfl other⟩
  have lines := endedLinesOf_eq none tidy.unbroken written
  refine ⟨⟨String.ofList (lineText body), ?ended, ?single⟩, ?trimmed, ?spaced, ?filled⟩
  case ended => simp [← String.toList_inj, written]
  case single =>
    rw [String.toList_ofList]
    intro ends
    obtain ⟨before, same⟩ := List.getLast?_eq_some_iff.mp ends
    have cut := lineChars_lineText none tidy.unbroken
    rw [same, lineChars_append_break] at cut
    exact tidy.ends [] (by rw [← cut]; simp [lineChars]) rfl
  case trimmed =>
    rw [lines]
    intro text mem
    obtain ⟨line, held, rfl⟩ := List.mem_map.mp mem
    rw [trimEnd, String.toList_ofList, tidy.trimmed line held]
  case spaced =>
    rw [lines, List.isChain_map]
    refine tidy.spaced.imp_of_mem_imp fun line next mem memNext apart => ?_
    rw [tidy.isBlankText mem, tidy.isBlankText memNext, List.isEmpty_iff, List.isEmpty_iff]
    exact not_and_or.mpr apart
  case filled =>
    intro _ text mem
    simp only [lines, List.head?_map, List.getLast?_map, Option.mem_def,
      Option.map_eq_some_iff] at mem
    obtain ⟨line, first, rfl⟩ | ⟨line, last, rfl⟩ := mem
    · rw [tidy.isBlankText (List.mem_of_mem_head? first)]
      simpa using tidy.starts line first
    · rw [tidy.isBlankText (List.mem_of_getLast? last)]
      simpa using tidy.ends line last

end Tidy

theorem isTidy_tidied (code : String) : IsTidy (tidied code) :=
  (areTidy_settledLines _).isTidy (toList_tidied code)

theorem IsTidy.trimEnd_of_mem_lines {s : String} (tidy : IsTidy s) {line : String}
    (mem : line ∈ lines s) : trimEnd line = line := by
  obtain ⟨body, rfl, -⟩ := tidy.ended
  have trimmed := tidy.trimmed
  rw [endedLinesOf, lines_append_end, List.dropLast_concat] at trimmed
  rw [lines_append_end, List.mem_append, List.mem_singleton] at mem
  rcases mem with held | rfl
  · exact trimmed line held
  · rfl

theorem map_trimEnd_filledLinesOf (s : String) :
    (filledLinesOf s).map trimEnd =
      (((lineChars s.toList).map trimEndChars).filter fun line => !line.isEmpty).map
        String.ofList := by
  rw [filledLinesOf, lines, List.filter_map, List.filter_map, List.map_map, List.map_map]
  simp [Function.comp_def, isEmpty_trimEndChars, trimEnd]

theorem filledLinesOf_tidied (code : String) :
    filledLinesOf (tidied code) = (filledLinesOf code).map trimEnd := by
  have trimmed : (filledLinesOf (tidied code)).map trimEnd = filledLinesOf (tidied code) := by
    refine (List.map_congr_left fun line mem => ?_).trans (List.map_id _)
    rw [filledLinesOf, List.mem_filter] at mem
    exact (isTidy_tidied code).trimEnd_of_mem_lines mem.1
  rw [← trimmed, map_trimEnd_filledLinesOf, map_trimEnd_filledLinesOf, ← filledLines_tidied,
    tidied_tidied, filledLines_tidied]

/--
The layout of generated text, unless a kind of artifacts has one of its own.  Laying a text out once
more changes nothing, whichever of the two line endings is set.  With line feeds the text is tidy,
and its lines that hold something are those of the text before, without the blanks at their ends.
-/
theorem Generator.format_isTidy {generator : Generator} (tidies : generator.layOut = tidied)
    (ends : generator.endsLines = true) {ending : String}
    (set : generator.settings.lineEnding = .str ending) (known : ending ∈ ["\n", "\r\n"])
    (code : String) :
    ∃ formatted, generator.format code = .ok formatted ∧
      generator.format formatted = .ok formatted ∧
      (ending = "\n" → IsTidy formatted ∧
        filledLinesOf formatted = (filledLinesOf code).map trimEnd) := by
  have written (text : String) :
      generator.format text = .ok (Text.withLineEnding ending (tidied text)) := by
    rw [generator.format_of_lineEnding set ends, tidies]
  have again : tidied (Text.withLineEnding ending (tidied code)) = tidied code := by
    simp only [List.mem_cons, List.not_mem_nil, or_false] at known
    rcases known with rfl | rfl
    · rw [withLineEnding_lineFeed, tidied_tidied]
    · rw [tidied_congr (trimmedLines_withLineEnding _), tidied_tidied]
  refine ⟨_, written code, by rw [written, again], ?_⟩
  rintro rfl
  rw [withLineEnding_lineFeed]
  exact ⟨isTidy_tidied code, filledLinesOf_tidied code⟩

def untidyText : String := " \n  one \t\r\n\n\t\ntwo\u00a0\n\n"

theorem Generator.format_isTidy_untidyText :
    ∃ generator, contentGenerator {} = .ok generator ∧ generator.layOut = tidied ∧
      generator.endsLines = true ∧ generator.settings.lineEnding = .str "\n" ∧
      "\n" ∈ ["\n", "\r\n"] ∧
      ∃ formatted, generator.format untidyText = .ok formatted ∧
        generator.format formatted = .ok formatted ∧ IsTidy formatted ∧
        filledLinesOf formatted = ["  one", "two"] := by
  obtain ⟨generator, made, tidies, ends, set⟩ : ∃ generator,
      contentGenerator {} = .ok generator ∧ generator.layOut = tidied ∧
        generator.endsLines = true ∧ generator.settings.lineEnding = .str "\n" :=
    ⟨_, rfl, rfl, rfl, rfl⟩
  obtain ⟨formatted, written, again, tidy⟩ :=
    Generator.format_isTidy tidies ends set List.mem_cons_self untidyText
  refine ⟨generator, made, tidies, ends, set, List.mem_cons_self, formatted, written, again,
    (tidy rfl).1, (tidy rfl).2.trans ?_⟩
  decide +kernel

end SchemaArtifacts.Artifact
