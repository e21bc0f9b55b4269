import SchemaArtifacts.Artifact.Generator
import SchemaArtifacts.Collection
import SchemaArtifacts.Proofs.Escape.Line
import SchemaArtifacts.Proofs.Escape.Keys
import SchemaArtifacts.Proofs.Text.Lines

/-!
# Code lines

The lines of a generated module that are neither blank nor comments.  Tidying keeps every line that
is not blank but for its trailing blanks, so the code lines of a module are those of the lines that
it was written from.
-/

namespace SchemaArtifacts.Artifact

open Escape Text

theorem Generator.content_of_lineFeed {generator : Generator}
    (ended : generator.settings.lineEnding = .str "\n") {target : Target} {code : String}
    (text : generator.text target = .ok code) :
    generator.content target = .ok (generator.layOut code) := by
  have lineEnding : generator.settings.lineEndingText = .ok "\n" := by
    simp [Settings.lineEndingText, ended]
  have format : generator.format code = .ok (generator.layOut code) := by
    rw [Generator.format, Generator.withLineEnding, lineEnding]
    split
    · exact congrArg Except.ok (withLineEnding_lineFeed _)
    · rfl
  rw [Generator.content, text]
  exact format

theorem Generator.artifact_of_lineFeed {generator : Generator}
    (ended : generator.settings.lineEnding = .str "\n") {target : Target} {code : String}
    (text : generator.text target = .ok code) :
    generator.artifact target =
      .ok (.made (generator.layOut code) (targetWarnings target) (generator.details target)) := by
  rw [Generator.artifact, Generator.content_of_lineFeed ended text]

theorem Generator.format_of_lineEnding {generator : Generator} {ending : String}
    (set : generator.settings.lineEnding = .str ending) (ends : generator.endsLines = true)
    (code : String) :
    generator.format code = .ok (Text.withLineEnding ending (generator.layOut code)) := by
  rw [Generator.format, if_pos ends, Generator.withLineEnding, Settings.lineEndingText, set]
  rfl

theorem Generator.artifact_of_lineEnding {generator : Generator} {ending : String}
    (set : generator.settings.lineEnding = .str ending) (ends : generator.endsLines = true)
    {target : Target} {code : String} (text : generator.text target = .ok code) :
    generator.artifact target =
      .ok (.made (Text.withLineEnding ending (generator.layOut code)) (targetWarnings target)
        (generator.details target)) := by
  have content : generator.content target =
      .ok (Text.withLineEnding ending (generator.layOut code)) := by
    rw [Generator.content, text]
    exact generator.format_of_lineEnding set ends code
  rw [Generator.artifact, content]

theorem filter_mergeEmptyLines (lines : List (List Char)) :
    ((mergeEmptyLines lines).filter fun line => !line.isEmpty) =
      lines.filter fun line => !line.isEmpty := by
  fun_induction mergeEmptyLines lines with
  | case1 => rfl
  | case2 line => rfl
  | case3 line next rest empty ih =>
      obtain rfl : line = [] := by simpa using (Bool.and_eq_true_iff.mp empty).1
      rw [ih]
      rfl
  | case4 line next rest filled ih =>
      simp only [List.filter_cons (x := line), ih]

theorem mem_mergeEmptyLines {lines : List (List Char)} {line : List Char}
    (mem : line ∈ mergeEmptyLines lines) : line ∈ lines := by
  fun_induction mergeEmptyLines lines with
  | case1 => exact mem
  | case2 => exact mem
  | case3 first next rest empty ih => exact List.mem_cons_of_mem _ (ih mem)
  | case4 first next rest filled ih =>
      rcases List.mem_cons.mp mem with rfl | later
      · exact List.mem_cons_self
      · exact List.mem_cons_of_mem _ (ih later)

theorem not_mem_of_mem_tidyLines {cs line : List Char} (mem : line ∈ tidyLines cs) :
    '\n' ∉ line := by
  obtain ⟨whole, cut, rfl⟩ := List.mem_map.mp (mem_mergeEmptyLines mem)
  exact fun breaks => not_mem_of_mem_lineChars cut (mem_trimEndChars breaks)

theorem filledLines_tidied (code : String) :
    filledLines (tidied code).toList =
      ((lineChars code.toList).map trimEndChars).filter fun line => !line.isEmpty := by
  have unbroken : ∀ part ∈ (tidyLines code.toList).map String.ofList, IsUnbroken part := by
    intro part mem
    obtain ⟨line, tidy, rfl⟩ := List.mem_map.mp mem
    rw [IsUnbroken, String.toList_ofList]
    exact not_mem_of_mem_tidyLines tidy
  have lines : ((tidyLines code.toList).map String.ofList).map String.toList =
      tidyLines code.toList := by
    simp [Function.comp_def]
  rw [tidied, String.toList_append, show "\n".toList = ['\n'] from rfl, filledLines_append_break,
    filledLines_nil, List.append_nil, filledLines_dropOuterBreaks, filledLines_joinLines unbroken,
    lines, tidyLines, filter_mergeEmptyLines]

/-- A line that is blank or holds one comment and nothing else.  A line ends at a line feed only, and
a comment after two slashes ends with its line. -/
def isRemark (line : List Char) : Bool :=
  match line.dropWhile (· == ' ') with
  | [] => true
  | '/' :: '/' :: _ => true
  | '/' :: '*' :: rest => afterComment? rest == some []
  | _ => false

/-- The lines of code in a text that is cut at line feeds.  Here the separators of lines and
paragraphs end no line, though a script takes them for ends of its comments (`endsScriptLine`). -/
def codeLines (text : String) : List (List Char) :=
  (lineChars text.toList).filter fun line => !isRemark line

def codeOf (lines : List String) : List (List Char) :=
  (lines.map fun line => trimEndChars line.toList).filter fun line => !isRemark line

theorem filter_filled (lines : List (List Char)) :
    ((lines.filter fun line => !line.isEmpty).filter fun line => !isRemark line) =
      lines.filter fun line => !isRemark line := by
  rw [List.filter_filter]
  congr 1
  funext line
  cases line <;> simp [isRemark]

theorem toList_endedLines (lines : List String) :
    (Collection.endedLines lines).toList = lines.flatMap fun line => line.toList ++ ['\n'] := by
  simp [Collection.endedLines, String.toList_join, List.flatMap_def, Function.comp_def]

theorem lineChars_endedLines {lines : List String} (unbroken : ∀ line ∈ lines, IsUnbroken line) :
    lineChars (Collection.endedLines lines).toList = lines.map String.toList ++ [[]] := by
  rw [toList_endedLines]
  induction lines with
  | nil => rfl
  | cons line others ih =>
      have later := ih fun other mem => unbroken other (List.mem_cons_of_mem _ mem)
      rw [List.flatMap_cons, List.append_assoc, List.singleton_append, lineChars_append_break,
        lineChars_of_not_mem (unbroken line List.mem_cons_self), later]
      rfl

theorem codeLines_tidied {lines : List String} (unbroken : ∀ line ∈ lines, IsUnbroken line) :
    codeLines (tidied (Collection.endedLines lines)) = codeOf lines := by
  have kept := filledLines_tidied (Collection.endedLines lines)
  rw [codeLines, ← filter_filled, ← filledLines, kept, filter_filled,
    lineChars_endedLines unbroken, List.map_append, List.filter_append, List.map_map]
  exact List.append_nil _

def afterLine? (line : String) : List (List Char) → Option (List (List Char))
  | [] => none
  | first :: rest => if first = line.toList then some rest else none

theorem afterLine?_cons (line : String) (rest : List (List Char)) :
    afterLine? line (line.toList :: rest) = some rest :=
  if_pos rfl

theorem codeOf_nil : codeOf [] = [] := rfl

theorem codeOf_append (lines others : List String) :
    codeOf (lines ++ others) = codeOf lines ++ codeOf others := by
  simp [codeOf]

theorem codeOf_flatMap {α : Type} (lines : α → List String) (items : List α) :
    codeOf (items.flatMap lines) = items.flatMap fun item => codeOf (lines item) := by
  induction items with
  | nil => rfl
  | cons item others ih => rw [List.flatMap_cons, codeOf_append, ih, List.flatMap_cons]

/-- A line that tidying leaves as it is and that is neither blank nor a comment. -/
structure IsCode (line : String) : Prop where
  ends : ∀ c ∈ line.toList.getLast?, isBlank c = false
  code : isRemark line.toList = false

theorem codeOf_cons_code {line : String} (code : IsCode line) (others : List String) :
    codeOf (line :: others) = line.toList :: codeOf others := by
  simp [codeOf, trimEndChars_of_getLast? code.ends, code.code]

theorem codeOf_cons_remark {line : String} (remark : isRemark (trimEndChars line.toList) = true)
    (others : List String) : codeOf (line :: others) = codeOf others := by
  simp [codeOf, remark]

theorem codeOf_map {α : Type} {line : α → String} {items : List α}
    (code : ∀ item ∈ items, IsCode (line item)) :
    codeOf (items.map line) = items.map fun item => (line item).toList := by
  induction items with
  | nil => rfl
  | cons item others ih =>
      rw [List.map_cons, codeOf_cons_code (code item List.mem_cons_self),
        ih fun other mem => code other (List.mem_cons_of_mem _ mem), List.map_cons]

theorem isRemark_indented (line : List Char) :
    isRemark ("  ".toList ++ line) = isRemark line := rfl

theorem isRemark_of_visible {first : Char} (visible : first ≠ ' ' ∧ first ≠ '/')
    (others : List Char) : isRemark (first :: others) = false := by
  simp [isRemark, visible.1, visible.2]

theorem IsCode.append {start ending : String} (middle : String)
    (opens : ∀ rest, isRemark (start.toList ++ rest) = false)
    (closes : ∃ c, ending.toList.getLast? = some c ∧ isBlank c = false) :
    IsCode (start ++ middle ++ ending) := by
  obtain ⟨last, found, visible⟩ := closes
  constructor
  · intro c mem
    rw [String.toList_append, List.getLast?_append, found, Option.some_or] at mem
    obtain rfl : last = c := Option.some.inj mem
    exact visible
  · rw [String.toList_append, String.toList_append, List.append_assoc]
    exact opens _

theorem IsCode.keyed {indent ending : String}
    (indents : ∀ line, isRemark (indent.toList ++ line) = isRemark line) (name middle : String)
    (closes : ∃ c, ending.toList.getLast? = some c ∧ isBlank c = false) :
    IsCode (indent ++ objectKey name ++ middle ++ ending) := by
  refine IsCode.append middle (fun rest => ?_) closes
  obtain ⟨first, others, written, starts⟩ := objectKey_eq_cons name
  have visible : first ≠ ' ' ∧ first ≠ '/' := by
    rcases starts with rfl | starts
    · decide
    · constructor <;> rintro rfl <;> exact absurd starts (by decide)
  rw [String.toList_append, List.append_assoc, indents, written, List.cons_append]
  exact isRemark_of_visible visible _

theorem isRemark_lineComment (text : String) :
    isRemark (trimEndChars ("//" ++ text).toList) = true := by
  rw [String.toList_append, show "//".toList = ['/', '/'] from rfl, List.cons_append,
    trimEndChars_cons (by decide), List.cons_append, trimEndChars_cons (by decide)]
  rfl

end SchemaArtifacts.Artifact
