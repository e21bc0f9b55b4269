import SchemaArtifacts.Text.Trim

/-!
# Text on one line

Text in a line comment, a heading or a list item must not end the line.  A run of blank characters
that holds a line break becomes one space; every other run stays as it is.
-/

namespace SchemaArtifacts.Escape

open SchemaArtifacts.Text

def isLineBreak (c : Char) : Bool := c == '\n' || c == '\r'

def collapseRun (run : List Char) : List Char :=
  if run.any isLineBreak then [' '] else run

def collapseBreaks (cs : List Char) : List Char :=
  match cs with
  | [] => []
  | c :: rest =>
    if isBlank c then
      collapseRun (c :: rest.takeWhile isBlank) ++ collapseBreaks (rest.dropWhile isBlank)
    else c :: collapseBreaks rest
termination_by cs.length
decreasing_by
  · have shorter : (rest.dropWhile isBlank).Sublist rest := List.dropWhile_sublist isBlank
    have := shorter.length_le
    simp
    omega
  · simp

def singleLineChars (cs : List Char) : List Char := trimChars (collapseBreaks cs)

def singleLine (s : String) : String := String.ofList (singleLineChars s.toList)

def guardCommentEnd : List Char → List Char
  | [] => []
  | '*' :: '/' :: rest => '*' :: '\\' :: '/' :: guardCommentEnd rest
  | c :: rest => c :: guardCommentEnd rest

def blockComment (s : String) : String :=
  String.ofList (guardCommentEnd (singleLineChars s.toList))

theorem isBlank_of_isLineBreak {c : Char} (h : isLineBreak c = true) : isBlank c = true := by
  simp only [isLineBreak, Bool.or_eq_true, beq_iff_eq] at h
  rcases h with rfl | rfl <;> decide

theorem not_mem_collapseRun {run : List Char} {c : Char} (h : isLineBreak c = true) :
    c ∉ collapseRun run := by
  unfold collapseRun
  split
  · intro mem
    rw [List.mem_singleton] at mem
    subst mem
    exact absurd h (by decide)
  · rename_i none
    exact fun mem => none (List.any_eq_true.2 ⟨c, mem, h⟩)

end SchemaArtifacts.Escape
