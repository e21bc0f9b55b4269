import SchemaArtifacts.Text.CharSet

/-!
# Lines

A text is cut at line feeds into one line more than it has line feeds, and joining the lines with
line feeds gives the text back.
-/

namespace SchemaArtifacts.Text

def lineChars (cs : List Char) : List (List Char) := cs.splitOn '\n'

def lines (s : String) : List String := (lineChars s.toList).map String.ofList

def joinLines (parts : List String) : String := String.intercalate "\n" parts

def dropFinalBreaks (s : String) : String :=
  String.ofList (s.toList.reverse.dropWhile (· == '\n')).reverse

def dropOuterBreaks (s : String) : String :=
  String.ofList ((s.toList.dropWhile (· == '\n')).reverse.dropWhile (· == '\n')).reverse

def withLineEnding (ending : String) (s : String) : String :=
  String.ofList (s.toList.flatMap fun c => if c = '\n' then ending.toList else [c])

@[simp] theorem toList_withLineEnding (ending s : String) :
    (withLineEnding ending s).toList =
      s.toList.flatMap fun c => if c = '\n' then ending.toList else [c] := by
  simp [withLineEnding]

theorem withLineEnding_lineFeed (s : String) : withLineEnding "\n" s = s := by
  apply String.ext
  rw [toList_withLineEnding]
  induction s.toList with
  | nil => rfl
  | cons c rest ih =>
    by_cases h : c = '\n'
    · subst h
      simpa using ih
    · simpa [h] using ih

def universalBreaks : List Char → List Char
  | [] => []
  | '\r' :: '\n' :: rest => '\n' :: universalBreaks rest
  | '\r' :: rest => '\n' :: universalBreaks rest
  | c :: rest => c :: universalBreaks rest

def withUniversalBreaks (s : String) : String := String.ofList (universalBreaks s.toList)

end SchemaArtifacts.Text
