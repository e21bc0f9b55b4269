import SchemaArtifacts.Text.Lines
import SchemaArtifacts.Text.Trim

/-!
# Tidy text

Generated text is tidied before it is handed out: lines do not end in blanks, of several blank lines
in a row one stays, and the text ends in one line feed, with no blank line at either end.
-/

namespace SchemaArtifacts.Artifact

open Text

def mergeEmptyLines : List (List Char) → List (List Char)
  | [] => []
  | [line] => [line]
  | line :: next :: rest =>
    if line.isEmpty && next.isEmpty then mergeEmptyLines (next :: rest)
    else line :: mergeEmptyLines (next :: rest)

def tidyLines (cs : List Char) : List (List Char) :=
  mergeEmptyLines ((lineChars cs).map trimEndChars)

def tidied (code : String) : String :=
  dropOuterBreaks (joinLines ((tidyLines code.toList).map String.ofList)) ++ "\n"

def endedOnce (code : String) : String := dropFinalBreaks code ++ "\n"

def ended (code : String) : String :=
  if code.toList.getLast? = some '\n' then code else code ++ "\n"

/-- Texts of parts, each without line feeds at its end, with a blank line between each two. -/
def joined (parts : List String) : String :=
  if parts.isEmpty then ""
  else String.intercalate "\n\n" (parts.map dropFinalBreaks) ++ "\n"

end SchemaArtifacts.Artifact
