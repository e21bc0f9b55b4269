import SchemaArtifacts.Text.Substitution

/-!
# Delimited text

A literal or an identifier of SQL stands between two delimiters, and a delimiter inside it is
written twice.
-/

namespace SchemaArtifacts.Escape

open SchemaArtifacts.Text

def doubled (delimiter : Char) (cs : List Char) : List Char :=
  cs.flatMap fun c => if c = delimiter then [c, c] else [c]

def delimitedChars (delimiter : Char) (cs : List Char) : List Char :=
  delimiter :: doubled delimiter cs ++ [delimiter]

def sqlString (s : String) : String := String.ofList (delimitedChars '\'' s.toList)

/-- An identifier between delimiters of any length; without a delimiter it stays bare. -/
def delimited (delimiter name : String) : String :=
  delimiter ++ replace delimiter (delimiter ++ delimiter) name ++ delimiter

theorem toList_delimited (delimiter : Char) (name : String) :
    (delimited (String.singleton delimiter) name).toList =
      delimitedChars delimiter name.toList := by
  have twice (c : Char) : (if c = delimiter then [delimiter, delimiter] else [c]) =
      if c = delimiter then [c, c] else [c] := by
    split <;> simp [*]
  simp [delimited, toList_replace_singleton, delimitedChars, doubled, twice]

end SchemaArtifacts.Escape
