import SchemaArtifacts.Text.Substitution

/-!
# Literals and keys of generated modules

Generated modules hold text in single-quoted literals and name object members by bare identifiers
where they can, by literals where they must.
-/

namespace SchemaArtifacts.Escape

open SchemaArtifacts.Text

/-- Backslashes, single quotes and line breaks are the characters a literal cannot hold. -/
def scriptChar (c : Char) : List Char :=
  if c = '\\' then ['\\', '\\']
  else if c = '\'' then ['\\', '\'']
  else if c = '\n' then ['\\', 'n']
  else if c = '\r' then ['\\', 'r']
  else [c]

def scriptLiteralChars (cs : List Char) : List Char :=
  '\'' :: cs.flatMap scriptChar ++ ['\'']

def scriptLiteral (s : String) : String := String.ofList (scriptLiteralChars s.toList)

def startsIdentifier (c : Char) : Bool :=
  ('A' ≤ c && c ≤ 'Z') || ('a' ≤ c && c ≤ 'z') || c == '_' || c == '$'

def continuesIdentifier (c : Char) : Bool :=
  startsIdentifier c || ('0' ≤ c && c ≤ '9')

def isBareKey : List Char → Bool
  | [] => false
  | c :: rest =>
    startsIdentifier c &&
      match rest.dropWhile continuesIdentifier with
      | [] => true
      | ending => ending == ['\n']

def objectKey (name : String) : String :=
  if isBareKey name.toList then name else scriptLiteral name

def entryExpression (name : String) : String :=
  if isBareKey name.toList then "\x7bentry.data." ++ name ++ "\x7d"
  else "\x7bentry.data[" ++ scriptLiteral name ++ "]\x7d"

end SchemaArtifacts.Escape
