import SchemaArtifacts.Json.Basic
import SchemaArtifacts.Notice
import SchemaArtifacts.Text.Trim

/-!
# Foreign keys

A reference names a table and a column.  Its written forms are `table(column)`, `table.column` and
`table` alone, which means the column `id`; names hold neither blanks nor parentheses, and a table
name holds no point.
-/

namespace SchemaArtifacts

open Text

structure ForeignKey where
  table : String
  column : String
  deriving DecidableEq, Repr

namespace ForeignKey

def defaultColumn : String := "id"

def isTableChar (c : Char) : Bool := !isBlank c && c != '(' && c != ')' && c != '.'

def isColumnChar (c : Char) : Bool := !isBlank c && c != '(' && c != ')'

def call (key : ForeignKey) : String := key.table ++ "(" ++ key.column ++ ")"

def dotted (key : ForeignKey) : String := key.table ++ "." ++ key.column

def calledColumn? (cs : List Char) : Option (List Char) :=
  let body := trimStartChars cs
  let column := body.takeWhile isColumnChar
  if column.isEmpty then none
  else if trimStartChars (body.dropWhile isColumnChar) = [')'] then some column
  else none

def ofTrimmed? (cs : List Char) : Option ForeignKey :=
  let table := cs.takeWhile isTableChar
  if table.isEmpty then none
  else
    match trimStartChars (cs.dropWhile isTableChar), cs.dropWhile isTableChar with
    | [], _ => some ⟨String.ofList table, defaultColumn⟩
    | '(' :: body, _ =>
      (calledColumn? body).map fun column => ⟨String.ofList table, String.ofList column⟩
    | _, '.' :: column =>
      if !column.isEmpty && column.all isTableChar then
        some ⟨String.ofList table, String.ofList column⟩
      else none
    | _, _ => none

def ofText? (s : String) : Option ForeignKey := ofTrimmed? (trimChars s.toList)

/-- The name held by a member of an object, if it is a text that is not blank. -/
def namedMember? (value : Json) (key : String) : Option String :=
  match value.member key with
  | .str name => if isBlankText name then none else some (trim name)
  | _ => none

def ofJson? : Json → Option ForeignKey
  | .obj entries =>
    (namedMember? (.obj entries) "table").map fun table =>
      ⟨table, (namedMember? (.obj entries) "column").getD defaultColumn⟩
  | .str s => ofText? s
  | _ => none

def notices : Json → List Notice
  | .str s =>
    if isBlankText s || (ofText? s).isSome then [] else [.unreadableForeignKey s]
  | _ => []

end ForeignKey

end SchemaArtifacts
