import SchemaArtifacts.Fault
import SchemaArtifacts.Notice
import SchemaArtifacts.Schema.Basic
import SchemaArtifacts.Time.Date

/-!
# Sample rows

A row holds a value for each field of a table: the example value of the field, or else a
placeholder for its type and the number of the row.  Rows are built by any source of identifiers
that can be drawn from, with any way to read the moments among the example values.
-/

namespace SchemaArtifacts.Sample

open Text Time

abbrev Row := Keyed Json

/-- The placeholder of a field in a row; rows count from one.  Identifiers are not among the
placeholders, since they are drawn. -/
def placeholder (table : Table) (field : Field) (row : Nat) : Except Fault Json :=
  let numbered := Json.str (field.name ++ " " ++ numeral row)
  match field.type with
  | .int => .ok (.int row)
  | .float => .ok (.float (Binary64.ofRatio false (row * 21) 2))
  | .bool => .ok (.bool (row % 2 = 1))
  | .datetime =>
    let moment := Moment.base.addDays (row - 1)
    if moment.date.isValid then .ok (.str moment.text)
    else .error (.tooLarge "date value out of range")
  | .enum =>
    match field.enumValues[(row - 1) % field.enumValues.length]? with
    | some value => .ok (.str value)
    | none => .ok numbered
  | .relation => .ok (.str (numeral row))
  | .image =>
    .ok (.str ("https://example.com/images/" ++ table.name ++ "-" ++ numeral row ++ ".jpg"))
  | .json => .ok (.str ("\x7b\"id\": " ++ numeral row ++ "\x7d"))
  | _ => .ok numbered

/-- How the moments among example values are read. -/
abbrev DateReader := String → Option Moment

/-- No text is read as a moment. -/
def unread : DateReader := fun _ => none

def uniformText (readDate : DateReader) (s : String) : String :=
  ((readDate s).map Moment.text).getD s

def exampleText (readDate : DateReader) (field : Field) : String :=
  if field.type = .datetime then uniformText readDate field.exampleValue else field.exampleValue

variable {σ : Type}

/-- What draws from a source and may fail. -/
abbrev Drawing (σ α : Type) := StateT σ (Except Fault) α

def fieldValue (draw : StateM σ String) (readDate : DateReader) (table : Table) (row : Nat)
    (field : Field) : Drawing σ Json :=
  if field.exampleValue != "" then pure (.str (exampleText readDate field))
  else if field.type = .uuid then Json.str <$> modifyGet draw.run
  else placeholder table field row

/-- Fields that share a name share an entry: the first place and the last value. -/
def row (draw : StateM σ String) (readDate : DateReader) (table : Table) (number : Nat) :
    Drawing σ Row := do
  let entries ← table.fields.mapM fun field => do
    return (field.name, ← fieldValue draw readDate table number field)
  return Keyed.ofPairs entries

def rowsReading (draw : StateM σ String) (readDate : DateReader) (table : Table) (count : Nat) :
    Drawing σ (List Row) :=
  (List.range count).mapM fun index => row draw readDate table (index + 1)

def tableRows (draw : StateM σ String) (readDate : DateReader) (tables : List Table)
    (count : Nat) : Drawing σ (List (Table × List Row)) :=
  tables.mapM fun table => do return (table, ← rowsReading draw readDate table count)

def rowCount : Json → Except Fault Nat
  | .int count => .ok count.toNat
  | .bool value => .ok (if value then 1 else 0)
  | .float value =>
    if value.isNegative then .ok 0
    else .error (.wrongType "'float' object cannot be interpreted as an integer")
  | value =>
    .error (.wrongType ("'<' not supported between instances of '" ++ value.kindName ++
      "' and 'int'"))

def rowCountNotices : Json → List Notice
  | .int count => if count < 0 then [.negativeRowCount count] else []
  | .float value => if value.isNegative then [.negativeRowCount value.truncated] else []
  | _ => []

end SchemaArtifacts.Sample
