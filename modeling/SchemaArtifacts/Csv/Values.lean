import SchemaArtifacts.Csv.Record
import SchemaArtifacts.Fault

/-!
# Records of values

Values that can be gone through one by one are records: a list of its items, a text of its
characters, an object of its keys.
-/

namespace SchemaArtifacts.Csv

def valueCell : Json → String
  | .null => ""
  | value => value.plainText

def valueRecord (value : Json) : Except Fault (List String) :=
  match value.items? with
  | some items => .ok (items.map valueCell)
  | none => .error (.notRecord value.kindName)

def valueRecords (value : Json) : Except Fault (List (List String)) :=
  match value.items? with
  | some items => items.mapM valueRecord
  | none => .error (.wrongType ("'" ++ value.kindName ++ "' object is not iterable"))

/-- Writes the records of a value with the line ending that another value holds. -/
def writeValues (ending value : Json) : Except Fault String :=
  match ending with
  | .str ending => do return write ending (← valueRecords value)
  | other => .error (.wrongType ("\"lineterminator\" must be a string, not " ++ other.kindName))

end SchemaArtifacts.Csv
