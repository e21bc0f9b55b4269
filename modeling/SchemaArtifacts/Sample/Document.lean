import SchemaArtifacts.Csv.Record
import SchemaArtifacts.Decimal.Fixed
import SchemaArtifacts.Json.Writer
import SchemaArtifacts.Random.Seed
import SchemaArtifacts.Random.Uuid
import SchemaArtifacts.Sample.Row
import SchemaArtifacts.Settings.Check

/-!
# Sample data

Sample rows are written as records or as JSON.  The records of a schema are one block for each
table, with a line break between two blocks; as JSON its rows stand under the names of the tables.
-/

namespace SchemaArtifacts.Sample

open SchemaArtifacts.Random Text

inductive Format
  | records
  | json
  deriving DecidableEq, Repr

namespace Format

def ofSettings (settings : Settings) : Except Fault Format := do
  let given ← settings.outputFormat
  match given with
  | .str "csv" => return records
  | .str "json" => return json
  | other => throw (.generator (.unsupportedFormat other))

def extension : Format → String
  | records => ".csv"
  | json => ".json"

def mimeType : Format → String
  | records => "text/csv"
  | json => "application/json"

end Format

/-- The text of a cell: nothing for null, two places for numbers with a fraction. -/
def cellText : Json → String
  | .null => ""
  | .bool value => if value then "true" else "false"
  | .float value => value.fixedText 2
  | value => value.plainText

def names (table : Table) : List String := table.fields.map (·.name)

def valueOf (row : Row) (name : String) : Json := (Keyed.get? row name).getD .null

def records (table : Table) (rows : List Row) : List (List String) :=
  names table :: rows.map fun row => (names table).map fun name => cellText (valueOf row name)

def recordsText (ending : String) (table : Table) (rows : List Row) : String :=
  Csv.write ending (records table rows)

def rowsJson (rows : List Row) : Json := .arr (rows.map Json.obj)

def projected (table : Table) (row : Row) : Row :=
  Keyed.ofPairs ((names table).map fun name => (name, valueOf row name))

def jsonText (settings : Settings) (value : Json) : Except Fault String := do
  return value.write (← settings.layout) ++ "\n"

/-- What a generator may draw identifiers from, and how it reads moments. -/
structure Supply where
  source? : Option UuidSource := none
  /-- The seed where neither a source nor the settings give one. -/
  entropy : Nat := 0
  readDate : DateReader := unread

def Supply.source (supply : Supply) (settings : Settings) : Except Fault UuidSource :=
  match supply.source? with
  | some source => .ok source
  | none => do return .ofSeed ((← Seed.ofJson settings.sampleSeed).getD supply.entropy)

def tableText (format : Format) (settings : Settings) (source : UuidSource)
    (readDate : DateReader) (table : Table) : Except Fault String := do
  let count ← rowCount settings.sampleRows
  let (found, _) ← (rowsReading UuidSource.draw readDate table count).run source
  match format with
  | .json => jsonText settings (rowsJson found)
  | .records => return recordsText (← settings.lineEndingText) table found

/-- The line break between the blocks of tables; where there are none, only a text can join. -/
def joiningBreak (settings : Settings) : Except Fault String :=
  match settings.lineEnding with
  | .str ending => .ok ending
  | value =>
    .error (.absentMember ("'" ++ value.kindName ++ "' object has no attribute 'join'"))

def schemaText (format : Format) (settings : Settings) (source : UuidSource)
    (readDate : DateReader) (schema : Schema) : Except Fault String := do
  let count ← if schema.tables.isEmpty then pure 0 else rowCount settings.sampleRows
  let (found, _) ← (tableRows UuidSource.draw readDate schema.tables count).run source
  match format with
  | .json =>
    jsonText settings
      (.obj (Keyed.ofPairs (found.map fun (table, rows) => (table.name, rowsJson rows))))
  | .records => do
    let ending ←
      if schema.tables.isEmpty then joiningBreak settings else settings.lineEndingText
    return String.intercalate ending
      (found.map fun (table, rows) => recordsText ending table rows)

def targetText (format : Format) (settings : Settings) (source : UuidSource)
    (readDate : DateReader) : Target → Except Fault String
  | .table table => tableText format settings source readDate table
  | .schema schema => schemaText format settings source readDate schema

def asRow : Json → Except Fault Row
  | .obj entries => .ok entries
  | value => .error (.absentMember ("'" ++ value.kindName ++ "' object has no attribute 'get'"))

/-- The rows that a value holds; a table without fields does not look into them. -/
def asRows (table : Table) (value : Json) : Except Fault (List Row) :=
  match value.items? with
  | none => .error (.wrongType ("'" ++ value.kindName ++ "' object is not iterable"))
  | some items => if table.fields.isEmpty then .ok (items.map fun _ => []) else items.mapM asRow

def exportText (format : Format) (settings : Settings) (table : Table) (value : Json) :
    Except Fault String := do
  let rows ← asRows table value
  match format with
  | .json => jsonText settings (rowsJson (rows.map (projected table)))
  | .records => return recordsText (← settings.lineEndingText) table rows

end SchemaArtifacts.Sample
