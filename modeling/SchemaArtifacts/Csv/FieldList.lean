import SchemaArtifacts.Csv.Record
import SchemaArtifacts.Sql.Script

/-!
# Field lists

A field list describes a schema, one record for each field.  For a whole schema the name of the
table stands before each field.
-/

namespace SchemaArtifacts.Csv

def headers : List String :=
  ["Field name", "General type", "SQL type", "Required", "Unique", "Primary key", "Foreign key",
   "Description", "Example", "Category", "Notes"]

def yesNo (value : Bool) : String := if value then "Yes" else "No"

/-- The cells of a field; a type that is not given is the one of the field. -/
def fieldCells (field : Field) (sqlType : String) : List String :=
  [field.name,
   field.type.tag,
   if sqlType = "" then field.sqlType else sqlType,
   yesNo field.required,
   yesNo field.unique,
   yesNo field.primaryKey,
   (field.foreignKey.map ForeignKey.dotted).getD "",
   field.description,
   field.exampleValue,
   field.category,
   field.notes]

def fieldRecord (dialect : Sql.Dialect) (field : Field) : List String :=
  fieldCells field (Sql.columnType dialect field)

def tableRecords (dialect : Sql.Dialect) (table : Table) : List (List String) :=
  headers :: table.fields.map (fieldRecord dialect)

def schemaRecords (dialect : Sql.Dialect) (schema : Schema) : List (List String) :=
  ("Table" :: headers) ::
    schema.tables.flatMap fun table =>
      table.fields.map fun field => table.name :: fieldRecord dialect field

def records (dialect : Sql.Dialect) : Target → List (List String)
  | .table table => tableRecords dialect table
  | .schema schema => schemaRecords dialect schema

def fieldListText (dialect : Sql.Dialect) (ending : String) (target : Target) : String :=
  write ending (records dialect target)

end SchemaArtifacts.Csv
