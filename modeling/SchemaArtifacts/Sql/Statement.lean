import SchemaArtifacts.Escape.Delimited
import SchemaArtifacts.Schema.ForeignKey
import SchemaArtifacts.Sql.Dialect

/-!
# Statements

The statements that a script is made of, and how each is written.
-/

namespace SchemaArtifacts.Sql

open Escape

structure Column where
  name : String
  type : String
  primaryKey : Bool
  required : Bool
  unique : Bool
  default? : Option String
  deriving DecidableEq, Repr

structure Reference where
  column : String
  key : ForeignKey
  deriving DecidableEq, Repr

inductive Statement
  | dropTable (table : String) (cascading : Bool)
  | createTable (table : String) (ifAbsent : Bool) (columns : List Column)
      (references : List Reference)
  | commentOn (table column text : String)
  | createIndex (name : String) (ifAbsent : Bool) (table column : String) (method : IndexMethod)
  | addReference (table name : String) (reference : Reference)
  | enableRowSecurity (table : String)
  | createPolicy (name table condition : String)
  deriving DecidableEq, Repr

/-- How identifiers are quoted and definitions indented. -/
structure Style where
  quote? : Option Char
  indent : String
  deriving DecidableEq, Repr

namespace Style

def identifier (style : Style) (name : String) : String :=
  match style.quote? with
  | some quote => delimited (String.singleton quote) name
  | none => name

end Style

def Column.constraints (column : Column) : List String :=
  if column.primaryKey then ["PRIMARY KEY"]
  else (if column.required then ["NOT NULL"] else []) ++ (if column.unique then ["UNIQUE"] else [])

def Column.render (style : Style) (column : Column) : String :=
  String.intercalate " "
    ([style.identifier column.name, column.type] ++ column.constraints ++
      (column.default?.map ("DEFAULT " ++ ·)).toList)

def Reference.render (style : Style) (reference : Reference) : String :=
  "FOREIGN KEY (" ++ style.identifier reference.column ++ ") REFERENCES " ++
    style.identifier reference.key.table ++ "(" ++ style.identifier reference.key.column ++ ")"

namespace Statement

def definitions (style : Style) (columns : List Column) (references : List Reference) :
    List String :=
  columns.map (fun column => style.indent ++ column.render style) ++
    references.map fun reference => style.indent ++ reference.render style

def ifAbsentClause (ifAbsent : Bool) : String := if ifAbsent then " IF NOT EXISTS" else ""

def render (style : Style) : Statement → String
  | dropTable table cascading =>
    "DROP TABLE IF EXISTS " ++ style.identifier table ++
      (if cascading then " CASCADE" else "") ++ ";"
  | createTable table ifAbsent columns references =>
    let body := definitions style columns references
    "CREATE TABLE" ++ ifAbsentClause ifAbsent ++ " " ++ style.identifier table ++ " (\n" ++
      (if body.isEmpty then "" else String.intercalate ",\n" body ++ "\n") ++ ");"
  | commentOn table column text =>
    "COMMENT ON COLUMN " ++ style.identifier table ++ "." ++ style.identifier column ++ " IS " ++
      sqlString text ++ ";"
  | createIndex name ifAbsent table column method =>
    "CREATE INDEX" ++ ifAbsentClause ifAbsent ++ " " ++ style.identifier name ++ " ON " ++
      style.identifier table ++
      match method with
      | .before method => " USING " ++ method ++ " (" ++ style.identifier column ++ ");"
      | .after method => " (" ++ style.identifier column ++ ") USING " ++ method ++ ";"
      | .unnamed => " (" ++ style.identifier column ++ ");"
  | addReference table name reference =>
    "ALTER TABLE " ++ style.identifier table ++ " ADD CONSTRAINT " ++ style.identifier name ++
      " " ++ reference.render style ++ ";"
  | enableRowSecurity table =>
    "ALTER TABLE " ++ style.identifier table ++ " ENABLE ROW LEVEL SECURITY;"
  | createPolicy name table condition =>
    "CREATE POLICY " ++ style.identifier name ++ " ON " ++ style.identifier table ++
      "\n  FOR ALL USING (" ++ condition ++ ");"

end Statement

end SchemaArtifacts.Sql
