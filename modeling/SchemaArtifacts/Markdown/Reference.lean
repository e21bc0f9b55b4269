import SchemaArtifacts.Escape.Line
import SchemaArtifacts.Escape.Markdown
import SchemaArtifacts.Markdown.Block
import SchemaArtifacts.Sql.Script
import SchemaArtifacts.Text.Numeral

/-!
# Reference documents

The reference of a table has its statistics and fields, and sections on enums, relations and
examples where there are any.  The reference of a schema has an overview, a table of contents and
the reference of each table.
-/

namespace SchemaArtifacts.Markdown

open Escape Text

structure Statistics where
  total : Nat
  required : Nat
  unique : Nat
  relations : Nat
  enums : Nat
  deriving DecidableEq, Repr

def statistics (table : Table) : Statistics :=
  { total := table.fields.length
    required := table.fields.countP (·.required)
    unique := table.fields.countP (·.unique)
    relations := table.fields.countP (·.type = .relation)
    enums := table.fields.countP (·.type = .enum) }

def constraints (field : Field) : List String :=
  (if field.primaryKey then ["Primary key"] else []) ++
    (if field.required then ["Required"] else []) ++
    (if field.unique then ["Unique"] else []) ++
    (field.foreignKey.map fun key => "FK: " ++ key.dotted).toList ++
    (field.index.map fun kind => "Index (" ++ kind.tag ++ ")").toList

def enumFields (table : Table) : List Field := table.fields.filter (·.type = .enum)

def relationFields (table : Table) : List (Field × ForeignKey) :=
  table.fields.filterMap fun field => field.foreignKey.map fun key => (field, key)

def exampleFields (table : Table) : List Field := table.fields.filter (·.exampleValue != "")

def code (s : String) : String := "\x60" ++ s ++ "\x60"

/-- The type of a cell stands between backticks, so a backtick in it becomes a quote. -/
def typeCell (dialect : Sql.Dialect) (field : Field) : String :=
  String.ofList ((cellChars (Sql.columnType dialect field).toList).map fun c =>
    if c = '\x60' then '\'' else c)

def fieldHeader : List String := ["Name", "Type", "SQL", "Description", "Constraints"]

def fieldRow (dialect : Sql.Dialect) (field : Field) : List String :=
  [markdownCell field.name,
   field.type.tag,
   code (typeCell dialect field),
   markdownCell field.description,
   markdownCell (String.intercalate ", " (constraints field))]

def statisticsItems (found : Statistics) : List String :=
  ["**Fields**: " ++ numeral found.total,
   "**Required**: " ++ numeral found.required,
   "**Unique**: " ++ numeral found.unique,
   "**Relations**: " ++ numeral found.relations,
   "**Enums**: " ++ numeral found.enums]

def enumBlocks (level : Nat) (field : Field) : List Block :=
  [.heading (level + 2) (singleLine field.name),
   if field.enumValues.isEmpty then .passage "_No values defined._"
   else .bullets (field.enumValues.map fun value => code (singleLine value))]

def relationBlocks (level : Nat) (relation : Field × ForeignKey) : List Block :=
  [.heading (level + 2) (singleLine relation.1.name),
   .bullets
     ["**Target**: " ++ code relation.2.dotted,
      "**Cardinality**: " ++ (relation.1.cardinality.map Cardinality.tag).getD "unspecified"]]

def exampleItem (field : Field) : String :=
  "**" ++ singleLine field.name ++ "**: " ++ singleLine field.exampleValue

def headed (level : Nat) (title : String) (blocks : List Block) : List Block :=
  if blocks.isEmpty then [] else .heading (level + 1) title :: blocks

def passageOf (text : String) : List Block := if text = "" then [] else [.passage text]

def tableBlocks (dialect : Sql.Dialect) (level : Nat) (title : String) (table : Table) :
    List Block :=
  [.heading level (singleLine title)] ++
    passageOf table.description ++
    headed level "Notes" (passageOf table.notes) ++
    headed level "Statistics" [.bullets (statisticsItems (statistics table))] ++
    headed level "Fields"
      (if table.fields.isEmpty then []
      else [.grid fieldHeader (table.fields.map (fieldRow dialect))]) ++
    headed level "Enums" ((enumFields table).flatMap (enumBlocks level)) ++
    headed level "Relations" ((relationFields table).flatMap (relationBlocks level)) ++
    headed level "Example values"
      (if (exampleFields table).isEmpty then []
      else [.bullets ((exampleFields table).map exampleItem)])

def defaultTitle (table : Table) : String := "Documentation: " ++ table.name

def sectionTitle (table : Table) : String :=
  if table.name = "" then defaultTitle table else table.name

def overviewItems (schema : Schema) : List String :=
  ["**Version**: " ++ singleLine schema.version,
   "**Tables**: " ++ numeral schema.tables.length,
   "**Fields**: " ++ numeral schema.fieldCount]

def contentsItem (table : Table) : String :=
  "[" ++ singleLine table.name ++ "](#" ++ markdownAnchor table.name ++ ") (" ++
    numeral table.fields.length ++ " fields)"

def schemaBlocks (dialect : Sql.Dialect) (schema : Schema) : List Block :=
  [.heading 1 (singleLine schema.name)] ++
    passageOf schema.description ++
    headed 1 "Overview" [.bullets (overviewItems schema)] ++
    headed 1 "Tables"
      (if schema.tables.isEmpty then [] else [.bullets (schema.tables.map contentsItem)]) ++
    schema.tables.flatMap fun table => tableBlocks dialect 2 (sectionTitle table) table

def blocks (dialect : Sql.Dialect) : Target → List Block
  | .table table => tableBlocks dialect 1 (defaultTitle table) table
  | .schema schema => schemaBlocks dialect schema

def documentText (dialect : Sql.Dialect) (target : Target) : String :=
  render (blocks dialect target) ++ "\n"

end SchemaArtifacts.Markdown
