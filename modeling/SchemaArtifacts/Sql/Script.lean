import SchemaArtifacts.Escape.Line
import SchemaArtifacts.Schema.DependencyOrder
import SchemaArtifacts.Settings.Basic
import SchemaArtifacts.Sql.Statement
import SchemaArtifacts.Text.Lines

/-!
# Scripts

A script is a list of sections, each with remarks before its statements.  The script of a schema
drops the tables, creates them in dependency order, and adds the foreign keys once every table is
there; dialects that hold foreign keys inside the table have no such section.
-/

namespace SchemaArtifacts.Sql

open Escape Text

structure Options where
  dialect : Dialect
  ifNotExists : Bool := false
  dropTables : Bool := true
  indent : String := "  "
  deriving DecidableEq, Repr

def Options.style (options : Options) : Style := ⟨options.dialect.quote?, options.indent⟩

def columnType (dialect : Dialect) (field : Field) : String :=
  if field.sqlType = "" then dialect.types.typeName field.type else field.sqlType

def column (dialect : Dialect) (field : Field) : Column :=
  { name := field.name
    type := columnType dialect field
    primaryKey := field.primaryKey
    required := field.required
    unique := field.unique
    default? := field.sqlDefault }

def tableReferences (table : Table) : List Reference :=
  table.fields.filterMap fun field => field.foreignKey.map fun key => ⟨field.name, key⟩

def createTable (options : Options) (table : Table) : Statement :=
  .createTable table.name (options.dialect.createsIfAbsent || options.ifNotExists)
    (table.fields.map (column options.dialect))
    (if options.dialect.inlinesForeignKeys then tableReferences table else [])

def columnComments (options : Options) (table : Table) : List Statement :=
  if options.dialect.commentsColumns then
    (table.fields.filter (·.description != "")).map fun field =>
      .commentOn table.name field.name field.description
  else []

def indexName (table field : String) : String := "idx_" ++ table ++ "_" ++ field

def createIndexes (options : Options) (table : Table) : List Statement :=
  table.fields.filterMap fun field =>
    field.index.map fun kind =>
      .createIndex (indexName table.name field.name) options.dialect.indexesIfAbsent table.name
        field.name (options.dialect.indexMethod kind)

def constraintName (table field : String) : String := "fk_" ++ table ++ "_" ++ field

def addReferences (options : Options) (table : Table) : List Statement :=
  if options.dialect.inlinesForeignKeys then []
  else
    (tableReferences table).map fun reference =>
      .addReference table.name (constraintName table.name reference.column) reference

def policyName (table field : String) : String := table ++ "_" ++ field ++ "_policy"

def rowSecurity (options : Options) (table : Table) : List Statement :=
  let policies := table.fields.filterMap fun field =>
    field.rowPolicy.map fun condition =>
      Statement.createPolicy (policyName table.name field.name) table.name condition
  if options.dialect.securesRows && !policies.isEmpty then
    .enableRowSecurity table.name :: policies
  else []

def dropTable (options : Options) (table : Table) : Statement :=
  .dropTable table.name options.dialect.dropsCascading

structure Section where
  remarks : List String := []
  statements : List Statement := []
  deriving DecidableEq, Repr

namespace Section

def ofStatements (remarks : List String) (statements : List Statement) : List Section :=
  if statements.isEmpty then [] else [{ remarks, statements }]

def remarkLines (part : Section) : List String := part.remarks.map ("-- " ++ ·)

def render (style : Style) (part : Section) : String :=
  joinLines (part.remarkLines ++ part.statements.map (Statement.render style))

end Section

abbrev Script := List Section

namespace Script

def statements (script : Script) : List Statement := script.flatMap (·.statements)

def render (style : Style) (script : Script) : String :=
  String.intercalate "\n\n" (script.map (Section.render style)) ++ "\n"

end Script

def tableRemarks (table : Table) : List String :=
  ("Table: " ++ singleLine table.name) ::
    (if table.description = "" then [] else ["Description: " ++ singleLine table.description])

/-- The sections of a table, with or without the statements that add foreign keys. -/
def tableSections (options : Options) (table : Table) (withReferences : Bool) : Script :=
  { remarks := tableRemarks table, statements := [createTable options table] } ::
    (Section.ofStatements [] (columnComments options table) ++
      Section.ofStatements [] (createIndexes options table) ++
      Section.ofStatements [] (if withReferences then addReferences options table else []) ++
      Section.ofStatements ["Row Level Security"] (rowSecurity options table))

def tableScript (options : Options) (table : Table) : Script := tableSections options table true

def schemaRemarks (dialect : Dialect) (schema : Schema) : List String :=
  ["Schema: " ++ singleLine schema.name, "Version: " ++ singleLine schema.version,
    "Dialect: " ++ dialect.heading] ++
    (if schema.description = "" then [] else [singleLine schema.description])

def schemaScript (options : Options) (schema : Schema) : Script :=
  let ordered := schema.dependencyOrder.tables
  { remarks := schemaRemarks options.dialect schema } ::
    (Section.ofStatements []
        (if options.dropTables then schema.tables.map (dropTable options) else []) ++
      ordered.flatMap (fun table => tableSections options table false) ++
      Section.ofStatements ["Foreign keys"] (ordered.flatMap (addReferences options)))

def script (options : Options) : Target → Script
  | .table table => tableScript options table
  | .schema schema => schemaScript options schema

def scriptText (options : Options) (target : Target) : String :=
  (script options target).render options.style

/-- Options from settings; the indent is asked for only where a table needs it. -/
def Options.ofSettings (settings : Settings) (dialect : Dialect) (tables : List Table) :
    Except Fault Options := do
  let indent ← if tables.isEmpty then pure "" else settings.indent
  return { dialect
           ifNotExists := settings.ifNotExists.isSet
           dropTables := settings.dropTables.isSet
           indent }

end SchemaArtifacts.Sql
