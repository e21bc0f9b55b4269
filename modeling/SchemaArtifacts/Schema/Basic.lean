import SchemaArtifacts.Schema.ForeignKey
import SchemaArtifacts.Schema.Vocabulary

/-!
# Schemas

A schema is a named list of tables, a table a named list of fields.  The order of tables and fields
is the order of everything generated from them.
-/

namespace SchemaArtifacts

open Text

/-- One column of a table.  Unset optional texts are `none`, never blank. -/
structure Field where
  name : String
  type : FieldType := .string
  sqlType : String := ""
  sqlDefault : Option String := none
  required : Bool := false
  unique : Bool := false
  primaryKey : Bool := false
  foreignKey : Option ForeignKey := none
  cardinality : Option Cardinality := none
  enumValues : List String := []
  description : String := ""
  exampleValue : String := ""
  category : String := ""
  notes : String := ""
  slugCompatible : Bool := false
  acfType : String := ""
  uiComponent : String := "input"
  rowPolicy : Option String := none
  index : Option IndexKind := none
  deriving DecidableEq, Repr, Inhabited

namespace Field

def settleText (value : Option String) : Option String :=
  value.filter fun s => !isBlankText s

/-- The field with blank settings dropped and the default input component filled in. -/
def settled (field : Field) : Field :=
  { field with
    sqlDefault := settleText field.sqlDefault
    rowPolicy := settleText field.rowPolicy
    uiComponent := if field.uiComponent = "" then "input" else field.uiComponent }

def hasEnumValues (field : Field) : Bool := field.type = .enum && !field.enumValues.isEmpty

theorem enumValues_ne_nil {field : Field} (closed : field.hasEnumValues = true) :
    field.enumValues ≠ [] := by
  rintro empty
  simp [hasEnumValues, empty] at closed

def label (field : Field) : String :=
  if field.description = "" then field.name else field.description

end Field

structure Table where
  name : String
  fields : List Field := []
  id : String := ""
  description : String := ""
  category : String := ""
  notes : String := ""
  deriving DecidableEq, Repr, Inhabited

namespace Table

def settled (table : Table) : Table :=
  { table with id := if table.id = "" then table.name else table.id }

def primaryKeys (table : Table) : List Field := table.fields.filter (·.primaryKey)

def primaryKey? (table : Table) : Option Field := table.fields.find? (·.primaryKey)

end Table

structure Schema where
  name : String
  tables : List Table := []
  description : String := ""
  version : String := "1.0.0"
  deriving DecidableEq, Repr, Inhabited

namespace Schema

/-- The position of the table that a key means: a name counts before an id. -/
def tableIndex? (schema : Schema) (key : String) : Option Nat :=
  (schema.tables.findIdx? (·.name == key)).or (schema.tables.findIdx? (·.id == key))

def table? (schema : Schema) (key : String) : Option Table :=
  (schema.tables.find? (·.name == key)).or (schema.tables.find? (·.id == key))

def fields (schema : Schema) : List Field := schema.tables.flatMap (·.fields)

def fieldCount (schema : Schema) : Nat := schema.fields.length

end Schema

inductive Target
  | table (table : Table)
  | schema (schema : Schema)
  deriving DecidableEq, Repr

namespace Target

def name : Target → String
  | table target => target.name
  | schema target => target.name

def tables : Target → List Table
  | table target => [target]
  | schema target => target.tables

end Target

end SchemaArtifacts
