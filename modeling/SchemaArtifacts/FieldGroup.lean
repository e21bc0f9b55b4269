import SchemaArtifacts.Json.Basic
import SchemaArtifacts.Schema.Basic
import SchemaArtifacts.TypeMap

/-!
# Field groups

A field group describes the input form for a table.  Its keys are derived from the names of table
and fields, so importing a group again updates it.
-/

namespace SchemaArtifacts.FieldGroup

def groupKey (table : Table) : String := "group_" ++ table.name

def fieldKey (table : Table) (field : Field) : String := "field_" ++ table.name ++ "_" ++ field.name

def fieldType (field : Field) : String :=
  if field.acfType = "" then TypeTarget.acf.typeName field.type else field.acfType

def choices (field : Field) : Json :=
  .obj (Keyed.ofPairs (field.enumValues.map fun value => (value, .str value)))

def fieldEntries (table : Table) (field : Field) : List (String × Json) :=
  [("key", .str (fieldKey table field)),
   ("label", .str field.label),
   ("name", .str field.name),
   ("type", .str (fieldType field)),
   ("instructions", .str field.notes),
   ("required", .int (if field.required then 1 else 0)),
   ("conditional_logic", .int 0),
   ("wrapper", .obj [("width", .str ""), ("class", .str ""), ("id", .str "")]),
   ("default_value", .str field.exampleValue),
   ("placeholder", .str field.exampleValue),
   ("prepend", .str ""),
   ("append", .str ""),
   ("maxlength", if field.type = .string then .int 255 else .str "")] ++
    (if field.enumValues.isEmpty then [] else [("choices", choices field)]) ++
    (field.foreignKey.map fun key => ("post_type", Json.arr [.str key.table])).toList

def fieldJson (table : Table) (field : Field) : Json := .obj (fieldEntries table field)

/-- Where the form is shown: where the parameter equals the name of the table. -/
def location (parameter : Json) (table : Table) : Json :=
  .arr [.arr [.obj [("param", parameter), ("operator", .str "=="), ("value", .str table.name)]]]

def groupJson (parameter : Json) (table : Table) : Json :=
  .obj
    [("key", .str (groupKey table)),
     ("title", .str (if table.description = "" then table.name else table.description)),
     ("fields", .arr (table.fields.map (fieldJson table))),
     ("location", location parameter table),
     ("menu_order", .int 0),
     ("position", .str "normal"),
     ("style", .str "default"),
     ("label_placement", .str "top"),
     ("instruction_placement", .str "label"),
     ("hide_on_screen", .str ""),
     ("active", .bool true),
     ("description", .str table.notes)]

def targetJson (parameter : Json) : Target → Json
  | .table table => groupJson parameter table
  | .schema schema => .arr (schema.tables.map (groupJson parameter))

end SchemaArtifacts.FieldGroup
