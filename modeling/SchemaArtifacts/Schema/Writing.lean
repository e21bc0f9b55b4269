import SchemaArtifacts.Fault
import SchemaArtifacts.Schema.Reading

/-!
# Writing schemas

The project file format: every attribute of every field, in a fixed order, foreign keys in their
parenthesised form.
-/

namespace SchemaArtifacts

def textOrNull (value : Option String) : Json := (value.map Json.str).getD .null

namespace Field

def toJson (field : Field) : Json :=
  .obj
    [("name", .str field.name),
     ("type_general", .str field.type.tag),
     ("type_sql", .str field.sqlType),
     ("default_sql", textOrNull field.sqlDefault),
     ("required", .bool field.required),
     ("unique", .bool field.unique),
     ("primary_key", .bool field.primaryKey),
     ("foreign_key", textOrNull (field.foreignKey.map ForeignKey.call)),
     ("relation_cardinality", textOrNull (field.cardinality.map Cardinality.tag)),
     ("enum_values", .arr (field.enumValues.map .str)),
     ("description", .str field.description),
     ("example_value", .str field.exampleValue),
     ("category", .str field.category),
     ("notes", .str field.notes),
     ("slug_compatible", .bool field.slugCompatible),
     ("acf_field_type", .str field.acfType),
     ("ui_component", .str field.uiComponent),
     ("supabase_policy", textOrNull field.rowPolicy),
     ("index", textOrNull (field.index.map IndexKind.tag))]

end Field

namespace Table

def toJson (table : Table) : Json :=
  .obj
    [("id", .str table.id),
     ("name", .str table.name),
     ("description", .str table.description),
     ("category", .str table.category),
     ("notes", .str table.notes),
     ("fields", .arr (table.fields.map Field.toJson))]

end Table

namespace Schema

def toJson (schema : Schema) : Json :=
  .obj
    [("name", .str schema.name),
     ("description", .str schema.description),
     ("version", .str schema.version),
     ("tables", .arr (schema.tables.map Table.toJson))]

/-- The text of a schema, with as many spaces for each level as the indentation says. -/
def toText (schema : Schema) (indent : Json) : Except Fault String := do
  return schema.toJson.write (← layoutOf indent)

def ofText (s : String) : Except Json.Fault Schema := (Json.read s).map ofJson

def fileText (schema : Schema) : String := schema.toJson.write (.indented "  ") ++ "\n"

end Schema

end SchemaArtifacts
