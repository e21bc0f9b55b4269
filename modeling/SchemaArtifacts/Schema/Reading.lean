import SchemaArtifacts.Schema.Basic
import SchemaArtifacts.Schema.Coercion

/-!
# Reading schemas

Every value reads as a schema, a table or a field.  `ofJson` gives what was understood, `notices`
what was passed over, in the order of the document.
-/

namespace SchemaArtifacts

open Coercion Text

def asObject : Json → Json
  | .obj entries => .obj entries
  | _ => .obj []

def isObject : Json → Bool
  | .obj _ => true
  | _ => false

namespace Field

def placeholderName (position : Int) : String := "field_" ++ signedNumeral position

def nameOf (data : Json) (position : Int) : String :=
  let name := trimmedText ((asObject data).member "name")
  if name = "" then placeholderName position else name

def ofJson (value : Json) (position : Int) : Field :=
  let data := asObject value
  let component := text (data.member "ui_component")
  { name := nameOf data position
    type := (fieldType? (data.member "type_general")).getD .string
    sqlType := trimmedText (data.member "type_sql")
    sqlDefault := optionalText (data.member "default_sql")
    required := flag (data.member "required")
    unique := flag (data.member "unique")
    primaryKey := flag (data.member "primary_key")
    foreignKey := ForeignKey.ofJson? (data.member "foreign_key")
    cardinality := cardinality? (data.member "relation_cardinality")
    enumValues := textList (data.member "enum_values")
    description := text (data.member "description")
    exampleValue := text (data.member "example_value")
    category := text (data.member "category")
    notes := text (data.member "notes")
    slugCompatible := flag (data.member "slug_compatible")
    acfType := trimmedText (data.member "acf_field_type")
    uiComponent := if component = "" then "input" else component
    rowPolicy := optionalText (data.member "supabase_policy")
    index := indexKind? (data.member "index") }

def typeNotices (value : Json) (name : String) : List Notice :=
  match value with
  | .null => []
  | .str "" => []
  | _ => if (fieldType? value).isSome then [] else [.unknownType value name]

def notices (value : Json) (position : Int) : List Notice :=
  let data := asObject value
  (if isObject value then [] else [.fieldNotObject position]) ++
    (if trimmedText (data.member "name") = "" then
      [.fieldUnnamed position (placeholderName position)]
    else []) ++
    typeNotices (data.member "type_general") (nameOf data position) ++
    ForeignKey.notices (data.member "foreign_key") ++
    cardinalityNotices (data.member "relation_cardinality") ++
    indexKindNotices (data.member "index")

end Field

def numbered {α β : Type} (read : α → Int → β) (items : List α) : List β :=
  items.zipIdx.map fun (item, index) => read item (index + 1)

namespace Table

def placeholderName (position : Int) : String := "table_" ++ signedNumeral position

def nameOf (data : Json) (position : Int) : String :=
  let name := trimmedText ((asObject data).member "name")
  if name = "" then placeholderName position else name

def fieldItems (data : Json) : List Json :=
  match data.member "fields" with
  | .arr items => items
  | _ => []

def ofJson (value : Json) (position : Int) : Table :=
  let data := asObject value
  settled
    { name := nameOf data position
      fields := numbered Field.ofJson (fieldItems data)
      id := trimmedText (data.member "id")
      description := text (data.member "description")
      category := text (data.member "category")
      notes := text (data.member "notes") }

def notices (value : Json) (position : Int) : List Notice :=
  let data := asObject value
  (if isObject value then [] else [.tableNotObject position]) ++
    (if trimmedText (data.member "name") = "" then
      [.tableUnnamed position (placeholderName position)]
    else []) ++
    (match data.member "fields" with
      | .null => []
      | .arr _ => []
      | _ => [.fieldsNotList (nameOf data position)]) ++
    (numbered Field.notices (fieldItems data)).flatten

end Table

namespace Schema

def tableItems (data : Json) : List Json :=
  match data.member "tables" with
  | .arr items => items
  | _ => []

def orDefault (found fallback : String) : String := if found = "" then fallback else found

def ofJson (value : Json) : Schema :=
  let data := asObject value
  { name := orDefault (trimmedText (data.member "name")) "schema"
    tables := numbered Table.ofJson (tableItems data)
    description := text (data.member "description")
    version := orDefault (trimmedText (data.member "version")) "1.0.0" }

def notices (value : Json) : List Notice :=
  let data := asObject value
  (if isObject value then [] else [.schemaNotObject]) ++
    (match data.member "tables" with
      | .null => []
      | .arr _ => []
      | _ => [.tablesNotList]) ++
    (numbered Table.notices (tableItems data)).flatten

end Schema

end SchemaArtifacts
