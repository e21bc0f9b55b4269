import SchemaArtifacts.Notice
import SchemaArtifacts.Schema.Basic
import SchemaArtifacts.Text.Substitution

/-!
# Relation suggestions

Names of fields hint at relations that a schema does not declare: a field `user_id` refers to a
table `users` or `user`, and a table of a key and two such fields links two others.  Suggestions
come in the order of tables and fields, those that add a foreign key before those that only link.
-/

namespace SchemaArtifacts.Relation

open Text

inductive Confidence
  | high
  | medium
  deriving DecidableEq, Repr

def Confidence.tag : Confidence → String
  | high => "high"
  | medium => "medium"

structure Suggestion where
  fromTable : String
  fromField : String
  toTable : String
  toField : String
  cardinality : Cardinality
  confidence : Confidence
  reason : String
  deriving DecidableEq, Repr

namespace Suggestion

def foreignKey (suggestion : Suggestion) : ForeignKey :=
  ⟨suggestion.toTable, suggestion.toField⟩

def link (suggestion : Suggestion) : String × String × String :=
  (suggestion.fromTable, suggestion.fromField, suggestion.toTable)

end Suggestion

def keyEnding : String := "_id"

def stem? (name : String) : Option String :=
  if hasEnd name keyEnding then
    some (String.ofList (name.toList.take (name.toList.length - keyEnding.toList.length)))
  else none

def ownerFields : List String := ["user_id", "author_id", "owner_id"]

def userTables : List String := ["users", "user"]

def isKeyType (type : FieldType) : Bool := type = .uuid || type = .int || type = .relation

def findTable? (schema : Schema) (names : List String) : Option Nat :=
  names.findSome? schema.tableIndex?

def findByStem? (schema : Schema) (stem : String) : Option Nat :=
  findTable? schema [stem ++ "s", stem]

def reference? (schema : Schema) (field : Field) (stem : String) : Option (Nat × String) :=
  let owner :=
    if ownerFields.contains field.name then
      (findTable? schema userTables).map fun index =>
        (index, "Standard owner relation to the users table")
    else none
  let named :=
    if isKeyType field.type then
      (findByStem? schema stem).map fun index =>
        (index, "Field \"" ++ field.name ++ "\" looks like a reference to this table")
    else none
  owner.or named

def fieldSuggestion? (schema : Schema) (position : Nat) (table : Table) (field : Field) :
    Option Suggestion := do
  if field.foreignKey.isSome || field.primaryKey then none
  let stem ← stem? field.name
  let (index, reason) ← reference? schema field stem
  if index = position then none
  let target ← schema.tables[index]?
  let key ← target.primaryKey?
  return { fromTable := table.name
           fromField := field.name
           toTable := target.name
           toField := key.name
           cardinality := .oneToMany
           confidence := .high
           reason }

def namingSuggestions (schema : Schema) : List Suggestion :=
  schema.tables.zipIdx.flatMap fun (table, position) =>
    table.fields.filterMap (fieldSuggestion? schema position table)

def isLinkField (field : Field) : Bool := (stem? field.name).isSome && !field.primaryKey

def linkedTable? (schema : Schema) (field : Field) : Option Nat :=
  match field.foreignKey with
  | some key => schema.tableIndex? key.table
  | none => (stem? field.name).bind (findByStem? schema)

def keyName (table : Table) : String :=
  match table.primaryKey? with
  | some key => if key.name = "" then ForeignKey.defaultColumn else key.name
  | none => ForeignKey.defaultColumn

def junctionSuggestion? (schema : Schema) (table : Table) : Option Suggestion := do
  if table.fields.length ≠ 3 then none
  match table.fields.filter isLinkField with
  | [first, second] =>
    let leftIndex ← linkedTable? schema first
    let rightIndex ← linkedTable? schema second
    if leftIndex = rightIndex then none
    let left ← schema.tables[leftIndex]?
    let right ← schema.tables[rightIndex]?
    return { fromTable := left.name
             fromField := keyName left
             toTable := right.name
             toField := keyName right
             cardinality := .manyToMany
             confidence := .medium
             reason := "Junction table \"" ++ table.name ++ "\" detected" }
  | _ => none

def junctionSuggestions (schema : Schema) : List Suggestion :=
  schema.tables.filterMap (junctionSuggestion? schema)

def distinct : List (String × String × String) → List Suggestion → List Suggestion
  | _, [] => []
  | seen, suggestion :: rest =>
    if seen.contains suggestion.link then distinct seen rest
    else suggestion :: distinct (suggestion.link :: seen) rest

def allSuggestions (schema : Schema) : List Suggestion :=
  distinct [] (namingSuggestions schema ++ junctionSuggestions schema)

def defaultLimit : Int := 6

/-- The first suggestions; a limit below zero leaves out as many at the end. -/
def suggestions (schema : Schema) (limit : Int) : List Suggestion :=
  let found := allSuggestions schema
  if 0 ≤ limit then found.take limit.toNat else found.take (found.length - (-limit).toNat)

def applyToField (suggestion : Suggestion) (field : Field) : Field :=
  { field with
    foreignKey := some suggestion.foreignKey
    cardinality := some suggestion.cardinality }

/-- Where the field of a suggestion is: the positions of its table and of the field. -/
def place? (schema : Schema) (suggestion : Suggestion) : Option (Nat × Nat) := do
  let tableIndex ← schema.tableIndex? suggestion.fromTable
  let table ← schema.tables[tableIndex]?
  let fieldIndex ← table.fields.findIdx? (·.name == suggestion.fromField)
  return (tableIndex, fieldIndex)

def apply (schema : Schema) (suggestion : Suggestion) : Schema :=
  if suggestion.cardinality = .manyToMany then schema
  else
    match place? schema suggestion with
    | none => schema
    | some (tableIndex, fieldIndex) =>
      let change (table : Table) : Table :=
        { table with fields := table.fields.modify fieldIndex (applyToField suggestion) }
      { schema with tables := schema.tables.modify tableIndex change }

def applyNotices (schema : Schema) (suggestion : Suggestion) : List Notice :=
  if suggestion.cardinality ≠ .manyToMany && (place? schema suggestion).isNone then
    [.suggestionNotApplicable suggestion.fromTable suggestion.fromField]
  else []

end SchemaArtifacts.Relation
