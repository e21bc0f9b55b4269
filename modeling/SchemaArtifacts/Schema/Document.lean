import SchemaArtifacts.Schema.Reading

/-!
# Documents

A document holds a schema, a single table or a list of tables.  A schema without a name takes the
name that is offered.
-/

namespace SchemaArtifacts.Schema

/-- The value whose reading as a schema a document means, or the table it holds. -/
inductive Document
  | tables (value : Json)
  | single (value : Json)

namespace Document

def ofJson (value : Json) (offeredName : String) : Document :=
  match value with
  | .arr items => .tables (.obj [("name", .str offeredName), ("tables", .arr items)])
  | .obj entries =>
    if Keyed.has entries "fields" && !Keyed.has entries "tables" then .single value
    else if (value.member "name").isSet then .tables value
    else .tables (.obj (Keyed.put "name" (.str offeredName) entries))
  | _ => .tables value

def schema : Document → Schema
  | tables value => Schema.ofJson value
  | single value =>
    let table := Table.ofJson value 1
    { name := table.name, tables := [table] }

def notices : Document → List Notice
  | tables value => Schema.notices value
  | single value => Table.notices value 1

end Document

def ofDocument (value : Json) (offeredName : String) : Schema :=
  (Document.ofJson value offeredName).schema

def documentNotices (value : Json) (offeredName : String) : List Notice :=
  (Document.ofJson value offeredName).notices

end SchemaArtifacts.Schema
