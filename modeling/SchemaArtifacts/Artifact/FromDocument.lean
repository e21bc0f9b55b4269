import SchemaArtifacts.Artifact.Maker
import SchemaArtifacts.Schema.Reading
import SchemaArtifacts.Text.Substitution

/-!
# Artifacts of documents

One artifact straight from a document: a single table where it has fields and no tables, a schema
otherwise, or one table of it.
-/

namespace SchemaArtifacts.Artifact

open Files Text

/-- Whether a key, an item or a part of a text is `word`; other values hold nothing. -/
def mentions (value : Json) (word : String) : Except Fault Bool :=
  match value with
  | .obj entries => .ok (Keyed.has entries word)
  | .arr items => .ok (items.any fun item => item.str? == some word)
  | .str s => .ok (contains s word)
  | value =>
    .error (.wrongType ("argument of type '" ++ value.kindName ++ "' is not iterable"))

def isSingleTable (document : Json) : Except Fault Bool := do
  if ← mentions document "fields" then return !(← mentions document "tables") else return false

/-- The target that a document means; `pick` chooses a table of a schema, if it is set. -/
def targetOf (document pick : Json) : Except Fault Target := do
  if ← isSingleTable document then return .table (Table.ofJson document 1)
  let schema := Schema.ofJson document
  if !pick.isSet then return .schema schema
  match pick.str?.bind schema.table? with
  | some table => return .table table
  | none => throw (.generator (.tableMissing pick.plainText))

def ofDocument (makers : Makers) (tree : Tree) (readDate : Sample.DateReader) (document : Json)
    (name : String) (given : Given) (pick : Json) : Except Fault Result := do
  let target ← targetOf document pick
  let supply : Sample.Supply :=
    if (← makers.resolve name) = Kind.sampleData.tag then { readDate } else {}
  (← makers.create tree name given supply).artifact target

def textOfDocument (makers : Makers) (tree : Tree) (readDate : Sample.DateReader)
    (document : Json) (name : String) (options : Keyed Json) : Except Fault String := do
  let document ←
    match document with
    | .str s => (Json.read s).mapError Fault.json
    | value => pure value
  match ← ofDocument makers tree readDate document name (.entries options) .null with
  | .made content _ _ => return content
  | .failed message _ => throw (.generator (.failed message))

end SchemaArtifacts.Artifact
