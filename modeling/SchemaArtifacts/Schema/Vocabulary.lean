/-!
# Vocabularies of a schema

Field types, relation cardinalities and index kinds are closed lists; a tag is the text that stands
for a member in documents.
-/

namespace SchemaArtifacts

/-- The general, format-independent types of a field. -/
inductive FieldType
  | string
  | text
  | int
  | float
  | bool
  | datetime
  | enum
  | relation
  | image
  | uuid
  | json
  deriving DecidableEq, Repr, Inhabited

namespace FieldType

def tag : FieldType → String
  | string => "string"
  | text => "text"
  | int => "int"
  | float => "float"
  | bool => "bool"
  | datetime => "datetime"
  | enum => "enum"
  | relation => "relation"
  | image => "image"
  | uuid => "uuid"
  | json => "json"

def all : List FieldType :=
  [string, text, int, float, bool, datetime, enum, relation, image, uuid, json]

end FieldType

inductive Cardinality
  | oneToOne
  | oneToMany
  | manyToMany
  deriving DecidableEq, Repr

namespace Cardinality

def tag : Cardinality → String
  | oneToOne => "1-1"
  | oneToMany => "1-N"
  | manyToMany => "N-N"

def all : List Cardinality := [oneToOne, oneToMany, manyToMany]

end Cardinality

/-- Access methods that a field can ask of its index. -/
inductive IndexKind
  | btree
  | gin
  | gist
  deriving DecidableEq, Repr

namespace IndexKind

def tag : IndexKind → String
  | btree => "BTree"
  | gin => "GIN"
  | gist => "GIST"

def all : List IndexKind := [btree, gin, gist]

end IndexKind

end SchemaArtifacts
