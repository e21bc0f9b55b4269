import SchemaArtifacts.Json.Writer
import SchemaArtifacts.Notice
import SchemaArtifacts.Schema.Vocabulary
import SchemaArtifacts.Text.LetterCase
import SchemaArtifacts.Text.Trim

/-!
# Coercion

Documents come from elsewhere and hold values of any shape.  Each reading below takes every value
and answers with the nearest meaning.
-/

namespace SchemaArtifacts.Coercion

open Text

def text : Json → String
  | .null => ""
  | .str value => value
  | .bool value => if value then "true" else "false"
  | .int value => signedNumeral value
  | .float value => value.shortestText
  | value => value.write .line

def trimmedText (value : Json) : String := trim (text value)

def optionalText (value : Json) : Option String :=
  let found := trimmedText value
  if found = "" then none else some found

def affirmations : List String := ["true", "1", "yes", "y", "on"]

def flag : Json → Bool
  | .bool value => value
  | .int value => value != 0
  | .float value => !value.isZero
  | .str value => affirmations.contains (lower (trim value))
  | _ => false

def textList : Json → List String
  | .str value =>
    ((value.toList.splitOn ',').map fun part => trim (String.ofList part)).filter (· != "")
  | .arr items => (items.filter (!·.isNull)).map text
  | _ => []

def fieldType? : Json → Option FieldType
  | .str value => FieldType.all.find? fun type => type.tag == lower (trim value)
  | _ => none

/-- The member of a vocabulary whose tag a text holds, both in lower case. -/
def tagged? {α : Type} (tag : α → String) (members : List α) : Json → Option α
  | .str value => members.find? fun member => lower (tag member) == lower (trim value)
  | _ => none

def taggedNotices {α : Type} (vocabulary : String) (tag : α → String) (members : List α) :
    Json → List Notice
  | .str value =>
    if isBlankText value || (tagged? tag members (.str value)).isSome then []
    else [.unknownTag vocabulary value]
  | _ => []

def cardinality? : Json → Option Cardinality := tagged? Cardinality.tag Cardinality.all

def cardinalityNotices : Json → List Notice :=
  taggedNotices "Cardinality" Cardinality.tag Cardinality.all

def indexKind? : Json → Option IndexKind := tagged? IndexKind.tag IndexKind.all

def indexKindNotices : Json → List Notice :=
  taggedNotices "IndexKind" IndexKind.tag IndexKind.all

def fieldTypeTag? : Json → Option FieldType := tagged? FieldType.tag FieldType.all

def fieldTypeTagNotices : Json → List Notice :=
  taggedNotices "FieldType" FieldType.tag FieldType.all

end SchemaArtifacts.Coercion
