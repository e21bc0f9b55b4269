import SchemaArtifacts.Json.Inspect

/-!
# Notices

Input that is not as expected is read as well as it can be, and a notice says what was passed over.
Each cause is a constructor; `message` holds the wording.
-/

namespace SchemaArtifacts

open Text

inductive Notice
  | schemaNotObject
  | tablesNotList
  | tableNotObject (position : Int)
  | tableUnnamed (position : Int) (name : String)
  | fieldsNotList (table : String)
  | fieldNotObject (position : Int)
  | fieldUnnamed (position : Int) (name : String)
  | unknownType (value : Json) (field : String)
  | unknownTag (vocabulary value : String)
  | unreadableForeignKey (value : String)
  | unknownTarget (target : Json) (generic : String)
  | unmappedType (type : Json) (target fallback : String)
  | negativeRowCount (count : Int)
  | referenceCycle (table : String)
  | suggestionNotApplicable (table field : String)
  | fileNotNamedJson (path : String)
  | responseNotTypedJson (url contentType : String)
  | noSchemaLoaded
  | unknownCommand (command : String)
  deriving Repr

namespace Notice

def message : Notice → String
  | schemaNotObject => "Schema document is not an object; using defaults"
  | tablesNotList => "Schema has a non-list 'tables' value; ignoring"
  | tableNotObject position =>
    "Table #" ++ signedNumeral position ++ " is not an object; using defaults"
  | tableUnnamed position name =>
    "Table #" ++ signedNumeral position ++ " has no name; using " ++ quoted name
  | fieldsNotList table => "Table " ++ quoted table ++ " has a non-list 'fields' value; ignoring"
  | fieldNotObject position =>
    "Field #" ++ signedNumeral position ++ " is not an object; using defaults"
  | fieldUnnamed position name =>
    "Field #" ++ signedNumeral position ++ " has no name; using " ++ quoted name
  | unknownType value field =>
    "Unknown type_general " ++ value.inspect ++ " for field " ++ quoted field ++ "; using 'string'"
  | unknownTag vocabulary value => "Ignoring unknown " ++ vocabulary ++ " value: " ++ quoted value
  | unreadableForeignKey value =>
    "Ignoring unparseable foreign key reference: " ++ quoted value
  | unknownTarget target generic =>
    "No type mapping for target " ++ target.inspect ++ "; using " ++ quoted generic
  | unmappedType type target fallback =>
    "Unmapped type " ++ type.inspect ++ " for target " ++ quoted target ++ "; using " ++
      quoted fallback
  | negativeRowCount count =>
    "Negative sample row count " ++ signedNumeral count ++ "; generating none"
  | referenceCycle table =>
    "Foreign-key cycle involving table " ++ quoted table ++ "; keeping schema order"
  | suggestionNotApplicable table field =>
    "Cannot apply suggestion: " ++ table ++ "." ++ field ++ " not found"
  | fileNotNamedJson path => "File does not have .json extension: " ++ path
  | responseNotTypedJson url contentType =>
    "URL " ++ url ++ " does not have JSON content type: " ++ contentType
  | noSchemaLoaded => "No schema loaded; aborting CLI run"
  | unknownCommand command => "Unknown command: " ++ command

end Notice

end SchemaArtifacts
