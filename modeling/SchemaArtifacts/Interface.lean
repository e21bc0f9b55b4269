import SchemaArtifacts.Collection

/-!
# Interfaces

A module that exports one interface for each table.  Closed sets become unions of literals, and a
member is optional unless its field is required or a primary key.
-/

namespace SchemaArtifacts.Interface

open Escape Naming

def memberType (field : Field) : String :=
  if field.hasEnumValues then String.intercalate " | " (field.enumValues.map scriptLiteral)
  else TypeTarget.typescript.typeName field.type

structure Member where
  key : String
  type : String
  optional_ : Bool
  comment : String
  deriving DecidableEq, Repr

structure Definition where
  name : String
  description : String
  members : List Member
  deriving DecidableEq, Repr

def member (comments : Bool) (field : Field) : Member :=
  { key := objectKey field.name
    type := memberType field
    optional_ := !field.required && !field.primaryKey
    comment := if comments then field.description else "" }

def definition (comments : Bool) (table : Table) (identifier : String) : Definition :=
  { name := identifier
    description := if comments then table.description else ""
    members := table.fields.map (member comments) }

def definitions (comments : Bool) : List Table → Register → List Definition
  | [], _ => []
  | table :: rest, register =>
    let (identifier, register) := register.issue { name := table.name, style := .pascal }
    definition comments table identifier :: definitions comments rest register

def commentLine (text : String) : String := "/** " ++ blockComment text ++ " */"

def Member.lines (entry : Member) : List String :=
  (if entry.comment = "" then [] else ["  " ++ commentLine entry.comment]) ++
    ["  " ++ entry.key ++ (if entry.optional_ then "?" else "") ++ ": " ++ entry.type ++ ";"]

def Definition.lines (entry : Definition) : List String :=
  [""] ++
    (if entry.description = "" then [] else [commentLine entry.description]) ++
    ["export interface " ++ entry.name ++ " \x7b"] ++ entry.members.flatMap Member.lines ++ ["\x7d"]

def moduleLines (title : String) (entries : List Definition) : List String :=
  ("// Generated TypeScript types" ++ (if title = "" then "" else " for " ++ singleLine title)) ::
    entries.flatMap Definition.lines

def moduleText (comments : Bool) (target : Target) : String :=
  Collection.endedLines
    (moduleLines target.name (definitions comments target.tables Register.forScripts))

end SchemaArtifacts.Interface
