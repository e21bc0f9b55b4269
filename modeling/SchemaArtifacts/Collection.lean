import SchemaArtifacts.Escape.Line
import SchemaArtifacts.Escape.Script
import SchemaArtifacts.Naming.Register
import SchemaArtifacts.Schema.Basic
import SchemaArtifacts.TypeMap

/-!
# Content collections

A module that defines one content collection for each table, with a validation expression for each
field, and exports the collections under the names of the tables.
-/

namespace SchemaArtifacts.Collection

open Escape Naming

def endedLines (lines : List String) : String := String.join (lines.map (· ++ "\n"))

def enumExpression (values : List String) : String :=
  "z.enum([" ++ String.intercalate ", " (values.map scriptLiteral) ++ "])"

def validation (field : Field) : String :=
  (if field.hasEnumValues then enumExpression field.enumValues
    else TypeTarget.validation.typeName field.type) ++
    (if field.required then "" else ".optional()")

/-- A member of a collection: its key and its validation expression. -/
structure Member where
  key : String
  expression : String
  deriving DecidableEq, Repr

structure Definition where
  key : String
  variable_ : String
  description : String
  members : List Member
  deriving DecidableEq, Repr

def definition (comments : Bool) (table : Table) (identifier : String) : Definition :=
  { key := objectKey table.name
    variable_ := identifier ++ "Collection"
    description := if comments then table.description else ""
    members := table.fields.map fun field => ⟨objectKey field.name, validation field⟩ }

def definitions (comments : Bool) : List Table → Register → List Definition
  | [], _ => []
  | table :: rest, register =>
    let (identifier, register) := register.issue { name := table.name, style := .camel }
    definition comments table identifier :: definitions comments rest register

def Definition.lines (entry : Definition) : List String :=
  [""] ++
    (if entry.description = "" then [] else ["// " ++ singleLine entry.description]) ++
    ["const " ++ entry.variable_ ++ " = defineCollection(\x7b",
     "  type: 'content',",
     "  schema: z.object(\x7b"] ++
    entry.members.map (fun member => "    " ++ member.key ++ ": " ++ member.expression ++ ",") ++
    ["  \x7d),", "\x7d);"]

def moduleLines (title : String) (entries : List Definition) : List String :=
  ["// Content collection configuration", "// File: src/content/config.ts"] ++
    (if title = "" then [] else ["// " ++ singleLine title]) ++
    ["", "import \x7b defineCollection, z \x7d from 'astro:content';"] ++
    entries.flatMap Definition.lines ++
    ["", "export const collections = \x7b"] ++
    entries.map (fun entry => "  " ++ entry.key ++ ": " ++ entry.variable_ ++ ",") ++
    ["\x7d;"]

def title : Target → String
  | .table _ => ""
  | .schema schema => schema.name

def moduleText (comments : Bool) (target : Target) : String :=
  endedLines (moduleLines (title target) (definitions comments target.tables Register.forScripts))

end SchemaArtifacts.Collection
