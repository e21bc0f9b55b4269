import SchemaArtifacts.Artifact.Check
import SchemaArtifacts.Artifact.Tidy
import SchemaArtifacts.Settings.Basic

/-!
# Generators

A generator makes one kind of artifact: a text, how it is laid out, and the name and type of the
file for it.  A template that cannot be rendered gives a failed result, any other fault stops the
generation.
-/

namespace SchemaArtifacts.Artifact

open Text

structure Generator where
  kind : String
  extension : String
  mimeType : String := "text/plain"
  filename : String → String := fun name => name ++ extension
  settings : Settings
  text : Target → Except Fault String
  /-- The layout of the text, before line endings. -/
  layOut : String → String := tidied
  /-- Whether the text is written with the line ending of the settings. -/
  endsLines : Bool := true

namespace Generator

def withLineEnding (generator : Generator) (code : String) : Except Fault String := do
  return Text.withLineEnding (← generator.settings.lineEndingText) code

def format (generator : Generator) (code : String) : Except Fault String :=
  if generator.endsLines then generator.withLineEnding (generator.layOut code)
  else .ok (generator.layOut code)

end Generator

def tableByTable (tableText : Table → Except Fault String) : Target → Except Fault String
  | .table table => tableText table
  | .schema schema => (schema.tables.mapM tableText).map joined

inductive Scope
  | table
  | schema
  deriving DecidableEq, Repr

def Scope.name : Scope → String
  | table => "table"
  | schema => "schema"

/-- What is known about an artifact besides its text. -/
structure Details where
  artifact : String := ""
  extension : String := ""
  mimeType : String := "text/plain"
  filename : String := ""
  scope : Scope := .schema
  tableCount : Nat := 0
  fieldCount : Nat := 0
  deriving DecidableEq, Repr

inductive Result
  | made (content : String) (warnings : List String) (details : Details)
  | failed (message : String) (warnings : List String)
  deriving DecidableEq, Repr

def scopeOf : Target → Scope
  | .table _ => .table
  | .schema _ => .schema

namespace Generator

def details (generator : Generator) (target : Target) : Details :=
  { artifact := generator.kind
    extension := generator.extension
    mimeType := generator.mimeType
    filename := generator.filename target.name
    scope := scopeOf target
    tableCount := target.tables.length
    fieldCount := (target.tables.flatMap (·.fields)).length }

def content (generator : Generator) (target : Target) : Except Fault String := do
  generator.format (← generator.text target)

def artifact (generator : Generator) (target : Target) : Except Fault Result :=
  match generator.content target with
  | .ok content => .ok (.made content (targetWarnings target) (generator.details target))
  | .error (.template name detail) =>
    .ok (.failed ("Artifact generation failed: " ++ (Fault.template name detail).message) [])
  | .error fault => .error fault

end Generator

end SchemaArtifacts.Artifact
