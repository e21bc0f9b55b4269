import SchemaArtifacts.CommandLine.Outcome
import SchemaArtifacts.Console.Outline
import SchemaArtifacts.Console.Grid
import SchemaArtifacts.Relation.Suggestion
import SchemaArtifacts.Schema.Basic

/-!
# Inspecting a schema

A schema is shown as an outline of its tables and fields with some statistics, or the relations
that its names suggest are shown.
-/

namespace SchemaArtifacts.CommandLine

open Console Text

def fieldFlags (field : Field) : List String :=
  (if field.primaryKey then ["PK"] else []) ++ (if field.required then ["required"] else []) ++
    (if field.unique then ["unique"] else []) ++
    match field.foreignKey with
    | some key => ["→ " ++ key.dotted]
    | none => []

def fieldLabel (field : Field) : String :=
  let flags := fieldFlags field
  escape field.name ++ ": [green]" ++ field.type.tag ++ "[/green]" ++
    if flags.isEmpty then ""
    else " [dim](" ++ escape (String.intercalate ", " flags) ++ ")[/dim]"

def tableOutline (table : Table) : Outline :=
  .node ("[bold cyan]" ++ escape table.name ++ "[/bold cyan]")
    (table.fields.map fun field => .node (fieldLabel field) [])

def schemaOutline (schema : Schema) : Outline :=
  .node ("🗂  [bold]" ++ escape schema.name ++ "[/bold] [dim]v" ++ escape schema.version ++ "[/dim]")
    (schema.tables.map tableOutline)

def schemaStatistics (schema : Schema) : Grid :=
  let count (p : Field → Bool) : String := numeral (schema.fields.countP p)
  { title := "📊 Schema Statistics"
    frame := .simple
    columns := [⟨"Metric", .left⟩, ⟨"Value", .right⟩]
    rows :=
      [["Tables", numeral schema.tables.length],
       ["Fields", numeral schema.fieldCount],
       ["Required", count (·.required)],
       ["Unique", count (·.unique)],
       ["Foreign keys", count (·.foreignKey.isSome)],
       ["Enums", count (·.type == .enum)]] }

def outlineLines (schema : Schema) : List String :=
  "" :: (schemaOutline schema).lines ++ "" :: (schemaStatistics schema).lines

def suggestionRow (suggestion : Relation.Suggestion) : List String :=
  [escape (suggestion.fromTable ++ "." ++ suggestion.fromField),
   escape (suggestion.toTable ++ "." ++ suggestion.toField),
   suggestion.cardinality.tag, suggestion.confidence.tag, escape suggestion.reason]

def suggestionGrid (suggestions : List Relation.Suggestion) : Grid :=
  { title := "💡 Suggested Relations"
    frame := .rounded
    columns :=
      [⟨"From", .left⟩, ⟨"To", .left⟩, ⟨"Type", .center⟩, ⟨"Confidence", .left⟩, ⟨"Reason", .left⟩]
    rows := suggestions.map suggestionRow }

def relationLines (schema : Schema) : List String :=
  match Relation.suggestions schema Relation.defaultLimit with
  | [] => printed "[yellow]No relation suggestions.[/yellow]"
  | suggestions => "" :: (suggestionGrid suggestions).lines

/-- What an inspection prints and reports, and the code with which it ends. -/
structure Inspection where
  output : List String
  notices : List Notice := []
  code : Except Fault Nat := .ok 0

def loadedLines (source : String) : List String := printed ("📄 Loaded: " ++ escape source)

def sourceText (source : Json) : Except Fault String :=
  match source with
  | .str text => .ok text
  | source =>
    if source.isSet then
      .error (.wrongType ("expected string or bytes-like object, got '" ++ source.kindName ++ "'"))
    else .ok ""

/-- Carries out a command on a schema.  The source and the command are any values that arguments
can have; only the commands `info` and `relations` are known, and they need a whole schema. -/
def inspect (target? : Option Target) (source command : Json) : Inspection :=
  match target?, sourceText source with
  | none, _ =>
    { output := printed "❌ [red]No schema loaded[/red]"
      notices := [.noSchemaLoaded]
      code := .ok failureCode }
  | some _, .error fault => { output := [], code := .error fault }
  | some target, .ok source =>
    let loaded := loadedLines source
    let show? : Option (Schema → List String) :=
      if command.str? = some "info" then some outlineLines
      else if command.str? = some "relations" then some relationLines
      else none
    match show?, target with
    | some lines, .schema schema => { output := loaded ++ lines schema }
    | some _, .table _ => { output := loaded, code := .error (.absentMember "not a schema") }
    | none, _ =>
      let name := command.plainText
      { output := loaded ++ printed ("❌ [red]Unknown command: " ++ escape name ++ "[/red]")
        notices := [.unknownCommand name]
        code := .ok failureCode }

end SchemaArtifacts.CommandLine
