import SchemaArtifacts.Artifact.Maker
import SchemaArtifacts.CommandLine.Outcome
import SchemaArtifacts.Console.Grid
import SchemaArtifacts.Console.Print

/-!
# Catalogue of kinds

The kinds of artifacts as a table, and one of them in detail.
-/

namespace SchemaArtifacts.CommandLine

open Artifact Console Files

def catalogueRow (info : Makers.Info) : List String :=
  ["🔧 " ++ info.name, info.extension, info.mimeType,
   if info.aliases.isEmpty then "[dim]none[/dim]" else String.intercalate ", " info.aliases]

def catalogueGrid (infos : List Makers.Info) : Grid :=
  { title := "📋 Supported Artifacts"
    frame := .rounded
    columns := [⟨"Artifact", .left⟩, ⟨"Extension", .left⟩, ⟨"MIME type", .left⟩, ⟨"Aliases", .left⟩]
    rows := infos.map catalogueRow }

def quickStart : String :=
  Text.joinLines
    ["[bold]Usage:[/bold] schema-forge generate [dim]schema.json[/dim] " ++
       "--artifacts [cyan]sql,docs[/cyan]",
     "[bold]Info:[/bold] schema-forge --artifact-info [cyan]ARTIFACT[/cyan]"]

def catalogue (makers : Makers) (tree : Tree) : Except Fault Outcome := do
  let infos ← makers.kinds.mapM (makers.info tree)
  return { code := 0
           output := [""] ++ (catalogueGrid infos).lines ++ [""] ++
             panel "💡 Quick Start" quickStart
           tree }

def kindText (info : Makers.Info) : String :=
  Text.joinLines
    (["[bold]Artifact:[/bold] " ++ info.name,
      "[bold]File Extension:[/bold] " ++ info.extension,
      "[bold]MIME type:[/bold] " ++ info.mimeType,
      "[bold]Generator Class:[/bold] " ++ info.className,
      "[bold]Module:[/bold] " ++ info.moduleName] ++
      if info.aliases.isEmpty then []
      else ["[bold]Aliases:[/bold] " ++ String.intercalate ", " info.aliases])

def kindDetails (makers : Makers) (tree : Tree) (name : String) : Except Fault Outcome := do
  if makers.isSupported name then
    let info ← makers.info tree name
    return { code := 0
             output := "" :: panel ("🔧 " ++ info.name ++ " generator") (kindText info)
             tree }
  else
    return .failed tree
      (printed ("[red]✗ Artifact '" ++ escape name ++ "' is not supported[/red]") ++
        printed "[dim]Use --list-artifacts to see available options[/dim]")

end SchemaArtifacts.CommandLine
