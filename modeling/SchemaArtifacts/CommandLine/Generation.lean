import SchemaArtifacts.Artifact.Bundle
import SchemaArtifacts.CommandLine.Invocation
import SchemaArtifacts.CommandLine.Outcome
import SchemaArtifacts.Console.Grid
import SchemaArtifacts.Loading.Source

/-!
# Generating artifacts

An order names a source, kinds and settings.  Its artifacts are written to a directory or printed,
and then their details, warnings and failures are printed.
-/

namespace SchemaArtifacts.CommandLine

open Artifact Console Files Text

inductive OrderFault
  | noSource
  | tableMissing (name : String) (available : List String)
  | noKind
  | other (fault : Fault)
  deriving Repr

namespace OrderFault

def message? : OrderFault → Option String
  | noSource => some "Input source required (file or --url)"
  | tableMissing name available =>
    some ("Table '" ++ name ++ "' not found (available: " ++
      (if available.isEmpty then "none" else String.intercalate ", " available) ++ ")")
  | noKind => some "No artifact kind selected"
  | other fault =>
    match fault with
    | .settings _ | .registry _ | .generator _ | .load _ | .fileMissing _
    | .file (.notFound _) => some fault.message
    | _ => none

def errorLines (message : String) : List String :=
  printed ("[red]✗ Error:[/red] " ++ escape message)

/-- A fault that has a message ends the run, after the lines printed so far. -/
def outcome (tree : Tree) (before : List String) (fault : OrderFault) : Except Fault Outcome :=
  match fault, fault.message? with
  | _, some message => .ok (.failed tree (before ++ errorLines message))
  | other fault, none => .error fault
  | _, none => .ok (.failed tree before)

end OrderFault

namespace Order

def chooseTarget (order : Order) (tree : Tree) (response : Loading.Response) :
    Except OrderFault Target := do
  if order.source.file = "" && order.source.url = "" then throw .noSource
  let loaded ← (Loading.load tree response order.source.file order.source.url).mapError .other
  let schema := loaded.schema
  if order.table = "" then return .schema schema
  match schema.table? order.table with
  | some table => return .table table
  | none => throw (.tableMissing order.table (schema.tables.map (·.name)))

/-- Kinds are separated by commas; the core kinds are meant where no text is given. -/
def kinds (order : Order) : Except OrderFault (List Kind) := do
  if order.artifacts = "" then return Kind.core
  let parts := (order.artifacts.toList.splitOn ',').map fun part => trim (String.ofList part)
  match parts.filter (· ≠ "") with
  | [] => throw .noKind
  | names => names.mapM fun name => (Kind.parse builtin name).mapError .other

/-- The settings that the order lays over the others, and the dialect that they name. -/
def settingsAndDialect (order : Order) (given : Keyed Json) : Keyed Json × Json :=
  let quiet := if order.omitsComments then Keyed.put "add_comments" (.bool false) given else given
  let seeded :=
    match order.seed with
    | some seed => Keyed.put "sample_seed" (.int seed) quiet
    | none => quiet
  if order.dialect ≠ "" then (seeded, .str order.dialect)
  else
    let named := (Keyed.get? seeded "dialect").getD .null
    (Keyed.erase "dialect" seeded, if named.isSet then named else .str "postgres")

def options (order : Order) (tree : Tree) (readDate : Sample.DateReader) :
    Except OrderFault Options := do
  let given ←
    if order.settings = "" then pure []
    else (Settings.loadFile tree order.settings).mapError .other
  let (settings, dialect) := order.settingsAndDialect given
  return { kinds := ← order.kinds
           dialect
           sampleRows := (order.sampleRows.map Json.int).getD .null
           supply := { readDate }
           settings := .obj settings }

end Order

/-- Artifacts as they are written below a directory: the lines printed, the files, and the fault
that ended the writing, if any. -/
structure Written where
  output : List String := []
  tree : Tree
  fault : Option FileFault := none

namespace Written

def savedLines (kind : String) (path : Path) : List String :=
  printed ("[green]✓[/green] " ++ kind ++ " saved to [cyan]" ++ escape path.toText ++ "[/cyan]")

def add (written : Written) (path : Path) (kind content : String) : Written :=
  match written.fault, written.tree.write path content with
  | some _, _ => written
  | none, .ok tree => { written with output := written.output ++ savedLines kind path, tree }
  | none, .error fault => { written with fault := some fault }

def refusedLines (directory : Path) (fault : FileFault) : List String :=
  printed ("[red]✗ Failed to write to " ++ escape directory.toText ++ ":[/red] " ++
    escape fault.message)

end Written

def filenameOf (bundle : Bundle) (kind : String) : String :=
  (Keyed.get? bundle.filenames kind).getD ""

def writeBundle (tree : Tree) (directory : Path) (bundle : Bundle) : Written :=
  match tree.makeDirectories directory with
  | .error fault => { tree, fault := some fault }
  | .ok tree =>
    bundle.artifacts.foldl
      (fun written (kind, content) =>
        written.add (directory.below (Path.ofText (filenameOf bundle kind))) kind content)
      { tree }

def border : String := String.ofList (List.replicate 30 '═')

def artifactLines (bundle : Bundle) (kind content : String) : List String :=
  printed ("[green]" ++ border ++ " 📄 " ++ kind ++ " (" ++ escape (filenameOf bundle kind) ++
      ") " ++ border ++ "[/green]\n") ++
    listing content ++ [""]

def detailsGrid (bundle : Bundle) : Grid :=
  { title := "📊 Generation Metadata"
    frame := .simple
    columns :=
      [⟨"Artifact", .left⟩, ⟨"File", .left⟩, ⟨"MIME type", .left⟩, ⟨"Size", .right⟩]
    rows := bundle.artifacts.map fun (kind, content) =>
      [kind, escape (filenameOf bundle kind), (Keyed.get? bundle.mimeTypes kind).getD "",
       numeral content.length ++ " chars"] }

def warningsOf (bundle : Bundle) : List String :=
  ((bundle.warnings.flatMap (·.2)).mergeSort fun a b => decide (a ≤ b)).eraseDups

def warningLines (warnings : List String) : List String :=
  if warnings.isEmpty then []
  else
    printed "\n[yellow]⚠️  Warnings:[/yellow]" ++
      warnings.flatMap (fun warning => printed ("  [yellow]•[/yellow] " ++ escape warning)) ++
      [""]

def errorLines (bundle : Bundle) : List String :=
  bundle.errors.flatMap fun (kind, message) =>
    printed ("[red]✗ " ++ kind ++ " generation failed:[/red] " ++ escape message)

def reportLines (bundle : Bundle) (isVerbose : Bool) : List String :=
  (if isVerbose then "" :: (detailsGrid bundle).lines else []) ++
    warningLines (warningsOf bundle) ++ errorLines bundle

def deliver (order : Order) (tree : Tree) (bundle : Bundle) : Except Fault Outcome :=
  let code := if bundle.success then 0 else failureCode
  let report := reportLines bundle order.isVerbose
  if order.directory = "" then
    let printedLines := bundle.artifacts.flatMap fun (kind, content) =>
      artifactLines bundle kind content
    .ok { code, output := printedLines ++ report, tree }
  else
    let directory := Path.ofText order.directory
    let written := writeBundle tree directory bundle
    match written.fault with
    | none => .ok { code, output := written.output ++ report, tree := written.tree }
    | some (.nullCharacter path) => .error (.file (.nullCharacter path))
    | some fault =>
      .ok (.failed written.tree (written.output ++ Written.refusedLines directory fault))

/-- Carries out an order.  An empty line stands between reading the order and what comes of it. -/
def generate (order : Order) (tree : Tree) (response : Loading.Response)
    (readDate : Sample.DateReader) : Except Fault Outcome :=
  let request : Except OrderFault (Target × Options) := do
    return (← order.chooseTarget tree response, ← order.options tree readDate)
  match request with
  | .error fault => fault.outcome tree []
  | .ok (target, options) =>
    match bundleOf builtin tree options (some target) with
    | .error fault => (OrderFault.other fault).outcome tree [""]
    | .ok bundle => (deliver order tree bundle).map (·.after [""])

end SchemaArtifacts.CommandLine
