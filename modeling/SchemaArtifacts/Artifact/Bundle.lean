import SchemaArtifacts.Artifact.Maker

/-!
# Bundles

A bundle holds the artifacts of several kinds made from one target.  Each kind is generated for
itself, with the settings that the options give it, so an artifact does not depend on the other
kinds that are chosen.
-/

namespace SchemaArtifacts.Artifact

open Files

structure Bundle where
  artifacts : Keyed String := []
  filenames : Keyed String := []
  mimeTypes : Keyed String := []
  warnings : Keyed (List String) := []
  errors : Keyed String := []
  deriving DecidableEq, Repr

namespace Bundle

def success (bundle : Bundle) : Bool := bundle.errors.isEmpty

def has (bundle : Bundle) (tag : String) : Bool := Keyed.has bundle.artifacts tag

def get? (bundle : Bundle) (tag : String) : Option String := Keyed.get? bundle.artifacts tag

def add (bundle : Bundle) (kind : Kind) : Result → Bundle
  | .failed message warnings =>
    { bundle with
      warnings := Keyed.put kind.tag warnings bundle.warnings
      errors :=
        Keyed.put kind.tag (if message = "" then "generation failed" else message)
          bundle.errors }
  | .made content warnings details =>
    { bundle with
      warnings := Keyed.put kind.tag warnings bundle.warnings
      artifacts := Keyed.put kind.tag content bundle.artifacts
      filenames := Keyed.put kind.tag details.filename bundle.filenames
      mimeTypes := Keyed.put kind.tag details.mimeType bundle.mimeTypes }

end Bundle

structure Options where
  kinds : List Kind := Kind.core
  dialect : Json := .str "postgres"
  sampleRows : Json := .null
  supply : Sample.Supply := {}
  settings : Json := .obj []

/-- The kind that a name means; a kind registered from elsewhere is none of these. -/
def Kind.parse (makers : Makers) (name : String) : Except Fault Kind := do
  let tag ← makers.resolve name
  match Kind.ofTag? tag with
  | some kind => return kind
  | none => throw (.badValue (Text.quoted tag ++ " is not a valid ArtifactKind"))

namespace Options

def overrides (options : Options) : Except Fault (Keyed Json) := do
  let given ← Settings.entriesOf options.settings
  let withDialect := Keyed.put "dialect" options.dialect given
  return if options.sampleRows.isNull then withDialect
    else Keyed.put "sample_rows" options.sampleRows withDialect

def settingsFor (options : Options) (tree : Tree) (kind : Kind) : Except Fault Settings := do
  Settings.load tree kind.tag (.obj (← options.overrides)) ""

def supplyFor (options : Options) (kind : Kind) : Sample.Supply :=
  if kind = .sampleData then options.supply else {}

def generatorFor (options : Options) (makers : Makers) (tree : Tree) (kind : Kind) :
    Except Fault Generator := do
  let settings ← options.settingsFor tree kind
  makers.create tree kind.tag (.settings settings) (options.supplyFor kind)

def artifactFor (options : Options) (makers : Makers) (tree : Tree) (target : Target)
    (kind : Kind) : Except Fault Result := do
  (← options.generatorFor makers tree kind).artifact target

end Options

/-- The artifacts of the chosen kinds, each kind once, in the order in which they are first
named. -/
def bundleOf (makers : Makers) (tree : Tree) (options : Options) (target? : Option Target) :
    Except Fault Bundle :=
  match target? with
  | none => .error (.generator .noTarget)
  | some target =>
    if options.kinds.isEmpty then .error (.generator .noKind)
    else
      options.kinds.eraseDups.foldlM
        (fun bundle kind => do
          return bundle.add kind (← options.artifactFor makers tree target kind)) {}

end SchemaArtifacts.Artifact
