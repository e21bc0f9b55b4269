import SchemaArtifacts.Artifact.Kind
import SchemaArtifacts.Artifact.Registry
import SchemaArtifacts.Settings.Storage

/-!
# Makers

A maker makes the generator of a kind from settings.  The built-in registry holds the makers of
all kinds of artifacts; others can be registered beside them.
-/

namespace SchemaArtifacts.Artifact

open Files

structure Maker where
  className : String
  moduleName : String
  /-- The kind whose defaults its settings start from. -/
  defaults : String
  make : Settings → Sample.Supply → Except Fault Generator

namespace Kind

def className : Kind → String
  | sql => "SQLGenerator"
  | contentConfig => "ContentConfigGenerator"
  | acfJson => "ACFGenerator"
  | csv => "CSVGenerator"
  | page => "PageGenerator"
  | documentation => "DocumentationGenerator"
  | typescript => "TypeScriptGenerator"
  | prisma => "PrismaGenerator"
  | sampleData => "SampleDataGenerator"
  | schemaJson => "SchemaJSONGenerator"

def modulePath : Kind → String
  | sql => "sql.generator"
  | contentConfig => "content.generator"
  | acfJson => "acf.generator"
  | csv => "csv.generator"
  | page => "page.generator"
  | documentation => "docs.generator"
  | typescript => "typescript.generator"
  | prisma => "prisma.generator"
  | sampleData => "csv.sample_data"
  | schemaJson => "schema_json.generator"

def maker (kind : Kind) : Maker :=
  { className := kind.className
    moduleName := "schema_forge.codegen.artifacts." ++ kind.modulePath
    defaults := kind.tag
    make := kind.generator }

end Kind

abbrev Makers := Registry Maker

def builtin : Makers :=
  Kind.all.foldl
    (fun registry kind => (registry.register kind.tag (some kind.maker) kind.aliases false).1) {}

/-- What settings can be given as: entries, the name of a file, or nothing. -/
inductive Given
  | settings (settings : Settings)
  | entries (entries : Keyed Json)
  | file (name : String)
  | nothing
  | other (kindName : String)

namespace Given

def ofJson : Json → Given
  | .obj held => .entries held
  | .str name => .file name
  | .null => .nothing
  | value => .other value.kindName

def resolve (tree : Tree) (artifact : String) : Given → Except Fault Settings
  | .settings resolved => .ok resolved
  | .entries held => Settings.load tree artifact (.obj held) ""
  | .file name => Settings.load tree artifact .null name
  | .nothing => Settings.load tree artifact .null ""
  | .other kindName => .error (.registry (.invalidSettings kindName))

end Given

/-- Settings that cannot be put together are a fault of the configuration of the kind. -/
def configurationFault (kind : String) : Fault → Fault
  | .settings cause => .registry (.notConfigured kind cause.message)
  | .wrongType detail => .registry (.notConfigured kind detail)
  | fault => fault

namespace Makers

def create (makers : Makers) (tree : Tree) (name : String) (given : Given)
    (supply : Sample.Supply) : Except Fault Generator := do
  let kind ← makers.resolve name
  let maker ← makers.valueOf name
  let settings ← (given.resolve tree kind).mapError (configurationFault kind)
  maker.make settings supply

structure Info where
  name : String
  className : String
  extension : String
  mimeType : String
  aliases : List String
  moduleName : String
  deriving DecidableEq, Repr

def info (makers : Makers) (tree : Tree) (name : String) : Except Fault Info := do
  let kind ← makers.resolve name
  let maker ← makers.valueOf name
  let generator ← makers.create tree kind .nothing {}
  return { name := generator.kind
           className := maker.className
           extension := generator.extension
           mimeType := generator.mimeType
           aliases := makers.aliasesOf kind
           moduleName := maker.moduleName }

end Makers

def Maker.direct (maker : Maker) (tree : Tree) (given : Given) (supply : Sample.Supply) :
    Except Fault Generator :=
  let refused (kindName : String) := Except.error (.generator (.invalidSettings kindName))
  match given with
  | .other kindName => refused kindName
  | .file _ => refused "str"
  | given => do maker.make (← given.resolve tree maker.defaults) supply

end SchemaArtifacts.Artifact
