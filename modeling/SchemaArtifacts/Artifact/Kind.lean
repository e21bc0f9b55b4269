import SchemaArtifacts.Artifact.Generator
import SchemaArtifacts.Collection
import SchemaArtifacts.Csv.FieldList
import SchemaArtifacts.FieldGroup
import SchemaArtifacts.Interface
import SchemaArtifacts.Markdown.Reference
import SchemaArtifacts.Page
import SchemaArtifacts.Prisma.Model
import SchemaArtifacts.Sample.Document
import SchemaArtifacts.Schema.Writing
import SchemaArtifacts.Sql.Script

/-!
# Kinds of artifacts

The ten kinds of artifacts and the generator of each.  Settings are checked only as far as a kind
uses them: a dialect by the kinds that show types of SQL, a format by sample data.
-/

namespace SchemaArtifacts.Artifact

inductive Kind
  | sql
  | contentConfig
  | acfJson
  | csv
  | page
  | documentation
  | typescript
  | prisma
  | sampleData
  | schemaJson
  deriving DecidableEq, Repr

namespace Kind

def tag : Kind → String
  | sql => "sql"
  | contentConfig => "content_config"
  | acfJson => "acf_json"
  | csv => "csv"
  | page => "page"
  | documentation => "documentation"
  | typescript => "typescript"
  | prisma => "prisma"
  | sampleData => "sample_data"
  | schemaJson => "schema_json"

def all : List Kind :=
  [sql, contentConfig, acfJson, csv, page, documentation, typescript, prisma, sampleData,
   schemaJson]

def core : List Kind := [sql, contentConfig, acfJson, csv, page, documentation]

def ofTag? (tag : String) : Option Kind := all.find? (·.tag == tag)

def aliases : Kind → List String
  | sql => ["ddl"]
  | contentConfig => ["astro_config", "content", "zod"]
  | acfJson => ["acf"]
  | csv => ["csv_data"]
  | page => ["astro_page"]
  | documentation => ["docs", "md", "markdown"]
  | typescript => ["ts"]
  | prisma => []
  | sampleData => ["sample", "samples"]
  | schemaJson => ["json", "export"]

end Kind

def showsComments (settings : Settings) : Bool := settings.addComments.isSet

def sqlGenerator (settings : Settings) : Except Fault Generator := do
  let dialect ← Sql.Dialect.ofJson settings.dialect
  return { kind := Kind.sql.tag
           extension := ".sql"
           mimeType := "application/sql"
           filename := fun name => name ++ "_" ++ dialect.tag ++ ".sql"
           settings
           text := fun target => do
             let options ← Sql.Options.ofSettings settings dialect target.tables
             return Sql.scriptText options target
           layOut := endedOnce }

def contentGenerator (settings : Settings) : Except Fault Generator :=
  .ok { kind := Kind.contentConfig.tag
        extension := ".ts"
        mimeType := "text/typescript"
        filename := fun _ => "config.ts"
        settings
        text := fun target => .ok (Collection.moduleText (showsComments settings) target) }

def fieldGroupGenerator (settings : Settings) : Except Fault Generator :=
  .ok { kind := Kind.acfJson.tag
        extension := ".json"
        mimeType := "application/json"
        filename := fun name => "acf_" ++ name ++ ".json"
        settings
        text := fun target => do
          let layout ← settings.layout
          return (FieldGroup.targetJson settings.acfLocationParam target).write layout ++ "\n"
        layOut := ended
        endsLines := false }

def fieldListGenerator (settings : Settings) : Except Fault Generator := do
  let dialect ← Sql.Dialect.ofJson settings.dialect
  return { kind := Kind.csv.tag
           extension := ".csv"
           mimeType := "text/csv"
           settings
           text := fun target => do
             return Csv.fieldListText dialect (← settings.lineEndingText) target
           layOut := id
           endsLines := false }

def pageGenerator (settings : Settings) : Except Fault Generator :=
  .ok { kind := Kind.page.tag
        extension := ".astro"
        filename := fun name => name ++ "_[slug].astro"
        settings
        text := tableByTable fun table => do
          return Page.pageText (← Page.language settings) table }

def referenceGenerator (settings : Settings) : Except Fault Generator := do
  let dialect ← Sql.Dialect.ofJson settings.dialect
  return { kind := Kind.documentation.tag
           extension := ".md"
           mimeType := "text/markdown"
           settings
           text := fun target => .ok (Markdown.documentText dialect target)
           layOut := endedOnce }

def interfaceGenerator (settings : Settings) : Except Fault Generator :=
  .ok { kind := Kind.typescript.tag
        extension := ".ts"
        mimeType := "text/typescript"
        filename := fun name => name ++ ".types.ts"
        settings
        text := fun target => .ok (Interface.moduleText (showsComments settings) target) }

def modelGenerator (settings : Settings) : Except Fault Generator :=
  .ok { kind := Kind.prisma.tag
        extension := ".prisma"
        filename := fun _ => "schema.prisma"
        settings
        text := fun target => do
          let source ← Prisma.Source.ofSettings settings
          return Prisma.fileText (showsComments settings) source target }

def sampleGenerator (settings : Settings) (supply : Sample.Supply) : Except Fault Generator := do
  let format ← Sample.Format.ofSettings settings
  return { kind := Kind.sampleData.tag
           extension := format.extension
           mimeType := format.mimeType
           filename := fun name => name ++ "_sample" ++ format.extension
           settings
           text := fun target => do
             Sample.targetText format settings (← supply.source settings) supply.readDate target
           layOut := id
           endsLines := false }

def exportJson : Target → Json
  | .table table => table.toJson
  | .schema schema => schema.toJson

def exportGenerator (settings : Settings) : Except Fault Generator :=
  .ok { kind := Kind.schemaJson.tag
        extension := ".json"
        mimeType := "application/json"
        filename := fun name => name ++ ".schema.json"
        settings
        text := fun target => .ok ((exportJson target).write (.indented "  ") ++ "\n")
        layOut := id
        endsLines := false }

def refusedSource : Fault := .wrongType "unexpected argument 'uuid_factory'"

/-- The generator of a kind; only sample data takes a source of identifiers. -/
def Kind.generator (kind : Kind) (settings : Settings) (supply : Sample.Supply) :
    Except Fault Generator :=
  if kind ≠ sampleData && supply.source?.isSome then .error refusedSource
  else
    match kind with
    | sql => sqlGenerator settings
    | contentConfig => contentGenerator settings
    | acfJson => fieldGroupGenerator settings
    | csv => fieldListGenerator settings
    | page => pageGenerator settings
    | documentation => referenceGenerator settings
    | typescript => interfaceGenerator settings
    | prisma => modelGenerator settings
    | sampleData => sampleGenerator settings supply
    | schemaJson => exportGenerator settings

end SchemaArtifacts.Artifact
