import SchemaArtifacts.CommandLine.Parse

/-!
# Invocations

The grammars of the program and of its three commands, and what a command line asks for.
-/

namespace SchemaArtifacts.CommandLine

def program : String := "schema-forge"

def programVersion : String := "0.1.0"

def helpFlag : Flag :=
  { names := ["-h", "--help"], role := .help, remark := "show this help message and exit" }

def urlFlag : Flag :=
  { names := [urlName], role := .text "URL", remark := "URL to fetch the schema JSON from" }

def logLevels : List String := ["DEBUG", "INFO", "WARNING", "ERROR"]

def commands : Keyed String :=
  [("generate", "Generate artifacts from a schema"),
   ("info", "Show schema tree and statistics"),
   ("relations", "Suggest relations from naming conventions")]

def mainGrammar : Grammar :=
  { program
    about := "Generate SQL, content configs, CSV, pages and docs from table schemas"
    flags :=
      [helpFlag,
       { names := ["--version"]
         role := .version (program ++ " " ++ programVersion)
         remark := "show program's version number and exit" },
       { names := ["--log-level"]
         role := .choice logLevels
         remark := "Console log level (default: WARNING)" },
       { names := ["--log-file"]
         role := .text "LOG_FILE"
         remark := "Also write DEBUG logs to this file" },
       { names := ["--list-artifacts"]
         role := .switch
         remark := "List supported artifact kinds and exit" },
       { names := ["--artifact-info"]
         role := .text "ARTIFACT"
         remark := "Show details about one artifact kind and exit" }]
    operand := .command commands }

def generateFlags : List Flag :=
  [{ names := ["--table", "-t"]
     role := .text "NAME"
     remark := "Generate for one table only" },
   { names := ["--artifacts", "-a"]
     role := .text "LIST"
     remark := "Comma-separated artifact kinds or aliases (default: the six core kinds)" },
   { names := ["--dialect", "-d"]
     role := .text "DIALECT"
     remark := "SQL dialect: postgres, sqlite or mysql (default: postgres)" },
   { names := ["--output-dir", "-o"]
     role := .text "DIR"
     remark := "Write artifacts to DIR instead of stdout" },
   { names := ["--config"], role := .text "FILE", remark := "JSON configuration file" },
   { names := ["--sample-rows"]
     role := .number "N"
     remark := "Rows of sample data to generate" },
   { names := ["--seed"]
     role := .number "N"
     remark := "Seed for reproducible sample UUIDs" },
   { names := ["--no-comments"]
     role := .switch
     remark := "Omit comments from generated output" },
   { names := ["--verbose"], role := .switch, remark := "Show generation metadata" }]

def examples : String :=
  Text.joinLines
    ["Examples:",
     "  schema-forge generate schema.json",
     "  schema-forge generate schema.json --table users --artifacts sql,docs",
     "  schema-forge generate schema.json -a sql --dialect sqlite -o build/",
     "  schema-forge generate --url https://example.com/schema.json -a sample_data --seed 42"]

def generateGrammar : Grammar :=
  { program := program ++ " generate"
    about := "Generate SQL, configs, CSV, pages and docs from a schema file"
    flags := helpFlag :: urlFlag :: generateFlags
    operand := .source false
    notes := examples }

def inspectionGrammar (command : String) : Grammar :=
  { program := program ++ " " ++ command
    flags := [helpFlag, urlFlag]
    operand := .source true }

/-- Where a schema comes from; an empty text stands for none. -/
structure Source where
  file : String := ""
  url : String := ""
  deriving DecidableEq, Repr

/-- What to generate; an empty text stands for none. -/
structure Order where
  source : Source
  table : String
  artifacts : String
  dialect : String
  directory : String
  settings : String
  sampleRows : Option Int
  seed : Option Int
  omitsComments : Bool
  isVerbose : Bool
  deriving DecidableEq, Repr

inductive Request
  | listKinds
  | describeKind (name : String)
  | help
  | generate (order : Order)
  | inspect (command : String) (source : Source)
  deriving DecidableEq, Repr

namespace Reading

def isOn (reading : Reading) (name : String) : Bool := Keyed.has reading.values name

def text (reading : Reading) (name : String) : String :=
  match Keyed.get? reading.values name with
  | some (.text s) => s
  | _ => ""

def number? (reading : Reading) (name : String) : Option Int :=
  match Keyed.get? reading.values name with
  | some (.number n) => some n
  | _ => none

def source (reading : Reading) : Source :=
  { file := ((reading.operands.getD []).head?).getD "", url := reading.text urlName }

def order (reading : Reading) : Order :=
  { source := reading.source
    table := reading.text "--table"
    artifacts := reading.text "--artifacts"
    dialect := reading.text "--dialect"
    directory := reading.text "--output-dir"
    settings := reading.text "--config"
    sampleRows := reading.number? "--sample-rows"
    seed := reading.number? "--seed"
    omitsComments := reading.isOn "--no-comments"
    isVerbose := reading.isOn "--verbose" }

end Reading

def readCommand (name : String) (arguments : List String) :
    Except Stop (Request × List String) := do
  if name = "generate" then
    let reading ← generateGrammar.read arguments
    return (.generate reading.order, reading.leftOver)
  else
    let reading ← (inspectionGrammar name).read arguments
    return (.inspect name reading.source, reading.leftOver)

/-- What a command line asks for.  The flags of the program come before those of a command. -/
def readRequest (arguments : List String) : Except Stop Request := do
  let reading ← mainGrammar.read arguments
  let (request, leftOver) ←
    match reading.operands with
    | some (name :: rest) => readCommand name rest
    | _ => pure (.help, [])
  let unread := reading.leftOver ++ leftOver
  if unread ≠ [] then
    throw (.refused mainGrammar
      ("unrecognized arguments: " ++ String.intercalate " " unread))
  let kind := reading.text "--artifact-info"
  if reading.isOn "--list-artifacts" then return .listKinds
  else if kind ≠ "" then return .describeKind kind
  else return request

end SchemaArtifacts.CommandLine
