import SchemaArtifacts.CommandLine.Catalogue
import SchemaArtifacts.CommandLine.Generation
import SchemaArtifacts.CommandLine.Inspection
import SchemaArtifacts.CommandLine.Invocation

/-!
# The program

A run of the program is a function of its arguments, the files, what an address answers and how
moments are read.
-/

namespace SchemaArtifacts.CommandLine

open Artifact Console Files

/-- How a run ends: a command returns, or reading the arguments stops the run. -/
inductive Ending
  | returned (outcome : Outcome)
  | stopped (code : Nat) (output complaints : List String)
  deriving Repr

def refusalCode : Nat := 2

def complaints (grammar : Grammar) (message : String) : List String :=
  grammar.usage :: Text.lines (grammar.program ++ ": error: " ++ message)

def loadMessage? : Fault → Option String
  | .load cause => some cause.message
  | .fileMissing path => some (Fault.fileMissing path).message
  | .file (.notFound path) => some (FileFault.notFound path).message
  | _ => none

def inspectSource (command : String) (source : Source) (tree : Tree)
    (response : Loading.Response) : Except Fault Outcome := do
  match Loading.load tree response source.file source.url with
  | .ok loaded =>
    let inspection := inspect (some (.schema loaded.schema)) (.str loaded.source) (.str command)
    return { code := ← inspection.code, output := inspection.output, tree }
  | .error fault =>
    match loadMessage? fault with
    | some message => return .failed tree (printed ("❌ [red]" ++ escape message ++ "[/red]"))
    | none => throw fault

def carryOut (request : Request) (tree : Tree) (response : Loading.Response)
    (readDate : Sample.DateReader) : Except Fault Outcome :=
  match request with
  | .listKinds => catalogue builtin tree
  | .describeKind name => kindDetails builtin tree name
  | .help => .ok (.failed tree mainGrammar.help)
  | .generate order => generate order tree response readDate
  | .inspect command source => inspectSource command source tree response

def run (arguments : List String) (tree : Tree) (response : Loading.Response)
    (readDate : Sample.DateReader) : Except Fault Ending :=
  match readRequest arguments with
  | .ok request => (carryOut request tree response readDate).map .returned
  | .error (.answered lines) => .ok (.stopped 0 lines [])
  | .error (.refused grammar message) =>
    .ok (.stopped refusalCode [] (complaints grammar message))

end SchemaArtifacts.CommandLine
