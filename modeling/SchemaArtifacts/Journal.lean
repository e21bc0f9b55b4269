import SchemaArtifacts.Fault
import SchemaArtifacts.Text.LetterCase
import SchemaArtifacts.Text.Substitution

/-!
# Journal

A journal sends the records of named sources to the console and, when asked to, to a file.  A file
keeps every record from `DEBUG` on; records below it are dropped.  Setting up again replaces the
destinations, and what was written stays.
-/

namespace SchemaArtifacts.Journal

open Text Files

def levels : Keyed Int :=
  [("CRITICAL", 50), ("FATAL", 50), ("ERROR", 40), ("WARNING", 30), ("WARN", 30), ("INFO", 20),
   ("DEBUG", 10), ("NOTSET", 0)]

def warning : Int := 30

def debug : Int := 10

def levelName (level : Int) : String :=
  match levels.find? (·.2 == level) with
  | some (name, _) => name
  | none => "Level " ++ signedNumeral level

def capitals (s : String) : String :=
  String.ofList (s.toList.flatMap fun c => (titleChar c).map Char.toUpper)

def reserved : Keyed Fault :=
  [("BASIC_FORMAT", .badValue "Unknown level"), ("_STYLES", .wrongType "Level not an integer")]

def levelOf (name : String) : Except Fault Int :=
  let key := capitals name
  match Keyed.get? reserved key with
  | some fault => .error fault
  | none => .ok ((Keyed.get? levels key).getD warning)

def rootName : String := "schema_forge"

def sourceName (name : String) : String :=
  if name = rootName || hasStart name (rootName ++ ".") then name else rootName ++ "." ++ name

inductive Destination
  | console (level : Int)
  | file (path : Path)
  deriving DecidableEq, Repr

namespace Destination

def level : Destination → Int
  | console level => level
  | file _ => debug

end Destination

structure State where
  tree : Tree := {}
  destinations : List Destination := []
  isSetUp : Bool := false
  deriving Repr

namespace State

def cleared (state : State) : State :=
  if state.isSetUp then { state with destinations := [] } else state

/-- Sets the destinations up; an empty file name stands for no file.  When the file cannot be
opened, the console stays as a destination. -/
def setUp (state : State) (levelName : String) (file? : Option String) : State × Option Fault :=
  match levelOf levelName with
  | .error fault => (state.cleared, some fault)
  | .ok level =>
    let onConsole :=
      { state.cleared with destinations := state.cleared.destinations ++ [.console level] }
    match file?.filter (· != "") with
    | none => ({ onConsole with isSetUp := true }, none)
    | some file =>
      let path := Path.ofText file
      match state.tree.append path "" with
      | .error fault => (onConsole, some (.file fault))
      | .ok tree =>
        ({ tree
           destinations := onConsole.destinations ++ [.file path]
           isSetUp := true }, none)

def line (level : Int) (source message : String) : String :=
  levelName level ++ " " ++ source ++ ": " ++ message ++ "\n"

def write (state : State) (text : String) : Destination → State
  | .console _ => state
  | .file path =>
    match state.tree.append path text with
    | .ok tree => { state with tree }
    | .error _ => state

/-- Once the journal is set up, records from `DEBUG` on reach every destination. -/
def record (state : State) (name : String) (level : Int) (message : String) : State :=
  if level < debug then state
  else
    let text := line level (sourceName name) message
    state.destinations.foldl (fun state destination => state.write text destination) state

end State

end SchemaArtifacts.Journal
