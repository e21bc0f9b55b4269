import SchemaArtifacts.Files.Path
import SchemaArtifacts.Text.Lines
import SchemaArtifacts.Text.Numeral
import SchemaArtifacts.Text.Quoted

/-!
# File trees

The files that a run can see and change, as a value: directories and texts under their paths.
Reading takes every kind of line break for a line feed; writing keeps a text as it is.
-/

namespace SchemaArtifacts.Files

open Text

inductive FileFault
  | notFound (path : String)
  | alreadyThere (path : String)
  | notDirectory (path : String)
  | isDirectory (path : String)
  | nameTooLong (path : String)
  /-- No system holds a path with a null character. -/
  | nullCharacter (path : String)
  deriving DecidableEq, Repr

namespace FileFault

def code : FileFault → Nat
  | notFound _ => 2
  | alreadyThere _ => 17
  | notDirectory _ => 20
  | isDirectory _ => 21
  | nameTooLong _ => 36
  | nullCharacter _ => 22

def reason : FileFault → String
  | notFound _ => "No such file or directory"
  | alreadyThere _ => "File exists"
  | notDirectory _ => "Not a directory"
  | isDirectory _ => "Is a directory"
  | nameTooLong _ => "File name too long"
  | nullCharacter _ => "Invalid argument"

def path : FileFault → String
  | notFound path | alreadyThere path | notDirectory path | isDirectory path
  | nameTooLong path | nullCharacter path => path

def message (fault : FileFault) : String :=
  "[Errno " ++ numeral fault.code ++ "] " ++ fault.reason ++ ": " ++ quoted fault.path

end FileFault

inductive Node
  | directory
  | file (text : String)
  deriving DecidableEq, Repr

structure Tree where
  nodes : List (Path × Node) := []
  deriving Repr

namespace Tree

/-- What stands at a path.  The start and all that lies above it are directories. -/
def node? (tree : Tree) (path : Path) : Option Node :=
  if path.parts.all (· == Path.up) then some .directory else tree.nodes.lookup path

def put (tree : Tree) (path : Path) (node : Node) : Tree :=
  if tree.nodes.any (·.1 == path) then
    { nodes := tree.nodes.map fun entry => if entry.1 == path then (path, node) else entry }
  else { nodes := tree.nodes ++ [(path, node)] }

inductive Obstacle
  | missing
  | file
  deriving DecidableEq, Repr

def follow (tree : Tree) (from_ : Path) : List String → Except Obstacle Path
  | [] => .ok from_
  | part :: rest =>
    match tree.node? from_ with
    | none => .error .missing
    | some (.file _) => .error .file
    | some .directory =>
      follow tree (from_.step part) rest

def maxNameBytes : Nat := 255

def hasLongName (path : Path) : Bool := path.parts.any fun part => maxNameBytes < part.utf8ByteSize

def unusable? (path : Path) : Option FileFault :=
  if path.parts.any fun part => part.toList.contains '\x00' then
    some (.nullCharacter path.toText)
  else if hasLongName path then some (.nameTooLong path.toText)
  else none

def locate (tree : Tree) (path : Path) : Except FileFault Path :=
  match unusable? path with
  | some fault => .error fault
  | none =>
    match follow tree path.origin path.parts with
    | .ok place => .ok place
    | .error .missing => .error (.notFound path.toText)
    | .error .file => .error (.notDirectory path.toText)

def find (tree : Tree) (path : Path) : Except FileFault Node := do
  let place ← tree.locate path
  match tree.node? place with
  | some node => return node
  | none => throw (.notFound path.toText)

/-- Whether there is something at a path; a name that is too long to look up is a fault. -/
def holds (tree : Tree) (path : Path) : Except FileFault Bool :=
  match tree.find path with
  | .ok _ => .ok true
  | .error (.nameTooLong name) => .error (.nameTooLong name)
  | .error _ => .ok false

def isDirectory (tree : Tree) (path : Path) : Bool :=
  match tree.find path with
  | .ok .directory => true
  | _ => false

def read (tree : Tree) (path : Path) : Except FileFault String := do
  match ← tree.find path with
  | .directory => throw (.isDirectory path.toText)
  | .file text => return withUniversalBreaks text

def write (tree : Tree) (path : Path) (text : String) : Except FileFault Tree := do
  let place ← tree.locate path
  match tree.node? place with
  | some .directory => throw (.isDirectory path.toText)
  | _ => return tree.put place (.file text)

def append (tree : Tree) (path : Path) (text : String) : Except FileFault Tree := do
  let place ← tree.locate path
  match tree.node? place with
  | some .directory => throw (.isDirectory path.toText)
  | some (.file held) => return tree.put place (.file (held ++ text))
  | none => return tree.put place (.file text)

/-- Makes the directories on the way to a place, those missing and no others. -/
def fill (tree : Tree) (from_ : Path) : List String → Except Obstacle Tree
  | [] => .ok tree
  | part :: rest =>
    let next := from_.step part
    match tree.node? next with
    | some (.file _) => .error (if rest.isEmpty then .missing else .file)
    | some .directory => fill tree next rest
    | none => fill (tree.put next .directory) next rest

def makeDirectories (tree : Tree) (path : Path) : Except FileFault Tree :=
  match unusable? path with
  | some fault => .error fault
  | none =>
    match fill tree path.origin path.parts with
    | .ok made => .ok made
    | .error .missing => .error (.alreadyThere path.toText)
    | .error .file => .error (.notDirectory path.toText)

/-- A tree of given texts, with the directories that they need; no text stands for a directory. -/
def ofEntries (entries : List (String × Option String)) : Tree :=
  entries.foldl
    (fun tree (name, text) =>
      let path := Path.ofText name
      let parents := (tree.makeDirectories path.parent).toOption.getD tree
      match text with
      | some text => (parents.write path text).toOption.getD parents
      | none => (parents.makeDirectories path).toOption.getD parents)
    {}

def texts (tree : Tree) : List (String × String) :=
  tree.nodes.filterMap fun (path, node) =>
    match node with
    | .file text =>
      if path.absolute || path.parts.head? = some Path.up then none else some (path.toText, text)
    | .directory => none

end Tree

end SchemaArtifacts.Files
