import SchemaArtifacts.Text.LetterCase

/-!
# Paths

A path is a list of names between slashes.  Empty names and single points do not count, so that
`./a//b` and `a/b` are one path.  Two slashes in front are kept, though they lead to the root as
one does.
-/

namespace SchemaArtifacts.Files

inductive Root
  | start
  | slash
  | twoSlashes
  deriving DecidableEq, Repr

namespace Root

def ofChars : List Char → Root
  | '/' :: '/' :: '/' :: _ => slash
  | '/' :: '/' :: _ => twoSlashes
  | '/' :: _ => slash
  | _ => start

def text : Root → String
  | start => ""
  | slash => "/"
  | twoSlashes => "//"

end Root

structure Path where
  root : Root := .start
  parts : List String := []
  deriving DecidableEq, Repr

namespace Path

def absolute (path : Path) : Bool := path.root != .start

def origin (path : Path) : Path := { root := if path.absolute then .slash else .start }

def ofText (s : String) : Path :=
  { root := Root.ofChars s.toList
    parts := ((s.toList.splitOn '/').map String.ofList).filter fun part =>
      part != "" && part != "." }

def toText (path : Path) : String :=
  let names := String.intercalate "/" path.parts
  if !path.absolute && path.parts.isEmpty then "." else path.root.text ++ names

def below (directory path : Path) : Path :=
  if path.absolute then path else { directory with parts := directory.parts ++ path.parts }

def up : String := ".."

/-- The path after one more name.  Above its start a path goes on upwards; above the root is the
root. -/
def step (path : Path) (part : String) : Path :=
  if part = up then
    if !path.parts.all (· == up) then { path with parts := path.parts.dropLast }
    else if path.absolute then path
    else { path with parts := path.parts ++ [up] }
  else { path with parts := path.parts ++ [part] }

def parent (path : Path) : Path := { path with parts := path.parts.dropLast }

def name (path : Path) : String := path.parts.getLast?.getD ""

/-- A name cut at its last point, unless the point is its first or last character. -/
def splitName (name : List Char) : List Char × List Char :=
  let extension := (name.reverse.takeWhile (· != '.')).reverse
  let rest := name.take (name.length - extension.length)
  if extension.isEmpty || rest.length ≤ 1 then (name, [])
  else (rest.dropLast, '.' :: extension)

def stem (path : Path) : String := String.ofList (splitName path.name.toList).1

def extension (path : Path) : String := String.ofList (splitName path.name.toList).2

def isNamedJson (path : Path) : Bool := Text.lower path.extension == ".json"

end Path

end SchemaArtifacts.Files
