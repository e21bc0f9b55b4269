import SchemaArtifacts.CommandLine.Program
import SchemaArtifacts.Time.Reading

/-!
# Command line

The program on real files.  The files that arguments name are read first, then the run is computed,
and at last its new files are written and its lines printed.  Addresses are not fetched, so a run
that needs one ends as without a connection.  Moments are read in a few known forms.
-/

namespace SchemaArtifacts.CommandLine

open Files

/-- The texts in an argument that can name a file: all of it, what follows an equals sign, and what
follows a flag of one letter. -/
def namesIn (argument : String) : List String :=
  let cs := argument.toList
  [cs, (cs.dropWhile (· != '=')).drop 1, cs.drop 2].map String.ofList

def stretches (path : Path) : List Path :=
  (List.range path.parts.length).map fun index =>
    { path with parts := path.parts.take (index + 1) }

def look (name : String) : IO (Option (String × Option String)) := do
  try
    if ← (← IO.FS.realPath name).isDir then return some (name, none)
    else return some (name, some (← IO.FS.readFile name))
  catch _ => return none

def readTree (arguments : List String) : IO Tree := do
  let paths := (arguments.flatMap namesIn).flatMap fun name => stretches (Path.ofText name)
  return .ofEntries (← paths.eraseDups.filterMapM fun path => look path.toText)

def writeTree (before after : Tree) : IO Unit := do
  for (path, node) in after.nodes do
    if before.node? path ≠ some node then
      match node with
      | .directory => IO.FS.createDirAll path.toText
      | .file text => IO.FS.writeFile path.toText text

end SchemaArtifacts.CommandLine

open SchemaArtifacts CommandLine in
def main (arguments : List String) : IO UInt32 := do
  let tree ← readTree arguments
  match run arguments tree (.failed .connection) (Time.ofText? .base) with
  | .ok (.returned outcome) =>
    writeTree tree outcome.tree
    outcome.output.forM IO.println
    return outcome.code.toUInt32
  | .ok (.stopped code output complaints) =>
    output.forM IO.println
    complaints.forM IO.eprintln
    return code.toUInt32
  | .error fault =>
    IO.eprintln fault.message
    return failureCode.toUInt32
