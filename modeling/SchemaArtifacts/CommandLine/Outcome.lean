import SchemaArtifacts.Console.Print
import SchemaArtifacts.Fault

/-!
# Outcomes

What a run of a command leaves behind: a code, the lines that it printed and the files.
-/

namespace SchemaArtifacts.CommandLine

open Files

structure Outcome where
  code : Nat
  output : List String
  tree : Tree
  deriving Repr

def failureCode : Nat := 1

namespace Outcome

def failed (tree : Tree) (output : List String) : Outcome := { code := failureCode, output, tree }

def after (lines : List String) (outcome : Outcome) : Outcome :=
  { outcome with output := lines ++ outcome.output }

end Outcome

end SchemaArtifacts.CommandLine
