import SchemaArtifacts.Console.Print

/-!
# Outlines on the console

A tree of marked texts, each branch below its parent with guides that lead to it.
-/

namespace SchemaArtifacts.Console

inductive Outline
  | node (label : String) (branches : List Outline)
  deriving Repr

namespace Outline

def guideWidth : Nat := 4

def indented (first others : String) : List String → List String
  | [] => []
  | line :: rest => (first ++ line) :: rest.map (others ++ ·)

mutual

def linesWithin (width : Nat) : Outline → List String
  | node label branches =>
    laidOut { width } label ++ branchLines (width - guideWidth) branches

def branchLines (width : Nat) : List Outline → List String
  | [] => []
  | [last] => indented "└── " "    " (linesWithin width last)
  | branch :: rest =>
    indented "├── " "│   " (linesWithin width branch) ++ branchLines width rest

end

def lines (outline : Outline) : List String := outline.linesWithin consoleWidth

end Outline

end SchemaArtifacts.Console
