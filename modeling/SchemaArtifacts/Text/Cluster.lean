import SchemaArtifacts.Text.Columns

/-!
# Clusters

Characters that are shown as one: a character with the marks on it, with its emoji form, or with
what a joiner adds to it.  A text is cut only between clusters.
-/

namespace SchemaArtifacts.Text

structure Cluster where
  chars : List Char
  columns : Nat
  deriving DecidableEq, Repr

namespace Cluster

def extend (cluster : Cluster) (cs : List Char) (columns : Nat) : Cluster :=
  { chars := cluster.chars ++ cs, columns := cluster.columns + columns }

def start (c : Char) : Cluster := ⟨[c], columnsOf c⟩

/-- The clusters of a text after the first, which is still open.  A joiner adds the next character
without its width, and so does a character that takes no column. -/
def gather (opened : Cluster) (measured : Option Char) : List Char → List Cluster
  | [] => [opened]
  | [c] =>
    if c = emojiSelector || columnsOf c = 0 then [opened.extend [c] (addedColumns measured c)]
    else [opened, start c]
  | c :: next :: rest =>
    if c = joiner then gather (opened.extend [c, next] 0) measured rest
    else if c = emojiSelector || columnsOf c = 0 then
      gather (opened.extend [c] (addedColumns measured c)) (lastMeasured measured c) (next :: rest)
    else opened :: gather (start c) (some c) (next :: rest)

end Cluster

def clusters : List Char → List Cluster
  | [] => []
  | c :: rest => Cluster.gather (.start c) (lastMeasured none c) rest

/-- As much of a text as fits into so many columns, with a blank for the half of a wide cluster. -/
def cutAt (width : Nat) : List Cluster → List Char
  | [] => []
  | cluster :: rest =>
    if width = 0 then []
    else if cluster.columns ≤ width then cluster.chars ++ cutAt (width - cluster.columns) rest
    else [' ']

/-- A text in lines of at most so many columns, given what stands in the first already. -/
def chopFrom (width : Nat) (line : List Char) (used : Nat) : List Cluster → List (List Char)
  | [] => [line]
  | cluster :: rest =>
    if width < used + cluster.columns then
      line :: chopFrom width cluster.chars cluster.columns rest
    else chopFrom width (line ++ cluster.chars) (used + cluster.columns) rest

def chop (width : Nat) (cs : List Char) : List (List Char) := chopFrom width [] 0 (clusters cs)

end SchemaArtifacts.Text
