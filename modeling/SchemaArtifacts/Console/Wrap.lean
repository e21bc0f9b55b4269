import SchemaArtifacts.Text.Cluster
import SchemaArtifacts.Text.Lines
import SchemaArtifacts.Text.Trim

/-!
# Wrapped text

A text is set into lines of a given width.  Words move to the next line whole; a word that is wider
than a line is folded or, where cells are narrow, cut and marked with an ellipsis.
-/

namespace SchemaArtifacts.Console

open Text

/-- What becomes of a word that is wider than a line. -/
inductive Overflow
  | fold
  | ellipsis
  deriving DecidableEq, Repr

inductive Alignment
  | left
  | center
  | right
  deriving DecidableEq, Repr

/-- How a text is set.  Without an alignment its lines are not filled up. -/
structure Setting where
  width : Nat
  alignment : Option Alignment := none
  overflow : Overflow := .fold
  deriving DecidableEq, Repr

def blankChars (n : Nat) : List Char := List.replicate n ' '

/-- The parts of a line between its tabs, joined with blanks up to the next stop.  A tab is one
blank at least. -/
def joinAtStops (stop column : Nat) : List (List Char) → List Char
  | [] => []
  | [last] => last
  | part :: rest =>
    let reached := column + columnsOfChars (part ++ [' '])
    let missing := (stop - reached % stop) % stop
    part ++ ' ' :: blankChars missing ++ joinAtStops stop (reached + missing) rest

def tabStop : Nat := 8

def expandTabs (line : List Char) : List Char := joinAtStops tabStop 0 (line.splitOn '\t')

/-- Words with the blanks after them; blanks at the start belong to the first word. -/
def words (line : List Char) : List (List Char) :=
  match line.splitBy fun a b => !isBlank a || isBlank b with
  | first :: second :: rest =>
    if first.all isBlank then (first ++ second) :: rest else first :: second :: rest
  | found => found

/-- Lines that are being filled, the last one first, and the columns used in it. -/
structure Filling where
  lines : List (List Char) := []
  used : Nat := 0
  deriving Repr

namespace Filling

def append (filling : Filling) (word : List Char) : Filling :=
  { lines := match filling.lines with
      | [] => [word]
      | line :: rest => (line ++ word) :: rest
    used := filling.used + columnsOfChars word }

def newLine (filling : Filling) (word : List Char) : Filling :=
  { lines := word :: filling.lines, used := columnsOfChars word }

def add (setting : Setting) (filling : Filling) (word : List Char) : Filling :=
  let own := columnsOfChars (trimEndChars word)
  if filling.used + own ≤ setting.width then filling.append word
  else if own ≤ setting.width || setting.overflow = .ellipsis then filling.newLine word
  else (chop setting.width word).foldl newLine filling

end Filling

def breakLine (setting : Setting) (line : List Char) : List (List Char) :=
  match ((words line).foldl (Filling.add setting) {}).lines with
  | [] => [[]]
  | lines => lines.reverse

/-- A line without the blanks at its end that stand beyond the edge, counted in characters. -/
def dropOverhang (width : Nat) (line : List Char) : List Char :=
  let kept := max width (trimEndChars line).length
  line.take kept

def fit (setting : Setting) (line : List Char) : List Char :=
  if columnsOfChars line ≤ setting.width then line
  else
    match setting.overflow with
    | .fold => cutAt setting.width (clusters line)
    | .ellipsis => cutAt (setting.width - 1) (clusters line) ++ ['…']

def fillStart (width : Nat) (line : List Char) : List Char :=
  blankChars (width - columnsOfChars line) ++ line

def fillEnd (width : Nat) (line : List Char) : List Char :=
  line ++ blankChars (width - columnsOfChars line)

def fillBoth (width : Nat) (line : List Char) : List Char :=
  fillEnd width (blankChars ((width - columnsOfChars line) / 2) ++ line)

def align (setting : Setting) (line : List Char) : List Char :=
  match setting.alignment with
  | none => line
  | some .left => fillEnd setting.width (fit setting line)
  | some .center => fillBoth setting.width (fit setting (trimEndChars line))
  | some .right => fillStart setting.width (fit setting (trimEndChars line))

def wrap (setting : Setting) (cs : List Char) : List (List Char) :=
  (lineChars cs).flatMap fun line =>
    (breakLine setting (expandTabs line)).map fun part =>
      fit setting (align setting (dropOverhang setting.width part))

end SchemaArtifacts.Console
