import SchemaArtifacts.Console.Print
import SchemaArtifacts.Decimal.Binary64

/-!
# Grids on the console

A column is as wide as its widest cell, with a blank on each side; where the grid would be wider
than the console, its widest columns are narrowed.  The title stands centred over the grid.
Titles, heads and cells are marked texts.
-/

namespace SchemaArtifacts.Console

open Text

/-- The characters of one line of a frame: its ends, what fills the columns and what parts them. -/
structure Edge where
  left : Char
  fill : Char
  divider : Char
  right : Char
  deriving DecidableEq, Repr

structure Frame where
  top : Edge
  headRow : Edge
  headRule : Edge
  row : Edge
  bottom : Edge
  deriving DecidableEq, Repr

namespace Frame

def rounded : Frame :=
  { top := ⟨'╭', '─', '┬', '╮'⟩
    headRow := ⟨'│', ' ', '│', '│'⟩
    headRule := ⟨'├', '─', '┼', '┤'⟩
    row := ⟨'│', ' ', '│', '│'⟩
    bottom := ⟨'╰', '─', '┴', '╯'⟩ }

def simple : Frame :=
  let blank : Edge := ⟨' ', ' ', ' ', ' '⟩
  { top := blank, headRow := blank, headRule := ⟨' ', '─', '─', ' '⟩, row := blank, bottom := blank }

end Frame

structure Column where
  head : String
  alignment : Alignment := .left
  deriving DecidableEq, Repr

structure Grid where
  title : String
  frame : Frame
  columns : List Column
  rows : List (List String)
  deriving DecidableEq, Repr

namespace Edge

def join (edge : Edge) (cells : List String) : String :=
  edge.left.toString ++ String.intercalate edge.divider.toString cells ++ edge.right.toString

def rule (edge : Edge) (widths : List Nat) : String :=
  edge.join (widths.map fun width => String.ofList (List.replicate width edge.fill))

end Edge

def lineEnds : CharSet := [(0xa, 0xd), (0x1c, 0x1e), (0x85, 0x85), (0x2028, 0x2029)]

def paddingWidth : Nat := 2

def naturalWidth (cell : String) : Nat :=
  (((content cell).splitOnP lineEnds.contains).map columnsOfChars).foldl max 0 + paddingWidth

/-- Takes a total from the widths that are chosen, as evenly as rounding allows and from none more
than a limit. -/
def takeEvenly (chosen : Nat → Bool) (limit total shares : Nat) : List Nat → List Nat
  | [] => []
  | width :: rest =>
    if chosen width && 0 < shares then
      let part := min limit (Binary64.roundQuotient total shares)
      (width - part) :: takeEvenly chosen limit (total - part) (shares - 1) rest
    else width :: takeEvenly chosen limit total shares rest

def total (widths : List Nat) : Nat := widths.foldl (· + ·) 0

/-- Widths after so many rounds, each of which lowers the widest columns towards the next. -/
def narrow (room : Nat) : Nat → List Nat → List Nat
  | 0, widths => widths
  | rounds + 1, widths =>
    let excess := total widths - room
    if excess = 0 then widths
    else
      let widest := widths.foldl max 0
      let next := (widths.filter (· ≠ widest)).foldl max 0
      let limit := min excess (widest - next)
      narrow room rounds
        (takeEvenly (· == widest) limit excess (widths.count widest) widths)

/-- Widths that fit into the room; every round takes one column away at least. -/
def fittingWidths (room : Nat) (widths : List Nat) : List Nat :=
  let bounded := widths.map (min room)
  narrow room (total bounded - room) bounded

namespace Grid

def cellRows (grid : Grid) : List (List String) := grid.columns.map (·.head) :: grid.rows

def frameWidth (grid : Grid) : Nat := grid.columns.length + 1

def widths (grid : Grid) : List Nat :=
  fittingWidths (consoleWidth - grid.frameWidth)
    ((List.range grid.columns.length).map fun index =>
      (grid.cellRows.map fun row => naturalWidth (row[index]?.getD "")).foldl max 0)

def totalWidth (grid : Grid) : Nat := total grid.widths + grid.frameWidth

def cellLines (column : Column) (width : Nat) (cell : String) : List String :=
  let inner := width - paddingWidth
  let setting : Setting :=
    { width := inner, alignment := some column.alignment, overflow := .ellipsis }
  (wrap setting (content cell)).map fun line =>
    " " ++ String.ofList (fillEnd inner line) ++ " "

def rowLines (grid : Grid) (edge : Edge) (row : List String) : List String :=
  let shapes := grid.columns.zip grid.widths
  let cells := (shapes.zip row).map fun ((column, width), cell) =>
    (width, cellLines column width cell)
  let height := (cells.map fun cell => cell.2.length).foldl max 1
  (List.range height).map fun index =>
    edge.join (cells.map fun (width, lines) =>
      lines[index]?.getD (String.ofList (blankChars width)))

def titleLines (grid : Grid) : List String :=
  laidOut { width := grid.totalWidth, alignment := some .center } grid.title

def lines (grid : Grid) : List String :=
  let frame := grid.frame
  let rule (edge : Edge) := edge.rule grid.widths
  grid.titleLines ++ [rule frame.top] ++
    grid.rowLines frame.headRow (grid.columns.map (·.head)) ++ [rule frame.headRule] ++
    grid.rows.flatMap (grid.rowLines frame.row) ++ [rule frame.bottom]

end Grid

end SchemaArtifacts.Console
