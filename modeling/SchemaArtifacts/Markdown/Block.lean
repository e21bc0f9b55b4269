import SchemaArtifacts.Text.Lines

/-!
# Markdown blocks

A document is a list of blocks with a blank line between each two.
-/

namespace SchemaArtifacts.Markdown

inductive Block
  | heading (level : Nat) (text : String)
  /-- Text as it stands, which may have lines and blocks of its own. -/
  | passage (text : String)
  | bullets (items : List String)
  | grid (header : List String) (rows : List (List String))
  deriving DecidableEq, Repr

namespace Block

def hashes (level : Nat) : String := String.ofList (List.replicate level '#')

def gridLine (cells : List String) : String := "| " ++ String.intercalate " | " cells ++ " |"

def rule (cell : String) : String := String.ofList (List.replicate (cell.length + 2) '-')

def ruleLine (header : List String) : String :=
  "|" ++ String.intercalate "|" (header.map rule) ++ "|"

def lines : Block → List String
  | heading level text => [hashes level ++ " " ++ text]
  | passage text => [text]
  | bullets items => items.map ("- " ++ ·)
  | grid header rows => gridLine header :: ruleLine header :: rows.map gridLine

def render (block : Block) : String := Text.joinLines block.lines

end Block

def render (blocks : List Block) : String := String.intercalate "\n\n" (blocks.map Block.render)

end SchemaArtifacts.Markdown
