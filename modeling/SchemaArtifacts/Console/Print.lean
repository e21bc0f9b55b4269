import SchemaArtifacts.Console.Markup
import SchemaArtifacts.Console.Wrap

/-!
# Printed lines

What is printed on the console is a list of lines.  Control characters that would move the cursor
are dropped.  A panel frames a marked text over the whole width of the console, with a title in its
upper edge.
-/

namespace SchemaArtifacts.Console

open Text

def consoleWidth : Nat := 200

/-- Bell, backspace, vertical tab, form feed and carriage return do not reach the console. -/
def isDropped (c : Char) : Bool :=
  c.toNat == 7 || c.toNat == 8 || c.toNat == 11 || c.toNat == 12 || c.toNat == 13

def dropControls (cs : List Char) : List Char := cs.filter (!isDropped ·)

def content (s : String) : List Char := dropControls (shown s.toList)

def laidOut (setting : Setting) (s : String) : List String :=
  (wrap setting (content s)).map String.ofList

def printed (s : String) : List String := laidOut { width := consoleWidth } s

def listingStop : Nat := 4

/-- Tabs as blanks up to the next stop, with characters counted; a line feed starts again. -/
def expandFrom (column : Nat) : List Char → List Char
  | [] => []
  | c :: rest =>
    if c = '\t' then
      let step := listingStop - column % listingStop
      blankChars step ++ expandFrom (column + step) rest
    else if c = '\n' then c :: expandFrom 0 rest
    else c :: expandFrom (column + 1) rest

def listing (s : String) : List String :=
  let cs := expandFrom 0 (universalBreaks s.toList)
  (lineChars (dropControls cs)).map fun line =>
    String.ofList (fit { width := consoleWidth } line)

def rule (n : Nat) : String := String.ofList (List.replicate n '─')

def panelWidth : Nat := consoleWidth - 4

def panelTop (title : String) : String :=
  let text := " " ++ String.intercalate " " (printed title) ++ " "
  let room := panelWidth - columns text
  "╭─" ++ rule (room / 2) ++ text ++ rule (room - room / 2) ++ "─╮"

def panel (title text : String) : List String :=
  let line (cs : List Char) : String := "│ " ++ String.ofList (fillEnd panelWidth cs) ++ " │"
  panelTop title :: (wrap { width := panelWidth } (content text)).map line ++
    ["╰" ++ rule (consoleWidth - 2) ++ "╯"]

end SchemaArtifacts.Console
