import SchemaArtifacts.Text.LetterCase
import SchemaArtifacts.Text.Trim
import SchemaArtifacts.Text.Word

/-!
# Cells and anchors of Markdown

A table cell keeps to its line and column; an anchor is the heading in lower case without
punctuation, its spaces turned into hyphens.
-/

namespace SchemaArtifacts.Escape

open SchemaArtifacts.Text

def breakTags : List Char → List Char
  | [] => []
  | '\r' :: '\n' :: rest => "<br>".toList ++ breakTags rest
  | '\n' :: rest => "<br>".toList ++ breakTags rest
  | c :: rest => c :: breakTags rest

def cellChars (cs : List Char) : List Char :=
  trimChars (breakTags (cs.flatMap fun c => if c = '|' then ['\\', '|'] else [c]))

def markdownCell (s : String) : String := String.ofList (cellChars s.toList)

def anchorChars (cs : List Char) : List Char :=
  ((lowerChars (trimChars cs)).filter fun c => isWord c || c == '-' || c == ' ').map
    fun c => if c = ' ' then '-' else c

def markdownAnchor (heading : String) : String := String.ofList (anchorChars heading.toList)

end SchemaArtifacts.Escape
