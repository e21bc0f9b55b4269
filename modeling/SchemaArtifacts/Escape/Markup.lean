/-!
# Markup text

Text of a page is free of the characters that open a tag, an attribute, an entity or a template
expression.
-/

namespace SchemaArtifacts.Escape

def entity? (c : Char) : Option String :=
  if c = '&' then some "&amp;"
  else if c = '<' then some "&lt;"
  else if c = '>' then some "&gt;"
  else if c = '"' then some "&quot;"
  else if c = '\'' then some "&#x27;"
  else none

def attributeChar (c : Char) : List Char := ((entity? c).map String.toList).getD [c]

def attributeText (s : String) : String := String.ofList (s.toList.flatMap attributeChar)

def pageChar (c : Char) : List Char :=
  if c = '{' then "&#123;".toList
  else if c = '}' then "&#125;".toList
  else attributeChar c

def pageText (s : String) : String := String.ofList (s.toList.flatMap pageChar)

end SchemaArtifacts.Escape
