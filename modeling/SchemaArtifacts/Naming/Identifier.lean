import SchemaArtifacts.Text.Word

/-!
# Identifiers

A name becomes an identifier by writing underscores for everything but plain letters, digits,
underscores and hyphens, trimming underscores and hyphens, and keeping a digit from the front.
-/

namespace SchemaArtifacts.Naming

open Text

def isIdentifierChar (c : Char) : Bool :=
  isAsciiLetter c || isAsciiDigit c || c == '_' || c == '-'

def isFiller (c : Char) : Bool := c == '_' || c == '-'

def trimFiller (cs : List Char) : List Char :=
  ((cs.dropWhile isFiller).reverse.dropWhile isFiller).reverse

def guardDigit : List Char → List Char
  | [] => "field".toList
  | c :: rest => if isAsciiDigit c then '_' :: c :: rest else c :: rest

def cleanChars (cs : List Char) : List Char :=
  guardDigit (trimFiller (cs.map fun c => if isIdentifierChar c then c else '_'))

def clean (name : String) : String := String.ofList (cleanChars name.toList)

def cleanPlainChars (cs : List Char) : List Char :=
  (cleanChars cs).map fun c => if c = '-' then '_' else c

def cleanPlain (name : String) : String := String.ofList (cleanPlainChars name.toList)

end SchemaArtifacts.Naming
