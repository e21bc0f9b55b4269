import SchemaArtifacts.Text.LetterCase
import SchemaArtifacts.Text.Word

/-!
# Case styles

Names are taken apart into words at hyphens, underscores and before capitals that follow a small
letter or a digit, and put together again in one of four styles.
-/

namespace SchemaArtifacts.Naming

open Text

inductive CaseStyle
  | snake
  | camel
  | pascal
  | kebab
  deriving DecidableEq, Repr

namespace CaseStyle

def tag : CaseStyle → String
  | snake => "snake"
  | camel => "camel"
  | pascal => "pascal"
  | kebab => "kebab"

def all : List CaseStyle := [snake, camel, pascal, kebab]

def ofTag? (tag : String) : Option CaseStyle := all.find? (·.tag == tag)

end CaseStyle

def endsWord (c : Char) : Bool := ('a' ≤ c && c ≤ 'z') || isAsciiDigit c

def startsWord (c : Char) : Bool := 'A' ≤ c && c ≤ 'Z'

def splitWords : List Char → List Char
  | [] => []
  | [c] => [c]
  | c :: next :: rest =>
    if endsWord c && startsWord next then c :: '_' :: splitWords (next :: rest)
    else c :: splitWords (next :: rest)

def mergeUnderscores : List Char → List Char
  | [] => []
  | [c] => [c]
  | c :: next :: rest =>
    if c = '_' && next = '_' then mergeUnderscores (next :: rest)
    else c :: mergeUnderscores (next :: rest)

def trimUnderscores (cs : List Char) : List Char :=
  ((cs.dropWhile (· == '_')).reverse.dropWhile (· == '_')).reverse

def snakeChars (cs : List Char) : List Char :=
  let hyphensAsUnderscores := cs.map fun c => if c = '-' then '_' else c
  trimUnderscores (mergeUnderscores (lowerChars (splitWords hyphensAsUnderscores)))

def words (cs : List Char) : List (List Char) := (snakeChars cs).splitOn '_'

def camelChars (cs : List Char) : List Char :=
  match words cs with
  | [] => cs
  | first :: others => lowerChars first ++ others.flatMap capitalizeChars

def pascalChars (cs : List Char) : List Char := (words cs).flatMap capitalizeChars

def kebabChars (cs : List Char) : List Char :=
  (snakeChars cs).map fun c => if c = '_' then '-' else c

def convertChars : CaseStyle → List Char → List Char
  | .snake => snakeChars
  | .camel => camelChars
  | .pascal => pascalChars
  | .kebab => kebabChars

def convert (style : CaseStyle) (name : String) : String :=
  String.ofList (convertChars style name.toList)

end SchemaArtifacts.Naming
