import SchemaArtifacts.Decimal.Shortest
import SchemaArtifacts.Json.Basic
import SchemaArtifacts.Text.Hex

/-!
# Writing JSON

A document is written on one line or indented, one item a line.  Text is escaped only where JSON
demands it.
-/

namespace SchemaArtifacts.Json

open Text

/-- On one line, or indented by a unit for each level. -/
inductive Layout
  | line
  | indented (unit : String)
  deriving DecidableEq, Repr

namespace Layout

def breakChars (layout : Layout) (depth : Nat) : List Char :=
  match layout with
  | line => []
  | indented unit => '\n' :: (List.replicate depth unit.toList).flatten

def separatorChars (layout : Layout) (depth : Nat) : List Char :=
  match layout with
  | line => [',', ' ']
  | indented _ => ',' :: layout.breakChars depth

end Layout

def escapedChar (c : Char) : List Char :=
  if c = '"' then ['\\', '"']
  else if c = '\\' then ['\\', '\\']
  else if c = '\n' then ['\\', 'n']
  else if c = '\r' then ['\\', 'r']
  else if c = '\t' then ['\\', 't']
  else if c = Char.ofNat 8 then ['\\', 'b']
  else if c = Char.ofNat 12 then ['\\', 'f']
  else if c.toNat < 0x20 then '\\' :: 'u' :: hexChars 4 c.toNat
  else [c]

def textChars (s : String) : List Char := '"' :: s.toList.flatMap escapedChar ++ ['"']

def intChars : Int → List Char
  | .ofNat n => numeralChars n
  | .negSucc n => '-' :: numeralChars (n + 1)

def floatChars : Binary64 → List Char
  | .nan => "NaN".toList
  | .infinite negative => (if negative then "-Infinity" else "Infinity").toList
  | value => value.shortestText.toList

mutual

def chars (layout : Layout) (depth : Nat) : Json → List Char
  | null => "null".toList
  | bool value => (if value then "true" else "false").toList
  | int value => intChars value
  | float value => floatChars value
  | str value => textChars value
  | arr [] => ['[', ']']
  | arr (item :: rest) =>
    '[' :: layout.breakChars (depth + 1) ++ itemsChars layout (depth + 1) (item :: rest) ++
      layout.breakChars depth ++ [']']
  | obj [] => ['{', '}']
  | obj (entry :: rest) =>
    '{' :: layout.breakChars (depth + 1) ++ entriesChars layout (depth + 1) (entry :: rest) ++
      layout.breakChars depth ++ ['}']

def itemsChars (layout : Layout) (depth : Nat) : List Json → List Char
  | [] => []
  | [item] => chars layout depth item
  | item :: rest =>
    chars layout depth item ++ layout.separatorChars depth ++ itemsChars layout depth rest

def entriesChars (layout : Layout) (depth : Nat) : List (String × Json) → List Char
  | [] => []
  | [(key, value)] => textChars key ++ [':', ' '] ++ chars layout depth value
  | (key, value) :: rest =>
    textChars key ++ [':', ' '] ++ chars layout depth value ++ layout.separatorChars depth ++
      entriesChars layout depth rest

end

theorem chars_null (layout : Layout) (depth : Nat) :
    chars layout depth null = ['n', 'u', 'l', 'l'] := by
  rw [chars]
  rfl

theorem chars_true (layout : Layout) (depth : Nat) :
    chars layout depth (bool true) = ['t', 'r', 'u', 'e'] := by
  rw [chars]
  rfl

theorem chars_false (layout : Layout) (depth : Nat) :
    chars layout depth (bool false) = ['f', 'a', 'l', 's', 'e'] := by
  rw [chars]
  rfl

def write (layout : Layout) (value : Json) : String := String.ofList (chars layout 0 value)

end SchemaArtifacts.Json
