import SchemaArtifacts.Decimal.Shortest
import SchemaArtifacts.Json.Basic
import SchemaArtifacts.Text.Quoted

/-!
# Values in messages

`inspect` shows a value with its texts quoted; `plainText` leaves the quotes of a text away and
shows every other value in the same way.
-/

namespace SchemaArtifacts.Json

open Text

mutual

def inspect : Json → String
  | null => "None"
  | bool value => if value then "True" else "False"
  | int value => signedNumeral value
  | float value => value.shortestText
  | str value => quoted value
  | arr items => "[" ++ inspectItems items ++ "]"
  | obj entries => "\x7b" ++ inspectEntries entries ++ "\x7d"

def inspectItems : List Json → String
  | [] => ""
  | [item] => inspect item
  | item :: rest => inspect item ++ ", " ++ inspectItems rest

def inspectEntries : List (String × Json) → String
  | [] => ""
  | [(key, value)] => quoted key ++ ": " ++ inspect value
  | (key, value) :: rest => quoted key ++ ": " ++ inspect value ++ ", " ++ inspectEntries rest

end

def plainText : Json → String
  | str value => value
  | value => inspect value

end SchemaArtifacts.Json
