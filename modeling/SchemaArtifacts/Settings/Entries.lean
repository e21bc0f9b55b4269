import SchemaArtifacts.Settings.Basic

/-!
# Entries from values

Custom entries are mostly an object, but a list of pairs gives entries as well: lists, texts and
objects of two items count as pairs.  The keys of entries are texts, so other keys are refused.
-/

namespace SchemaArtifacts.Settings

open Text

def pairOf (position : Nat) (item : Json) : Except Fault (String × Json) :=
  match item.items? with
  | none =>
    .error (.wrongType ("cannot convert dictionary update sequence element #" ++
      numeral position ++ " to a sequence"))
  | some [.str key, value] => .ok (key, value)
  | some [key, _] => .error (.wrongType ("keys must be str, not " ++ key.kindName))
  | some items =>
    .error (.badValue ("dictionary update sequence element #" ++ numeral position ++
      " has length " ++ numeral items.length ++ "; 2 is required"))

def entriesOf (value : Json) : Except Fault (Keyed Json) :=
  match value with
  | .obj entries => .ok entries
  | value =>
    match value.items? with
    | none => .error (.wrongType ("'" ++ value.kindName ++ "' object is not iterable"))
    | some items =>
      (items.zipIdx.mapM fun (item, position) => pairOf position item).map Keyed.ofPairs

def entriesOrNone (value : Json) : Except Fault (Keyed Json) :=
  if value.isSet then entriesOf value else .ok []

end SchemaArtifacts.Settings
