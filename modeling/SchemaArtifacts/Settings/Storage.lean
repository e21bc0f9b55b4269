import SchemaArtifacts.Settings.Layers
import SchemaArtifacts.Json.Writer

/-!
# Settings in files

A settings file is a JSON object in a file named `.json`.  Saved settings hold the custom entries
beside the others.
-/

namespace SchemaArtifacts.Settings

open Files

def loadFile (tree : Tree) (name : String) : Except Fault (Keyed Json) := do
  let path := Path.ofText name
  if !(← (tree.holds path).mapError Fault.file) then throw (.settings (.fileMissing path.toText))
  if !path.isNamedJson then throw (.settings (.fileNotJson path.toText))
  match tree.read path with
  | .error fault => throw (.settings (.unreadable path.toText fault))
  | .ok text =>
    match Json.read text with
    | .error cause =>
      throw (Fault.ofReading (fun cause => .settings (.invalidJson path.toText cause)) cause)
    | .ok (.obj entries) => return entries
    | .ok _ => throw (.settings (.notObject path.toText))

def overridesOf (value : Json) : Except Fault (Keyed Json) :=
  match value with
  | .obj entries => .ok entries
  | value =>
    if value.isSet then
      .error (.absentMember ("'" ++ value.kindName ++ "' object has no attribute 'items'"))
    else .ok []

/-- Settings for an artifact; an empty file name stands for no file.  The file is read before the
overrides are looked at. -/
def load (tree : Tree) (artifact : String) (overrides : Json) (file : String) :
    Except Fault Settings := do
  let withFile ←
    if file = "" then pure (defaultsFor artifact)
    else do lay (defaultsFor artifact) (← loadFile tree file)
  ofEntries (← lay withFile (← overridesOf overrides))

mutual

/-- A copy of a value, where so many calls can still be made inside of each other: a value takes
three of them, and two more for each value that it lies in. -/
def copied (room : Nat) (value : Json) : Except Fault Json :=
  if room < 3 then .error .tooDeep
  else
    match value with
    | .arr items => (copiedItems (room - 2) items).map .arr
    | .obj entries => (copiedEntries (room - 2) entries).map .obj
    | value => .ok value

def copiedItems (room : Nat) : List Json → Except Fault (List Json)
  | [] => .ok []
  | item :: rest => do return (← copied room item) :: (← copiedItems room rest)

def copiedEntries (room : Nat) : List (String × Json) → Except Fault (List (String × Json))
  | [] => .ok []
  | (key, value) :: rest => do
    return (key, ← copied room value) :: (← copiedEntries room rest)

end

/-- What is written to a settings file.  The settings are copied first, with two calls around the
copy of each. -/
def savedEntries (settings : Settings) (room : Nat) : Except Fault (Keyed Json) := do
  let copies ← copiedEntries (room - 2) settings.entries
  let custom ← entriesOf ((Keyed.get? copies "custom").getD .null)
  return Keyed.merge (Keyed.erase "custom" copies) custom

def savedText (settings : Settings) (room : Nat) : Except Fault String := do
  return (Json.obj (← settings.savedEntries room)).write (.indented "  ")

/-- `room` is how many calls can be made inside of each other from where the settings are saved. -/
def save (room : Nat) (tree : Tree) (settings : Settings) (name : String) : Except Fault Tree := do
  let text ← settings.savedText room
  let path := Path.ofText name
  (tree.write path text).mapError
    (Fault.ofFile fun fault => .settings (.unwritable path.toText fault))

end SchemaArtifacts.Settings
