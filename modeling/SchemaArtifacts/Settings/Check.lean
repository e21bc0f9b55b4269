import SchemaArtifacts.Settings.Basic
import SchemaArtifacts.Text.LetterCase

/-!
# Checking settings

A check lists what is doubtful about settings, in a fixed order.
-/

namespace SchemaArtifacts.Settings

open Text

def supportedDialects : List String := ["postgres", "sqlite", "mysql"]

def supportedFormats : List String := ["csv", "json"]

def dialectWarnings (settings : Settings) : List String :=
  if supportedDialects.contains (lower settings.dialect.plainText) then []
  else
    ["Invalid dialect: " ++ settings.dialect.plainText ++ " (expected one of " ++
      String.intercalate ", " supportedDialects ++ ")"]

def isRowCount : Json → Bool
  | .int count => 0 ≤ count
  | .bool _ => true
  | _ => false

def rowCountWarnings (settings : Settings) : List String :=
  if isRowCount settings.sampleRows then []
  else ["Invalid sample_rows: " ++ settings.sampleRows.plainText]

def isBelowZero : Json → Except Fault Bool
  | .int value => .ok (value < 0)
  | .bool _ => .ok false
  | .float value => .ok value.isNegative
  | value =>
    .error (.wrongType ("'<' not supported between instances of '" ++ value.kindName ++
      "' and 'int'"))

def indentWarnings (settings : Settings) : Except Fault (List String) := do
  if ← isBelowZero settings.indentSize then
    return ["Invalid indent_size: " ++ settings.indentSize.plainText]
  else return []

def lineEndingWarnings (settings : Settings) : List String :=
  match settings.lineEnding with
  | .str ending =>
    if ending = "\n" || ending = "\r\n" then []
    else ["Unusual line_ending: " ++ settings.lineEnding.inspect]
  | _ => ["Unusual line_ending: " ++ settings.lineEnding.inspect]

def isFormat : Json → Bool
  | .str format => supportedFormats.contains format
  | _ => false

def outputFormat (settings : Settings) : Except Fault Json := do
  return (← settings.customEntry? "output_format").getD (.str "csv")

def formatWarnings (settings : Settings) : Except Fault (List String) := do
  let format ← settings.outputFormat
  if isFormat format then return []
  else return ["Invalid sample output_format: " ++ format.plainText]

def warnings (settings : Settings) : Except Fault (List String) := do
  let indent ← settings.indentWarnings
  let format ← settings.formatWarnings
  return settings.dialectWarnings ++ settings.rowCountWarnings ++ indent ++
    settings.lineEndingWarnings ++ format

end SchemaArtifacts.Settings
