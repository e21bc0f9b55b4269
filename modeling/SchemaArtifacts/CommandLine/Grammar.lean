import SchemaArtifacts.Keyed
import SchemaArtifacts.Text.Lines

/-!
# Grammars of a command line

A grammar says which flags and which operand a program takes.  Its help is laid out in two columns:
what can be written, and what it means.
-/

namespace SchemaArtifacts.CommandLine

open Text

inductive Role
  | help
  | version (text : String)
  | switch
  | text (placeholder : String)
  | choice (words : List String)
  | number (placeholder : String)
  deriving DecidableEq, Repr

structure Flag where
  /-- The ways to write it; the first names it. -/
  names : List String
  role : Role
  remark : String
  deriving DecidableEq, Repr

inductive Operand
  /-- A command with what it means, and all that follows it. -/
  | command (commands : Keyed String)
  /-- A file, which excludes the flag `--url`; one of them may be required. -/
  | source (isRequired : Bool)
  deriving DecidableEq, Repr

structure Grammar where
  program : String
  about : String := ""
  flags : List Flag
  operand : Operand
  notes : String := ""
  deriving DecidableEq, Repr

namespace Flag

def name (flag : Flag) : String := flag.names.head?.getD ""

def title (flag : Flag) : String := String.intercalate "/" flag.names

def takesValue (flag : Flag) : Bool :=
  match flag.role with
  | .text _ | .choice _ | .number _ => true
  | _ => false

end Flag

def braced (words : List String) : String :=
  "\x7b" ++ String.intercalate "," words ++ "\x7d"

def Role.placeholder : Role → String
  | .text placeholder | .number placeholder => placeholder
  | .choice words => braced words
  | _ => ""

namespace Flag

def withPlaceholder (flag : Flag) (name : String) : String :=
  if flag.takesValue then name ++ " " ++ flag.role.placeholder else name

def usage (flag : Flag) : String := "[" ++ flag.withPlaceholder flag.name ++ "]"

def invocation (flag : Flag) : String :=
  String.intercalate ", " (flag.names.map flag.withPlaceholder)

end Flag

namespace Operand

def title : Operand → String
  | command _ => "command"
  | source _ => "file"

def usage : Operand → String
  | command commands => braced (Keyed.keys commands) ++ " ..."
  | source _ => "[file]"

end Operand

/-- A line of the help: what can be written and what it means. -/
structure HelpRow where
  indent : Nat
  invocation : String
  remark : String
  deriving DecidableEq, Repr

namespace HelpRow

def maxRemarkColumn : Nat := 24

def remarkColumn (rows : List HelpRow) : Nat :=
  min maxRemarkColumn
    ((rows.map fun row => row.indent + row.invocation.length).foldl max 0 + 2)

def blanks (n : Nat) : String := String.ofList (List.replicate n ' ')

/-- A row that is too long for the first column has its meaning on a line of its own. -/
def lines (column : Nat) (row : HelpRow) : List String :=
  let start := blanks row.indent ++ row.invocation
  if row.remark = "" then [start]
  else if start.length + 2 ≤ column then
    [start ++ blanks (column - start.length) ++ row.remark]
  else [start, blanks column ++ row.remark]

end HelpRow

namespace Operand

def rows : Operand → List HelpRow
  | command commands =>
    ⟨2, braced (Keyed.keys commands), ""⟩ ::
      commands.map fun (name, remark) => ⟨4, name, remark⟩
  | source _ => [⟨2, "file", "Schema JSON file"⟩]

end Operand

namespace Grammar

def usage (grammar : Grammar) : String :=
  String.intercalate " "
    ("usage:" :: grammar.program :: grammar.flags.map Flag.usage ++ [grammar.operand.usage])

def flagRows (grammar : Grammar) : List HelpRow :=
  grammar.flags.map fun flag => ⟨2, flag.invocation, flag.remark⟩

def paragraph (text : String) : List String :=
  if text = "" then [] else "" :: Text.lines text

def help (grammar : Grammar) : List String :=
  let column := HelpRow.remarkColumn (grammar.operand.rows ++ grammar.flagRows)
  let written (rows : List HelpRow) := rows.flatMap (HelpRow.lines column)
  grammar.usage :: paragraph grammar.about ++
    ["", "positional arguments:"] ++ written grammar.operand.rows ++
    ["", "options:"] ++ written grammar.flagRows ++ paragraph grammar.notes

end Grammar

end SchemaArtifacts.CommandLine
