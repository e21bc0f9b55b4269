import SchemaArtifacts.CommandLine.Grammar
import SchemaArtifacts.Text.Quoted
import SchemaArtifacts.Text.Substitution
import SchemaArtifacts.Text.WholeNumber

/-!
# Reading arguments

Arguments are first told apart: those that start with a dash are flags, unless they are negative
numbers or hold a blank, and all that follow `--` are operands.  A flag can be shortened as long as
only one flag begins that way, and its value can follow an equals sign or, for a flag of one letter,
the letter itself.  Then the flags take their values and the operands fill their places from left
to right; what finds no place is left over.
-/

namespace SchemaArtifacts.CommandLine

open Text

inductive Stop
  /-- Text that was asked for. -/
  | answered (lines : List String)
  | refused (grammar : Grammar) (message : String)
  deriving Repr

inductive Value
  | on
  | text (s : String)
  | number (n : Int)
  deriving DecidableEq, Repr

inductive Token
  | plain
  /-- The first argument `--`. -/
  | separator
  /-- A flag, with a value that is written in one argument with it. -/
  | flag (flag : Flag) (name : String) (attached : Option (List Char))
  | unknown
  deriving DecidableEq, Repr

structure Argument where
  text : String
  token : Token
  deriving DecidableEq, Repr

def Argument.isFlag (argument : Argument) : Bool :=
  match argument.token with
  | .flag .. | .unknown => true
  | _ => false

namespace Grammar

def spellings (grammar : Grammar) : List (String × Flag) :=
  grammar.flags.flatMap fun flag => flag.names.map fun name => (name, flag)

def flagNamed? (grammar : Grammar) (name : String) : Option Flag := grammar.spellings.lookup name

def splitAtSign (cs : List Char) : List Char × Option (List Char) :=
  let name := cs.takeWhile (· != '=')
  match cs.drop name.length with
  | _ :: value => (name, some value)
  | [] => (name, none)

/-- The names of flags that a shortened argument can mean, with what is attached. -/
def candidates (grammar : Grammar) (cs : List Char) : List (String × Token) :=
  match cs with
  | '-' :: '-' :: _ =>
    let (start, attached) := splitAtSign cs
    grammar.spellings.filterMap fun (name, flag) =>
      if hasStart name (String.ofList start) then some (name, .flag flag name attached) else none
  | dash :: letter :: value =>
    grammar.spellings.filterMap fun (name, flag) =>
      if name = String.ofList [dash, letter] then some (name, .flag flag name (some value))
      else if hasStart name (String.ofList cs) then some (name, .flag flag name none)
      else none
  | _ => []

def ambiguous (grammar : Grammar) (s : String) (names : List String) : Stop :=
  .refused grammar
    ("ambiguous option: " ++ s ++ " could match " ++ String.intercalate ", " names)

/-- The flag that an argument means, told by its exact name, by its name before an equals sign or
by the start of its name. -/
def tokenOfFlag (grammar : Grammar) (s : String) : Except Stop Token :=
  match grammar.flagNamed? s with
  | some flag => .ok (.flag flag s none)
  | none =>
    let (name, attached) := splitAtSign s.toList
    match attached, grammar.flagNamed? (String.ofList name) with
    | some attached, some flag => .ok (.flag flag (String.ofList name) (some attached))
    | _, _ =>
      match grammar.candidates s.toList with
      | [] =>
        .ok (if isNegativeNumeral s || s.toList.contains ' ' then .plain else .unknown)
      | [(_, token)] => .ok token
      | found => .error (grammar.ambiguous s (Keyed.keys found))

def tokenOf (grammar : Grammar) (s : String) : Except Stop Token :=
  match s.toList with
  | '-' :: _ :: _ => grammar.tokenOfFlag s
  | _ => .ok .plain

def arguments (grammar : Grammar) : List String → Except Stop (List Argument)
  | [] => .ok []
  | s :: rest =>
    if s = "--" then .ok (⟨s, .separator⟩ :: rest.map (⟨·, .plain⟩))
    else do return ⟨s, ← grammar.tokenOf s⟩ :: (← grammar.arguments rest)

end Grammar

structure Reading where
  values : Keyed Value := []
  /-- What filled the place of the operand. -/
  operands : Option (List String) := none
  leftOver : List String := []
  deriving Repr

def urlName : String := "--url"

namespace Grammar

def refuse {α : Type} (grammar : Grammar) (title message : String) : Except Stop α :=
  .error (.refused grammar ("argument " ++ title ++ ": " ++ message))

def choiceMessage (s : String) (words : List String) : String :=
  "invalid choice: " ++ quoted s ++ " (choose from " ++
    String.intercalate ", " (words.map quoted) ++ ")"

def value (grammar : Grammar) (flag : Flag) (s : String) : Except Stop Value :=
  match flag.role with
  | .number _ =>
    match wholeNumber? s with
    | some n => .ok (.number n)
    | none => grammar.refuse flag.title ("invalid int value: " ++ quoted s)
  | .choice words =>
    if words.contains s then .ok (.text s)
    else grammar.refuse flag.title (choiceMessage s words)
  | _ => .ok (.text s)

def act (grammar : Grammar) (reading : Reading) (flag : Flag) (given : Option String) :
    Except Stop Reading := do
  match flag.role, given with
  | .help, _ => throw (.answered grammar.help)
  | .version text, _ => throw (.answered [text])
  | _, none => return { reading with values := Keyed.put flag.name .on reading.values }
  | _, some s =>
    let value ← grammar.value flag s
    if flag.name = urlName && reading.operands.isSome then
      grammar.refuse flag.title ("not allowed with argument " ++ grammar.operand.title)
    return { reading with values := Keyed.put flag.name value reading.values }

/-- The flags that one argument sets with their values, and a flag that awaits its value. -/
structure Taken where
  flags : List (Flag × Option String) := []
  awaiting : Option Flag := none
  deriving Repr

def ignored (grammar : Grammar) (flag : Flag) (value : List Char) : Except Stop Taken :=
  grammar.refuse flag.title ("ignored explicit argument " ++ quoted (String.ofList value))

def takeAlone (flag : Flag) : Taken :=
  if flag.takesValue then { awaiting := some flag } else { flags := [(flag, none)] }

def isLetter (name : String) : Bool :=
  match name.toList with
  | _ :: '-' :: _ => false
  | _ => true

/-- Takes a flag with what is attached to it.  What follows a letter without a value is another
letter. -/
def takeAttached (grammar : Grammar) (flag : Flag) (name : String) (attached : List Char) :
    Except Stop Taken :=
  if flag.takesValue then .ok { flags := [(flag, some (String.ofList attached))] }
  else
    match attached with
    | [] => grammar.ignored flag []
    | letter :: others =>
      let next := String.ofList ['-', letter]
      match isLetter name, grammar.flagNamed? next with
      | true, some nextFlag => do
        let taken ←
          if others.isEmpty then pure (takeAlone nextFlag)
          else grammar.takeAttached nextFlag next others
        return { taken with flags := (flag, none) :: taken.flags }
      | _, _ => grammar.ignored flag attached

def takeFlag (grammar : Grammar) (flag : Flag) (name : String) (attached : Option (List Char)) :
    Except Stop Taken :=
  match attached with
  | none => .ok (takeAlone flag)
  | some value => grammar.takeAttached flag name value

def actAll (grammar : Grammar) (reading : Reading) (flags : List (Flag × Option String)) :
    Except Stop Reading :=
  flags.foldlM (fun reading (flag, given) => grammar.act reading flag given) reading

def takeFile (grammar : Grammar) (reading : Reading) (s : String) : Except Stop Reading :=
  if Keyed.has reading.values urlName then
    grammar.refuse grammar.operand.title ("not allowed with argument " ++ urlName)
  else .ok { reading with operands := some [s] }

def takeCommand (grammar : Grammar) (reading : Reading) (commands : Keyed String)
    (name : String) (rest : List String) : Except Stop Reading :=
  if Keyed.has commands name then .ok { reading with operands := some (name :: rest) }
  else grammar.refuse grammar.operand.title (choiceMessage name (Keyed.keys commands))

def leave (reading : Reading) (arguments : List Argument) : Reading :=
  { reading with leftOver := reading.leftOver ++ arguments.map (·.text) }

def readPlain (grammar : Grammar) (reading : Reading) (arguments : List Argument) :
    Except Stop Reading :=
  match reading.operands, grammar.operand, arguments with
  | some _, _, _ => .ok (leave reading arguments)
  | none, _, [] => .ok reading
  | none, .command _, [⟨_, .separator⟩] => .ok (leave reading arguments)
  | none, .command commands, first :: rest =>
    grammar.takeCommand reading commands first.text (rest.map (·.text))
  | none, .source _, [⟨_, .separator⟩] => .ok reading
  | none, .source _, ⟨_, .separator⟩ :: file :: rest
  | none, .source _, file :: ⟨_, .separator⟩ :: rest
  | none, .source _, file :: rest => do
    return leave (← grammar.takeFile reading file.text) rest

def readFrom (grammar : Grammar) (reading : Reading) (arguments : List Argument) :
    Except Stop Reading :=
  if !arguments.any Argument.isFlag then grammar.readPlain reading arguments
  else
    match arguments with
    | [] => .ok reading
    | ⟨_, .flag flag name attached⟩ :: rest => do
      let taken ← grammar.takeFlag flag name attached
      match taken.awaiting, rest with
      | none, rest => grammar.readFrom (← grammar.actAll reading taken.flags) rest
      | some awaiting, ⟨value, .plain⟩ :: rest =>
        let flags := taken.flags ++ [(awaiting, some value)]
        grammar.readFrom (← grammar.actAll reading flags) rest
      | some awaiting, _ => grammar.refuse awaiting.title "expected one argument"
    | first :: rest =>
      match reading.operands, grammar.operand, first.token with
      | none, .command commands, .plain =>
        grammar.takeCommand reading commands first.text (rest.map (·.text))
      | none, .source _, .plain => do
        grammar.readFrom (← grammar.takeFile reading first.text) rest
      | _, _, _ => grammar.readFrom (leave reading [first]) rest
termination_by arguments.length

def checkSource (grammar : Grammar) (reading : Reading) : Except Stop Unit :=
  match grammar.operand with
  | .source true =>
    if reading.operands.isSome || Keyed.has reading.values urlName then .ok ()
    else
      .error (.refused grammar
        ("one of the arguments " ++ grammar.operand.title ++ " " ++ urlName ++ " is required"))
  | _ => .ok ()

def read (grammar : Grammar) (arguments : List String) : Except Stop Reading := do
  let reading ← grammar.readFrom {} (← grammar.arguments arguments)
  grammar.checkSource reading
  return reading

end Grammar

end SchemaArtifacts.CommandLine
