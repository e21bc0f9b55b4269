import SchemaArtifacts.Json.Basic
import SchemaArtifacts.Text.Hex
import SchemaArtifacts.Text.Numeral
import SchemaArtifacts.Text.Substitution
import SchemaArtifacts.Text.WholeNumber
import SchemaArtifacts.Text.Word

/-!
# Reading JSON

The reader takes exactly one value with blanks around it.  It also takes `NaN` and the infinities,
and of entries with one key the last one holds.  A fault names the problem and the place; while
reading, a place is the number of characters that were left there.
-/

namespace SchemaArtifacts.Json

open Text

inductive Problem
  | byteOrderMark
  | value
  | name
  | colon
  | comma
  | extraData
  | unterminatedText
  | controlCharacter
  | escape
  | unicodeEscape
  /-- A whole number with more digits than a reader takes. -/
  | longNumber
  /-- More values inside of each other than a reader takes. -/
  | deepNesting
  deriving DecidableEq, Repr

namespace Problem

def message : Problem → String
  | byteOrderMark => "Unexpected UTF-8 BOM (decode using utf-8-sig)"
  | value => "Expecting value"
  | name => "Expecting property name enclosed in double quotes"
  | colon => "Expecting ':' delimiter"
  | comma => "Expecting ',' delimiter"
  | extraData => "Extra data"
  | unterminatedText => "Unterminated string starting at"
  | controlCharacter => "Invalid control character at"
  | escape => "Invalid \\escape"
  | unicodeEscape => "Invalid \\uXXXX escape"
  | longNumber => "Number too long"
  | deepNesting => "Nesting too deep"

def isLimit (problem : Problem) : Bool := problem == longNumber || problem == deepNesting

end Problem

/-- A problem and how many characters were left where it was met. -/
structure Stop where
  problem : Problem
  left : Nat
  deriving DecidableEq, Repr

def isJsonBlank (c : Char) : Bool := c == ' ' || c == '\t' || c == '\n' || c == '\r'

def skipBlanks (cs : List Char) : List Char := cs.dropWhile isJsonBlank

def escapedBy? (c : Char) : Option Char :=
  if c = '"' then some '"'
  else if c = '\\' then some '\\'
  else if c = '/' then some '/'
  else if c = 'b' then some (Char.ofNat 8)
  else if c = 'f' then some (Char.ofNat 12)
  else if c = 'n' then some '\n'
  else if c = 'r' then some '\r'
  else if c = 't' then some '\t'
  else none

def fourHex? (a b c d : Char) : Option Nat := do
  let a ← hexDigitValue? a
  let b ← hexDigitValue? b
  let c ← hexDigitValue? c
  let d ← hexDigitValue? d
  return ((a * 16 + b) * 16 + c) * 16 + d

def isHighSurrogate (unit : Nat) : Bool := 0xd800 ≤ unit && unit < 0xdc00

def isLowSurrogate (unit : Nat) : Bool := 0xdc00 ≤ unit && unit < 0xe000

/-- The character of one code unit; half of a pair by itself is no character. -/
def unitChar (unit : Nat) : Char :=
  if 0xd800 ≤ unit && unit < 0xe000 then Char.ofNat 0xfffd else Char.ofNat unit

def pairChar (high low : Nat) : Char :=
  Char.ofNat (0x10000 + (high - 0xd800) * 0x400 + (low - 0xdc00))

def withChar (c : Char) (tail : Except Stop (List Char × List Char)) : Except Stop (List Char × List Char) :=
  tail.map fun (cs, rest) => (c :: cs, rest)

/-- The characters of a text up to its closing quote; `opening` is what was left at its start. -/
def readText (opening : Nat) : List Char → Except Stop (List Char × List Char)
  | [] => .error ⟨.unterminatedText, opening⟩
  | '"' :: rest => .ok ([], rest)
  | ['\\'] => .error ⟨.unterminatedText, opening⟩
  | '\\' :: 'u' :: a :: b :: c :: d :: rest =>
    let left := rest.length + 5
    match fourHex? a b c d, rest with
    | none, _ => .error ⟨.unicodeEscape, left⟩
    | some _, [] => .error ⟨.unicodeEscape, left⟩
    | some high, '\\' :: 'u' :: e :: f :: g :: h :: next :: more =>
      if isHighSurrogate high then
        match fourHex? e f g h with
        | none => .error ⟨.unicodeEscape, more.length + 6⟩
        | some low =>
          if isLowSurrogate low then withChar (pairChar high low) (readText opening (next :: more))
          else
            withChar (unitChar high)
              (readText opening ('\\' :: 'u' :: e :: f :: g :: h :: next :: more))
      else
        withChar (unitChar high)
          (readText opening ('\\' :: 'u' :: e :: f :: g :: h :: next :: more))
    | some unit, next :: more => withChar (unitChar unit) (readText opening (next :: more))
  | '\\' :: 'u' :: rest => .error ⟨.unicodeEscape, rest.length + 1⟩
  | '\\' :: c :: rest =>
    match escapedBy? c with
    | some meant => withChar meant (readText opening rest)
    | none => .error ⟨.escape, rest.length + 2⟩
  | c :: rest =>
    if c.toNat < 0x20 then .error ⟨.controlCharacter, rest.length + 1⟩
    else withChar c (readText opening rest)

def takeSign : List Char → Bool × List Char
  | '-' :: rest => (true, rest)
  | cs => (false, cs)

def takeWhole? : List Char → Option (List Char × List Char)
  | [] => none
  | c :: rest =>
    if c = '0' then some (['0'], rest)
    else if isAsciiDigit c then
      some (c :: rest.takeWhile isAsciiDigit, rest.dropWhile isAsciiDigit)
    else none

def takeFraction (cs : List Char) : List Char × List Char :=
  match cs with
  | '.' :: d :: rest =>
    if isAsciiDigit d then (d :: rest.takeWhile isAsciiDigit, rest.dropWhile isAsciiDigit)
    else ([], cs)
  | _ => ([], cs)

def takeExponentSign : List Char → Bool × List Char
  | '-' :: rest => (true, rest)
  | '+' :: rest => (false, rest)
  | cs => (false, cs)

def takeExponent (cs : List Char) : Option Int × List Char :=
  match cs with
  | mark :: rest =>
    if mark = 'e' || mark = 'E' then
      let (negative, digits) := takeExponentSign rest
      match digits.takeWhile isAsciiDigit with
      | [] => (none, cs)
      | found =>
        let size : Int := numeralValue found
        (some (if negative then -size else size), digits.dropWhile isAsciiDigit)
    else (none, cs)
  | [] => (none, [])

def numberValue (negative : Bool) (whole fraction : List Char) (exponent : Option Int) : Json :=
  if fraction.isEmpty && exponent.isNone then
    let size : Int := numeralValue whole
    int (if negative then -size else size)
  else
    float (Binary64.ofDecimal negative (numeralValue (whole ++ fraction))
      (exponent.getD 0 - fraction.length))

def isTooLong (whole fraction : List Char) (exponent : Option Int) : Bool :=
  fraction.isEmpty && exponent.isNone && maxDigits < whole.length

def readNumber (cs : List Char) : Except Stop (Json × List Char) :=
  let (negative, body) := takeSign cs
  match takeWhole? body with
  | none => .error ⟨.value, cs.length⟩
  | some (whole, rest) =>
    let (fraction, rest) := takeFraction rest
    let (exponent, rest) := takeExponent rest
    if isTooLong whole fraction exponent then .error ⟨.longNumber, cs.length⟩
    else .ok (numberValue negative whole fraction exponent, rest)

def constants : List (String × Json) :=
  [("null", null), ("true", bool true), ("false", bool false), ("NaN", float .nan),
   ("Infinity", float (.infinite false)), ("-Infinity", float (.infinite true))]

def readConstant? (cs : List Char) : Option (Json × List Char) :=
  constants.findSome? fun (word, value) =>
    (afterPattern? word.toList cs).map fun rest => (value, rest)

def maxNesting : Nat := 990

mutual

/-- Reads a value inside of which so many others may lie.  The fuel is never short when it exceeds
twice the length. -/
def readValue (room : Nat) : Nat → List Char → Except Stop (Json × List Char)
  | 0, cs => .error ⟨.value, cs.length⟩
  | fuel + 1, cs =>
    match cs, room with
    | '"' :: rest, _ => do
      let (content, rest) ← readText cs.length rest
      return (str (String.ofList content), rest)
    | '[' :: _, 0 | '{' :: _, 0 => .error ⟨.deepNesting, cs.length⟩
    | '[' :: rest, room + 1 =>
      match skipBlanks rest with
      | ']' :: rest => .ok (arr [], rest)
      | rest => do
        let (items, rest) ← readItems room fuel rest
        return (arr items, rest)
    | '{' :: rest, room + 1 =>
      match skipBlanks rest with
      | '}' :: rest => .ok (obj [], rest)
      | rest => do
        let (entries, rest) ← readEntries room fuel rest
        return (obj (Keyed.ofPairs entries), rest)
    | cs, _ =>
      match readConstant? cs with
      | some step => .ok step
      | none => readNumber cs

def readItems (room : Nat) : Nat → List Char → Except Stop (List Json × List Char)
  | 0, cs => .error ⟨.value, cs.length⟩
  | fuel + 1, cs => do
    let (item, rest) ← readValue room fuel cs
    match skipBlanks rest with
    | ']' :: rest => return ([item], rest)
    | ',' :: rest =>
      let (items, rest) ← readItems room fuel (skipBlanks rest)
      return (item :: items, rest)
    | rest => .error ⟨.comma, rest.length⟩

def readEntries (room : Nat) :
    Nat → List Char → Except Stop (List (String × Json) × List Char)
  | 0, cs => .error ⟨.value, cs.length⟩
  | fuel + 1, cs =>
    match cs with
    | '"' :: afterQuote => do
      let (key, rest) ← readText cs.length afterQuote
      match skipBlanks rest with
      | ':' :: rest =>
        let (value, rest) ← readValue room fuel (skipBlanks rest)
        let entry := (String.ofList key, value)
        match skipBlanks rest with
        | '}' :: rest => return ([entry], rest)
        | ',' :: rest =>
          let (entries, rest) ← readEntries room fuel (skipBlanks rest)
          return (entry :: entries, rest)
        | rest => .error ⟨.comma, rest.length⟩
      | rest => .error ⟨.colon, rest.length⟩
    | cs => .error ⟨.name, cs.length⟩

end

def readChars (cs : List Char) : Except Stop Json :=
  if cs.head? = some (Char.ofNat 0xfeff) then .error ⟨.byteOrderMark, cs.length⟩
  else do
    let (value, rest) ← readValue maxNesting (2 * cs.length + 2) (skipBlanks cs)
    match skipBlanks rest with
    | [] => return value
    | rest => .error ⟨.extraData, rest.length⟩

/-- A problem and its place: line and column from one, the offset from zero. -/
structure Fault where
  problem : Problem
  line : Nat
  column : Nat
  offset : Nat
  deriving DecidableEq, Repr

def Fault.at (cs : List Char) (stop : Stop) : Fault :=
  let offset := cs.length - stop.left
  let before := cs.take offset
  ⟨stop.problem, before.count '\n' + 1,
    (before.reverse.takeWhile (· != '\n')).length + 1, offset⟩

def Fault.message (fault : Fault) : String :=
  fault.problem.message ++ ": line " ++ numeral fault.line ++ " column " ++
    numeral fault.column ++ " (char " ++ numeral fault.offset ++ ")"

def read (s : String) : Except Fault Json :=
  (readChars s.toList).mapError (Fault.at s.toList)

end SchemaArtifacts.Json
