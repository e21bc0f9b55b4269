import SchemaArtifacts.Text.CharSet
import SchemaArtifacts.Text.Hex
import SchemaArtifacts.Text.Numeral
import SchemaArtifacts.Text.Word

/-!
# Hosts

What may stand for a host in an address: between brackets a number of eight groups or a named
future form, and outside of brackets nothing that reads as one of the characters `/ ? # @ :` once
it is put into its compatibility form.
-/

namespace SchemaArtifacts.Loading

open Text

def isByte (part : List Char) : Bool :=
  !part.isEmpty && part.all isAsciiDigit && part.length ≤ 3 &&
    (part.head? ≠ some '0' || part.length = 1) && numeralValue part ≤ 255

def isFourBytes (cs : List Char) : Bool :=
  let parts := cs.splitOn '.'
  parts.length = 4 && parts.all isByte

def isGroup (part : List Char) : Bool :=
  !part.isEmpty && part.length ≤ 4 && part.all fun c => (hexDigitValue? c).isSome

def groups? (cs : List Char) : Option (List (List Char)) :=
  let parts := cs.splitOn ':'
  match parts.getLast? with
  | none => none
  | some last =>
    if last.contains '.' then
      if isFourBytes last then some (parts.dropLast ++ [['0'], ['0']]) else none
    else some parts

/-- Groups without a gap on one side of the gap; the outermost may be empty if it is alone. -/
def isSide (parts : List (List Char)) : Bool := parts = [[]] || parts.all isGroup

/-- Whether a list of groups is a number: eight groups, or fewer around one gap. -/
def isGrouped (parts : List (List Char)) : Bool :=
  let inner := (parts.drop 1).dropLast
  match inner.findIdx? (·.isEmpty) with
  | none => parts.length = 8 && parts.all isGroup
  | some index =>
    let before := parts.take (index + 1)
    let after := parts.drop (index + 2)
    let filled (side : List (List Char)) : Nat := side.countP fun part => !part.isEmpty
    isSide before && isSide after && filled before + filled after < 8

def isEightGroups (cs : List Char) : Bool :=
  let number := cs.takeWhile (· != '%')
  let zone := cs.dropWhile (· != '%')
  let parts := number.splitOn ':'
  (zone.isEmpty || (zone.length ≠ 1 && !(zone.drop 1).contains '%')) &&
    3 ≤ parts.length &&
    match groups? number with
    | some groups => groups.length ≤ 9 && isGrouped groups
    | none => false

def isFutureHost (cs : List Char) : Bool :=
  match cs with
  | 'v' :: rest =>
    let version := rest.takeWhile fun c => (hexDigitValue? c).isSome
    match rest.drop version.length with
    | '.' :: c :: others => !version.isEmpty && (c :: others).all (· != '\n')
    | _ => false
  | _ => false

def isBracketHost (cs : List Char) : Bool :=
  if cs.head? = some 'v' then isFutureHost cs else isEightGroups cs

def lookalikes : CharSet :=
  [(0x2047, 0x2049), (0x2100, 0x2101), (0x2105, 0x2106), (0x2a74, 0x2a74), (0xfe13, 0xfe13),
   (0xfe16, 0xfe16), (0xfe55, 0xfe56), (0xfe5f, 0xfe5f), (0xfe6b, 0xfe6b), (0xff03, 0xff03),
   (0xff0f, 0xff0f), (0xff1a, 0xff1a), (0xff1f, 0xff20)]

def isLookalike (c : Char) : Bool := lookalikes.contains c

def bracketed (cs : List Char) : List Char :=
  ((cs.dropWhile (· != '[')).drop 1).takeWhile (· != ']')

def isHost (cs : List Char) : Bool :=
  !cs.any isLookalike &&
    match cs.contains '[', cs.contains ']' with
    | true, true => isBracketHost (bracketed cs)
    | false, false => true
    | _, _ => false

end SchemaArtifacts.Loading
