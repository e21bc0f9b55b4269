import SchemaArtifacts.Text.CharSet

/-!
# Whole numbers in arguments

A whole number is a sign, if any, and decimal digits of any script, with blanks around it.  Single
underscores may separate digits.
-/

namespace SchemaArtifacts.Text

/-- The blanks that may stand around a number: those of the property `White_Space`, without the
information separators. -/
def isNumberBlank (c : Char) : Bool := isBlank c && !(0x1c ≤ c.toNat && c.toNat ≤ 0x1f)

def trimNumber (cs : List Char) : List Char :=
  ((cs.dropWhile isNumberBlank).reverse.dropWhile isNumberBlank).reverse

/-- The value of a decimal digit: each script has its ten digits in a row. -/
def decimalDigitValue (c : Char) : Nat :=
  match decimalDigits.find? fun interval => interval.1 ≤ c.toNat && c.toNat ≤ interval.2 with
  | some interval => (c.toNat - interval.1) % 10
  | none => 0

def separatedDigits? : List Char → Option (List Char)
  | [] => none
  | [c] => if isDecimalDigit c then some [c] else none
  | c :: '_' :: rest => if isDecimalDigit c then (separatedDigits? rest).map (c :: ·) else none
  | c :: rest => if isDecimalDigit c then (separatedDigits? rest).map (c :: ·) else none

def maxDigits : Nat := 4300

def natOfChars? (cs : List Char) : Option Nat := do
  let digits ← separatedDigits? cs
  if maxDigits < digits.length then none
  else some (digits.foldl (fun value c => value * 10 + decimalDigitValue c) 0)

def wholeNumber? (s : String) : Option Int :=
  match trimNumber s.toList with
  | '-' :: rest => (natOfChars? rest).map fun n => -(n : Int)
  | '+' :: rest => (natOfChars? rest).map Int.ofNat
  | cs => (natOfChars? cs).map Int.ofNat

/-- Whether a text looks like a negative number: a sign and digits, or a sign, digits if any, a
point and digits; one line feed may follow. -/
def isNegativeNumeral (s : String) : Bool :=
  match s.toList with
  | '-' :: cs =>
    let cs := if cs.getLast? = some '\n' then cs.dropLast else cs
    let whole := cs.takeWhile isDecimalDigit
    match cs.drop whole.length with
    | [] => !whole.isEmpty
    | '.' :: fraction => !fraction.isEmpty && fraction.all isDecimalDigit
    | _ => false
  | _ => false

end SchemaArtifacts.Text
