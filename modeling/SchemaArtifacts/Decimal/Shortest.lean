import SchemaArtifacts.Decimal.Binary64
import SchemaArtifacts.Text.Numeral

/-!
# Shortest decimals

A finite number is written with the fewest digits that read back as it, and of the decimals with
that many digits with the one nearest to it.  For each number of digits only the two decimals
around the value have to be tried.
-/

namespace SchemaArtifacts

open Text

structure Decimal where
  digits : Nat
  exponent : Int
  deriving DecidableEq, Repr

namespace Decimal

def toBinary64 (decimal : Decimal) (negative : Bool) : Binary64 :=
  Binary64.ofDecimal negative decimal.digits decimal.exponent

def normalize : Nat → Decimal → Decimal
  | 0, decimal => decimal
  | fuel + 1, decimal =>
    if decimal.digits ≠ 0 ∧ decimal.digits % 10 = 0 then
      normalize fuel ⟨decimal.digits / 10, decimal.exponent + 1⟩
    else decimal

end Decimal

namespace Binary64

/-- The least power of ten that lifts a value below one to at least one, starting at `power`. -/
def liftingPower (units : Nat) : Nat → Nat → Nat
  | 0, power => power
  | fuel + 1, power =>
    if unitsPerOne ≤ units * Nat.pow 10 power then power else liftingPower units fuel (power + 1)

/-- The place of the first digit that is not zero: `0` for the ones, `1` for the tens. -/
def leadingPlace (units : Nat) : Int :=
  if unitsPerOne ≤ units then ((numeralChars (units / unitsPerOne)).length : Int) - 1
  else -(liftingPower units 324 1 : Int)

def quotientAt (units : Nat) (place : Int) : Nat × Nat :=
  if 0 ≤ place then (units, unitsPerOne * Nat.pow 10 place.toNat)
  else (units * Nat.pow 10 (-place).toNat, unitsPerOne)

/-- The decimal at a place that reads back as the value: the nearer neighbour if both do. -/
def decimalAt? (units : Nat) (place : Int) : Option Decimal :=
  let (numerator, denominator) := quotientAt units place
  let lower : Decimal := ⟨numerator / denominator, place⟩
  let upper : Decimal := ⟨numerator / denominator + 1, place⟩
  let nearest : Decimal := ⟨roundQuotient numerator denominator, place⟩
  let readsBack := fun decimal : Decimal => decimal.toBinary64 false == finite false units
  if readsBack nearest then some nearest
  else if readsBack lower then some lower
  else if readsBack upper then some upper
  else none

def exactDecimal (units : Nat) : Decimal := ⟨units * Nat.pow 5 1074, -1074⟩

def shortestDecimal (units : Nat) : Decimal :=
  let place := leadingPlace units
  let found := (List.range 17).findSome? fun (extra : Nat) => decimalAt? units (place - extra)
  Decimal.normalize 20 (found.getD (exactDecimal units))

/-- Places of the decimal point, counted from the first digit, that are written without an
exponent. -/
def positional (point : Int) : Bool := -4 < point && point ≤ 16

def positionalChars (digits : List Char) (point : Int) : List Char :=
  if point ≤ 0 then '0' :: '.' :: List.replicate (-point).toNat '0' ++ digits
  else
    let whole := digits.take point.toNat
    let fraction := digits.drop point.toNat
    whole ++ List.replicate (point.toNat - digits.length) '0' ++
      '.' :: (if fraction.isEmpty then ['0'] else fraction)

def exponentChars (exponent : Int) : List Char :=
  'e' :: (if exponent < 0 then '-' else '+') :: (paddedNumeral 2 exponent.natAbs).toList

def scientificChars : List Char → Int → List Char
  | [], _ => []
  | [first], point => first :: exponentChars (point - 1)
  | first :: others, point => first :: '.' :: others ++ exponentChars (point - 1)

def magnitudeChars (units : Nat) : List Char :=
  if units = 0 then ['0', '.', '0']
  else
    let decimal := shortestDecimal units
    let digits := numeralChars decimal.digits
    let point := (digits.length : Int) + decimal.exponent
    if positional point then positionalChars digits point else scientificChars digits point

def signChars (negative : Bool) : List Char := if negative then ['-'] else []

/-- The shortest text that reads back: positional from `0.0001` to below `10¹⁶`, always with a
fraction or an exponent. -/
def shortestText : Binary64 → String
  | nan => "nan"
  | infinite negative => if negative then "-inf" else "inf"
  | finite negative units => String.ofList (signChars negative ++ magnitudeChars units)

end Binary64

end SchemaArtifacts
