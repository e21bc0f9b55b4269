/-!
# Binary64 numbers

The numbers of the 64-bit binary format, as exact values: a finite one is a whole multiple of
`2⁻¹⁰⁷⁴` whose significand has at most 53 bits.  `ofRatio` rounds a quotient to the nearest such
number, and of two equally near ones to the one with an even significand.
-/

namespace SchemaArtifacts

inductive Binary64
  | nan
  | infinite (negative : Bool)
  | finite (negative : Bool) (units : Nat)
  deriving DecidableEq, Repr, Inhabited

namespace Binary64

def unitsPerOne : Nat := Nat.pow 2 1074

def unitsLimit : Nat := Nat.pow 2 (1024 + 1074)

/-- The whole number nearest to a quotient; a half goes to the even neighbour. -/
def roundQuotient (numerator denominator : Nat) : Nat :=
  let floor := numerator / denominator
  let remainder := numerator % denominator
  if 2 * remainder < denominator then floor
  else if denominator < 2 * remainder then floor + 1
  else if floor % 2 = 0 then floor
  else floor + 1

def unitsOfRatio (numerator denominator : Nat) : Nat :=
  let scaled := numerator * unitsPerOne
  let step := Nat.pow 2 (Nat.log2 (scaled / denominator) - 52)
  roundQuotient scaled (denominator * step) * step

def ofRatio (negative : Bool) (numerator denominator : Nat) : Binary64 :=
  let units := unitsOfRatio numerator denominator
  if units < unitsLimit then finite negative units else infinite negative

/-- The number nearest to `digits · 10 ^ exponent`.  Exponents far out of range are answered
without the power. -/
def ofDecimal (negative : Bool) (digits : Nat) (exponent : Int) : Binary64 :=
  if digits = 0 then finite negative 0
  else if 400 < exponent then infinite negative
  else if 0 ≤ exponent then ofRatio negative (digits * Nat.pow 10 exponent.toNat) 1
  else if Nat.log2 digits + 1100 < 3 * (-exponent).toNat then finite negative 0
  else ofRatio negative digits (Nat.pow 10 (-exponent).toNat)

def isZero : Binary64 → Bool
  | finite _ units => units == 0
  | _ => false

def isNegative : Binary64 → Bool
  | nan => false
  | infinite negative => negative
  | finite negative units => negative && units != 0

def truncated : Binary64 → Int
  | finite negative units =>
    if negative then -(units / unitsPerOne : Nat) else (units / unitsPerOne : Nat)
  | _ => 0

end Binary64

end SchemaArtifacts
