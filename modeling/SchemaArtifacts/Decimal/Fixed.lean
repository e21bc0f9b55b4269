import SchemaArtifacts.Decimal.Binary64
import SchemaArtifacts.Text.Numeral

/-!
# Fixed places

A number written with a fixed count of digits after the point.  The exact value is rounded, and a
half goes to the even neighbour; the sign stays also when nothing but zeros is left.
-/

namespace SchemaArtifacts.Binary64

open Text

def roundedAt (places units : Nat) : Nat := roundQuotient (units * Nat.pow 10 places) unitsPerOne

def fixedMagnitude (places units : Nat) : String :=
  let rounded := roundedAt places units
  let one := Nat.pow 10 places
  numeral (rounded / one) ++ "." ++ paddedNumeral places (rounded % one)

def fixedText (places : Nat) : Binary64 → String
  | nan => "nan"
  | infinite negative => if negative then "-inf" else "inf"
  | finite negative units => (if negative then "-" else "") ++ fixedMagnitude places units

end SchemaArtifacts.Binary64
