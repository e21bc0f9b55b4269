import SchemaArtifacts.Fault
import SchemaArtifacts.Random.Digest

/-!
# Seeds

Every value that is not a list or an object seeds the generator: whole numbers by their size, other
numbers by their residue, texts by their bytes with a digest after them.
-/

namespace SchemaArtifacts.Random.Seed

def modulus : Nat := (1 <<< 61) - 1

/-- The residue of a number: a whole number of units times the inverse of those in one, which are
`2 ^ 1074`.  The inverse is a power of two, since the modulus is one less than such a power. -/
def residue : Binary64 → Int
  | .nan => 0
  | .infinite negative => if negative then -314159 else 314159
  | .finite negative units =>
    let size : Int := ((units <<< 24) % modulus : Nat)
    if !negative then size else if size = 1 then -2 else -size

/-- A whole number as a word of 64 bits, negative ones counted down from above. -/
def ofResidue (n : Int) : Nat := (n % 0x10000000000000000).toNat

def ofText (s : String) : Nat :=
  let bytes := s.toUTF8.toList
  (Digest.numberOf bytes <<< 512) + Digest.ofBytes bytes

def wrongType : Fault :=
  .wrongType "The only supported seed types are: None,\nint, float, str, bytes, and bytearray."

def ofJson : Json → Except Fault (Option Nat)
  | .null => .ok none
  | .int seed => .ok (some seed.natAbs)
  | .bool value => .ok (some (if value then 1 else 0))
  | .float value => .ok (some (ofResidue (residue value)))
  | .str s => .ok (some (ofText s))
  | _ => .error wrongType

end SchemaArtifacts.Random.Seed
