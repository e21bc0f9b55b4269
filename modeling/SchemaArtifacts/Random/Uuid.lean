import SchemaArtifacts.Random.Twister
import SchemaArtifacts.Text.Hex

/-!
# Universally unique identifiers

An identifier has 128 bits, of which version 4 fixes six: the version and the variant.  A source
gives identifiers one after the other, from a list that starts over at its end, from a seed, or as
it answers each call.
-/

namespace SchemaArtifacts.Random

open Text

def asVersion4 (n : Nat) : Nat :=
  let low := n % (1 <<< 62)
  let middle := (n >>> 64) % (1 <<< 12)
  let high := (n >>> 80) % (1 <<< 48)
  (high <<< 80) + (4 <<< 76) + (middle <<< 64) + (2 <<< 62) + low

def uuidText (n : Nat) : String :=
  String.intercalate "-"
    [hex 8 (n >>> 96), hex 4 (n >>> 80), hex 4 (n >>> 64), hex 4 (n >>> 48), hex 12 n]

inductive UuidSource
  /-- The first item comes next, and goes to the end. -/
  | listed (items : List String)
  | seeded (state : Twister)
  /-- An answer for each call, and how many calls there were. -/
  | called (answer : Nat → String) (calls : Nat)

namespace UuidSource

def ofSeed (seed : Nat) : UuidSource := seeded (.ofSeed seed)

def draw : StateM UuidSource String := fun source =>
  match source with
  | listed [] => ("", listed [])
  | listed (item :: rest) => (item, listed (rest ++ [item]))
  | seeded state =>
    let (n, state) := state.number 4
    (uuidText (asVersion4 n), seeded state)
  | called answer calls => (answer calls, called answer (calls + 1))

def take : Nat → StateM UuidSource (List String)
  | 0 => pure []
  | count + 1 => do return (← draw) :: (← take count)

end UuidSource

end SchemaArtifacts.Random
