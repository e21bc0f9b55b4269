/-!
# The Mersenne twister

A generator of 32-bit words with a state of 624 words.  The state is seeded by a list of key words
and replaced as a whole when all of its words are used.
-/

namespace SchemaArtifacts.Random

structure Twister where
  words : Array UInt32
  /-- How many words of the state are used. -/
  used : Nat
  deriving Repr

namespace Twister

def size : Nat := 624

def shift : Nat := 397

def word (words : Array UInt32) (index : Nat) : UInt32 := words.getD index 0

def folded (w : UInt32) : UInt32 := w ^^^ (w >>> 30)

def initial (seed : UInt32) : Array UInt32 :=
  (List.range (size - 1)).foldl
    (fun words index =>
      words.push (1812433253 * folded (word words index) + UInt32.ofNat (index + 1)))
    #[seed]

/-- The place after a place in a state, which is never the first one: that is a copy of the
last. -/
def advance (words : Array UInt32) (place : Nat) : Array UInt32 × Nat :=
  if place + 1 < size then (words, place + 1)
  else (words.setIfInBounds 0 (word words (size - 1)), 1)

/-- Mixes a key into a state, starting at `place` of the state and `at` of the key. -/
def mixKey (key : Array UInt32) : Nat → Array UInt32 → Nat → Nat → Array UInt32 × Nat
  | 0, words, place, _ => (words, place)
  | count + 1, words, place, at_ =>
    let mixed := (word words place ^^^ (folded (word words (place - 1)) * 1664525)) +
      word key at_ + UInt32.ofNat at_
    let (words, place) := advance (words.setIfInBounds place mixed) place
    mixKey key count words place (if at_ + 1 < key.size then at_ + 1 else 0)

def mixPlaces : Nat → Array UInt32 → Nat → Array UInt32
  | 0, words, _ => words
  | count + 1, words, place =>
    let mixed := (word words place ^^^ (folded (word words (place - 1)) * 1566083941)) -
      UInt32.ofNat place
    let (words, place) := advance (words.setIfInBounds place mixed) place
    mixPlaces count words place

def ofKey (key : Array UInt32) : Twister :=
  let (words, place) := mixKey key (max size key.size) (initial 19650218) 1 0
  { words := (mixPlaces (size - 1) words place).setIfInBounds 0 0x80000000, used := size }

def keyWords (n : Nat) : List UInt32 :=
  if n < 0x100000000 then [UInt32.ofNat n]
  else UInt32.ofNat (n % 0x100000000) :: keyWords (n / 0x100000000)
termination_by n
decreasing_by omega

def ofSeed (seed : Nat) : Twister := ofKey (keyWords seed).toArray

def twistWord (upper lower : UInt32) : UInt32 :=
  let joined := (upper &&& 0x80000000) ||| (lower &&& 0x7fffffff)
  (joined >>> 1) ^^^ (if joined &&& 1 = 0 then 0 else 0x9908b0df)

def twist (words : Array UInt32) : Array UInt32 :=
  (List.range size).foldl
    (fun words index =>
      words.setIfInBounds index
        (word words ((index + shift) % size) ^^^
          twistWord (word words index) (word words ((index + 1) % size))))
    words

def temper (w : UInt32) : UInt32 :=
  let w := w ^^^ (w >>> 11)
  let w := w ^^^ ((w <<< 7) &&& 0x9d2c5680)
  let w := w ^^^ ((w <<< 15) &&& 0xefc60000)
  w ^^^ (w >>> 18)

def next (twister : Twister) : UInt32 × Twister :=
  let fresh := if twister.used < size then twister else ⟨twist twister.words, 0⟩
  (temper (word fresh.words fresh.used), { fresh with used := fresh.used + 1 })

def number (twister : Twister) : Nat → Nat × Twister
  | 0 => (0, twister)
  | count + 1 =>
    let (low, twister) := twister.next
    let (rest, twister) := twister.number count
    (low.toNat + 0x100000000 * rest, twister)

end Twister

end SchemaArtifacts.Random
