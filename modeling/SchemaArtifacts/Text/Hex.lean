/-!
# Hexadecimal digits

Numbers in lower-case hexadecimal with a fixed count of digits, and digits read back.
-/

namespace SchemaArtifacts.Text

def hexDigit (n : Nat) : Char :=
  if n % 16 < 10 then Char.ofNat (48 + n % 16) else Char.ofNat (87 + n % 16)

def hexDigitValue? (c : Char) : Option Nat :=
  if '0' ≤ c && c ≤ '9' then some (c.toNat - 48)
  else if 'a' ≤ c && c ≤ 'f' then some (c.toNat - 87)
  else if 'A' ≤ c && c ≤ 'F' then some (c.toNat - 55)
  else none

def hexChars : Nat → Nat → List Char
  | 0, _ => []
  | width + 1, n => hexChars width (n / 16) ++ [hexDigit n]

def hex (width n : Nat) : String := String.ofList (hexChars width n)

theorem hexDigitValue?_hexDigit (n : Nat) : hexDigitValue? (hexDigit n) = some (n % 16) := by
  have h : n % 16 < 16 := Nat.mod_lt _ (by decide)
  have all : ∀ m : Fin 16, hexDigitValue? (hexDigit m.val) = some m.val := by decide
  have := all ⟨n % 16, h⟩
  simpa [hexDigit, Nat.mod_mod] using this

end SchemaArtifacts.Text
