/-!
# Decimal numerals

Whole numbers written with the digits `0` to `9`, without leading zeros, and read back.
-/

namespace SchemaArtifacts.Text

def digitChar (n : Nat) : Char := Char.ofNat (48 + n % 10)

def digitValue (c : Char) : Nat := c.toNat - 48

def numeralChars (n : Nat) : List Char :=
  if n < 10 then [digitChar n] else numeralChars (n / 10) ++ [digitChar n]
termination_by n
decreasing_by omega

def numeral (n : Nat) : String := String.ofList (numeralChars n)

def signedNumeral : Int → String
  | .ofNat n => numeral n
  | .negSucc n => "-" ++ numeral (n + 1)

def numeralValue (digits : List Char) : Nat :=
  digits.foldl (fun value c => value * 10 + digitValue c) 0

def paddedNumeral (width n : Nat) : String :=
  let digits := numeralChars n
  String.ofList (List.replicate (width - digits.length) '0' ++ digits)

theorem digitValue_digitChar (n : Nat) : digitValue (digitChar n) = n % 10 := by
  have all : ∀ m : Fin 10, digitValue (digitChar m.val) = m.val := by decide
  have := all ⟨n % 10, Nat.mod_lt _ (by decide)⟩
  simpa [digitChar, Nat.mod_mod] using this

theorem numeralValue_append (digits : List Char) (c : Char) :
    numeralValue (digits ++ [c]) = numeralValue digits * 10 + digitValue c := by
  simp [numeralValue]

theorem numeralValue_numeralChars (n : Nat) : numeralValue (numeralChars n) = n := by
  fun_induction numeralChars n with
  | case1 n h =>
    simp only [numeralValue, List.foldl_cons, List.foldl_nil, digitValue_digitChar]
    omega
  | case2 n h ih => rw [numeralValue_append, ih, digitValue_digitChar]; omega

theorem numeral_inj {m n : Nat} : numeral m = numeral n ↔ m = n := by
  constructor
  · intro h
    have := congrArg numeralValue (String.ofList_inj.1 h)
    simpa [numeralValue_numeralChars] using this
  · rintro rfl
    rfl

end SchemaArtifacts.Text
