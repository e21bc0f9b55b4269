import SchemaArtifacts.Json.Reader
import SchemaArtifacts.Json.Writer
import SchemaArtifacts.Proofs.Text.Numerals
import SchemaArtifacts.Proofs.Text.Reading

/-!
# Texts and whole numbers of JSON

The reader takes back what the writer made of a text and of a whole number, and leaves what
follows.
-/

namespace SchemaArtifacts.Json

open Text

theorem fourHex?_hexDigits {n : Nat} (small : n < 0x10000) :
    fourHex? (hexDigit (n / 16 / 16 / 16)) (hexDigit (n / 16 / 16)) (hexDigit (n / 16))
      (hexDigit n) = some n := by
  simp only [fourHex?, hexDigitValue?_hexDigit, bind, Option.bind, pure]
  congr 1
  omega

theorem readText_unit (opening : Nat) {unit : Nat} {a b c d : Char} {rest : List Char}
    (read : fourHex? a b c d = some unit) (single : isHighSurrogate unit = false)
    (more : rest ≠ []) :
    readText opening ('\\' :: 'u' :: a :: b :: c :: d :: rest) =
      withChar (unitChar unit) (readText opening rest) := by
  rw [readText.eq_def]
  simp only [read]
  split <;> simp_all

theorem readText_plain {opening : Nat} {c : Char} {rest : List Char} (unquoted : c ≠ '"')
    (unescaped : c ≠ '\\') (printable : ¬ c.toNat < 0x20) :
    readText opening (c :: rest) = withChar c (readText opening rest) := by
  rw [readText, if_neg printable]
  · exact unquoted
  all_goals
    intros
    exact unescaped ‹c = '\\'›

theorem readText_escaped {opening : Nat} {c meant : Char} {rest : List Char} (known : c ≠ 'u')
    (escaped : escapedBy? c = some meant) :
    readText opening ('\\' :: c :: rest) = withChar meant (readText opening rest) := by
  rw [readText, escaped]
  all_goals
    intros
    exact known ‹c = 'u'›

theorem readText_escapedChar (opening : Nat) (c : Char) {rest : List Char} (more : rest ≠ []) :
    readText opening (escapedChar c ++ rest) = withChar c (readText opening rest) := by
  unfold escapedChar
  split
  · subst c; exact readText_escaped (by decide) rfl
  split
  · subst c; exact readText_escaped (by decide) rfl
  split
  · subst c; exact readText_escaped (by decide) rfl
  split
  · subst c; exact readText_escaped (by decide) rfl
  split
  · subst c; exact readText_escaped (by decide) rfl
  split
  · subst c; exact readText_escaped (by decide) rfl
  split
  · subst c; exact readText_escaped (by decide) rfl
  split
  · rename_i control
    have small : c.toNat < 0x10000 := by omega
    have single : isHighSurrogate c.toNat = false := by
      simp [isHighSurrogate]
      omega
    have char : unitChar c.toNat = c := by
      have low : ¬ (0xd800 ≤ c.toNat ∧ c.toNat < 0xe000) := by omega
      simp [unitChar, low]
    have read := readText_unit opening (fourHex?_hexDigits small) single more
    rw [char] at read
    exact read
  · rename_i unquoted unescaped _ _ _ _ _ printable
    exact readText_plain unquoted unescaped printable

theorem readText_escapedChars (opening : Nat) (cs rest : List Char) :
    readText opening (cs.flatMap escapedChar ++ '"' :: rest) = .ok (cs, rest) := by
  induction cs with
  | nil => rfl
  | cons c cs ih =>
      rw [List.flatMap_cons, List.append_assoc, readText_escapedChar opening c (by simp), ih]
      rfl

def EndsNumber (rest : List Char) : Prop :=
  ∀ c ∈ rest.head?, isAsciiDigit c = false ∧ c ≠ '.' ∧ c ≠ 'e' ∧ c ≠ 'E'

theorem takeWhole?_numeralChars (n : Nat) {rest : List Char} (ends : EndsNumber rest) :
    takeWhole? (numeralChars n ++ rest) = some (numeralChars n, rest) := by
  by_cases zero : n = 0
  · subst zero
    have self : numeralChars 0 = ['0'] := by
      rw [numeralChars]
      rfl
    rw [self]
    rfl
  · have digits : ∀ c ∈ numeralChars n, isAsciiDigit c = true :=
      fun c mem => isAsciiDigit_of_mem_numeralChars mem
    have first := head?_numeralChars_ne_zero (Nat.pos_of_ne_zero zero)
    cases chars : numeralChars n with
    | nil => exact absurd chars (numeralChars_ne_nil n)
    | cons d others =>
        rw [chars] at digits first
        have notZero : d ≠ '0' := by simpa using first
        have digit : isAsciiDigit d = true := digits d List.mem_cons_self
        have tail : ∀ c ∈ others, isAsciiDigit c = true :=
          fun c mem => digits c (List.mem_cons_of_mem _ mem)
        obtain ⟨taken, left⟩ := span_append tail fun c first => (ends c first).1
        simp only [List.cons_append, takeWhole?, if_neg notZero, digit, if_true, taken, left]

theorem takeFraction_of_ends {rest : List Char} (ends : EndsNumber rest) :
    takeFraction rest = ([], rest) := by
  cases rest with
  | nil => rfl
  | cons c more =>
      have point := (ends c rfl).2.1
      rw [takeFraction.eq_def]
      split <;> simp_all

theorem takeExponent_of_ends {rest : List Char} (ends : EndsNumber rest) :
    takeExponent rest = (none, rest) := by
  cases rest with
  | nil => rfl
  | cons c more =>
      obtain ⟨-, -, small, capital⟩ := ends c rfl
      simp [takeExponent, small, capital]

theorem takeSign_of_digit {c : Char} {rest : List Char} (digit : isAsciiDigit c = true) :
    takeSign (c :: rest) = (false, c :: rest) := by
  have unsigned : c ≠ '-' := by
    rintro rfl
    exact absurd digit (by decide)
  rw [takeSign.eq_def]
  split <;> simp_all

theorem takeSign_intChars (value : Int) (rest : List Char) :
    takeSign (intChars value ++ rest) =
      (decide (value < 0), numeralChars value.natAbs ++ rest) := by
  cases value with
  | ofNat n =>
      have unsigned : decide (Int.ofNat n < 0) = false := by simp
      rw [unsigned]
      change takeSign (numeralChars n ++ rest) = (false, numeralChars n ++ rest)
      cases chars : numeralChars n with
      | nil => exact absurd chars (numeralChars_ne_nil n)
      | cons d others =>
          apply takeSign_of_digit
          exact isAsciiDigit_of_mem_numeralChars (n := n) (by simp [chars])
  | negSucc n =>
      rw [decide_eq_true (Int.negSucc_lt_zero n)]
      rfl

theorem readNumber_intChars (value : Int) {rest : List Char} (ends : EndsNumber rest) :
    readNumber (intChars value ++ rest) =
      if maxDigits < (numeralChars value.natAbs).length then
        .error ⟨.longNumber, (intChars value ++ rest).length⟩
      else .ok (int value, rest) := by
  have size : (if value < 0 then -(value.natAbs : Int) else value.natAbs) = value := by
    split <;> omega
  simp only [readNumber, takeSign_intChars, takeWhole?_numeralChars _ ends,
    takeFraction_of_ends ends, takeExponent_of_ends ends, isTooLong, numberValue,
    numeralValue_numeralChars, List.isEmpty_nil, Option.isNone_none, Bool.true_and,
    decide_eq_true_eq, if_true, size]

end SchemaArtifacts.Json
