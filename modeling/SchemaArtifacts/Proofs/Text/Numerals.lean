import Mathlib.Data.List.Lex
import SchemaArtifacts.Text.CharSet
import SchemaArtifacts.Text.Numeral
import SchemaArtifacts.Text.Word

/-!
# Characters of a numeral

A numeral is not empty and holds nothing but digits.  Numerals that are padded to one width stand in
the order of their numbers, whatever follows them.
-/

namespace SchemaArtifacts.Text

theorem isAsciiDigit_digitChar (n : Nat) : isAsciiDigit (digitChar n) = true := by
  have all : ∀ m : Fin 10, isAsciiDigit (Char.ofNat (48 + m.val)) = true := by decide
  exact all ⟨n % 10, Nat.mod_lt _ (by decide)⟩

theorem isAsciiDigit_of_mem_numeralChars {n : Nat} {c : Char} (mem : c ∈ numeralChars n) :
    isAsciiDigit c = true := by
  fun_induction numeralChars n with
  | case1 n small =>
      rw [List.mem_singleton.mp mem]
      exact isAsciiDigit_digitChar n
  | case2 n large ih =>
      rcases List.mem_append.mp mem with earlier | last
      · exact ih earlier
      · rw [List.mem_singleton.mp last]
        exact isAsciiDigit_digitChar n

theorem numeralChars_ne_nil (n : Nat) : numeralChars n ≠ [] := by
  rw [numeralChars]
  split <;> simp

theorem length_numeralChars_le (n : Nat) : (numeralChars n).length ≤ n + 1 := by
  fun_induction numeralChars n with
  | case1 n small => simp
  | case2 n large ih =>
      rw [List.length_append, List.length_singleton]
      omega

theorem head?_numeralChars_ne_zero {n : Nat} (positive : 0 < n) :
    (numeralChars n).head? ≠ some '0' := by
  fun_induction numeralChars n with
  | case1 n small =>
      have all : ∀ m : Fin 10, 0 < m.val → Char.ofNat (48 + m.val) ≠ '0' := by decide
      have digit := all ⟨n % 10, Nat.mod_lt _ (by decide)⟩ (by simpa [Nat.mod_eq_of_lt small])
      simpa [digitChar] using digit
  | case2 n large ih =>
      rw [List.head?_append, List.head?_eq_some_head (numeralChars_ne_nil _), Option.some_or,
        ← List.head?_eq_some_head]
      exact ih (by omega)

theorem numeralChars_eq_cons (n : Nat) :
    ∃ c rest, numeralChars n = c :: rest ∧ isAsciiDigit c = true := by
  cases chars : numeralChars n with
  | nil => exact absurd chars (numeralChars_ne_nil n)
  | cons c rest =>
      refine ⟨c, rest, rfl, ?_⟩
      exact isAsciiDigit_of_mem_numeralChars (n := n) (by simp [chars])

theorem isBlank_of_isAsciiDigit {c : Char} (digit : isAsciiDigit c = true) : isBlank c = false := by
  have bounds : 48 ≤ c.toNat ∧ c.toNat ≤ 57 := by
    simpa [isAsciiDigit, Char.le_def, UInt32.le_iff_toNat_le] using digit
  simp only [isBlank, blanks, CharSet.contains, List.any_cons, List.any_nil, Bool.or_false,
    Bool.or_eq_false_iff, Bool.and_eq_false_iff, decide_eq_false_iff_not]
  omega

theorem isBlank_of_mem_signedNumeral {value : Int} {c : Char}
    (mem : c ∈ (signedNumeral value).toList) : isBlank c = false := by
  cases value with
  | ofNat n =>
      rw [signedNumeral, numeral, String.toList_ofList] at mem
      exact isBlank_of_isAsciiDigit (isAsciiDigit_of_mem_numeralChars mem)
  | negSucc n =>
      rw [signedNumeral, numeral, String.toList_append] at mem
      rcases List.mem_append.mp mem with dash | digit
      · obtain rfl : c = '-' := by simpa using dash
        decide
      · rw [String.toList_ofList] at digit
        exact isBlank_of_isAsciiDigit (isAsciiDigit_of_mem_numeralChars digit)

theorem append_lt_append {cs ds : List Char} (before : cs < ds) (width : cs.length = ds.length)
    (first second : List Char) : cs ++ first < ds ++ second := by
  induction before with
  | nil => simp at width
  | rel smaller => exact List.Lex.rel smaller
  | cons _ ih => exact List.Lex.cons (ih (Nat.succ.inj width))

theorem digitChar_lt {m n : Nat} (smaller : m % 10 < n % 10) : digitChar m < digitChar n := by
  have all : ∀ a b : Fin 10, a < b → Char.ofNat (48 + a.val) < Char.ofNat (48 + b.val) := by decide
  exact all ⟨m % 10, Nat.mod_lt _ (by decide)⟩ ⟨n % 10, Nat.mod_lt _ (by decide)⟩ smaller

theorem toList_paddedNumeral (width n : Nat) :
    (paddedNumeral width n).toList =
      List.replicate (width - (numeralChars n).length) '0' ++ numeralChars n := by
  rw [paddedNumeral, String.toList_ofList]

theorem toList_paddedNumeral_one {n : Nat} (small : n < 10) :
    (paddedNumeral 1 n).toList = [digitChar n] := by
  rw [toList_paddedNumeral, numeralChars, if_pos small]
  rfl

theorem toList_paddedNumeral_succ {width : Nat} (wide : 1 ≤ width) (n : Nat) :
    (paddedNumeral (width + 1) n).toList =
      (paddedNumeral width (n / 10)).toList ++ [digitChar n] := by
  rw [toList_paddedNumeral, toList_paddedNumeral, numeralChars]
  split
  case isTrue small =>
    obtain ⟨zeros, rfl⟩ := Nat.exists_eq_add_of_le' wide
    have none : numeralChars (n / 10) = ['0'] := by
      rw [Nat.div_eq_of_lt small, numeralChars]
      rfl
    rw [none, ← List.replicate_succ']
    rfl
  case isFalse => simp

theorem length_paddedNumeral {width n : Nat} (wide : 1 ≤ width) (bound : n < Nat.pow 10 width) :
    (paddedNumeral width n).toList.length = width := by
  induction width, wide using Nat.le_induction generalizing n with
  | base => rw [toList_paddedNumeral_one bound, List.length_singleton]
  | succ width wide ih =>
      have fewer : n / 10 < Nat.pow 10 width := by
        rw [Nat.div_lt_iff_lt_mul (by decide)]
        exact bound
      rw [toList_paddedNumeral_succ wide, List.length_append, ih fewer, List.length_singleton]

theorem paddedNumeral_lt {width m n : Nat} (wide : 1 ≤ width) (smaller : m < n)
    (bound : n < Nat.pow 10 width) :
    (paddedNumeral width m).toList < (paddedNumeral width n).toList := by
  induction width, wide using Nat.le_induction generalizing m n with
  | base =>
      have small : n < 10 := bound
      rw [toList_paddedNumeral_one (smaller.trans small), toList_paddedNumeral_one small]
      exact List.Lex.rel (digitChar_lt (by omega))
  | succ width wide ih =>
      have fewer : n / 10 < Nat.pow 10 width := by
        rw [Nat.div_lt_iff_lt_mul (by decide)]
        exact bound
      rw [toList_paddedNumeral_succ wide, toList_paddedNumeral_succ wide]
      rcases Nat.lt_or_eq_of_le (Nat.div_le_div_right smaller.le) with others | same
      · refine append_lt_append (ih others fewer) ?_ _ _
        rw [length_paddedNumeral wide fewer, length_paddedNumeral wide (others.trans fewer)]
      · rw [same]
        exact List.append_left_lt (List.Lex.rel (digitChar_lt (by omega)))

theorem paddedNumeral_of_length {width n : Nat} (full : (numeralChars n).length = width) :
    paddedNumeral width n = numeral n := by
  rw [paddedNumeral, full, Nat.sub_self]
  rfl

end SchemaArtifacts.Text
