import SchemaArtifacts.Proofs.Json.ReadBack
import SchemaArtifacts.Proofs.Text.BrokenLines

/-!
# Line breaks of a written value

Texts are written with their carriage returns escaped, so a written value holds none and is taken
as it is by a reader that unifies line breaks.
-/

namespace SchemaArtifacts.Json

open Text

theorem hexDigit_ne_return (n : Nat) : hexDigit n ≠ '\r' := by
  intro same
  have value := hexDigitValue?_hexDigit n
  rw [same] at value
  exact absurd value (by simp [hexDigitValue?])

theorem return_not_mem_escapedChar (c : Char) : '\r' ∉ escapedChar c := by
  unfold escapedChar
  split
  · decide
  split
  · decide
  split
  · decide
  split
  · decide
  split
  · decide
  split
  · decide
  split
  · decide
  split
  · have digit (n : Nat) : '\r' ≠ hexDigit n := (hexDigit_ne_return n).symm
    simp [hexChars, digit]
  · rename_i plain _ _ _ _
    simpa using Ne.symm plain

theorem return_not_mem_textChars (s : String) : '\r' ∉ textChars s := by
  simp only [textChars, List.cons_append, List.mem_cons, List.mem_append, List.mem_flatMap,
    List.mem_nil_iff, or_false, not_or]
  refine ⟨by decide, ?_, by decide⟩
  rintro ⟨c, -, mem⟩
  exact return_not_mem_escapedChar c mem

theorem return_not_mem_intChars (value : Int) : '\r' ∉ intChars value := by
  have numeral (n : Nat) : '\r' ∉ numeralChars n := fun mem =>
    absurd (isAsciiDigit_of_mem_numeralChars mem) (by decide)
  cases value with
  | ofNat n => exact numeral n
  | negSucc n =>
      rw [intChars, List.mem_cons, not_or]
      exact ⟨by decide, numeral (n + 1)⟩

def Layout.KeepsBreaks (layout : Layout) : Prop := ∀ depth, '\r' ∉ layout.breakChars depth

theorem Layout.keepsBreaks_indented {unit : String} (absent : '\r' ∉ unit.toList) :
    (indented unit).KeepsBreaks := by
  intro depth mem
  rcases List.mem_cons.mp mem with same | mem
  · exact absurd same (by decide)
  · obtain ⟨chars, level, mem⟩ := List.mem_flatten.mp mem
    rw [List.eq_of_mem_replicate level] at mem
    exact absent mem

section Value

variable {layout : Layout} (keeps : layout.KeepsBreaks)
include keeps

theorem return_not_mem_separatorChars (depth : Nat) : '\r' ∉ layout.separatorChars depth := by
  cases layout with
  | line => simp [Layout.separatorChars]
  | indented unit =>
      rw [Layout.separatorChars, List.mem_cons, not_or]
      exact ⟨by decide, keeps depth⟩

theorem return_not_mem_itemsChars (depth : Nat) (items : List Json)
    (each : ∀ item ∈ items, '\r' ∉ chars layout depth item) :
    '\r' ∉ itemsChars layout depth items := by
  induction items with
  | nil => simp [itemsChars]
  | cons item others ih =>
      have first := each item List.mem_cons_self
      have later := ih fun other mem => each other (List.mem_cons_of_mem _ mem)
      cases others with
      | nil =>
          rw [itemsChars]
          exact first
      | cons next others =>
          rw [itemsChars_cons, List.mem_append, List.mem_append, not_or, not_or]
          exact ⟨first, return_not_mem_separatorChars keeps depth, later⟩

theorem return_not_mem_entriesChars (depth : Nat) (entries : List (String × Json))
    (each : ∀ entry ∈ entries, '\r' ∉ chars layout depth entry.2) :
    '\r' ∉ entriesChars layout depth entries := by
  induction entries with
  | nil => simp [entriesChars]
  | cons entry others ih =>
      have key := return_not_mem_textChars entry.1
      have first := each entry List.mem_cons_self
      have later := ih fun other mem => each other (List.mem_cons_of_mem _ mem)
      cases others with
      | nil =>
          rw [entriesChars_last]
          simp [key, first]
      | cons next others =>
          rw [entriesChars_cons]
          simp [key, first, later, return_not_mem_separatorChars keeps depth]

theorem IsPlain.return_not_mem_chars {value : Json} (plain : IsPlain value) (depth : Nat) :
    '\r' ∉ chars layout depth value := by
  induction plain generalizing depth with
  | null =>
      rw [chars]
      decide
  | bool value =>
      rw [chars]
      cases value <;> decide
  | int value =>
      rw [chars]
      exact return_not_mem_intChars value
  | str value =>
      rw [chars]
      exact return_not_mem_textChars value
  | @arr items each ih =>
      cases items with
      | nil =>
          rw [chars]
          decide
      | cons item others =>
          have inner := return_not_mem_itemsChars keeps (depth + 1) (item :: others)
            fun found mem => ih found mem (depth + 1)
          rw [chars]
          simp [inner, keeps depth, keeps (depth + 1)]
  | @obj entries distinct each ih =>
      cases entries with
      | nil =>
          rw [chars]
          decide
      | cons entry others =>
          have inner := return_not_mem_entriesChars keeps (depth + 1) (entry :: others)
            fun found mem => ih found mem (depth + 1)
          rw [chars]
          simp [inner, keeps depth, keeps (depth + 1)]

theorem IsPlain.withUniversalBreaks_write {value : Json} (plain : IsPlain value) :
    withUniversalBreaks (value.write layout) = value.write layout := by
  apply withUniversalBreaks_of_not_mem
  rw [write, String.toList_ofList]
  exact plain.return_not_mem_chars keeps 0

end Value

end SchemaArtifacts.Json
