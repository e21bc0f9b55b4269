import Mathlib.Data.List.Basic

/-!
# Joined texts

What a text that is joined from parts tells of a part that may be absent, and how it starts and
ends.
-/

namespace SchemaArtifacts.Text

section Joined

variable (separator : String) (before after : List String)

theorem length_intercalate_lt {part : String} (filled : part ≠ "") :
    (separator.intercalate (before ++ after)).length <
      (separator.intercalate (before ++ part :: after)).length := by
  have positive : 0 < part.length := Nat.pos_of_ne_zero (by simpa using filled)
  induction before with
  | nil =>
      cases after with
      | nil => simpa [String.intercalate_singleton] using positive
      | cons next rest =>
          simp only [List.nil_append, String.intercalate_cons_cons, String.length_append]
          omega
  | cons first before ih =>
      have nonempty : before ++ part :: after ≠ [] := by simp
      rw [List.cons_append, List.cons_append, String.intercalate_cons_of_ne_nil nonempty]
      by_cases alone : before ++ after = []
      · obtain ⟨rfl, rfl⟩ := List.append_eq_nil_iff.mp alone
        simp only [List.nil_append, String.intercalate_singleton, String.length_append]
        omega
      · simp only [String.intercalate_cons_of_ne_nil alone, String.length_append]
        omega

theorem intercalate_middle_inj {first second : String} :
    separator.intercalate (before ++ first :: after) =
      separator.intercalate (before ++ second :: after) ↔ first = second := by
  induction before with
  | nil =>
      cases after with
      | nil => simp [String.intercalate_singleton]
      | cons next rest => simp [String.intercalate_cons_cons, String.append_assoc]
  | cons part before ih =>
      rw [List.cons_append, List.cons_append, String.intercalate_cons_of_ne_nil (by simp),
        String.intercalate_cons_of_ne_nil (by simp), String.append_right_inj, ih]

theorem intercalate_optional_inj {first second : Option String} (filled : first ≠ some "")
    (filled' : second ≠ some "") :
    separator.intercalate (before ++ (first.toList ++ after)) =
      separator.intercalate (before ++ (second.toList ++ after)) ↔ first = second := by
  refine ⟨fun same => ?_, fun same => by rw [same]⟩
  cases first with
  | none =>
      cases second with
      | none => rfl
      | some part =>
          have longer := length_intercalate_lt separator before after
            fun empty : part = "" => filled' (empty ▸ rfl)
          exact absurd (congrArg String.length same) (Nat.ne_of_lt longer)
  | some part =>
      cases second with
      | none =>
          have longer := length_intercalate_lt separator before after
            fun empty : part = "" => filled (empty ▸ rfl)
          exact absurd (congrArg String.length same).symm (Nat.ne_of_lt longer)
      | some other =>
          exact congrArg some ((intercalate_middle_inj separator before after).mp same)

end Joined

theorem exists_eq_append {start s : String} (starts : ∃ rest, s = start ++ rest) (more : String) :
    ∃ rest, s ++ more = start ++ rest := by
  obtain ⟨rest, rfl⟩ := starts
  exact ⟨rest ++ more, String.append_assoc⟩

theorem getLast?_append {s rest : String} {c : Char} (ends : rest.toList.getLast? = some c) :
    (s ++ rest).toList.getLast? = some c := by
  rw [String.toList_append, List.getLast?_append, ends, Option.some_or]

theorem getLast?_intercalate {separator part : String} {parts : List String} {c : Char}
    (last : parts.getLast? = some part) (ends : part.toList.getLast? = some c) :
    (separator.intercalate parts).toList.getLast? = some c := by
  induction parts with
  | nil => cases last
  | cons first rest ih =>
      cases rest with
      | nil =>
          obtain rfl : first = part := by simpa using last
          rwa [String.intercalate_singleton]
      | cons next others =>
          rw [String.intercalate_cons_cons]
          exact getLast?_append (ih (by simpa using last))

end SchemaArtifacts.Text
