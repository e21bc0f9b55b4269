import SchemaArtifacts.Proofs.Escape.Line

/-!
# Lines broken in any way

A line of a text ends at a line feed, at a carriage return, or at both where they follow each other.
Texts with one of the two line endings between them have the lines of each, as long as no text ends
in a carriage return.
-/

namespace SchemaArtifacts.Text

open Escape

theorem universalBreaks_of_not_mem {cs : List Char} (absent : '\r' ∉ cs) :
    universalBreaks cs = cs := by
  fun_induction universalBreaks cs with
  | case1 => rfl
  | case2 rest ih => exact absurd List.mem_cons_self absent
  | case3 rest _ ih => exact absurd List.mem_cons_self absent
  | case4 c rest _ _ ih => rw [ih fun mem => absent (List.mem_cons_of_mem _ mem)]

theorem withUniversalBreaks_of_not_mem {s : String} (absent : '\r' ∉ s.toList) :
    withUniversalBreaks s = s := by
  rw [withUniversalBreaks, universalBreaks_of_not_mem absent, String.ofList_toList]

def brokenLines (cs : List Char) : List (List Char) := lineChars (universalBreaks cs)

theorem universalBreaks_cons_return {rest : List Char} (alone : rest.head? ≠ some '\n') :
    universalBreaks ('\r' :: rest) = '\n' :: universalBreaks rest := by
  rw [universalBreaks]
  rintro others rfl
  exact alone rfl

theorem getLast?_cons_of_getLast? {cs : List Char} {c : Char} (ends : cs.getLast? = some c)
    (first : Char) : (first :: cs).getLast? = some c := by
  rw [List.getLast?_cons, ends, Option.getD_some]

theorem universalBreaks_append {cs rest : List Char}
    (apart : cs.getLast? = some '\r' → rest.head? ≠ some '\n') :
    universalBreaks (cs ++ rest) = universalBreaks cs ++ universalBreaks rest := by
  fun_induction universalBreaks cs with
  | case1 => rfl
  | case2 cs ih =>
      have later := ih fun ends =>
        apart (getLast?_cons_of_getLast? (getLast?_cons_of_getLast? ends _) _)
      simp [universalBreaks, later]
  | case3 cs alone ih =>
      have later := ih fun ends => apart (getLast?_cons_of_getLast? ends _)
      rw [List.cons_append, universalBreaks_cons_return, later, List.cons_append]
      cases cs with
      | nil => exact apart rfl
      | cons c cs =>
          intro start
          obtain rfl : c = '\n' := Option.some.inj start
          exact alone cs rfl
  | case4 c cs other plain ih =>
      have later := ih fun ends => apart (getLast?_cons_of_getLast? ends _)
      rw [List.cons_append, universalBreaks, later, List.cons_append]
      · rintro _ rfl
        exact absurd rfl plain
      · exact plain

theorem brokenLines_append_ending {ending : String} (known : ending ∈ ["\n", "\r\n"])
    {cs : List Char} (apart : cs.getLast? ≠ some '\r') (rest : List Char) :
    brokenLines (cs ++ ending.toList ++ rest) = brokenLines cs ++ brokenLines rest := by
  have broken : universalBreaks (ending.toList ++ rest) = '\n' :: universalBreaks rest := by
    simp only [List.mem_cons, List.not_mem_nil, or_false] at known
    rcases known with rfl | rfl <;> rfl
  rw [brokenLines, List.append_assoc, universalBreaks_append fun ends => absurd ends apart, broken,
    lineChars_append_break]
  rfl

theorem brokenLines_intercalate {ending : String} (known : ending ∈ ["\n", "\r\n"])
    {parts : List String} (nonempty : parts ≠ [])
    (apart : ∀ part ∈ parts, part.toList.getLast? ≠ some '\r') :
    brokenLines (ending.intercalate parts).toList =
      parts.flatMap fun part => brokenLines part.toList := by
  induction parts with
  | nil => exact absurd rfl nonempty
  | cons part rest ih =>
      obtain ⟨first, later⟩ := List.forall_mem_cons.mp apart
      cases rest with
      | nil => simp [String.intercalate_singleton]
      | cons next others =>
          rw [String.intercalate_cons_cons, String.toList_append, String.toList_append,
            brokenLines_append_ending known first, ih (by simp) later]
          rfl

theorem brokenLines_ne_nil (cs : List Char) : brokenLines cs ≠ [] := List.splitOn_ne_nil _ _

theorem mem_universalBreaks {cs : List Char} {c : Char} (mem : c ∈ cs)
    (breaks : isLineBreak c = true) : '\n' ∈ universalBreaks cs := by
  fun_induction universalBreaks cs with
  | case1 => exact absurd mem List.not_mem_nil
  | case2 | case3 => exact List.mem_cons_self
  | case4 first cs other plain ih =>
      rcases List.mem_cons.mp mem with rfl | later
      · have either : c = '\n' ∨ c = '\r' := by simpa [isLineBreak] using breaks
        exact either.resolve_right plain ▸ List.mem_cons_self
      · exact List.mem_cons_of_mem _ (ih later)

theorem brokenLines_of_isOneLine {s : String} (single : IsOneLine s) :
    brokenLines s.toList = [s.toList] := by
  have noReturn : '\r' ∉ s.toList := fun mem => absurd (single _ mem) (by decide)
  rw [brokenLines, universalBreaks_of_not_mem noReturn, lineChars_of_not_mem single.isUnbroken]

theorem length_brokenLines_eq_one_iff {s : String} :
    (brokenLines s.toList).length = 1 ↔ IsOneLine s := by
  refine ⟨fun single c mem => ?_, fun single => by rw [brokenLines_of_isOneLine single]; rfl⟩
  by_contra breaks
  obtain ⟨first, last, cut⟩ :=
    List.append_of_mem (mem_universalBreaks mem (Bool.not_eq_false _ ▸ breaks))
  have positive := List.length_pos_of_ne_nil (List.splitOn_ne_nil '\n' first)
  have positive' := List.length_pos_of_ne_nil (List.splitOn_ne_nil '\n' last)
  rw [brokenLines, cut, lineChars_append_break, List.length_append, lineChars, lineChars] at single
  omega

end SchemaArtifacts.Text
