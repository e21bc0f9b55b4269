import SchemaArtifacts.Proofs.Text.Reading

/-!
# Patterns of stretches

A pattern is a row of stretches, each of characters of one kind.  A stretch takes as many characters
as there are and gives them back, one at a time, as long as the stretches after it find no match.
Matches are replaced from left to right.
-/

namespace SchemaArtifacts.Text

/-- A stretch of allowed characters, `least` of them or more. -/
structure Stretch where
  allows : Char → Bool
  least : Nat

/-- How many characters a stretch can take from the start of a text, the most of them first. -/
def Stretch.choices (stretch : Stretch) (cs : List Char) : List Nat :=
  (List.range' stretch.least
    ((cs.takeWhile stretch.allows).length + 1 - stretch.least)).reverse

def afterStretches? : List Stretch → List Char → Option (List Char)
  | [], cs => some cs
  | stretch :: others, cs =>
    (stretch.choices cs).findSome? fun taken => afterStretches? others (cs.drop taken)

def leastLength : List Stretch → Nat
  | [] => 0
  | stretch :: others => stretch.least + leastLength others

structure Pattern where
  stretches : List Stretch
  takes : 0 < leastLength stretches := by decide

section Matches

variable {stretch : Stretch} {others : List Stretch} {run rest cs : List Char}

theorem Stretch.mem_choices {taken : Nat} :
    taken ∈ stretch.choices cs ↔
      stretch.least ≤ taken ∧ taken ≤ (cs.takeWhile stretch.allows).length := by
  rw [choices, List.mem_reverse, List.mem_range'_1]
  omega

theorem length_afterStretches? {stretches : List Stretch}
    (found : afterStretches? stretches cs = some rest) :
    rest.length + leastLength stretches ≤ cs.length := by
  induction stretches generalizing cs with
  | nil => simp [Option.some.inj found, leastLength]
  | cons stretch others ih =>
      rw [afterStretches?] at found
      obtain ⟨taken, mem, later⟩ := List.exists_of_findSome?_eq_some found
      obtain ⟨enough, most⟩ := Stretch.mem_choices.mp mem
      have within := (List.takeWhile_prefix stretch.allows (l := cs)).length_le
      have shorter := ih later
      rw [List.length_drop] at shorter
      rw [leastLength]
      omega

theorem Pattern.length_lt {pattern : Pattern}
    (found : afterStretches? pattern.stretches cs = some rest) : rest.length < cs.length := by
  have shorter := length_afterStretches? found
  have := pattern.takes
  omega

theorem Stretch.mem_choices_run (allowed : ∀ c ∈ run, stretch.allows c = true)
    (stops : ∀ c ∈ rest.head?, stretch.allows c = false) {taken : Nat} :
    taken ∈ stretch.choices (run ++ rest) ↔ stretch.least ≤ taken ∧ taken ≤ run.length := by
  rw [mem_choices, (span_append allowed stops).1]

theorem afterStretches?_of_longest (allowed : ∀ c ∈ run, stretch.allows c = true)
    (stops : ∀ c ∈ rest.head?, stretch.allows c = false) (enough : stretch.least ≤ run.length)
    {tail : List Char} (later : afterStretches? others rest = some tail) :
    afterStretches? (stretch :: others) (run ++ rest) = some tail := by
  have first : stretch.choices (run ++ rest) =
      run.length :: (List.range' stretch.least (run.length - stretch.least)).reverse := by
    rw [Stretch.choices, (span_append allowed stops).1, Nat.sub_add_comm enough,
      List.range'_1_concat, List.reverse_append, Nat.add_sub_cancel' enough]
    rfl
  rw [afterStretches?, first, List.findSome?_cons, List.drop_left, later]

theorem afterStretches?_of_agree (agree : ∀ taken ∈ stretch.choices cs, ∀ found,
      afterStretches? others (cs.drop taken) = some found → found = rest) {taken : Nat}
    (mem : taken ∈ stretch.choices cs)
    (found : afterStretches? others (cs.drop taken) = some rest) :
    afterStretches? (stretch :: others) cs = some rest := by
  rw [afterStretches?]
  cases first : (stretch.choices cs).findSome? fun taken =>
      afterStretches? others (cs.drop taken) with
  | none =>
      have missing := List.findSome?_eq_none_iff.mp first taken mem
      rw [found] at missing
      cases missing
  | some other =>
      obtain ⟨choice, chosen, later⟩ := List.exists_of_findSome?_eq_some first
      rw [agree choice chosen other later]

theorem afterStretches?_eq_none_iff :
    afterStretches? (stretch :: others) cs = none ↔
      ∀ taken ∈ stretch.choices cs, afterStretches? others (cs.drop taken) = none := by
  rw [afterStretches?, List.findSome?_eq_none_iff]

end Matches

def Pattern.substitute (pattern : Pattern) (replacement cs : List Char) : List Char :=
  match cs with
  | [] => []
  | c :: rest =>
    match _found : afterStretches? pattern.stretches (c :: rest) with
    | some tail => replacement ++ pattern.substitute replacement tail
    | none => c :: pattern.substitute replacement rest
termination_by cs.length
decreasing_by
  · exact Pattern.length_lt _found
  · exact Nat.lt_succ_self _

theorem Pattern.substitute_of_match {pattern : Pattern} {replacement cs tail : List Char}
    (found : afterStretches? pattern.stretches cs = some tail) :
    pattern.substitute replacement cs = replacement ++ pattern.substitute replacement tail := by
  cases cs with
  | nil => exact absurd (Pattern.length_lt found) (Nat.not_lt_zero _)
  | cons c rest =>
      rw [substitute]
      split <;> simp_all

theorem Pattern.substitute_of_no_match {pattern : Pattern} {replacement rest : List Char} {c : Char}
    (none_ : afterStretches? pattern.stretches (c :: rest) = none) :
    pattern.substitute replacement (c :: rest) = c :: pattern.substitute replacement rest := by
  rw [substitute]
  split <;> simp_all

end SchemaArtifacts.Text
