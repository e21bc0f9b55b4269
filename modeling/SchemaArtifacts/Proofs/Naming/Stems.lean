import Mathlib.Data.List.DropRight
import Mathlib.Data.List.Forall2
import SchemaArtifacts.Proofs.Naming.Characters

/-!
# Stems of names

Of a name an identifier keeps its stem, which reaches from the first to the last of its plain
letters and digits; whatever else is inside becomes an underscore.  So two names are written alike
exactly if their stems are alike place by place, where a name without letters and digits counts as
`field`.
-/

namespace SchemaArtifacts.Naming

open Text

def isSign (c : Char) : Bool := isAsciiLetter c || isAsciiDigit c

def mark (c : Char) : Char := if isSign c then c else '_'

/-- The characters from the first letter or digit to the last one. -/
def stem (cs : List Char) : List Char := dropEnds (fun c => !isSign c) cs

theorem ne_underscore_of_isSign {c : Char} (sign : isSign c = true) : c ≠ '_' := by
  rintro rfl
  exact absurd sign (by decide)

theorem isNameChar_of_isSign {c : Char} (sign : isSign c = true) : isNameChar c = true := by
  rw [isNameChar, Bool.or_eq_true]
  exact .inl sign

theorem mark_of_isSign {c : Char} (sign : isSign c = true) : mark c = c := if_pos sign

theorem head?_rdropWhile {p : Char → Bool} {c : Char} (kept : p c = false) (rest : List Char) :
    ((c :: rest).rdropWhile p).head? = some c := by
  obtain ⟨first, others, left⟩ : ∃ first others, (c :: rest).rdropWhile p = first :: others := by
    refine List.exists_cons_of_ne_nil fun empty => ?_
    have dropped := List.rdropWhile_eq_nil_iff.mp empty c List.mem_cons_self
    rw [kept] at dropped
    cases dropped
  obtain ⟨tail, whole⟩ := List.rdropWhile_prefix p (l := c :: rest)
  rw [left] at whole ⊢
  exact congrArg some (List.cons.inj whole).1

theorem head?_dropEnds (p : Char → Bool) (cs : List Char) :
    (dropEnds p cs).head? = cs.find? fun c => !p c := by
  have ends : dropEnds p cs = (cs.dropWhile p).rdropWhile p := rfl
  induction cs with
  | nil => rfl
  | cons c rest ih =>
      cases kept : p c with
      | true =>
          rw [dropEnds, List.dropWhile_cons_of_pos kept, List.find?_cons_of_neg (by simp [kept])]
          exact ih rfl
      | false =>
          rw [ends, List.dropWhile_cons_of_neg (by simp [kept]), head?_rdropWhile kept,
            List.find?_cons_of_pos (by simp [kept])]

theorem dropEnds_map (p : Char → Bool) (write : Char → Char) (cs : List Char) :
    dropEnds p (cs.map write) = (dropEnds (p ∘ write) cs).map write := by
  simp [dropEnds, List.dropWhile_map, ← List.map_reverse]

theorem head?_stem (cs : List Char) : (stem cs).head? = cs.find? isSign := by
  simp [stem, head?_dropEnds]

theorem isIdentifierChar_eq {c : Char} (underscore : c ≠ '_') (hyphen : c ≠ '-') :
    isIdentifierChar c = isSign c := by
  simp [isIdentifierChar, isSign, beq_false_of_ne underscore, beq_false_of_ne hyphen]

theorem isFiller_cleaned (c : Char) :
    isFiller (if isIdentifierChar c then c else '_') = !isSign c := by
  by_cases underscore : c = '_'
  · subst underscore
    rfl
  by_cases hyphen : c = '-'
  · subst hyphen
    rfl
  cases sign : isSign c <;> simp [isIdentifierChar_eq, isFiller, underscore, hyphen, sign]

theorem mark_cleaned (c : Char) :
    (if (if isIdentifierChar c then c else '_') = '-' then '_'
      else if isIdentifierChar c then c else '_') = mark c := by
  by_cases underscore : c = '_'
  · subst underscore
    rfl
  by_cases hyphen : c = '-'
  · subst hyphen
    rfl
  cases sign : isSign c <;> simp [isIdentifierChar_eq, mark, underscore, hyphen, sign]

theorem guardDigit_map_hyphen (cs : List Char) :
    (guardDigit cs).map (fun c => if c = '-' then '_' else c) =
      guardDigit (cs.map fun c => if c = '-' then '_' else c) := by
  cases cs with
  | nil => decide
  | cons c rest =>
      have digit : isAsciiDigit (if c = '-' then '_' else c) = isAsciiDigit c := by
        split
        case isTrue hyphen =>
          subst hyphen
          rfl
        case isFalse => rfl
      rw [guardDigit, List.map_cons, guardDigit, digit]
      split <;> rfl

theorem cleanPlainChars_eq (cs : List Char) :
    cleanPlainChars cs = guardDigit ((stem cs).map mark) := by
  have trimmed : trimFiller (cs.map fun c => if isIdentifierChar c then c else '_') =
      (stem cs).map fun c => if isIdentifierChar c then c else '_' := by
    rw [stem, ← funext isFiller_cleaned]
    exact dropEnds_map ..
  rw [cleanPlainChars, cleanChars, guardDigit_map_hyphen, trimmed, List.map_map,
    ← funext mark_cleaned]
  rfl

def namedStem (name : String) : List Char :=
  if stem name.toList = [] then "field".toList else stem name.toList

theorem toList_cleanPlain (name : String) :
    (cleanPlain name).toList = guardDigit ((namedStem name).map mark) := by
  rw [cleanPlain, String.toList_ofList, cleanPlainChars_eq, namedStem]
  split
  case isTrue empty =>
    rw [empty]
    decide
  case isFalse => rfl

theorem isPlain_cleanPlain (name : String) : IsPlain (cleanPlain name).toList := by
  have marks : IsPlain ((namedStem name).map mark) := by
    intro c mem
    obtain ⟨d, -, rfl⟩ := List.mem_map.mp mem
    rw [mark]
    split
    case isTrue sign => exact isNameChar_of_isSign sign
    case isFalse => rfl
  rw [toList_cleanPlain]
  cases written : (namedStem name).map mark with
  | nil => decide
  | cons c rest =>
      rw [written] at marks
      rw [guardDigit]
      split
      · exact List.forall_mem_cons.mpr ⟨rfl, marks⟩
      · exact marks

/-- The first letter or digit of a name, or the first letter of the word for names without one. -/
def firstSign (name : String) : Char := (name.toList.find? isSign).getD 'f'

theorem isSign_firstSign (name : String) : isSign (firstSign name) = true := by
  rw [firstSign]
  cases found : name.toList.find? isSign with
  | none => rfl
  | some c => exact List.find?_some found

theorem namedStem_eq_cons (name : String) : ∃ rest, namedStem name = firstSign name :: rest := by
  rw [namedStem, firstSign, ← head?_stem]
  split
  case isTrue empty => exact ⟨"ield".toList, by rw [empty]; rfl⟩
  case isFalse nonempty =>
    obtain ⟨c, rest, starts⟩ := List.exists_cons_of_ne_nil nonempty
    exact ⟨rest, by rw [starts]; rfl⟩

theorem find?_cleanPlain (name : String) :
    (cleanPlain name).toList.find? (· != '_') = some (firstSign name) := by
  obtain ⟨rest, starts⟩ := namedStem_eq_cons name
  have sign := isSign_firstSign name
  rw [toList_cleanPlain, starts, List.map_cons, mark_of_isSign sign, guardDigit]
  split <;> simp [ne_underscore_of_isSign sign]

def LooksAlike (c d : Char) : Prop := c = d ∨ isSign c = false ∧ isSign d = false

instance : DecidableRel LooksAlike := fun c d =>
  inferInstanceAs (Decidable (c = d ∨ isSign c = false ∧ isSign d = false))

def StemsAgree (first second : String) : Prop :=
  List.Forall₂ LooksAlike (namedStem first) (namedStem second)

instance : DecidableRel StemsAgree := fun first second =>
  inferInstanceAs (Decidable (List.Forall₂ LooksAlike (namedStem first) (namedStem second)))

theorem mark_eq_mark_iff {c d : Char} : mark c = mark d ↔ LooksAlike c d := by
  have apart {c d : Char} (hc : isSign c = true) (hd : isSign d = false) : c ≠ d := by
    rintro rfl
    rw [hc] at hd
    cases hd
  cases hc : isSign c <;> cases hd : isSign d
  · simp [mark, LooksAlike, hc, hd]
  · simp [mark, LooksAlike, hc, hd, (apart hd hc).symm, (ne_underscore_of_isSign hd).symm]
  · simp [mark, LooksAlike, hc, hd, apart hc hd, ne_underscore_of_isSign hc]
  · simp [mark, LooksAlike, hc, hd]

theorem guardDigit_inj {c d : Char} {cs ds : List Char} (hc : c ≠ '_') (hd : d ≠ '_')
    (same : guardDigit (c :: cs) = guardDigit (d :: ds)) : c :: cs = d :: ds := by
  rw [guardDigit, guardDigit] at same
  split at same <;> split at same
  · exact (List.cons.inj same).2
  · exact absurd (List.cons.inj same).1.symm hd
  · exact absurd (List.cons.inj same).1 hc
  · exact same

theorem cleanPlain_eq_iff {first second : String} :
    cleanPlain first = cleanPlain second ↔ StemsAgree first second := by
  have marks : StemsAgree first second ↔
      (namedStem first).map mark = (namedStem second).map mark := by
    rw [StemsAgree, ← List.forall₂_eq_eq_eq, List.forall₂_map_left_iff, List.forall₂_map_right_iff]
    simp only [mark_eq_mark_iff]
  rw [← String.toList_inj, toList_cleanPlain, toList_cleanPlain, marks]
  refine ⟨fun same => ?_, congrArg guardDigit⟩
  obtain ⟨cs, starts⟩ := namedStem_eq_cons first
  obtain ⟨ds, starts'⟩ := namedStem_eq_cons second
  have sign := isSign_firstSign first
  have sign' := isSign_firstSign second
  rw [starts, starts', List.map_cons, List.map_cons, mark_of_isSign sign, mark_of_isSign sign']
    at same ⊢
  exact guardDigit_inj (ne_underscore_of_isSign sign) (ne_underscore_of_isSign sign') same

end SchemaArtifacts.Naming
