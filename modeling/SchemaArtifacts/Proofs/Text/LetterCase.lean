import SchemaArtifacts.Proofs.Text.Trimming
import SchemaArtifacts.Text.LetterCase

/-!
# Lower case once more

A text in lower case stays as it is when it is put into lower case again, and so does what is left
of it after trimming.  Blanks stay as they are, and what stands on one side of them makes no
difference to the letters on the other side.
-/

namespace SchemaArtifacts.Text

namespace CaseRun

/-- The code point that a run leads to from one of its own. -/
def target (run : CaseRun) (point : Nat) : Nat := (point + run.distance).toNat

def misses (run other : CaseRun) : Bool :=
  Nat.blt (run.target run.last) other.first || Nat.blt other.last (run.target run.first) ||
    (Nat.beq run.first run.last || Nat.beq run.step 2) && Nat.beq other.step 2 &&
      Nat.beq ((run.target run.first + other.first) % 2) 1

variable {run other : CaseRun} {point found : Nat}

theorem map?_eq_some_iff :
    run.map? point = some found ↔
      run.first ≤ point ∧ point ≤ run.last ∧ (point - run.first) % run.step = 0 ∧
        run.target point = found := by
  simp [map?, target, and_assoc]

theorem map?_of_misses (missed : run.misses other = true) (proper : 0 < run.target run.first)
    (mapped : run.map? point = some found) : other.map? found = none := by
  obtain ⟨low, high, even, rfl⟩ := map?_eq_some_iff.mp mapped
  rw [Option.eq_none_iff_forall_ne_some]
  intro further moved
  obtain ⟨above, below, apart, -⟩ := map?_eq_some_iff.mp moved
  simp only [misses, target, Bool.or_eq_true, Bool.and_eq_true, Nat.blt_eq, Nat.beq_eq] at *
  rcases missed with (before | after) | ⟨⟨single | step, step'⟩, odd⟩
  · omega
  · omega
  · rw [step'] at apart
    omega
  · rw [step] at even
    rw [step'] at apart
    omega

end CaseRun

theorem lowerRuns_misses :
    lowerRuns.all (fun run => lowerRuns.all fun other => run.misses other) = true := by
  decide +kernel

theorem lowerRuns_target :
    ∀ run ∈ lowerRuns, 0x61 ≤ run.target run.first ∧
      (run.target run.last < 0x130 ∨ 0x130 < run.target run.first) := by
  decide +kernel

theorem findSome?_lowerRuns {point found : Nat}
    (mapped : lowerRuns.findSome? (·.map? point) = some found) :
    0x61 ≤ found ∧ found ≠ 0x130 ∧ lowerRuns.findSome? (·.map? found) = none := by
  obtain ⟨run, mem, moved⟩ := List.exists_of_findSome?_eq_some mapped
  obtain ⟨low, high, -, reached⟩ := CaseRun.map?_eq_some_iff.mp moved
  obtain ⟨small, apart⟩ := lowerRuns_target run mem
  have settled : lowerRuns.findSome? (·.map? found) = none := by
    rw [List.findSome?_eq_none_iff]
    intro other held
    have missed := List.all_eq_true.mp (List.all_eq_true.mp lowerRuns_misses run mem) other held
    exact CaseRun.map?_of_misses missed (by omega) moved
  simp only [CaseRun.target] at small apart reached
  exact ⟨by omega, by omega, settled⟩

def IsLower (c : Char) : Prop := lowerChar c = [c] ∧ c.toNat ≠ 0x3a3

instance (c : Char) : Decidable (IsLower c) := inferInstanceAs (Decidable (_ ∧ _))

theorem isLower_toLower {c : Char} (plain : c.toNat < 0x80) : IsLower c.toLower := by
  have all : ∀ n : Fin 128, IsLower (Char.ofNat n).toLower := by decide
  have found := all ⟨c.toNat, plain⟩
  rwa [Char.ofNat_toNat] at found

theorem isLower_of_unmoved {c : Char} (plain : c.toNat < 0x80 → IsLower c)
    (other : c.toNat ≠ 0x130) (unmoved : lowerRuns.findSome? (·.map? c.toNat) = none) :
    IsLower c := by
  by_cases ascii : c.toNat < 0x80
  · exact plain ascii
  · refine ⟨by simp [lowerChar, ascii, other, mapByRuns, unmoved], ?_⟩
    intro sigma
    rw [sigma] at unmoved
    exact absurd unmoved (by decide)

theorem isLower_ofNat {point found : Nat}
    (mapped : lowerRuns.findSome? (·.map? point) = some found) : IsLower (Char.ofNat found) := by
  obtain ⟨small, other, unmoved⟩ := findSome?_lowerRuns mapped
  by_cases valid : found.isValidChar
  · have same : (Char.ofNat found).toNat = found := by
      rw [Char.ofNat, dif_pos valid]
      rfl
    apply isLower_of_unmoved
    · intro plain
      rw [same] at plain
      have all : ∀ n : Fin 128, 0x61 ≤ n.val → IsLower (Char.ofNat n) := by decide
      exact all ⟨found, plain⟩ small
    · rwa [same]
    · rwa [same]
  · rw [show Char.ofNat found = '\x00' from dif_neg valid]
    decide

theorem isLower_of_mem_lowerChar {c d : Char} (mem : d ∈ lowerChar c) : IsLower d := by
  rw [lowerChar] at mem
  split at mem
  case isTrue plain =>
    obtain rfl := List.mem_singleton.mp mem
    exact isLower_toLower plain
  case isFalse wide =>
    split at mem
    case isTrue =>
      simp only [List.mem_cons, List.mem_nil_iff, or_false] at mem
      rcases mem with rfl | rfl <;> decide
    case isFalse other =>
      obtain rfl := List.mem_singleton.mp mem
      rw [mapByRuns]
      split
      case h_1 point mapped => exact isLower_ofNat mapped
      case h_2 unmoved => exact isLower_of_unmoved (absurd · wide) other unmoved

theorem lowerAfter_of_isLower {cs : List Char} (settled : ∀ c ∈ cs, IsLower c)
    (before : List Char) : lowerAfter before cs = cs := by
  induction cs generalizing before with
  | nil => rfl
  | cons c rest ih =>
      obtain ⟨same, notSigma⟩ := settled c List.mem_cons_self
      have later := ih (fun d mem => settled d (List.mem_cons_of_mem _ mem)) (c :: before)
      simp only [lowerAfter, if_neg notSigma, same, later, List.singleton_append]

theorem isLower_of_mem_lowerAfter {before cs : List Char} {d : Char}
    (mem : d ∈ lowerAfter before cs) : IsLower d := by
  induction cs generalizing before with
  | nil => exact absurd mem List.not_mem_nil
  | cons c rest ih =>
      simp only [lowerAfter, List.mem_append] at mem
      rcases mem with mapped | later
      · split at mapped
        · split at mapped <;> obtain rfl := List.mem_singleton.mp mapped <;> decide
        · exact isLower_of_mem_lowerChar mapped
      · exact ih later

theorem lower_of_isLower {s : String} (settled : ∀ c ∈ s.toList, IsLower c) : lower s = s := by
  rw [lower, lowerChars, lowerAfter_of_isLower settled, String.ofList_toList]

theorem isLower_of_mem_lower {s : String} {c : Char} (mem : c ∈ (lower s).toList) : IsLower c := by
  rw [lower, String.toList_ofList] at mem
  exact isLower_of_mem_lowerAfter mem

@[simp] theorem lower_lower (s : String) : lower (lower s) = lower s :=
  lower_of_isLower fun _ mem => isLower_of_mem_lower mem

@[simp] theorem lower_trim_lower (s : String) : lower (trim (lower s)) = trim (lower s) := by
  apply lower_of_isLower
  intro c mem
  rw [toList_trim] at mem
  exact isLower_of_mem_lower (mem_trimChars mem)

theorem isLower_of_isBlank {c : Char} (blank : isBlank c = true) : IsLower c :=
  isBlank.elim blank (p := IsLower) (by decide +kernel)

theorem mem_lowerAfter_of_isBlank {c : Char} (blank : isBlank c = true) {cs : List Char}
    (mem : c ∈ cs) (before : List Char) : c ∈ lowerAfter before cs := by
  induction cs generalizing before with
  | nil => exact absurd mem List.not_mem_nil
  | cons d rest ih =>
      rw [lowerAfter, List.mem_append]
      rcases List.mem_cons.mp mem with rfl | later
      · obtain ⟨same, notSigma⟩ := isLower_of_isBlank blank
        left
        rw [if_neg notSigma, same]
        exact List.mem_singleton_self c
      · exact .inr (ih later _)

theorem trim_of_not_isBlank_lower {s : String}
    (visible : ∀ c ∈ (lower s).toList, isBlank c = false) : trim s = s := by
  apply trim_of_not_isBlank
  intro c mem
  refine Bool.eq_false_iff.mpr fun blank => ?_
  have kept : c ∈ (lower s).toList := by
    rw [lower, String.toList_ofList]
    exact mem_lowerAfter_of_isBlank blank mem []
  rw [visible c kept] at blank
  cases blank

theorem reachesCased_cons (c : Char) (rest : List Char) :
    reachesCased (c :: rest) =
      if caseIgnorableIntervals.contains c then reachesCased rest
      else casedIntervals.contains c := by
  by_cases ignored : caseIgnorableIntervals.contains c = true
  · rw [if_pos ignored, reachesCased, List.dropWhile_cons_of_pos ignored, reachesCased]
  · rw [if_neg ignored, reachesCased, List.dropWhile_cons_of_neg ignored]

theorem reachesCased_blank {c : Char} (blank : isBlank c = true) (rest : List Char) :
    reachesCased (c :: rest) = false := by
  have stops := isBlank.elim blank (p := fun c => caseIgnorableIntervals.contains c = false ∧
    casedIntervals.contains c = false) (by decide +kernel)
  rw [reachesCased_cons, stops.1, stops.2]
  rfl

theorem lowerAfter_congr {before others : List Char}
    (same : reachesCased before = reachesCased others) (cs : List Char) :
    lowerAfter before cs = lowerAfter others cs := by
  induction cs generalizing before others with
  | nil => rfl
  | cons c rest ih =>
      have later : reachesCased (c :: before) = reachesCased (c :: others) := by
        rw [reachesCased_cons, reachesCased_cons, same]
      simp only [lowerAfter, same, ih later]

theorem lowerAfter_append_of_isBlank {run : List Char} (blank : ∀ c ∈ run, isBlank c = true)
    (before rest : List Char) :
    lowerAfter before (run ++ rest) = run ++ lowerAfter (run.reverse ++ before) rest := by
  induction run generalizing before with
  | nil => rfl
  | cons c run ih =>
      obtain ⟨first, later⟩ := List.forall_mem_cons.mp blank
      obtain ⟨same, notSigma⟩ := isLower_of_isBlank first
      rw [List.cons_append, lowerAfter, if_neg notSigma, same, ih later]
      simp

end SchemaArtifacts.Text
