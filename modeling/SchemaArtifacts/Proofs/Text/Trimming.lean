import Mathlib.Data.List.DropRight
import SchemaArtifacts.Text.Trim
import SchemaArtifacts.Text.Word

/-!
# Trimmed texts

A text is left alone by trimming just when neither of its ends is blank, and what trimming
leaves is such a text.
-/

namespace SchemaArtifacts.Text

theorem isBlank.elim {c : Char} {p : Char → Prop} (blank : isBlank c = true)
    (all : ∀ interval ∈ blanks, ∀ offset ≤ interval.2 - interval.1,
      p (Char.ofNat (interval.1 + offset))) : p c := by
  obtain ⟨interval, mem, low, high⟩ := CharSet.contains_iff.mp blank
  have found := all interval mem (c.toNat - interval.1) (by omega)
  rwa [Nat.add_sub_cancel' low, Char.ofNat_toNat] at found

theorem isBlank_of_isWord {c : Char} (word : isWord c = true) : isBlank c = false := by
  refine Bool.eq_false_iff.mpr fun blank => ?_
  have other := isBlank.elim blank (p := fun c => isWord c = false) (by decide +kernel)
  rw [word] at other
  cases other

def IsTrimmed (cs : List Char) : Prop :=
  (∀ c ∈ cs.head?, isBlank c = false) ∧ ∀ c ∈ cs.getLast?, isBlank c = false

theorem isTrimmed_of_not_isBlank {cs : List Char} (visible : ∀ c ∈ cs, isBlank c = false) :
    IsTrimmed cs := by
  constructor
  · intro c mem
    exact visible c (List.mem_of_mem_head? mem)
  · intro c mem
    exact visible c (List.mem_of_getLast? mem)

theorem isTrimmed_trimChars (cs : List Char) : IsTrimmed (trimChars cs) := by
  constructor
  · intro c mem
    have start : trimChars cs <+: trimStartChars cs := List.rdropWhile_prefix _ _
    obtain ⟨rest, kept⟩ := List.head?_eq_some_iff.mp mem
    obtain ⟨blanks, all⟩ := start
    have stopped := List.head?_dropWhile_not isBlank cs
    rw [← trimStartChars, ← all, kept] at stopped
    simpa using stopped
  · intro c mem
    obtain ⟨before, kept⟩ := List.getLast?_eq_some_iff.mp mem
    have stopped := List.rdropWhile_last_not isBlank (trimStartChars cs)
    rw [show List.rdropWhile isBlank (trimStartChars cs) = before ++ [c] from kept] at stopped
    simpa using stopped

theorem trimEndChars_of_getLast? {cs : List Char} (ends : ∀ c ∈ cs.getLast?, isBlank c = false) :
    trimEndChars cs = cs := by
  refine List.rdropWhile_eq_self_iff.mpr fun kept => ?_
  simp [ends _ (List.getLast?_eq_some_getLast kept)]

theorem trimChars_of_isTrimmed {cs : List Char} (trimmed : IsTrimmed cs) : trimChars cs = cs := by
  have start : trimStartChars cs = cs := by
    cases cs with
    | nil => rfl
    | cons c rest => exact List.dropWhile_cons_of_neg (by simp [trimmed.1 c rfl])
  rw [trimChars, start, trimEndChars_of_getLast? trimmed.2]

theorem trimChars_between {before cs after : List Char} (blank : ∀ c ∈ before, isBlank c = true)
    (trimmed : IsTrimmed cs) (blank' : ∀ c ∈ after, isBlank c = true) :
    trimChars (before ++ cs ++ after) = cs := by
  have reversed : ∀ c ∈ after.reverse, isBlank c = true :=
    fun c mem => blank' c (List.mem_reverse.mp mem)
  have ended : trimEndChars (cs ++ after) = cs := by
    rw [trimEndChars, List.reverse_append, List.dropWhile_append_of_pos reversed]
    exact trimEndChars_of_getLast? trimmed.2
  rw [trimChars, trimStartChars, List.append_assoc, List.dropWhile_append_of_pos blank]
  cases cs with
  | nil =>
      rw [List.nil_append, List.dropWhile_eq_nil_iff.mpr blank']
      rfl
  | cons c rest =>
      have visible := trimmed.1 c rfl
      rw [List.cons_append, List.dropWhile_cons_of_neg (by simp [visible])]
      exact ended

theorem exists_between_blanks (cs : List Char) :
    ∃ before after, (∀ c ∈ before, isBlank c = true) ∧ (∀ c ∈ after, isBlank c = true) ∧
      cs = before ++ trimChars cs ++ after := by
  refine ⟨cs.takeWhile isBlank, ((trimStartChars cs).reverse.takeWhile isBlank).reverse,
    List.all_eq_true.mp List.all_takeWhile, ?_, ?_⟩
  · intro c mem
    exact List.all_eq_true.mp List.all_takeWhile c (List.mem_reverse.mp mem)
  · rw [List.append_assoc, trimChars, trimEndChars, ← List.reverse_append,
      List.takeWhile_append_dropWhile, List.reverse_reverse]
    exact List.takeWhile_append_dropWhile.symm

theorem mem_trimEndChars {cs : List Char} {c : Char} (mem : c ∈ trimEndChars cs) : c ∈ cs :=
  (List.rdropWhile_prefix isBlank cs).subset mem

theorem mem_trimChars {cs : List Char} {c : Char} (mem : c ∈ trimChars cs) : c ∈ cs :=
  (List.dropWhile_sublist isBlank).mem (mem_trimEndChars mem)

theorem any_visible_iff {cs : List Char} :
    (cs.any fun c => !isBlank c) = true ↔ ¬ (cs.dropWhile isBlank).isEmpty = true := by
  simp

theorem mem_trimChars_iff {cs : List Char} {c : Char} (blank : isBlank c = true) :
    c ∈ trimChars cs ↔ ∃ before after, cs = before ++ c :: after ∧
      (before.any fun d => !isBlank d) ∧ after.any fun d => !isBlank d := by
  constructor
  · intro mem
    obtain ⟨before, after, -, -, whole⟩ := exists_between_blanks cs
    obtain ⟨first, last, kept⟩ := List.append_of_mem mem
    obtain ⟨starts, ends⟩ := isTrimmed_trimChars cs
    rw [kept] at whole starts ends
    refine ⟨before ++ first, last ++ after, by simp [whole], ?_, ?_⟩
    · cases first with
      | nil => simp [blank] at starts
      | cons d first => simp [starts d rfl]
    · cases last using List.reverseRecOn with
      | nil => simp [blank] at ends
      | append_singleton last d =>
          rw [← List.cons_append, ← List.append_assoc, List.getLast?_concat] at ends
          simp [ends d rfl]
  · rintro ⟨before, after, rfl, visible, visible'⟩
    have start : trimStartChars (before ++ c :: after) = trimStartChars before ++ c :: after := by
      rw [trimStartChars, List.dropWhile_append, if_neg, trimStartChars]
      simpa using visible
    have reversed : (after.reverse.any fun d => !isBlank d) = true := by
      rwa [List.any_reverse]
    rw [trimChars, start, trimEndChars, List.mem_reverse, List.reverse_append, List.reverse_cons,
      List.append_assoc, List.dropWhile_append, if_neg (any_visible_iff.mp reversed)]
    simp

theorem trimEndChars_cons {c : Char} (visible : isBlank c = false) (cs : List Char) :
    trimEndChars (c :: cs) = c :: trimEndChars cs := by
  rw [trimEndChars, List.reverse_cons, List.dropWhile_append]
  split
  case isTrue nothing =>
    rw [trimEndChars, List.isEmpty_iff.mp nothing]
    simp [visible]
  case isFalse something => simp [trimEndChars]

theorem trim_eq_self_iff {s : String} : trim s = s ↔ IsTrimmed s.toList := by
  constructor
  · intro same
    have trimmed := isTrimmed_trimChars s.toList
    rwa [← toList_trim, same] at trimmed
  · intro trimmed
    rw [trim, trimChars_of_isTrimmed trimmed, String.ofList_toList]

@[simp] theorem trim_trim (s : String) : trim (trim s) = trim s := by
  rw [trim_eq_self_iff, toList_trim]
  exact isTrimmed_trimChars s.toList

theorem trim_of_not_isBlank {s : String} (visible : ∀ c ∈ s.toList, isBlank c = false) :
    trim s = s :=
  trim_eq_self_iff.mpr (isTrimmed_of_not_isBlank visible)

@[simp] theorem trim_empty : trim "" = "" := rfl

theorem isBlankText_iff {s : String} : isBlankText s = true ↔ trim s = "" := by
  rw [isBlankText, List.all_eq_true, trim, ← String.toList_inj, String.toList_ofList]
  constructor
  · intro blank
    have start : trimStartChars s.toList = [] := List.dropWhile_eq_nil_iff.mpr blank
    rw [trimChars, start]
    rfl
  · intro nothing
    have start : trimStartChars s.toList = [] := by
      cases rest : trimStartChars s.toList with
      | nil => rfl
      | cons c others =>
          have blank : ∀ other ∈ trimStartChars s.toList, isBlank other = true :=
            List.rdropWhile_eq_nil_iff.mp nothing
          have stopped := List.head?_dropWhile_not isBlank s.toList
          rw [← trimStartChars, rest] at stopped
          rw [rest] at blank
          simp [blank c] at stopped
    exact List.dropWhile_eq_nil_iff.mp start

end SchemaArtifacts.Text
