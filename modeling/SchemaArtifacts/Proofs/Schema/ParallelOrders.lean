import Mathlib.Data.List.Forall2
import SchemaArtifacts.Schema.DependencyOrder

/-!
# Orders of parallel schemas

The order of tables is read off their names and references.  Where tables depend on a parameter
otherwise, the order takes them in the same way for every value of it.
-/

namespace SchemaArtifacts.Schema

variable {ι : Type}

/--
A test that does not read the parameter finds the same item for all of its values, if it finds any,
and leaves the same others.
-/
theorem find?_parallel {α : Type} [DecidableEq α] {items : List (ι → α)} {p : α → Bool}
    (same : ∀ item ∈ items, ∀ i j, p (item i) = p (item j)) :
    (∀ i, (items.map (· i)).find? p = none) ∨
      ∃ before item after, items = before ++ item :: after ∧
        ∀ i, (items.map (· i)).find? p = some (item i) ∧
          (items.map (· i)).erase (item i) = (before ++ after).map (· i) := by
  induction items with
  | nil => exact .inl fun _ => rfl
  | cons head tail ih =>
      by_cases passes : ∃ i, p (head i) = true
      · obtain ⟨i, passes⟩ := passes
        refine .inr ⟨[], head, tail, rfl, fun j => ⟨?_, ?_⟩⟩
        · rw [List.map_cons, List.find?_cons_of_pos (same head List.mem_cons_self i j ▸ passes)]
        · rw [List.map_cons, List.erase_cons_head, List.nil_append]
      · have fails : ∀ i, ¬ p (head i) = true := fun i passed => passes ⟨i, passed⟩
        rcases ih fun item mem => same item (List.mem_cons_of_mem _ mem) with
          none | ⟨before, item, after, rfl, found⟩
        · refine .inl fun i => ?_
          rw [List.map_cons, List.find?_cons_of_neg (fails i), none i]
        · refine .inr ⟨head :: before, item, after, rfl, fun i => ?_⟩
          obtain ⟨first, left⟩ := found i
          have apart : head i ≠ item i := fun e => fails i (e ▸ List.find?_some first)
          constructor
          · rw [List.map_cons, List.find?_cons_of_neg (fails i), first]
          · rw [List.map_cons, List.erase_cons_tail (by simpa using apart), left]
            rfl

/-- What the order reads of a table does not depend on the parameter. -/
structure IsFixed (table : ι → Table) : Prop where
  name : ∀ i j, (table i).name = (table j).name
  references : ∀ i j names, references names (table i) = references names (table j)

section

variable {tables : List (ι → Table)} (fixed : ∀ table ∈ tables, IsFixed table)
include fixed

theorem exists_orderSteps_parallel [Nonempty ι] (needs : String → List String)
    (emitted : List String) :
    ∃ ordered : List (ι → Table), ordered.Perm tables ∧ ∀ i,
      (orderSteps needs tables.length (tables.map (· i)) emitted).tables = ordered.map (· i) := by
  obtain ⟨value⟩ := ‹Nonempty ι›
  generalize size : tables.length = count
  induction count generalizing tables emitted with
  | zero =>
      obtain rfl := List.length_eq_zero_iff.mp size
      exact ⟨[], .refl _, fun _ => rfl⟩
  | succ count ih =>
      obtain ⟨first, others, rfl⟩ := List.exists_cons_of_length_eq_add_one size
      have ready : ∀ table ∈ first :: others, ∀ i j,
          isReady needs emitted (table i) = isReady needs emitted (table j) := by
        intro table mem i j
        rw [isReady, isReady, (fixed table mem).name i j]
      rcases find?_parallel ready with none | ⟨before, table, after, split, found⟩
      · obtain ⟨ordered, perm, taken⟩ := ih
          (fun table mem => fixed table (List.mem_cons_of_mem _ mem))
          ((first value).name :: emitted) (Nat.succ.inj size)
        refine ⟨first :: ordered, perm.cons first, fun i => ?_⟩
        have missing := none i
        rw [List.map_cons] at missing ⊢
        simp only [orderSteps, missing, (fixed first List.mem_cons_self).name i value, taken i,
          List.map_cons]
      · have whole : (before ++ table :: after).Perm (table :: (before ++ after)) :=
          List.perm_middle
        rw [← split] at whole
        obtain ⟨ordered, perm, taken⟩ := ih
          (fun other mem => fixed other (whole.mem_iff.mpr (List.mem_cons_of_mem _ mem)))
          ((table value).name :: emitted) (Nat.succ.inj (whole.length_eq.symm.trans size))
        have chosen := fixed table (whole.mem_iff.mpr List.mem_cons_self)
        refine ⟨table :: ordered, (perm.cons table).trans whole.symm, fun i => ?_⟩
        obtain ⟨here, left⟩ := found i
        rw [List.map_cons] at here left ⊢
        simp only [orderSteps, here, left, chosen.name i value, taken i, List.map_cons]

theorem needs_parallel (i j : ι) : needs (tables.map (· i)) = needs (tables.map (· j)) := by
  funext name
  have names : (tables.map (· i)).map (·.name) = (tables.map (· j)).map (·.name) := by
    rw [List.map_map, List.map_map]
    exact List.map_congr_left fun table mem => (fixed table mem).name i j
  have reversed : ∀ table ∈ tables.reverse, ∀ i j,
      ((table i).name == name) = ((table j).name == name) := by
    intro table mem i j
    rw [(fixed table (List.mem_reverse.mp mem)).name i j]
  rw [needs, needs, names, ← List.map_reverse, ← List.map_reverse]
  rcases @find?_parallel ι Table _ _ (·.name == name) reversed with
    none | ⟨before, table, after, split, found⟩
  · rw [none i, none j]
  · have mem : table ∈ tables := List.mem_reverse.mp (split ▸ by simp)
    rw [(found i).1, (found j).1]
    exact (fixed table mem).references i j _

theorem exists_dependencyOrder_parallel [Nonempty ι] {schema : ι → Schema}
    (given : ∀ i, (schema i).tables = tables.map (· i)) :
    ∃ ordered : List (ι → Table), ordered.Perm tables ∧
      ∀ i, (schema i).dependencyOrder.tables = ordered.map (· i) := by
  obtain ⟨value⟩ := ‹Nonempty ι›
  have : Nonempty ι := ⟨value⟩
  obtain ⟨ordered, perm, taken⟩ :=
    exists_orderSteps_parallel fixed (needs (tables.map (· value))) []
  refine ⟨ordered, perm, fun i => ?_⟩
  rw [dependencyOrder, given, List.length_map, needs_parallel fixed i value]
  exact taken i

end

theorem dependencyOrder_of_forall₂ {related : Table → Table → Prop}
    (keeps : ∀ first second, related first second → first.name = second.name ∧
      ∀ names, references names first = references names second) {first second : Schema}
    (all : List.Forall₂ related first.tables second.tables) :
    List.Forall₂ related first.dependencyOrder.tables second.dependencyOrder.tables := by
  let pairs : List (Bool → Table) :=
    (first.tables.zip second.tables).map fun pair value => cond value pair.1 pair.2
  have relates : ∀ pair ∈ pairs, related (pair true) (pair false) := by
    intro pair mem
    obtain ⟨⟨table, other⟩, among, rfl⟩ := List.mem_map.mp mem
    exact (List.forall₂_iff_zip.mp all).2 among
  have fixed : ∀ pair ∈ pairs, IsFixed pair := by
    intro pair mem
    obtain ⟨names, references⟩ := keeps _ _ (relates pair mem)
    exact
      { name := by simpa [Bool.forall_bool] using ⟨names.symm, names⟩
        references := by
          simpa [Bool.forall_bool] using ⟨fun list => (references list).symm, references⟩ }
  have given : ∀ value : Bool, (cond value first second).tables = pairs.map (· value) := by
    have lengths := all.length_eq
    intro value
    cases value with
    | true =>
        rw [List.map_map]
        exact (List.map_fst_zip (Nat.le_of_eq lengths)).symm
    | false =>
        rw [List.map_map]
        exact (List.map_snd_zip (Nat.le_of_eq lengths.symm)).symm
  obtain ⟨ordered, perm, taken⟩ := exists_dependencyOrder_parallel fixed given
  have whole := taken true
  have whole' := taken false
  simp only [cond_true, cond_false] at whole whole'
  rw [whole, whole', List.forall₂_map_left_iff, List.forall₂_map_right_iff, List.forall₂_same]
  exact fun pair mem => relates pair (perm.mem_iff.mp mem)

end SchemaArtifacts.Schema
