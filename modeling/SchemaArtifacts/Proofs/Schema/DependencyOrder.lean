import SchemaArtifacts.Proofs.Schema.References
import SchemaArtifacts.Schema.DependencyOrder

/-!
# Dependency order

The loop that orders tables takes one table a turn and ends when none remains, so its result is a
permutation of the tables.  Where the references between different tables form no cycle, every
table comes after those that it refers to, nothing is noticed, and of all such orders the result is
the lexicographically least in the positions of the schema.
-/

namespace SchemaArtifacts.Schema

variable {schema : Schema}

theorem find?_name_of_mem (distinct : schema.HasDistinctNames) {table : Table}
    (mem : table ∈ schema.tables) :
    schema.tables.reverse.find? (·.name == table.name) = some table := by
  cases found : schema.tables.reverse.find? (·.name == table.name) with
  | none =>
      have absent := List.find?_eq_none.mp found table (List.mem_reverse.mpr mem)
      simp at absent
  | some other =>
      have same : other.name = table.name := by simpa using List.find?_some found
      have hother := List.mem_reverse.mp (List.mem_of_find?_eq_some found)
      rw [distinct.eq_of_name hother mem same]

theorem mem_needs_iff (distinct : schema.HasDistinctNames) {table : Table}
    (mem : table ∈ schema.tables) {name : String} :
    name ∈ needs schema.tables table.name ↔
      ∃ target, schema.Refers table target ∧ target.name = name := by
  simp only [needs, find?_name_of_mem distinct mem, references, List.mem_filter,
    List.mem_filterMap, Bool.and_eq_true, List.contains_iff_mem, List.mem_map, bne_iff_ne]
  constructor
  · rintro ⟨⟨field, hfield, key⟩, ⟨target, htarget, rfl⟩, other⟩
    exact ⟨target, ⟨mem, htarget, other, field, hfield, key⟩, rfl⟩
  · rintro ⟨target, ⟨-, htarget, other, field, hfield, key⟩, rfl⟩
    exact ⟨⟨field, hfield, key⟩, ⟨target, htarget, rfl⟩, other⟩

theorem isReady_iff (distinct : schema.HasDistinctNames) {table : Table}
    (mem : table ∈ schema.tables) {emitted : List String} :
    isReady (needs schema.tables) emitted table = true ↔
      ∀ target, schema.Refers table target → target.name ∈ emitted := by
  simp only [isReady, List.all_eq_true, List.contains_iff_mem, mem_needs_iff distinct mem]
  constructor
  · intro all target refers
    exact all _ ⟨target, refers, rfl⟩
  · rintro all name ⟨target, refers, rfl⟩
    exact all target refers

/--
A run of the loop from the names that have been emitted and the tables that remain, up to the turn
at which no table remains.
-/
inductive Emits (needs : String → List String) : List String → List Table → Ordered → Prop
  | done (emitted : List String) : Emits needs emitted [] ⟨[], []⟩
  | ready {emitted : List String} {remaining : List Table} {table : Table} {rest : Ordered} :
      remaining.find? (isReady needs emitted) = some table →
      Emits needs (table.name :: emitted) (remaining.erase table) rest →
      Emits needs emitted remaining ⟨table :: rest.tables, rest.cyclic⟩
  | stuck {emitted : List String} {first : Table} {others : List Table} {rest : Ordered} :
      (first :: others).find? (isReady needs emitted) = none →
      Emits needs (first.name :: emitted) others rest →
      Emits needs emitted (first :: others) ⟨first :: rest.tables, first.name :: rest.cyclic⟩

theorem emits_orderSteps (needs : String → List String) {count : Nat} {remaining : List Table}
    (enough : remaining.length ≤ count) (emitted : List String) :
    Emits needs emitted remaining (orderSteps needs count remaining emitted) := by
  induction count generalizing remaining emitted with
  | zero =>
      have empty : remaining = [] := List.length_eq_zero_iff.mp (Nat.le_zero.mp enough)
      subst empty
      exact .done emitted
  | succ count ih =>
      cases remaining with
      | nil => exact .done emitted
      | cons first others =>
          simp only [orderSteps]
          cases found : (first :: others).find? (isReady needs emitted) with
          | some table =>
              have mem := List.mem_of_find?_eq_some found
              refine .ready found (ih ?_ _)
              rw [List.length_erase_of_mem mem]
              simpa using enough
          | none => exact .stuck found (ih (by simpa using enough) _)

theorem emits_dependencyOrder (schema : Schema) :
    Emits (needs schema.tables) [] schema.tables schema.dependencyOrder :=
  emits_orderSteps _ (Nat.le_refl _) []

theorem Emits.perm {needs : String → List String} {emitted : List String}
    {remaining : List Table} {ordered : Ordered} (run : Emits needs emitted remaining ordered) :
    ordered.tables.Perm remaining := by
  induction run with
  | done => exact .refl []
  | ready found _ ih =>
      have mem := List.mem_of_find?_eq_some found
      exact (ih.cons _).trans (List.perm_cons_erase mem).symm
  | stuck _ _ ih => exact ih.cons _

/-- What holds between the emitted names and the remaining tables at every turn. -/
structure Progress (schema : Schema) (emitted : List String) (remaining : List Table) : Prop where
  sublist : remaining.Sublist schema.tables
  covered : ∀ table ∈ schema.tables, table ∈ remaining ∨ table.name ∈ emitted
  fresh : ∀ table ∈ remaining, table.name ∉ emitted

namespace Progress

theorem start (schema : Schema) : Progress schema [] schema.tables where
  sublist := .refl _
  covered := fun _ mem => .inl mem
  fresh := by simp

theorem step (distinct : schema.HasDistinctNames) {emitted : List String}
    {remaining : List Table} (progress : Progress schema emitted remaining) {table : Table}
    (mem : table ∈ remaining) :
    Progress schema (table.name :: emitted) (remaining.erase table) where
  sublist := List.erase_sublist.trans progress.sublist
  covered := by
    intro other hother
    by_cases same : other = table
    · exact .inr (by simp [same])
    · rcases progress.covered other hother with left | gone
      · exact .inl ((List.mem_erase_of_ne same).mpr left)
      · exact .inr (List.mem_cons_of_mem _ gone)
  fresh := by
    intro other hother
    have nodup := progress.sublist.nodup distinct.nodup
    obtain ⟨apart, left⟩ := nodup.mem_erase_iff.mp hother
    have named : other.name ≠ table.name := fun same =>
      apart (distinct.eq_of_name (progress.sublist.subset left) (progress.sublist.subset mem) same)
    simpa [named] using progress.fresh other left

variable {emitted : List String} {remaining : List Table}

theorem isReady_of_unreferring (distinct : schema.HasDistinctNames)
    (progress : Progress schema emitted remaining) {table : Table} (mem : table ∈ remaining)
    (unreferring : ∀ target ∈ remaining, ¬ schema.Refers table target) :
    isReady (needs schema.tables) emitted table = true := by
  rw [isReady_iff distinct (progress.sublist.subset mem)]
  intro target refers
  rcases progress.covered target refers.2.1 with left | gone
  · exact absurd refers (unreferring target left)
  · exact gone

theorem not_refers_of_isReady (distinct : schema.HasDistinctNames)
    (progress : Progress schema emitted remaining) {table target : Table}
    (mem : table ∈ remaining) (ready : isReady (needs schema.tables) emitted table = true)
    (htarget : target ∈ remaining) : ¬ schema.Refers table target := by
  intro refers
  have gone := (isReady_iff distinct (progress.sublist.subset mem)).mp ready target refers
  exact progress.fresh target htarget gone

theorem exists_isReady (distinct : schema.HasDistinctNames) (acyclic : schema.IsAcyclic)
    (progress : Progress schema emitted remaining) (nonempty : remaining ≠ []) :
    ∃ table ∈ remaining, isReady (needs schema.tables) emitted table = true := by
  obtain ⟨table, mem, unreferring⟩ := exists_unreferring nonempty fun table _ => acyclic table
  exact ⟨table, mem, progress.isReady_of_unreferring distinct mem unreferring⟩

theorem find?_ne_none (distinct : schema.HasDistinctNames) (acyclic : schema.IsAcyclic)
    (progress : Progress schema emitted remaining) (nonempty : remaining ≠ []) :
    remaining.find? (isReady (needs schema.tables) emitted) ≠ none := by
  obtain ⟨table, mem, ready⟩ := progress.exists_isReady distinct acyclic nonempty
  intro missing
  exact List.find?_eq_none.mp missing table mem ready

end Progress

/-! ## Orders without a cycle -/

theorem Emits.cyclic_eq_nil (distinct : schema.HasDistinctNames) (acyclic : schema.IsAcyclic)
    {emitted : List String} {remaining : List Table} {ordered : Ordered}
    (run : Emits (needs schema.tables) emitted remaining ordered)
    (progress : Progress schema emitted remaining) : ordered.cyclic = [] := by
  induction run with
  | done => rfl
  | ready found _ ih => exact ih (progress.step distinct (List.mem_of_find?_eq_some found))
  | stuck found => exact absurd found (progress.find?_ne_none distinct acyclic (by simp))

theorem Emits.respects (distinct : schema.HasDistinctNames) (acyclic : schema.IsAcyclic)
    {emitted : List String} {remaining : List Table} {ordered : Ordered}
    (run : Emits (needs schema.tables) emitted remaining ordered)
    (progress : Progress schema emitted remaining) : schema.Respects ordered.tables := by
  induction run with
  | done => exact .nil
  | ready found later ih =>
      have mem := List.mem_of_find?_eq_some found
      refine List.pairwise_cons.mpr ⟨?_, ih (progress.step distinct mem)⟩
      intro target htarget
      have left := List.mem_of_mem_erase (later.perm.mem_iff.mp htarget)
      exact progress.not_refers_of_isReady distinct mem (List.find?_some found) left
  | stuck found => exact absurd found (progress.find?_ne_none distinct acyclic (by simp))

theorem Progress.isReady_head (distinct : schema.HasDistinctNames) {emitted : List String}
    {remaining : List Table} (progress : Progress schema emitted remaining) {head : Table}
    {tail : List Table} (perm : (head :: tail).Perm remaining)
    (respects : schema.Respects (head :: tail)) :
    isReady (needs schema.tables) emitted head = true := by
  apply progress.isReady_of_unreferring distinct (perm.subset List.mem_cons_self)
  intro target htarget
  rcases List.mem_cons.mp (perm.mem_iff.mpr htarget) with same | later
  · exact fun refers => refers.2.2.1 (congrArg Table.name same)
  · exact List.rel_of_pairwise_cons respects later

theorem Progress.idxOf_lt_of_find? (distinct : schema.HasDistinctNames) {emitted : List String}
    {remaining : List Table} (progress : Progress schema emitted remaining) {table other : Table}
    {test : Table → Bool} (found : remaining.find? test = some table)
    (mem : other ∈ remaining) (passes : test other = true) :
    other = table ∨ schema.tables.idxOf table < schema.tables.idxOf other := by
  obtain ⟨-, before, after, rfl, untested⟩ := List.find?_eq_some_iff_append.mp found
  have notBefore : other ∉ before := fun early => by simpa [passes] using untested other early
  rcases List.mem_cons.mp ((List.mem_append.mp mem).resolve_left notBefore) with same | late
  · exact .inl same
  · have pair : [table, other].Sublist schema.tables :=
      (((List.singleton_sublist.mpr late).cons_cons table).trans
        (List.sublist_append_right before _)).trans progress.sublist
    exact .inr (distinct.idxOf_lt pair)

theorem Emits.least (distinct : schema.HasDistinctNames) (acyclic : schema.IsAcyclic)
    {emitted : List String} {remaining : List Table} {ordered : Ordered}
    (run : Emits (needs schema.tables) emitted remaining ordered)
    (progress : Progress schema emitted remaining) {other : List Table}
    (perm : other.Perm remaining) (respects : schema.Respects other) :
    other = ordered.tables ∨
      List.Lex (· < ·) (schema.positions ordered.tables) (schema.positions other) := by
  induction run generalizing other with
  | done => exact .inl perm.eq_nil
  | @ready emitted remaining table rest found _ ih =>
      have mem := List.mem_of_find?_eq_some found
      cases other with
      | nil => simp [perm.symm.eq_nil] at mem
      | cons head tail =>
          have ready := progress.isReady_head distinct perm respects
          rcases progress.idxOf_lt_of_find? distinct found (perm.subset List.mem_cons_self) ready
            with same | before
          · subst same
            have tailPerm : tail.Perm (remaining.erase head) :=
              List.Perm.cons_inv (perm.trans (List.perm_cons_erase mem))
            rcases ih (progress.step distinct mem) tailPerm respects.of_cons with equal | less
            · exact .inl (by rw [equal])
            · exact .inr (.cons less)
          · exact .inr (.rel before)
  | stuck found => exact absurd found (progress.find?_ne_none distinct acyclic (by simp))

theorem Emits.eq_of_respects (distinct : schema.HasDistinctNames) {emitted : List String}
    {remaining : List Table} {ordered : Ordered}
    (run : Emits (needs schema.tables) emitted remaining ordered)
    (progress : Progress schema emitted remaining) (respects : schema.Respects remaining) :
    ordered.tables = remaining := by
  induction run with
  | done => rfl
  | @ready emitted remaining table rest found _ ih =>
      cases remaining with
      | nil => simp at found
      | cons first others =>
          have ready := progress.isReady_head distinct (.refl _) respects
          rw [List.find?_cons_of_pos ready] at found
          cases found
          have next := progress.step distinct List.mem_cons_self
          rw [List.erase_cons_head] at ih next
          rw [ih next respects.of_cons]
  | stuck found =>
      have ready := progress.isReady_head distinct (.refl _) respects
      rw [List.find?_cons_of_pos ready] at found
      cases found

theorem dependencyOrder_perm (schema : Schema) :
    schema.dependencyOrder.tables.Perm schema.tables :=
  (emits_dependencyOrder schema).perm

theorem dependencyOrder_respects (distinct : schema.HasDistinctNames)
    (acyclic : schema.IsAcyclic) : schema.Respects schema.dependencyOrder.tables :=
  (emits_dependencyOrder schema).respects distinct acyclic (.start schema)

/--
The loop runs until no table remains and emits every table once.  For distinct names without a
cycle of references, the order respects the references, nothing is noticed, every other order that
respects them is lexicographically greater, and a schema order that respects them is kept.
-/
theorem dependencyOrder_perm_and_least (schema : Schema) :
    Emits (needs schema.tables) [] schema.tables schema.dependencyOrder ∧
    schema.dependencyOrder.tables.Perm schema.tables ∧
    (schema.HasDistinctNames → schema.IsAcyclic →
      schema.Respects schema.dependencyOrder.tables ∧
      schema.dependencyOrder.notices = [] ∧
      (∀ other, other.Perm schema.tables → schema.Respects other →
        other = schema.dependencyOrder.tables ∨
          List.Lex (· < ·) (schema.positions schema.dependencyOrder.tables)
            (schema.positions other)) ∧
      (schema.Respects schema.tables → schema.dependencyOrder.tables = schema.tables)) := by
  have run := emits_dependencyOrder schema
  refine ⟨run, run.perm, ?_⟩
  intro distinct acyclic
  refine ⟨dependencyOrder_respects distinct acyclic, ?_, ?_, ?_⟩
  · rw [Ordered.notices, run.cyclic_eq_nil distinct acyclic (.start schema), List.map_nil]
  · intro other perm respects
    exact run.least distinct acyclic (.start schema) perm respects
  · intro respects
    exact run.eq_of_respects distinct (.start schema) respects

def forwardSchema : Schema where
  name := "forward"
  tables :=
    [{ name := "orders"
       fields :=
        [{ name := "user_id", foreignKey := some ⟨"users", "id"⟩ },
         { name := "parent_id", foreignKey := some ⟨"orders", "id"⟩ }] },
     { name := "users"
       fields :=
        [{ name := "team_id", foreignKey := some ⟨"teams", "id"⟩ },
         { name := "realm_id", foreignKey := some ⟨"realms", "id"⟩ }] },
     { name := "teams", fields := [{ name := "id", primaryKey := true }] }]

theorem forwardSchema_hasDistinctNames : forwardSchema.HasDistinctNames := by decide

theorem forwardSchema_isAcyclic : forwardSchema.IsAcyclic :=
  isAcyclic_of_respects (List.reverse_perm forwardSchema.tables) (by decide)

theorem forwardSchema_dependencyOrder :
    forwardSchema.HasDistinctNames ∧ forwardSchema.IsAcyclic ∧
    forwardSchema.Respects forwardSchema.dependencyOrder.tables ∧
    forwardSchema.dependencyOrder.notices = [] ∧
    forwardSchema.dependencyOrder.tables.map (·.name) = ["teams", "users", "orders"] := by
  have order := (dependencyOrder_perm_and_least forwardSchema).2.2
    forwardSchema_hasDistinctNames forwardSchema_isAcyclic
  exact ⟨forwardSchema_hasDistinctNames, forwardSchema_isAcyclic, order.1, order.2.1, by decide⟩

end SchemaArtifacts.Schema
