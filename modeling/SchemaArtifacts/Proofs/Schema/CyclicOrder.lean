import SchemaArtifacts.Proofs.Schema.DependencyOrder

/-!
# Orders of schemas with cycles

Where no remaining table is ready, each of them refers to another one, so each leads to a cycle of
references, but it need not be on one.  A table that merely leads to a cycle goes before a table
that it refers to if it stands first, and is then noticed as if the cycle involved it.
-/

namespace SchemaArtifacts.Schema

variable {schema : Schema}

/-- A table is on a cycle of references, or refers to such a table by way of others. -/
def LeadsToCycle (schema : Schema) (table : Table) : Prop :=
  ∃ last, Relation.ReflTransGen schema.Refers table last ∧ schema.OnCycle last

theorem LeadsToCycle.exists_refers {table : Table} (leads : schema.LeadsToCycle table) :
    ∃ target, schema.Refers table target ∧ schema.LeadsToCycle target := by
  obtain ⟨last, path, cycle⟩ := leads
  obtain rfl | ⟨target, refers, path⟩ := path.cases_head
  · obtain ⟨target, refers, back⟩ := Relation.TransGen.head'_iff.mp cycle
    exact ⟨target, refers, table, back, cycle⟩
  · exact ⟨target, refers, last, path, cycle⟩

theorem LeadsToCycle.mem {table : Table} (leads : schema.LeadsToCycle table) :
    table ∈ schema.tables := by
  obtain ⟨_, refers, -⟩ := leads.exists_refers
  exact refers.1

theorem leadsToCycle_of_forall_refers {tables : List Table}
    (refer : ∀ source ∈ tables, ∃ target ∈ tables, schema.Refers source target) {table : Table}
    (mem : table ∈ tables) : schema.LeadsToCycle table := by
  classical
  by_contra leadsNowhere
  let reached := tables.filter (Relation.ReflTransGen schema.Refers table)
  have mem_reached {other : Table} :
      other ∈ reached ↔ other ∈ tables ∧ Relation.ReflTransGen schema.Refers table other := by
    simp [reached]
  have offCycles : ∀ other ∈ reached, ¬ schema.OnCycle other := fun other held cycle =>
    leadsNowhere ⟨other, (mem_reached.mp held).2, cycle⟩
  have nonempty : reached ≠ [] := List.ne_nil_of_mem (mem_reached.mpr ⟨mem, .refl⟩)
  obtain ⟨source, held, unreferring⟩ := exists_unreferring nonempty offCycles
  obtain ⟨inside, path⟩ := mem_reached.mp held
  obtain ⟨target, htarget, refers⟩ := refer source inside
  exact unreferring target (mem_reached.mpr ⟨htarget, path.tail refers⟩) refers

section Turn

variable {emitted : List String} {remaining : List Table}

theorem Progress.leadsToCycle_of_stuck (distinct : schema.HasDistinctNames)
    (progress : Progress schema emitted remaining)
    (stuck : remaining.find? (isReady (needs schema.tables) emitted) = none) {table : Table}
    (mem : table ∈ remaining) : schema.LeadsToCycle table := by
  refine leadsToCycle_of_forall_refers (fun source hsource => ?_) mem
  by_contra unreferring
  push Not at unreferring
  have ready := progress.isReady_of_unreferring distinct hsource unreferring
  exact List.find?_eq_none.mp stuck source hsource ready

theorem Progress.isReady_of_leadsToCycle (distinct : schema.HasDistinctNames)
    (progress : Progress schema emitted remaining)
    (kept : ∀ table, schema.LeadsToCycle table → table ∈ remaining) {table : Table}
    (leads : schema.LeadsToCycle table) :
    isReady (needs schema.tables) emitted table = false := by
  obtain ⟨target, refers, goesOn⟩ := leads.exists_refers
  rw [← Bool.not_eq_true]
  intro ready
  exact progress.not_refers_of_isReady distinct (kept table leads) ready (kept target goesOn) refers

end Turn

section Run

variable {emitted : List String} {remaining : List Table} {ordered : Ordered}

/-- Only tables that lead to a cycle are noticed, and one that goes before a table that it refers to
is noticed. -/
theorem Emits.pairwise_cyclic (distinct : schema.HasDistinctNames)
    (run : Emits (needs schema.tables) emitted remaining ordered)
    (progress : Progress schema emitted remaining) :
    (∀ name ∈ ordered.cyclic, ∃ table, table.name = name ∧ schema.LeadsToCycle table) ∧
      ordered.tables.Pairwise fun earlier later => schema.Refers earlier later →
        earlier.name ∈ ordered.cyclic ∧ schema.LeadsToCycle later := by
  induction run with
  | done => exact ⟨fun _ mem => absurd mem List.not_mem_nil, .nil⟩
  | @ready emitted remaining table rest found later ih =>
      have mem := List.mem_of_find?_eq_some found
      obtain ⟨noticed, order⟩ := ih (progress.step distinct mem)
      refine ⟨noticed, List.pairwise_cons.mpr ⟨fun target htarget refers => ?_, order⟩⟩
      have left := List.mem_of_mem_erase (later.perm.mem_iff.mp htarget)
      exact absurd refers
        (progress.not_refers_of_isReady distinct mem (List.find?_some found) left)
  | @stuck emitted first others rest found later ih =>
      have next := progress.step distinct List.mem_cons_self
      rw [List.erase_cons_head] at next
      obtain ⟨noticed, order⟩ := ih next
      have leads {table : Table} (mem : table ∈ first :: others) : schema.LeadsToCycle table :=
        progress.leadsToCycle_of_stuck distinct found mem
      constructor
      · intro name mem
        rcases List.mem_cons.mp mem with rfl | mem
        · exact ⟨first, rfl, leads List.mem_cons_self⟩
        · exact noticed name mem
      · refine List.pairwise_cons.mpr ⟨fun target htarget _ => ?_, order.imp ?_⟩
        · exact ⟨List.mem_cons_self,
            leads (List.mem_cons_of_mem _ (later.perm.mem_iff.mp htarget))⟩
        · exact fun held refers => ⟨List.mem_cons_of_mem _ (held refers).1, (held refers).2⟩

/-- If the first table leads to a cycle, it is the first one that is noticed, and it goes before all
others that lead to a cycle. -/
theorem Emits.first_of_leadsToCycle (distinct : schema.HasDistinctNames)
    (run : Emits (needs schema.tables) emitted remaining ordered)
    (progress : Progress schema emitted remaining)
    (kept : ∀ table, schema.LeadsToCycle table → table ∈ remaining) {first : Table}
    {others : List Table} (starts : remaining = first :: others)
    (leads : schema.LeadsToCycle first) :
    first.name ∈ ordered.cyclic ∧ ∀ other, schema.LeadsToCycle other → other ≠ first →
      ordered.tables.idxOf first < ordered.tables.idxOf other := by
  induction run generalizing others with
  | done => cases starts
  | @ready emitted remaining table rest found _ ih =>
      have mem := List.mem_of_find?_eq_some found
      have apart {other : Table} (leads : schema.LeadsToCycle other) : other ≠ table := by
        rintro rfl
        have ready := List.find?_some found
        rw [progress.isReady_of_leadsToCycle distinct kept leads] at ready
        cases ready
      have starts' : remaining.erase table = first :: others.erase table := by
        rw [starts, List.erase_cons_tail (by simpa using apart leads)]
      obtain ⟨noticed, before⟩ := ih (progress.step distinct mem)
        (fun other leads => (List.mem_erase_of_ne (apart leads)).mpr (kept other leads)) starts'
      refine ⟨noticed, fun other goesOn differs => ?_⟩
      rw [List.idxOf_cons_ne _ (apart leads).symm, List.idxOf_cons_ne _ (apart goesOn).symm]
      exact Nat.succ_lt_succ (before other goesOn differs)
  | stuck =>
      obtain ⟨rfl, -⟩ := List.cons.inj starts
      refine ⟨List.mem_cons_self, fun other _ differs => ?_⟩
      rw [List.idxOf_cons_self, List.idxOf_cons_ne _ differs.symm]
      exact Nat.succ_pos _

end Run

/-! ## The order of a schema -/

/-- A table stands before one that it refers to only if that one refers back to it. -/
def DefersOnCycles (schema : Schema) : Prop :=
  ∀ source target, schema.Refers source target → ¬ Relation.TransGen schema.Refers target source →
    schema.dependencyOrder.tables.idxOf target < schema.dependencyOrder.tables.idxOf source

def NoticesCycles (schema : Schema) : Prop :=
  ∀ notice ∈ schema.dependencyOrder.notices,
    ∃ table ∈ schema.tables, notice = .referenceCycle table.name ∧ schema.OnCycle table

theorem mem_notices_iff {ordered : Ordered} {name : String} :
    .referenceCycle name ∈ ordered.notices ↔ name ∈ ordered.cyclic := by
  simp [Ordered.notices]

def withTables (schema : Schema) (tables : List Table) : Schema := { schema with tables }

section Reordered

variable {tables : List Table}

theorem refers_withTables (perm : tables.Perm schema.tables) :
    (schema.withTables tables).Refers = schema.Refers := by
  funext source target
  simp only [Refers, withTables, perm.mem_iff]

theorem leadsToCycle_withTables (perm : tables.Perm schema.tables) :
    (schema.withTables tables).LeadsToCycle = schema.LeadsToCycle := by
  funext table
  simp only [LeadsToCycle, OnCycle, refers_withTables perm]

theorem HasDistinctNames.withTables (distinct : schema.HasDistinctNames)
    (perm : tables.Perm schema.tables) : (schema.withTables tables).HasDistinctNames :=
  (perm.map _).nodup_iff.mpr distinct

end Reordered

theorem idxOf_dependencyOrder_lt_or (distinct : schema.HasDistinctNames) {source target : Table}
    (refers : schema.Refers source target) :
    schema.dependencyOrder.tables.idxOf target < schema.dependencyOrder.tables.idxOf source ∨
      .referenceCycle source.name ∈ schema.dependencyOrder.notices ∧
        schema.LeadsToCycle target := by
  have perm := dependencyOrder_perm schema
  have order := ((emits_dependencyOrder schema).pairwise_cyclic distinct (.start schema)).2
  rw [mem_notices_iff]
  exact (idxOf_lt_or_of_pairwise order (perm.mem_iff.mpr refers.1) (perm.mem_iff.mpr refers.2.1)
    refers.ne).imp_right fun held => held refers

theorem leadsToCycle_of_mem_notices (distinct : schema.HasDistinctNames) {notice : Notice}
    (mem : notice ∈ schema.dependencyOrder.notices) :
    ∃ table ∈ schema.tables, notice = .referenceCycle table.name ∧ schema.LeadsToCycle table := by
  have noticed := ((emits_dependencyOrder schema).pairwise_cyclic distinct (.start schema)).1
  obtain ⟨_, held, rfl⟩ := List.mem_map.mp mem
  obtain ⟨table, rfl, leads⟩ := noticed _ held
  exact ⟨table, leads.mem, rfl, leads⟩

/-- With a table that leads to a cycle in front, the table is noticed and goes before all others
that lead to a cycle. -/
theorem exists_perm_of_leadsToCycle (distinct : schema.HasDistinctNames) {first : Table}
    (leads : schema.LeadsToCycle first) :
    ∃ tables, tables.Perm schema.tables ∧
      .referenceCycle first.name ∈ (schema.withTables tables).dependencyOrder.notices ∧
      ∀ other, schema.LeadsToCycle other → other ≠ first →
        (schema.withTables tables).dependencyOrder.tables.idxOf first <
          (schema.withTables tables).dependencyOrder.tables.idxOf other := by
  have perm : (first :: schema.tables.erase first).Perm schema.tables :=
    (List.perm_cons_erase leads.mem).symm
  refine ⟨_, perm, ?_⟩
  rw [mem_notices_iff]
  rw [← leadsToCycle_withTables perm] at leads ⊢
  exact (emits_dependencyOrder _).first_of_leadsToCycle (distinct.withTables perm) (.start _)
    (fun _ leads => leads.mem) rfl leads

theorem forall_perm_defersOnCycles_iff (distinct : schema.HasDistinctNames) :
    (∀ tables, tables.Perm schema.tables → (schema.withTables tables).DefersOnCycles) ↔
      ∀ source target, schema.Refers source target → schema.LeadsToCycle target →
        Relation.TransGen schema.Refers target source := by
  constructor
  · intro defers source target refers leads
    by_contra apart
    have leads' : schema.LeadsToCycle source :=
      leads.imp fun _ => And.imp_left (Relation.ReflTransGen.head refers)
    obtain ⟨tables, perm, -, before⟩ := exists_perm_of_leadsToCycle distinct leads'
    have after := defers tables perm source target
    rw [refers_withTables perm] at after
    exact Nat.lt_asymm (before target leads refers.ne.symm) (after refers apart)
  · intro closed tables perm source target refers apart
    refine (idxOf_dependencyOrder_lt_or (distinct.withTables perm) refers).resolve_right ?_
    rintro ⟨-, leads⟩
    rw [refers_withTables perm] at refers apart
    rw [leadsToCycle_withTables perm] at leads
    exact apart (closed source target refers leads)

theorem forall_perm_noticesCycles_iff (distinct : schema.HasDistinctNames) :
    (∀ tables, tables.Perm schema.tables → (schema.withTables tables).NoticesCycles) ↔
      ∀ table, schema.LeadsToCycle table → schema.OnCycle table := by
  constructor
  · intro notices table leads
    obtain ⟨tables, perm, noticed, -⟩ := exists_perm_of_leadsToCycle distinct leads
    obtain ⟨other, mem, same, cycle⟩ := notices tables perm _ noticed
    rw [OnCycle, refers_withTables perm] at cycle
    rwa [distinct.eq_of_name leads.mem (perm.mem_iff.mp mem) (Notice.referenceCycle.inj same)]
  · intro closed tables perm notice mem
    obtain ⟨table, held, named, leads⟩ :=
      leadsToCycle_of_mem_notices (distinct.withTables perm) mem
    rw [leadsToCycle_withTables perm] at leads
    refine ⟨table, held, named, ?_⟩
    rw [OnCycle, refers_withTables perm]
    exact closed table leads

/--
A table comes after each table that it refers to, unless it is noticed and the other one leads to a
cycle; and every table that is noticed leads to a cycle.  Whatever order the schema has its tables
in, a table goes before one that it refers to only on a cycle exactly if no table refers to one that
leads to a cycle but not back to it; and only tables on a cycle are noticed exactly if every table
that leads to a cycle is on one.
-/
theorem dependencyOrder_off_cycles (distinct : schema.HasDistinctNames) :
    (∀ source target, schema.Refers source target →
      schema.dependencyOrder.tables.idxOf target < schema.dependencyOrder.tables.idxOf source ∨
        .referenceCycle source.name ∈ schema.dependencyOrder.notices ∧
          schema.LeadsToCycle target) ∧
    (∀ notice ∈ schema.dependencyOrder.notices,
      ∃ table ∈ schema.tables, notice = .referenceCycle table.name ∧ schema.LeadsToCycle table) ∧
    ((∀ tables, tables.Perm schema.tables → (schema.withTables tables).DefersOnCycles) ↔
      ∀ source target, schema.Refers source target → schema.LeadsToCycle target →
        Relation.TransGen schema.Refers target source) ∧
    ((∀ tables, tables.Perm schema.tables → (schema.withTables tables).NoticesCycles) ↔
      ∀ table, schema.LeadsToCycle table → schema.OnCycle table) :=
  ⟨fun _ _ refers => idxOf_dependencyOrder_lt_or distinct refers,
    fun _ mem => leadsToCycle_of_mem_notices distinct mem,
    forall_perm_defersOnCycles_iff distinct, forall_perm_noticesCycles_iff distinct⟩

/-- Two tables that refer to each other, between one that refers to neither of them and one that it
refers to. -/
def pairSchema : Schema where
  name := "pair"
  tables :=
    [{ name := "notes", fields := [{ name := "tag_id", foreignKey := some ⟨"tags", "id"⟩ }] },
     { name := "posts", fields := [{ name := "author_id", foreignKey := some ⟨"users", "id"⟩ }] },
     { name := "users", fields := [{ name := "pinned_id", foreignKey := some ⟨"posts", "id"⟩ }] },
     { name := "tags", fields := [{ name := "id", primaryKey := true }] }]

theorem dependencyOrder_off_cycles_pairSchema :
    pairSchema.HasDistinctNames ∧
      pairSchema.dependencyOrder.tables.map (·.name) = ["tags", "notes", "posts", "users"] ∧
      pairSchema.dependencyOrder.cyclic = ["posts"] ∧
      (∀ tables, tables.Perm pairSchema.tables → (pairSchema.withTables tables).DefersOnCycles) ∧
      ∀ tables, tables.Perm pairSchema.tables → (pairSchema.withTables tables).NoticesCycles := by
  have distinct : pairSchema.HasDistinctNames := by decide
  have back {source target : Table} (refers : pairSchema.Refers source target)
      (leads : pairSchema.LeadsToCycle target) : pairSchema.Refers target source := by
    have all : ∀ source ∈ pairSchema.tables, ∀ target ∈ pairSchema.tables,
        ∀ next ∈ pairSchema.tables, pairSchema.Refers source target →
          pairSchema.Refers target next → pairSchema.Refers target source := by decide
    obtain ⟨next, goesOn, -⟩ := leads.exists_refers
    exact all source refers.1 target refers.2.1 next goesOn.2.1 refers goesOn
  obtain ⟨-, -, defers, notices⟩ := dependencyOrder_off_cycles distinct
  refine ⟨distinct, by decide, by decide, defers.mpr fun source target refers leads => ?_,
    notices.mpr fun table leads => ?_⟩
  · exact .single (back refers leads)
  · obtain ⟨target, refers, goesOn⟩ := leads.exists_refers
    exact .tail (.single refers) (back refers goesOn)

def likesTable : Table where
  name := "likes"
  fields := [{ name := "post_id", foreignKey := some ⟨"posts", "id"⟩ }]

def postsTable : Table where
  name := "posts"
  fields := [{ name := "author_id", foreignKey := some ⟨"users", "id"⟩ }]

def detourSchema : Schema where
  name := "detour"
  tables :=
    [likesTable, postsTable,
     { name := "users", fields := [{ name := "pinned_id", foreignKey := some ⟨"posts", "id"⟩ }] }]

/-- The table goes before the one that it refers to and is noticed, though no table refers to it. -/
theorem detourSchema_dependencyOrder :
    detourSchema.HasDistinctNames ∧
      detourSchema.dependencyOrder.tables = detourSchema.tables ∧
      detourSchema.dependencyOrder.cyclic = ["likes", "posts"] ∧
      ¬ detourSchema.DefersOnCycles ∧ ¬ detourSchema.NoticesCycles := by
  have distinct : detourSchema.HasDistinctNames := by decide
  have order : detourSchema.dependencyOrder.tables = detourSchema.tables := by decide
  have unreferred : ∀ source, ¬ Relation.TransGen detourSchema.Refers source likesTable := by
    intro source path
    have none : ∀ other ∈ detourSchema.tables, ¬ detourSchema.Refers other likesTable := by decide
    obtain ⟨other, -, refers⟩ := Relation.TransGen.tail'_iff.mp path
    exact none other refers.1 refers
  refine ⟨distinct, order, by decide, fun defers => ?_, fun notices => ?_⟩
  · have before := defers likesTable postsTable (by decide) (unreferred postsTable)
    rw [order] at before
    exact absurd before (by decide)
  · obtain ⟨table, mem, named, cycle⟩ :=
      notices (.referenceCycle likesTable.name) (mem_notices_iff.mpr (by decide))
    have same : table = likesTable :=
      distinct.eq_of_name mem (by decide) (Notice.referenceCycle.inj named).symm
    exact unreferred table (same ▸ cycle)

end SchemaArtifacts.Schema
