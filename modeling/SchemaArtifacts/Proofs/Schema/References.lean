import Mathlib.Data.List.Nodup
import Mathlib.Data.Set.Finite.List
import Mathlib.Logic.Relation
import Mathlib.Order.WellFounded
import SchemaArtifacts.Schema.Basic

/-!
# References between tables

Which tables of a schema refer to which others, and what it means that these references form no
cycle and that an order of the tables respects them.  An order that respects all references exists
only without cycles.
-/

namespace SchemaArtifacts.Schema

def Refers (schema : Schema) (source target : Table) : Prop :=
  source ∈ schema.tables ∧ target ∈ schema.tables ∧ target.name ≠ source.name ∧
    ∃ field ∈ source.fields, field.foreignKey.map (·.table) = some target.name

instance (schema : Schema) : DecidableRel schema.Refers := fun source target =>
  inferInstanceAs (Decidable (source ∈ schema.tables ∧ target ∈ schema.tables ∧
    target.name ≠ source.name ∧
      ∃ field ∈ source.fields, field.foreignKey.map (·.table) = some target.name))

def HasDistinctNames (schema : Schema) : Prop := (schema.tables.map (·.name)).Nodup

instance (schema : Schema) : Decidable schema.HasDistinctNames :=
  inferInstanceAs (Decidable (schema.tables.map (·.name)).Nodup)

def HasDistinctFields (schema : Schema) : Prop :=
  ∀ table ∈ schema.tables, (table.fields.map (·.name)).Nodup

instance (schema : Schema) : Decidable schema.HasDistinctFields :=
  inferInstanceAs (Decidable (∀ table ∈ schema.tables, (table.fields.map (·.name)).Nodup))

def OnCycle (schema : Schema) (table : Table) : Prop := Relation.TransGen schema.Refers table table

def IsAcyclic (schema : Schema) : Prop := ∀ table, ¬ Relation.TransGen schema.Refers table table

def Respects (schema : Schema) (order : List Table) : Prop :=
  order.Pairwise fun earlier later => ¬ schema.Refers earlier later

instance (schema : Schema) (order : List Table) : Decidable (schema.Respects order) :=
  inferInstanceAs (Decidable (order.Pairwise fun earlier later => ¬ schema.Refers earlier later))

def positions (schema : Schema) (order : List Table) : List Nat :=
  order.map schema.tables.idxOf

variable {schema : Schema}

theorem HasDistinctNames.nodup (distinct : schema.HasDistinctNames) : schema.tables.Nodup :=
  List.Nodup.of_map _ distinct

theorem HasDistinctNames.eq_of_name (distinct : schema.HasDistinctNames) {first second : Table}
    (hfirst : first ∈ schema.tables) (hsecond : second ∈ schema.tables)
    (same : first.name = second.name) : first = second :=
  List.inj_on_of_nodup_map distinct hfirst hsecond same

theorem HasDistinctNames.idxOf_lt (distinct : schema.HasDistinctNames) {first second : Table}
    (pair : [first, second].Sublist schema.tables) :
    schema.tables.idxOf first < schema.tables.idxOf second := by
  obtain ⟨before, after, split, hfirst, later⟩ := List.cons_sublist_iff.mp pair
  have nodup := distinct.nodup
  rw [split] at nodup ⊢
  have hsecond : second ∈ after := List.singleton_sublist.mp later
  have absent : second ∉ before := fun early =>
    (List.nodup_append.mp nodup).2.2 second early second hsecond rfl
  have bound := List.idxOf_lt_length_iff.mpr hfirst
  rw [List.idxOf_append_of_mem hfirst, List.idxOf_append_of_notMem absent]
  omega

/-- Of two tables of an order the second stands first, unless they are related as earlier and later
ones are. -/
theorem idxOf_lt_or_of_pairwise {order : List Table} {related : Table → Table → Prop}
    (pairwise : order.Pairwise related) {source target : Table} (hsource : source ∈ order)
    (htarget : target ∈ order) (apart : source ≠ target) :
    order.idxOf target < order.idxOf source ∨ related source target := by
  have sourceBound := List.idxOf_lt_length_iff.mpr hsource
  have targetBound := List.idxOf_lt_length_iff.mpr htarget
  rcases Nat.lt_trichotomy (order.idxOf source) (order.idxOf target) with before | same | after
  · have held := List.pairwise_iff_getElem.mp pairwise _ _ sourceBound targetBound before
    rw [List.getElem_idxOf, List.getElem_idxOf] at held
    exact .inr held
  · exact absurd ((List.idxOf_inj hsource).mp same) apart
  · exact .inl after

theorem Refers.ne {source target : Table} (refers : schema.Refers source target) :
    source ≠ target :=
  fun same => refers.2.2.1 (congrArg Table.name same.symm)

theorem Respects.idxOf_lt {order : List Table} (respects : schema.Respects order)
    {source target : Table} (hsource : source ∈ order) (htarget : target ∈ order)
    (refers : schema.Refers source target) : order.idxOf target < order.idxOf source :=
  (idxOf_lt_or_of_pairwise respects hsource htarget refers.ne).resolve_right (absurd refers)

theorem isAcyclic_of_respects {order : List Table} (perm : order.Perm schema.tables)
    (respects : schema.Respects order) : schema.IsAcyclic := by
  have descends : ∀ source target, Relation.TransGen schema.Refers source target →
      order.idxOf target < order.idxOf source := by
    intro source target path
    induction path with
    | single refers =>
        exact respects.idxOf_lt (perm.mem_iff.mpr refers.1) (perm.mem_iff.mpr refers.2.1) refers
    | tail _ refers ih =>
        exact Nat.lt_trans
          (respects.idxOf_lt (perm.mem_iff.mpr refers.1) (perm.mem_iff.mpr refers.2.1) refers) ih
  intro table cycle
  exact Nat.lt_irrefl _ (descends table table cycle)

theorem exists_unreferring {tables : List Table} (nonempty : tables ≠ [])
    (offCycles : ∀ table ∈ tables, ¬ schema.OnCycle table) :
    ∃ source ∈ tables, ∀ target ∈ tables, ¬ schema.Refers source target := by
  have : Finite { table // table ∈ tables } := (List.finite_toSet tables).to_subtype
  let below (first second : { table // table ∈ tables }) : Prop :=
    Relation.TransGen schema.Refers second.1 first.1
  have : IsTrans _ below := ⟨fun _ _ _ hfirst hsecond => hsecond.trans hfirst⟩
  have : Std.Irrefl below := ⟨fun table => offCycles table.1 table.2⟩
  have wellFounded : WellFounded below := Finite.wellFounded_of_trans_of_irrefl _
  obtain ⟨table, mem⟩ := List.exists_mem_of_ne_nil tables nonempty
  obtain ⟨source, -, least⟩ := wellFounded.has_min Set.univ ⟨⟨table, mem⟩, trivial⟩
  refine ⟨source.1, source.2, ?_⟩
  intro target htarget refers
  exact least ⟨target, htarget⟩ trivial (.single refers)

end SchemaArtifacts.Schema
