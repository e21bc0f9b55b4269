import Mathlib.Data.List.Flatten
import Mathlib.Data.List.Nodup
import SchemaArtifacts.Proofs.Schema.References

/-!
# Joined names

Names that are derived from fields join the name of the table and that of the field with an
underscore.  Where tables and the fields of each table have distinct names, derived names differ
unless the name of one table goes on with what a field of another one starts with.
-/

namespace SchemaArtifacts

theorem joined_eq_iff {table other field field' : String} :
    table ++ "_" ++ field = other ++ "_" ++ field' ↔
      (table = other ∧ field = field') ∨
        (∃ rest, other = table ++ "_" ++ rest ∧ field = rest ++ "_" ++ field') ∨
          ∃ rest, table = other ++ "_" ++ rest ∧ field' = rest ++ "_" ++ field := by
  constructor
  · intro same
    have chars : table.toList ++ '_' :: field.toList = other.toList ++ '_' :: field'.toList := by
      simpa using congrArg String.toList same
    rcases List.append_eq_append_iff.mp chars with ⟨more, longer, left⟩ | ⟨more, longer, left⟩
    · cases more with
      | nil =>
          refine .inl ⟨String.toList_injective ?_, String.toList_injective ?_⟩
          · simpa using longer.symm
          · simpa using left
      | cons c more =>
          obtain ⟨rfl, rest⟩ := List.cons.inj left
          refine .inr (.inl ⟨String.ofList more, String.toList_injective ?_,
            String.toList_injective ?_⟩)
          · simp [longer]
          · simp [rest]
    · cases more with
      | nil =>
          refine .inl ⟨String.toList_injective ?_, String.toList_injective ?_⟩
          · simpa using longer
          · simpa using left.symm
      | cons c more =>
          obtain ⟨rfl, rest⟩ := List.cons.inj left
          refine .inr (.inr ⟨String.ofList more, String.toList_injective ?_,
            String.toList_injective ?_⟩)
          · simp [longer]
          · simp [rest]
  · rintro (⟨rfl, rfl⟩ | ⟨rest, rfl, rfl⟩ | ⟨rest, rfl, rfl⟩)
    · rfl
    · simp only [String.append_assoc]
    · simp only [String.append_assoc]

namespace Schema

variable {schema : Schema}

theorem nodup_fieldNames (names : schema.HasDistinctNames) (fields : schema.HasDistinctFields) :
    (schema.tables.flatMap fun table =>
      table.fields.map fun field => (table.name, field.name)).Nodup := by
  rw [List.nodup_flatMap]
  constructor
  · intro table mem
    have pairs := (fields table mem).map (Prod.mk_right_injective table.name)
    rwa [List.map_map] at pairs
  · refine (List.pairwise_map.mp names).imp fun {first second} apart => ?_
    simp only [Function.onFun, List.disjoint_left, List.mem_map]
    rintro _ ⟨field, -, rfl⟩ ⟨other, -, same⟩
    exact apart (Prod.mk.inj same).1.symm

def markedNames (schema : Schema) (marked : Field → Bool) : List (String × String) :=
  schema.tables.flatMap fun table =>
    (table.fields.filter marked).map fun field => (table.name, field.name)

theorem mem_markedNames {marked : Field → Bool} {pair : String × String} :
    pair ∈ schema.markedNames marked ↔
      ∃ table ∈ schema.tables, ∃ field ∈ table.fields, marked field = true ∧
        pair = (table.name, field.name) := by
  simp only [markedNames, List.mem_flatMap, List.mem_map, List.mem_filter]
  constructor
  · rintro ⟨table, among, field, ⟨mem, mark⟩, rfl⟩
    exact ⟨table, among, field, mem, mark, rfl⟩
  · rintro ⟨table, among, field, mem, mark, rfl⟩
    exact ⟨table, among, field, ⟨mem, mark⟩, rfl⟩

theorem nodup_markedNames (names : schema.HasDistinctNames) (fields : schema.HasDistinctFields)
    (marked : Field → Bool) : (schema.markedNames marked).Nodup := by
  refine (nodup_fieldNames names fields).sublist ?_
  exact List.Sublist.flatMap_right _ fun table _ => List.filter_sublist.map _

/--
A table is named like another one with more after an underscore, and a marked field of that other
one is named with the same before an underscore and the name of a marked field of the table.
-/
def JoinsAlike (schema : Schema) (marked : Field → Bool) : Prop :=
  ∃ table ∈ schema.tables, ∃ other ∈ schema.tables,
    ∃ field ∈ table.fields, ∃ field' ∈ other.fields, marked field = true ∧ marked field' = true ∧
      ∃ rest, other.name = table.name ++ "_" ++ rest ∧ field.name = rest ++ "_" ++ field'.name

theorem not_joinsAlike_of_not_prefix {marked : Field → Bool}
    (apart : ∀ table ∈ schema.tables, ∀ other ∈ schema.tables,
      ¬ (table.name ++ "_").toList <+: other.name.toList) : ¬ schema.JoinsAlike marked := by
  rintro ⟨table, among, other, among', _, _, _, _, _, _, rest, longer, _⟩
  refine apart table among other among' ⟨rest.toList, ?_⟩
  rw [longer, ← String.toList_append]

theorem nodup_joined_iff (names : schema.HasDistinctNames) (fields : schema.HasDistinctFields)
    (marked : Field → Bool) (start : String) :
    ((schema.markedNames marked).map fun pair => start ++ pair.1 ++ "_" ++ pair.2).Nodup ↔
      ¬ schema.JoinsAlike marked := by
  rw [List.nodup_map_iff_inj_on (nodup_markedNames names fields marked)]
  constructor
  · rintro apart ⟨table, among, other, among', field, mem, field', mem', mark, mark', rest,
      longer, goes⟩
    have derived : start ++ table.name ++ "_" ++ field.name =
        start ++ other.name ++ "_" ++ field'.name := by
      simp only [longer, goes, String.append_assoc]
    have same := apart _ (mem_markedNames.mpr ⟨table, among, field, mem, mark, rfl⟩) _
      (mem_markedNames.mpr ⟨other, among', field', mem', mark', rfl⟩) derived
    have shorter := congrArg String.length ((Prod.mk.inj same).1.trans longer)
    have mark : "_".length = 1 := rfl
    rw [String.length_append, String.length_append] at shorter
    omega
  · rintro apart _ first _ second derived
    obtain ⟨table, among, field, mem, mark, rfl⟩ := mem_markedNames.mp first
    obtain ⟨other, among', field', mem', mark', rfl⟩ := mem_markedNames.mp second
    have joined : table.name ++ "_" ++ field.name = other.name ++ "_" ++ field'.name := by
      simpa only [String.append_assoc, String.append_right_inj] using derived
    rcases joined_eq_iff.mp joined with ⟨name, name'⟩ | ⟨rest, longer, goes⟩ | ⟨rest, longer, goes⟩
    · rw [name, name']
    · exact absurd ⟨table, among, other, among', field, mem, field', mem', mark, mark', rest,
        longer, goes⟩ apart
    · exact absurd ⟨other, among', table, among, field', mem', field, mem, mark', mark, rest,
        longer, goes⟩ apart

end Schema

end SchemaArtifacts
