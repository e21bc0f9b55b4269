import SchemaArtifacts.Proofs.Schema.Agreement

/-!
# Targets without descriptions

A target whose tables and fields have no descriptions.  Two targets that are the same without them
differ in the descriptions at most, and are put into the same order.
-/

namespace SchemaArtifacts

def Field.describe (description : String) (field : Field) : Field := { field with description }

def Table.describe (description : String) (table : Table) : Table := { table with description }

def Field.bare (field : Field) : Field := field.describe ""

def Table.bare (table : Table) : Table :=
  { table with description := "", fields := table.fields.map Field.bare }

def Schema.bare (schema : Schema) : Schema :=
  { schema with tables := schema.tables.map Table.bare }

def Target.bare : Target → Target
  | table target => table target.bare
  | schema target => schema target.bare

theorem Field.bare_describe (description : String) (field : Field) :
    (field.describe description).bare = field.bare := rfl

theorem Table.bare_describe (description : String) (table : Table) :
    (table.describe description).bare = table.bare := rfl

theorem Table.name_bare (table : Table) : table.bare.name = table.name := rfl

theorem Target.name_bare (target : Target) : target.bare.name = target.name := by
  cases target <;> rfl

theorem Target.tables_bare (target : Target) :
    target.bare.tables = target.tables.map Table.bare := by
  cases target <;> rfl

theorem Field.eq_of_bare {first second : Field} (same : first.bare = second.bare)
    (described : first.description = second.description) : first = second := by
  have whole (field : Field) : field.bare.describe field.description = field := rfl
  rw [← whole first, ← whole second, same, described]

theorem Field.list_eq_of_bare {first second : List Field}
    (same : first.map Field.bare = second.map Field.bare)
    (described : first.map (·.description) = second.map (·.description)) : first = second := by
  induction first generalizing second with
  | nil => simpa using same
  | cons field rest ih =>
      cases second with
      | nil => cases same
      | cons other others =>
          obtain ⟨bare, bares⟩ := List.cons.inj same
          obtain ⟨text, texts⟩ := List.cons.inj described
          rw [Field.eq_of_bare bare text, ih bares texts]

theorem Table.eq_of_bare {α : Type} {f : Table → α} (blind : ∀ table, f table.bare = f table)
    {first second : Table} (same : first.bare = second.bare) : f first = f second := by
  rw [← blind first, same, blind]

namespace Schema

theorem references_bare (names : List String) (table : Table) :
    references names table.bare = references names table := by
  have keys : table.bare.fields.filterMap (fun field => field.foreignKey.map (·.table)) =
      table.fields.filterMap fun field => field.foreignKey.map (·.table) :=
    List.filterMap_map
  rw [references, keys, Table.name_bare]
  rfl

theorem isFixed_of_bare {ι : Type} {table : ι → Table}
    (same : ∀ i j, (table i).bare = (table j).bare) : IsFixed table where
  name i j := Table.eq_of_bare Table.name_bare (same i j)
  references i j names := Table.eq_of_bare (references_bare names) (same i j)

theorem exists_dependencyOrder_described {ι : Type} [Nonempty ι] {table : ι → Table}
    (same : ∀ i j, (table i).bare = (table j).bare) (schema : Schema)
    (earlier later : List Table) :
    ∃ before after : List Table, ∀ i,
      ({ schema with tables := earlier ++ table i :: later } : Schema).dependencyOrder.tables =
        before ++ table i :: after := by
  let others : List (ι → Table) := (earlier ++ later).map fun other _ => other
  let tables : List (ι → Table) :=
    earlier.map (fun other _ => other) ++ table :: later.map fun other _ => other
  have whole : tables.Perm (table :: others) := by
    simp only [tables, others, List.map_append]
    exact List.perm_middle
  have fixed : ∀ other ∈ tables, IsFixed other := by
    intro other mem
    rcases List.mem_cons.mp (whole.mem_iff.mp mem) with rfl | constant
    · exact isFixed_of_bare same
    · obtain ⟨held, -, rfl⟩ := List.mem_map.mp constant
      exact ⟨fun _ _ => rfl, fun _ _ _ => rfl⟩
  have given : ∀ i, ({ schema with tables := earlier ++ table i :: later } : Schema).tables =
      tables.map (· i) := fun i => by simp [tables, Function.comp_def]
  obtain ⟨ordered, perm, taken⟩ := exists_dependencyOrder_parallel fixed given
  obtain ⟨before, after, rfl⟩ :=
    List.append_of_mem ((perm.trans whole).mem_iff.mpr List.mem_cons_self)
  have rest : (before ++ after).Perm others :=
    (List.perm_middle.symm.trans (perm.trans whole)).cons_inv
  obtain ⟨value⟩ := ‹Nonempty ι›
  have constant : ∀ other ∈ before ++ after, ∀ i, other i = other value := by
    intro other mem i
    obtain ⟨held, -, rfl⟩ := List.mem_map.mp (rest.mem_iff.mp mem)
    rfl
  refine ⟨before.map (· value), after.map (· value), fun i => ?_⟩
  rw [taken i, List.map_append, List.map_cons]
  congr 1
  · exact List.map_congr_left fun other mem => constant other (List.mem_append_left _ mem) i
  · congr 1
    exact List.map_congr_left fun other mem => constant other (List.mem_append_right _ mem) i

end Schema

end SchemaArtifacts
