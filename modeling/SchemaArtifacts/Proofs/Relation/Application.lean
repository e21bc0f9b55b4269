import SchemaArtifacts.Proofs.Relation.KeySuggestions
import SchemaArtifacts.Proofs.Schema.References

/-!
# Applied suggestions

A suggestion that adds a foreign key changes one field and reads nothing that another one changes.
So any of them can be applied, in any order: each links its own field, and what is left of the
suggestions stays as it was.
-/

namespace SchemaArtifacts

def Table.mapFields (change : Field → Field) (table : Table) : Table :=
  { table with fields := table.fields.map change }

namespace Schema

def mapFields (change : String → Field → Field) (schema : Schema) : Schema :=
  { schema with tables := schema.tables.map fun table => table.mapFields (change table.name) }

variable {schema : Schema}

theorem mapFields_mapFields (schema : Schema) (first second : String → Field → Field) :
    (schema.mapFields first).mapFields second =
      schema.mapFields fun table field => second table (first table field) := by
  simp [mapFields, Table.mapFields, Function.comp_def]

theorem mapFields_self (schema : Schema) : schema.mapFields (fun _ field => field) = schema := by
  simp [mapFields, Table.mapFields]

theorem tableIndex?_mapFields (schema : Schema) (change : String → Field → Field) (key : String) :
    (schema.mapFields change).tableIndex? key = schema.tableIndex? key := by
  simp [tableIndex?, mapFields, Table.mapFields, List.findIdx?_map, Function.comp_def]

theorem HasDistinctNames.mapFields (distinct : schema.HasDistinctNames)
    (change : String → Field → Field) : (schema.mapFields change).HasDistinctNames := by
  simpa [HasDistinctNames, Schema.mapFields, Table.mapFields, Function.comp_def] using distinct

theorem HasDistinctFields.mapFields (distinct : schema.HasDistinctFields)
    {change : String → Field → Field}
    (keeps : ∀ table field, (change table field).name = field.name) :
    (schema.mapFields change).HasDistinctFields := by
  simpa [HasDistinctFields, Schema.mapFields, Table.mapFields, Function.comp_def, keeps]
    using distinct

end Schema

end SchemaArtifacts

namespace SchemaArtifacts.Relation

open Schema

section Keys

variable {α : Type} {key : α → String} {items : List α}

theorem exists_findIdx?_of_mem (key : α → String) {item : α} (mem : item ∈ items) :
    ∃ index found, items.findIdx? (key · == key item) = some index ∧
      items[index]? = some found ∧ key found = key item := by
  have present : (items.findIdx? (key · == key item)).isSome = true := by
    rw [List.findIdx?_isSome, List.any_eq_true]
    exact ⟨item, mem, by simp⟩
  obtain ⟨index, found⟩ := Option.isSome_iff_exists.mp present
  obtain ⟨bound, same, -⟩ := List.findIdx?_eq_some_iff_getElem.mp found
  exact ⟨index, items[index], found, List.getElem?_eq_getElem bound, by simpa using same⟩

theorem modify_of_findIdx? (distinct : (items.map key).Nodup) {name : String} {index : Nat}
    (found : items.findIdx? (key · == name) = some index) (change : α → α) :
    items.modify index change =
      items.map fun item => if key item = name then change item else item := by
  induction items generalizing index with
  | nil => simp at found
  | cons item rest ih =>
      obtain ⟨absent, distinct⟩ := List.nodup_cons.mp distinct
      rw [List.findIdx?_cons] at found
      by_cases here : key item = name
      · have others : ∀ other ∈ rest, key other ≠ name := by
          rintro other mem rfl
          exact absent (here ▸ List.mem_map_of_mem mem)
        have kept : rest.map (fun item => if key item = name then change item else item) = rest :=
          (List.map_congr_left fun other mem => if_neg (others other mem)).trans (List.map_id rest)
        simp only [here, beq_self_eq_true, if_true, Option.some.injEq] at found
        subst found
        simp [here, kept]
      · simp only [beq_false_of_ne here, Bool.false_eq_true, if_false, Option.map_eq_some_iff]
          at found
        obtain ⟨before, found, rfl⟩ := found
        simp [here, ih distinct found]

end Keys

namespace Suggestion

def concerns (suggestion : Suggestion) (table : String) (field : Field) : Bool :=
  table == suggestion.fromTable && field.name == suggestion.fromField

def linkField (suggestion : Suggestion) (table : String) (field : Field) : Field :=
  if suggestion.concerns table field then applyToField suggestion field else field

/-- The suggestion adds a foreign key to a field of the schema. -/
structure IsApplicable (schema : Schema) (suggestion : Suggestion) : Prop where
  adds : suggestion.cardinality ≠ .manyToMany
  placed : ∃ table ∈ schema.tables, table.name = suggestion.fromTable ∧
    ∃ field ∈ table.fields, field.name = suggestion.fromField

theorem concerns_eq_true_iff {suggestion : Suggestion} {table : String} {field : Field} :
    suggestion.concerns table field = true ↔ suggestion.source = (table, field.name) := by
  simp only [concerns, source, Bool.and_eq_true, beq_iff_eq, Prod.mk.injEq, eq_comm (a := table),
    eq_comm (a := field.name)]

theorem linkField_name (suggestion : Suggestion) (table : String) (field : Field) :
    (suggestion.linkField table field).name = field.name := by
  unfold linkField
  split <;> rfl

theorem IsApplicable.mapFields {schema : Schema} {suggestion : Suggestion}
    (applicable : suggestion.IsApplicable schema) {change : String → Field → Field}
    (keeps : ∀ table field, (change table field).name = field.name) :
    suggestion.IsApplicable (schema.mapFields change) := by
  obtain ⟨adds, table, hasTable, named, field, hasField, fieldNamed⟩ := applicable
  refine ⟨adds, table.mapFields (change table.name), List.mem_map_of_mem hasTable, named,
    change table.name field, List.mem_map_of_mem hasField, ?_⟩
  rw [keeps, fieldNamed]

end Suggestion

variable {schema : Schema}

theorem isApplicable_of_mem {suggestion : Suggestion}
    (mem : suggestion ∈ namingSuggestions schema) : suggestion.IsApplicable schema := by
  obtain ⟨position, table, there, field, hasField, suggested⟩ := mem_namingSuggestions.mp mem
  obtain ⟨source, adds⟩ := source_of_fieldSuggestion? suggested
  obtain ⟨fromTable, fromField⟩ := Prod.mk.inj source
  exact ⟨by simp [adds], table, List.mem_of_getElem? there, fromTable.symm, field, hasField,
    fromField.symm⟩

theorem apply_eq_mapFields (names : schema.HasDistinctNames) (fields : schema.HasDistinctFields)
    {suggestion : Suggestion} (applicable : suggestion.IsApplicable schema) :
    apply schema suggestion = schema.mapFields suggestion.linkField := by
  obtain ⟨adds, table, hasTable, named, field, hasField, fieldNamed⟩ := applicable
  obtain ⟨tableIndex, found, tableFound, there, same⟩ :=
    exists_findIdx?_of_mem Table.name hasTable
  obtain rfl : found = table := names.eq_of_name (List.mem_of_getElem? there) hasTable same
  obtain ⟨fieldIndex, -, fieldFound, -⟩ := exists_findIdx?_of_mem Field.name hasField
  rw [named] at tableFound
  rw [fieldNamed] at fieldFound
  have place : place? schema suggestion = some (tableIndex, fieldIndex) := by
    simp [place?, tableIndex?, tableFound, there, fieldFound]
  rw [apply, if_neg adds, place]
  simp only [mapFields, Schema.mk.injEq, true_and, and_true]
  rw [modify_of_findIdx? names tableFound]
  refine List.map_congr_left fun other mem => ?_
  by_cases here : other.name = suggestion.fromTable
  · obtain rfl : other = found := names.eq_of_name mem hasTable (here.trans named.symm)
    rw [if_pos here, modify_of_findIdx? (fields other mem) fieldFound]
    simp [Table.mapFields, Suggestion.linkField, Suggestion.concerns, here]
  · have apart : suggestion.linkField other.name = id := by
      funext field
      simp [Suggestion.linkField, Suggestion.concerns, here]
    simp [here, Table.mapFields, apart]

/-! ## One application after another -/

def applyAll (schema : Schema) (chosen : List Suggestion) : Schema := chosen.foldl apply schema

def linkAll (chosen : List Suggestion) (table : String) (field : Field) : Field :=
  chosen.foldl (fun field suggestion => suggestion.linkField table field) field

theorem applyAll_eq_mapFields (names : schema.HasDistinctNames) (fields : schema.HasDistinctFields)
    {chosen : List Suggestion}
    (applicable : ∀ suggestion ∈ chosen, suggestion.IsApplicable schema) :
    applyAll schema chosen = schema.mapFields (linkAll chosen) := by
  induction chosen generalizing schema with
  | nil => exact (mapFields_self schema).symm
  | cons suggestion rest ih =>
      -- Names stay, so the suggestions after the first one are applicable to what it leaves.
      have keeps := suggestion.linkField_name
      have later := ih (names.mapFields suggestion.linkField) (fields.mapFields keeps)
        fun other mem => (applicable other (List.mem_cons_of_mem _ mem)).mapFields keeps
      have first := apply_eq_mapFields names fields (applicable suggestion List.mem_cons_self)
      calc applyAll schema (suggestion :: rest)
        _ = applyAll (schema.mapFields suggestion.linkField) rest := by rw [← first]; rfl
        _ = (schema.mapFields suggestion.linkField).mapFields (linkAll rest) := later
        _ = schema.mapFields (linkAll (suggestion :: rest)) := mapFields_mapFields ..

/-- A field with the foreign key of the suggestion that concerns it, if there is one. -/
def linked (chosen : List Suggestion) (table : String) (field : Field) : Field :=
  match chosen.find? (·.concerns table field) with
  | some suggestion =>
    { field with
      foreignKey := some suggestion.foreignKey
      cardinality := some suggestion.cardinality }
  | none => field

theorem linkAll_applyToField {chosen : List Suggestion} {table : String} {field : Field}
    {suggestion : Suggestion}
    (only : ∀ other ∈ chosen, other.concerns table field = true → other = suggestion) :
    linkAll chosen table (applyToField suggestion field) = applyToField suggestion field := by
  induction chosen with
  | nil => rfl
  | cons first rest ih =>
      have step : first.linkField table (applyToField suggestion field) =
          applyToField suggestion field := by
        unfold Suggestion.linkField
        split
        case isTrue concerned => rw [only first List.mem_cons_self concerned]; rfl
        case isFalse => rfl
      rw [linkAll, List.foldl_cons, step]
      exact ih fun other mem => only other (List.mem_cons_of_mem _ mem)

theorem linkAll_eq_linked {chosen : List Suggestion}
    (apart : ∀ first ∈ chosen, ∀ second ∈ chosen, first.source = second.source → first = second)
    (table : String) (field : Field) : linkAll chosen table field = linked chosen table field := by
  induction chosen with
  | nil => rfl
  | cons suggestion rest ih =>
      cases concerned : suggestion.concerns table field with
      | true =>
          have only : ∀ other ∈ rest, other.concerns table field = true → other = suggestion := by
            intro other mem also
            rw [Suggestion.concerns_eq_true_iff] at concerned also
            exact apart other (List.mem_cons_of_mem _ mem) suggestion List.mem_cons_self
              (also.trans concerned.symm)
          calc linkAll (suggestion :: rest) table field
            _ = linkAll rest table (suggestion.linkField table field) := rfl
            _ = linkAll rest table (applyToField suggestion field) := by
              rw [Suggestion.linkField, if_pos concerned]
            _ = applyToField suggestion field := linkAll_applyToField only
            _ = linked (suggestion :: rest) table field := by simp [linked, applyToField, concerned]
      | false =>
          have later := ih fun first hfirst second hsecond =>
            apart first (List.mem_cons_of_mem _ hfirst) second (List.mem_cons_of_mem _ hsecond)
          calc linkAll (suggestion :: rest) table field
            _ = linkAll rest table (suggestion.linkField table field) := rfl
            _ = linkAll rest table field := by simp [Suggestion.linkField, concerned]
            _ = linked rest table field := later
            _ = linked (suggestion :: rest) table field := by simp [linked, concerned]

theorem linked_name (chosen : List Suggestion) (table : String) (field : Field) :
    (linked chosen table field).name = field.name := by
  unfold linked
  split <;> rfl

theorem linked_primaryKey (chosen : List Suggestion) (table : String) (field : Field) :
    (linked chosen table field).primaryKey = field.primaryKey := by
  unfold linked
  split <;> rfl

theorem findTable?_mapFields (schema : Schema) (change : String → Field → Field)
    (names : List String) :
    findTable? (schema.mapFields change) names = findTable? schema names := by
  have index : (schema.mapFields change).tableIndex? = schema.tableIndex? :=
    funext (schema.tableIndex?_mapFields change)
  simp [findTable?, index]

theorem fieldSuggestion?_mapFields {change : String → Field → Field}
    (named : ∀ table field, (change table field).name = field.name)
    (keyed : ∀ table field, (change table field).primaryKey = field.primaryKey)
    (position : Nat) (table : Table) (own : Field → Field) (field : Field) :
    fieldSuggestion? (schema.mapFields change) position (table.mapFields own) field =
      fieldSuggestion? schema position table field := by
  have found (names : List String) := findTable?_mapFields schema change names
  have reference (stem : String) :
      reference? (schema.mapFields change) field stem = reference? schema field stem := by
    simp only [reference?, findByStem?, found]
  have key (target : Table) : (target.mapFields (change target.name)).primaryKey? =
      target.primaryKey?.map (change target.name) := by
    have same : (·.primaryKey) ∘ change target.name = (·.primaryKey) := funext (keyed target.name)
    simp only [Table.primaryKey?, Table.mapFields, List.find?_map, same]
  have there (index : Nat) : (schema.mapFields change).tables[index]? =
      schema.tables[index]?.map fun table => table.mapFields (change table.name) := by
    simp [mapFields]
  ext suggestion
  simp only [fieldSuggestion?_eq_some_iff, reference, there, Option.map_eq_some_iff,
    exists_exists_and_eq_and, key, named]
  rfl

section Linked

variable (names : schema.HasDistinctNames) (fields : schema.HasDistinctFields)
  {chosen : List Suggestion} (among : ∀ suggestion ∈ chosen, suggestion ∈ namingSuggestions schema)
include names fields among

theorem fieldSuggestion?_linked {position : Nat} {table : Table}
    (there : schema.tables[position]? = some table) {field : Field} (mem : field ∈ table.fields) :
    fieldSuggestion? (schema.mapFields (linked chosen)) position
        (table.mapFields (linked chosen table.name)) (linked chosen table.name field) =
      (fieldSuggestion? schema position table field).filter
        fun suggestion => suggestion ∉ chosen := by
  rw [fieldSuggestion?_mapFields (linked_name chosen) (linked_primaryKey chosen)]
  have mem (suggestion : Suggestion)
      (suggested : fieldSuggestion? schema position table field = some suggestion) :
      suggestion ∈ namingSuggestions schema :=
    mem_namingSuggestions.mpr ⟨position, table, there, field, mem, suggested⟩
  cases found : chosen.find? (·.concerns table.name field) with
  | some applied =>
      have silent : fieldSuggestion? schema position table (linked chosen table.name field) =
          none := by
        simp [fieldSuggestion?, linked, found]
      have among := among applied (List.mem_of_find?_eq_some found)
      have concerned : applied.source = (table.name, field.name) :=
        Suggestion.concerns_eq_true_iff.mp (by simpa using List.find?_some found)
      rw [silent, eq_comm, Option.filter_eq_none_iff]
      intro suggestion suggested
      have same : suggestion = applied :=
        eq_of_source_eq names fields (mem suggestion suggested) among
          ((source_of_fieldSuggestion? suggested).1.trans concerned.symm)
      simpa [same] using List.mem_of_find?_eq_some found
  | none =>
      have unchanged : linked chosen table.name field = field := by
        simp [linked, found]
      rw [unchanged]
      cases suggested : fieldSuggestion? schema position table field with
      | none => rfl
      | some suggestion =>
          have unapplied : suggestion ∉ chosen := fun applied =>
            List.find?_eq_none.mp found suggestion applied
              (Suggestion.concerns_eq_true_iff.mpr (source_of_fieldSuggestion? suggested).1)
          simp [Option.filter, unapplied]

theorem namingSuggestions_linked :
    namingSuggestions (schema.mapFields (linked chosen)) =
      (namingSuggestions schema).filter fun suggestion => suggestion ∉ chosen := by
  have tables : (schema.mapFields (linked chosen)).tables.zipIdx =
      schema.tables.zipIdx.map fun entry =>
        (entry.1.mapFields (linked chosen entry.1.name), entry.2) := by
    rw [mapFields, List.zipIdx_map]
    rfl
  rw [namingSuggestions, tables, List.flatMap_map, namingSuggestions, List.filter_flatMap]
  refine List.flatMap_congr ?_
  rintro ⟨table, position⟩ there
  simp only [Table.mapFields, List.filterMap_map, List.filter_filterMap]
  exact List.filterMap_congr fun field mem =>
    fieldSuggestion?_linked names fields among (List.mem_zipIdx_iff_getElem?.mp there) mem

end Linked

/-! ## Any suggestions in any order -/

theorem linked_congr {first second : List Suggestion}
    (apart : ∀ suggestion ∈ first, ∀ other ∈ first, suggestion.source = other.source →
      suggestion = other)
    (same : ∀ suggestion, suggestion ∈ second ↔ suggestion ∈ first) :
    linked second = linked first := by
  funext table field
  have find : second.find? (·.concerns table field) = first.find? (·.concerns table field) := by
    cases found : first.find? (·.concerns table field) with
    | none =>
        rw [List.find?_eq_none] at found ⊢
        exact fun suggestion mem => found suggestion ((same suggestion).mp mem)
    | some suggestion =>
        have mem := List.mem_of_find?_eq_some found
        have concerned : suggestion.concerns table field = true := by
          simpa using List.find?_some found
        cases other : second.find? (·.concerns table field) with
        | none =>
            exact absurd concerned (List.find?_eq_none.mp other suggestion ((same _).mpr mem))
        | some candidate =>
            have also : candidate.concerns table field = true := by
              simpa using List.find?_some other
            rw [Suggestion.concerns_eq_true_iff] at concerned also
            rw [apart candidate ((same _).mp (List.mem_of_find?_eq_some other)) suggestion mem
              (also.trans concerned.symm)]
  simp only [linked, find]

/--
Where tables and the fields of each table have distinct names, suggestions that add a foreign key
can be applied in any order with the same result: each field that one of them is about has its
foreign key and cardinality and all else is as it was.  Then just the others are suggested, in the
order in which they were.
-/
theorem applyAll_keySuggestions (schema : Schema) (names : schema.HasDistinctNames)
    (fields : schema.HasDistinctFields) {chosen : List Suggestion}
    (among : ∀ suggestion ∈ chosen, suggestion ∈ keySuggestions schema) :
    (∀ other : List Suggestion, (∀ suggestion, suggestion ∈ other ↔ suggestion ∈ chosen) →
      applyAll schema other = applyAll schema chosen) ∧
    applyAll schema chosen = schema.mapFields (linked chosen) ∧
    keySuggestions (applyAll schema chosen) =
      (keySuggestions schema).filter fun suggestion => suggestion ∉ chosen := by
  rw [keySuggestions_eq names fields] at among ⊢
  have apart : ∀ suggestion ∈ chosen, ∀ other ∈ chosen, suggestion.source = other.source →
      suggestion = other := fun suggestion hsuggestion other hother =>
    eq_of_source_eq names fields (among suggestion hsuggestion) (among other hother)
  have applied (all : List Suggestion)
      (same : ∀ suggestion, suggestion ∈ all ↔ suggestion ∈ chosen) :
      applyAll schema all = schema.mapFields (linked chosen) := by
    have applicable : ∀ suggestion ∈ all, suggestion.IsApplicable schema := fun suggestion mem =>
      isApplicable_of_mem (among suggestion ((same suggestion).mp mem))
    have linkedAll : linkAll all = linked chosen := by
      rw [← linked_congr apart same]
      funext table field
      refine linkAll_eq_linked (fun suggestion hsuggestion other hother => ?_) table field
      exact apart suggestion ((same _).mp hsuggestion) other ((same _).mp hother)
    rw [applyAll_eq_mapFields names fields applicable, linkedAll]
  have result := applied chosen fun _ => .rfl
  refine ⟨fun other same => (applied other same).trans result.symm, result, ?_⟩
  rw [result, keySuggestions_eq (names.mapFields _) (fields.mapFields (linked_name chosen)),
    namingSuggestions_linked names fields among]

def blogSchema : Schema where
  name := "blog"
  tables :=
    [{ name := "users", fields := [{ name := "uid", type := .uuid, primaryKey := true }] },
     { name := "posts"
       fields :=
        [{ name := "id", type := .int, primaryKey := true }, { name := "user_id" },
         { name := "tag_id", type := .int }] },
     { name := "comments", fields := [{ name := "post_id", type := .int }] },
     { name := "t3", id := "tag", fields := [{ name := "slug", primaryKey := true }] }]

def userSuggestion : Suggestion :=
  ⟨"posts", "user_id", "users", "uid", .oneToMany, .high,
    "Standard owner relation to the users table"⟩

def tagSuggestion : Suggestion :=
  ⟨"posts", "tag_id", "t3", "slug", .oneToMany, .high,
    "Field \"tag_id\" looks like a reference to this table"⟩

def postSuggestion : Suggestion :=
  ⟨"comments", "post_id", "posts", "id", .oneToMany, .high,
    "Field \"post_id\" looks like a reference to this table"⟩

theorem applyAll_keySuggestions_blogSchema :
    keySuggestions blogSchema = [userSuggestion, tagSuggestion, postSuggestion] ∧
      applyAll blogSchema [postSuggestion, userSuggestion] =
        applyAll blogSchema [userSuggestion, postSuggestion] ∧
      keySuggestions (applyAll blogSchema [userSuggestion, postSuggestion]) = [tagSuggestion] := by
  have suggested : keySuggestions blogSchema = [userSuggestion, tagSuggestion, postSuggestion] := by
    decide +kernel
  obtain ⟨ordered, -, left⟩ := @applyAll_keySuggestions blogSchema (by decide) (by decide)
    [userSuggestion, postSuggestion] (by rw [suggested]; decide)
  refine ⟨suggested, ordered _ (by simp [or_comm]), ?_⟩
  rw [left, suggested]
  decide

end SchemaArtifacts.Relation
