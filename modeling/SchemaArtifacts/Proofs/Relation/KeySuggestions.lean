import SchemaArtifacts.Proofs.Schema.JoinedNames
import SchemaArtifacts.Relation.Suggestion

/-!
# Suggested foreign keys

The suggestions that add a foreign key are those that the names of fields hint at.  Where tables
and the fields of each table have distinct names, no two of them are about the same field, so none
is left out as a repetition.
-/

namespace SchemaArtifacts.Relation

/-- The suggestions that add a foreign key, however many there are. -/
def keySuggestions (schema : Schema) : List Suggestion :=
  (allSuggestions schema).filter fun suggestion => suggestion.cardinality = .oneToMany

def Suggestion.source (suggestion : Suggestion) : String × String :=
  (suggestion.fromTable, suggestion.fromField)

variable {schema : Schema}

theorem fieldSuggestion?_eq_some_iff {position : Nat} {table : Table} {field : Field}
    {suggestion : Suggestion} :
    fieldSuggestion? schema position table field = some suggestion ↔
      (field.foreignKey = none ∧ field.primaryKey = false) ∧
      ∃ stem, stem? field.name = some stem ∧
      ∃ index reason, reference? schema field stem = some (index, reason) ∧ index ≠ position ∧
      ∃ target, schema.tables[index]? = some target ∧
      ∃ key, target.primaryKey? = some key ∧ suggestion =
        ⟨table.name, field.name, target.name, key.name, .oneToMany, .high, reason⟩ := by
  simp only [fieldSuggestion?, Option.bind_eq_bind, Option.bind_none]
  split
  case isTrue declared =>
    simp only [reduceCtorEq, false_iff]
    rintro ⟨⟨unlinked, plain⟩, -⟩
    simp [unlinked, plain] at declared
  case isFalse undeclared =>
    have undeclared : field.foreignKey = none ∧ field.primaryKey = false := by
      simpa using undeclared
    simp only [Option.bind_eq_some_iff, undeclared, and_self, true_and, Prod.exists,
      Option.ite_none_left_eq_some, pure, Option.some.injEq, eq_comm (a := suggestion), ne_eq]

theorem source_of_fieldSuggestion? {position : Nat} {table : Table} {field : Field}
    {suggestion : Suggestion}
    (suggested : fieldSuggestion? schema position table field = some suggestion) :
    suggestion.source = (table.name, field.name) ∧ suggestion.cardinality = .oneToMany := by
  obtain ⟨-, _, -, _, _, -, -, _, -, _, -, rfl⟩ := fieldSuggestion?_eq_some_iff.mp suggested
  exact ⟨rfl, rfl⟩

theorem mem_namingSuggestions {suggestion : Suggestion} :
    suggestion ∈ namingSuggestions schema ↔
      ∃ position table, schema.tables[position]? = some table ∧ ∃ field ∈ table.fields,
        fieldSuggestion? schema position table field = some suggestion := by
  simp only [namingSuggestions, List.mem_flatMap, List.mem_filterMap, Prod.exists,
    List.mem_zipIdx_iff_getElem?]
  exact exists_comm

theorem cardinality_of_mem_namingSuggestions {suggestion : Suggestion}
    (mem : suggestion ∈ namingSuggestions schema) : suggestion.cardinality = .oneToMany := by
  obtain ⟨_, _, -, _, -, suggested⟩ := mem_namingSuggestions.mp mem
  exact (source_of_fieldSuggestion? suggested).2

theorem map_filterMap_sublist {α β γ : Type} {f : α → Option β} {g : β → γ} {h : α → γ}
    (same : ∀ a b, f a = some b → g b = h a) (items : List α) :
    ((items.filterMap f).map g).Sublist (items.map h) := by
  induction items with
  | nil => simp
  | cons item rest ih =>
      cases found : f item with
      | none => simpa [found] using ih.cons (h item)
      | some b => simpa [found, same item b found] using ih.cons_cons (h item)

theorem sources_namingSuggestions_sublist (schema : Schema) :
    ((namingSuggestions schema).map Suggestion.source).Sublist
      (schema.tables.flatMap fun table =>
        table.fields.map fun field => (table.name, field.name)) := by
  have tables : (schema.tables.flatMap fun table =>
      table.fields.map fun field => (table.name, field.name)) =
      schema.tables.zipIdx.flatMap fun entry =>
        entry.1.fields.map fun field => (entry.1.name, field.name) := by
    conv_lhs => rw [← List.zipIdx_map_fst 0 schema.tables, List.flatMap_map]
  rw [tables, namingSuggestions, List.map_flatMap]
  refine List.Sublist.flatMap_right _ fun entry _ => ?_
  exact map_filterMap_sublist (fun field suggestion suggested =>
    (source_of_fieldSuggestion? suggested).1) entry.1.fields

theorem nodup_sources_namingSuggestions (names : schema.HasDistinctNames)
    (fields : schema.HasDistinctFields) :
    ((namingSuggestions schema).map Suggestion.source).Nodup :=
  (Schema.nodup_fieldNames names fields).sublist (sources_namingSuggestions_sublist schema)

theorem eq_of_source_eq (names : schema.HasDistinctNames) (fields : schema.HasDistinctFields)
    {first second : Suggestion} (mem : first ∈ namingSuggestions schema)
    (mem' : second ∈ namingSuggestions schema) (same : first.source = second.source) :
    first = second :=
  List.inj_on_of_nodup_map (nodup_sources_namingSuggestions names fields) mem mem' same

theorem distinct_subset (seen : List (String × String × String)) (found : List Suggestion) :
    distinct seen found ⊆ found := by
  induction found generalizing seen with
  | nil => simp [distinct]
  | cons suggestion rest ih =>
      rw [distinct]
      split
      · exact fun other mem => List.mem_cons_of_mem _ (ih _ mem)
      · exact List.cons_subset_cons _ (ih _)

theorem exists_distinct_append (seen : List (String × String × String))
    (first second : List Suggestion) :
    ∃ others, distinct seen (first ++ second) = distinct seen first ++ distinct others second := by
  induction first generalizing seen with
  | nil => exact ⟨seen, rfl⟩
  | cons suggestion rest ih =>
      rw [List.cons_append, distinct, distinct]
      split
      · exact ih seen
      · obtain ⟨others, kept⟩ := ih (suggestion.link :: seen)
        exact ⟨others, congrArg (suggestion :: ·) kept⟩

theorem distinct_eq_eraseDupsBy (seen : List (String × String × String))
    (found : List Suggestion) :
    distinct seen found =
      (found.filter fun suggestion => !seen.contains suggestion.link).eraseDupsBy
        fun suggestion other => suggestion.link == other.link := by
  induction found generalizing seen with
  | nil => rfl
  | cons suggestion rest ih =>
      rw [distinct, List.filter_cons]
      split
      case isTrue repeated => rw [if_neg (by simpa using repeated), ih]
      case isFalse new =>
        rw [if_pos (by simpa using new), List.eraseDupsBy_cons, ih, List.filter_filter]
        refine congrArg (fun kept => suggestion :: List.eraseDupsBy _ kept)
          (List.filter_congr fun other _ => ?_)
        simp [Bool.not_or]

theorem nodup_links_distinct (seen : List (String × String × String)) (found : List Suggestion) :
    ((distinct seen found).map Suggestion.link).Nodup ∧
      ∀ suggestion ∈ distinct seen found, suggestion.link ∉ seen := by
  induction found generalizing seen with
  | nil => simp [distinct]
  | cons suggestion rest ih =>
      rw [distinct]
      split
      case isTrue => exact ih seen
      case isFalse new =>
        obtain ⟨apart, unseen⟩ := ih (suggestion.link :: seen)
        have later : ∀ other ∈ distinct (suggestion.link :: seen) rest,
            other.link ≠ suggestion.link ∧ other.link ∉ seen := by
          simpa using unseen
        constructor
        · rw [List.map_cons, List.nodup_cons, List.mem_map]
          refine ⟨?_, apart⟩
          rintro ⟨other, mem, same⟩
          exact (later other mem).1 same
        · refine List.forall_mem_cons.mpr ⟨by simpa using new, fun other mem => (later other mem).2⟩

theorem distinct_of_nodup {seen : List (String × String × String)} {found : List Suggestion}
    (apart : (found.map Suggestion.link).Nodup)
    (unseen : ∀ suggestion ∈ found, suggestion.link ∉ seen) : distinct seen found = found := by
  induction found generalizing seen with
  | nil => rfl
  | cons suggestion rest ih =>
      obtain ⟨absent, apart⟩ := List.nodup_cons.mp apart
      have new : seen.contains suggestion.link = false := by
        simpa using unseen suggestion List.mem_cons_self
      have later : ∀ other ∈ rest, other.link ∉ suggestion.link :: seen := by
        intro other mem
        have differs : other.link ≠ suggestion.link := fun same =>
          absent (same ▸ List.mem_map_of_mem mem)
        simp [unseen other (List.mem_cons_of_mem _ mem), differs]
      rw [distinct, new, ih apart later]
      rfl

theorem exists_of_junctionSuggestion? {table : Table} {suggestion : Suggestion}
    (suggested : junctionSuggestion? schema table = some suggestion) :
    table.fields.length = 3 ∧
      ∃ first second, table.fields.filter isLinkField = [first, second] ∧
      ∃ leftIndex, linkedTable? schema first = some leftIndex ∧
      ∃ rightIndex, linkedTable? schema second = some rightIndex ∧ leftIndex ≠ rightIndex ∧
      ∃ left, schema.tables[leftIndex]? = some left ∧
      ∃ right, schema.tables[rightIndex]? = some right ∧ suggestion =
        ⟨left.name, keyName left, right.name, keyName right, .manyToMany, .medium,
          "Junction table \"" ++ table.name ++ "\" detected"⟩ := by
  simp only [junctionSuggestion?, Option.bind_eq_bind, Option.bind_none,
    Option.ite_none_left_eq_some] at suggested
  obtain ⟨three, suggested⟩ := suggested
  split at suggested
  case h_1 first second links =>
    simp only [Option.bind_eq_some_iff, Option.ite_none_left_eq_some, pure, Option.some.injEq]
      at suggested
    obtain ⟨leftIndex, left, rightIndex, right, other, first', held, second', held', same⟩ :=
      suggested
    exact ⟨not_not.mp three, first, second, links, leftIndex, left, rightIndex, right, other,
      first', held, second', held', same.symm⟩
  case h_2 => cases suggested

theorem cardinality_of_mem_junctionSuggestions {suggestion : Suggestion}
    (mem : suggestion ∈ junctionSuggestions schema) : suggestion.cardinality = .manyToMany := by
  obtain ⟨table, -, suggested⟩ := List.mem_filterMap.mp mem
  obtain ⟨-, _, _, -, _, -, _, -, -, _, -, _, -, rfl⟩ := exists_of_junctionSuggestion? suggested
  rfl

theorem keySuggestions_eq_distinct (schema : Schema) :
    keySuggestions schema = distinct [] (namingSuggestions schema) := by
  obtain ⟨others, kept⟩ :=
    exists_distinct_append [] (namingSuggestions schema) (junctionSuggestions schema)
  have adding : (distinct [] (namingSuggestions schema)).filter (fun suggestion =>
      suggestion.cardinality = .oneToMany) = distinct [] (namingSuggestions schema) :=
    List.filter_eq_self.mpr fun suggestion mem => by
      simp [cardinality_of_mem_namingSuggestions (distinct_subset _ _ mem)]
  have linking : (distinct others (junctionSuggestions schema)).filter (fun suggestion =>
      suggestion.cardinality = .oneToMany) = [] :=
    List.filter_eq_nil_iff.mpr fun suggestion mem => by
      simp [cardinality_of_mem_junctionSuggestions (distinct_subset _ _ mem)]
  rw [keySuggestions, allSuggestions, kept, List.filter_append, adding, linking, List.append_nil]

theorem keySuggestions_eq (names : schema.HasDistinctNames) (fields : schema.HasDistinctFields) :
    keySuggestions schema = namingSuggestions schema := by
  have links : ((namingSuggestions schema).map Suggestion.link).Nodup := by
    refine List.Nodup.of_map (fun link => (link.1, link.2.1)) ?_
    rw [List.map_map]
    exact nodup_sources_namingSuggestions names fields
  rw [keySuggestions_eq_distinct, distinct_of_nodup links (by simp)]

end SchemaArtifacts.Relation
