import SchemaArtifacts.Proofs.Relation.KeySuggestions

/-!
# Hints at relations

A field without a foreign key whose name ends in `_id` hints at a table, and there is one suggestion
for each field with such a hint, in the order of tables and fields, as long as it repeats none.  The
other suggestions link two tables through a third one.
-/

namespace SchemaArtifacts.Relation

open Text

variable {schema : Schema} {field : Field} {index : Nat}

theorem stem?_eq_some_iff {name stem : String} : stem? name = some stem ↔ name = stem ++ "_id" := by
  have ends : hasEnd name keyEnding = true ↔ ∃ start, start ++ "_id".toList = name.toList := by
    rw [hasEnd, List.isSuffixOf_iff_suffix]
    rfl
  rw [stem?]
  constructor
  · intro found
    split at found
    case isTrue ended =>
      obtain ⟨start, written⟩ := ends.mp ended
      rw [← Option.some.inj found, ← String.toList_inj, ← written]
      simp [keyEnding]
    case isFalse => cases found
  · rintro rfl
    rw [if_pos (ends.mpr ⟨stem.toList, by simp⟩)]
    simp [keyEnding]

def IsMeant (schema : Schema) (name other : String) (index : Nat) : Prop :=
  schema.tableIndex? name = some index ∨
    schema.tableIndex? name = none ∧ schema.tableIndex? other = some index

theorem findTable?_eq_some_iff {name other : String} :
    findTable? schema [name, other] = some index ↔ IsMeant schema name other index := by
  rw [findTable?, IsMeant, List.findSome?_cons, List.findSome?_cons, List.findSome?_nil]
  cases schema.tableIndex? name with
  | none => cases schema.tableIndex? other <;> simp
  | some found => simp

theorem findTable?_eq_none_iff {name other : String} :
    findTable? schema [name, other] = none ↔ ∀ index, ¬ IsMeant schema name other index := by
  simp only [← findTable?_eq_some_iff, Option.eq_none_iff_forall_ne_some, ne_eq]

/-- The position of the table that a field means by its name: that of the users for the field of an
owner, or else the one that is named before the ending, if the field has the type of a key. -/
inductive RefersTo (schema : Schema) (field : Field) (index : Nat) : Prop
  | owner (named : field.name ∈ ["user_id", "author_id", "owner_id"])
      (found : IsMeant schema "users" "user" index)
  | stem {stem : String} (named : field.name = stem ++ "_id")
      (other : field.name ∈ ["user_id", "author_id", "owner_id"] →
        ∀ users, ¬ IsMeant schema "users" "user" users)
      (type : field.type ∈ [.uuid, .int, .relation])
      (found : IsMeant schema (stem ++ "s") stem index)

theorem exists_reference?_iff {stem : String} (named : field.name = stem ++ "_id") :
    (∃ reason, reference? schema field stem = some (index, reason)) ↔
      RefersTo schema field index := by
  have owners : ownerFields.contains field.name = true ↔
      field.name ∈ ["user_id", "author_id", "owner_id"] := List.contains_iff_mem
  have keys : isKeyType field.type = true ↔ field.type ∈ [.uuid, .int, .relation] := by
    cases field.type <;> decide
  constructor
  · rintro ⟨reason, found⟩
    simp only [reference?, Option.or_eq_some_iff] at found
    rcases found with owner | ⟨other, key⟩
    · split at owner
      case isTrue listed =>
        obtain ⟨users, meant, same⟩ := Option.map_eq_some_iff.mp owner
        obtain ⟨rfl, -⟩ := Prod.mk.inj same
        exact .owner (owners.mp listed) (findTable?_eq_some_iff.mp meant)
      case isFalse => cases owner
    · split at key
      case isTrue type =>
        obtain ⟨target, meant, same⟩ := Option.map_eq_some_iff.mp key
        obtain ⟨rfl, -⟩ := Prod.mk.inj same
        refine .stem named (fun listed => ?_) (keys.mp type) (findTable?_eq_some_iff.mp meant)
        rw [if_pos (owners.mpr listed), Option.map_eq_none_iff] at other
        exact findTable?_eq_none_iff.mp other
      case isFalse => cases key
  · rintro (⟨listed, found⟩ | ⟨written, other, type, found⟩)
    · have meant : findTable? schema userTables = some index := findTable?_eq_some_iff.mpr found
      exact ⟨_, by rw [reference?, if_pos (owners.mpr listed), meant]; rfl⟩
    · obtain rfl := (String.append_left_inj "_id").mp (written.symm.trans named)
      have meant : findByStem? schema _ = some index := findTable?_eq_some_iff.mpr found
      refine ⟨"Field \"" ++ field.name ++ "\" looks like a reference to this table",
        Option.or_eq_some_iff.mpr (.inr ⟨?absent, ?named⟩)⟩
      case absent =>
        split
        case isTrue listed =>
          exact Option.map_eq_none_iff.mpr (findTable?_eq_none_iff.mpr (other (owners.mp listed)))
        case isFalse => rfl
      case named => rw [if_pos (keys.mpr type), meant, Option.map_some]

/-- A field of a schema with its table and the position of that. -/
structure Place where
  position : Nat
  table : Table
  field : Field

/-- The fields of a schema in the order of tables and fields. -/
def places (schema : Schema) : List Place :=
  schema.tables.zipIdx.flatMap fun (table, position) =>
    table.fields.map fun field => ⟨position, table, field⟩

structure IsHint (schema : Schema) (place : Place) (suggestion : Suggestion) : Prop where
  unlinked : place.field.foreignKey = none
  plain : place.field.primaryKey = false
  ending : ∃ stem, place.field.name = stem ++ "_id"
  source : suggestion.fromTable = place.table.name ∧ suggestion.fromField = place.field.name
  target : ∃ index target key, RefersTo schema place.field index ∧ index ≠ place.position ∧
    schema.tables[index]? = some target ∧ target.primaryKeys.head? = some key ∧
    suggestion.toTable = target.name ∧ suggestion.toField = key.name
  cardinality : suggestion.cardinality = .oneToMany

def hint? (schema : Schema) (place : Place) : Option Suggestion :=
  fieldSuggestion? schema place.position place.table place.field

theorem primaryKey?_eq (table : Table) : table.primaryKey? = table.primaryKeys.head? :=
  List.head?_filter.symm

theorem isHint_of_hint? {place : Place} {suggestion : Suggestion}
    (found : hint? schema place = some suggestion) : IsHint schema place suggestion := by
  obtain ⟨⟨unlinked, plain⟩, stem, ending, index, reason, reference, other, target, held, key,
    first, rfl⟩ := fieldSuggestion?_eq_some_iff.mp found
  have named := stem?_eq_some_iff.mp ending
  exact {
    unlinked
    plain
    ending := ⟨stem, named⟩
    source := ⟨rfl, rfl⟩
    target := ⟨index, target, key, (exists_reference?_iff named).mp ⟨reason, reference⟩, other,
      held, primaryKey?_eq target ▸ first, rfl, rfl⟩
    cardinality := rfl }

theorem not_isHint_of_hint? {place : Place} (nothing : hint? schema place = none)
    (suggestion : Suggestion) : ¬ IsHint schema place suggestion := by
  rintro ⟨unlinked, plain, ⟨stem, named⟩, -, ⟨index, target, key, refers, other, held, first, -⟩, -⟩
  obtain ⟨reason, reference⟩ := (exists_reference?_iff named).mpr refers
  refine absurd nothing (Option.ne_none_iff_exists'.mpr ⟨_, fieldSuggestion?_eq_some_iff.mpr
    ⟨⟨unlinked, plain⟩, stem, stem?_eq_some_iff.mpr named, index, reason, reference, other, target,
      held, key, (primaryKey?_eq target).trans first, rfl⟩⟩)

/-- One suggestion for each field with a hint, in the order of the fields. -/
inductive Collects (schema : Schema) : List Place → List Suggestion → Prop
  | nil : Collects schema [] []
  | hint {place : Place} {suggestion : Suggestion} {places : List Place} {found : List Suggestion}
      (hints : IsHint schema place suggestion) (others : Collects schema places found) :
      Collects schema (place :: places) (suggestion :: found)
  | skip {place : Place} {places : List Place} {found : List Suggestion}
      (none : ∀ suggestion, ¬ IsHint schema place suggestion)
      (others : Collects schema places found) : Collects schema (place :: places) found

theorem collects_filterMap (schema : Schema) (places : List Place) :
    Collects schema places (places.filterMap (hint? schema)) := by
  induction places with
  | nil => exact .nil
  | cons place rest ih =>
      cases found : hint? schema place with
      | none =>
          rw [List.filterMap_cons_none found]
          exact .skip (not_isHint_of_hint? found) ih
      | some suggestion =>
          rw [List.filterMap_cons_some found]
          exact .hint (isHint_of_hint? found) ih

theorem namingSuggestions_eq (schema : Schema) :
    namingSuggestions schema = (places schema).filterMap (hint? schema) := by
  rw [namingSuggestions, places, List.filterMap_flatMap]
  simp only [List.filterMap_map]
  rfl

/-- The position of the table that a field of a linking table means. -/
inductive LinksTo (schema : Schema) (field : Field) (index : Nat) : Prop
  | declared {key : ForeignKey} (declared : field.foreignKey = some key)
      (found : schema.tableIndex? key.table = some index)
  | named {stem : String} (undeclared : field.foreignKey = none)
      (named : field.name = stem ++ "_id") (found : IsMeant schema (stem ++ "s") stem index)

theorem linksTo_of_linkedTable? (found : linkedTable? schema field = some index) :
    LinksTo schema field index := by
  rw [linkedTable?] at found
  split at found
  case h_1 key declared => exact .declared declared found
  case h_2 undeclared =>
    obtain ⟨stem, ending, meant⟩ := Option.bind_eq_some_iff.mp found
    exact .named undeclared (stem?_eq_some_iff.mp ending) (findTable?_eq_some_iff.mp meant)

/-- A suggestion that links two tables through a third one. -/
structure IsJunction (schema : Schema) (suggestion : Suggestion) : Prop where
  cardinality : suggestion.cardinality = .manyToMany
  through : ∃ table ∈ schema.tables, table.fields.length = 3 ∧
    ∃ first second, table.fields.filter isLinkField = [first, second] ∧
    ∃ leftIndex rightIndex, LinksTo schema first leftIndex ∧ LinksTo schema second rightIndex ∧
    leftIndex ≠ rightIndex ∧
    ∃ left right, schema.tables[leftIndex]? = some left ∧ schema.tables[rightIndex]? = some right ∧
      suggestion.fromTable = left.name ∧ suggestion.toTable = right.name

theorem isJunction_of_mem {suggestion : Suggestion}
    (mem : suggestion ∈ junctionSuggestions schema) : IsJunction schema suggestion := by
  obtain ⟨table, held, suggested⟩ := List.mem_filterMap.mp mem
  obtain ⟨three, first, second, links, leftIndex, meant, rightIndex, meant', other, left, found,
    right, found', rfl⟩ := exists_of_junctionSuggestion? suggested
  exact {
    cardinality := rfl
    through := ⟨table, held, three, first, second, links, leftIndex, rightIndex,
      linksTo_of_linkedTable? meant, linksTo_of_linkedTable? meant', other, left, right, found,
      found', rfl, rfl⟩ }

theorem suggestions_of_nat (schema : Schema) (limit : Nat) :
    suggestions schema limit = (allSuggestions schema).take limit := by
  rw [suggestions, if_pos (Int.natCast_nonneg limit), Int.toNat_natCast]

/--
A limit keeps the first suggestions, and no two of them share a link.  Without it, those that add a
foreign key are one for each field with a hint, in the order of tables and fields, of which the
first with each link stays; each of the others links two tables of the schema through a third one.
-/
theorem suggestions_from_hints (schema : Schema) :
    (∀ limit : Nat, (suggestions schema limit).length ≤ limit ∧
      ((suggestions schema limit).map Suggestion.link).Nodup ∧
      (∀ larger : Nat, limit ≤ larger → suggestions schema limit <+: suggestions schema larger) ∧
      ((allSuggestions schema).length ≤ limit →
        suggestions schema limit = allSuggestions schema)) ∧
    (∃ found, Collects schema (places schema) found ∧
      (allSuggestions schema).filter (fun suggestion => suggestion.cardinality = .oneToMany) =
        found.eraseDupsBy fun suggestion other => suggestion.link == other.link) ∧
    ∀ suggestion ∈ allSuggestions schema, suggestion.cardinality ≠ .oneToMany →
      IsJunction schema suggestion := by
  refine ⟨fun limit => ?limited, ?hints, fun suggestion mem other => ?junctions⟩
  case limited =>
    simp only [suggestions_of_nat]
    refine ⟨List.length_take_le _ _, ?_, fun larger le => List.take_prefix_take_left le,
      List.take_of_length_le⟩
    have apart := (nodup_links_distinct [] (namingSuggestions schema ++
      junctionSuggestions schema)).1
    exact apart.sublist ((List.take_sublist _ _).map _)
  case hints =>
    refine ⟨_, collects_filterMap schema (places schema), ?_⟩
    rw [← keySuggestions, keySuggestions_eq_distinct, distinct_eq_eraseDupsBy, namingSuggestions_eq]
    simp
  case junctions =>
    rcases List.mem_append.mp (distinct_subset _ _ mem) with naming | junction
    · exact absurd (cardinality_of_mem_namingSuggestions naming) other
    · exact isJunction_of_mem junction

end SchemaArtifacts.Relation
