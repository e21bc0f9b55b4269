import SchemaArtifacts.Proofs.Schema.ForeignKeyGrammar
import SchemaArtifacts.Proofs.Text.Numerals
import SchemaArtifacts.Schema.Writing

/-!
# Schemas in normal form

A schema is in normal form when reading its documents cannot change it: its texts are trimmed
where reading trims, set where reading fills them in, and its foreign keys are writable.  Reading
what was written of a schema gives the schema back just when it is in normal form.
-/

namespace SchemaArtifacts

open Coercion Text

attribute [ext] Field Table Schema

def IsProperText (s : String) : Prop := s ≠ "" ∧ trim s = s

instance (s : String) : Decidable (IsProperText s) := inferInstanceAs (Decidable (_ ∧ _))

theorem IsProperText.trim_ne {s : String} (proper : IsProperText s) : trim s ≠ "" := by
  rw [proper.2]
  exact proper.1

theorem isProperText_trim {s : String} (kept : trim s ≠ "") : IsProperText (trim s) :=
  ⟨kept, trim_trim s⟩

/-- A trimmed text with a proper one in its place where nothing is left is the text itself just
when that is proper. -/
theorem trim_orElse_eq_iff (s : String) {fallback : String} (proper : IsProperText fallback) :
    (if trim s = "" then fallback else trim s) = s ↔ IsProperText s := by
  by_cases blank : trim s = ""
  · rw [if_pos blank]
    constructor
    · rintro rfl
      exact proper
    · intro kept
      exact absurd blank kept.trim_ne
  · rw [if_neg blank]
    constructor
    · intro same
      rw [← same]
      exact isProperText_trim blank
    · exact And.right

theorem isProperText_orElse (s : String) {fallback : String} (proper : IsProperText fallback) :
    IsProperText (if trim s = "" then fallback else trim s) := by
  split
  · exact proper
  · rename_i kept
    exact isProperText_trim kept

theorem isProperText_numbered {word : String} (present : word ≠ "")
    (visible : word.toList.all (!isBlank ·) = true) (position : Int) :
    IsProperText (word ++ signedNumeral position) := by
  constructor
  · intro empty
    exact present (String.append_eq_empty_iff.mp empty).1
  · apply trim_of_not_isBlank
    intro c mem
    rw [String.toList_append] at mem
    rcases List.mem_append.mp mem with mem | mem
    · simpa using List.all_eq_true.mp visible c mem
    · exact isBlank_of_mem_signedNumeral mem

theorem optionalText_textOrNull_eq_iff (value : Option String) :
    optionalText (textOrNull value) = value ↔ ∀ s ∈ value, IsProperText s := by
  cases value with
  | none => simp [textOrNull, optionalText, trimmedText, Coercion.text]
  | some s =>
      have read : optionalText (textOrNull (some s)) =
          if trim s = "" then none else some (trim s) := rfl
      rw [read]
      simp only [Option.mem_some_iff, forall_eq']
      by_cases blank : trim s = ""
      · rw [if_pos blank]
        constructor
        · intro missing
          cases missing
        · intro proper
          exact absurd blank proper.trim_ne
      · rw [if_neg blank, Option.some_inj]
        constructor
        · intro same
          rw [← same]
          exact isProperText_trim blank
        · exact And.right

theorem isProperText_of_optionalText (value : Json) :
    ∀ s ∈ optionalText value, IsProperText s := by
  intro s found
  simp only [optionalText, Option.mem_def] at found
  split at found
  · cases found
  · rename_i kept
    cases found
    exact isProperText_trim kept

/-- Records written one by one and read in their numbering are the same records just when each
of them is, if that does not depend on its number. -/
theorem numbered_map_eq_iff {α β : Type} {read : β → Int → α} {write : α → β} {good : α → Prop}
    (items : List α)
    (each : ∀ item ∈ items, ∀ position, read (write item) position = item ↔ good item) :
    numbered read (items.map write) = items ↔ ∀ item ∈ items, good item := by
  -- The numbering goes on in the tail, so the induction is over lists numbered from anywhere.
  suffices all : ∀ start : Nat,
      ((items.map write).zipIdx start).map (fun entry => read entry.1 (entry.2 + 1)) = items ↔
        ∀ item ∈ items, good item from all 0
  induction items with
  | nil => simp
  | cons item items ih =>
      intro start
      have first := each item List.mem_cons_self (start + 1)
      have others := ih (fun other mem => each other (List.mem_cons_of_mem _ mem)) (start + 1)
      simp only [List.map_cons, List.zipIdx_cons, List.cons.injEq, List.forall_mem_cons, first,
        others]

theorem mem_numbered {α β : Type} {read : α → Int → β} {items : List α} {result : β}
    (mem : result ∈ numbered read items) :
    ∃ item ∈ items, ∃ position, read item position = result := by
  obtain ⟨⟨item, index⟩, found, rfl⟩ := List.mem_map.mp mem
  exact ⟨item, List.fst_mem_of_mem_zipIdx found, _, rfl⟩

namespace Field

/-- The values that reading a field gives: optional texts are trimmed, names are there, and a
foreign key can be written. -/
structure IsNormal (field : Field) : Prop where
  name : IsProperText field.name
  sqlType : trim field.sqlType = field.sqlType
  acfType : trim field.acfType = field.acfType
  sqlDefault : ∀ s ∈ field.sqlDefault, IsProperText s
  rowPolicy : ∀ s ∈ field.rowPolicy, IsProperText s
  foreignKey : ∀ key ∈ field.foreignKey, key.IsWritable

instance (field : Field) : Decidable field.IsNormal :=
  decidable_of_iff
    (IsProperText field.name ∧ trim field.sqlType = field.sqlType ∧
      trim field.acfType = field.acfType ∧ (∀ s ∈ field.sqlDefault, IsProperText s) ∧
      (∀ s ∈ field.rowPolicy, IsProperText s) ∧ ∀ key ∈ field.foreignKey, key.IsWritable)
    ⟨fun ⟨name, sqlType, acfType, sqlDefault, rowPolicy, key⟩ =>
        ⟨name, sqlType, acfType, sqlDefault, rowPolicy, key⟩,
      fun ⟨name, sqlType, acfType, sqlDefault, rowPolicy, key⟩ =>
        ⟨name, sqlType, acfType, sqlDefault, rowPolicy, key⟩⟩

theorem isProperText_placeholderName (position : Int) : IsProperText (placeholderName position) :=
  isProperText_numbered (by decide) (by decide) position

theorem uiComponent_ne_of_settled {field : Field} (same : field.settled = field) :
    field.uiComponent ≠ "" := by
  intro empty
  have filled : field.settled.uiComponent = "input" := if_pos empty
  rw [same, empty] at filled
  exact absurd filled (by decide)

end Field

theorem fieldType?_tag (type : FieldType) : fieldType? (.str type.tag) = some type := by
  cases type <;> decide

theorem cardinality?_textOrNull (value : Option Cardinality) :
    cardinality? (textOrNull (value.map Cardinality.tag)) = value := by
  cases value with
  | none => rfl
  | some value => cases value <;> decide

theorem indexKind?_textOrNull (value : Option IndexKind) :
    indexKind? (textOrNull (value.map IndexKind.tag)) = value := by
  cases value with
  | none => rfl
  | some value => cases value <;> decide

theorem textList_map_str (values : List String) : textList (.arr (values.map .str)) = values := by
  have kept : (values.map Json.str).filter (!·.isNull) = values.map Json.str := by
    rw [List.filter_eq_self]
    intro value mem
    obtain ⟨s, -, rfl⟩ := List.mem_map.mp mem
    rfl
  have read : Coercion.text ∘ Json.str = id := rfl
  rw [textList, kept, List.map_map, read, List.map_id]

theorem ofJson?_textOrNull (value : Option ForeignKey) :
    ForeignKey.ofJson? (textOrNull (value.map ForeignKey.call)) =
      value.bind fun key => ForeignKey.ofText? key.call := by
  cases value <;> rfl

theorem bind_ofText?_call_eq_iff (value : Option ForeignKey) :
    (value.bind fun key => ForeignKey.ofText? key.call) = value ↔
      ∀ key ∈ value, key.IsWritable := by
  cases value with
  | none => simp
  | some key => simp [ForeignKey.ofText?_call_iff]

theorem Field.ofJson_toJson (field : Field) (position : Int) :
    Field.ofJson field.toJson position =
      { field with
        name := if trim field.name = "" then placeholderName position else trim field.name
        sqlType := trim field.sqlType
        sqlDefault := optionalText (textOrNull field.sqlDefault)
        foreignKey := field.foreignKey.bind fun key => ForeignKey.ofText? key.call
        acfType := trim field.acfType
        uiComponent := if field.uiComponent = "" then "input" else field.uiComponent
        rowPolicy := optionalText (textOrNull field.rowPolicy) } := by
  simp [Field.ofJson, Field.toJson, asObject, Json.member, Keyed.get?, List.lookup_cons, nameOf,
    trimmedText, Coercion.text, flag, fieldType?_tag, cardinality?_textOrNull,
    indexKind?_textOrNull, textList_map_str, ofJson?_textOrNull]

theorem Field.ofJson_toJson_eq_iff {field : Field} (component : field.uiComponent ≠ "")
    (position : Int) : Field.ofJson field.toJson position = field ↔ field.IsNormal := by
  have name := trim_orElse_eq_iff field.name (isProperText_placeholderName position)
  have sqlDefault := optionalText_textOrNull_eq_iff field.sqlDefault
  have rowPolicy := optionalText_textOrNull_eq_iff field.rowPolicy
  have foreignKey := bind_ofText?_call_eq_iff field.foreignKey
  rw [Field.ofJson_toJson, Field.ext_iff]
  simp only [name, sqlDefault, rowPolicy, foreignKey, if_neg component, true_and, and_true]
  constructor
  · rintro ⟨name, sqlType, sqlDefault, foreignKey, acfType, rowPolicy⟩
    exact ⟨name, sqlType, acfType, sqlDefault, rowPolicy, foreignKey⟩
  · rintro ⟨name, sqlType, acfType, sqlDefault, rowPolicy, foreignKey⟩
    exact ⟨name, sqlType, sqlDefault, foreignKey, acfType, rowPolicy⟩

/-! ## Tables -/

namespace Table

structure IsNormal (table : Table) : Prop where
  name : IsProperText table.name
  id : IsProperText table.id
  fields : ∀ field ∈ table.fields, field.IsNormal

instance (table : Table) : Decidable table.IsNormal :=
  decidable_of_iff
    (IsProperText table.name ∧ IsProperText table.id ∧ ∀ field ∈ table.fields, field.IsNormal)
    ⟨fun ⟨name, id, fields⟩ => ⟨name, id, fields⟩, fun ⟨name, id, fields⟩ => ⟨name, id, fields⟩⟩

theorem isProperText_placeholderName (position : Int) : IsProperText (placeholderName position) :=
  isProperText_numbered (by decide) (by decide) position

theorem ofJson_toJson (table : Table) (position : Int) :
    ofJson table.toJson position =
      let name := if trim table.name = "" then placeholderName position else trim table.name
      { table with
        name := name
        fields := numbered Field.ofJson (table.fields.map Field.toJson)
        id := if trim table.id = "" then name else trim table.id } := by
  simp [ofJson, toJson, asObject, Json.member, Keyed.get?, List.lookup_cons, nameOf, fieldItems,
    settled, trimmedText, Coercion.text]

theorem ofJson_toJson_eq_iff {table : Table}
    (component : ∀ field ∈ table.fields, field.uiComponent ≠ "") (position : Int) :
    ofJson table.toJson position = table ↔ table.IsNormal := by
  have placeholder := isProperText_placeholderName position
  have name := trim_orElse_eq_iff table.name placeholder
  have id := trim_orElse_eq_iff table.id (isProperText_orElse table.name placeholder)
  have fields := numbered_map_eq_iff table.fields fun field mem =>
    Field.ofJson_toJson_eq_iff (component field mem)
  rw [ofJson_toJson, Table.ext_iff]
  simp only [name, id, fields, and_true]
  constructor
  · rintro ⟨name, fields, id⟩
    exact ⟨name, id, fields⟩
  · rintro ⟨name, id, fields⟩
    exact ⟨name, fields, id⟩

end Table

namespace Schema

structure IsNormal (schema : Schema) : Prop where
  name : IsProperText schema.name
  version : IsProperText schema.version
  tables : ∀ table ∈ schema.tables, table.IsNormal

instance (schema : Schema) : Decidable schema.IsNormal :=
  decidable_of_iff
    (IsProperText schema.name ∧ IsProperText schema.version ∧
      ∀ table ∈ schema.tables, table.IsNormal)
    ⟨fun ⟨name, version, tables⟩ => ⟨name, version, tables⟩,
      fun ⟨name, version, tables⟩ => ⟨name, version, tables⟩⟩

/-- The blank settings of every field are dropped and every table has an id, as far as there is a
name for it. -/
def IsSettled (schema : Schema) : Prop :=
  ∀ table ∈ schema.tables, table.settled = table ∧ ∀ field ∈ table.fields, field.settled = field

instance (schema : Schema) : Decidable schema.IsSettled :=
  inferInstanceAs (Decidable (∀ table ∈ schema.tables, _ ∧ ∀ field ∈ table.fields, _))

def HasTrimmedNames (schema : Schema) : Prop :=
  ∀ table ∈ schema.tables, trim table.name = table.name ∧
    ∀ field ∈ table.fields, trim field.name = field.name

instance (schema : Schema) : Decidable schema.HasTrimmedNames :=
  inferInstanceAs (Decidable (∀ table ∈ schema.tables, _ ∧ ∀ field ∈ table.fields, _))

theorem ofJson_toJson (schema : Schema) :
    ofJson schema.toJson =
      { schema with
        name := if trim schema.name = "" then "schema" else trim schema.name
        tables := numbered Table.ofJson (schema.tables.map Table.toJson)
        version := if trim schema.version = "" then "1.0.0" else trim schema.version } := by
  simp [ofJson, toJson, asObject, Json.member, Keyed.get?, List.lookup_cons, orDefault, tableItems,
    trimmedText, Coercion.text]

theorem ofJson_toJson_eq_iff {schema : Schema} (settled : schema.IsSettled) :
    ofJson schema.toJson = schema ↔ schema.IsNormal := by
  have properName : IsProperText "schema" := by decide
  have properVersion : IsProperText "1.0.0" := by decide
  have name := trim_orElse_eq_iff schema.name properName
  have version := trim_orElse_eq_iff schema.version properVersion
  have tables := numbered_map_eq_iff schema.tables fun table mem =>
    Table.ofJson_toJson_eq_iff fun field mem' =>
      Field.uiComponent_ne_of_settled ((settled table mem).2 field mem')
  rw [ofJson_toJson, Schema.ext_iff]
  simp only [name, version, tables, true_and]
  constructor
  · rintro ⟨name, tables, version⟩
    exact ⟨name, version, tables⟩
  · rintro ⟨name, version, tables⟩
    exact ⟨name, tables, version⟩

end Schema

end SchemaArtifacts
