import SchemaArtifacts.Proofs.Schema.NormalForm

/-!
# Rereading a document

Whatever a document holds, the schema read from it is in normal form but for its foreign keys: a
key given as an object keeps any names, and is written in a form that not every name can take.
Written and read once more, a schema stays as it is.
-/

namespace SchemaArtifacts

open Coercion Text

theorem exists_mem_numbered {α β : Type} (read : α → Int → β) {items : List α} {item : α}
    (mem : item ∈ items) : ∃ position, read item position ∈ numbered read items := by
  obtain ⟨index, bound, rfl⟩ := List.mem_iff_getElem.mp mem
  refine ⟨(index : Int) + 1, List.mem_map.mpr ⟨(items[index], index), ?_, rfl⟩⟩
  exact List.mk_mem_zipIdx_iff_getElem?.mpr (List.getElem?_eq_getElem bound)

theorem forall_numbered_iff {α β : Type} {read : α → Int → β} {good : β → Prop} {holds : α → Prop}
    (each : ∀ item position, good (read item position) ↔ holds item) (items : List α) :
    (∀ result ∈ numbered read items, good result) ↔ ∀ item ∈ items, holds item := by
  constructor
  · intro all item mem
    obtain ⟨position, found⟩ := exists_mem_numbered read mem
    exact (each item position).mp (all _ found)
  · intro all result mem
    obtain ⟨item, found, position, rfl⟩ := mem_numbered mem
    exact (each item position).mpr (all item found)

def ForeignKey.ReadsWritable (value : Json) : Prop := ∀ key ∈ ofJson? value, key.IsWritable

theorem ForeignKey.readsWritable_of_not_obj {value : Json}
    (other : ∀ entries, value ≠ .obj entries) : ReadsWritable value := by
  intro key read
  cases value with
  | obj entries => exact absurd rfl (other entries)
  | str s => exact isWritable_of_ofText? read
  | null => cases read
  | bool _ => cases read
  | int _ => cases read
  | float _ => cases read
  | arr _ => cases read

namespace Field

theorem isProperText_nameOf (data : Json) (position : Int) :
    IsProperText (nameOf data position) :=
  isProperText_orElse _ (isProperText_placeholderName position)

def foreignKeyValue (data : Json) : Json := (asObject data).member "foreign_key"

theorem isNormal_ofJson_iff (data : Json) (position : Int) :
    (ofJson data position).IsNormal ↔ ForeignKey.ReadsWritable (foreignKeyValue data) := by
  constructor
  · intro normal
    exact normal.foreignKey
  · intro writable
    constructor
    case name =>
      simp only [ofJson]
      exact isProperText_nameOf _ position
    case sqlType =>
      simp only [ofJson]
      exact trim_trim _
    case acfType =>
      simp only [ofJson]
      exact trim_trim _
    case sqlDefault =>
      simp only [ofJson]
      exact isProperText_of_optionalText _
    case rowPolicy =>
      simp only [ofJson]
      exact isProperText_of_optionalText _
    case foreignKey => exact writable

theorem settleText_of_isProperText {value : Option String} (proper : ∀ s ∈ value, IsProperText s) :
    settleText value = value := by
  cases value with
  | none => rfl
  | some s =>
      have kept : isBlankText s = false := by
        rw [Bool.eq_false_iff, Ne, isBlankText_iff]
        exact (proper s rfl).trim_ne
      simp [settleText, kept]

theorem settled_ofJson (data : Json) (position : Int) :
    (ofJson data position).settled = ofJson data position := by
  simp only [settled, ofJson, settleText_of_isProperText (isProperText_of_optionalText _)]
  congr 1
  split
  · rfl
  · rfl

end Field

namespace Table

theorem isProperText_nameOf (data : Json) (position : Int) :
    IsProperText (nameOf data position) :=
  isProperText_orElse _ (isProperText_placeholderName position)

theorem isNormal_ofJson_iff (data : Json) (position : Int) :
    (ofJson data position).IsNormal ↔
      ∀ field ∈ fieldItems (asObject data),
        ForeignKey.ReadsWritable (Field.foreignKeyValue field) := by
  have name : IsProperText (ofJson data position).name := by
    simp only [ofJson, settled]
    exact isProperText_nameOf _ position
  have id : IsProperText (ofJson data position).id := by
    simp only [ofJson, settled]
    exact isProperText_orElse _ (isProperText_nameOf _ position)
  rw [← forall_numbered_iff Field.isNormal_ofJson_iff]
  constructor
  · intro normal
    exact normal.fields
  · intro fields
    exact ⟨name, id, fields⟩

theorem settled_ofJson (data : Json) (position : Int) :
    (ofJson data position).settled = ofJson data position := by
  have id : (ofJson data position).id ≠ "" := by
    simp only [ofJson, settled]
    exact (isProperText_orElse _ (isProperText_nameOf _ position)).1
  rw [settled, if_neg id]

end Table

namespace Schema

/-- The values given for foreign keys, in all fields of all tables of a document. -/
def foreignKeyValues (data : Json) : List Json :=
  (tableItems (asObject data)).flatMap fun table =>
    (Table.fieldItems (asObject table)).map Field.foreignKeyValue

theorem isSettled_ofJson (data : Json) : (ofJson data).IsSettled := by
  intro table found
  obtain ⟨item, -, position, rfl⟩ := mem_numbered found
  refine ⟨Table.settled_ofJson item position, ?_⟩
  intro field mem
  obtain ⟨value, -, place, rfl⟩ := mem_numbered mem
  exact Field.settled_ofJson value place

theorem hasTrimmedNames_ofJson (data : Json) : (ofJson data).HasTrimmedNames := by
  intro table found
  obtain ⟨item, -, position, rfl⟩ := mem_numbered found
  constructor
  · simp only [Table.ofJson, Table.settled]
    exact (Table.isProperText_nameOf _ position).2
  · intro field mem
    obtain ⟨value, -, place, rfl⟩ := mem_numbered mem
    simp only [Field.ofJson]
    exact (Field.isProperText_nameOf _ place).2

theorem isNormal_ofJson_iff (data : Json) :
    (ofJson data).IsNormal ↔ ∀ entries, .obj entries ∈ foreignKeyValues data →
      ForeignKey.ReadsWritable (.obj entries) := by
  have properName : IsProperText "schema" := by decide
  have properVersion : IsProperText "1.0.0" := by decide
  have name : IsProperText (ofJson data).name := by
    simp only [ofJson, orDefault]
    exact isProperText_orElse _ properName
  have version : IsProperText (ofJson data).version := by
    simp only [ofJson, orDefault]
    exact isProperText_orElse _ properVersion
  have tables := forall_numbered_iff Table.isNormal_ofJson_iff (tableItems (asObject data))
  constructor
  · intro normal entries mem
    obtain ⟨table, found, mem⟩ := List.mem_flatMap.mp mem
    obtain ⟨field, held, same⟩ := List.mem_map.mp mem
    rw [← same]
    exact tables.mp normal.tables table found field held
  · intro objects
    refine ⟨name, version, tables.mpr ?_⟩
    intro table found field held
    cases value : Field.foreignKeyValue field with
    | obj entries =>
        apply objects entries
        exact List.mem_flatMap.mpr ⟨table, found, List.mem_map.mpr ⟨field, held, value⟩⟩
    | _ => exact ForeignKey.readsWritable_of_not_obj (by simp)

/--
A schema read from any document is read back from its own document just when every foreign key that
the document gives as an object has names that the written form can hold.
-/
theorem ofJson_toJson_ofJson_eq_iff (data : Json) :
    ofJson (ofJson data).toJson = ofJson data ↔
      ∀ entries, .obj entries ∈ foreignKeyValues data →
        ∀ key ∈ ForeignKey.ofJson? (.obj entries), key.IsWritable :=
  (ofJson_toJson_eq_iff (isSettled_ofJson data)).trans (isNormal_ofJson_iff data)

def qualifiedKeyDocument : Json :=
  .obj
    [("name", .str "shop"),
     ("tables", .arr
       [.obj
         [("name", .str "orders"),
          ("fields", .arr
            [.obj
              [("name", .str "buyer"),
               ("foreign_key", .obj
                 [("table", .str "public.users"), ("column", .str "id")])]])]])]

/-- A point in the name of the table makes the written key unreadable. -/
theorem qualifiedKeyDocument_ne :
    ofJson (ofJson qualifiedKeyDocument).toJson ≠ ofJson qualifiedKeyDocument := by
  decide

theorem obj_not_mem_foreignKeyValues (schema : Schema) (entries : List (String × Json)) :
    .obj entries ∉ foreignKeyValues schema.toJson := by
  have tables : tableItems (asObject schema.toJson) = schema.tables.map Table.toJson := by
    simp [toJson, tableItems, asObject, Json.member, Keyed.get?, List.lookup_cons]
  have fields (table : Table) :
      Table.fieldItems (asObject table.toJson) = table.fields.map Field.toJson := by
    simp [Table.toJson, Table.fieldItems, asObject, Json.member, Keyed.get?, List.lookup_cons]
  have key (field : Field) : Field.foreignKeyValue field.toJson =
      textOrNull (field.foreignKey.map ForeignKey.call) := by
    simp [Field.toJson, Field.foreignKeyValue, asObject, Json.member, Keyed.get?, List.lookup_cons]
  intro mem
  obtain ⟨item, found, mem⟩ := List.mem_flatMap.mp mem
  rw [tables] at found
  obtain ⟨table, -, rfl⟩ := List.mem_map.mp found
  obtain ⟨value, held, same⟩ := List.mem_map.mp mem
  rw [fields] at held
  obtain ⟨field, -, rfl⟩ := List.mem_map.mp held
  rw [key] at same
  cases given : field.foreignKey with
  | none => simp [given, textOrNull] at same
  | some key => simp [given, textOrNull] at same

theorem ofJson_toJson_stable (schema : Schema) :
    ofJson (ofJson schema.toJson).toJson = ofJson schema.toJson := by
  rw [ofJson_toJson_eq_iff (isSettled_ofJson _), isNormal_ofJson_iff]
  intro entries mem
  exact absurd mem (schema.obj_not_mem_foreignKeyValues entries)

end Schema

end SchemaArtifacts
