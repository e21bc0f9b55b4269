import SchemaArtifacts.Loading.Source
import SchemaArtifacts.Proofs.Files.ReadAfterWrite
import SchemaArtifacts.Proofs.Json.LineBreaks
import SchemaArtifacts.Proofs.Schema.NormalForm

/-!
# The project file format

A schema is read back from its text, at any indentation that a machine word counts, just when it is
in normal form, and then also from every file that it can be saved to.
-/

namespace SchemaArtifacts

open Json Text

theorem isReadable_textOrNull (room : Nat) (value : Option String) :
    IsReadable room (textOrNull value) := by
  cases value with
  | none => exact .null
  | some s => exact .str s

theorem isReadable_map {α : Type} (room : Nat) {write : α → Json} (items : List α)
    (each : ∀ item ∈ items, IsReadable room (write item)) :
    IsReadable (room + 1) (.arr (items.map write)) := by
  apply IsReadable.arr
  intro value mem
  obtain ⟨item, found, rfl⟩ := List.mem_map.mp mem
  exact each item found

theorem Field.isReadable_toJson (room : Nat) (field : Field) :
    IsReadable (room + 2) field.toJson := by
  have values := isReadable_map room field.enumValues fun s _ => IsReadable.str s
  apply IsReadable.obj
  · simp [Keyed.keys]
  · simp [IsReadable.str, IsReadable.bool, isReadable_textOrNull, values]

theorem Table.isReadable_toJson (room : Nat) (table : Table) :
    IsReadable (room + 4) table.toJson := by
  have fields := isReadable_map (room + 2) table.fields
    fun field _ => field.isReadable_toJson room
  apply IsReadable.obj
  · simp [Keyed.keys]
  · simp [IsReadable.str, fields]

theorem Schema.isReadable_toJson (schema : Schema) : IsReadable maxNesting schema.toJson := by
  have tables := isReadable_map (984 + 4) schema.tables
    fun table _ => table.isReadable_toJson 984
  have whole : IsReadable (984 + 6) schema.toJson := by
    apply IsReadable.obj
    · simp [Keyed.keys]
    · simp [IsReadable.str, tables]
  exact whole

def Json.Layout.spaces (indent : Nat) : Layout :=
  .indented (String.ofList (List.replicate indent ' '))

theorem Json.Layout.isBlank_spaces (indent : Nat) : (Layout.spaces indent).IsBlank := by
  intro c mem
  rw [String.toList_ofList] at mem
  rw [List.eq_of_mem_replicate mem]
  rfl

theorem join_replicate_space (count : Nat) :
    String.join (List.replicate count " ") = String.ofList (List.replicate count ' ') := by
  apply String.toList_injective
  rw [String.toList_join, String.toList_ofList]
  induction count with
  | zero => rfl
  | succ count ih =>
      rw [List.replicate_succ, List.flatMap_cons, ih, List.replicate_succ]
      rfl

section Indented

variable {size : Int}

theorem layoutOf_int (whole : 0 ≤ size) (fits : size < 0x8000000000000000) :
    layoutOf (.int size) = .ok (.spaces size.toNat) := by
  simp only [layoutOf, repeatedText, repetitions_of_lt whole fits, Layout.spaces,
    ← join_replicate_space]
  rfl

theorem layoutOf_int_of_tooLarge (large : 0x8000000000000000 ≤ size) :
    layoutOf (.int size) =
      .error (.tooLarge "cannot fit 'int' into an index-sized integer") := by
  simp only [layoutOf, repeatedText, repetitions_of_tooLarge large]
  rfl

end Indented

namespace Schema

theorem ofText_write (schema : Schema) {layout : Layout} (blank : layout.IsBlank) :
    ofText (schema.toJson.write layout) = .ok (ofJson schema.toJson) := by
  have read : Json.read (schema.toJson.write layout ++ "") = .ok schema.toJson :=
    schema.isReadable_toJson.read_write blank (by simp)
  rw [String.append_empty] at read
  rw [ofText, read]
  rfl

theorem exists_toText {schema : Schema} (settled : schema.IsSettled) {indent : Int}
    (whole : 0 ≤ indent) (fits : indent < 0x8000000000000000) :
    ∃ text, schema.toText (.int indent) = .ok text ∧
      (ofText text = .ok schema ↔ schema.IsNormal) := by
  refine ⟨schema.toJson.write (.spaces indent.toNat), ?_, ?_⟩
  · rw [toText, layoutOf_int whole fits]
    rfl
  · rw [schema.ofText_write (Layout.isBlank_spaces _), Except.ok.injEq]
    exact ofJson_toJson_eq_iff settled

theorem toText_of_tooLarge (schema : Schema) {indent : Int} (large : 0x8000000000000000 ≤ indent) :
    schema.toText (.int indent) =
      .error (.tooLarge "cannot fit 'int' into an index-sized integer") := by
  rw [toText, layoutOf_int_of_tooLarge large]
  rfl

theorem withUniversalBreaks_fileText (schema : Schema) :
    withUniversalBreaks schema.fileText = schema.fileText := by
  have keeps : (Layout.indented "  ").KeepsBreaks := Layout.keepsBreaks_indented (by decide)
  have absent := schema.isReadable_toJson.isPlain.return_not_mem_chars keeps 0
  apply withUniversalBreaks_of_not_mem
  rw [fileText, Json.write, String.toList_append, String.toList_ofList, List.mem_append,
    not_or]
  exact ⟨absent, by decide⟩

theorem read_fileText (schema : Schema) : Json.read schema.fileText = .ok schema.toJson := by
  have blank : (Layout.indented "  ").IsBlank := by simp [Layout.IsBlank, isJsonBlank]
  exact schema.isReadable_toJson.read_write blank (by simp [isJsonBlank])

theorem ofDocument_toJson {schema : Schema} (named : schema.name ≠ "") (offered : String) :
    ofDocument schema.toJson offered = ofJson schema.toJson := by
  simp [ofDocument, Document.ofJson, toJson, Keyed.has, Json.member, Keyed.get?, Json.isSet, named,
    Document.schema]

theorem IsNormal.load_save {schema : Schema} (normal : schema.IsNormal) (settled : schema.IsSettled)
    {tree : Files.Tree} {file : String} (writable : tree.IsWritable (Files.Path.ofText file)) :
    ∃ saved loaded, Loading.save tree schema file = .ok saved ∧
      Loading.ofFile saved file = .ok loaded ∧ loaded.schema = schema := by
  obtain ⟨saved, written, found⟩ := writable.find_write schema.fileText
  have save : Loading.save tree schema file = .ok saved := by
    simp [Loading.save, written, Except.mapError]
  have there : saved.holds (Files.Path.ofText file) = .ok true := by
    simp [Files.Tree.holds, found]
  have read : saved.read (Files.Path.ofText file) = .ok schema.fileText := by
    simp [Files.Tree.read, found, bind, Except.bind, schema.withUniversalBreaks_fileText]
    rfl
  have again : ofDocument schema.toJson (Files.Path.ofText file).stem = schema := by
    rw [ofDocument_toJson normal.name.1, (ofJson_toJson_eq_iff settled).mpr normal]
  have load : ∃ loaded, Loading.ofFile saved file = .ok loaded ∧
      loaded.schema = ofDocument schema.toJson (Files.Path.ofText file).stem := by
    simp [Loading.ofFile, there, read, read_fileText, bind, Except.bind, Except.mapError]
    exact ⟨_, rfl, rfl⟩
  obtain ⟨loaded, done, same⟩ := load
  exact ⟨saved, loaded, save, done, by rw [same, again]⟩

/--
At any indentation that a machine word counts a schema has a text, and it is read back from there
just when it is in normal form.  Larger indentations are refused.  A schema in normal form is loaded
again from every writable path that it is saved to.
-/
theorem reads_back_iff_isNormal (schema : Schema) (settled : schema.IsSettled) :
    (∀ indent : Int, 0 ≤ indent → indent < 0x8000000000000000 →
      ∃ text, schema.toText (.int indent) = .ok text ∧
        (ofText text = .ok schema ↔ schema.IsNormal)) ∧
    (∀ indent : Int, 0x8000000000000000 ≤ indent → schema.toText (.int indent) =
      .error (.tooLarge "cannot fit 'int' into an index-sized integer")) ∧
    (schema.IsNormal → ∀ (tree : Files.Tree) (file : String),
      tree.IsWritable (Files.Path.ofText file) →
      ∃ saved loaded, Loading.save tree schema file = .ok saved ∧
        Loading.ofFile saved file = .ok loaded ∧ loaded.schema = schema) := by
  refine ⟨fun indent whole fits => exists_toText settled whole fits,
    fun indent large => schema.toText_of_tooLarge large, ?_⟩
  intro normal tree file writable
  exact normal.load_save settled writable

def shelfSchema : Schema :=
  { name := "shelf"
    tables :=
      [{ name := "book"
         id := "t1"
         notes := "first\r\nsecond \"quoted\""
         fields :=
          [{ name := "id", type := .uuid, primaryKey := true
             sqlDefault := some "gen_random_uuid()" },
           { name := "author", type := .relation
             foreignKey := some ⟨"author", "id"⟩
             cardinality := some .oneToMany
             enumValues := ["a, b", ""]
             rowPolicy := some "true"
             index := some .gin }] }] }

theorem shelfSchema_reads_back :
    shelfSchema.IsSettled ∧ shelfSchema.IsNormal ∧
      (∃ text, shelfSchema.toText (.int 4) = .ok text ∧ ofText text = .ok shelfSchema) ∧
      ∃ saved loaded, Loading.save {} shelfSchema "shelf.json" = .ok saved ∧
        Loading.ofFile saved "shelf.json" = .ok loaded ∧ loaded.schema = shelfSchema := by
  have settled : shelfSchema.IsSettled := by decide
  have normal : shelfSchema.IsNormal := by decide
  have writable : ({} : Files.Tree).IsWritable (Files.Path.ofText "shelf.json") :=
    ⟨{ parts := ["shelf.json"] }, by decide, by decide⟩
  obtain ⟨texts, -, file⟩ := reads_back_iff_isNormal shelfSchema settled
  obtain ⟨text, written, back⟩ := texts 4 (by decide) (by decide)
  exact ⟨settled, normal, ⟨text, written, back.mpr normal⟩, file normal {} "shelf.json" writable⟩

/-- A schema in normal form has no text at an indentation that no machine word counts. -/
theorem shelfSchema_not_read_back :
    shelfSchema.IsSettled ∧ shelfSchema.IsNormal ∧
      ¬∃ text, shelfSchema.toText (.int 0x8000000000000000) = .ok text ∧
        ofText text = .ok shelfSchema := by
  refine ⟨by decide, by decide, ?_⟩
  rintro ⟨text, written, -⟩
  rw [toText_of_tooLarge _ (Int.le_refl _)] at written
  cases written

end Schema

end SchemaArtifacts
