import SchemaArtifacts.Proofs.Escape.Line
import SchemaArtifacts.Proofs.Markdown.Documents
import SchemaArtifacts.Proofs.Markdown.Headings
import SchemaArtifacts.Proofs.Text.Numerals

/-!
# The outline of a reference

The heading lines of the reference of a table are those of its parts, each there just if it has
something to show.  No name, enum value, example or cell makes a heading line; only a description, a
note or a foreign key whose names break their line can.
-/

namespace SchemaArtifacts.Markdown

open Escape Text

theorem isUnbroken_numeral (n : Nat) : IsUnbroken (numeral n) := by
  intro mem
  rw [numeral, String.toList_ofList] at mem
  exact absurd (isAsciiDigit_of_mem_numeralChars mem) (by decide)

theorem isUnbroken_code {s : String} (unbroken : IsUnbroken s) : IsUnbroken (code s) :=
  (IsUnbroken.append (by decide) unbroken).append (by decide)

theorem isUnbroken_typeCell (dialect : Sql.Dialect) (field : Field) :
    IsUnbroken (typeCell dialect field) := by
  intro mem
  rw [typeCell, String.toList_ofList, List.mem_map] at mem
  obtain ⟨c, held, same⟩ := mem
  by_cases tick : c = '\x60'
  · rw [if_pos tick] at same
    exact absurd same (by decide)
  · rw [if_neg tick] at same
    exact not_mem_cellChars _ (same ▸ held)

theorem isUnbroken_of_mem_fieldRow {dialect : Sql.Dialect} {field : Field} {cell : String}
    (mem : cell ∈ fieldRow dialect field) : IsUnbroken cell := by
  have tag : IsUnbroken field.type.tag := by cases field.type <;> decide
  simp only [fieldRow, List.mem_cons, List.not_mem_nil, or_false] at mem
  rcases mem with rfl | rfl | rfl | rfl | rfl
  · exact isUnbroken_markdownCell _
  · exact tag
  · exact isUnbroken_code (isUnbroken_typeCell dialect field)
  · exact isUnbroken_markdownCell _
  · exact isUnbroken_markdownCell _

theorem isUnbroken_cardinality (cardinality : Option Cardinality) :
    IsUnbroken ((cardinality.map Cardinality.tag).getD "unspecified") := by
  rcases cardinality with _ | cardinality
  · decide
  · cases cardinality <;> decide

theorem isUnbroken_exampleItem (field : Field) : IsUnbroken (exampleItem field) :=
  ((IsUnbroken.append (by decide) (isUnbroken_singleLine _)).append (by decide)).append
    (isUnbroken_singleLine _)

/-- The names in the foreign keys of a table stay on their lines. -/
def HasUnbrokenKeys (table : Table) : Prop :=
  ∀ field ∈ table.fields, ∀ key ∈ field.foreignKey, IsUnbroken key.table ∧ IsUnbroken key.column

instance (table : Table) : Decidable (HasUnbrokenKeys table) :=
  inferInstanceAs (Decidable (∀ field ∈ table.fields, ∀ key ∈ field.foreignKey, _))

section Flat

variable {level : Nat}

theorem isFlat_headed {title : String} {blocks : List Block} (unbroken : IsUnbroken title)
    (flat : ∀ block ∈ blocks, block.IsFlat) :
    ∀ block ∈ headed level title blocks, block.IsFlat := by
  intro block mem
  rw [headed] at mem
  split at mem
  · cases mem
  · rcases List.mem_cons.mp mem with rfl | mem
    · exact ⟨Nat.succ_pos level, unbroken⟩
    · exact flat block mem

theorem isFlat_passageOf (text : String) : ∀ block ∈ passageOf text, block.IsFlat := by
  intro block mem
  rw [passageOf] at mem
  split at mem
  · cases mem
  · rw [List.mem_singleton.mp mem]
    trivial

theorem isFlat_statistics (found : Statistics) :
    (Block.bullets (statisticsItems found)).IsFlat := by
  intro item mem
  simp only [statisticsItems, List.mem_cons, List.not_mem_nil, or_false] at mem
  rcases mem with rfl | rfl | rfl | rfl | rfl <;>
    exact IsUnbroken.append (by decide) (isUnbroken_numeral _)

theorem isFlat_fieldGrid (dialect : Sql.Dialect) (fields : List Field) :
    (Block.grid fieldHeader (fields.map (fieldRow dialect))).IsFlat := by
  intro cells mem
  rcases List.mem_cons.mp mem with rfl | mem
  · decide
  · obtain ⟨field, -, rfl⟩ := List.mem_map.mp mem
    exact fun cell => isUnbroken_of_mem_fieldRow

theorem isFlat_enumBlocks (field : Field) : ∀ block ∈ enumBlocks level field, block.IsFlat := by
  intro block mem
  simp only [enumBlocks, List.mem_cons, List.not_mem_nil, or_false] at mem
  rcases mem with rfl | rfl
  · exact ⟨Nat.succ_pos _, isUnbroken_singleLine _⟩
  · split
    · trivial
    · intro item held
      obtain ⟨value, -, rfl⟩ := List.mem_map.mp held
      exact isUnbroken_code (isUnbroken_singleLine _)

theorem isFlat_relationBlocks {relation : Field × ForeignKey}
    (key : IsUnbroken relation.2.table ∧ IsUnbroken relation.2.column) :
    ∀ block ∈ relationBlocks level relation, block.IsFlat := by
  intro block mem
  simp only [relationBlocks, List.mem_cons, List.not_mem_nil, or_false] at mem
  rcases mem with rfl | rfl
  · exact ⟨Nat.succ_pos _, isUnbroken_singleLine _⟩
  · intro item held
    simp only [List.mem_cons, List.not_mem_nil, or_false] at held
    rcases held with rfl | rfl
    · exact .append (by decide) (isUnbroken_code ((key.1.append (by decide)).append key.2))
    · exact .append (by decide) (isUnbroken_cardinality _)

theorem mem_relationFields {table : Table} {relation : Field × ForeignKey} :
    relation ∈ relationFields table ↔
      relation.1 ∈ table.fields ∧ relation.2 ∈ relation.1.foreignKey := by
  obtain ⟨field, key⟩ := relation
  simp only [relationFields, List.mem_filterMap, Option.map_eq_some_iff, Prod.mk.injEq]
  constructor
  · rintro ⟨field, mem, key, held, rfl, rfl⟩
    exact ⟨mem, held⟩
  · rintro ⟨mem, held⟩
    exact ⟨field, mem, key, held, rfl, rfl⟩

theorem isFlat_tableBlocks (dialect : Sql.Dialect) (positive : 0 < level) (title : String)
    {table : Table} (keys : HasUnbrokenKeys table) :
    ∀ block ∈ tableBlocks dialect level title table, block.IsFlat := by
  simp only [tableBlocks, List.forall_mem_append]
  refine ⟨⟨⟨⟨⟨⟨⟨?title, isFlat_passageOf _⟩, ?notes⟩, ?statistics⟩, ?fields⟩, ?enums⟩, ?relations⟩,
    ?examples⟩
  case title =>
    exact List.forall_mem_singleton.mpr ⟨positive, isUnbroken_singleLine _⟩
  case notes => exact isFlat_headed (by decide) (isFlat_passageOf _)
  case statistics =>
    exact isFlat_headed (by decide) (List.forall_mem_singleton.mpr (isFlat_statistics _))
  case fields =>
    refine isFlat_headed (by decide) fun block mem => ?_
    split at mem
    · cases mem
    · exact List.mem_singleton.mp mem ▸ isFlat_fieldGrid dialect _
  case enums =>
    refine isFlat_headed (by decide) fun block mem => ?_
    obtain ⟨field, -, mem⟩ := List.mem_flatMap.mp mem
    exact isFlat_enumBlocks field block mem
  case relations =>
    refine isFlat_headed (by decide) fun block mem => ?_
    obtain ⟨relation, held, mem⟩ := List.mem_flatMap.mp mem
    obtain ⟨inside, key⟩ := mem_relationFields.mp held
    exact isFlat_relationBlocks (keys _ inside _ key) block mem
  case examples =>
    refine isFlat_headed (by decide) fun block mem => ?_
    split at mem
    · cases mem
    · rw [List.mem_singleton.mp mem]
      intro item held
      obtain ⟨field, -, rfl⟩ := List.mem_map.mp held
      exact isUnbroken_exampleItem field

end Flat

/-! ## Headings of a table -/

section Headings

variable (level : Nat)

def fieldOutline (title : String) (fields : List Field) : List String :=
  if fields = [] then []
  else headingLine (level + 1) title ::
    fields.map fun field => headingLine (level + 2) (singleLine field.name)

def outline (title : String) (table : Table) : List String :=
  [headingLine level (singleLine title)] ++
    headingLines table.description ++
    (if table.notes = "" then []
      else headingLine (level + 1) "Notes" :: headingLines table.notes) ++
    [headingLine (level + 1) "Statistics"] ++
    (if table.fields = [] then [] else [headingLine (level + 1) "Fields"]) ++
    fieldOutline level "Enums" (table.fields.filter (·.type = .enum)) ++
    fieldOutline level "Relations" (table.fields.filter (·.foreignKey.isSome)) ++
    (if ∃ field ∈ table.fields, field.exampleValue ≠ "" then
      [headingLine (level + 1) "Example values"] else [])

theorem headings_headed (title : String) (blocks : List Block) :
    (headed level title blocks).flatMap Block.headings =
      if blocks = [] then []
      else headingLine (level + 1) title :: blocks.flatMap Block.headings := by
  cases blocks <;> rfl

theorem headings_passageOf (text : String) :
    (passageOf text).flatMap Block.headings = headingLines text := by
  by_cases empty : text = ""
  · subst empty
    rfl
  · rw [passageOf, if_neg empty]
    exact List.append_nil _

theorem headings_notes (notes : String) :
    (headed level "Notes" (passageOf notes)).flatMap Block.headings =
      if notes = "" then [] else headingLine (level + 1) "Notes" :: headingLines notes := by
  rw [headings_headed, headings_passageOf]
  by_cases empty : notes = "" <;> simp [passageOf, empty]

theorem headings_fieldSections {α : Type} (title : String) (items : List α)
    {blocks : α → List Block} {field : α → Field}
    (named : ∀ item, (blocks item).flatMap Block.headings =
      [headingLine (level + 2) (singleLine (field item).name)]) :
    (headed level title (items.flatMap blocks)).flatMap Block.headings =
      fieldOutline level title (items.map field) := by
  cases items with
  | nil => rfl
  | cons item rest =>
      have filled : (item :: rest).flatMap blocks ≠ [] := by
        intro empty
        have nothing := named item
        rw [(List.append_eq_nil_iff.mp empty).1] at nothing
        cases nothing
      rw [headings_headed, if_neg filled, List.flatMap_assoc, fieldOutline, if_neg (by simp),
        List.map_map, List.map_eq_flatMap]
      simp only [named, Function.comp_apply]

theorem headings_enumBlocks (field : Field) :
    (enumBlocks level field).flatMap Block.headings =
      [headingLine (level + 2) (singleLine field.name)] := by
  rw [enumBlocks]
  split <;> rfl

theorem map_fst_relationFields (table : Table) :
    (relationFields table).map (·.1) = table.fields.filter (·.foreignKey.isSome) := by
  rw [relationFields]
  induction table.fields with
  | nil => rfl
  | cons field rest ih =>
      cases key : field.foreignKey <;> simp [key, ih]

theorem headings_fields (dialect : Sql.Dialect) (fields : List Field) :
    (headed level "Fields" (if fields.isEmpty then []
        else [.grid fieldHeader (fields.map (fieldRow dialect))])).flatMap Block.headings =
      if fields = [] then [] else [headingLine (level + 1) "Fields"] := by
  cases fields <;> rfl

theorem headings_examples (table : Table) :
    (headed level "Example values" (if (exampleFields table).isEmpty then []
        else [.bullets ((exampleFields table).map exampleItem)])).flatMap Block.headings =
      if ∃ field ∈ table.fields, field.exampleValue ≠ "" then
        [headingLine (level + 1) "Example values"] else [] := by
  have shown : exampleFields table = [] ↔ ¬ ∃ field ∈ table.fields, field.exampleValue ≠ "" := by
    simp [exampleFields]
  by_cases empty : exampleFields table = []
  · rw [if_neg (shown.mp empty), empty]
    rfl
  · rw [if_pos (not_not.mp (shown.not.mp empty)), if_neg (by simpa using empty)]
    rfl

theorem headings_tableBlocks (dialect : Sql.Dialect) (title : String) (table : Table) :
    (tableBlocks dialect level title table).flatMap Block.headings = outline level title table := by
  have relations : (headed level "Relations" ((relationFields table).flatMap
        (relationBlocks level))).flatMap Block.headings =
      fieldOutline level "Relations" (table.fields.filter (·.foreignKey.isSome)) := by
    rw [← map_fst_relationFields]
    exact headings_fieldSections level "Relations" _ fun _ => rfl
  have enums : (headed level "Enums" ((enumFields table).flatMap
        (enumBlocks level))).flatMap Block.headings =
      fieldOutline level "Enums" (table.fields.filter (·.type = .enum)) := by
    rw [headings_fieldSections level "Enums" _ (headings_enumBlocks level), List.map_id']
    rfl
  simp only [tableBlocks, List.flatMap_append, headings_passageOf, headings_notes, headings_fields,
    enums, relations, headings_examples]
  rfl

end Headings

def namedFields (title : String) (fields : List Field) : List String :=
  if fields = [] then [] else title :: fields.map fun field => "### " ++ singleLine field.name

theorem fieldOutline_one (title : String) (fields : List Field) :
    fieldOutline 1 title fields = namedFields (headingLine 2 title) fields := by
  have hashed (text : String) : headingLine 3 text = "### " ++ text := rfl
  simp only [fieldOutline, namedFields, hashed]

theorem exists_referenceGenerator {settings : Settings} {dialect : Sql.Dialect}
    (named : Sql.Dialect.ofJson settings.dialect = .ok dialect)
    (ended : settings.lineEnding = .str "\n") :
    ∃ generator, Artifact.Kind.documentation.generator settings {} = .ok generator ∧
      ∀ target, generator.artifact target =
        .ok (.made (Artifact.endedOnce (documentText dialect target))
          (Artifact.targetWarnings target) (generator.details target)) := by
  obtain ⟨generator, made, written⟩ := exists_referenceGenerator_ending named ended
  exact ⟨generator, made, fun target => by rw [written, withLineEnding_lineFeed]⟩

/--
The heading lines of the reference of a table, where neither description nor notes are there to have
lines of their own: its title, its statistics, its fields, its enums and its relations with the
fields of each in order, and its examples, each there just if the table has some.
-/
theorem headingLines_reference {settings : Settings} {dialect : Sql.Dialect}
    (named : Sql.Dialect.ofJson settings.dialect = .ok dialect)
    (ended : settings.lineEnding = .str "\n") {table : Table} (described : table.description = "")
    (noted : table.notes = "") (keys : HasUnbrokenKeys table) :
    ∃ generator content, Artifact.Kind.documentation.generator settings {} = .ok generator ∧
      generator.artifact (.table table) =
        .ok (.made content (Artifact.targetWarnings (.table table))
          (generator.details (.table table))) ∧
      headingLines content =
        ["# " ++ singleLine ("Documentation: " ++ table.name), "## Statistics"] ++
          (if table.fields = [] then [] else ["## Fields"]) ++
          namedFields "## Enums" (table.fields.filter (·.type = .enum)) ++
          namedFields "## Relations" (table.fields.filter (·.foreignKey.isSome)) ++
          (if ∃ field ∈ table.fields, field.exampleValue ≠ "" then ["## Example values"]
            else []) := by
  obtain ⟨generator, made, written⟩ := exists_referenceGenerator named ended
  refine ⟨generator, _, made, written (.table table), ?_⟩
  have flat := isFlat_tableBlocks dialect Nat.one_pos (defaultTitle table) keys
  have whole : headingLines (Artifact.endedOnce (documentText dialect (.table table))) =
      outline 1 (defaultTitle table) table := by
    rw [headingLines_endedOnce, documentText, headingLines_append_end, blocks,
      headingLines_render flat, headings_tableBlocks]
  have title (text : String) : headingLine 1 text = "# " ++ text := rfl
  rw [whole, outline, described, if_pos noted, fieldOutline_one, fieldOutline_one, title]
  rfl

def hashedTable : Table where
  name := "notes\n# more"
  fields :=
    [{ name := "kind\n## Fields", type := .enum, description := "one\r\n# two\n# three",
       enumValues := ["draft\n# final"], exampleValue := "draft\n### kind" },
     { name := "# owner", sqlType := "INT\n# NULL", foreignKey := some ⟨"people", "# id"⟩ }]

theorem headingLines_reference_hashedTable :
    Sql.Dialect.ofJson (.str "sqlite") = .ok .sqlite ∧ hashedTable.description = "" ∧
      hashedTable.notes = "" ∧ HasUnbrokenKeys hashedTable ∧
      ∃ settings : Settings, settings.lineEnding = .str "\n" ∧
      ∃ generator content, Artifact.Kind.documentation.generator settings {} = .ok generator ∧
        generator.artifact (.table hashedTable) =
          .ok (.made content (Artifact.targetWarnings (.table hashedTable))
            (generator.details (.table hashedTable))) ∧
        headingLines content =
          ["# Documentation: notes # more", "## Statistics", "## Fields", "## Enums",
           "### kind ## Fields", "## Relations", "### # owner", "## Example values"] := by
  have named : Sql.Dialect.ofJson (.str "sqlite") = .ok .sqlite := rfl
  have keys : HasUnbrokenKeys hashedTable := by decide
  refine ⟨named, rfl, rfl, keys, { dialect := .str "sqlite" }, rfl, ?_⟩
  obtain ⟨generator, content, made, written, lines⟩ :=
    @headingLines_reference { dialect := .str "sqlite" } _ named rfl hashedTable rfl rfl keys
  refine ⟨generator, content, made, written, lines.trans ?_⟩
  decide +kernel

end SchemaArtifacts.Markdown
