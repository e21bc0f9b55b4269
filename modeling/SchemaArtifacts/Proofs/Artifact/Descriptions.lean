import SchemaArtifacts.Proofs.Sql.Descriptions

/-!
# Descriptions in artifacts

Modules and data models do not show descriptions where comments are not asked for.  Scripts do not
ask: they show descriptions whatever the settings say about comments.
-/

namespace SchemaArtifacts

namespace Collection

theorem definitions_bare (tables : List Table) (register : Naming.Register) :
    definitions false (tables.map Table.bare) register = definitions false tables register := by
  induction tables generalizing register with
  | nil => rfl
  | cons table rest ih =>
      have same (identifier : String) :
          definition false table.bare identifier = definition false table identifier := by
        simp only [definition, Table.bare, List.map_map]
        rfl
      simp only [List.map_cons, definitions, same, ih, Table.name_bare]

theorem moduleText_bare (target : Target) :
    moduleText false target.bare = moduleText false target := by
  have titles : title target.bare = title target := by cases target <;> rfl
  rw [moduleText, moduleText, titles, Target.tables_bare, definitions_bare]

end Collection

namespace Interface

theorem definitions_bare (tables : List Table) (register : Naming.Register) :
    definitions false (tables.map Table.bare) register = definitions false tables register := by
  induction tables generalizing register with
  | nil => rfl
  | cons table rest ih =>
      have same (identifier : String) :
          definition false table.bare identifier = definition false table identifier := by
        simp only [definition, Table.bare, List.map_map]
        rfl
      simp only [List.map_cons, definitions, same, ih, Table.name_bare]

theorem moduleText_bare (target : Target) :
    moduleText false target.bare = moduleText false target := by
  rw [moduleText, moduleText, Target.name_bare, Target.tables_bare, definitions_bare]

end Interface

namespace Prisma

theorem fieldDefault?_bare (field : Field) : fieldDefault? field.bare = fieldDefault? field := by
  have held : field.bare.sqlDefault = field.sqlDefault := rfl
  have closed : field.bare.hasEnumValues = field.hasEnumValues := rfl
  rw [fieldDefault?, fieldDefault?, held]
  apply Option.map_congr
  intro sql _
  cases Default.ofSql sql with
  | literal body =>
      dsimp only
      rw [closed]
  | _ => rfl

theorem fieldLine_bare (field : Field) (type : String) :
    fieldLine field.bare type = fieldLine field type := by
  have name : field.bare.name = field.name := rfl
  have optional : isOptional field.bare = isOptional field := rfl
  have attributes : keyAttributes field.bare = keyAttributes field := rfl
  have key : field.bare.foreignKey = field.foreignKey := rfl
  simp only [fieldLine, fieldParts, fieldDefault?_bare, name, optional, attributes, key]

theorem fieldEntries_bare (model : String) (fields : List Field) (register : Naming.Register) :
    fieldEntries false model (fields.map Field.bare) register =
      fieldEntries false model fields register := by
  induction fields generalizing register with
  | nil => rfl
  | cons field rest ih =>
      have closed : field.bare.hasEnumValues = field.hasEnumValues := rfl
      have values : field.bare.enumValues = field.enumValues := rfl
      have types : field.bare.type = field.type := rfl
      have name : field.bare.name = field.name := rfl
      simp only [List.map_cons, fieldEntries, ih, fieldLine_bare, closed, values, types, name,
        Bool.false_eq_true, if_false]

theorem tableModel_bare (table : Table) (register : Naming.Register) :
    tableModel false table.bare register = tableModel false table register := by
  have entries (model : String) (register : Naming.Register) :
      fieldEntries false model table.bare.fields register =
        fieldEntries false model table.fields register :=
    fieldEntries_bare model table.fields register
  simp only [tableModel, entries, Table.name_bare]
  rfl

theorem models_bare (tables : List Table) (register : Naming.Register) :
    models false (tables.map Table.bare) register = models false tables register := by
  induction tables generalizing register with
  | nil => rfl
  | cons table rest ih => simp only [List.map_cons, models, tableModel_bare, ih]

theorem fileText_bare (source : Source) (target : Target) :
    fileText false source target.bare = fileText false source target := by
  rw [fileText, fileText, Target.name_bare, Target.tables_bare, models_bare]

end Prisma

namespace Artifact

theorem Generator.content_congr {generator : Generator} {first second : Target}
    (texts : generator.text first = generator.text second) :
    generator.content first = generator.content second := by
  rw [Generator.content, Generator.content, texts]

def Kind.asksForComments : List Kind := [contentConfig, typescript, prisma]

theorem exists_generator_bare {settings : Settings}
    (hidden : settings.addComments.isSet = false) {kind : Kind} (asks : kind ∈ Kind.asksForComments) :
    ∃ generator, kind.generator settings {} = .ok generator ∧
      ∀ target, generator.text target.bare = generator.text target := by
  have hides : showsComments settings = false := hidden
  rcases List.mem_cons.mp asks with rfl | asks
  · refine ⟨_, rfl, fun target => ?_⟩
    simp only [hides, Collection.moduleText_bare]
  rcases List.mem_cons.mp asks with rfl | asks
  · refine ⟨_, rfl, fun target => ?_⟩
    simp only [hides, Interface.moduleText_bare]
  · obtain rfl := List.mem_singleton.mp asks
    refine ⟨_, rfl, fun target => ?_⟩
    simp only [hides, Prisma.fileText_bare]

/--
Without comments, contents, interfaces and data models are the same whatever the descriptions are.
A script is the same for every setting of comments.  It is the same for two targets that differ in
descriptions only, if their tables show the same of these; and it tells two descriptions of a table
apart unless their remarks are the same, and two descriptions of a field apart exactly in the
dialect that comments columns.
-/
theorem contents_without_comments {settings : Settings}
    (hidden : settings.addComments.isSet = false) :
    (∀ kind ∈ Kind.asksForComments, ∃ generator, kind.generator settings {} = .ok generator ∧
      ∀ first second : Target, first.bare = second.bare →
        generator.content first = generator.content second) ∧
    ∀ dialect, Sql.Dialect.ofJson settings.dialect = .ok dialect →
      ∃ generator, Kind.sql.generator settings {} = .ok generator ∧
        (∀ value other, Kind.sql.generator { settings with addComments := value } {} = .ok other →
          ∀ target, other.content target = generator.content target) ∧
        (∀ first second : Target, first.bare = second.bare →
          first.tables.map (Sql.shownDescriptions dialect) =
            second.tables.map (Sql.shownDescriptions dialect) →
          generator.content first = generator.content second) ∧
        ∀ unit, settings.indent = .ok unit → settings.lineEnding = .str "\n" →
          ∀ (schema : Schema) (earlier later : List Table) (table : Table),
            (∀ description other : String,
              generator.content (.schema
                    { schema with tables := earlier ++ table.describe description :: later }) =
                  generator.content (.schema
                    { schema with tables := earlier ++ table.describe other :: later }) ↔
                Sql.shownDescription? description = Sql.shownDescription? other) ∧
            ∀ (fields others : List Field) (field : Field) (description other : String),
              generator.content (.schema { schema with
                    tables := earlier ++
                      Sql.describedField table fields others field description :: later }) =
                  generator.content (.schema { schema with
                    tables := earlier ++
                      Sql.describedField table fields others field other :: later }) ↔
                dialect.commentsColumns = false ∨ description = other := by
  constructor
  · intro kind asks
    obtain ⟨generator, made, blind⟩ := exists_generator_bare hidden asks
    refine ⟨generator, made, fun first second same => Generator.content_congr ?_⟩
    rw [← blind first, same, blind]
  · intro dialect named
    obtain ⟨generator, made, written⟩ := Sql.exists_sqlGenerator named
    refine ⟨generator, made, ?_, ?_, ?_⟩
    · intro value other makes target
      simp only [Kind.generator, sqlGenerator, named] at made makes
      obtain rfl := Except.ok.inj made
      obtain rfl := Except.ok.inj makes
      rfl
    · intro first second same shown
      have lengths : first.tables.length = second.tables.length := by
        simpa using congrArg List.length shown
      apply Generator.content_congr
      apply Sql.text_eq_of_script_eq written lengths
      rintro options rfl
      exact Sql.script_eq_of_lookAlike same shown
    · intro unit indent ended schema earlier later table
      exact ⟨Sql.content_describe_iff named made ended indent schema earlier later table,
        Sql.content_describedField_iff named made ended indent schema earlier later table⟩

def describedItems (table field : String) : Schema where
  name := "shop"
  tables :=
    [{ name := "items"
       description := table
       fields := [{ name := "id", type := .uuid, primaryKey := true, description := field }] }]

def withoutComments : Settings := { addComments := .bool false }

theorem contents_without_comments_items :
    (Json.bool false).isSet = false ∧ Sql.Dialect.ofJson (.str "sqlite") = .ok .sqlite ∧
      (∃ generator, Kind.prisma.generator withoutComments {} = .ok generator ∧
        generator.content (.schema (describedItems "Goods" "Key of an item")) =
          generator.content (.schema (describedItems "" ""))) ∧
      ∃ generator, Kind.sql.generator { withoutComments with dialect := .str "sqlite" } {} =
          .ok generator ∧
        generator.content (.schema (describedItems "Goods" "Key of an item")) =
          generator.content (.schema (describedItems "Goods" "")) := by
  have hidden : (Json.bool false).isSet = false := rfl
  have named : Sql.Dialect.ofJson (.str "sqlite") = .ok .sqlite := rfl
  refine ⟨hidden, named, ?_, ?_⟩
  · obtain ⟨generator, made, blind⟩ := (@contents_without_comments withoutComments hidden).1 .prisma
      (by simp [Kind.asksForComments])
    exact ⟨generator, made, blind _ _ rfl⟩
  · obtain ⟨generator, made, -, alike, -⟩ := (@contents_without_comments
      { withoutComments with dialect := .str "sqlite" } hidden).2 .sqlite named
    exact ⟨generator, made, alike _ _ rfl rfl⟩

/-- A script without comments still changes with a description. -/
theorem script_shows_descriptions_items :
    ∃ generator, Kind.sql.generator withoutComments {} = .ok generator ∧
      (describedItems "Goods" "").bare = (describedItems "" "").bare ∧
      generator.content (.schema (describedItems "Goods" "")) ≠
        generator.content (.schema (describedItems "" "")) ∧
      (describedItems "" "Key of an item").bare = (describedItems "" "").bare ∧
      generator.content (.schema (describedItems "" "Key of an item")) ≠
        generator.content (.schema (describedItems "" "")) := by
  have named : Sql.Dialect.ofJson withoutComments.dialect = .ok .postgres := rfl
  have indent : withoutComments.indent = .ok "  " := rfl
  obtain ⟨generator, made, -⟩ := Sql.exists_sqlGenerator named
  let shop : Schema := describedItems "" ""
  let key : Field := { name := "id", type := .uuid, primaryKey := true }
  refine ⟨generator, made, rfl, fun same => ?_, rfl, fun same => ?_⟩
  · have shown := (Sql.content_describe_iff named made rfl indent shop [] []
      { name := "items", fields := [key] } "Goods" "").mp same
    simp [Sql.shownDescription?] at shown
  · have shown := (Sql.content_describedField_iff named made rfl indent shop [] []
      { name := "items" } [] [] key "Key of an item" "").mp same
    simp [Sql.Dialect.commentsColumns] at shown

end Artifact

end SchemaArtifacts
