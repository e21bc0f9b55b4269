import SchemaArtifacts.Proofs.Escape.Anchor
import SchemaArtifacts.Proofs.Markdown.Outline

/-!
# The table of contents

The reference of a schema starts with a table of contents, with a link for each table, and has a
section for each of them.  A link leads to the heading of its section as long as the name keeps its
spaces on one line, and to no other section as long as no two names read alike in an anchor.
-/

namespace SchemaArtifacts.Markdown

open Escape Text

theorem isUnbroken_contentsItem (table : Table) : IsUnbroken (contentsItem table) := by
  have name : IsUnbroken ("[" ++ singleLine table.name) :=
    .append (by decide) (isUnbroken_singleLine _)
  have anchor := (name.append (by decide : IsUnbroken "](#")).append
    (isUnbroken_markdownAnchor table.name)
  exact ((anchor.append (by decide)).append (isUnbroken_numeral _)).append (by decide)

def contentsLines (schema : Schema) : List String :=
  schema.tables.map fun table => "- " ++ contentsItem table

theorem exists_blocks_contents (dialect : Sql.Dialect) {schema : Schema}
    (nonempty : schema.tables ≠ []) :
    ∃ before after, blocks dialect (.schema schema) =
      .heading 1 (singleLine schema.name) :: before ++
        [.heading 2 "Tables", .bullets (schema.tables.map contentsItem)] ++ after := by
  have contents : headed 1 "Tables" (if schema.tables.isEmpty then []
      else [.bullets (schema.tables.map contentsItem)]) =
        [.heading 2 "Tables", .bullets (schema.tables.map contentsItem)] := by
    rw [if_neg (by simpa using nonempty)]
    rfl
  have cut (first : Block) (a b c d : List Block) :
      [first] ++ a ++ b ++ c ++ d = first :: (a ++ b) ++ c ++ d := by simp
  rw [blocks, schemaBlocks, contents]
  exact ⟨_, _, cut ..⟩

theorem exists_blocks_section (dialect : Sql.Dialect) {schema : Schema} {table : Table}
    (mem : table ∈ schema.tables) :
    ∃ before after, blocks dialect (.schema schema) =
      .heading 1 (singleLine schema.name) :: before ++
        [.heading 2 (singleLine (sectionTitle table))] ++ after := by
  obtain ⟨first, last, tables⟩ := List.append_of_mem mem
  have cut (start title : Block) (a b c d e f g h i j k l : List Block) :
      [start] ++ a ++ b ++ c ++ (d ++ (([title] ++ e ++ f ++ g ++ h ++ i ++ j ++ k) ++ l)) =
        start :: (a ++ b ++ c ++ d) ++ [title] ++ (e ++ f ++ g ++ h ++ i ++ j ++ k ++ l) := by
    simp
  rw [blocks, schemaBlocks, tables, List.flatMap_append, List.flatMap_cons, tableBlocks]
  exact ⟨_, _, cut ..⟩

theorem exists_contents {settings : Settings} {dialect : Sql.Dialect}
    (named : Sql.Dialect.ofJson settings.dialect = .ok dialect) {ending : String}
    (set : settings.lineEnding = .str ending) (schema : Schema) :
    ∃ generator content,
      Artifact.Kind.documentation.generator settings {} = .ok generator ∧
      generator.artifact (.schema schema) =
        .ok (.made content (Artifact.targetWarnings (.schema schema))
          (generator.details (.schema schema))) ∧
      (schema.tables ≠ [] → ∃ before after,
        content = before ++ "## Tables" ++ ending ++ ending ++
          ending.intercalate (contentsLines schema) ++ ending ++ after ∧
        IsApart ending after) ∧
      ∀ table ∈ schema.tables, ∃ before after,
        content = before ++ ending ++ ending ++ "## " ++ singleLine (sectionTitle table) ++
          ending ++ after ∧
        IsApart ending after := by
  obtain ⟨generator, made, written⟩ := exists_referenceGenerator_ending named set
  refine ⟨generator, _, made, written _, fun nonempty => ?contents, fun table mem => ?sections⟩
  case contents =>
    obtain ⟨before, after, parts⟩ := exists_blocks_contents dialect nonempty
    have items : (Block.bullets (schema.tables.map contentsItem)).lines = contentsLines schema :=
      List.map_map
    have lines : ∀ line ∈ contentsLines schema, IsUnbroken line ∧ line ≠ "" := by
      intro line mem
      obtain ⟨table, -, rfl⟩ := List.mem_map.mp mem
      exact ⟨.append (by decide) (isUnbroken_contentsItem table), by simp⟩
    obtain ⟨start, rest, text, apart⟩ := exists_sectionText ending parts (List.cons_ne_nil _ _)
      (by decide) (by simpa [Block.lines] using nonempty) (items ▸ lines)
    exact ⟨start, rest, items ▸ text, apart⟩
  case sections =>
    obtain ⟨before, after, parts⟩ := exists_blocks_section dialect mem
    have unbroken : IsUnbroken ("## " ++ singleLine (sectionTitle table)) :=
      .append (by decide) (isUnbroken_singleLine _)
    obtain ⟨c, last⟩ : ∃ c, ("## " ++ singleLine (sectionTitle table)).toList.getLast? = some c :=
      ⟨_, List.getLast?_eq_some_getLast (by simp)⟩
    have visible : c ≠ '\n' := ne_of_mem_of_not_mem (List.mem_of_getLast? last) unbroken
    have middle : render [.heading 2 (singleLine (sectionTitle table))] =
        "## " ++ singleLine (sectionTitle table) := rfl
    obtain ⟨rest, text, apart⟩ := exists_documentText ending parts (List.cons_ne_nil _ _)
      (List.cons_ne_nil _ _) (middle ▸ last) visible
    let start := withLineEnding ending (render (.heading 1 (singleLine schema.name) :: before))
    refine ⟨start, rest, ?_, apart⟩
    rw [text, middle, withLineEnding_of_isUnbroken unbroken, ← String.append_assoc]

/--
The table of contents in the reference of a schema has one line for each table in order, with a link
that is the anchor of the name.  No two links are alike just if no two names read alike: in lower
case and without the blanks at their ends, they have other letters, digits, underscores, hyphens
and spaces, where a space is as good as a hyphen.  A link is the anchor of the heading of its
section if the name is not empty and each run of blanks with a line break has one space, too, which
the heading has in place of the run.
-/
theorem contents_link {settings : Settings} {dialect : Sql.Dialect}
    (named : Sql.Dialect.ofJson settings.dialect = .ok dialect) {ending : String}
    (set : settings.lineEnding = .str ending) (schema : Schema) :
    ∃ generator content,
      Artifact.Kind.documentation.generator settings {} = .ok generator ∧
      generator.artifact (.schema schema) =
        .ok (.made content (Artifact.targetWarnings (.schema schema))
          (generator.details (.schema schema))) ∧
      (schema.tables ≠ [] → ∃ before after,
        content = before ++ "## Tables" ++ ending ++ ending ++
          ending.intercalate (schema.tables.map fun table =>
            "- [" ++ singleLine table.name ++ "](#" ++ markdownAnchor table.name ++ ") (" ++
              numeral table.fields.length ++ " fields)") ++ ending ++ after ∧
        IsApart ending after) ∧
      (∀ table ∈ schema.tables, ∃ before after,
        content = before ++ ending ++ ending ++ "## " ++ singleLine (sectionTitle table) ++
          ending ++ after ∧
        IsApart ending after) ∧
      ((schema.tables.map fun table => markdownAnchor table.name).Nodup ↔
        schema.tables.Pairwise fun table other => ¬ ReadAlike table.name other.name) ∧
      ∀ table ∈ schema.tables, table.name ≠ "" →
        singleLine (sectionTitle table) = singleLine table.name ∧
          (HasSpacedBreaks (trimChars table.name.toList) →
            markdownAnchor table.name = markdownAnchor (singleLine (sectionTitle table))) := by
  obtain ⟨generator, content, made, written, contents, sections⟩ := exists_contents named set schema
  refine ⟨generator, content, made, written, ?lines, sections, ?distinct, ?same⟩
  case lines =>
    have line (table : Table) : "- " ++ contentsItem table =
        "- [" ++ singleLine table.name ++ "](#" ++ markdownAnchor table.name ++ ") (" ++
          numeral table.fields.length ++ " fields)" := by
      simp only [contentsItem, ← String.append_assoc]
      rfl
    simpa only [contentsLines, line] using contents
  case distinct =>
    rw [List.Nodup, List.pairwise_map]
    simp only [Ne, markdownAnchor_eq_iff]
  case same =>
    intro table mem filled
    rw [sectionTitle, if_neg filled]
    exact ⟨rfl, fun spaced => (markdownAnchor_singleLine spaced).symm⟩

def spacedSchema : Schema where
  name := "shop"
  tables := [{ name := "Blog Posts" }, { name := "user_roles!" }, { name := " order \r\nitems\n" }]

theorem contents_link_spacedSchema :
    Sql.Dialect.ofJson (.str "sqlite") = .ok .sqlite ∧
      ∃ settings : Settings, settings.lineEnding = .str "\r\n" ∧
      ∃ generator content before after,
        Artifact.Kind.documentation.generator settings {} = .ok generator ∧
        generator.artifact (.schema spacedSchema) =
          .ok (.made content (Artifact.targetWarnings (.schema spacedSchema))
            (generator.details (.schema spacedSchema))) ∧
        content = before ++ "## Tables" ++ "\r\n" ++ "\r\n" ++
          ("- [Blog Posts](#blog-posts) (0 fields)\r\n" ++
            "- [user_roles!](#user_roles) (0 fields)\r\n" ++
            "- [order items](#order-items) (0 fields)") ++ "\r\n" ++ after ∧
        (spacedSchema.tables.map fun table => markdownAnchor table.name).Nodup ∧
        ∀ table ∈ spacedSchema.tables,
          markdownAnchor table.name = markdownAnchor (singleLine (sectionTitle table)) := by
  have named : Sql.Dialect.ofJson (.str "sqlite") = .ok .sqlite := rfl
  refine ⟨named, { dialect := .str "sqlite", lineEnding := .str "\r\n" }, rfl, ?_⟩
  obtain ⟨generator, content, made, written, contents, -, -, same⟩ :=
    @contents_link { dialect := .str "sqlite", lineEnding := .str "\r\n" } _ named _ rfl
      spacedSchema
  obtain ⟨before, after, text, -⟩ := contents (List.cons_ne_nil _ _)
  refine ⟨generator, content, before, after, made, written, text.trans ?_, by decide +kernel, ?_⟩
  · refine congrArg (before ++ "## Tables" ++ "\r\n" ++ "\r\n" ++ · ++ "\r\n" ++ after) ?_
    decide +kernel
  · have spaced : ∀ table ∈ spacedSchema.tables, table.name ≠ "" ∧
        HasSpacedBreaks (trimChars table.name.toList) := by decide +kernel
    exact fun table mem => (same table mem (spaced table mem).1).2 (spaced table mem).2

def brokenSchema : Schema where
  name := "shop"
  tables := [{ name := "order\nitems" }]

/-- The link has nothing in place of the line break, and the heading has a space. -/
theorem contents_link_beside_section :
    (brokenSchema.tables.map (·.name)).Nodup ∧
      ∃ settings : Settings, settings.lineEnding = .str "\n" ∧
      ∃ generator content,
        Artifact.Kind.documentation.generator settings {} = .ok generator ∧
        generator.artifact (.schema brokenSchema) =
          .ok (.made content (Artifact.targetWarnings (.schema brokenSchema))
            (generator.details (.schema brokenSchema))) ∧
        (∃ before after,
          content = before ++ "## Tables" ++ "\n" ++ "\n" ++
            "- [order items](#orderitems) (0 fields)" ++ "\n" ++ after) ∧
        (∃ before after,
          content = before ++ "\n" ++ "\n" ++ "## " ++ "order items" ++ "\n" ++ after) ∧
        markdownAnchor "order items" = "order-items" := by
  refine ⟨by decide, { dialect := .str "sqlite" }, rfl, ?_⟩
  obtain ⟨generator, content, made, written, contents, sections⟩ :=
    @exists_contents { dialect := .str "sqlite" } .sqlite rfl "\n" rfl brokenSchema
  obtain ⟨before, after, text, -⟩ := contents (List.cons_ne_nil _ _)
  obtain ⟨front, rest, section_text, -⟩ := sections _ List.mem_cons_self
  refine ⟨generator, content, made, written, ⟨before, after, text.trans ?_⟩,
    ⟨front, rest, section_text.trans ?_⟩, by decide +kernel⟩
  · refine congrArg (before ++ "## Tables" ++ "\n" ++ "\n" ++ · ++ "\n" ++ after) ?_
    decide +kernel
  · refine congrArg (front ++ "\n" ++ "\n" ++ "## " ++ · ++ "\n" ++ rest) ?_
    decide +kernel

example : markdownAnchor "Users" = markdownAnchor "users" := by decide +kernel

end SchemaArtifacts.Markdown
