import SchemaArtifacts.Proofs.Sql.Contents

/-!
# Remarks in scripts

Text in a remark stays in it.  The script of a table starts with the remarks on the table, each on
one line, and the next line starts the definition; so does the first section of the table in the
script of a schema, which itself starts with the remarks on the schema and an empty line.
-/

namespace SchemaArtifacts.Sql

open Artifact Escape Text

/-- A line that is a remark up to its end, whichever of the two line breaks ends a line. -/
def IsRemarkLine (line : String) : Prop := (∃ remark, line = "-- " ++ remark) ∧ IsOneLine line

theorem isRemarkLine_append {remark : String} (single : IsOneLine remark) :
    IsRemarkLine ("-- " ++ remark) :=
  ⟨⟨remark, rfl⟩, .append (by decide) single⟩

def tableHeader (table : Table) : List String :=
  ("-- Table: " ++ singleLine table.name) ::
    if table.description = "" then []
    else ["-- Description: " ++ singleLine table.description]

def schemaHeader (dialect : Dialect) (schema : Schema) : List String :=
  ["-- Schema: " ++ singleLine schema.name,
   "-- Version: " ++ singleLine schema.version,
   "-- Dialect: " ++ dialect.heading] ++
    if schema.description = "" then [] else ["-- " ++ singleLine schema.description]

theorem map_tableRemarks (table : Table) :
    (tableRemarks table).map ("-- " ++ ·) = tableHeader table := by
  by_cases empty : table.description = "" <;>
    simp [tableRemarks, tableHeader, empty, ← String.append_assoc]

theorem map_schemaRemarks (dialect : Dialect) (schema : Schema) :
    (schemaRemarks dialect schema).map ("-- " ++ ·) = schemaHeader dialect schema := by
  by_cases empty : schema.description = "" <;>
    simp [schemaRemarks, schemaHeader, empty, ← String.append_assoc]

theorem isOneLine_of_mem_tableRemarks {table : Table} {remark : String}
    (mem : remark ∈ tableRemarks table) : IsOneLine remark := by
  simp only [tableRemarks, List.mem_cons, List.mem_ite_nil_left, List.not_mem_nil, or_false] at mem
  rcases mem with rfl | ⟨-, rfl⟩ <;> exact .append (by decide) (isOneLine_singleLine _)

theorem isRemarkLine_of_mem_tableHeader {table : Table} :
    ∀ line ∈ tableHeader table, IsRemarkLine line := by
  rw [← map_tableRemarks, List.forall_mem_map]
  exact fun remark mem => isRemarkLine_append (isOneLine_of_mem_tableRemarks mem)

theorem isRemarkLine_of_mem_schemaHeader {dialect : Dialect} {schema : Schema} :
    ∀ line ∈ schemaHeader dialect schema, IsRemarkLine line := by
  rw [← map_schemaRemarks, List.forall_mem_map]
  exact fun remark mem => isRemarkLine_append (isOneLine_of_mem_schemaRemarks mem)

/-- The lines start with the remarks on a table, and the line after these with its definition. -/
def OpensTable (table : Table) (found : List String) : Prop :=
  ∃ definition rest, found = tableHeader table ++ ("CREATE TABLE" ++ definition) :: rest

theorem OpensTable.of_isPrefix {table : Table} {found all : List String}
    (opens : OpensTable table found) (start : found <+: all) : OpensTable table all := by
  obtain ⟨definition, rest, rfl⟩ := opens
  obtain ⟨later, rfl⟩ := start
  exact ⟨definition, rest ++ later, by simp⟩

section Sections

variable (options : Options) (table : Table) (withReferences : Bool)

def sectionTexts : List String :=
  (tableSections options table withReferences).map (Section.render options.style)

theorem exists_render_createTable :
    ∃ definition, (createTable options table).render options.style =
      "CREATE TABLE" ++ definition := by
  iterate 5 refine exists_eq_append ?_ _
  exact ⟨_, rfl⟩

theorem opensTable_firstSection :
    OpensTable table (lines (Section.render options.style
      ⟨tableRemarks table, [createTable options table]⟩)) := by
  obtain ⟨text, written⟩ := exists_render_createTable options table
  obtain ⟨definition, rest, cut⟩ :=
    exists_lines_append (show IsUnbroken "CREATE TABLE" by decide) text
  refine ⟨definition, rest, ?_⟩
  rw [Section.render, Section.remarkLines, map_tableRemarks, List.map_singleton,
    lines_joinLines_concat fun line mem => (isRemarkLine_of_mem_tableHeader line mem).2.isUnbroken,
    written, cut]

theorem exists_sectionTexts :
    ∃ first rest, sectionTexts options table withReferences = first :: rest ∧
      OpensTable table (lines first) :=
  ⟨_, _, rfl, opensTable_firstSection options table⟩

end Sections

theorem isPrefix_lines_intercalate (first : String) (rest : List String) :
    lines first <+: lines ("\n\n".intercalate (first :: rest) ++ "\n") := by
  rw [lines_append_end]
  refine List.IsPrefix.trans ?_ (List.prefix_append _ _)
  cases rest with
  | nil => rw [String.intercalate_singleton]
  | cons next others =>
      rw [String.intercalate_cons_cons, lines_append_blank]
      exact List.prefix_append _ _

theorem opensTable_scriptText (options : Options) (table : Table) :
    OpensTable table (lines (scriptText options (.table table))) := by
  obtain ⟨first, rest, written, opens⟩ := exists_sectionTexts options table true
  have whole : scriptText options (.table table) = "\n\n".intercalate (first :: rest) ++ "\n" := by
    rw [← written]
    rfl
  rw [whole]
  exact opens.of_isPrefix (isPrefix_lines_intercalate first rest)

section Schemas

variable (options : Options) (schema : Schema)

/-- The texts of the sections of a schema after its header, those of each table together. -/
def bodyTexts : List String :=
  (Section.ofStatements [] (dropStatements options schema)).map (Section.render options.style) ++
    schema.dependencyOrder.tables.flatMap (sectionTexts options · false) ++
    (Section.ofStatements ["Foreign keys"]
      (schema.dependencyOrder.tables.flatMap (addReferences options))).map
        (Section.render options.style)

theorem map_render_bodySections :
    (bodySections options schema).map (Section.render options.style) =
      bodyTexts options schema := by
  rw [bodySections, List.map_append, List.map_append, List.map_flatMap]
  rfl

theorem scriptText_schema :
    scriptText options (.schema schema) =
      "\n\n".intercalate (joinLines (schemaHeader options.dialect schema) ::
        bodyTexts options schema) ++ "\n" := by
  rw [scriptText, script, schemaScript_eq_cons, Script.render, List.map_cons,
    map_render_bodySections, Section.render, Section.remarkLines, map_schemaRemarks]
  simp

theorem bodyTexts_eq_nil_iff : bodyTexts options schema = [] ↔ schema.tables = [] := by
  have ordered : schema.dependencyOrder.tables = [] ↔ schema.tables = [] := by
    rw [← List.length_eq_zero_iff, schema.dependencyOrder_perm.length_eq, List.length_eq_zero_iff]
  constructor
  · intro nothing
    rw [bodyTexts, List.append_eq_nil_iff, List.append_eq_nil_iff,
      List.flatMap_eq_nil_iff] at nothing
    rw [← ordered, List.eq_nil_iff_forall_not_mem]
    intro table mem
    obtain ⟨first, rest, written, -⟩ := exists_sectionTexts options table false
    simpa [written] using nothing.1.2 table mem
  · intro empty
    rw [bodyTexts, ordered.mpr empty, dropStatements, empty]
    simp [Section.ofStatements]

theorem exists_lines_scriptText :
    ∃ rest, lines (scriptText options (.schema schema)) =
        schemaHeader options.dialect schema ++ "" :: rest ∧ (rest = [] ↔ schema.tables = []) := by
  have start : lines (joinLines (schemaHeader options.dialect schema)) =
      schemaHeader options.dialect schema := by
    refine lines_joinLines (by simp [schemaHeader]) fun line mem => ?_
    exact (isRemarkLine_of_mem_schemaHeader line mem).2.isUnbroken
  rw [← bodyTexts_eq_nil_iff options, scriptText_schema]
  cases bodyTexts options schema with
  | nil =>
      refine ⟨[], ?_, by simp⟩
      rw [String.intercalate_singleton, lines_append_end, start]
  | cons first rest =>
      refine ⟨lines ("\n\n".intercalate (first :: rest) ++ "\n"), ?_, by simp [lines_ne_nil]⟩
      rw [String.intercalate_cons_cons, String.append_assoc, lines_append_blank, start]

end Schemas

/--
The content of a table starts with its name and, unless it is empty, its description, each a remark
on a line of its own; the next line starts the definition of the table.  The content of a schema
starts with three remarks, or four where it has a description, and an empty line, which is the end
of the content if there are no tables.  It is joined from this header and the sections of its
tables, besides the statements that drop tables and add foreign keys, and the sections of each table
start as its own content does.  There is a content unless a table is to be indented and the settings
have no indent.
-/
theorem content_remarks {settings : Settings} {dialect : Dialect}
    (named : Dialect.ofJson settings.dialect = .ok dialect)
    (ended : settings.lineEnding = .str "\n") :
    ∃ generator, Kind.sql.generator settings {} = .ok generator ∧
      (∀ target, (∃ content, generator.content target = .ok content) ↔
        target.tables = [] ∨ ∃ unit, settings.indent = .ok unit) ∧
      (∀ table content, generator.content (.table table) = .ok content →
        (∀ line ∈ tableHeader table, IsRemarkLine line) ∧ OpensTable table (lines content)) ∧
      ∀ schema content, generator.content (.schema schema) = .ok content →
        (∀ line ∈ schemaHeader dialect schema, IsRemarkLine line) ∧
        (∃ rest, lines content = schemaHeader dialect schema ++ "" :: rest ∧
          (rest = [] ↔ schema.tables = [])) ∧
        ∃ options, Options.ofSettings settings dialect schema.tables = .ok options ∧
          content = "\n\n".intercalate (joinLines (schemaHeader dialect schema) ::
            bodyTexts options schema) ++ "\n" ∧
          ∀ table, (∀ line ∈ tableHeader table, IsRemarkLine line) ∧
            ∃ first rest, sectionTexts options table false = first :: rest ∧
              OpensTable table (lines first) := by
  obtain ⟨generator, made, contents⟩ := exists_scriptContent named ended
  have written {target : Target} {content : String}
      (given : generator.content target = .ok content) :
      ∃ options, Options.ofSettings settings dialect target.tables = .ok options ∧
        content = scriptText options target := by
    rw [contents] at given
    obtain ⟨options, found, same⟩ := map_eq_ok_iff.mp given
    exact ⟨options, found, by rw [← same, withLineEnding_lineFeed]⟩
  refine ⟨generator, made, fun target => ?_, fun table content given => ?_,
    fun schema content given => ?_⟩
  · rw [← @exists_ofSettings_iff settings dialect]
    simp [contents, map_eq_ok_iff]
  · obtain ⟨options, -, rfl⟩ := written given
    exact ⟨isRemarkLine_of_mem_tableHeader, opensTable_scriptText options table⟩
  · obtain ⟨options, found, rfl⟩ := written given
    obtain rfl := dialect_ofSettings found
    exact ⟨isRemarkLine_of_mem_schemaHeader, exists_lines_scriptText options schema, options, found,
      scriptText_schema options schema,
      fun table => ⟨isRemarkLine_of_mem_tableHeader, exists_sectionTexts options table false⟩⟩

def brokenTable : Table where
  name := "items\nDROP TABLE users;"
  description := "Things\r\n\r\nDROP TABLE things; "
  fields := [{ name := "id", primaryKey := true }]

def brokenSchema : Schema where
  name := "shop\rDROP TABLE users;"
  version := "\n1.0\n"
  description := "\r\n"
  tables := [brokenTable]

theorem content_remarks_brokenSchema :
    Dialect.ofJson (.str "mysql") = .ok .mysql ∧
    ∃ generator, Kind.sql.generator { dialect := .str "mysql" } {} = .ok generator ∧
      (∃ content definition rest, generator.content (.table brokenTable) = .ok content ∧
        lines content =
          ["-- Table: items DROP TABLE users;", "-- Description: Things DROP TABLE things;"] ++
            ("CREATE TABLE" ++ definition) :: rest) ∧
      ∃ content rest, generator.content (.schema brokenSchema) = .ok content ∧ rest ≠ [] ∧
        lines content =
          ["-- Schema: shop DROP TABLE users;", "-- Version: 1.0", "-- Dialect: MYSQL", "-- "] ++
            "" :: rest := by
  have named : Dialect.ofJson (.str "mysql") = .ok .mysql := rfl
  have tableLines : tableHeader brokenTable =
      ["-- Table: items DROP TABLE users;", "-- Description: Things DROP TABLE things;"] := by
    decide +kernel
  have schemaLines : schemaHeader .mysql brokenSchema =
      ["-- Schema: shop DROP TABLE users;", "-- Version: 1.0", "-- Dialect: MYSQL", "-- "] := by
    decide +kernel
  obtain ⟨generator, made, exists_content, ofTable, ofSchema⟩ :=
    @content_remarks { dialect := .str "mysql" } .mysql named rfl
  have indented : ∃ unit, ({ dialect := .str "mysql" } : Settings).indent = .ok unit := ⟨_, rfl⟩
  obtain ⟨own, ownGiven⟩ := (exists_content (.table brokenTable)).mpr (.inr indented)
  obtain ⟨whole, wholeGiven⟩ := (exists_content (.schema brokenSchema)).mpr (.inr indented)
  obtain ⟨-, definition, rest, ownLines⟩ := ofTable brokenTable own ownGiven
  obtain ⟨-, ⟨later, wholeLines, ends⟩, -⟩ := ofSchema brokenSchema whole wholeGiven
  refine ⟨named, generator, made, ⟨own, definition, rest, ownGiven, tableLines ▸ ownLines⟩,
    whole, later, wholeGiven, fun none => ?_, schemaLines ▸ wholeLines⟩
  exact absurd (ends.mp none) (List.cons_ne_nil _ _)

end SchemaArtifacts.Sql
