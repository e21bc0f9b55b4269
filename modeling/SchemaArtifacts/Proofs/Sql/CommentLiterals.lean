import SchemaArtifacts.Proofs.Sql.Contents
import SchemaArtifacts.Proofs.Sql.TableScripts

/-!
# Literals in comments on columns

A script for PostgreSQL comments the columns of fields with a description, and does so in a literal.
The line ending of the settings takes the place of every line feed of a script, inside of a literal
as well, so the literal stands for the description itself only where no line feed is replaced.
-/

namespace SchemaArtifacts.Sql

open Artifact Escape Text

def Statement.comments : Statement → Bool
  | commentOn _ _ _ => true
  | _ => false

def describedFields (table : Table) : List Field := table.fields.filter (·.description != "")

def commentOf (table : Table) (field : Field) : Statement :=
  .commentOn table.name field.name field.description

section Statements

variable (options : Options) (table : Table)

theorem filter_comments_columnComments (postgres : options.dialect = .postgres) :
    (columnComments options table).filter (·.comments) =
      (describedFields table).map (commentOf table) := by
  have commented :
      columnComments options table = (describedFields table).map (commentOf table) := by
    rw [columnComments, postgres]
    rfl
  rw [commented, List.filter_eq_self, List.forall_mem_map]
  exact fun _ _ => rfl

theorem filter_comments_createIndexes :
    (createIndexes options table).filter (·.comments) = [] := by
  rw [List.filter_eq_nil_iff]
  intro statement mem
  obtain ⟨_, _, _, _, rfl⟩ := mem_createIndexes mem
  exact Bool.false_ne_true

theorem filter_comments_addReferences :
    (addReferences options table).filter (·.comments) = [] := by
  rw [List.filter_eq_nil_iff]
  intro statement mem
  obtain ⟨_, _, rfl⟩ := mem_addReferences mem
  exact Bool.false_ne_true

theorem filter_comments_rowSecurity : (rowSecurity options table).filter (·.comments) = [] := by
  rw [List.filter_eq_nil_iff]
  intro statement mem
  rcases mem_rowSecurity mem with rfl | ⟨_, _, rfl⟩ <;> exact Bool.false_ne_true

theorem filter_comments_tableScript (postgres : options.dialect = .postgres) :
    (tableScript options table).statements.filter (·.comments) =
      (describedFields table).map (commentOf table) := by
  rw [statements_tableScript, List.filter_cons_of_neg Bool.false_ne_true, List.filter_append,
    List.filter_append, List.filter_append, filter_comments_columnComments options table postgres,
    filter_comments_createIndexes, filter_comments_addReferences, filter_comments_rowSecurity,
    List.append_nil, List.append_nil, List.append_nil]

end Statements

/-- The texts that a section is joined from, with another line ending. -/
def Section.texts (ending : String) (style : Style) (part : Section) : List String :=
  (part.remarkLines ++ part.statements.map (Statement.render style)).map (withLineEnding ending)

theorem withLineEnding_render (ending : String) (style : Style) (script : Script) :
    withLineEnding ending (script.render style) =
      (ending ++ ending).intercalate
        (script.map fun part => ending.intercalate (part.texts ending style)) ++ ending := by
  have blank : withLineEnding ending "\n\n" = ending ++ ending := by
    rw [show "\n\n" = "\n" ++ "\n" from rfl, withLineEnding_append, withLineEnding_break]
  rw [Script.render, withLineEnding_append, withLineEnding_intercalate, withLineEnding_break, blank,
    List.map_map]
  refine congrArg (fun parts => (ending ++ ending).intercalate parts ++ ending) ?_
  exact List.map_congr_left fun part _ => withLineEnding_joinLines _

/-- What a comment on a column starts with, up to its literal. -/
def commentStart (table : Table) (field : Field) : String :=
  "COMMENT ON COLUMN " ++ table.name ++ "." ++ field.name ++ " IS "

theorem render_commentOf {options : Options} (postgres : options.dialect = .postgres)
    (table : Table) (field : Field) :
    (commentOf table field).render options.style =
      commentStart table field ++ sqlString field.description ++ ";" := by
  have bare (name : String) : options.style.identifier name = name := by
    rw [Options.style, Style.identifier, postgres]
    rfl
  have rendered : (commentOf table field).render options.style =
      "COMMENT ON COLUMN " ++ options.style.identifier table.name ++ "." ++
        options.style.identifier field.name ++ " IS " ++ sqlString field.description ++ ";" := rfl
  rw [rendered, bare, bare]
  rfl

theorem withLineEnding_commentOf {options : Options} (postgres : options.dialect = .postgres)
    {ending : String} (unquoted : '\'' ∉ ending.toList) (table : Table) (field : Field) :
    withLineEnding ending ((commentOf table field).render options.style) =
      withLineEnding ending (commentStart table field) ++
        sqlString (withLineEnding ending field.description) ++ ";" := by
  rw [render_commentOf postgres, withLineEnding_append, withLineEnding_append,
    withLineEnding_sqlString unquoted, withLineEnding_of_isUnbroken (show IsUnbroken ";" by decide)]

/--
The content of a table for PostgreSQL is joined from the statements of its script, each with the
line ending of the settings.  Those that comment columns are the comments of the fields with a
description, in order.  Each has a literal that stands for the description with that line ending,
which is the description itself exactly where the line ending is a line feed or the description has
none.
-/
theorem content_commentLiterals {settings : Settings} {ending unit : String}
    (named : Dialect.ofJson settings.dialect = .ok .postgres)
    (ended : settings.lineEnding = .str ending) (unquoted : '\'' ∉ ending.toList)
    (indented : settings.indent = .ok unit) :
    ∃ generator, Kind.sql.generator settings {} = .ok generator ∧ ∀ table, ∃ options content,
      Options.ofSettings settings .postgres [table] = .ok options ∧
      generator.artifact (.table table) =
        .ok (.made content (targetWarnings (.table table)) (generator.details (.table table))) ∧
      content = (ending ++ ending).intercalate ((tableScript options table).map
        fun part => ending.intercalate (part.texts ending options.style)) ++ ending ∧
      (tableScript options table).statements.filter (·.comments) =
        (describedFields table).map (commentOf table) ∧
      ∀ field ∈ describedFields table, ∃ literal,
        withLineEnding ending ((commentOf table field).render options.style) =
          withLineEnding ending (commentStart table field) ++ literal ++ ";" ∧
        StandsFor literal (withLineEnding ending field.description) ∧
        (StandsFor literal field.description ↔
          ending = "\n" ∨ IsUnbroken field.description) := by
  obtain ⟨generator, made, contents⟩ := exists_scriptContent named ended
  refine ⟨generator, made, fun table => ?_⟩
  obtain ⟨options, given⟩ :
      ∃ options, Options.ofSettings settings .postgres [table] = .ok options :=
    exists_ofSettings_iff.mpr (.inr ⟨unit, indented⟩)
  have postgres : options.dialect = .postgres := dialect_ofSettings given
  have content : generator.content (.table table) =
      .ok (withLineEnding ending ((tableScript options table).render options.style)) := by
    rw [contents, Target.tables, given]
    rfl
  refine ⟨options, _, given, by rw [Generator.artifact, content],
    withLineEnding_render ending options.style _,
    filter_comments_tableScript options table postgres, fun field _ => ?_⟩
  refine ⟨_, withLineEnding_commentOf postgres unquoted table field, standsFor_sqlString _, ?_⟩
  rw [standsFor_sqlString_iff, withLineEnding_eq_self_iff]

def bodyField : Field := { name := "body", description := "First\nSecond" }

def authorField : Field := { name := "author", description := "The note's author\r  " }

def notesTable : Table := { name := "notes", fields := [bodyField, { name := "id" }, authorField] }

theorem content_commentLiterals_notesTable :
    Dialect.ofJson (.str "postgres") = .ok .postgres ∧ '\'' ∉ "\r\n".toList ∧
    ∃ generator, Kind.sql.generator { lineEnding := .str "\r\n" } {} = .ok generator ∧
      ∃ options content, generator.artifact (.table notesTable) =
          .ok (.made content ["Table 'notes' has no primary key"]
            (generator.details (.table notesTable))) ∧
        content = "\r\n\r\n".intercalate ((tableScript options notesTable).map
          fun part => "\r\n".intercalate (part.texts "\r\n" options.style)) ++ "\r\n" ∧
        (tableScript options notesTable).statements.filter (·.comments) =
          [commentOf notesTable bodyField, commentOf notesTable authorField] ∧
        (∃ literal,
          withLineEnding "\r\n" ((commentOf notesTable bodyField).render options.style) =
            withLineEnding "\r\n" (commentStart notesTable bodyField) ++ literal ++ ";" ∧
          StandsFor literal "First\r\nSecond" ∧ ¬ StandsFor literal "First\nSecond") ∧
        ∃ literal,
          withLineEnding "\r\n" ((commentOf notesTable authorField).render options.style) =
            withLineEnding "\r\n" (commentStart notesTable authorField) ++ literal ++ ";" ∧
          StandsFor literal "The note's author\r  " := by
  have named : Dialect.ofJson (.str "postgres") = .ok .postgres := rfl
  have unquoted : '\'' ∉ "\r\n".toList := by decide
  obtain ⟨generator, made, comments⟩ :=
    @content_commentLiterals { lineEnding := .str "\r\n" } "\r\n" "  " named rfl unquoted rfl
  obtain ⟨options, content, -, whole, joined, commented, literals⟩ := comments notesTable
  obtain ⟨body, bodyText, bodyStands, bodySame⟩ := literals bodyField (by decide)
  obtain ⟨author, authorText, -, authorSame⟩ := literals authorField (by decide)
  refine ⟨named, unquoted, generator, made, options, content, whole, joined, commented,
    ⟨body, bodyText, bodyStands, fun kept => ?_⟩,
    author, authorText, authorSame.mpr (.inr (by decide))⟩
  exact absurd (bodySame.mp kept) (by decide)

/-- A line feed in a description comes out as the line ending of the settings. -/
theorem commentLiteral_broken_notes :
    ∃ generator, Kind.sql.generator { lineEnding := .str "\r\n" } {} = .ok generator ∧
      generator.content (.table { name := "notes", fields := [bodyField] }) =
        .ok ("-- Table: notes\r\nCREATE TABLE notes (\r\n  body VARCHAR(255)\r\n);\r\n\r\n" ++
          "COMMENT ON COLUMN notes.body IS " ++ "'First\r\nSecond'" ++ ";\r\n") ∧
      StandsFor "'First\r\nSecond'" "First\r\nSecond" ∧
      ¬ StandsFor "'First\r\nSecond'" bodyField.description := by
  let settings : Settings := { lineEnding := .str "\r\n" }
  have named : Dialect.ofJson settings.dialect = .ok .postgres := rfl
  obtain ⟨generator, made, contents⟩ := @exists_scriptContent settings .postgres "\r\n" named rfl
  have literal : sqlString "First\r\nSecond" = "'First\r\nSecond'" := by decide +kernel
  have written : withLineEnding "\r\n" (scriptText (.withIndent settings .postgres "  ")
      (.table { name := "notes", fields := [bodyField] })) =
      "-- Table: notes\r\nCREATE TABLE notes (\r\n  body VARCHAR(255)\r\n);\r\n\r\n" ++
        "COMMENT ON COLUMN notes.body IS " ++ "'First\r\nSecond'" ++ ";\r\n" := by
    decide +kernel
  refine ⟨generator, made, (contents _).trans (congrArg Except.ok written), ?_, ?_⟩
  · exact literal ▸ standsFor_sqlString _
  · rw [← literal, standsFor_sqlString_iff]
    decide

end SchemaArtifacts.Sql
