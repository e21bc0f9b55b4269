import Mathlib.Data.List.Perm.Basic
import SchemaArtifacts.Proofs.Sql.Noninterference

/-!
# Scripts of single tables

The script of a schema has the statements of its tables' own scripts and, besides, those that drop
tables.  It has them in another order: tables come after the ones they refer to, and foreign keys
are added at the end.  Names that occur twice and references that form a cycle make no difference.
-/

namespace SchemaArtifacts.Sql

def Statement.drops : Statement → Bool
  | dropTable _ _ => true
  | _ => false

theorem drops_eq_false_of_altered? {statement : Statement} {name : String}
    (alters : statement.altered? = some name) : statement.drops = false := by
  cases statement with
  | dropTable => cases alters
  | _ => rfl

section Tables

variable (options : Options)

theorem statements_tableScript (table : Table) :
    (tableScript options table).statements =
      createTable options table :: (columnComments options table ++ createIndexes options table ++
        addReferences options table ++ rowSecurity options table) := by
  simp [tableScript, tableSections]

theorem definitionAndAttachments_append_perm (table : Table) :
    (definitionAndAttachments options table ++ addReferences options table).Perm
      (tableScript options table).statements := by
  rw [statements_tableScript, definitionAndAttachments, attachments, List.cons_append,
    List.append_assoc _ (rowSecurity options table),
    List.append_assoc _ (addReferences options table)]
  exact (List.perm_append_comm.append_left _).cons _

theorem drops_of_mem_definitionAndAttachments {table : Table} {statement : Statement}
    (mem : statement ∈ definitionAndAttachments options table) : statement.drops = false := by
  rcases List.mem_cons.mp mem with rfl | attached
  · rfl
  · exact drops_eq_false_of_altered? (attachment_altered? attached)

theorem drops_of_mem_addReferences {table : Table} {statement : Statement}
    (mem : statement ∈ addReferences options table) : statement.drops = false := by
  obtain ⟨name, reference, rfl⟩ := mem_addReferences mem
  rfl

theorem filter_drops_dropStatements (schema : Schema) :
    (dropStatements options schema).filter (!·.drops) = [] := by
  rw [List.filter_eq_nil_iff]
  intro statement mem
  obtain ⟨table, cascading, rfl⟩ := mem_dropStatements mem
  simp [Statement.drops]

theorem filter_drops_flatMap {statements : Table → List Statement} (tables : List Table)
    (kept : ∀ table, ∀ statement ∈ statements table, statement.drops = false) :
    (tables.flatMap statements).filter (!·.drops) = tables.flatMap statements := by
  rw [List.filter_eq_self]
  intro statement mem
  obtain ⟨table, -, mem⟩ := List.mem_flatMap.mp mem
  simp [kept table statement mem]

theorem filter_drops_schemaScript (schema : Schema) :
    (schemaScript options schema).statements.filter (!·.drops) =
      schema.dependencyOrder.tables.flatMap (definitionAndAttachments options) ++
        schema.dependencyOrder.tables.flatMap (addReferences options) := by
  rw [statements_schemaScript, List.filter_append, List.filter_append,
    filter_drops_dropStatements, List.nil_append,
    filter_drops_flatMap _ fun _ _ => drops_of_mem_definitionAndAttachments options,
    filter_drops_flatMap _ fun _ _ => drops_of_mem_addReferences options]

theorem schemaScript_perm_tableScripts (schema : Schema) :
    ((schemaScript options schema).statements.filter (!·.drops)).Perm
      (schema.tables.flatMap fun table => (tableScript options table).statements) := by
  rw [filter_drops_schemaScript]
  exact (List.flatMap_append_perm _ _ _).trans
    (schema.dependencyOrder_perm.flatMap fun table _ =>
      definitionAndAttachments_append_perm options table)

end Tables

open Artifact

theorem ofSettings_of_mem {settings : Settings} {dialect : Dialect} {tables : List Table}
    {table : Table} (mem : table ∈ tables) :
    Options.ofSettings settings dialect [table] = Options.ofSettings settings dialect tables := by
  have nonempty : tables.isEmpty = false := by
    cases tables with
    | nil => cases mem
    | cons first rest => rfl
  simp [Options.ofSettings, nonempty]

theorem ofSettings_error {settings : Settings} {dialect : Dialect} {tables : List Table}
    {fault : Fault} (refused : Options.ofSettings settings dialect tables = .error fault) :
    tables ≠ [] ∧ settings.indent = .error fault := by
  cases tables with
  | nil => cases refused
  | cons table rest =>
      refine ⟨List.cons_ne_nil table rest, ?_⟩
      cases indent : settings.indent with
      | ok unit =>
          simp [Options.ofSettings, indent, bind, Except.bind, pure, Except.pure] at refused
      | error cause => simpa [Options.ofSettings, indent, bind, Except.bind] using refused

/--
One generator writes the script of a schema and of each of its tables, with the same options.  But
for the statements that drop tables, the statements of the schema's script are those of the tables'
scripts, as often as there.  No script is written only where a table is to be indented and the
settings have no indent.
-/
theorem schemaText_statements {settings : Settings} {dialect : Dialect}
    (named : Dialect.ofJson settings.dialect = .ok dialect) :
    ∃ generator, Kind.sql.generator settings {} = .ok generator ∧ ∀ schema : Schema,
      (∃ fault, schema.tables ≠ [] ∧ settings.indent = .error fault ∧
        generator.text (.schema schema) = .error fault ∧
        ∀ table ∈ schema.tables, generator.text (.table table) = .error fault) ∨
      ∃ options, Options.ofSettings settings dialect schema.tables = .ok options ∧
        generator.text (.schema schema) =
          .ok ((schemaScript options schema).render options.style) ∧
        (∀ table ∈ schema.tables, generator.text (.table table) =
          .ok ((tableScript options table).render options.style)) ∧
        ((schemaScript options schema).statements.filter (!·.drops)).Perm
          (schema.tables.flatMap fun table => (tableScript options table).statements) := by
  obtain ⟨generator, made, written⟩ := exists_sqlGenerator named
  refine ⟨generator, made, fun schema => ?_⟩
  have alone : ∀ table ∈ schema.tables, generator.text (.table table) =
      (Options.ofSettings settings dialect schema.tables).map (scriptText · (.table table)) := by
    intro table mem
    rw [written, Target.tables, ofSettings_of_mem mem]
  have whole := written (.schema schema)
  rw [Target.tables] at whole
  cases given : Options.ofSettings settings dialect schema.tables with
  | error fault =>
      obtain ⟨nonempty, missing⟩ := ofSettings_error given
      rw [given] at whole alone
      exact .inl ⟨fault, nonempty, missing, whole, alone⟩
  | ok options =>
      rw [given] at whole alone
      exact .inr ⟨options, rfl, whole, alone, schemaScript_perm_tableScripts options schema⟩

def cyclicSchema : Schema where
  name := "cyclic"
  tables :=
    [{ name := "people"
       fields :=
        [{ name := "team", foreignKey := some ⟨"teams", "id"⟩, index := some .btree },
         { name := "name", description := "As written", rowPolicy := some "true" }] },
     { name := "teams", fields := [{ name := "head", foreignKey := some ⟨"people", "id"⟩ }] },
     { name := "people", fields := [{ name := "id", primaryKey := true }] }]

theorem schemaText_statements_cyclicSchema :
    Dialect.ofJson (.str "postgres") = .ok .postgres ∧
    ∃ generator, Kind.sql.generator { dialect := .str "postgres" } {} = .ok generator ∧
      ∃ options, Options.ofSettings { dialect := .str "postgres" } .postgres cyclicSchema.tables =
          .ok options ∧
        generator.text (.schema cyclicSchema) =
          .ok ((schemaScript options cyclicSchema).render options.style) ∧
        ((schemaScript options cyclicSchema).statements.filter (!·.drops)).Perm
          (cyclicSchema.tables.flatMap fun table => (tableScript options table).statements) := by
  have named : Dialect.ofJson (.str "postgres") = .ok .postgres := rfl
  obtain ⟨generator, made, agree⟩ :=
    @schemaText_statements { dialect := .str "postgres" } _ named
  refine ⟨named, generator, made, ?_⟩
  rcases agree cyclicSchema with ⟨fault, -, missing, -⟩ | ⟨options, given, whole, -, same⟩
  · cases missing
  · exact ⟨options, given, whole, same⟩

end SchemaArtifacts.Sql
