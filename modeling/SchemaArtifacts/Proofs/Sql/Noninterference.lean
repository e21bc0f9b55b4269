import SchemaArtifacts.Artifact.Kind
import SchemaArtifacts.Proofs.Schema.Agreement
import SchemaArtifacts.Proofs.Sql.SchemaScript

/-!
# What a script depends on

Outside of the dialect that comments columns and secures rows, a script shows of a field only its
column and its index.  Targets that agree on these, with indexes that the dialect writes alike, have
the same script.
-/

namespace SchemaArtifacts.Sql

def SameIndexed (first second : Option IndexKind) : Prop := first.isSome = second.isSome

/-- Moreover both of the indexes or neither are binary trees. -/
def SameTrees (first second : Option IndexKind) : Prop :=
  SameIndexed first second ∧ (first = some .btree ↔ second = some .btree)

def Dialect.WritesAlike (dialect : Dialect)
    (sameIndex : Option IndexKind → Option IndexKind → Prop) : Prop :=
  ∀ first second, sameIndex first second →
    first.map dialect.indexMethod = second.map dialect.indexMethod

theorem writesAlike_sqlite : Dialect.sqlite.WritesAlike SameIndexed := by
  intro first second same
  cases first <;> cases second <;> simp_all [SameIndexed, Dialect.indexMethod]

theorem writesAlike_mysql : Dialect.mysql.WritesAlike SameTrees := by
  rintro first second ⟨same, trees⟩
  cases first with
  | none =>
      cases second with
      | none => rfl
      | some kind => simp [SameIndexed] at same
  | some kind =>
      cases second with
      | none => simp [SameIndexed] at same
      | some other => cases kind <;> cases other <;> simp_all [Dialect.indexMethod]

section Tables

variable {sameIndex : Option IndexKind → Option IndexKind → Prop} (options : Options)

theorem column_eq_of_agrees (dialect : Dialect) {first second : Field}
    (agree : first.Agrees sameIndex second) : column dialect first = column dialect second := by
  simp only [column, columnType, agree.name, agree.type, agree.sqlType, agree.sqlDefault,
    agree.required, agree.unique, agree.primaryKey]

theorem columnComments_eq_nil (plain : options.dialect ≠ .postgres) (table : Table) :
    columnComments options table = [] := by
  simp [columnComments, Dialect.commentsColumns, plain]

theorem rowSecurity_eq_nil (plain : options.dialect ≠ .postgres) (table : Table) :
    rowSecurity options table = [] := by
  simp [rowSecurity, Dialect.securesRows, plain]

variable {first second : Table} (agree : first.Agrees sameIndex second)
include agree

theorem tableReferences_eq_of_agrees : tableReferences first = tableReferences second :=
  filterMap_eq_of_forall₂ agree.fields fun _ _ same => by rw [same.foreignKey, same.name]

theorem createTable_eq_of_agrees : createTable options first = createTable options second := by
  have columns := map_eq_of_forall₂ agree.fields fun _ _ same =>
    column_eq_of_agrees options.dialect same
  rw [createTable, createTable, columns, tableReferences_eq_of_agrees agree, agree.name]

theorem createIndexes_eq_of_agrees (alike : options.dialect.WritesAlike sameIndex) :
    createIndexes options first = createIndexes options second := by
  apply filterMap_eq_of_forall₂ agree.fields
  intro field other same
  have method := alike _ _ same.index
  rw [agree.name, same.name]
  cases indexed : field.index <;> cases indexed' : other.index <;> simp_all

theorem addReferences_eq_of_agrees :
    addReferences options first = addReferences options second := by
  rw [addReferences, addReferences, tableReferences_eq_of_agrees agree, agree.name]

theorem dropTable_eq_of_agrees : dropTable options first = dropTable options second := by
  rw [dropTable, dropTable, agree.name]

theorem tableSections_eq_of_agrees (plain : options.dialect ≠ .postgres)
    (alike : options.dialect.WritesAlike sameIndex) (withReferences : Bool) :
    tableSections options first withReferences = tableSections options second withReferences := by
  simp only [tableSections, tableRemarks, agree.name, agree.description,
    createTable_eq_of_agrees options agree, createIndexes_eq_of_agrees options agree alike,
    addReferences_eq_of_agrees options agree, columnComments_eq_nil options plain,
    rowSecurity_eq_nil options plain]

end Tables

section Scripts

variable {sameIndex : Option IndexKind → Option IndexKind → Prop}

theorem schemaScript_eq_of_agrees {options : Options} (plain : options.dialect ≠ .postgres)
    (alike : options.dialect.WritesAlike sameIndex) {first second : Schema}
    (agree : first.Agrees sameIndex second) :
    schemaScript options first = schemaScript options second := by
  have ordered := agree.dependencyOrder
  have drops := map_eq_of_forall₂ agree.tables fun _ _ same => dropTable_eq_of_agrees options same
  have sections := flatMap_eq_of_forall₂ ordered fun _ _ same =>
    tableSections_eq_of_agrees options same plain alike false
  have added := flatMap_eq_of_forall₂ ordered fun _ _ same =>
    addReferences_eq_of_agrees options same
  simp only [schemaScript, schemaRemarks, drops, sections, added, agree.name, agree.version,
    agree.description]

theorem script_eq_of_agrees {options : Options} (plain : options.dialect ≠ .postgres)
    (alike : options.dialect.WritesAlike sameIndex) {first second : Target}
    (agree : first.Agrees sameIndex second) : script options first = script options second := by
  cases agree with
  | table same => exact tableSections_eq_of_agrees options same plain alike true
  | schema same => exact schemaScript_eq_of_agrees plain alike same

theorem ofSettings_eq_of_length (settings : Settings) (dialect : Dialect)
    {first second : List Table} (lengths : first.length = second.length) :
    Options.ofSettings settings dialect first = Options.ofSettings settings dialect second := by
  have empty : first.isEmpty = second.isEmpty := by
    rw [Bool.eq_iff_iff, List.isEmpty_iff_length_eq_zero, List.isEmpty_iff_length_eq_zero, lengths]
  simp only [Options.ofSettings, empty]

theorem length_tables_of_agrees {first second : Target} (agree : first.Agrees sameIndex second) :
    first.tables.length = second.tables.length := by
  cases agree with
  | table => rfl
  | schema same => exact same.tables.length_eq

theorem dialect_ofSettings {settings : Settings} {dialect : Dialect} {tables : List Table}
    {options : Options} (given : Options.ofSettings settings dialect tables = .ok options) :
    options.dialect = dialect := by
  simp only [Options.ofSettings] at given
  split at given
  · cases given
    rfl
  · cases indent : settings.indent with
    | error fault => simp [indent, bind, Except.bind] at given
    | ok unit =>
        simp only [indent, bind, Except.bind, pure, Except.pure, Except.ok.injEq] at given
        rw [← given]

end Scripts

open Artifact

theorem exists_sqlGenerator {settings : Settings} {dialect : Dialect}
    (named : Dialect.ofJson settings.dialect = .ok dialect) :
    ∃ generator, Kind.sql.generator settings {} = .ok generator ∧
      ∀ target, generator.text target =
        (Options.ofSettings settings dialect target.tables).map (scriptText · target) := by
  refine ⟨_, by simp only [Kind.generator, sqlGenerator, named]; rfl, ?_⟩
  intro target
  rfl

theorem text_eq_of_script_eq {settings : Settings} {dialect : Dialect} {generator : Generator}
    (written : ∀ target, generator.text target =
      (Options.ofSettings settings dialect target.tables).map (scriptText · target))
    {first second : Target} (lengths : first.tables.length = second.tables.length)
    (scripts : ∀ options : Options, options.dialect = dialect →
      script options first = script options second) :
    generator.text first = generator.text second := by
  rw [written, written, ofSettings_eq_of_length settings dialect lengths]
  cases given : Options.ofSettings settings dialect second.tables with
  | error fault => rfl
  | ok options => simp only [Except.map, scriptText, scripts options (dialect_ofSettings given)]

theorem text_eq_of_agrees {settings : Settings} {dialect : Dialect} {generator : Generator}
    (written : ∀ target, generator.text target =
      (Options.ofSettings settings dialect target.tables).map (scriptText · target))
    (plain : dialect ≠ .postgres) {sameIndex : Option IndexKind → Option IndexKind → Prop}
    (alike : dialect.WritesAlike sameIndex) {first second : Target}
    (agree : first.Agrees sameIndex second) : generator.text first = generator.text second := by
  apply text_eq_of_script_eq written (length_tables_of_agrees agree)
  rintro options rfl
  exact script_eq_of_agrees plain alike agree

/-- A statement that drops or creates a table or creates an index. -/
def Statement.isPlain : Statement → Bool
  | dropTable _ _ => true
  | createTable _ _ _ _ => true
  | createIndex _ _ _ _ _ => true
  | _ => false

theorem isPlain_of_mem_tableSections {options : Options} (sqlite : options.dialect = .sqlite)
    {table : Table} {withReferences : Bool} {statement : Statement}
    (mem : statement ∈ Script.statements (tableSections options table withReferences)) :
    statement.isPlain = true := by
  have plain : options.dialect ≠ .postgres := by simp [sqlite]
  have inlined : addReferences options table = [] := by
    simp [addReferences, Dialect.inlinesForeignKeys, sqlite]
  simp only [tableSections, inlined, ite_self, columnComments_eq_nil options plain,
    rowSecurity_eq_nil options plain, statements_cons, statements_append, statements_ofStatements,
    List.nil_append, List.append_nil, List.singleton_append, List.mem_cons] at mem
  rcases mem with rfl | index
  · rfl
  · obtain ⟨_, _, _, _, rfl⟩ := mem_createIndexes index
    rfl

theorem isPlain_of_mem_script {options : Options} (sqlite : options.dialect = .sqlite)
    {target : Target} {statement : Statement}
    (mem : statement ∈ (script options target).statements) : statement.isPlain = true := by
  cases target with
  | table table => exact isPlain_of_mem_tableSections sqlite mem
  | schema schema =>
      rw [script, statements_schemaScript, List.mem_append, List.mem_append] at mem
      rcases mem with dropped | defined | added
      · obtain ⟨table, cascading, rfl⟩ := mem_dropStatements dropped
        rfl
      · obtain ⟨table, -, mem⟩ := List.mem_flatMap.mp defined
        rw [← statements_tableSections] at mem
        exact isPlain_of_mem_tableSections sqlite mem
      · obtain ⟨table, -, mem⟩ := List.mem_flatMap.mp added
        simp [addReferences, Dialect.inlinesForeignKeys, sqlite] at mem

/--
The scripts of agreeing targets are the same for SQLite as soon as the same fields have an index,
and for MySQL if also the same of these are binary trees; policies, descriptions of fields, other
kinds of indexes and what fields hold besides do not show.  A script for SQLite drops and creates
tables and creates indexes and does nothing else.
-/
theorem scripts_of_agreeing_targets {settings : Settings} {dialect : Dialect}
    (named : Dialect.ofJson settings.dialect = .ok dialect) :
    ∃ generator, Kind.sql.generator settings {} = .ok generator ∧
      (dialect = .sqlite → ∀ first second : Target, first.Agrees SameIndexed second →
        generator.text first = generator.text second ∧
          generator.content first = generator.content second) ∧
      (dialect = .mysql → ∀ first second : Target, first.Agrees SameTrees second →
        generator.text first = generator.text second ∧
          generator.content first = generator.content second) ∧
      (dialect = .sqlite → ∀ (target : Target) (text : String), generator.text target = .ok text →
        ∃ options, text = (script options target).render options.style ∧
          ∀ statement ∈ (script options target).statements, statement.isPlain = true) := by
  obtain ⟨generator, made, written⟩ := exists_sqlGenerator named
  have same {first second : Target} (texts : generator.text first = generator.text second) :
      generator.text first = generator.text second ∧
        generator.content first = generator.content second :=
    ⟨texts, by rw [Generator.content, Generator.content, texts]⟩
  refine ⟨generator, made, ?_, ?_, ?_⟩
  · rintro rfl first second agree
    exact same (text_eq_of_agrees written (by decide) writesAlike_sqlite agree)
  · rintro rfl first second agree
    exact same (text_eq_of_agrees written (by decide) writesAlike_mysql agree)
  · rintro rfl target text made
    rw [written] at made
    cases given : Options.ofSettings settings .sqlite target.tables with
    | error fault => simp [given, Except.map] at made
    | ok options =>
        simp only [given, Except.map, Except.ok.injEq] at made
        refine ⟨options, made.symm, ?_⟩
        intro statement mem
        exact isPlain_of_mem_script (dialect_ofSettings given) mem

def securedTable : Table where
  name := "notes"
  fields :=
    [{ name := "id", type := .uuid, primaryKey := true, description := "Key of the note" },
     { name := "body", type := .json, rowPolicy := some "auth.uid() = id", index := some .gin },
     { name := "author", foreignKey := some ⟨"users", "id"⟩, index := some .btree }]

def openTable : Table where
  name := "notes"
  notes := "For everyone"
  fields :=
    [{ name := "id", type := .uuid, primaryKey := true },
     { name := "body", type := .json, index := some .gist, description := "What it says" },
     { name := "author", foreignKey := some ⟨"users", "id"⟩, index := some .btree }]

theorem securedTable_agrees {sameIndex : Option IndexKind → Option IndexKind → Prop}
    (absent : sameIndex none none) (inverted : sameIndex (some .gin) (some .gist))
    (trees : sameIndex (some .btree) (some .btree)) : securedTable.Agrees sameIndex openTable where
  name := rfl
  description := rfl
  fields :=
    .cons ⟨rfl, rfl, rfl, rfl, rfl, rfl, rfl, rfl, absent⟩
      (.cons ⟨rfl, rfl, rfl, rfl, rfl, rfl, rfl, rfl, inverted⟩
        (.cons ⟨rfl, rfl, rfl, rfl, rfl, rfl, rfl, rfl, trees⟩ .nil))

theorem scripts_of_agreeing_targets_notes :
    Dialect.ofJson (.str " MariaDB ") = .ok .mysql ∧ Dialect.ofJson (.str "sqlite") = .ok .sqlite ∧
      (∃ generator, Kind.sql.generator { dialect := .str " MariaDB " } {} = .ok generator ∧
        generator.content (.table securedTable) = generator.content (.table openTable)) ∧
      ∃ generator, Kind.sql.generator { dialect := .str "sqlite" } {} = .ok generator ∧
        generator.content (.table securedTable) = generator.content (.table openTable) := by
  have mysql : Dialect.ofJson (.str " MariaDB ") = .ok .mysql := rfl
  have sqlite : Dialect.ofJson (.str "sqlite") = .ok .sqlite := rfl
  refine ⟨mysql, sqlite, ?_, ?_⟩
  · obtain ⟨generator, made, -, alike, -⟩ :=
      @scripts_of_agreeing_targets { dialect := .str " MariaDB " } _ mysql
    have agree : securedTable.Agrees SameTrees openTable :=
      securedTable_agrees ⟨rfl, by decide⟩ ⟨rfl, by decide⟩ ⟨rfl, by decide⟩
    exact ⟨generator, made, (alike rfl _ _ (.table agree)).2⟩
  · obtain ⟨generator, made, alike, -⟩ :=
      @scripts_of_agreeing_targets { dialect := .str "sqlite" } _ sqlite
    have agree : securedTable.Agrees SameIndexed openTable := securedTable_agrees rfl rfl rfl
    exact ⟨generator, made, (alike rfl _ _ (.table agree)).2⟩

end SchemaArtifacts.Sql
