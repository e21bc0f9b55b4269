import SchemaArtifacts.Proofs.Schema.DependencyOrder
import SchemaArtifacts.Proofs.Sql.Catalogue
import SchemaArtifacts.Sql.Script

/-!
# The script of a schema

The statements of a schema's script executed in order, from no tables at all: each table is created
once, no statement alters a table before it is created, and foreign keys that are added refer to
tables that exist.  Foreign keys inside of table definitions do so as far as references form no
cycle.
-/

namespace SchemaArtifacts.Sql

def dropStatements (options : Options) (schema : Schema) : List Statement :=
  if options.dropTables then schema.tables.map (dropTable options) else []

def attachments (options : Options) (table : Table) : List Statement :=
  columnComments options table ++ createIndexes options table ++ rowSecurity options table

def definitionAndAttachments (options : Options) (table : Table) : List Statement :=
  createTable options table :: attachments options table

@[simp] theorem statements_append (first second : Script) :
    Script.statements (first ++ second) = first.statements ++ second.statements :=
  List.flatMap_append

@[simp] theorem statements_cons (part : Section) (rest : Script) :
    Script.statements (part :: rest) = part.statements ++ rest.statements :=
  List.flatMap_cons

@[simp] theorem statements_ofStatements (remarks : List String) (statements : List Statement) :
    Script.statements (Section.ofStatements remarks statements) = statements := by
  cases statements with
  | nil => rfl
  | cons statement rest => simp [Section.ofStatements, Script.statements]

theorem statements_tableSections (options : Options) (table : Table) :
    Script.statements (tableSections options table false) =
      definitionAndAttachments options table := by
  simp [tableSections, definitionAndAttachments, attachments]

theorem statements_schemaScript (options : Options) (schema : Schema) :
    (schemaScript options schema).statements =
      dropStatements options schema ++
        (schema.dependencyOrder.tables.flatMap (definitionAndAttachments options) ++
          schema.dependencyOrder.tables.flatMap (addReferences options)) := by
  have sections : ∀ tables : List Table,
      Script.statements (tables.flatMap fun table => tableSections options table false) =
        tables.flatMap (definitionAndAttachments options) := by
    intro tables
    induction tables with
    | nil => rfl
    | cons table rest ih =>
        rw [List.flatMap_cons, statements_append, statements_tableSections, ih, List.flatMap_cons]
  simp [schemaScript, sections, dropStatements]

section Attachments

variable {options : Options} {table : Table} {statement : Statement}

theorem mem_columnComments (mem : statement ∈ columnComments options table) :
    ∃ column text, statement = .commentOn table.name column text := by
  simp only [columnComments] at mem
  split at mem
  · obtain ⟨field, -, rfl⟩ := List.mem_map.mp mem
    exact ⟨field.name, field.description, rfl⟩
  · cases mem

theorem mem_createIndexes (mem : statement ∈ createIndexes options table) :
    ∃ name ifAbsent column method,
      statement = .createIndex name ifAbsent table.name column method := by
  obtain ⟨field, -, held⟩ := List.mem_filterMap.mp mem
  obtain ⟨kind, -, rfl⟩ := Option.map_eq_some_iff.mp held
  exact ⟨_, _, _, _, rfl⟩

theorem mem_rowSecurity (mem : statement ∈ rowSecurity options table) :
    statement = .enableRowSecurity table.name ∨
      ∃ name condition, statement = .createPolicy name table.name condition := by
  simp only [rowSecurity] at mem
  split at mem
  · rcases List.mem_cons.mp mem with enabling | policy
    · exact .inl enabling
    · obtain ⟨field, -, held⟩ := List.mem_filterMap.mp policy
      obtain ⟨condition, -, rfl⟩ := Option.map_eq_some_iff.mp held
      exact .inr ⟨_, _, rfl⟩
  · cases mem

theorem attachment_cases (mem : statement ∈ attachments options table) :
    (∃ column text, statement = .commentOn table.name column text) ∨
      (∃ name ifAbsent column method,
        statement = .createIndex name ifAbsent table.name column method) ∨
      statement = .enableRowSecurity table.name ∨
      ∃ name condition, statement = .createPolicy name table.name condition := by
  simp only [attachments, List.mem_append] at mem
  rcases mem with (comment | index) | security
  · exact .inl (mem_columnComments comment)
  · exact .inr (.inl (mem_createIndexes index))
  · exact .inr (.inr (mem_rowSecurity security))

end Attachments

theorem attachment_altered? {options : Options} {table : Table} {statement : Statement}
    (mem : statement ∈ attachments options table) : statement.altered? = some table.name := by
  rcases attachment_cases mem with ⟨_, _, rfl⟩ | ⟨_, _, _, _, rfl⟩ | rfl | ⟨_, _, rfl⟩ <;> rfl

theorem attachment_created? {options : Options} {table : Table} {statement : Statement}
    (mem : statement ∈ attachments options table) : statement.created? = none := by
  rcases attachment_cases mem with ⟨_, _, rfl⟩ | ⟨_, _, _, _, rfl⟩ | rfl | ⟨_, _, rfl⟩ <;> rfl

theorem attachment_addedReference? {options : Options} {table : Table} {statement : Statement}
    (mem : statement ∈ attachments options table) : statement.addedReference? = none := by
  rcases attachment_cases mem with ⟨_, _, rfl⟩ | ⟨_, _, _, _, rfl⟩ | rfl | ⟨_, _, rfl⟩ <;> rfl

theorem mem_addReferences {options : Options} {table : Table} {statement : Statement}
    (mem : statement ∈ addReferences options table) :
    ∃ name reference, statement = .addReference table.name name reference := by
  simp only [addReferences] at mem
  split at mem
  · cases mem
  · obtain ⟨reference, -, rfl⟩ := List.mem_map.mp mem
    exact ⟨_, reference, rfl⟩

theorem mem_dropStatements {options : Options} {schema : Schema} {statement : Statement}
    (mem : statement ∈ dropStatements options schema) :
    ∃ table cascading, statement = .dropTable table cascading := by
  simp only [dropStatements] at mem
  split at mem
  · obtain ⟨table, -, rfl⟩ := List.mem_map.mp mem
    exact ⟨table.name, _, rfl⟩
  · cases mem

theorem mem_tableReferences {table : Table} {reference : Reference} :
    reference ∈ tableReferences table ↔
      ∃ field ∈ table.fields, ∃ key, field.foreignKey = some key ∧
        reference = ⟨field.name, key⟩ := by
  simp only [tableReferences, List.mem_filterMap, Option.map_eq_some_iff]
  constructor
  · rintro ⟨field, hfield, key, held, rfl⟩
    exact ⟨field, hfield, key, held, rfl⟩
  · rintro ⟨field, hfield, key, held, rfl⟩
    exact ⟨field, hfield, key, held, rfl⟩

/-! ## Phases of a script -/

def createdNames (tables : List Table) : Catalogue := (tables.map (·.name)).reverse

theorem createdNames_concat (tables : List Table) (table : Table) :
    createdNames (tables ++ [table]) = table.name :: createdNames tables := by
  simp [createdNames]

theorem mem_createdNames {tables : List Table} {name : String} :
    name ∈ createdNames tables ↔ ∃ table ∈ tables, table.name = name := by
  simp [createdNames]

theorem attachments_keep (options : Options) (table : Table) (catalogue : Catalogue) :
    Keeps catalogue (attachments options table) :=
  keeps_of_altered? fun statement mem => by simp [attachment_altered? mem]

theorem addReferences_keep (options : Options) (tables : List Table) (catalogue : Catalogue) :
    Keeps catalogue (tables.flatMap (addReferences options)) := by
  apply keeps_of_altered?
  intro statement mem
  obtain ⟨table, -, added⟩ := List.mem_flatMap.mp mem
  obtain ⟨name, reference, rfl⟩ := mem_addReferences added
  simp [Statement.altered?]

theorem dropStatements_keep (options : Options) (schema : Schema) :
    Keeps [] (dropStatements options schema) := by
  intro statement mem
  obtain ⟨table, cascading, rfl⟩ := mem_dropStatements mem
  rfl

theorem execute_createTable (options : Options) {table : Table} {catalogue : Catalogue}
    (absent : table.name ∉ catalogue) :
    (createTable options table).execute catalogue = table.name :: catalogue :=
  if_neg absent

theorem executeAll_definitionAndAttachments (options : Options) {table : Table}
    {catalogue : Catalogue} (absent : table.name ∉ catalogue) :
    executeAll catalogue (definitionAndAttachments options table) = table.name :: catalogue := by
  rw [definitionAndAttachments, executeAll, List.foldl_cons, execute_createTable options absent]
  exact (attachments_keep options table _).executeAll_eq

theorem not_mem_createdNames {before rest : List Table} {table : Table}
    (distinct : ((before ++ table :: rest).map (·.name)).Nodup) :
    table.name ∉ createdNames before := by
  intro mem
  obtain ⟨other, hother, same⟩ := mem_createdNames.mp mem
  rw [List.map_append] at distinct
  exact (List.nodup_append.mp distinct).2.2 other.name (List.mem_map_of_mem hother) table.name
    (by simp) same

theorem executeAll_definitions (options : Options) {before rest : List Table}
    (distinct : ((before ++ rest).map (·.name)).Nodup) :
    executeAll (createdNames before) (rest.flatMap (definitionAndAttachments options)) =
      createdNames (before ++ rest) := by
  induction rest generalizing before with
  | nil => simp [executeAll]
  | cons table rest ih =>
      have absent := not_mem_createdNames distinct
      rw [List.flatMap_cons, executeAll_append,
        executeAll_definitionAndAttachments options absent, ← createdNames_concat,
        ih (by simpa using distinct)]
      simp

/--
What holds of each table's definition where exactly the tables before it exist, and of its
attachments where the table exists, holds throughout the definitions.
-/
theorem throughout_definitions {holds : Catalogue → Statement → Prop} (options : Options)
    {before rest : List Table} (distinct : ((before ++ rest).map (·.name)).Nodup)
    (creation : ∀ earlier table later, before ++ rest = earlier ++ table :: later →
      holds (createdNames earlier) (createTable options table))
    (attachment : ∀ catalogue table, table.name ∈ catalogue →
      ∀ statement ∈ attachments options table, holds catalogue statement) :
    Throughout holds (createdNames before) (rest.flatMap (definitionAndAttachments options)) := by
  induction rest generalizing before with
  | nil => trivial
  | cons table rest ih =>
      have absent := not_mem_createdNames distinct
      rw [List.flatMap_cons, throughout_append,
        executeAll_definitionAndAttachments options absent]
      refine ⟨⟨creation before table rest rfl, ?_⟩, ?_⟩
      · rw [execute_createTable options absent]
        exact (attachments_keep options table _).throughout
          (attachment _ table List.mem_cons_self)
      · rw [← createdNames_concat]
        apply ih
        · simpa using distinct
        · intro earlier other later split
          exact creation earlier other later (by simpa using split)

theorem throughout_schemaScript {holds : Catalogue → Statement → Prop} (options : Options)
    {schema : Schema} (distinct : schema.HasDistinctNames)
    (dropping : ∀ table cascading, holds [] (.dropTable table cascading))
    (creation : ∀ earlier table later,
      schema.dependencyOrder.tables = earlier ++ table :: later →
        holds (createdNames earlier) (createTable options table))
    (attachment : ∀ catalogue table, table.name ∈ catalogue →
      ∀ statement ∈ attachments options table, holds catalogue statement)
    (adding : ∀ table ∈ schema.tables, ∀ name reference,
      holds (createdNames schema.dependencyOrder.tables)
        (.addReference table.name name reference)) :
    Throughout holds [] (schemaScript options schema).statements := by
  have ordered : (([] ++ schema.dependencyOrder.tables).map Table.name).Nodup :=
    (schema.dependencyOrder_perm.map Table.name).nodup_iff.mpr distinct
  have all : executeAll []
      (schema.dependencyOrder.tables.flatMap (definitionAndAttachments options)) =
        createdNames schema.dependencyOrder.tables :=
    executeAll_definitions options ordered
  rw [statements_schemaScript, throughout_append, throughout_append,
    (dropStatements_keep options schema).executeAll_eq, all]
  refine ⟨?_, ?_, ?_⟩
  · apply (dropStatements_keep options schema).throughout
    intro statement mem
    obtain ⟨table, cascading, rfl⟩ := mem_dropStatements mem
    exact dropping table cascading
  · exact throughout_definitions options ordered creation attachment
  · apply (addReferences_keep options _ _).throughout
    intro statement mem
    obtain ⟨table, hordered, added⟩ := List.mem_flatMap.mp mem
    obtain ⟨name, reference, rfl⟩ := mem_addReferences added
    exact adding table (schema.dependencyOrder_perm.mem_iff.mp hordered) name reference

theorem executeAll_schemaScript (options : Options) {schema : Schema}
    (distinct : schema.HasDistinctNames) :
    executeAll [] (schemaScript options schema).statements =
      createdNames schema.dependencyOrder.tables := by
  have ordered : (([] ++ schema.dependencyOrder.tables).map Table.name).Nodup :=
    (schema.dependencyOrder_perm.map Table.name).nodup_iff.mpr distinct
  rw [statements_schemaScript, executeAll_append, executeAll_append,
    (dropStatements_keep options schema).executeAll_eq]
  exact (addReferences_keep options _ _).executeAll_eq.trans
    (executeAll_definitions options ordered)

/-! ## Statements that create tables -/

theorem filter_creates_eq_nil {statements : List Statement}
    (none : ∀ statement ∈ statements, statement.created? = none) :
    statements.filter Statement.creates = [] := by
  rw [List.filter_eq_nil_iff]
  intro statement mem
  simp [Statement.creates, none statement mem]

theorem filter_creates_definitions (options : Options) (tables : List Table) :
    (tables.flatMap (definitionAndAttachments options)).filter Statement.creates =
      tables.map (createTable options) := by
  induction tables with
  | nil => rfl
  | cons table rest ih =>
      have others : (attachments options table).filter Statement.creates = [] :=
        filter_creates_eq_nil fun _ mem => attachment_created? mem
      have self : (createTable options table).creates = true := rfl
      rw [List.flatMap_cons, List.filter_append, ih, definitionAndAttachments,
        List.filter_cons_of_pos self, others, List.map_cons, List.singleton_append]

theorem filter_creates_schemaScript (options : Options) (schema : Schema) :
    (schemaScript options schema).statements.filter Statement.creates =
      schema.dependencyOrder.tables.map (createTable options) := by
  have drops : (dropStatements options schema).filter Statement.creates = [] := by
    apply filter_creates_eq_nil
    intro statement mem
    obtain ⟨table, cascading, rfl⟩ := mem_dropStatements mem
    rfl
  have added : (schema.dependencyOrder.tables.flatMap (addReferences options)).filter
      Statement.creates = [] := by
    apply filter_creates_eq_nil
    intro statement mem
    obtain ⟨table, -, hadded⟩ := List.mem_flatMap.mp mem
    obtain ⟨name, reference, rfl⟩ := mem_addReferences hadded
    rfl
  rw [statements_schemaScript, List.filter_append, List.filter_append, drops, added,
    filter_creates_definitions, List.nil_append, List.append_nil]

theorem mem_createdNames_dependencyOrder {schema : Schema} {name : String} :
    name ∈ createdNames schema.dependencyOrder.tables ↔ name ∈ schema.tables.map (·.name) := by
  simp [mem_createdNames, schema.dependencyOrder_perm.mem_iff]

theorem reference_mem_createdNames {schema : Schema} {earlier later : List Table} {table : Table}
    (ordered : schema.dependencyOrder.tables = earlier ++ table :: later)
    (respects : schema.Respects schema.dependencyOrder.tables) {reference : Reference}
    (mem : reference ∈ tableReferences table)
    (inside : reference.key.table ∈ schema.tables.map (·.name)) :
    reference.key.table = table.name ∨ reference.key.table ∈ createdNames earlier := by
  by_cases self : reference.key.table = table.name
  · exact .inl self
  · obtain ⟨target, htarget, named⟩ := List.mem_map.mp inside
    obtain ⟨field, hfield, key, held, rfl⟩ := mem_tableReferences.mp mem
    have inOrder : ∀ other, other ∈ schema.tables ↔ other ∈ earlier ++ table :: later := by
      intro other
      rw [← ordered, schema.dependencyOrder_perm.mem_iff]
    have refers : schema.Refers table target :=
      ⟨(inOrder table).mpr (by simp), htarget, by rwa [named],
        field, hfield, by simp [held, named]⟩
    rw [Schema.Respects, ordered] at respects
    have notLater : target ∉ later := fun late =>
      List.rel_of_pairwise_cons (List.pairwise_append.mp respects).2.1 late refers
    have early : target ∈ earlier := by
      rcases List.mem_append.mp ((inOrder target).mp htarget) with early | late
      · exact early
      · rcases List.mem_cons.mp late with same | late
        · exact absurd (congrArg Table.name same) refers.2.2.1
        · exact absurd late notLater
    exact .inr (mem_createdNames.mpr ⟨target, early, named⟩)

section Throughout

variable (options : Options) {schema : Schema} (distinct : schema.HasDistinctNames)
include distinct

theorem throughout_createsAbsent :
    Throughout Statement.CreatesAbsent [] (schemaScript options schema).statements := by
  apply throughout_schemaScript options distinct
  · intro _ _ _ created
    cases created
  · intro earlier table later ordered name created
    cases created
    have whole : ((earlier ++ table :: later).map (·.name)).Nodup := by
      rw [← ordered]
      exact (schema.dependencyOrder_perm.map Table.name).nodup_iff.mpr distinct
    exact not_mem_createdNames whole
  · intro _ _ _ statement mem name created
    rw [attachment_created? mem] at created
    cases created
  · intro _ _ _ _ _ created
    cases created

theorem throughout_altersPresent :
    Throughout Statement.AltersPresent [] (schemaScript options schema).statements := by
  apply throughout_schemaScript options distinct
  · intro _ _ _ altered
    cases altered
  · intro _ _ _ _ _ altered
    cases altered
  · intro catalogue table present statement mem name altered
    rw [attachment_altered? mem] at altered
    cases altered
    exact present
  · intro table mem _ _ name altered
    cases altered
    exact mem_createdNames_dependencyOrder.mpr (List.mem_map_of_mem mem)

theorem throughout_addsToPresent :
    Throughout (Statement.AddsToPresent (schema.tables.map (·.name))) []
      (schemaScript options schema).statements := by
  apply throughout_schemaScript options distinct
  · intro _ _ _ added
    cases added
  · intro _ _ _ _ _ added
    cases added
  · intro _ _ _ statement mem reference added
    rw [attachment_addedReference? mem] at added
    cases added
  · intro _ _ _ _ _ _ inside
    exact mem_createdNames_dependencyOrder.mpr inside

theorem throughout_inlinesPresent (acyclic : schema.IsAcyclic) :
    Throughout (Statement.InlinesPresent (schema.tables.map (·.name))) []
      (schemaScript options schema).statements := by
  apply throughout_schemaScript options distinct
  · intro _ _ _ created
    cases created
  · intro earlier table later ordered name created reference mem inside
    cases created
    have respects := schema.dependencyOrder_respects distinct acyclic
    refine reference_mem_createdNames ordered respects ?_ inside
    simp only [createTable, Statement.inlineReferences] at mem
    split at mem
    · exact mem
    · cases mem
  · intro _ _ _ statement mem name created
    rw [attachment_created? mem] at created
    cases created
  · intro _ _ _ _ _ created
    cases created

end Throughout

theorem exists_addReference_mem {options : Options} {schema : Schema}
    (outside : options.dialect ≠ .sqlite) {table : Table} (mem : table ∈ schema.tables)
    {reference : Reference} (held : reference ∈ tableReferences table) :
    ∃ name, .addReference table.name name reference ∈ (schemaScript options schema).statements := by
  refine ⟨constraintName table.name reference.column, ?_⟩
  rw [statements_schemaScript]
  apply List.mem_append_right
  apply List.mem_append_right
  rw [List.mem_flatMap]
  refine ⟨table, schema.dependencyOrder_perm.mem_iff.mpr mem, ?_⟩
  simp only [addReferences, Dialect.inlinesForeignKeys, outside, decide_false]
  exact List.mem_map_of_mem held

/--
Executed from no tables at all, the script of a schema creates every table once, each where it does
not exist, and alters none that does not exist.  Where foreign keys are added, each key of each
table is, and its table exists if it is of the schema; where they stand inside of the definitions
and form no cycle, the table that a key refers to is the same or exists.
-/
theorem schemaScript_executes (options : Options) (schema : Schema)
    (distinct : schema.HasDistinctNames) :
    ((schemaScript options schema).statements.filter Statement.creates).Perm
      (schema.tables.map (createTable options)) ∧
    (executeAll [] (schemaScript options schema).statements).Perm (schema.tables.map (·.name)) ∧
    Throughout Statement.CreatesAbsent [] (schemaScript options schema).statements ∧
    Throughout Statement.AltersPresent [] (schemaScript options schema).statements ∧
    (options.dialect ≠ .sqlite →
      (∀ table ∈ schema.tables, ∀ reference ∈ tableReferences table, ∃ name,
        .addReference table.name name reference ∈ (schemaScript options schema).statements) ∧
      Throughout (Statement.AddsToPresent (schema.tables.map (·.name))) []
        (schemaScript options schema).statements) ∧
    (options.dialect = .sqlite → schema.IsAcyclic →
      Throughout (Statement.InlinesPresent (schema.tables.map (·.name))) []
        (schemaScript options schema).statements) := by
  refine ⟨?_, ?_, throughout_createsAbsent options distinct,
    throughout_altersPresent options distinct, ?_, ?_⟩
  · rw [filter_creates_schemaScript]
    exact schema.dependencyOrder_perm.map _
  · rw [executeAll_schemaScript options distinct]
    exact (List.reverse_perm _).trans (schema.dependencyOrder_perm.map _)
  · intro outside
    exact ⟨fun _ mem _ held => exists_addReference_mem outside mem held,
      throughout_addsToPresent options distinct⟩
  · intro _ acyclic
    exact throughout_inlinesPresent options distinct acyclic

theorem schemaScript_executes_forwardSchema :
    Schema.forwardSchema.HasDistinctNames ∧ Schema.forwardSchema.IsAcyclic ∧
    Throughout (Statement.InlinesPresent ["orders", "users", "teams"]) []
      (schemaScript { dialect := .sqlite } Schema.forwardSchema).statements ∧
    Throughout (Statement.AddsToPresent ["orders", "users", "teams"]) []
      (schemaScript { dialect := .postgres } Schema.forwardSchema).statements := by
  have distinct := Schema.forwardSchema_hasDistinctNames
  have acyclic := Schema.forwardSchema_isAcyclic
  have inlined := (schemaScript_executes { dialect := .sqlite } Schema.forwardSchema distinct)
  have added := (schemaScript_executes { dialect := .postgres } Schema.forwardSchema distinct)
  exact ⟨distinct, acyclic, inlined.2.2.2.2.2 rfl acyclic, (added.2.2.2.2.1 (by decide)).2⟩

end SchemaArtifacts.Sql
