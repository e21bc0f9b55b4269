import SchemaArtifacts.Proofs.Schema.JoinedNames
import SchemaArtifacts.Proofs.Sql.Noninterference

/-!
# Names of indexes and constraints

A script names each index and each foreign key that it adds after the table and the field.  Nothing
keeps these names apart but the names that they are derived from.
-/

namespace SchemaArtifacts.Sql

namespace Statement

def indexName? : Statement → Option String
  | createIndex name _ _ _ _ => some name
  | _ => none

def constraintName? : Statement → Option String
  | addReference _ name _ => some name
  | _ => none

end Statement

section Tables

variable (options : Options) (table : Table)

theorem filterMap_indexName?_createIndexes :
    (createIndexes options table).filterMap Statement.indexName? =
      (table.fields.filter (·.index.isSome)).map fun field => indexName table.name field.name := by
  rw [createIndexes]
  induction table.fields with
  | nil => rfl
  | cons field rest ih => cases indexed : field.index <;> simp [indexed, ih, Statement.indexName?]

theorem filterMap_indexName?_definitionAndAttachments :
    (definitionAndAttachments options table).filterMap Statement.indexName? =
      (table.fields.filter (·.index.isSome)).map fun field => indexName table.name field.name := by
  have comments : (columnComments options table).filterMap Statement.indexName? = [] := by
    rw [columnComments]
    split <;> simp [Statement.indexName?]
  have policies : (rowSecurity options table).filterMap Statement.indexName? = [] := by
    rw [rowSecurity]
    split
    · simp only [Statement.indexName?, List.filterMap_cons, List.filterMap_eq_nil_iff,
        List.mem_filterMap, Option.map_eq_some_iff]
      rintro _ ⟨field, -, condition, -, rfl⟩
      rfl
    · rfl
  have creation : (createTable options table).indexName? = none := rfl
  rw [definitionAndAttachments, List.filterMap_cons_none creation, attachments,
    List.filterMap_append, List.filterMap_append, comments, policies,
    filterMap_indexName?_createIndexes, List.nil_append, List.append_nil]

theorem filterMap_indexName?_addReferences :
    (addReferences options table).filterMap Statement.indexName? = [] := by
  rw [List.filterMap_eq_nil_iff]
  intro statement mem
  obtain ⟨name, reference, rfl⟩ := mem_addReferences mem
  rfl

theorem filterMap_constraintName?_definitionAndAttachments :
    (definitionAndAttachments options table).filterMap Statement.constraintName? = [] := by
  rw [List.filterMap_eq_nil_iff]
  intro statement mem
  rcases List.mem_cons.mp mem with rfl | attached
  · rfl
  · rcases attachment_cases attached with ⟨_, _, rfl⟩ | ⟨_, _, _, _, rfl⟩ | rfl | ⟨_, _, rfl⟩ <;>
      rfl

theorem filterMap_constraintName?_addReferences :
    (addReferences options table).filterMap Statement.constraintName? =
      if options.dialect.inlinesForeignKeys then []
      else (table.fields.filter (·.foreignKey.isSome)).map fun field =>
        constraintName table.name field.name := by
  rw [addReferences]
  split
  · rfl
  · rw [tableReferences]
    induction table.fields with
    | nil => rfl
    | cons field rest ih =>
        cases key : field.foreignKey <;> simp_all [Statement.constraintName?]

end Tables

section Schemas

variable (options : Options) (schema : Schema)

theorem filterMap_schemaScript {held? : Statement → Option String}
    (dropped : ∀ table cascading, held? (.dropTable table cascading) = none) :
    (schemaScript options schema).statements.filterMap held? =
      (schema.dependencyOrder.tables.flatMap fun table =>
          (definitionAndAttachments options table).filterMap held?) ++
        schema.dependencyOrder.tables.flatMap fun table =>
          (addReferences options table).filterMap held? := by
  have drops : (dropStatements options schema).filterMap held? = [] := by
    rw [List.filterMap_eq_nil_iff]
    intro statement mem
    obtain ⟨table, cascading, rfl⟩ := mem_dropStatements mem
    exact dropped _ cascading
  rw [statements_schemaScript, List.filterMap_append, List.filterMap_append, drops,
    List.nil_append, List.filterMap_flatMap, List.filterMap_flatMap]

theorem flatMap_nothing (tables : List Table) :
    (tables.flatMap fun _ => ([] : List String)) = [] :=
  List.flatMap_eq_nil_iff.mpr fun _ _ => rfl

theorem indexNames_perm :
    ((schemaScript options schema).statements.filterMap Statement.indexName?).Perm
      ((schema.markedNames (·.index.isSome)).map fun pair => indexName pair.1 pair.2) := by
  rw [filterMap_schemaScript options schema fun _ _ => rfl, Schema.markedNames, List.map_flatMap]
  simp only [filterMap_indexName?_definitionAndAttachments, filterMap_indexName?_addReferences,
    flatMap_nothing, List.append_nil, List.map_map]
  exact schema.dependencyOrder_perm.flatMap_right _

theorem constraintNames_perm :
    ((schemaScript options schema).statements.filterMap Statement.constraintName?).Perm
      (if options.dialect.inlinesForeignKeys then []
        else (schema.markedNames (·.foreignKey.isSome)).map fun pair =>
          constraintName pair.1 pair.2) := by
  rw [filterMap_schemaScript options schema fun _ _ => rfl]
  simp only [filterMap_constraintName?_definitionAndAttachments, flatMap_nothing,
    List.nil_append, filterMap_constraintName?_addReferences]
  split
  · rw [flatMap_nothing]
  · rw [Schema.markedNames, List.map_flatMap]
    simp only [List.map_map]
    exact schema.dependencyOrder_perm.flatMap_right _

end Schemas

open Artifact

/--
Where tables and the fields of each table have distinct names, the indexes of a script have distinct
names exactly if no names of indexed fields join alike, and the foreign keys that it adds exactly
if no names of fields with foreign keys do.  Dialects that hold foreign keys inside of tables do not
name them.
-/
theorem derived_names_differ_iff {settings : Settings} {dialect : Dialect}
    (named : Dialect.ofJson settings.dialect = .ok dialect) :
    ∃ generator, Kind.sql.generator settings {} = .ok generator ∧
      ∀ schema : Schema, schema.HasDistinctNames → schema.HasDistinctFields →
        ∀ options, Options.ofSettings settings dialect schema.tables = .ok options →
          generator.text (.schema schema) =
              .ok ((schemaScript options schema).render options.style) ∧
            (((schemaScript options schema).statements.filterMap Statement.indexName?).Nodup ↔
              ¬ schema.JoinsAlike (·.index.isSome)) ∧
            (((schemaScript options schema).statements.filterMap Statement.constraintName?).Nodup ↔
              dialect.inlinesForeignKeys = true ∨ ¬ schema.JoinsAlike (·.foreignKey.isSome)) := by
  obtain ⟨generator, made, written⟩ := exists_sqlGenerator named
  refine ⟨generator, made, fun schema names fields options given => ⟨?_, ?_, ?_⟩⟩
  · have whole := written (.schema schema)
    rw [Target.tables, given] at whole
    exact whole
  · rw [(indexNames_perm options schema).nodup_iff]
    exact schema.nodup_joined_iff names fields _ "idx_"
  · obtain rfl := dialect_ofSettings given
    rw [(constraintNames_perm options schema).nodup_iff]
    split
    case isTrue inlines => simp [inlines]
    case isFalse adds =>
        have apart := schema.nodup_joined_iff names fields (·.foreignKey.isSome) "fk_"
        exact apart.trans (by simp [adds])

def postsSchema : Schema where
  name := "blog"
  tables :=
    [{ name := "users", fields := [{ name := "email", index := some .btree }] },
     { name := "posts"
       fields :=
        [{ name := "author_id", index := some .btree, foreignKey := some ⟨"users", "id"⟩ },
         { name := "editor_id", foreignKey := some ⟨"users", "id"⟩ }] }]

theorem derived_names_differ_iff_postsSchema :
    Dialect.ofJson (.str "postgres") = .ok .postgres ∧
      ∃ generator, Kind.sql.generator { dialect := .str "postgres" } {} = .ok generator ∧
        postsSchema.HasDistinctNames ∧ postsSchema.HasDistinctFields ∧
        ∃ options,
          Options.ofSettings { dialect := .str "postgres" } .postgres postsSchema.tables =
              .ok options ∧
            generator.text (.schema postsSchema) =
              .ok ((schemaScript options postsSchema).render options.style) ∧
            ((schemaScript options postsSchema).statements.filterMap Statement.indexName?).Nodup ∧
            ((schemaScript options postsSchema).statements.filterMap
              Statement.constraintName?).Nodup := by
  have named : Dialect.ofJson (.str "postgres") = .ok .postgres := rfl
  have names : postsSchema.HasDistinctNames := by decide
  have fields : postsSchema.HasDistinctFields := by decide
  have apart (marked : Field → Bool) : ¬ postsSchema.JoinsAlike marked :=
    Schema.not_joinsAlike_of_not_prefix (by decide)
  obtain ⟨generator, made, differ⟩ :=
    @derived_names_differ_iff { dialect := .str "postgres" } _ named
  obtain ⟨text, indexes, constraints⟩ := differ postsSchema names fields _ rfl
  exact ⟨named, generator, made, names, fields, _, rfl, text, indexes.mpr (apart _),
    constraints.mpr (.inr (apart _))⟩

def rolesSchema : Schema where
  name := "shop"
  tables :=
    [{ name := "user"
       fields := [{ name := "role_id", index := some .btree, foreignKey := some ⟨"roles", "id"⟩ }] },
     { name := "user_role"
       fields := [{ name := "id", index := some .btree, foreignKey := some ⟨"roles", "id"⟩ }] }]

/-- Both indexes are named alike, and so are both foreign keys where they are named. -/
theorem derived_names_rolesSchema :
    rolesSchema.HasDistinctNames ∧ rolesSchema.HasDistinctFields ∧
      ¬ ((schemaScript { dialect := .sqlite } rolesSchema).statements.filterMap
        Statement.indexName?).Nodup ∧
      ¬ ((schemaScript { dialect := .postgres } rolesSchema).statements.filterMap
        Statement.constraintName?).Nodup := by
  have indexes : (schemaScript { dialect := .sqlite } rolesSchema).statements.filterMap
      Statement.indexName? = ["idx_user_role_id", "idx_user_role_id"] := rfl
  have constraints : (schemaScript { dialect := .postgres } rolesSchema).statements.filterMap
      Statement.constraintName? = ["fk_user_role_id", "fk_user_role_id"] := rfl
  rw [indexes, constraints]
  decide

end SchemaArtifacts.Sql
