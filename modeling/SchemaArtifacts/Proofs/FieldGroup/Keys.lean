import SchemaArtifacts.Proofs.Artifact.ClosedSets
import SchemaArtifacts.Proofs.FieldGroup.ReadBack
import SchemaArtifacts.Proofs.Schema.JoinedNames

/-!
# Keys of fields

An import takes entries with the same key for the same field.  The key of a field joins the names
of its table and of the field, so that keys differ just where no such names join alike.
-/

namespace SchemaArtifacts.FieldGroup

open Artifact Json

/-- The keys of all fields in the groups of a target, in order. -/
def fieldKeys (json : Json) : List Json :=
  (groups json).flatMap fun group => (entries group).map (·.member "key")

theorem fieldKeys_targetJson (parameter : Json) (schema : Schema) :
    fieldKeys (targetJson parameter (.schema schema)) =
      ((schema.markedNames fun _ => true).map fun pair =>
        "field_" ++ pair.1 ++ "_" ++ pair.2).map Json.str := by
  have keys (table : Table) : (entries (groupJson parameter table)).map (·.member "key") =
      table.fields.map fun field => .str ("field_" ++ table.name ++ "_" ++ field.name) := by
    rw [entries_groupJson, List.map_map]
    rfl
  have written : groups (targetJson parameter (.schema schema)) =
      schema.tables.map (groupJson parameter) := rfl
  simp only [fieldKeys, written, List.flatMap_map, keys, Schema.markedNames, List.map_flatMap,
    List.map_map, List.filter_true]
  rfl

/--
Where tables and the fields of each table have distinct names, the exported groups are read back
with a key of its own for every field exactly if no names of tables and fields join alike.
-/
theorem field_keys_differ_iff {settings : Settings} {layout : Layout}
    (given : settings.layout = .ok layout) (blank : layout.IsBlank)
    (readable : IsReadable (maxNesting - 5) settings.acfLocationParam) :
    ∃ generator, Kind.acfJson.generator settings {} = .ok generator ∧
      ∀ schema : Schema, schema.HasDistinctNames → schema.HasDistinctFields →
        ∃ content json,
          generator.artifact (.schema schema) =
            .ok (.made content (targetWarnings (.schema schema))
              (generator.details (.schema schema))) ∧
          Json.read content = .ok json ∧
          ((fieldKeys json).Nodup ↔ ¬ schema.JoinsAlike fun _ => true) := by
  obtain ⟨generator, made, generated⟩ := exists_generator_of_layout given
  refine ⟨generator, made, fun schema names fields => ⟨_, _, generated _,
    read_targetJson blank readable _, ?_⟩⟩
  have injective : Function.Injective Json.str := fun _ _ same => Json.str.inj same
  rw [fieldKeys_targetJson, List.nodup_map_iff injective]
  exact schema.nodup_joined_iff names fields _ "field_"

def teamSchema : Schema where
  name := "team"
  tables :=
    [{ name := "user", fields := [{ name := "name" }, { name := "role" }] },
     { name := "user_role", fields := [{ name := "name" }, { name := "id" }] }]

theorem field_keys_differ_iff_teamSchema :
    ∃ layout, ({} : Settings).layout = .ok layout ∧ layout.IsBlank ∧
      IsReadable (maxNesting - 5) (.str "post_type") ∧
      teamSchema.HasDistinctNames ∧ teamSchema.HasDistinctFields ∧
      ∃ generator content json, Kind.acfJson.generator {} {} = .ok generator ∧
        generator.artifact (.schema teamSchema) =
          .ok (.made content (targetWarnings (.schema teamSchema))
            (generator.details (.schema teamSchema))) ∧
        Json.read content = .ok json ∧ (fieldKeys json).Nodup := by
  obtain ⟨layout, given, blank⟩ :=
    @Settings.exists_layout {} 2 rfl (by decide) (by decide)
  have readable : IsReadable (maxNesting - 5) (.str "post_type") := .str _
  have names : teamSchema.HasDistinctNames := by decide
  have fields : teamSchema.HasDistinctFields := by decide
  have apart : ¬ teamSchema.JoinsAlike fun _ => true :=
    (teamSchema.nodup_joined_iff names fields _ "").mp (by decide)
  obtain ⟨generator, made, exported⟩ := field_keys_differ_iff given blank readable
  obtain ⟨content, json, generated, read, differ⟩ := exported teamSchema names fields
  exact ⟨layout, given, blank, readable, names, fields, generator, content, json, made, generated,
    read, differ.mpr apart⟩

def rolesSchema : Schema where
  name := "shop"
  tables :=
    [{ name := "user", fields := [{ name := "role_id" }] },
     { name := "user_role", fields := [{ name := "id" }] }]

/-- Fields of both tables have the same key. -/
theorem field_keys_rolesSchema :
    rolesSchema.HasDistinctNames ∧ rolesSchema.HasDistinctFields ∧
      ∃ generator content json, Kind.acfJson.generator {} {} = .ok generator ∧
        generator.artifact (.schema rolesSchema) =
          .ok (.made content (targetWarnings (.schema rolesSchema))
            (generator.details (.schema rolesSchema))) ∧
        Json.read content = .ok json ∧
        fieldKeys json = [.str "field_user_role_id", .str "field_user_role_id"] := by
  obtain ⟨layout, given, blank⟩ :=
    @Settings.exists_layout {} 2 rfl (by decide) (by decide)
  obtain ⟨generator, made, generated⟩ := exists_generator_of_layout given
  refine ⟨by decide, by decide, generator, _, _, made, generated _,
    read_targetJson blank (.str _) _, ?_⟩
  rw [fieldKeys_targetJson]
  rfl

end SchemaArtifacts.FieldGroup
