import Mathlib.Data.List.Forall2
import SchemaArtifacts.Artifact.Kind
import SchemaArtifacts.Proofs.Schema.FileFormat

/-!
# Field groups read back

The groups of a target are written as JSON at any indentation that a machine word counts.  Whatever
the texts of the tables and fields are, they are read back as they were: a group for each table, and
an entry for each field, in order.
-/

namespace SchemaArtifacts

open Json Text

namespace Settings

variable {settings : Settings} {size : Int}

theorem exists_layout (given : settings.indentSize = .int size) (whole : 0 ≤ size)
    (fits : size < 0x8000000000000000) : ∃ layout, settings.layout = .ok layout ∧ layout.IsBlank := by
  rw [layout, given]
  split
  · exact ⟨_, layoutOf_int whole fits, Layout.isBlank_spaces _⟩
  · exact ⟨.line, rfl, trivial⟩

end Settings

namespace FieldGroup

theorem isReadable_choices (room : Nat) (field : Field) :
    IsReadable (room + 1) (choices field) := by
  apply IsReadable.obj
  · exact @Keyed.nodup_keys_merge _ [] List.nodup_nil _
  · intro entry mem
    rcases Keyed.mem_merge mem with mem | mem
    · exact absurd mem List.not_mem_nil
    · obtain ⟨value, -, rfl⟩ := List.mem_map.mp mem
      exact .str value

theorem isReadable_fieldJson (room : Nat) (table : Table) (field : Field) :
    IsReadable (room + 2) (fieldJson table field) := by
  have wrapper : IsReadable (room + 1)
      (.obj [("width", .str ""), ("class", .str ""), ("id", .str "")]) := by
    apply IsReadable.obj
    · decide
    · simp [IsReadable.str]
  have required : IsReadable (room + 1) (.int (if field.required then 1 else 0)) := by
    split <;> exact .small (by decide)
  have length : IsReadable (room + 1) (if field.type = .string then .int 255 else .str "") := by
    split
    · exact .small (by decide)
    · exact .str ""
  apply IsReadable.obj
  · cases listed : field.enumValues <;> cases key : field.foreignKey <;>
      simp [fieldEntries, Keyed.keys, listed, key]
  · have chosen := isReadable_choices room field
    have zero : IsReadable (room + 1) (.int 0) := .small (by decide)
    have linked (name : String) : IsReadable (room + 1) (.arr [.str name]) :=
      .arr (by simp [IsReadable.str])
    cases listed : field.enumValues <;> cases key : field.foreignKey <;>
      simp [fieldEntries, listed, key, IsReadable.str, wrapper, required, length, chosen, zero,
        linked]

theorem isReadable_location {room : Nat} {parameter : Json} (readable : IsReadable room parameter)
    (table : Table) : IsReadable (room + 3) (location parameter table) := by
  refine .arr fun item mem => ?_
  rw [List.mem_singleton.mp mem]
  refine .arr fun item mem => ?_
  rw [List.mem_singleton.mp mem]
  apply IsReadable.obj
  · simp [Keyed.keys]
  · simp [IsReadable.str, readable]

theorem isReadable_groupJson {room : Nat} {parameter : Json} (readable : IsReadable room parameter)
    (table : Table) : IsReadable (room + 4) (groupJson parameter table) := by
  have fields := isReadable_map (room + 2) table.fields
    fun field _ => isReadable_fieldJson room table field
  have shown := isReadable_location readable table
  have zero : IsReadable (room + 3) (.int 0) := .small (by decide)
  apply IsReadable.obj
  · simp [Keyed.keys]
  · simp [IsReadable.str, IsReadable.bool, zero, fields, shown]

theorem isReadable_targetJson {room : Nat} {parameter : Json}
    (readable : IsReadable room parameter) (target : Target) :
    IsReadable (room + 5) (targetJson parameter target) := by
  cases target with
  | table table => exact (isReadable_groupJson readable table).succ
  | schema schema =>
      exact isReadable_map (room + 4) schema.tables fun table _ =>
        isReadable_groupJson readable table

end FieldGroup

namespace Artifact

theorem Generator.artifact_of_endsLines_eq_false {generator : Generator}
    (alone : generator.endsLines = false) {target : Target} {code : String}
    (text : generator.text target = .ok code) :
    generator.artifact target =
      .ok (.made (generator.layOut code) (targetWarnings target) (generator.details target)) := by
  have format : generator.format code = .ok (generator.layOut code) := by
    rw [Generator.format, alone]
    rfl
  have content : generator.content target = .ok (generator.layOut code) := by
    rw [Generator.content, text]
    exact format
  rw [Generator.artifact, content]

end Artifact

namespace FieldGroup

open Artifact

variable {settings : Settings} {layout : Layout}

theorem exists_generator_of_layout (given : settings.layout = .ok layout) :
    ∃ generator, Kind.acfJson.generator settings {} = .ok generator ∧ ∀ target,
      generator.artifact target =
        .ok (.made ((targetJson settings.acfLocationParam target).write layout ++ "\n")
          (targetWarnings target) (generator.details target)) := by
  obtain ⟨generator, made, alone, laidOut, text⟩ : ∃ generator,
      Kind.acfJson.generator settings {} = .ok generator ∧ generator.endsLines = false ∧
        generator.layOut = ended ∧ ∀ target, generator.text target =
          .ok ((targetJson settings.acfLocationParam target).write layout ++ "\n") := by
    refine ⟨_, rfl, rfl, rfl, fun target => ?_⟩
    simp only [given]
    rfl
  have kept (code : String) : ended (code ++ "\n") = code ++ "\n" := by simp [ended]
  refine ⟨generator, made, fun target => ?_⟩
  rw [Generator.artifact_of_endsLines_eq_false alone (text target), laidOut, kept]

theorem read_targetJson (blank : layout.IsBlank)
    (readable : IsReadable (maxNesting - 5) settings.acfLocationParam) (target : Target) :
    Json.read ((targetJson settings.acfLocationParam target).write layout ++ "\n") =
      .ok (targetJson settings.acfLocationParam target) :=
  (isReadable_targetJson readable target).read_write blank (by simp [isJsonBlank])

def quotedTable : Table where
  name := "it's \\"
  fields :=
    [{ name := "\"a\"", description := "first\nsecond\t", notes := "\x00\\", exampleValue := " " },
     { name := "", type := .enum, required := true, acfType := "radio", enumValues := ["", "'"] }]

def quotedSchema : Schema where
  name := "quoted"
  tables := [quotedTable, { name := "empty" }]

end FieldGroup

end SchemaArtifacts
