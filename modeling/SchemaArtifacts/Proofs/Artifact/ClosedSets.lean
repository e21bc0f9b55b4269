import SchemaArtifacts.Proofs.Collection.ReadBack
import SchemaArtifacts.Proofs.Interface.ReadBack
import SchemaArtifacts.Proofs.Prisma.Members

/-!
# Closed sets

Contents, interfaces and data models show a field as a closed set of values exactly if it is an enum
field that lists values.  Field groups do not look at the type: they offer the listed values of any
field.
-/

namespace SchemaArtifacts

open Naming

/-- Which fields of which tables are enum fields that list values. -/
def Target.closedSets (target : Target) : List (List Bool) :=
  target.tables.map fun table => table.fields.map fun field =>
    decide (field.type = .enum ∧ field.enumValues ≠ [])

def Target.listings (target : Target) : List (List Bool) :=
  target.tables.map fun table => table.fields.map fun field => !field.enumValues.isEmpty

theorem Field.hasEnumValues_eq (field : Field) :
    field.hasEnumValues = decide (field.type = .enum ∧ field.enumValues ≠ []) := by
  rw [Bool.eq_iff_iff]
  simp [Field.hasEnumValues]

theorem Target.closedSets_eq (target : Target) :
    target.closedSets = target.tables.map fun table => table.fields.map (·.hasEnumValues) := by
  simp only [Target.closedSets, Field.hasEnumValues_eq]

theorem Field.listing_iff {field : Field} :
    (!field.enumValues.isEmpty) = decide (field.type = .enum ∧ field.enumValues ≠ []) ↔
      field.type = .enum ∨ field.enumValues = [] := by
  by_cases enum : field.type = .enum <;> cases listed : field.enumValues <;> simp [enum]

theorem Target.listings_eq_closedSets_iff {target : Target} :
    target.listings = target.closedSets ↔
      ∀ table ∈ target.tables, ∀ field ∈ table.fields,
        field.type = .enum ∨ field.enumValues = [] := by
  simp only [Target.listings, Target.closedSets, List.map_inj_left, Field.listing_iff]

namespace Collection

def Member.isClosed (member : Member) : Bool :=
  match readExpression (member.expression ++ ",").toList with
  | some (.oneOf _, _) => true
  | _ => false

def closedSets (entries : List Definition) : List (List Bool) :=
  entries.map fun entry => entry.members.map Member.isClosed

theorem isClosed_validation (field : Field) (key : String) :
    Member.isClosed ⟨key, validation field⟩ = field.hasEnumValues := by
  have written : (validation field ++ ",").toList =
      (expression field).toList ++ (ending field.required).toList := by
    rw [← String.toList_append, validation, expression, ending, String.append_assoc]
  rw [Member.isClosed, written, readExpression_expression, expressionReading]
  cases field.hasEnumValues <;> rfl

theorem closedSets_definitions (comments : Bool) (tables : List Table) (register : Register) :
    closedSets (definitions comments tables register) =
      tables.map fun table => table.fields.map (·.hasEnumValues) := by
  induction tables generalizing register with
  | nil => rfl
  | cons table rest ih =>
      have first (identifier : String) :
          (definition comments table identifier).members.map Member.isClosed =
            table.fields.map (·.hasEnumValues) := by
        simp only [definition, List.map_map]
        exact List.map_congr_left fun field _ => isClosed_validation field _
      rw [List.map_cons, ← ih, ← first]
      rfl

end Collection

namespace Interface

def Member.isClosed (member : Member) : Bool :=
  match readType (member.type ++ ";").toList with
  | some (.union _, _) => true
  | _ => false

def closedSets (entries : List Definition) : List (List Bool) :=
  entries.map fun entry => entry.members.map Member.isClosed

theorem isClosed_member (comments : Bool) (field : Field) :
    (member comments field).isClosed = field.hasEnumValues := by
  have written : ((member comments field).type ++ ";").toList =
      (memberType field).toList ++ [';'] := String.toList_append
  rw [Member.isClosed, written, readType_memberType, typeReading]
  cases field.hasEnumValues <;> rfl

theorem closedSets_definitions (comments : Bool) (tables : List Table) (register : Register) :
    closedSets (definitions comments tables register) =
      tables.map fun table => table.fields.map (·.hasEnumValues) := by
  induction tables generalizing register with
  | nil => rfl
  | cons table rest ih =>
      have first (identifier : String) :
          (definition comments table identifier).members.map Member.isClosed =
            table.fields.map (·.hasEnumValues) := by
        simp only [definition, List.map_map]
        exact List.map_congr_left fun field _ => isClosed_member comments field
      rw [List.map_cons, ← ih, ← first]
      rfl

end Interface

namespace FieldGroup

def groups : Json → List Json
  | .arr items => items
  | group => [group]

def entries (group : Json) : List Json := ((group.member "fields").items?).getD []

def offersChoices (entry : Json) : Bool := (entry.obj?.map (Keyed.has · "choices")).getD false

def closedSets (json : Json) : List (List Bool) :=
  (groups json).map fun group => (entries group).map offersChoices

theorem offersChoices_fieldJson (table : Table) (field : Field) :
    offersChoices (fieldJson table field) = !field.enumValues.isEmpty := by
  cases listed : field.enumValues <;> cases key : field.foreignKey <;>
    simp [offersChoices, fieldJson, fieldEntries, Json.obj?, Keyed.has, listed, key]

theorem entries_groupJson (parameter : Json) (table : Table) :
    entries (groupJson parameter table) = table.fields.map (fieldJson table) := rfl

theorem closedSets_groups (parameter : Json) (tables : List Table) :
    (tables.map (groupJson parameter)).map (fun group => (entries group).map offersChoices) =
      tables.map fun table => table.fields.map fun field => !field.enumValues.isEmpty := by
  rw [List.map_map]
  refine List.map_congr_left fun table _ => ?_
  simp only [Function.comp_apply, entries_groupJson, List.map_map]
  exact List.map_congr_left fun field _ => offersChoices_fieldJson table field

theorem closedSets_targetJson (parameter : Json) (target : Target) :
    closedSets (targetJson parameter target) = target.listings := by
  cases target with
  | table table => exact closedSets_groups parameter [table]
  | schema schema => exact closedSets_groups parameter schema.tables

end FieldGroup

namespace Artifact

/--
What the generators show as closed sets.  Contents and interfaces show the enum fields that list
values, and a data model has one enum for each of them, in order, with its values.  Field groups
show the fields that list values, so they agree with the others exactly on targets where only enum
fields do.
-/
theorem closed_sets_shown (settings : Settings) (target : Target) :
    (∃ generator entries, Kind.contentConfig.generator settings {} = .ok generator ∧
      generator.text target =
        .ok (Collection.endedLines (Collection.moduleLines (Collection.title target) entries)) ∧
      Collection.closedSets entries = target.closedSets) ∧
    (∃ generator entries, Kind.typescript.generator settings {} = .ok generator ∧
      generator.text target =
        .ok (Collection.endedLines (Interface.moduleLines target.name entries)) ∧
      Interface.closedSets entries = target.closedSets) ∧
    (∃ generator models enums, Kind.prisma.generator settings {} = .ok generator ∧
      (∀ source, Prisma.Source.ofSettings settings = .ok source → generator.text target =
        .ok (Collection.endedLines (Prisma.fileLines target.name source models enums))) ∧
      enums.map (·.values) = Prisma.enumMembers (target.tables.flatMap (·.fields))) ∧
    ∃ generator json, Kind.acfJson.generator settings {} = .ok generator ∧
      (∀ layout, settings.layout = .ok layout →
        generator.text target = .ok (json.write layout ++ "\n")) ∧
      FieldGroup.closedSets json = target.listings ∧
      (FieldGroup.closedSets json = target.closedSets ↔
        ∀ table ∈ target.tables, ∀ field ∈ table.fields,
          field.type = .enum ∨ field.enumValues = []) := by
  refine ⟨⟨_, _, rfl, rfl, ?_⟩, ⟨_, _, rfl, rfl, ?_⟩, ?_, ?_⟩
  · rw [Collection.closedSets_definitions, Target.closedSets_eq]
  · rw [Interface.closedSets_definitions, Target.closedSets_eq]
  · let written := Prisma.models (showsComments settings) target.tables Register.forModels
    refine ⟨_, written.1, written.2, rfl, fun source given => ?_, Prisma.values_models ..⟩
    simp only [given]
    rfl
  · have listed := FieldGroup.closedSets_targetJson settings.acfLocationParam target
    refine ⟨_, FieldGroup.targetJson settings.acfLocationParam target, rfl, fun layout given => ?_,
      listed, ?_⟩
    · simp only [given]
      rfl
    · rw [listed]
      exact Target.listings_eq_closedSets_iff

def sizedItems : Table where
  name := "items"
  fields := [{ name := "size", enumValues := ["S", "M"] }]

/-- Only the field group offers the listed values of a field that is no enum field. -/
theorem closed_sets_differ_sizedItems :
    Collection.closedSets (Collection.definitions true [sizedItems] Register.forScripts) =
        [[false]] ∧
      Interface.closedSets (Interface.definitions true [sizedItems] Register.forScripts) =
        [[false]] ∧
      (Prisma.models true [sizedItems] Register.forModels).2 = [] ∧
      FieldGroup.closedSets (FieldGroup.targetJson (.str "post_type") (.table sizedItems)) =
        [[true]] :=
  ⟨Collection.closedSets_definitions .., Interface.closedSets_definitions .., rfl,
    FieldGroup.closedSets_targetJson ..⟩

end Artifact

end SchemaArtifacts
