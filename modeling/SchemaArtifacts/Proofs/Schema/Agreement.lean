import Mathlib.Data.List.Forall2
import SchemaArtifacts.Proofs.Schema.ParallelOrders

/-!
# Targets that agree

Two targets agree when they have the same tables with the same columns, as far as the definition
of a table shows them.  What their fields hold besides may differ, their indexes as far as a
relation allows.  Agreeing schemas are put into agreeing orders.
-/

namespace SchemaArtifacts

/-- Fields that define the same column, with indexes that are related. -/
structure Field.Agrees (sameIndex : Option IndexKind → Option IndexKind → Prop)
    (first second : Field) : Prop where
  name : first.name = second.name
  type : first.type = second.type
  sqlType : first.sqlType = second.sqlType
  sqlDefault : first.sqlDefault = second.sqlDefault
  required : first.required = second.required
  unique : first.unique = second.unique
  primaryKey : first.primaryKey = second.primaryKey
  foreignKey : first.foreignKey = second.foreignKey
  index : sameIndex first.index second.index

structure Table.Agrees (sameIndex : Option IndexKind → Option IndexKind → Prop)
    (first second : Table) : Prop where
  name : first.name = second.name
  description : first.description = second.description
  fields : List.Forall₂ (Field.Agrees sameIndex) first.fields second.fields

structure Schema.Agrees (sameIndex : Option IndexKind → Option IndexKind → Prop)
    (first second : Schema) : Prop where
  name : first.name = second.name
  version : first.version = second.version
  description : first.description = second.description
  tables : List.Forall₂ (Table.Agrees sameIndex) first.tables second.tables

inductive Target.Agrees (sameIndex : Option IndexKind → Option IndexKind → Prop) :
    Target → Target → Prop
  | table {first second : Table} :
      Table.Agrees sameIndex first second → Agrees sameIndex (.table first) (.table second)
  | schema {first second : Schema} :
      Schema.Agrees sameIndex first second → Agrees sameIndex (.schema first) (.schema second)

section Related

variable {α β γ : Type} {related : α → β → Prop} {first : List α} {second : List β}

theorem map_eq_of_forall₂ (all : List.Forall₂ related first second) {f : α → γ} {g : β → γ}
    (same : ∀ a b, related a b → f a = g b) : first.map f = second.map g := by
  have images : List.Forall₂ Eq (first.map f) (second.map g) := List.rel_map same all
  rwa [List.forall₂_eq_eq_eq] at images

theorem filterMap_eq_of_forall₂ (all : List.Forall₂ related first second) {f : α → Option γ}
    {g : β → Option γ} (same : ∀ a b, related a b → f a = g b) :
    first.filterMap f = second.filterMap g := by
  have images := congrArg (List.filterMap id) (map_eq_of_forall₂ all same)
  simpa [List.filterMap_map] using images

theorem flatMap_eq_of_forall₂ (all : List.Forall₂ related first second) {f : α → List γ}
    {g : β → List γ} (same : ∀ a b, related a b → f a = g b) :
    first.flatMap f = second.flatMap g := by
  rw [List.flatMap_def, List.flatMap_def, map_eq_of_forall₂ all same]

end Related

namespace Schema

variable {sameIndex : Option IndexKind → Option IndexKind → Prop}

theorem references_eq_of_agrees {first second : Table} (agree : first.Agrees sameIndex second)
    (names : List String) : references names first = references names second := by
  have keys : first.fields.filterMap (fun field => field.foreignKey.map (·.table)) =
      second.fields.filterMap (fun field => field.foreignKey.map (·.table)) :=
    filterMap_eq_of_forall₂ agree.fields fun _ _ same => by rw [same.foreignKey]
  rw [references, references, keys, agree.name]

theorem Agrees.dependencyOrder {first second : Schema} (agree : first.Agrees sameIndex second) :
    List.Forall₂ (Table.Agrees sameIndex) first.dependencyOrder.tables
      second.dependencyOrder.tables :=
  dependencyOrder_of_forall₂
    (fun _ _ same => ⟨same.name, references_eq_of_agrees same⟩) agree.tables

end Schema

end SchemaArtifacts
