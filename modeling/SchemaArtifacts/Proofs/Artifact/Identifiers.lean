import SchemaArtifacts.Interface
import SchemaArtifacts.Page
import SchemaArtifacts.Proofs.Naming.Initials
import SchemaArtifacts.Proofs.Prisma.Names

/-!
# Identifiers made from table names

Interfaces, collections, the entries of pages and models are given identifiers made from the names
of their tables.  These are written with plain letters, digits and underscores and are never empty,
but they start with a digit if that is the first letter or digit of the name.
-/

namespace SchemaArtifacts.Artifact

open Naming Text

/-- Plain letters, digits and underscores, of which the first is no digit. -/
def IsIdentifier (s : String) : Prop :=
  s ≠ "" ∧ IsPlain s.toList ∧ ∀ c ∈ s.toList.head?, isAsciiDigit c = false

instance (s : String) : Decidable (IsIdentifier s) :=
  have : Decidable (∀ c ∈ s.toList.head?, isAsciiDigit c = false) :=
    Option.decidableForallMem s.toList.head?
  inferInstanceAs (Decidable (s ≠ "" ∧ IsPlain s.toList ∧ _))

/-- What a name is made into: plain characters, and an identifier unless the first letter or digit
of the name is a digit. -/
structure IsMadeFrom (name s : String) : Prop where
  nonempty : s ≠ ""
  plain : IsPlain s.toList
  isIdentifier_iff : IsIdentifier s ↔ isAsciiDigit (firstSign name) = false

theorem isMadeFrom_of_isShownBy {request : Request} {s : String} (shown : request.IsShownBy s) :
    IsMadeFrom request.name s := by
  have nonempty : s ≠ "" := by
    rintro rfl
    cases shown.starts
  refine ⟨nonempty, shown.plain, ?_⟩
  have digit := isAsciiDigit_initial request.style (isSign_firstSign request.name)
  simp only [IsIdentifier, shown.starts, Option.mem_some_iff, forall_eq', digit]
  exact ⟨fun valid => valid.2.2, fun valid => ⟨nonempty, shown.plain, valid⟩⟩

theorem names_interfaces (comments : Bool) (tables : List Table) (register : Register) :
    (Interface.definitions comments tables register).map (·.name) =
      register.issueAll (tables.map fun table => { name := table.name, style := .pascal }) := by
  induction tables generalizing register with
  | nil => rfl
  | cons table rest ih => exact congrArg _ (ih _)

theorem variables_collections (comments : Bool) (tables : List Table) (register : Register) :
    (Collection.definitions comments tables register).map (·.variable_) =
      (register.issueAll (tables.map fun table => { name := table.name, style := .camel })).map
        (· ++ "Collection") := by
  induction tables generalizing register with
  | nil => rfl
  | cons table rest ih => exact congrArg _ (ih _)

theorem isShownBy_of_names {comments : Bool} {tables : List Table} {name identifier : String}
    (named : Prisma.Names (Prisma.fileRegister comments tables) name identifier) :
    (Prisma.nameRequest name).IsShownBy identifier := by
  refine @Register.Holds.isShownBy _ Register.forModels _ (fun request mem => ?_) rfl _ named
  obtain ⟨asked, -, rfl⟩ := List.mem_map.mp mem
  exact ⟨CaseStyle.noConfusion, rfl⟩

theorem isShownBy_scriptNames {style : CaseStyle} (noKebab : style ≠ .kebab) (tables : List Table) :
    List.Forall₂ (fun (table : Table) name => Request.IsShownBy { name := table.name, style } name)
      tables
      (Register.forScripts.issueAll (tables.map fun table => { name := table.name, style })) := by
  have usual : ∀ request ∈ tables.map fun table => ({ name := table.name, style } : Request),
      request.IsUsual := by
    intro request mem
    obtain ⟨table, -, rfl⟩ := List.mem_map.mp mem
    exact ⟨noKebab, rfl⟩
  have shown := @Register.isShownBy_issueAll Register.forScripts _ usual
  exact List.forall₂_map_left_iff.mp shown

/--
The name of each interface and of each model, and the variables of each collection and of the
entries of each page are made from the name of the table: they are identifiers, but for a digit in
front that the name has as its first letter or digit.
-/
theorem identifiers_of_tables (comments : Bool) (tables : List Table) :
    List.Forall₂
        (fun table (entry : Interface.Definition) => IsMadeFrom table.name entry.name) tables
        (Interface.definitions comments tables Register.forScripts) ∧
      List.Forall₂
        (fun table (entry : Collection.Definition) => IsMadeFrom table.name entry.variable_) tables
        (Collection.definitions comments tables Register.forScripts) ∧
      (∀ table ∈ tables, IsMadeFrom table.name (Page.content table).entriesVariable) ∧
      List.Forall₂ (fun table (model : Prisma.Model) => IsMadeFrom table.name model.name) tables
        (Prisma.models comments tables Register.forModels).1 := by
  refine ⟨?_, ?_, fun table _ => ?_, ?_⟩
  · have named := @isShownBy_scriptNames .pascal CaseStyle.noConfusion tables
    rw [← names_interfaces comments, List.forall₂_map_right_iff] at named
    exact named.imp fun _ _ => isMadeFrom_of_isShownBy
  · have named := @isShownBy_scriptNames .camel CaseStyle.noConfusion tables
    have longer : List.Forall₂ (fun (table : Table) s => IsMadeFrom table.name (s ++ "Collection"))
        tables _ :=
      named.imp fun _ _ shown => isMadeFrom_of_isShownBy (shown.append (by decide))
    rw [← List.forall₂_map_right_iff, ← variables_collections comments,
      List.forall₂_map_right_iff] at longer
    exact longer
  · have shown : Request.IsShownBy { name := table.name, style := .camel }
        (Page.content table).entriesVariable :=
      (isShownBy_converted CaseStyle.noConfusion).append (by decide)
    exact isMadeFrom_of_isShownBy shown
  · have named := (Prisma.models_names comments tables Register.forModels).1
    rw [List.forall₂_map_left_iff, List.forall₂_map_right_iff] at named
    exact named.imp fun _ _ named => isMadeFrom_of_isShownBy (isShownBy_of_names named)

def numberedTable : Table := { name := "2fa codes" }

/-- None of its identifiers is one. -/
theorem identifiers_of_numberedTable :
    (Interface.definitions true [numberedTable] Register.forScripts).map (·.name) = ["2faCodes"] ∧
      (Collection.definitions true [numberedTable] Register.forScripts).map (·.variable_) =
        ["2faCodesCollection"] ∧
      (Page.content numberedTable).entriesVariable = "2faCodesEntries" ∧
      (Prisma.models true [numberedTable] Register.forModels).1.map (·.name) = ["2faCodes"] ∧
      ¬ IsIdentifier "2faCodes" ∧ ¬ IsIdentifier "2faCodesCollection" ∧
      ¬ IsIdentifier "2faCodesEntries" := by
  decide +kernel

end SchemaArtifacts.Artifact
