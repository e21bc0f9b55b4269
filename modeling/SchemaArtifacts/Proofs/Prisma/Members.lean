import SchemaArtifacts.Proofs.Naming.Stems
import SchemaArtifacts.Proofs.Prisma.Names

/-!
# Members of models and enums

A model has one line for each field of its table and an enum one for each of its values.  Both are
named by the identifier that the name of the field or the value is cleaned to, and no register sees
to it that these differ: two of them are the same exactly if their stems agree.
-/

namespace SchemaArtifacts.Prisma

open Naming

def referenceText (field : Field) : String :=
  (field.foreignKey.map fun key => " // references " ++ key.dotted).getD ""

def afterName (field : Field) (type : String) : String :=
  String.intercalate " " (fieldParts field type).tail ++ referenceText field

theorem fieldLine_eq_name_append (field : Field) (type : String) :
    fieldLine field type = cleanPlain field.name ++ " " ++ afterName field type := by
  simp only [fieldLine, afterName, referenceText, fieldParts, List.cons_append, List.nil_append,
    List.tail_cons, String.intercalate_cons_cons, String.append_assoc]

theorem isPlain_ne_space {cs : List Char} (plain : IsPlain cs) : ∀ c ∈ cs, (c != ' ') = true := by
  intro c mem
  exact isNameChar.of_ascii (plain c mem) (p := fun c => (c != ' ') = true) (by decide)

def Entry.member (entry : Entry) : String :=
  String.ofList (entry.line.toList.takeWhile (· != ' '))

theorem member_of_line {entry : Entry} {field : Field} {type : String}
    (line : entry.line = fieldLine field type) : entry.member = cleanPlain field.name := by
  have name := isPlain_ne_space (isPlain_cleanPlain field.name)
  rw [Entry.member, line, fieldLine_eq_name_append, String.toList_append, String.toList_append,
    List.append_assoc, List.takeWhile_append_of_pos name]
  simp

/-- A model has a line for each field of its table, and the name of the table if it has another. -/
structure IsModelledBy (table : Table) (model : Model) : Prop where
  lines : List.Forall₂ (fun field (entry : Entry) => ∃ type, entry.line = fieldLine field type)
    table.fields model.entries
  mapped : model.mapped = if model.name = table.name then "" else table.name

theorem lines_fieldEntries (comments : Bool) (model : String) (fields : List Field)
    (register : Register) :
    List.Forall₂ (fun field (entry : Entry) => ∃ type, entry.line = fieldLine field type) fields
      (fieldEntries comments model fields register).1 := by
  induction fields generalizing register with
  | nil => exact .nil
  | cons field rest ih =>
      rw [fieldEntries]
      split
      case isTrue => exact .cons ⟨_, rfl⟩ (ih _)
      case isFalse => exact .cons ⟨_, rfl⟩ (ih _)

theorem isModelledBy_models (comments : Bool) (tables : List Table) (register : Register) :
    List.Forall₂ IsModelledBy tables (models comments tables register).1 := by
  induction tables generalizing register with
  | nil => exact .nil
  | cons table rest ih => exact .cons ⟨lines_fieldEntries .., rfl⟩ (ih _)

theorem IsModelledBy.members {table : Table} {model : Model} (modelled : IsModelledBy table model) :
    model.entries.map Entry.member = table.fields.map fun field => cleanPlain field.name := by
  refine Eq.symm ?_
  rw [← List.forall₂_eq_eq_eq, List.forall₂_map_left_iff, List.forall₂_map_right_iff]
  exact modelled.lines.imp fun _ _ ⟨_, line⟩ => (member_of_line line).symm

/-- The members of the enums that closed sets need, one enum for each. -/
def enumMembers (fields : List Field) : List (List String) :=
  (fields.filter (·.hasEnumValues)).map fun field => field.enumValues.map cleanPlain

theorem values_fieldEntries (comments : Bool) (model : String) (fields : List Field)
    (register : Register) :
    (fieldEntries comments model fields register).2.1.map (·.values) = enumMembers fields := by
  induction fields generalizing register with
  | nil => rfl
  | cons field rest ih =>
      rw [fieldEntries, enumMembers, List.filter_cons]
      split
      case isTrue => exact congrArg _ (ih _)
      case isFalse => exact ih _

theorem values_models (comments : Bool) (tables : List Table) (register : Register) :
    (models comments tables register).2.map (·.values) =
      enumMembers (tables.flatMap (·.fields)) := by
  induction tables generalizing register with
  | nil => rfl
  | cons table rest ih =>
      have first : (tableModel comments table register).2.1.map (·.values) =
          enumMembers table.fields := values_fieldEntries ..
      have split : (models comments (table :: rest) register).2 =
          (tableModel comments table register).2.1 ++
            (models comments rest (tableModel comments table register).2.2).2 := rfl
      rw [split, List.map_append, first, ih, List.flatMap_cons, enumMembers, enumMembers,
        enumMembers, List.filter_append, List.map_append]

theorem nodup_cleanPlain_iff {names : List String} :
    (names.map cleanPlain).Nodup ↔ names.Pairwise fun name other => ¬ StemsAgree name other := by
  simp only [List.Nodup, List.pairwise_map, Ne, cleanPlain_eq_iff]

/--
The members of a model differ exactly if no stems of two fields of its table agree, and the members
of an enum exactly if no stems of two values of its field do.
-/
theorem members_nodup_iff (comments : Bool) (tables : List Table) :
    List.Forall₂
        (fun table (model : Model) => (model.entries.map Entry.member).Nodup ↔
          table.fields.Pairwise fun field other => ¬ StemsAgree field.name other.name)
        tables (fileModels comments tables) ∧
      List.Forall₂
        (fun field (enum : Enum) => enum.values.Nodup ↔
          field.enumValues.Pairwise fun value other => ¬ StemsAgree value other)
        ((tables.flatMap (·.fields)).filter (·.hasEnumValues)) (fileEnums comments tables) := by
  constructor
  · have modelled := isModelledBy_models comments tables Register.forModels
    refine modelled.imp fun table model modelled => ?_
    have members : model.entries.map Entry.member = (table.fields.map (·.name)).map cleanPlain := by
      rw [modelled.members, List.map_map]
      rfl
    rw [members, nodup_cleanPlain_iff, List.pairwise_map]
  · have values := values_models comments tables Register.forModels
    rw [enumMembers, ← List.forall₂_eq_eq_eq, List.forall₂_map_left_iff, List.forall₂_map_right_iff]
      at values
    refine values.flip.imp fun field enum same => ?_
    rw [same, nodup_cleanPlain_iff]

def stockTable : Table where
  name := "stock"
  fields :=
    [{ name := "unit price" }, { name := "unit-price" },
     { name := "state", type := .enum, enumValues := ["in stock", "in-stock"] }]

/-- Each pair of them is merged. -/
theorem members_not_nodup_stockTable :
    (stockTable.fields.map (·.name)).Nodup ∧ (["in stock", "in-stock"] : List String).Nodup ∧
      (fileModels true [stockTable]).map (fun model => model.entries.map Entry.member) =
        [["unit_price", "unit_price", "state"]] ∧
      (fileEnums true [stockTable]).map (·.values) = [["in_stock", "in_stock"]] := by
  decide +kernel

end SchemaArtifacts.Prisma
