import SchemaArtifacts.Proofs.Naming.Answers
import SchemaArtifacts.Proofs.Schema.NormalForm
import SchemaArtifacts.Proofs.Schema.References

/-!
# Identifiers for tables

A generated module asks a register for one identifier for each table, in order.  Tables whose names
differ get identifiers that differ.
-/

namespace SchemaArtifacts

open Naming Text

/-- A table with trimmed names can be read from a module that gives it a plain identifier. -/
structure Table.IsReadableAs (table : Table) (identifier : String) : Prop where
  plain : IsPlain identifier.toList
  name : trim table.name = table.name
  fields : ∀ field ∈ table.fields, trim field.name = field.name

namespace Schema

def scriptNames (schema : Schema) (style : CaseStyle) : List String :=
  Register.forScripts.issueAll (schema.tables.map fun table => { name := table.name, style })

variable {schema : Schema} {style : CaseStyle}

theorem length_scriptNames (schema : Schema) (style : CaseStyle) :
    (schema.scriptNames style).length = schema.tables.length := by
  rw [scriptNames, Register.length_issueAll, List.length_map]

theorem HasDistinctNames.scriptNames_nodup (distinct : schema.HasDistinctNames)
    (noKebab : style ≠ .kebab) :
    (schema.scriptNames style).Nodup ∧
      ∀ identifier ∈ schema.scriptNames style, Register.forScripts.Offers identifier := by
  constructor
  · have nothing : Register.forScripts.identifiers.Nodup := List.nodup_nil
    rw [scriptNames, Register.issueAll_nodup_iff nothing, List.map_map]
    refine List.pairwise_map.mpr ((List.pairwise_map.mp distinct).imp ?_)
    intro table other apart same
    have equal : ({ name := table.name, style } : Request) = { name := other.name, style } :=
      Request.key_inj rfl same
    exact apart (congrArg Request.name equal)
  · apply Register.offers_of_mem_issueAll Register.hasPlainWords_forScripts
    intro request mem
    obtain ⟨table, -, rfl⟩ := List.mem_map.mp mem
    exact ⟨noKebab, rfl⟩

theorem HasTrimmedNames.isReadableAs (trimmed : schema.HasTrimmedNames)
    (distinct : schema.HasDistinctNames) (noKebab : style ≠ .kebab) :
    ∀ entry ∈ schema.tables.zip (schema.scriptNames style), entry.1.IsReadableAs entry.2 := by
  intro entry pair
  obtain ⟨held, named⟩ := List.of_mem_zip pair
  have offers := (distinct.scriptNames_nodup noKebab).2 entry.2 named
  exact ⟨offers.plain, (trimmed entry.1 held).1, (trimmed entry.1 held).2⟩

end Schema

end SchemaArtifacts
