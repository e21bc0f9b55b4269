import SchemaArtifacts.Proofs.Sql.Descriptions
import SchemaArtifacts.Proofs.Sql.SchemaScript

/-!
# Contents of scripts

A script ends in one line feed as it is written, so it is handed out as it is but for its line
endings, which are those of the settings wherever there is a line feed.
-/

namespace SchemaArtifacts.Sql

open Artifact Escape Text

def bodySections (options : Options) (schema : Schema) : Script :=
  Section.ofStatements [] (dropStatements options schema) ++
    schema.dependencyOrder.tables.flatMap (tableSections options · false) ++
    Section.ofStatements ["Foreign keys"]
      (schema.dependencyOrder.tables.flatMap (addReferences options))

theorem schemaScript_eq_cons (options : Options) (schema : Schema) :
    schemaScript options schema =
      ⟨schemaRemarks options.dialect schema, []⟩ :: bodySections options schema := by
  simp only [schemaScript, bodySections, dropStatements, List.append_assoc]

theorem filled_of_mem_bodySections {options : Options} {schema : Schema} {part : Section}
    (mem : part ∈ bodySections options schema) : part.statements ≠ [] := by
  simp only [bodySections, List.mem_append] at mem
  rcases mem with (drops | defined) | references
  · exact filled_of_mem_ofStatements drops
  · obtain ⟨table, -, mem⟩ := List.mem_flatMap.mp defined
    exact filled_of_mem_tableSections mem
  · exact filled_of_mem_ofStatements references

theorem isOneLine_of_mem_schemaRemarks {dialect : Dialect} {schema : Schema} {remark : String}
    (mem : remark ∈ schemaRemarks dialect schema) : IsOneLine remark := by
  have heading : IsOneLine dialect.heading := by cases dialect <;> decide
  simp only [schemaRemarks, List.mem_append, List.mem_cons, List.not_mem_nil, or_false,
    List.mem_ite_nil_left] at mem
  rcases mem with (rfl | rfl | rfl) | ⟨-, rfl⟩
  · exact .append (by decide) (isOneLine_singleLine _)
  · exact .append (by decide) (isOneLine_singleLine _)
  · exact .append (by decide) heading
  · exact isOneLine_singleLine _

theorem exists_getLast?_schemaRemarks (style : Style) (dialect : Dialect) (schema : Schema) :
    ∃ c, c ≠ '\n' ∧
      (Section.render style ⟨schemaRemarks dialect schema, []⟩).toList.getLast? = some c := by
  have nonempty : schemaRemarks dialect schema ≠ [] := by simp [schemaRemarks]
  obtain ⟨remark, last⟩ := Option.ne_none_iff_exists'.mp
    (fun none => nonempty (List.getLast?_eq_none_iff.mp none))
  have single : IsOneLine ("-- " ++ remark) :=
    .append (by decide) (isOneLine_of_mem_schemaRemarks (List.mem_of_getLast? last))
  obtain ⟨c, ends⟩ : ∃ c, ("-- " ++ remark).toList.getLast? = some c :=
    ⟨_, List.getLast?_eq_some_getLast (by simp)⟩
  refine ⟨c, ?_, ?_⟩
  · rintro rfl
    exact single.isUnbroken (List.mem_of_getLast? ends)
  · refine getLast?_intercalate ?_ ends
    simp [Section.remarkLines, last]

theorem endedOnce_scriptText (options : Options) (target : Target) :
    endedOnce (scriptText options target) = scriptText options target := by
  cases target with
  | table table =>
      obtain ⟨part, last⟩ : ∃ part, (tableScript options table).getLast? = some part :=
        ⟨_, List.getLast?_eq_some_getLast (List.cons_ne_nil _ _)⟩
      exact endedOnce_render _ last (filled_of_mem_tableSections (List.mem_of_getLast? last))
  | schema schema =>
      rw [scriptText, script, schemaScript_eq_cons]
      cases last : (bodySections options schema).getLast? with
      | none =>
          obtain ⟨c, visible, ends⟩ :=
            exists_getLast?_schemaRemarks options.style options.dialect schema
          rw [List.getLast?_eq_none_iff.mp last, Script.render, List.map_singleton,
            String.intercalate_singleton]
          exact endedOnce_of_getLast? ends visible
      | some part =>
          have whole : (⟨schemaRemarks options.dialect schema, []⟩ ::
              bodySections options schema : Script).getLast? = some part := by
            rw [List.getLast?_cons, last]
            rfl
          exact endedOnce_render _ whole
            (filled_of_mem_bodySections (List.mem_of_getLast? last))

section Contents

variable {settings : Settings} {dialect : Dialect} {ending : String}

theorem exists_scriptContent (named : Dialect.ofJson settings.dialect = .ok dialect)
    (ended : settings.lineEnding = .str ending) :
    ∃ generator, Kind.sql.generator settings {} = .ok generator ∧ ∀ target,
      generator.content target = (Options.ofSettings settings dialect target.tables).map
        fun options => withLineEnding ending (scriptText options target) := by
  refine ⟨_, by simp only [Kind.generator, sqlGenerator, named]; rfl, fun target => ?_⟩
  cases given : Options.ofSettings settings dialect target.tables with
  | error fault => simp [Generator.content, given, bind, Except.bind, Except.map]
  | ok options =>
      simp [Generator.content, Generator.format, Generator.withLineEnding, given,
        Settings.lineEndingText, ended, endedOnce_scriptText, bind, Except.bind, pure, Except.pure,
        Except.map]

theorem exists_ofSettings_iff {tables : List Table} :
    (∃ options, Options.ofSettings settings dialect tables = .ok options) ↔
      tables = [] ∨ ∃ unit, settings.indent = .ok unit := by
  cases tables with
  | nil => simp [Options.ofSettings, bind, Except.bind, pure, Except.pure]
  | cons table rest =>
      cases indent : settings.indent <;>
        simp [Options.ofSettings, indent, bind, Except.bind, pure, Except.pure]

end Contents

end SchemaArtifacts.Sql
