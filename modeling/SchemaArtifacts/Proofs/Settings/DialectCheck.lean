import SchemaArtifacts.Proofs.Text.LetterCase
import SchemaArtifacts.Settings.Check
import SchemaArtifacts.Sql.Dialect

/-!
# Dialects that are checked and dialects that are used

A check knows a dialect by its tag in any case.  Generators take blanks around it and synonyms as
well.  So the check reports all that they refuse, and besides what is spelled in these two ways.
-/

namespace SchemaArtifacts

open Text

namespace Sql.Dialect

theorem map_tag_all : all.map tag = Settings.supportedDialects := rfl

theorem isBlank_of_mem_supportedDialects {name : String} (mem : name ∈ Settings.supportedDialects) :
    ∀ c ∈ name.toList, isBlank c = false := by
  have every : Settings.supportedDialects.all (·.toList.all (!isBlank ·)) = true := by decide
  have visible := List.all_eq_true.mp every name mem
  simpa using visible

theorem ofText?_eq_none_iff {name : String} :
    ofText? name = none ↔
      lower (trim name) ∉ Settings.supportedDialects ∧
        lower (trim name) ∉ synonyms.map Prod.fst := by
  rw [ofText?, Option.or_eq_none_iff, List.find?_eq_none, List.lookup_eq_none_iff, ← map_tag_all]
  simp only [List.mem_map, beq_iff_eq, bne_iff_ne, not_exists, not_and, ne_eq]
  refine and_congr_right fun _ => ?_
  exact forall₂_congr fun entry _ => not_congr eq_comm

def IsRefused (name : String) : Prop :=
  ofJson (.str name) = .error (.generator (.unsupportedDialect (.str name)))

theorem isRefused_iff {name : String} : IsRefused name ↔ ofText? name = none := by
  rw [IsRefused, ofJson]
  cases ofText? name <;> simp

/-- A supported dialect by a synonym, or with blanks around its tag. -/
def IsSpelledOtherwise (name : String) : Prop :=
  lower (trim name) ∈ synonyms.map Prod.fst ∨
    lower (trim name) ∈ Settings.supportedDialects ∧ trim name ≠ name

theorem not_mem_synonyms {name : String} (known : name ∈ Settings.supportedDialects) :
    name ∉ synonyms.map Prod.fst := by
  have apart : ∀ name ∈ Settings.supportedDialects, name ∉ synonyms.map Prod.fst := by decide
  exact apart name known

theorem lower_not_mem_iff {name : String} :
    lower name ∉ Settings.supportedDialects ↔ IsRefused name ∨ IsSpelledOtherwise name := by
  rw [isRefused_iff, ofText?_eq_none_iff, IsSpelledOtherwise]
  constructor
  · intro unknown
    by_cases synonym : lower (trim name) ∈ synonyms.map Prod.fst
    · exact .inr (.inl synonym)
    · by_cases known : lower (trim name) ∈ Settings.supportedDialects
      · refine .inr (.inr ⟨known, fun same => unknown ?_⟩)
        rwa [same] at known
      · exact .inl ⟨known, synonym⟩
  · intro other known
    rw [trim_of_not_isBlank_lower (isBlank_of_mem_supportedDialects known)] at other
    rcases other with ⟨unknown, -⟩ | synonym | ⟨-, blanks⟩
    · exact unknown known
    · exact not_mem_synonyms known synonym
    · exact blanks rfl

theorem not_isRefused_of_isSpelledOtherwise {name : String} (otherwise : IsSpelledOtherwise name) :
    ¬IsRefused name := by
  rw [isRefused_iff, ofText?_eq_none_iff]
  rintro ⟨unknown, other⟩
  rcases otherwise with synonym | ⟨known, -⟩
  · exact other synonym
  · exact unknown known

end Sql.Dialect

namespace Settings

open Sql

variable {settings : Settings} {found : List String}

def dialectOpening : String := "Invalid dialect: "

def ReportsDialect (found : List String) : Prop :=
  ∃ warning ∈ found, dialectOpening.toList <+: warning.toList

@[simp] theorem not_reportsDialect_nil : ¬ReportsDialect [] := by
  rintro ⟨warning, mem, -⟩
  exact List.not_mem_nil mem

@[simp] theorem reportsDialect_append {first second : List String} :
    ReportsDialect (first ++ second) ↔ ReportsDialect first ∨ ReportsDialect second := by
  simp only [ReportsDialect, List.mem_append, or_and_right, exists_or]

theorem not_reportsDialect_of_opening {opening : String}
    (apart : ¬dialectOpening.toList <+: opening.toList ∧ ¬opening.toList <+: dialectOpening.toList)
    (rest : String) : ¬ReportsDialect [opening ++ rest] := by
  rintro ⟨warning, mem, opens⟩
  obtain rfl := List.mem_singleton.mp mem
  rw [String.toList_append] at opens
  rcases List.prefix_or_prefix_of_prefix opens (List.prefix_append _ _) with first | second
  · exact apart.1 first
  · exact apart.2 second

theorem reportsDialect_dialectWarnings_iff {name : String} (named : settings.dialect = .str name) :
    ReportsDialect settings.dialectWarnings ↔ lower name ∉ supportedDialects := by
  rw [dialectWarnings, named, Json.plainText, List.contains_eq_mem]
  by_cases known : lower name ∈ supportedDialects
  · simp [known]
  · simp only [known, decide_false, Bool.false_eq_true, if_false, not_false_eq_true, iff_true]
    refine ⟨_, List.mem_singleton_self _, ?_⟩
    simp [dialectOpening, String.toList_append]

theorem not_reportsDialect_rowCountWarnings (settings : Settings) :
    ¬ReportsDialect settings.rowCountWarnings := by
  rw [rowCountWarnings]
  split
  · exact not_reportsDialect_nil
  · exact not_reportsDialect_of_opening (by decide) _

theorem not_reportsDialect_lineEndingWarnings (settings : Settings) :
    ¬ReportsDialect settings.lineEndingWarnings := by
  rw [lineEndingWarnings]
  split
  · split
    · exact not_reportsDialect_nil
    · exact not_reportsDialect_of_opening (by decide) _
  · exact not_reportsDialect_of_opening (by decide) _

theorem not_reportsDialect_indentWarnings (checked : settings.indentWarnings = .ok found) :
    ¬ReportsDialect found := by
  obtain ⟨below, -, rest⟩ := bind_eq_ok_iff.mp checked
  split at rest
  · obtain rfl := Except.ok.inj rest
    exact not_reportsDialect_of_opening (by decide) _
  · obtain rfl := Except.ok.inj rest
    exact not_reportsDialect_nil

theorem not_reportsDialect_formatWarnings (checked : settings.formatWarnings = .ok found) :
    ¬ReportsDialect found := by
  obtain ⟨format, -, rest⟩ := bind_eq_ok_iff.mp checked
  split at rest
  · obtain rfl := Except.ok.inj rest
    exact not_reportsDialect_nil
  · obtain rfl := Except.ok.inj rest
    exact not_reportsDialect_of_opening (by decide) _

theorem reportsDialect_iff {name : String} (named : settings.dialect = .str name)
    (checked : settings.warnings = .ok found) :
    ReportsDialect found ↔ lower name ∉ supportedDialects := by
  obtain ⟨indent, indented, checked⟩ := bind_eq_ok_iff.mp checked
  obtain ⟨format, formatted, checked⟩ := bind_eq_ok_iff.mp checked
  obtain rfl := Except.ok.inj checked
  simp only [reportsDialect_append, reportsDialect_dialectWarnings_iff named,
    not_reportsDialect_rowCountWarnings, not_reportsDialect_indentWarnings indented,
    not_reportsDialect_lineEndingWarnings, not_reportsDialect_formatWarnings formatted, or_false]

theorem exists_warnings {size : Int} {held : Keyed Json} (sized : settings.indentSize = .int size)
    (custom : settings.custom = .obj held) : ∃ found, settings.warnings = .ok found := by
  have indented : ∃ indent, settings.indentWarnings = .ok indent := by
    rw [indentWarnings, sized]
    by_cases below : size < 0 <;> simp [isBelowZero, below, bind, Except.bind, pure, Except.pure]
  have formatted : ∃ format, settings.formatWarnings = .ok format := by
    rw [formatWarnings, outputFormat, customEntry?, custom]
    simp only [bind, Except.bind, pure, Except.pure]
    split <;> simp
  obtain ⟨indent, indented⟩ := indented
  obtain ⟨format, formatted⟩ := formatted
  rw [warnings, indented, formatted]
  exact ⟨_, rfl⟩

/--
A check that ends reports the dialect just if generators refuse it or it is spelled otherwise than
by its tag, and generators take it if it is spelled otherwise.  So the check and the generators
agree on just the dialects that are not.
-/
theorem reportsDialect_iff_isRefused_iff {name : String} (named : settings.dialect = .str name) :
    (∀ size held, settings.indentSize = .int size → settings.custom = .obj held →
      ∃ found, settings.warnings = .ok found) ∧
    ∀ found, settings.warnings = .ok found →
      (ReportsDialect found ↔ Dialect.IsRefused name ∨ Dialect.IsSpelledOtherwise name) ∧
      ((ReportsDialect found ↔ Dialect.IsRefused name) ↔ ¬Dialect.IsSpelledOtherwise name) := by
  refine ⟨fun size held => exists_warnings, fun found checked => ?_⟩
  have reports : ReportsDialect found ↔
      Dialect.IsRefused name ∨ Dialect.IsSpelledOtherwise name := by
    rw [reportsDialect_iff named checked, Dialect.lower_not_mem_iff]
  refine ⟨reports, ?_⟩
  rw [reports, or_iff_left_iff_imp]
  constructor
  · intro refused otherwise
    exact Dialect.not_isRefused_of_isSpelledOtherwise otherwise (refused otherwise)
  · intro plain otherwise
    exact absurd otherwise plain

theorem reportsDialect_iff_isRefused_iff_oracle :
    ∃ found, ({ dialect := .str "Oracle" } : Settings).warnings = .ok found ∧
      ReportsDialect found ∧ Dialect.IsRefused "Oracle" := by
  have named : ({ dialect := .str "Oracle" } : Settings).dialect = .str "Oracle" := rfl
  have refused : Dialect.IsRefused "Oracle" := by
    rw [Dialect.isRefused_iff]
    decide
  obtain ⟨ends, reports⟩ := reportsDialect_iff_isRefused_iff named
  obtain ⟨found, checked⟩ := ends 2 [] rfl rfl
  exact ⟨found, checked, (reports found checked).1.mpr (.inl refused), refused⟩

/-- A dialect that scripts are made for, and that a check reports all the same. -/
theorem reportsDialect_pg :
    Dialect.ofJson (.str "pg") = .ok .postgres ∧
      ∃ found, ({ dialect := .str "pg" } : Settings).warnings = .ok found ∧
        ¬(ReportsDialect found ↔ Dialect.IsRefused "pg") := by
  have accepted : Dialect.ofJson (.str "pg") = .ok .postgres := rfl
  refine ⟨accepted, ["Invalid dialect: pg (expected one of postgres, sqlite, mysql)"], rfl, ?_⟩
  rw [Dialect.IsRefused, accepted]
  intro agree
  have reported : ReportsDialect ["Invalid dialect: pg (expected one of postgres, sqlite, mysql)"] :=
    ⟨_, List.mem_singleton_self _, by decide⟩
  cases agree.mp reported

end Settings

end SchemaArtifacts
