import SchemaArtifacts.Proofs.Artifact.CodeLines
import SchemaArtifacts.Proofs.Escape.Delimited
import SchemaArtifacts.Proofs.Schema.Descriptions
import SchemaArtifacts.Proofs.Sql.Noninterference
import SchemaArtifacts.Proofs.Text.Joining

/-!
# Descriptions in scripts

A script has a remark for the description of a table, and in the dialect that comments columns a
statement for the description of a field.  Each stands at one place of the script, so a script shows
every change of a single description but for what a remark cannot show.
-/

namespace SchemaArtifacts.Sql

open Artifact Escape Text

section Bare

variable (options : Options) (table : Table)

theorem tableReferences_bare : tableReferences table.bare = tableReferences table :=
  List.filterMap_map

theorem createTable_bare : createTable options table.bare = createTable options table := by
  have columns : table.bare.fields.map (column options.dialect) =
      table.fields.map (column options.dialect) := List.map_map
  rw [createTable, columns, tableReferences_bare, Table.name_bare, createTable]

theorem createIndexes_bare : createIndexes options table.bare = createIndexes options table :=
  List.filterMap_map

theorem addReferences_bare : addReferences options table.bare = addReferences options table := by
  rw [addReferences, tableReferences_bare, Table.name_bare, addReferences]

theorem rowSecurity_bare : rowSecurity options table.bare = rowSecurity options table := by
  have policies : (table.bare.fields.filterMap fun field => field.rowPolicy.map fun condition =>
        Statement.createPolicy (policyName table.name field.name) table.name condition) =
      table.fields.filterMap fun field => field.rowPolicy.map fun condition =>
        Statement.createPolicy (policyName table.name field.name) table.name condition :=
    List.filterMap_map
  simp only [rowSecurity, Table.name_bare, policies]

theorem dropTable_bare : dropTable options table.bare = dropTable options table := rfl

end Bare

def shownDescription? (description : String) : Option String :=
  if description = "" then none else some (singleLine description)

theorem tableRemarks_eq (table : Table) :
    tableRemarks table =
      ("Table: " ++ singleLine table.name) ::
        ((shownDescription? table.description).map ("Description: " ++ ·)).toList := by
  rw [tableRemarks, shownDescription?]
  split <;> rfl

def shownDescriptions (dialect : Dialect) (table : Table) : Option String × List String :=
  (shownDescription? table.description,
    if dialect.commentsColumns then table.fields.map (·.description) else [])

/-- Tables that are the same but for descriptions that scripts do not show. -/
structure LookAlike (dialect : Dialect) (first second : Table) : Prop where
  bare : first.bare = second.bare
  shown : shownDescriptions dialect first = shownDescriptions dialect second

section Alike

variable {options : Options} {first second : Table}
  (alike : LookAlike options.dialect first second)
include alike

theorem columnComments_eq_of_lookAlike :
    columnComments options first = columnComments options second := by
  by_cases comments : options.dialect.commentsColumns = true
  · have shown := congrArg Prod.snd alike.shown
    simp only [shownDescriptions, if_pos comments] at shown
    have fields : first.fields = second.fields :=
      Field.list_eq_of_bare (congrArg Table.fields alike.bare) shown
    have name : first.name = second.name := Table.eq_of_bare Table.name_bare alike.bare
    rw [columnComments, columnComments, fields, name]
  · rw [columnComments, columnComments, if_neg comments, if_neg comments]

theorem tableSections_eq_of_lookAlike (withReferences : Bool) :
    tableSections options first withReferences = tableSections options second withReferences := by
  have shown : shownDescription? first.description = shownDescription? second.description :=
    congrArg Prod.fst alike.shown
  simp only [tableSections, tableRemarks_eq, shown, columnComments_eq_of_lookAlike alike,
    Table.eq_of_bare Table.name_bare alike.bare,
    Table.eq_of_bare (createTable_bare options) alike.bare,
    Table.eq_of_bare (createIndexes_bare options) alike.bare,
    Table.eq_of_bare (addReferences_bare options) alike.bare,
    Table.eq_of_bare (rowSecurity_bare options) alike.bare]

end Alike

theorem forall₂_lookAlike {dialect : Dialect} {first second : List Table}
    (same : first.map Table.bare = second.map Table.bare)
    (shown : first.map (shownDescriptions dialect) = second.map (shownDescriptions dialect)) :
    List.Forall₂ (LookAlike dialect) first second := by
  induction first generalizing second with
  | nil =>
      obtain rfl : second = [] := by simpa using same.symm
      exact .nil
  | cons table rest ih =>
      cases second with
      | nil => cases same
      | cons other others =>
          obtain ⟨bare, bares⟩ := List.cons.inj same
          obtain ⟨text, texts⟩ := List.cons.inj shown
          exact .cons ⟨bare, text⟩ (ih bares texts)

theorem script_eq_of_lookAlike {options : Options} {first second : Target}
    (same : first.bare = second.bare)
    (shown : first.tables.map (shownDescriptions options.dialect) =
      second.tables.map (shownDescriptions options.dialect)) :
    script options first = script options second := by
  cases first with
  | table first =>
      cases second with
      | schema => cases same
      | table second =>
          have alike : LookAlike options.dialect first second :=
            ⟨Target.table.inj same, List.singleton_inj.mp shown⟩
          exact tableSections_eq_of_lookAlike alike true
  | schema first =>
      cases second with
      | table => cases same
      | schema second =>
          have whole : first.bare = second.bare := Target.schema.inj same
          have tables := forall₂_lookAlike (congrArg Schema.tables whole) shown
          have ordered := Schema.dependencyOrder_of_forall₂
            (fun _ _ alike => ⟨Table.eq_of_bare Table.name_bare alike.bare,
              fun names => Table.eq_of_bare (Schema.references_bare names) alike.bare⟩) tables
          have drops := map_eq_of_forall₂ tables fun _ _ alike =>
            Table.eq_of_bare (dropTable_bare options) alike.bare
          have sections := flatMap_eq_of_forall₂ ordered fun _ _ alike =>
            tableSections_eq_of_lookAlike alike false
          have added := flatMap_eq_of_forall₂ ordered fun _ _ alike =>
            Table.eq_of_bare (addReferences_bare options) alike.bare
          have remarks := congrArg (schemaRemarks options.dialect) whole
          change schemaRemarks options.dialect first = schemaRemarks options.dialect second at remarks
          simp only [script, schemaScript, remarks, drops, sections, added]

/-! ## How scripts end -/

theorem getLast?_render_statement (style : Style) (statement : Statement) :
    (statement.render style).toList.getLast? = some ';' := by
  cases statement with
  | createIndex name ifAbsent table column method =>
      cases method <;> exact getLast?_append (getLast?_append rfl)
  | _ => exact getLast?_append rfl

theorem getLast?_render_section (style : Style) {part : Section} (filled : part.statements ≠ []) :
    (part.render style).toList.getLast? = some ';' := by
  obtain ⟨statements, statement, written⟩ := List.eq_nil_or_concat part.statements |>.resolve_left
    filled
  have last : (part.remarkLines ++ part.statements.map (Statement.render style)).getLast? =
      some (statement.render style) := by
    simp [written]
  exact getLast?_intercalate last (getLast?_render_statement style statement)

theorem endedOnce_of_getLast? {body : String} {c : Char} (ends : body.toList.getLast? = some c)
    (visible : c ≠ '\n') : endedOnce (body ++ "\n") = body ++ "\n" := by
  obtain ⟨cs, written⟩ := List.getLast?_eq_some_iff.mp ends
  have other : (c == '\n') = false := beq_false_of_ne visible
  have kept : dropFinalBreaks (body ++ "\n") = body := by
    rw [dropFinalBreaks, String.toList_append, written]
    apply String.ext
    simp [other, written]
  rw [endedOnce, kept]

theorem endedOnce_render (style : Style) {script : Script} {part : Section}
    (last : script.getLast? = some part) (filled : part.statements ≠ []) :
    endedOnce (script.render style) = script.render style := by
  have rendered : (script.map (Section.render style)).getLast? = some (part.render style) := by
    simp [last]
  exact endedOnce_of_getLast?
    (getLast?_intercalate rendered (getLast?_render_section style filled)) (by decide)

theorem filled_of_mem_ofStatements {remarks : List String} {statements : List Statement}
    {part : Section} (mem : part ∈ Section.ofStatements remarks statements) :
    part.statements ≠ [] := by
  cases statements with
  | nil => cases mem
  | cons statement rest =>
      obtain rfl : part = ⟨remarks, statement :: rest⟩ := List.mem_singleton.mp mem
      simp

theorem filled_of_mem_tableSections {options : Options} {table : Table} {withReferences : Bool}
    {part : Section} (mem : part ∈ tableSections options table withReferences) :
    part.statements ≠ [] := by
  rcases List.mem_cons.mp mem with rfl | later
  · simp
  · simp only [List.mem_append] at later
    rcases later with ((comments | indexes) | references) | security
    all_goals exact filled_of_mem_ofStatements ‹_›

section Described

variable {ι : Type} [Nonempty ι] {table : ι → Table}

theorem exists_schemaScript_described (options : Options)
    (same : ∀ i j, (table i).bare = (table j).bare) (schema : Schema) (earlier later : List Table) :
    ∃ before after : Script, (∀ part ∈ after, part.statements ≠ []) ∧ ∀ i,
      schemaScript options { schema with tables := earlier ++ table i :: later } =
        before ++ (tableSections options (table i) false ++ after) := by
  obtain ⟨value⟩ := ‹Nonempty ι›
  have : Nonempty ι := ⟨value⟩
  obtain ⟨first, last, ordered⟩ := Schema.exists_dependencyOrder_described same schema earlier later
  have drop (i : ι) := Table.eq_of_bare (dropTable_bare options) (same i value)
  have added (i : ι) := Table.eq_of_bare (addReferences_bare options) (same i value)
  let drops : List Statement := if options.dropTables then
    (earlier ++ table value :: later).map (dropTable options) else []
  let references : List Statement :=
    (first ++ table value :: last).flatMap (addReferences options)
  let sections (tables : List Table) : Script :=
    tables.flatMap fun table => tableSections options table false
  refine ⟨⟨schemaRemarks options.dialect schema, []⟩ ::
      (Section.ofStatements [] drops ++ sections first),
    sections last ++ Section.ofStatements ["Foreign keys"] references, ?_, fun i => ?_⟩
  · intro part mem
    rcases List.mem_append.mp mem with described | referring
    · obtain ⟨table, -, mem⟩ := List.mem_flatMap.mp described
      exact filled_of_mem_tableSections mem
    · exact filled_of_mem_ofStatements referring
  · simp [schemaScript, ordered, drops, references, sections, drop i, added i, schemaRemarks]

end Described

theorem render_statement_ne_empty (style : Style) (statement : Statement) :
    statement.render style ≠ "" := by
  intro empty
  have ends := getLast?_render_statement style statement
  rw [empty] at ends
  cases ends

def sectionText? (style : Style) (statements : List Statement) : Option String :=
  if statements = [] then none else some (joinLines (statements.map (Statement.render style)))

theorem map_render_ofStatements (style : Style) (statements : List Statement) :
    (Section.ofStatements [] statements).map (Section.render style) =
      (sectionText? style statements).toList := by
  cases statements <;> rfl

theorem sectionText?_ne_empty (style : Style) (statements : List Statement) :
    sectionText? style statements ≠ some "" := by
  cases statements with
  | nil => simp [sectionText?]
  | cons statement rest =>
      intro empty
      have filled : (⟨[], statement :: rest⟩ : Section).statements ≠ [] := by simp
      have ends := getLast?_render_section style filled
      have text : Section.render style ⟨[], statement :: rest⟩ = "" := Option.some.inj empty
      rw [text] at ends
      cases ends

theorem sectionText?_optional_inj (style : Style) (before after : List Statement)
    {first second : Option Statement} :
    sectionText? style (before ++ (first.toList ++ after)) =
        sectionText? style (before ++ (second.toList ++ after)) ↔
      first.map (Statement.render style) = second.map (Statement.render style) := by
  have filled (statement : Option Statement) : statement.map (Statement.render style) ≠ some "" := by
    intro empty
    obtain ⟨held, -, nothing⟩ := Option.map_eq_some_iff.mp empty
    exact render_statement_ne_empty style held nothing
  have whole (statements : List Statement) : joinLines (statements.map (Statement.render style)) =
      (sectionText? style statements).getD "" := by
    cases statements <;> rfl
  have lines (statement : Option Statement) :
      (before ++ (statement.toList ++ after)).map (Statement.render style) =
        before.map (Statement.render style) ++
          ((statement.map (Statement.render style)).toList ++
            after.map (Statement.render style)) := by
    cases statement <;> simp
  constructor
  · intro same
    have joined := congrArg (Option.getD · "") same
    simp only [← whole, lines, joinLines] at joined
    exact (intercalate_optional_inj _ _ _ (filled first) (filled second)).mp joined
  · intro same
    have empty : first.toList = [] ↔ second.toList = [] := by
      cases first <;> cases second <;> simp_all
    simp only [sectionText?, List.append_eq_nil_iff, empty, lines, same]

/-! ## Sections of a described table -/

theorem map_append_inj (start : String) {first second : Option String} :
    first.map (start ++ ·) = second.map (start ++ ·) ↔ first = second := by
  refine ⟨fun same => ?_, fun same => by rw [same]⟩
  exact Option.map_injective (fun _ _ => String.append_right_inj _ |>.mp) same

theorem render_described_inj (style : Style) (table : Table) (statement : Statement)
    {description other : String} :
    Section.render style ⟨tableRemarks (table.describe description), [statement]⟩ =
        Section.render style ⟨tableRemarks (table.describe other), [statement]⟩ ↔
      shownDescription? description = shownDescription? other := by
  let start := "-- Description: "
  have rendered (description : String) :
      Section.render style ⟨tableRemarks (table.describe description), [statement]⟩ =
        "\n".intercalate (["-- " ++ ("Table: " ++ singleLine table.name)] ++
          (((shownDescription? description).map (start ++ ·)).toList ++
            [statement.render style])) := by
    rw [tableRemarks_eq]
    cases shown : shownDescription? description <;>
      simp [Section.render, Section.remarkLines, joinLines, Table.describe, shown, start,
        ← String.append_assoc]
  have filled (description : String) :
      (shownDescription? description).map (start ++ ·) ≠ some "" := by
    cases shownDescription? description <;> simp [start]
  rw [rendered, rendered, intercalate_optional_inj _ _ _ (filled _) (filled _),
    map_append_inj]

def columnComment? (table field : String) (description : String) : Option Statement :=
  if description = "" then none else some (.commentOn table field description)

theorem exists_render_commentOn (style : Style) (table field : String) :
    ∃ start, ∀ text, Statement.render style (.commentOn table field text) =
      start ++ sqlString text ++ ";" :=
  ⟨_, fun _ => rfl⟩

theorem columnComment?_inj (style : Style) (table field : String) {description other : String} :
    (columnComment? table field description).map (Statement.render style) =
        (columnComment? table field other).map (Statement.render style) ↔ description = other := by
  refine ⟨fun same => ?_, fun same => by rw [same]⟩
  by_cases empty : description = "" <;> by_cases empty' : other = ""
  · rw [empty, empty']
  · simp [columnComment?, empty, empty'] at same
  · simp [columnComment?, empty, empty'] at same
  · rw [columnComment?, columnComment?, if_neg empty, if_neg empty'] at same
    have texts : Statement.render style (.commentOn table field description) =
        Statement.render style (.commentOn table field other) := Option.some.inj same
    obtain ⟨start, rendered⟩ := exists_render_commentOn style table field
    rw [rendered, rendered, String.append_left_inj, String.append_right_inj] at texts
    exact sqlString_injective texts

def describedField (table : Table) (fields others : List Field) (field : Field)
    (description : String) : Table :=
  { table with fields := fields ++ field.describe description :: others }

section DescribedField

variable (table : Table) (fields others : List Field) (field : Field)

theorem describedField_bare (description other : String) :
    (describedField table fields others field description).bare =
      (describedField table fields others field other).bare := by
  simp [describedField, Table.bare, Field.bare_describe]

theorem columnComments_describedField {options : Options}
    (comments : options.dialect.commentsColumns = true) :
    ∃ before after : List Statement, ∀ description,
      columnComments options (describedField table fields others field description) =
        before ++ ((columnComment? table.name field.name description).toList ++ after) := by
  let comment (field : Field) : Statement := .commentOn table.name field.name field.description
  refine ⟨(fields.filter (·.description != "")).map comment,
    (others.filter (·.description != "")).map comment, fun description => ?_⟩
  rw [columnComments, if_pos comments]
  by_cases empty : description = "" <;>
    simp [describedField, Field.describe, columnComment?, empty, comment]

theorem exists_tableSections_describedField (options : Options) :
    ∃ before after : Script, ∀ description,
      tableSections options (describedField table fields others field description) false =
        before ++ (Section.ofStatements []
          (columnComments options (describedField table fields others field description)) ++
            after) := by
  have same (description : String) := describedField_bare table fields others field description ""
  let blank := describedField table fields others field ""
  refine ⟨[⟨tableRemarks table, [createTable options blank]⟩],
    Section.ofStatements [] (createIndexes options blank) ++
      Section.ofStatements ["Row Level Security"] (rowSecurity options blank), ?_⟩
  intro description
  have created := Table.eq_of_bare (createTable_bare options) (same description)
  have indexed := Table.eq_of_bare (createIndexes_bare options) (same description)
  have secured := Table.eq_of_bare (rowSecurity_bare options) (same description)
  have remarks : tableRemarks (describedField table fields others field description) =
      tableRemarks table := rfl
  have nothing : Section.ofStatements [] [] = [] := rfl
  simp only [tableSections, created, indexed, secured, remarks, nothing, blank,
    Bool.false_eq_true, if_false, List.append_nil, List.cons_append, List.nil_append,
    List.append_assoc]

end DescribedField

def Options.withIndent (settings : Settings) (dialect : Dialect) (unit : String) : Options :=
  { dialect
    ifNotExists := settings.ifNotExists.isSet
    dropTables := settings.dropTables.isSet
    indent := unit }

section Contents

variable {settings : Settings} {dialect : Dialect} {generator : Generator} {unit : String}
  (named : Dialect.ofJson settings.dialect = .ok dialect)
  (made : Kind.sql.generator settings {} = .ok generator)
  (ended : settings.lineEnding = .str "\n") (indent : settings.indent = .ok unit)
include named made ended indent

theorem content_eq_scriptText {target : Target} (nonempty : target.tables ≠ []) :
    generator.content target =
      .ok (endedOnce (scriptText (Options.withIndent settings dialect unit) target)) := by
  obtain ⟨first, rest, tables⟩ := List.exists_cons_of_ne_nil nonempty
  simp only [Kind.generator, sqlGenerator, named] at made
  obtain rfl := Except.ok.inj made
  refine Generator.content_of_lineFeed ended ?_
  simp only [Options.ofSettings, tables, indent]
  rfl

variable (schema : Schema) (earlier later : List Table)

theorem exists_content_described {ι : Type} [Nonempty ι] {table : ι → Table}
    (same : ∀ i j, (table i).bare = (table j).bare) :
    ∃ before after : List String, ∀ i,
      generator.content (.schema { schema with tables := earlier ++ table i :: later }) =
        .ok ("\n\n".intercalate (before ++
          ((tableSections (Options.withIndent settings dialect unit) (table i) false).map
            (Section.render (Options.withIndent settings dialect unit).style) ++ after)) ++ "\n") := by
  let options := Options.withIndent settings dialect unit
  obtain ⟨before, after, filled, written⟩ :=
    exists_schemaScript_described options same schema earlier later
  refine ⟨before.map (Section.render options.style), after.map (Section.render options.style),
    fun i => ?_⟩
  have nonempty : tableSections options (table i) false ++ after ≠ [] :=
    List.append_ne_nil_of_left_ne_nil (List.cons_ne_nil _ _) _
  obtain ⟨part, last⟩ := Option.ne_none_iff_exists'.mp
    (fun none => nonempty (List.getLast?_eq_none_iff.mp none))
  have statements : part.statements ≠ [] := by
    rcases List.mem_append.mp (List.mem_of_getLast? last) with described | later
    · exact filled_of_mem_tableSections described
    · exact filled part later
  have ends : (before ++ (tableSections options (table i) false ++ after)).getLast? = some part := by
    rw [List.getLast?_append, last, Option.some_or]
  rw [content_eq_scriptText named made ended indent (by simp [Target.tables]), scriptText, script,
    written i, endedOnce_render _ ends statements, Script.render, List.map_append, List.map_append]

theorem content_describe_iff (table : Table) (description other : String) :
    generator.content
          (.schema { schema with tables := earlier ++ table.describe description :: later }) =
        generator.content
          (.schema { schema with tables := earlier ++ table.describe other :: later }) ↔
      shownDescription? description = shownDescription? other := by
  let options := Options.withIndent settings dialect unit
  have same (description other : String) :
      (table.describe description).bare = (table.describe other).bare := by
    rw [Table.bare_describe, Table.bare_describe]
  obtain ⟨before, after, written⟩ :=
    exists_content_described named made ended indent schema earlier later same
  have sections (description : String) : tableSections options (table.describe description) false =
      ⟨tableRemarks (table.describe description), [createTable options table]⟩ ::
        (tableSections options table false).tail := rfl
  rw [written, written, sections, sections, Except.ok.injEq, String.append_left_inj, List.map_cons,
    List.map_cons, List.cons_append, List.cons_append, intercalate_middle_inj,
    render_described_inj]

theorem content_describedField_iff (table : Table) (fields others : List Field) (field : Field)
    (description other : String) :
    generator.content (.schema { schema with
          tables := earlier ++ describedField table fields others field description :: later }) =
        generator.content (.schema { schema with
          tables := earlier ++ describedField table fields others field other :: later }) ↔
      dialect.commentsColumns = false ∨ description = other := by
  let options := Options.withIndent settings dialect unit
  obtain ⟨before, after, written⟩ := exists_content_described named made ended indent schema
    earlier later (describedField_bare table fields others field)
  obtain ⟨first, last, sections⟩ :=
    exists_tableSections_describedField table fields others field options
  rw [written, written, sections, sections, Except.ok.injEq, String.append_left_inj]
  simp only [List.map_append, map_render_ofStatements, List.append_assoc]
  rw [← List.append_assoc before, ← List.append_assoc before,
    intercalate_optional_inj _ _ _ (sectionText?_ne_empty _ _) (sectionText?_ne_empty _ _)]
  cases comments : dialect.commentsColumns with
  | false =>
      have none (table : Table) : columnComments options table = [] := by
        simp [columnComments, options, Options.withIndent, comments]
      simp [none]
  | true =>
      have comments : options.dialect.commentsColumns = true := comments
      obtain ⟨left, right, commented⟩ :=
        columnComments_describedField table fields others field comments
      rw [commented, commented, sectionText?_optional_inj, columnComment?_inj]
      simp

end Contents

end SchemaArtifacts.Sql
