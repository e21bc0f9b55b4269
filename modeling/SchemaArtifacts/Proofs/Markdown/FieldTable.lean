import SchemaArtifacts.Proofs.Markdown.Outline
import SchemaArtifacts.Proofs.Markdown.Rows
import SchemaArtifacts.Proofs.Text.BrokenLines

/-!
# The table of fields

The reference of a table shows its fields in a Markdown table.  Each field has one row, on one line
and with five cells, just if the texts in the cells fit there: none has a pipe after an odd number
of backslashes or a carriage return of its own between characters that show.
-/

namespace SchemaArtifacts.Markdown

open Escape Text

def fieldTable (dialect : Sql.Dialect) (table : Table) : String :=
  (Block.grid fieldHeader (table.fields.map (fieldRow dialect))).render

/-- The texts that the row of a field shows, besides the name of its type. -/
def shownTexts (dialect : Sql.Dialect) (field : Field) : List String :=
  [field.name, Sql.columnType dialect field, field.description,
   String.intercalate ", " (constraints field)]

/-- A text that neither cuts its cell in two nor breaks the line of its row. -/
def FitsCell (s : String) : Prop := ¬ HasStrayPipe 0 s.toList ∧ ¬ HasLoneReturn s.toList

/-- Below its first two lines, a table has one line for each of so many fields, of five cells. -/
def HasFieldRows (text : String) (count : Nat) : Prop :=
  ∃ header rule rows, brokenLines text.toList = header :: rule :: rows ∧ rows.length = count ∧
    ∀ row ∈ rows, ∃ cells, HasCells row cells ∧ cells.length = 5

def IsWholeCell (cell : String) : Prop :=
  (pieces 0 cell.toList).length = 1 ∧ IsOneLine cell

theorem isWholeCell_markdownCell_iff {s : String} : IsWholeCell (markdownCell s) ↔ FitsCell s := by
  have returns : IsOneLine (markdownCell s) ↔ ¬ HasLoneReturn s.toList := by
    rw [← mem_cellChars_return_iff, IsOneLine, markdownCell, String.toList_ofList]
    constructor
    · exact fun single mem => absurd (single _ mem) (by decide)
    · intro absent c mem
      rw [isLineBreak, Bool.or_eq_false_iff, beq_eq_false_iff_ne, beq_eq_false_iff_ne]
      exact ⟨ne_of_mem_of_not_mem mem (not_mem_cellChars _), ne_of_mem_of_not_mem mem absent⟩
  rw [IsWholeCell, returns, markdownCell, String.toList_ofList, length_pieces_cellChars, FitsCell]

instance (cell : String) : Decidable (IsWholeCell cell) := inferInstanceAs (Decidable (_ ∧ _))

instance (s : String) : Decidable (FitsCell s) := decidable_of_iff _ isWholeCell_markdownCell_iff

def quoted (c : Char) : Char := if c = '\x60' then '\'' else c

theorem length_pieces_quoted (slashes : Nat) (cs : List Char) :
    (pieces slashes (cs.map quoted)).length = (pieces slashes cs).length := by
  induction cs generalizing slashes with
  | nil => rfl
  | cons c cs ih =>
      have same (d : Char) (other : d ≠ '\x60') (other' : d ≠ '\'') : quoted c = d ↔ c = d := by
        rw [quoted]
        split
        case isTrue tick => rw [tick]; exact iff_of_false other'.symm other.symm
        case isFalse => rfl
      have pipe := same '|' (by decide) (by decide)
      have slash := same '\\' (by decide) (by decide)
      simp only [List.map_cons, pieces, slashesAfter, pipe, slash]
      split
      · simp [ih]
      · simp [ih]

theorem isWholeCell_code_iff {cs : List Char} :
    IsWholeCell (code (String.ofList (cs.map quoted))) ↔ IsWholeCell (String.ofList cs) := by
  have written : (code (String.ofList (cs.map quoted))).toList =
      '\x60' :: (cs.map quoted ++ ['\x60']) := by simp [code]
  have ended := @length_pieces_append 0 (cs.map quoted) ['\x60'] (by simp)
  rw [length_pieces_quoted, show (pieces 0 ['\x60']).length = 1 from rfl] at ended
  have cut : (pieces 0 ('\x60' :: (cs.map quoted ++ ['\x60']))).length = (pieces 0 cs).length :=
    (length_pieces_cons (by decide)).trans (Nat.add_right_cancel ended)
  have same (c : Char) : isLineBreak (quoted c) = isLineBreak c := by
    rw [quoted]
    split
    case isTrue tick => rw [tick]; rfl
    case isFalse => rfl
  have tick : isLineBreak '\x60' = false := rfl
  rw [IsWholeCell, IsWholeCell, IsOneLine, written, cut, IsOneLine, String.toList_ofList,
    List.forall_mem_cons, List.forall_mem_append, List.forall_mem_map, List.forall_mem_singleton,
    and_iff_right tick, and_iff_left tick]
  simp only [same]

theorem isWholeCell_typeCell_iff {dialect : Sql.Dialect} {field : Field} :
    IsWholeCell (code (typeCell dialect field)) ↔ FitsCell (Sql.columnType dialect field) :=
  isWholeCell_code_iff.trans isWholeCell_markdownCell_iff

theorem isWholeCell_tag (type : FieldType) : IsWholeCell type.tag := by
  cases type <;> exact ⟨by decide, by decide⟩

theorem forall_isWholeCell_fieldRow_iff {dialect : Sql.Dialect} {field : Field} :
    (∀ cell ∈ fieldRow dialect field, IsWholeCell cell) ↔
      ∀ text ∈ shownTexts dialect field, FitsCell text := by
  simp [fieldRow, shownTexts, isWholeCell_markdownCell_iff, isWholeCell_typeCell_iff,
    isWholeCell_tag]

theorem isOneLine_gridLine_iff {cells : List String} (nonempty : cells ≠ []) :
    IsOneLine (Block.gridLine cells) ↔ ∀ cell ∈ cells, IsOneLine cell := by
  rw [IsOneLine, toList_gridLine nonempty, List.forall_mem_cons,
    and_iff_right (show isLineBreak '|' = false from rfl)]
  clear nonempty
  induction cells with
  | nil => simp [rowBody]
  | cons cell rest ih =>
      rw [rowBody_cons, List.forall_mem_append, List.forall_mem_cons, List.forall_mem_cons,
        List.forall_mem_cons, List.forall_mem_cons, ih, IsOneLine]
      simp [isLineBreak]

theorem getLast?_gridLine (cells : List String) :
    (Block.gridLine cells).toList.getLast? = some '|' :=
  getLast?_append (by rfl)

theorem getLast?_ruleLine (header : List String) :
    (Block.ruleLine header).toList.getLast? = some '|' :=
  getLast?_append (by rfl)

theorem fieldRow_iff {dialect : Sql.Dialect} {field : Field} :
    (IsOneLine (Block.gridLine (fieldRow dialect field)) ∧
      ∃ cells, HasCells (Block.gridLine (fieldRow dialect field)).toList cells ∧
        cells.length = 5) ↔
      ∀ text ∈ shownTexts dialect field, FitsCell text := by
  have nonempty : fieldRow dialect field ≠ [] := List.cons_ne_nil _ _
  rw [← forall_isWholeCell_fieldRow_iff, and_comm, isOneLine_gridLine_iff nonempty]
  exact (and_congr_left' (exists_hasCells_iff nonempty)).trans forall₂_and.symm

/-! ## Lines of the table -/

theorem getLast?_of_mem_lines {header : List String} {rows : List (List String)} {line : String}
    (mem : line ∈ (Block.grid header rows).lines) : line.toList.getLast? = some '|' := by
  rcases List.mem_cons.mp mem with rfl | mem
  · exact getLast?_gridLine header
  rcases List.mem_cons.mp mem with rfl | mem
  · exact getLast?_ruleLine header
  · obtain ⟨cells, -, rfl⟩ := List.mem_map.mp mem
    exact getLast?_gridLine cells

section Lines

variable {dialect : Sql.Dialect} {ending : String}

theorem isUnbroken_of_mem_lines {fields : List Field} {line : String}
    (mem : line ∈ (Block.grid fieldHeader (fields.map (fieldRow dialect))).lines) :
    IsUnbroken line := by
  rcases List.mem_cons.mp mem with rfl | mem
  · decide
  rcases List.mem_cons.mp mem with rfl | mem
  · decide
  · obtain ⟨cells, held, rfl⟩ := List.mem_map.mp mem
    obtain ⟨field, -, rfl⟩ := List.mem_map.mp held
    exact .append (.append (by decide) (.intercalate (by decide)
      fun _ => isUnbroken_of_mem_fieldRow)) (by decide)

theorem withLineEnding_fieldTable (dialect : Sql.Dialect) (table : Table) :
    withLineEnding ending (fieldTable dialect table) =
      ending.intercalate
        (Block.grid fieldHeader (table.fields.map (fieldRow dialect))).lines :=
  withLineEnding_joinLines_of_isUnbroken fun _ => isUnbroken_of_mem_lines

theorem brokenLines_fieldTable (known : ending ∈ ["\n", "\r\n"]) (dialect : Sql.Dialect)
    (table : Table) :
    brokenLines (withLineEnding ending (fieldTable dialect table)).toList =
      (Block.gridLine fieldHeader).toList :: (Block.ruleLine fieldHeader).toList ::
        table.fields.flatMap fun field =>
          brokenLines (Block.gridLine (fieldRow dialect field)).toList := by
  have header : IsOneLine (Block.gridLine fieldHeader) := by decide
  have rule : IsOneLine (Block.ruleLine fieldHeader) := by decide
  rw [withLineEnding_fieldTable, Block.lines, brokenLines_intercalate known (List.cons_ne_nil _ _),
    List.flatMap_cons, List.flatMap_cons, brokenLines_of_isOneLine header,
    brokenLines_of_isOneLine rule, List.flatMap_map, List.flatMap_map]
  · rfl
  · intro line mem
    rw [getLast?_of_mem_lines mem]
    decide

def rowLine (dialect : Sql.Dialect) (field : Field) : List Char :=
  (Block.gridLine (fieldRow dialect field)).toList

theorem brokenLines_of_fitsCell (known : ending ∈ ["\n", "\r\n"]) {table : Table}
    (fit : ∀ field ∈ table.fields, ∀ text ∈ shownTexts dialect field, FitsCell text) :
    brokenLines (withLineEnding ending (fieldTable dialect table)).toList =
        (Block.gridLine fieldHeader).toList :: (Block.ruleLine fieldHeader).toList ::
          table.fields.map (rowLine dialect) ∧
      ∀ field ∈ table.fields,
        HasCells (rowLine dialect field) ((fieldRow dialect field).map padded) := by
  have whole (field : Field) (mem : field ∈ table.fields) :=
    forall_isWholeCell_fieldRow_iff.mpr (fit field mem)
  have nonempty (field : Field) : fieldRow dialect field ≠ [] := List.cons_ne_nil _ _
  constructor
  · rw [brokenLines_fieldTable known, List.map_eq_flatMap]
    refine congrArg (_ :: _ :: ·) (List.flatMap_congr fun field mem => ?_)
    exact brokenLines_of_isOneLine ((isOneLine_gridLine_iff (nonempty field)).mpr
      fun cell held => (whole field mem cell held).2)
  · intro field mem
    refine hasCells_gridLine (nonempty field) fun cell held => ?_
    exact length_pieces_eq_one_iff.mp (whole field mem cell held).1

theorem hasFieldRows_iff (known : ending ∈ ["\n", "\r\n"]) (dialect : Sql.Dialect)
    (table : Table) :
    HasFieldRows (withLineEnding ending (fieldTable dialect table)) table.fields.length ↔
      ∀ field ∈ table.fields, ∀ text ∈ shownTexts dialect field, FitsCell text := by
  constructor
  · rintro ⟨header, rule, rows, broken, count, cells⟩
    rw [brokenLines_fieldTable known, List.cons.injEq, List.cons.injEq] at broken
    obtain ⟨-, -, rfl⟩ := broken
    have single := (length_flatMap_eq_iff (fun field => brokenLines_ne_nil _) _).mp count
    intro field mem
    have whole := length_brokenLines_eq_one_iff.mp (single field mem)
    refine fieldRow_iff.mp ⟨whole, cells _ (List.mem_flatMap.mpr ⟨field, mem, ?_⟩)⟩
    rw [brokenLines_of_isOneLine whole]
    exact List.mem_singleton_self _
  · intro fit
    obtain ⟨broken, cells⟩ := brokenLines_of_fitsCell known fit
    refine ⟨_, _, _, broken, List.length_map _, fun row mem => ?_⟩
    obtain ⟨field, held, rfl⟩ := List.mem_map.mp mem
    exact ⟨_, cells field held, rfl⟩

end Lines

theorem exists_blocks_fieldTable (dialect : Sql.Dialect) {table : Table}
    (nonempty : table.fields ≠ []) :
    ∃ before after, blocks dialect (.table table) =
      .heading 1 (singleLine (defaultTitle table)) :: before ++
        [.heading 2 "Fields", .grid fieldHeader (table.fields.map (fieldRow dialect))] ++
        after := by
  have fields : headed 1 "Fields" (if table.fields.isEmpty then []
      else [.grid fieldHeader (table.fields.map (fieldRow dialect))]) =
        [.heading 2 "Fields", .grid fieldHeader (table.fields.map (fieldRow dialect))] := by
    rw [if_neg (by simpa using nonempty)]
    rfl
  have cut (first : Block) (a b c d e f g : List Block) :
      [first] ++ a ++ b ++ c ++ d ++ e ++ f ++ g =
        first :: (a ++ b ++ c) ++ d ++ (e ++ f ++ g) := by
    simp
  rw [blocks, tableBlocks, fields]
  exact ⟨_, _, cut ..⟩

theorem exists_fieldTable {settings : Settings} {dialect : Sql.Dialect}
    (named : Sql.Dialect.ofJson settings.dialect = .ok dialect) {ending : String}
    (set : settings.lineEnding = .str ending) {table : Table} (nonempty : table.fields ≠ []) :
    ∃ generator content before after,
      Artifact.Kind.documentation.generator settings {} = .ok generator ∧
      generator.artifact (.table table) =
        .ok (.made content (Artifact.targetWarnings (.table table))
          (generator.details (.table table))) ∧
      content = before ++ "## Fields" ++ ending ++ ending ++
        withLineEnding ending (fieldTable dialect table) ++ ending ++ after ∧
      IsApart ending after := by
  obtain ⟨generator, made, written⟩ := exists_referenceGenerator_ending named set
  obtain ⟨before, after, parts⟩ := exists_blocks_fieldTable dialect nonempty
  have lines : ∀ line ∈ (Block.grid fieldHeader (table.fields.map (fieldRow dialect))).lines,
      IsUnbroken line ∧ line ≠ "" := by
    refine fun line mem => ⟨isUnbroken_of_mem_lines mem, ?_⟩
    rintro rfl
    exact absurd (getLast?_of_mem_lines mem) (by decide)
  obtain ⟨start, rest, text, apart⟩ := exists_sectionText ending parts (List.cons_ne_nil _ _)
    (by decide) (List.cons_ne_nil _ _) lines
  rw [← withLineEnding_fieldTable] at text
  exact ⟨generator, _, start, rest, made, written _, text, apart⟩

/--
The reference of a table with fields shows them in a table of its own.  It has one line of five
cells for each field just if every name, column type, description and list of constraints fits its
cell: a text with a pipe after an odd number of backslashes would cut its cell in two, and one with
a carriage return between characters that show would break its line.  Where they fit, the lines are
those of the fields in order, with their texts in the cells.
-/
theorem field_rows_iff {settings : Settings} {dialect : Sql.Dialect}
    (named : Sql.Dialect.ofJson settings.dialect = .ok dialect) {ending : String}
    (known : ending ∈ ["\n", "\r\n"]) (set : settings.lineEnding = .str ending) {table : Table}
    (nonempty : table.fields ≠ []) :
    ∃ generator content before after,
      Artifact.Kind.documentation.generator settings {} = .ok generator ∧
      generator.artifact (.table table) =
        .ok (.made content (Artifact.targetWarnings (.table table))
          (generator.details (.table table))) ∧
      content = before ++ "## Fields" ++ ending ++ ending ++
        withLineEnding ending (fieldTable dialect table) ++ ending ++ after ∧
      IsApart ending after ∧
      (HasFieldRows (withLineEnding ending (fieldTable dialect table)) table.fields.length ↔
        ∀ field ∈ table.fields, ∀ text ∈ shownTexts dialect field, FitsCell text) ∧
      ((∀ field ∈ table.fields, ∀ text ∈ shownTexts dialect field, FitsCell text) →
        ∃ header rule,
          brokenLines (withLineEnding ending (fieldTable dialect table)).toList =
            header :: rule :: table.fields.map (rowLine dialect) ∧
          ∀ field ∈ table.fields,
            HasCells (rowLine dialect field) ((fieldRow dialect field).map padded)) := by
  obtain ⟨generator, content, before, after, made, written, text, apart⟩ :=
    exists_fieldTable named set nonempty
  refine ⟨generator, content, before, after, made, written, text, apart,
    hasFieldRows_iff known dialect table, fun fit => ?_⟩
  exact ⟨_, _, brokenLines_of_fitsCell known fit⟩

def pipedTable : Table where
  name := "options"
  fields :=
    [{ name := "a|b", description := "one\r\ntwo\n|\r", sqlType := "SET('\x60|')" },
     { name := "\\\\|", description := "\rC:\\", foreignKey := some ⟨"pi|pe", "id"⟩ }]

theorem field_rows_iff_pipedTable :
    Sql.Dialect.ofJson (.str "sqlite") = .ok .sqlite ∧ "\r\n" ∈ ["\n", "\r\n"] ∧
      pipedTable.fields ≠ [] ∧
      ∃ settings : Settings, settings.lineEnding = .str "\r\n" ∧
      ∃ generator content before after,
        Artifact.Kind.documentation.generator settings {} = .ok generator ∧
        generator.artifact (.table pipedTable) =
          .ok (.made content (Artifact.targetWarnings (.table pipedTable))
            (generator.details (.table pipedTable))) ∧
        content = before ++ "## Fields" ++ "\r\n" ++ "\r\n" ++
          withLineEnding "\r\n" (fieldTable .sqlite pipedTable) ++ "\r\n" ++ after ∧
        HasFieldRows (withLineEnding "\r\n" (fieldTable .sqlite pipedTable)) 2 := by
  have named : Sql.Dialect.ofJson (.str "sqlite") = .ok .sqlite := rfl
  have known : "\r\n" ∈ ["\n", "\r\n"] := by decide
  have nonempty : pipedTable.fields ≠ [] := List.cons_ne_nil _ _
  have fit : ∀ field ∈ pipedTable.fields, ∀ text ∈ shownTexts .sqlite field, FitsCell text := by
    decide +kernel
  refine ⟨named, known, nonempty, { dialect := .str "sqlite", lineEnding := .str "\r\n" }, rfl, ?_⟩
  obtain ⟨generator, content, before, after, made, written, text, -, rows, -⟩ :=
    @field_rows_iff { dialect := .str "sqlite", lineEnding := .str "\r\n" } _ named _ known rfl _
      nonempty
  exact ⟨generator, content, before, after, made, written, text, rows.mpr fit⟩

def slashedTable : Table where
  name := "points"
  fields := [{ name := "x\\|y" }]

def returnTable : Table where
  name := "points"
  fields := [{ name := "x", description := "left\rright" }]

theorem not_hasFieldRows :
    ∃ settings : Settings, settings.lineEnding = .str "\n" ∧
      ∀ table ∈ [slashedTable, returnTable], ∃ generator content before after,
        Artifact.Kind.documentation.generator settings {} = .ok generator ∧
        generator.artifact (.table table) =
          .ok (.made content (Artifact.targetWarnings (.table table))
            (generator.details (.table table))) ∧
        content = before ++ "## Fields" ++ "\n" ++ "\n" ++
          withLineEnding "\n" (fieldTable .sqlite table) ++ "\n" ++ after ∧
        ¬ HasFieldRows (withLineEnding "\n" (fieldTable .sqlite table)) table.fields.length := by
  refine ⟨{ dialect := .str "sqlite" }, rfl, fun table mem => ?_⟩
  have nonempty : table.fields ≠ [] := by
    revert table
    decide
  have cut : ¬ ∀ field ∈ table.fields, ∀ text ∈ shownTexts .sqlite field, FitsCell text := by
    revert table
    decide +kernel
  obtain ⟨generator, content, before, after, made, written, text, -⟩ :=
    @exists_fieldTable { dialect := .str "sqlite" } .sqlite rfl "\n" rfl table nonempty
  refine ⟨generator, content, before, after, made, written, text, fun rows => cut ?_⟩
  exact (hasFieldRows_iff (by decide) _ _).mp rows

end SchemaArtifacts.Markdown
