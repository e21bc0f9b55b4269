import SchemaArtifacts.Artifact.Kind
import SchemaArtifacts.Proofs.Escape.Delimited

/-!
# Field lists read back

A reader of records as RFC 4180 describes them: cells with commas between them, in double quotes
or bare, and records that end in a given line ending.  What a field list holds of the fields of a
target is read back from its text, whatever their texts contain.
-/

namespace SchemaArtifacts.Csv

open Artifact Escape Text

def isBare (c : Char) : Bool := c != '"' && c != ',' && c != '\r' && c != '\n'

def readCell : Reader Char String
  | '"' :: cs => (readDelimited '"' cs).map fun (text, rest) => (String.ofList text, rest)
  | cs => some (String.ofList (cs.takeWhile isBare), cs.dropWhile isBare)

def readRecord (ending : List Char) : Reader Char (List String) := fun cs => do
  let (cells, rest) ← readSeparated [','] readCell cs
  if rest.isEmpty then return (cells, rest)
  let others ← afterPattern? ending rest
  return (cells, others)

def readRecords (ending text : String) : Option (List (List String)) :=
  readAll (readRecord ending.toList) text.toList

theorem readCell_cellChars (text : String) {rest : List Char} (ends : rest.head? ≠ some '"') :
    readCell (cellChars text.toList ++ rest) = some (text, rest) := by
  have delimited := readDelimited_doubled text.toList ends
  simp only [cellChars, delimitedChars, List.append_assoc, List.cons_append, List.nil_append,
    readCell, delimited, Option.map_some, String.ofList_toList]

def recordChars (cells : List String) : List Char :=
  List.intercalate [','] (cells.map fun text => cellChars text.toList)

theorem toList_record (ending : String) (cells : List String) :
    (record ending cells).toList = recordChars cells ++ ending.toList := by
  simp [record, recordChars, cell, String.toList_intercalate, Function.comp_def]

theorem toList_write (ending : String) (records : List (List String)) :
    (write ending records).toList =
      records.flatMap fun cells => recordChars cells ++ ending.toList := by
  simp [write, String.toList_join, List.flatMap_def, toList_record, Function.comp_def]

theorem recordChars_ne_nil {cells : List String} (nonempty : cells ≠ []) :
    recordChars cells ≠ [] := by
  cases cells with
  | nil => exact absurd rfl nonempty
  | cons text others =>
      cases others <;> simp [recordChars, List.intercalate, cellChars, delimitedChars]

theorem readRecord_recordChars {ending : List Char} {first : Char}
    (starts : ending.head? = some first) (outside : first ≠ '"' ∧ first ≠ ',')
    {cells : List String} (nonempty : cells ≠ []) (rest : List Char) :
    readRecord ending (recordChars cells ++ ending ++ rest) = some (cells, rest) := by
  have reads : ∀ text ∈ cells, ∀ rest : List Char, rest.head? ≠ some '"' →
      readCell (cellChars text.toList ++ rest) = some (text, rest) :=
    fun text _ rest ends => readCell_cellChars text ends
  have remaining : (ending ++ rest).head? = some first := by
    rw [List.head?_append, starts, Option.some_or]
  have ends : (ending ++ rest).head? ≠ some '"' ∧ afterPattern? [','] (ending ++ rest) = none := by
    obtain ⟨others, written⟩ := List.head?_eq_some_iff.mp remaining
    rw [written]
    simp [afterPattern?, outside.1, outside.2.symm]
  have separated := readSeparated_intercalate nonempty reads (by simp) ends
  rw [← recordChars, ← List.append_assoc] at separated
  have more : (ending ++ rest).isEmpty = false := by
    cases ending with
    | nil => simp at starts
    | cons => rfl
  unfold readRecord
  rw [separated]
  simp only [Option.bind_eq_bind, Option.bind_some, more, Bool.false_eq_true, if_false,
    afterPattern?_append]
  rfl

theorem readRecords_write {ending : String} (breaks : ending = "\n" ∨ ending = "\r\n")
    {records : List (List String)} (nonempty : ∀ cells ∈ records, cells ≠ []) :
    readRecords ending (write ending records) = some records := by
  have starts : ∃ first, ending.toList.head? = some first ∧ first ≠ '"' ∧ first ≠ ',' := by
    rcases breaks with rfl | rfl
    · exact ⟨'\n', by decide⟩
    · exact ⟨'\r', by decide⟩
  obtain ⟨first, starts, outside⟩ := starts
  have reads : ∀ cells ∈ records, ∀ rest,
      readRecord ending.toList (recordChars cells ++ ending.toList ++ rest) =
        some (id cells, rest) :=
    fun cells mem rest => readRecord_recordChars starts outside (nonempty cells mem) rest
  have some : ∀ cells ∈ records, recordChars cells ++ ending.toList ≠ [] :=
    fun cells mem => List.append_ne_nil_of_left_ne_nil (recordChars_ne_nil (nonempty cells mem)) _
  rw [readRecords, toList_write, readAll_flatMap reads some, List.map_id]

/-! ## Blocks of records

A record without cells is written as an ending alone, so it can separate blocks of records.  A
reader that takes such a record for what it is reads every list of records back.
-/

def readLine (ending : List Char) : Reader Char (List String) := fun cs =>
  match afterPattern? ending cs with
  | some rest => some ([], rest)
  | none => readRecord ending cs

def readLines (ending text : String) : Option (List (List String)) :=
  readAll (readLine ending.toList) text.toList

theorem head?_recordChars {cells : List String} (nonempty : cells ≠ []) :
    (recordChars cells).head? = some '"' := by
  cases cells with
  | nil => exact absurd rfl nonempty
  | cons text others =>
      cases others <;> simp [recordChars, List.intercalate, cellChars, delimitedChars]

theorem afterPattern?_eq_none {pattern cs : List Char} {first : Char}
    (starts : pattern.head? = some first) (differs : cs.head? ≠ some first) :
    afterPattern? pattern cs = none := by
  rw [Option.eq_none_iff_forall_ne_some]
  rintro rest taken
  rw [afterPattern?_eq_some_iff.mp taken, List.head?_append, starts] at differs
  exact differs rfl

theorem readLine_recordChars {ending : List Char} {first : Char}
    (starts : ending.head? = some first) (outside : first ≠ '"' ∧ first ≠ ',')
    (cells : List String) (rest : List Char) :
    readLine ending (recordChars cells ++ ending ++ rest) = some (cells, rest) := by
  by_cases empty : cells = []
  · subst empty
    have written : recordChars [] ++ ending ++ rest = ending ++ rest := rfl
    rw [readLine, written, afterPattern?_append]
  · have quoted : (recordChars cells ++ ending ++ rest).head? ≠ some first := by
      rw [List.append_assoc, List.head?_append, head?_recordChars empty]
      simpa using outside.1.symm
    rw [readLine, afterPattern?_eq_none starts quoted]
    exact readRecord_recordChars starts outside empty rest

theorem readLines_write {ending : String} (breaks : ending = "\n" ∨ ending = "\r\n")
    (records : List (List String)) : readLines ending (write ending records) = some records := by
  have starts : ∃ first, ending.toList.head? = some first ∧ first ≠ '"' ∧ first ≠ ',' := by
    rcases breaks with rfl | rfl
    · exact ⟨'\n', by decide⟩
    · exact ⟨'\r', by decide⟩
  obtain ⟨first, starts, outside⟩ := starts
  have reads : ∀ cells ∈ records, ∀ rest,
      readLine ending.toList (recordChars cells ++ ending.toList ++ rest) = some (id cells, rest) :=
    fun cells _ rest => readLine_recordChars starts outside cells rest
  have some : ∀ cells ∈ records, recordChars cells ++ ending.toList ≠ [] := by
    intro cells _ empty
    rw [(List.append_eq_nil_iff.mp empty).2] at starts
    cases starts
  rw [readLines, toList_write, readAll_flatMap reads some, List.map_id]

theorem write_intercalate (ending : String) (blocks : List (List (List String))) :
    write ending (List.intercalate [[]] blocks) =
      String.intercalate ending (blocks.map (write ending)) := by
  have append (first second : List (List String)) :
      write ending (first ++ second) = write ending first ++ write ending second := by
    simp [write]
  have separator : write ending [[]] = ending := by
    simp [write, record]
  induction blocks with
  | nil => rfl
  | cons block others ih =>
      cases others with
      | nil => simp [String.intercalate_singleton]
      | cons next others =>
          rw [List.intercalate_cons_cons, append, append, separator, ih, List.map_cons,
            List.map_cons, List.map_cons, String.intercalate_cons_cons, String.append_assoc]

/-- The text of each column of a field list, for one field. -/
def shownTexts (dialect : Sql.Dialect) (field : Field) : List String :=
  [field.name,
   field.type.tag,
   if field.sqlType = "" then dialect.types.typeName field.type else field.sqlType,
   if field.required then "Yes" else "No",
   if field.unique then "Yes" else "No",
   if field.primaryKey then "Yes" else "No",
   match field.foreignKey with
   | some key => key.table ++ "." ++ key.column
   | none => "",
   field.description,
   field.exampleValue,
   field.category,
   field.notes]

theorem fieldRecord_eq (dialect : Sql.Dialect) (field : Field) :
    fieldRecord dialect field = shownTexts dialect field := by
  have type : (if Sql.columnType dialect field = "" then field.sqlType
      else Sql.columnType dialect field) = Sql.columnType dialect field := by
    by_cases given : field.sqlType = ""
    · by_cases blank : Sql.columnType dialect field = ""
      · rw [if_pos blank, given, blank]
      · rw [if_neg blank]
    · rw [if_neg (by simp [Sql.columnType, given])]
  simp only [fieldRecord, fieldCells, type]
  cases key : field.foreignKey <;>
    simp [Sql.columnType, yesNo, shownTexts, key, ForeignKey.dotted]

/-- The header and the fields of a target in order, each of a schema after the name of its table. -/
def shownRecords (dialect : Sql.Dialect) : Target → List (List String)
  | .table table => headers :: table.fields.map (shownTexts dialect)
  | .schema schema =>
    ("Table" :: headers) ::
      schema.tables.flatMap fun table =>
        table.fields.map fun field => table.name :: shownTexts dialect field

theorem records_eq (dialect : Sql.Dialect) (target : Target) :
    records dialect target = shownRecords dialect target := by
  have same : fieldRecord dialect = shownTexts dialect := funext (fieldRecord_eq dialect)
  cases target <;> simp [records, tableRecords, schemaRecords, shownRecords, same]

theorem ne_nil_of_mem_shownRecords {dialect : Sql.Dialect} {target : Target} {cells : List String}
    (mem : cells ∈ shownRecords dialect target) : cells ≠ [] := by
  cases target with
  | table table =>
      rcases List.mem_cons.mp mem with rfl | mem
      · simp [headers]
      · obtain ⟨field, -, rfl⟩ := List.mem_map.mp mem
        simp [shownTexts]
  | schema schema =>
      rcases List.mem_cons.mp mem with rfl | mem
      · simp
      · obtain ⟨table, -, mem⟩ := List.mem_flatMap.mp mem
        obtain ⟨field, -, rfl⟩ := List.mem_map.mp mem
        simp

/--
A field list is generated for every target, and a reader of records gets from it the header and
one record for each field, in order, whose cells are the texts that are shown of the field.
-/
theorem fieldList_reads_back {settings : Settings} {dialect : Sql.Dialect} {ending : String}
    (named : Sql.Dialect.ofJson settings.dialect = .ok dialect)
    (ended : settings.lineEnding = .str ending) (breaks : ending = "\n" ∨ ending = "\r\n")
    (target : Target) :
    ∃ generator content, Kind.csv.generator settings {} = .ok generator ∧
      generator.artifact target =
        .ok (.made content (targetWarnings target) (generator.details target)) ∧
      readRecords ending content = some (shownRecords dialect target) := by
  have lineEnding : settings.lineEndingText = .ok ending := by
    simp [Settings.lineEndingText, ended]
  refine ⟨_, write ending (records dialect target),
    by simp only [Kind.generator, fieldListGenerator, named]; rfl, ?_, ?_⟩
  · simp [Generator.artifact, Generator.content, Generator.format, lineEnding, fieldListText, bind,
      Except.bind, pure, Except.pure]
  · rw [records_eq]
    exact readRecords_write breaks fun _ mem => ne_nil_of_mem_shownRecords mem

def quotedSchema : Schema where
  name := "quoted"
  tables :=
    [{ name := "a,\"b\""
       fields :=
        [{ name := "\"", type := .relation, required := true
           foreignKey := some ⟨"users", "id"⟩
           description := "first\r\nsecond\rthird\n"
           notes := " , " }] }]

theorem fieldList_reads_back_quotedSchema :
    ∃ settings : Settings, Sql.Dialect.ofJson settings.dialect = .ok .mysql ∧
      settings.lineEnding = .str "\r\n" ∧
      ∃ generator content, Kind.csv.generator settings {} = .ok generator ∧
        generator.artifact (.schema quotedSchema) =
          .ok (.made content (targetWarnings (.schema quotedSchema))
            (generator.details (.schema quotedSchema))) ∧
        readRecords "\r\n" content =
          some
            ["Table" :: headers,
             ["a,\"b\"", "\"", "relation", "VARCHAR(36)", "Yes", "No", "No", "users.id",
              "first\r\nsecond\rthird\n", "", "", " , "]] := by
  have named : Sql.Dialect.ofJson (.str "mysql") = .ok .mysql := rfl
  refine ⟨{ dialect := .str "mysql", lineEnding := .str "\r\n" }, named, rfl, ?_⟩
  exact @fieldList_reads_back { dialect := .str "mysql", lineEnding := .str "\r\n" } _ _ named rfl
    (.inr rfl) (.schema quotedSchema)

end SchemaArtifacts.Csv
