import SchemaArtifacts.Proofs.Artifact.Bundle
import SchemaArtifacts.Proofs.Csv.ReadBack
import SchemaArtifacts.Proofs.Sample.Draws

/-!
# Sample data in both formats

Records and JSON are written from the same rows.  Read back, the records of a table are the names
of its fields and then, row by row, the texts of the values that JSON has for them.
-/

namespace SchemaArtifacts.Sample

open Artifact SchemaArtifacts.Random

def documentOf (found : List (Table × List Row)) : Json :=
  .obj (found.map fun entry => (entry.1.name, rowsJson entry.2))

/-- The names of the fields, then the texts of the values of each row. -/
def blockOf (entry : Table × List Row) : List (List String) :=
  names entry.1 :: entry.2.map fun row => row.map fun cell => cellText cell.2

theorem ofPairs_documentOf {schema : Schema} (distinct : schema.HasDistinctNames) {count : Nat}
    {found : List (Table × List Row)} (filled : IsFilled schema.tables count found) :
    Json.obj (Keyed.ofPairs (found.map fun (table, rows) => (table.name, rowsJson rows))) =
      documentOf found := by
  have keys : Keyed.keys (found.map fun entry => (entry.1.name, rowsJson entry.2)) =
      schema.tables.map (·.name) := by
    rw [← filled.tables, Keyed.keys, List.map_map, List.map_map]
    rfl
  rw [documentOf, Keyed.ofPairs_of_nodup (keys ▸ distinct)]

theorem records_eq_blockOf {entry : Table × List Row} (distinct : (names entry.1).Nodup)
    (columns : ∀ row ∈ entry.2, row.map Prod.fst = names entry.1) :
    records entry.1 entry.2 = blockOf entry := by
  have cells : ∀ row ∈ entry.2, ((names entry.1).map fun name => cellText (valueOf row name)) =
      row.map fun cell => cellText cell.2 := by
    intro row mem
    have keys : (Keyed.keys row).Nodup := by
      rw [Keyed.keys, columns row mem]
      exact distinct
    rw [← columns row mem, List.map_map]
    refine List.map_congr_left fun cell hcell => ?_
    simp only [Function.comp_apply, valueOf, Keyed.get?_of_mem keys hcell, Option.getD_some]
  rw [records, blockOf, List.map_congr_left cells]

section Texts

variable {settings : Settings} {source : UuidSource} {readDate : DateReader} {schema : Schema}
  {count : Nat} {found : List (Table × List Row)} {after : UuidSource}

theorem schemaText_eq (asked : rowCount settings.sampleRows = .ok count)
    (run : (tableRows UuidSource.draw readDate schema.tables count).run source = .ok (found, after))
    (format : Format) :
    schemaText format settings source readDate schema =
      match format with
      | .json =>
        jsonText settings
          (.obj (Keyed.ofPairs (found.map fun (table, rows) => (table.name, rowsJson rows))))
      | .records => do
        let ending ←
          if schema.tables.isEmpty then joiningBreak settings else settings.lineEndingText
        return String.intercalate ending
          (found.map fun (table, rows) => recordsText ending table rows) := by
  cases none : schema.tables.isEmpty with
  | false =>
      cases format <;>
        simp only [schemaText, none, Bool.false_eq_true, if_false, asked, run, bind, Except.bind]
  | true =>
      rw [List.isEmpty_iff.mp none] at run
      cases run
      simp only [schemaText, List.isEmpty_iff.mp none]
      cases format <;> rfl

theorem schemaText_json (distinct : schema.HasDistinctNames)
    (asked : rowCount settings.sampleRows = .ok count)
    (run : (tableRows UuidSource.draw readDate schema.tables count).run source = .ok (found, after))
    (filled : IsFilled schema.tables count found) :
    schemaText .json settings source readDate schema = jsonText settings (documentOf found) := by
  rw [schemaText_eq asked run, ← ofPairs_documentOf distinct filled]

theorem schemaText_records (fields : schema.HasDistinctFields)
    (asked : rowCount settings.sampleRows = .ok count) {ending : String}
    (ended : settings.lineEnding = .str ending)
    (run : (tableRows UuidSource.draw readDate schema.tables count).run source = .ok (found, after))
    (filled : IsFilled schema.tables count found) :
    schemaText .records settings source readDate schema =
      .ok (Csv.write ending (List.intercalate [[]] (found.map blockOf))) := by
  have blocks : ∀ entry ∈ found, recordsText ending entry.1 entry.2 =
      Csv.write ending (blockOf entry) := by
    intro entry mem
    have table : entry.1 ∈ schema.tables := filled.tables ▸ List.mem_map_of_mem mem
    rw [recordsText, records_eq_blockOf (fields entry.1 table) (filled.columns entry mem)]
  have joining : joiningBreak settings = .ok ending := by
    simp [joiningBreak, ended]
  have lines : settings.lineEndingText = .ok ending := by
    simp [Settings.lineEndingText, ended]
  rw [schemaText_eq asked run]
  simp only [joining, lines, ite_self, bind, Except.bind, pure, Except.pure]
  rw [List.map_congr_left blocks, Csv.write_intercalate, List.map_map]
  rfl

end Texts

theorem exists_sampleGenerator {settings : Settings} {supply : Supply} {format : Format}
    {source : UuidSource} (formatted : Format.ofSettings settings = .ok format)
    (supplied : supply.source settings = .ok source) :
    ∃ generator, Kind.sampleData.generator settings supply = .ok generator ∧
      ∀ target, generator.content target =
        targetText format settings source supply.readDate target := by
  refine ⟨_, by rw [Kind.generator_sampleData, sampleGenerator, formatted]; rfl, ?_⟩
  intro target
  simp only [Generator.content, Generator.format, supplied, bind, Except.bind]
  cases targetText format settings source supply.readDate target <;> rfl

/--
As long as no moment is needed after the year 9999, the rows of a schema draw one identifier for
each row and each field of identifiers without an example value, and the cells of these fields hold
the identifiers in order.  Both formats show
these rows: JSON has them under the names of their tables, and a reader of records gets the names
of the fields and the texts of the same values, table by table with an empty record between two.
-/
theorem sampleData_shows_drawn_rows {schema : Schema} (distinct : schema.HasDistinctNames)
    (fields : schema.HasDistinctFields) (readDate : DateReader) (source : UuidSource)
    {count : Nat} (dated : ∀ table ∈ schema.tables, IsDatedFor table count) :
    ∃ found identifiers after,
      (tableRows UuidSource.draw readDate schema.tables count).run source = .ok (found, after) ∧
      (UuidSource.take (count * drawCount schema.tables)).run source = (identifiers, after) ∧
      (∀ answer, source = .called answer 0 →
        identifiers = (List.range (count * drawCount schema.tables)).map answer ∧
          after = .called answer (count * drawCount schema.tables)) ∧
      identifierCells found = identifiers.map Json.str ∧
      IsFilled schema.tables count found ∧
      ∀ settings supply format, supply.source settings = .ok source →
        supply.readDate = readDate → rowCount settings.sampleRows = .ok count →
        Format.ofSettings settings = .ok format →
        ∃ generator, Kind.sampleData.generator settings supply = .ok generator ∧
          (format = .json →
            generator.content (.schema schema) = jsonText settings (documentOf found)) ∧
          (format = .records → settings.lineEnding = .str "\n" →
            ∃ text, generator.content (.schema schema) = .ok text ∧
              Csv.readLines "\n" text = some (List.intercalate [[]] (found.map blockOf))) := by
  obtain ⟨⟨found, after⟩, run⟩ :=
    (exists_run_tableRows_iff UuidSource.draw readDate source).mpr dated
  obtain ⟨identifiers, drawn, shown⟩ :=
    showsDraws_tableRows UuidSource.draw readDate fields count source found after run
  have filled := isFilled_tableRows UuidSource.draw readDate fields run
  have number : identifiers.length = count * drawCount schema.tables := by
    simpa [shown] using filled.length_identifierCells
  have taken := take_of_draws drawn
  rw [number] at taken
  refine ⟨found, identifiers, after, run, taken, ?_, shown, filled, ?_⟩
  · rintro answer rfl
    rw [take_called, Nat.zero_add, ← List.range_eq_range', Prod.mk.injEq] at taken
    exact ⟨taken.1.symm, taken.2.symm⟩
  · rintro settings supply format supplied rfl asked formatted
    obtain ⟨generator, made, written⟩ := exists_sampleGenerator formatted supplied
    refine ⟨generator, made, ?_, ?_⟩
    · rintro rfl
      rw [written, targetText, schemaText_json distinct asked run filled]
    · rintro rfl ended
      refine ⟨_, ?_, Csv.readLines_write (.inl rfl) _⟩
      rw [written, targetText, schemaText_records fields asked ended run filled]

/-- Two fields of identifiers without examples, one with an example, a moment as someone wrote it,
and a table without fields. -/
def shopSchema : Schema where
  name := "shop"
  tables :=
    [{ name := "users"
       fields :=
        [{ name := "id", type := .uuid },
         { name := "name", exampleValue := "Ann, \"A\"\n" },
         { name := "since", type := .datetime, exampleValue := "March 3rd 2024" }] },
     { name := "empty" },
     { name := "orders"
       fields :=
        [{ name := "paid", type := .bool },
         { name := "token", type := .uuid, exampleValue := "t" },
         { name := "id", type := .uuid },
         { name := "at", type := .datetime },
         { name := "price", type := .float }] }]

def readShopDate (s : String) : Option Time.Moment :=
  if s = "March 3rd 2024" then some ⟨⟨2024, 3, 3⟩, {}⟩ else none

def shopSupply : Supply := { source? := some (.called Text.numeral 0), readDate := readShopDate }

def shopRecords : List (List String) :=
  [["id", "name", "since"], ["0", "Ann, \"A\"\n", "2024-03-03 00:00:00"],
   ["1", "Ann, \"A\"\n", "2024-03-03 00:00:00"], [],
   [], [], [], [],
   ["paid", "token", "id", "at", "price"], ["true", "t", "2", "2024-01-01 09:00:00", "10.50"],
   ["false", "t", "3", "2024-01-02 09:00:00", "21.00"]]

theorem sampleData_shows_drawn_rows_shopSchema :
    shopSchema.HasDistinctNames ∧ shopSchema.HasDistinctFields ∧
    (∀ table ∈ shopSchema.tables, IsDatedFor table 2) ∧
    ∃ generator text,
      Kind.sampleData.generator { sampleRows := .int 2 } shopSupply = .ok generator ∧
      generator.content (.schema shopSchema) = .ok text ∧
      Csv.readLines "\n" text = some shopRecords := by
  have distinct : shopSchema.HasDistinctNames := by decide
  have fields : shopSchema.HasDistinctFields := by decide
  have dated : ∀ table ∈ shopSchema.tables, IsDatedFor table 2 := by
    have last : IsDated 1 := by decide
    intro _ _ index before _ _ _ _
    exact last.of_le (by omega)
  obtain ⟨found, identifiers, after, run, -, -, -, -, generated⟩ :=
    sampleData_shows_drawn_rows distinct fields readShopDate (.called Text.numeral 0) dated
  obtain ⟨generator, made, -, records⟩ :=
    generated { sampleRows := .int 2 } shopSupply .records rfl rfl rfl rfl
  obtain ⟨text, written, back⟩ := records rfl rfl
  have shown : ((tableRows UuidSource.draw readShopDate shopSchema.tables 2).run
      (.called Text.numeral 0)).toOption.map
        (fun result => List.intercalate [[]] (result.1.map blockOf)) = some shopRecords := by
    decide +kernel
  rw [run] at shown
  exact ⟨distinct, fields, dated, generator, text, made, written, back.trans shown⟩

end SchemaArtifacts.Sample
