import SchemaArtifacts.Proofs.Sample.Draws
import SchemaArtifacts.Proofs.Time.Calendar

/-!
# Placeholders that tell rows apart

Most placeholders show the number of their row, in the same frame in each row, and those of moments
show one day after the other.  So the cells of such a field are all different, and moments stand in
the order of their rows.
-/

namespace SchemaArtifacts.Sample

open Text Time

variable {σ : Type}

/-- The placeholders of the field show the number of the row, or its day. -/
def IsNumbered (field : Field) : Prop :=
  field.exampleValue = "" ∧
    (field.type ∈ [.int, .datetime, .relation, .image, .json, .string, .text] ∨
      field.type = .enum ∧ field.enumValues = [])

theorem IsNumbered.type_ne_uuid {field : Field} (numbered : IsNumbered field) :
    field.type ≠ .uuid := by
  rintro identifier
  rcases numbered.2 with listed | ⟨choice, -⟩
  · rw [identifier] at listed
    exact absurd listed (by decide)
  · rw [identifier] at choice
    cases choice

/-- Apart from moments, a placeholder is the number of the row between two texts that are the same
in all rows. -/
theorem exists_frame (table : Table) {field : Field} (numbered : IsNumbered field)
    (undated : field.type ≠ .datetime) :
    ∃ before after : String, ∀ number value, placeholder table field number = .ok value →
      cellText value = before ++ (numeral number ++ after) := by
  have plain : ∀ number, numeral number = "" ++ (numeral number ++ "") := by simp
  have named : ∀ number value, Except.ok (.str (field.name ++ " " ++ numeral number)) =
      (.ok value : Except Fault Json) →
        cellText value = (field.name ++ " ") ++ (numeral number ++ "") := by
    rintro number _ ⟨⟩
    simp [cellText, Json.plainText]
  rcases numbered.2 with listed | ⟨choice, none⟩
  · simp only [List.mem_cons, List.not_mem_nil, or_false] at listed
    rcases listed with type | type | type | type | type | type | type
    case inl =>
      refine ⟨"", "", fun number value made => ?_⟩
      simp only [placeholder, type] at made
      cases made
      exact plain number
    case inr.inl => exact absurd type undated
    case inr.inr.inl =>
      refine ⟨"", "", fun number value made => ?_⟩
      simp only [placeholder, type] at made
      cases made
      exact plain number
    case inr.inr.inr.inl =>
      refine ⟨"https://example.com/images/" ++ table.name ++ "-", ".jpg", ?_⟩
      intro number value made
      simp only [placeholder, type] at made
      cases made
      exact String.append_assoc
    case inr.inr.inr.inr.inl =>
      refine ⟨"\x7b\"id\": ", "\x7d", fun number value made => ?_⟩
      simp only [placeholder, type] at made
      cases made
      exact String.append_assoc
    all_goals
      refine ⟨_, _, fun number value made => named number value ?_⟩
      simpa only [placeholder, type] using made
  · refine ⟨_, _, fun number value made => named number value ?_⟩
    simp only [placeholder, choice, none] at made
    exact made

theorem le_year_dateOf (index : Nat) : 2024 ≤ (dateOf index).year := by
  refine Date.year_le_of_dayNumber_le base_isOnCalendar (dateOf_isOnCalendar index) ?_
  rw [dayNumber_dateOf]
  exact Nat.le_add_right _ _

theorem IsDated.year_le {index : Nat} (dated : IsDated index) : (dateOf index).year ≤ 9999 :=
  (Date.isValid_iff.mp (isValid_dateOf_iff.mpr dated)).2

theorem text_base_addDays (index : Nat) :
    (Moment.base.addDays index).text = (dateOf index).text ++ " 09:00:00" := by
  have clock : Moment.base.clock.text = "09:00:00" := by
    simp [Clock.text, Moment.base, paddedNumeral, numeralChars, digitChar]
  rw [Moment.text, Moment.addDays, clock, String.append_assoc]
  rfl

theorem text_base_addDays_lt {index later : Nat} (before : index < later) (dated : IsDated later) :
    (Moment.base.addDays index).text < (Moment.base.addDays later).text := by
  have earlier : IsDated index := dated.of_le before.le
  have real := dateOf_isOnCalendar index
  have real_later := dateOf_isOnCalendar later
  have large : ∀ index, 1000 ≤ (dateOf index).year :=
    fun index => (by decide : 1000 ≤ 2024).trans (le_year_dateOf index)
  have dates : (dateOf index).IsBefore (dateOf later) := by
    rw [← Date.dayNumber_lt_iff real real_later, dayNumber_dateOf, dayNumber_dateOf]
    exact Nat.add_lt_add_left before _
  rw [text_base_addDays, text_base_addDays, String.lt_iff, String.toList_append,
    String.toList_append]
  refine append_lt_append (dates.text_lt real real_later (large index) dated.year_le) ?_ _ _
  rw [Date.length_text real (large index) earlier.year_le,
    Date.length_text real_later (large later) dated.year_le]

def column (field : Field) (rows : List Row) : List String :=
  rows.map fun row => cellText (valueOf row field.name)

section Columns

variable (draw : StateM σ String) (readDate : DateReader) {table : Table} {field : Field}

theorem placeholder_of_fieldValue (numbered : IsNumbered field) {number : Nat} {start after : σ}
    {value : Json}
    (done : (fieldValue draw readDate table number field).run start = .ok (value, after)) :
    placeholder table field number = .ok value := by
  rw [run_fieldValue] at done
  simp only [numbered.1, numbered.type_ne_uuid, ne_eq, not_true_eq_false, if_false] at done
  obtain ⟨found, made, same⟩ := map_eq_ok_iff.mp done
  cases same
  exact made

variable (distinct : (names table).Nodup) (mem : field ∈ table.fields)
  (numbered : IsNumbered field)
include distinct mem numbered

theorem placeholder_of_row {number : Nat} {start after : σ} {found : Row}
    (done : (row draw readDate table number).run start = .ok (found, after)) :
    placeholder table field number = .ok (valueOf found field.name) := by
  have stored := (run_row_eq_ok_iff draw readDate distinct).mp done
  have columns := map_fst_entries draw readDate stored
  have keys : (Keyed.keys found).Nodup := by
    rw [Keyed.keys, columns]
    exact distinct
  -- Only the field itself has its name.
  have values : ∀ entry ∈ found,
      entry.1 = field.name → placeholder table field number = .ok entry.2 := by
    refine forall_mem_of_mapM (fun other member before entry next made same => ?_) stored
    obtain ⟨value, shown, rfl⟩ := run_bind_pure_eq_ok_iff.mp made
    obtain rfl : other = field := List.inj_on_of_nodup_map distinct member mem same
    exact placeholder_of_fieldValue draw readDate numbered shown
  obtain ⟨entry, among, name⟩ : ∃ entry ∈ found, entry.1 = field.name := by
    rw [← List.mem_map, columns]
    exact List.mem_map_of_mem mem
  rw [values entry among name, valueOf, ← name, Keyed.get?_of_mem keys among, Option.getD_some]

theorem exists_placeholder_of_getElem? {count index : Nat} {start after : σ} {rows : List Row}
    (done : (rowsReading draw readDate table count).run start = .ok (rows, after)) {cell : String}
    (found : (column field rows)[index]? = some cell) :
    ∃ value, placeholder table field (index + 1) = .ok value ∧ cell = cellText value := by
  have pairs : List.Forall₂
      (fun index row => placeholder table field (index + 1) = .ok (valueOf row field.name))
      (List.range count) rows :=
    forall₂_of_mapM (fun index _ before row next made =>
      placeholder_of_row draw readDate distinct mem numbered made) done
  obtain ⟨row, listed, rfl⟩ := Option.map_eq_some_iff.mp (List.getElem?_map ▸ found)
  obtain ⟨inside, rfl⟩ := List.getElem?_eq_some_iff.mp listed
  have made := pairs.get (pairs.length_eq ▸ inside) inside
  refine ⟨_, ?_, rfl⟩
  simpa using made

end Columns

/-- The cells are different in all rows, and moments go forward by a day from row to row.  Rows are
counted from zero. -/
structure TellsRowsApart (field : Field) (cells : List String) : Prop where
  shown : ∀ cell ∈ cells, cell ≠ ""
  apart : ∀ (index other : Nat) cell different, cells[index]? = some cell →
    cells[other]? = some different → index ≠ other → cell ≠ different
  days : field.type = .datetime → ∀ (index : Nat) cell, cells[index]? = some cell →
    ∃ date : Date, date.isValid ∧ date.dayNumber = Date.dayNumber ⟨2024, 1, 1⟩ + index ∧
      cell = date.text ++ " 09:00:00"
  order : field.type = .datetime → ∀ (index other : Nat) cell different, cells[index]? = some cell →
    cells[other]? = some different → (cell < different ↔ index < other)

section Cells

variable {table : Table} {field : Field} {index other : Nat} {value different : Json}
  (made : placeholder table field (index + 1) = .ok value)
include made

theorem cellText_datetime (moment : field.type = .datetime) :
    IsDated index ∧ cellText value = (Moment.base.addDays index).text := by
  rw [placeholder_datetime table moment] at made
  split at made
  case isTrue dated =>
    cases made
    exact ⟨dated, rfl⟩
  case isFalse => cases made

theorem cellText_ne_empty (numbered : IsNumbered field) : cellText value ≠ "" := by
  by_cases moment : field.type = .datetime
  · obtain ⟨-, text⟩ := cellText_datetime made moment
    rw [text, text_base_addDays]
    simp
  · obtain ⟨before, after, framed⟩ := exists_frame table numbered moment
    have digits := numeralChars_ne_nil (index + 1)
    rw [framed _ _ made]
    simp [numeral, digits]

variable (made' : placeholder table field (other + 1) = .ok different)
include made'

theorem cellText_ne (numbered : IsNumbered field) (apart : index ≠ other) :
    cellText value ≠ cellText different := by
  by_cases moment : field.type = .datetime
  · obtain ⟨here, text⟩ := cellText_datetime made moment
    obtain ⟨there, text'⟩ := cellText_datetime made' moment
    rw [text, text']
    rcases Nat.lt_or_gt_of_ne apart with before | after
    · exact String.ne_of_lt (text_base_addDays_lt before there)
    · exact (String.ne_of_lt (text_base_addDays_lt after here)).symm
  · obtain ⟨before, after, framed⟩ := exists_frame table numbered moment
    rw [framed _ _ made, framed _ _ made', ne_eq, String.append_right_inj, String.append_left_inj,
      numeral_inj]
    omega

theorem cellText_lt_iff (moment : field.type = .datetime) :
    cellText value < cellText different ↔ index < other := by
  obtain ⟨here, text⟩ := cellText_datetime made moment
  obtain ⟨there, text'⟩ := cellText_datetime made' moment
  rw [text, text']
  refine ⟨fun smaller => ?_, fun before => text_base_addDays_lt before there⟩
  rcases Nat.lt_trichotomy index other with before | rfl | after
  · exact before
  · exact absurd smaller (String.lt_irrefl _)
  · exact absurd smaller (String.lt_asymm (text_base_addDays_lt after here))

end Cells

/--
The rows of a table are built just if their moments end before the year 10000.  Fields without an
example value whose placeholders show the number of the row, or its day, tell the rows apart.
-/
theorem tellsRowsApart_column (draw : StateM σ String) (readDate : DateReader) {table : Table}
    (distinct : (names table).Nodup) (count : Nat) (start : σ) :
    ((∃ result, (rowsReading draw readDate table count).run start = .ok result) ↔
      IsDatedFor table count) ∧
    ∀ rows after, (rowsReading draw readDate table count).run start = .ok (rows, after) →
      rows.length = count ∧
      ∀ field ∈ table.fields, IsNumbered field → TellsRowsApart field (column field rows) := by
  refine ⟨exists_run_rowsReading_iff draw readDate table count start, fun rows after done =>
    ⟨length_rowsReading draw readDate done, fun field mem numbered => ?_⟩⟩
  have cells : ∀ index cell, (column field rows)[index]? = some cell →
      ∃ value, placeholder table field (index + 1) = .ok value ∧ cell = cellText value :=
    fun index cell =>
      exists_placeholder_of_getElem? draw readDate distinct mem numbered done
  refine ⟨?shown, ?apart, ?days, ?order⟩
  case shown =>
    intro cell member
    obtain ⟨index, found⟩ := List.getElem?_of_mem member
    obtain ⟨value, made, rfl⟩ := cells index cell found
    exact cellText_ne_empty made numbered
  case apart =>
    intro index other cell different found stored apart
    obtain ⟨value, made, rfl⟩ := cells index cell found
    obtain ⟨_, made', rfl⟩ := cells other different stored
    exact cellText_ne made made' numbered apart
  case days =>
    intro moment index cell found
    obtain ⟨value, made, rfl⟩ := cells index cell found
    obtain ⟨dated, text⟩ := cellText_datetime made moment
    exact ⟨dateOf index, isValid_dateOf_iff.mpr dated, dayNumber_dateOf index,
      text.trans (text_base_addDays index)⟩
  case order =>
    intro moment index other cell different found stored
    obtain ⟨value, made, rfl⟩ := cells index cell found
    obtain ⟨_, made', rfl⟩ := cells other different stored
    exact cellText_lt_iff made made' moment

def visits : Table :=
  { name := "visits"
    fields := [{ name := "at", type := .datetime }, { name := "seat", type := .int }] }

/-- A year of visits, over the last of February and into the next January. -/
theorem tellsRowsApart_column_visits :
    (names visits).Nodup ∧ IsDatedFor visits 367 ∧
      ∃ rows after, (rowsReading (pure "") (fun _ => none) visits 367).run () = .ok (rows, after) ∧
        rows.length = 367 ∧
        ∀ field ∈ visits.fields, IsNumbered field ∧ TellsRowsApart field (column field rows) := by
  have distinct : (names visits).Nodup := by decide
  have dated : IsDatedFor visits 367 := by
    have last : IsDated 366 := by decide
    intro index before _ _ _ _
    exact last.of_le (by omega)
  obtain ⟨built, each⟩ := tellsRowsApart_column (pure "") (fun _ => none) distinct 367 ()
  obtain ⟨⟨rows, after⟩, done⟩ := built.mpr dated
  obtain ⟨length, apart⟩ := each rows after done
  refine ⟨distinct, dated, rows, after, done, length, fun field mem => ?_⟩
  have numbered : IsNumbered field := by
    simp only [visits, List.mem_cons, List.not_mem_nil, or_false] at mem
    rcases mem with rfl | rfl
    · exact ⟨rfl, .inl (by decide)⟩
    · exact ⟨rfl, .inl (by decide)⟩
  exact ⟨numbered, apart field mem numbered⟩

end SchemaArtifacts.Sample
