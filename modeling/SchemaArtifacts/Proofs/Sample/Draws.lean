import Mathlib.Algebra.BigOperators.Ring.List
import Mathlib.Algebra.Ring.Nat
import SchemaArtifacts.Proofs.Schema.References
import SchemaArtifacts.Proofs.Time.Calendar
import SchemaArtifacts.Sample.Document

/-!
# Identifiers that are drawn

Rows draw one identifier for each cell of a field of identifiers that has no example value, and
nothing else draws.  The cells hold the identifiers in the order in which they are drawn: table by
table, row by row, field by field.
-/

namespace SchemaArtifacts.Sample

open SchemaArtifacts.Random Time

variable {σ α β γ : Type}

inductive Draws (draw : StateM σ String) : σ → List String → σ → Prop
  | none (state : σ) : Draws draw state [] state
  | next {state after : σ} {identifiers : List String}
      (later : Draws draw (draw.run state).2 identifiers after) :
      Draws draw state ((draw.run state).1 :: identifiers) after

theorem Draws.append {draw : StateM σ String} {start middle after : σ} {first second : List String}
    (earlier : Draws draw start first middle) (later : Draws draw middle second after) :
    Draws draw start (first ++ second) after := by
  induction earlier with
  | none => exact later
  | next _ ih => exact .next (ih later)

/-- A drawing whose result shows, in some cells, the identifiers that it draws. -/
def ShowsDraws (draw : StateM σ String) (drawing : Drawing σ α) (cells : α → List Json) : Prop :=
  ∀ start value after, drawing.run start = .ok (value, after) →
    ∃ identifiers, Draws draw start identifiers after ∧ cells value = identifiers.map Json.str

theorem run_bind_pure_eq_ok_iff {drawing : Drawing σ α} {next : α → β} {start after : σ}
    {result : β} :
    (do return next (← drawing) : Drawing σ β).run start = .ok (result, after) ↔
      ∃ value, drawing.run start = .ok (value, after) ∧ next value = result := by
  simp only [StateT.run_bind, bind_eq_ok_iff, Prod.exists]
  constructor
  · rintro ⟨value, last, made, same⟩
    cases same
    exact ⟨value, made, rfl⟩
  · rintro ⟨value, made, rfl⟩
    exact ⟨value, after, made, rfl⟩

theorem exists_run_bind_pure_iff {drawing : Drawing σ α} {next : α → β} {start : σ} :
    (∃ result, (do return next (← drawing) : Drawing σ β).run start = .ok result) ↔
      ∃ result, drawing.run start = .ok result := by
  simp only [Prod.exists, run_bind_pure_eq_ok_iff]
  constructor
  · rintro ⟨-, after, value, made, -⟩
    exact ⟨value, after, made⟩
  · rintro ⟨value, after, made⟩
    exact ⟨next value, after, value, made, rfl⟩

section Steps

variable {draw : StateM σ String} {step : α → Drawing σ β} {items : List α} {values : List β}
  {start after : σ}

theorem run_mapM_cons_eq_ok_iff {item : α} :
    ((item :: items).mapM step).run start = .ok (values, after) ↔
      ∃ value middle others, (step item).run start = .ok (value, middle) ∧
        (items.mapM step).run middle = .ok (others, after) ∧ value :: others = values := by
  simp only [List.mapM_cons, StateT.run_bind, bind_eq_ok_iff, Prod.exists]
  constructor
  · rintro ⟨value, middle, first, others, last, later, same⟩
    cases same
    exact ⟨value, middle, others, first, later, rfl⟩
  · rintro ⟨value, middle, others, first, later, rfl⟩
    exact ⟨value, middle, first, others, after, later, rfl⟩

theorem forall₂_of_mapM {relates : α → β → Prop}
    (each : ∀ item ∈ items, ∀ before value next, (step item).run before = .ok (value, next) →
      relates item value)
    (done : (items.mapM step).run start = .ok (values, after)) :
    List.Forall₂ relates items values := by
  induction items generalizing start values with
  | nil =>
      cases done
      exact .nil
  | cons item rest ih =>
      obtain ⟨value, middle, others, first, later, rfl⟩ := run_mapM_cons_eq_ok_iff.mp done
      exact .cons (each item List.mem_cons_self _ _ _ first)
        (ih (fun other mem => each other (List.mem_cons_of_mem _ mem)) later)

theorem map_of_mapM {shown : β → γ} {expected : α → γ}
    (each : ∀ item ∈ items, ∀ before value next, (step item).run before = .ok (value, next) →
      shown value = expected item)
    (done : (items.mapM step).run start = .ok (values, after)) :
    values.map shown = items.map expected := by
  have pairs := forall₂_of_mapM each done
  clear each done
  induction pairs with
  | nil => rfl
  | cons same _ ih => simp [same, ih]

theorem forall_mem_of_mapM {holds : β → Prop}
    (each : ∀ item ∈ items, ∀ before value next, (step item).run before = .ok (value, next) →
      holds value)
    (done : (items.mapM step).run start = .ok (values, after)) : ∀ value ∈ values, holds value := by
  have pairs := forall₂_of_mapM each done
  clear each done
  induction pairs with
  | nil => simp
  | cons held _ ih => exact List.forall_mem_cons.mpr ⟨held, ih⟩

theorem length_of_mapM (done : (items.mapM step).run start = .ok (values, after)) :
    values.length = items.length := by
  have same : values.map (fun _ => ()) = items.map fun _ => () :=
    map_of_mapM (fun _ _ _ _ _ _ => rfl) done
  simpa using congrArg List.length same

theorem exists_run_mapM_iff {ends : α → Prop}
    (each : ∀ item ∈ items, ∀ before, (∃ result, (step item).run before = .ok result) ↔ ends item) :
    (∃ result, (items.mapM step).run start = .ok result) ↔ ∀ item ∈ items, ends item := by
  induction items generalizing start with
  | nil => exact ⟨fun _ => List.forall_mem_nil _, fun _ => ⟨([], start), rfl⟩⟩
  | cons item rest ih =>
      obtain ⟨here, later⟩ := List.forall_mem_cons.mp each
      rw [List.forall_mem_cons, ← here start]
      constructor
      · rintro ⟨⟨values, after⟩, done⟩
        obtain ⟨value, middle, others, first, others_done, -⟩ := run_mapM_cons_eq_ok_iff.mp done
        exact ⟨⟨_, first⟩, (ih later).mp ⟨_, others_done⟩⟩
      · rintro ⟨⟨⟨value, middle⟩, first⟩, others⟩
        obtain ⟨⟨values, after⟩, others_done⟩ := (@ih middle later).mpr others
        exact ⟨_, run_mapM_cons_eq_ok_iff.mpr ⟨value, middle, values, first, others_done, rfl⟩⟩

theorem showsDraws_mapM {cells : α → β → List Json}
    (each : ∀ item ∈ items, ShowsDraws draw (step item) (cells item)) :
    ShowsDraws draw (items.mapM step) fun values =>
      (items.zip values).flatMap fun pair => cells pair.1 pair.2 := by
  intro start values after done
  induction items generalizing start values with
  | nil =>
      cases done
      exact ⟨[], .none _, rfl⟩
  | cons item rest ih =>
      obtain ⟨value, middle, others, first, later, rfl⟩ := run_mapM_cons_eq_ok_iff.mp done
      obtain ⟨here, there⟩ := List.forall_mem_cons.mp each
      obtain ⟨identifiers, drawn, shown⟩ := here _ _ _ first
      obtain ⟨more, drawn_later, shown_later⟩ := ih there _ _ later
      refine ⟨identifiers ++ more, drawn.append drawn_later, ?_⟩
      simp [shown, shown_later]

theorem showsDraws_mapM_flatMap {cells : β → List Json}
    (each : ∀ item ∈ items, ShowsDraws draw (step item) cells) :
    ShowsDraws draw (items.mapM step) fun values => values.flatMap cells := by
  intro start values after done
  obtain ⟨identifiers, drawn, shown⟩ := showsDraws_mapM each start values after done
  have second : (items.zip values).map Prod.snd = values :=
    List.map_snd_zip (length_of_mapM done).le
  refine ⟨identifiers, drawn, ?_⟩
  calc values.flatMap cells
    _ = ((items.zip values).map Prod.snd).flatMap cells := by rw [second]
    _ = (items.zip values).flatMap fun pair => cells pair.2 := List.flatMap_map ..
    _ = identifiers.map Json.str := shown

end Steps

/-! ## Moments of rows -/

/-- The rows before the first one, counted from zero, that falls into the year 10000. -/
def IsDated (index : Nat) : Prop :=
  Date.dayNumber ⟨2024, 1, 1⟩ + index < Date.dayNumber ⟨10000, 1, 1⟩

instance (index : Nat) : Decidable (IsDated index) := inferInstanceAs (Decidable (_ < _))

example : IsDated 2913173 ∧ ¬IsDated 2913174 := by decide

theorem IsDated.of_le {index later : Nat} (dated : IsDated later) (before : index ≤ later) :
    IsDated index :=
  (Nat.add_le_add_left before _).trans_lt dated

def dateOf (index : Nat) : Date := Moment.base.date.addDays index

theorem base_isOnCalendar : Moment.base.date.IsOnCalendar :=
  (Date.isValid_iff.mp rfl).1

theorem dateOf_isOnCalendar (index : Nat) : (dateOf index).IsOnCalendar :=
  base_isOnCalendar.addDays index

theorem dayNumber_dateOf (index : Nat) :
    (dateOf index).dayNumber = Date.dayNumber ⟨2024, 1, 1⟩ + index :=
  Date.dayNumber_addDays base_isOnCalendar index

theorem isValid_dateOf_iff {index : Nat} : (dateOf index).isValid = true ↔ IsDated index := by
  have real := dateOf_isOnCalendar index
  have next : Date.dayNumber ⟨10000, 1, 1⟩ = Date.dayNumber ⟨9999, 12, 31⟩ + 1 := by decide
  rw [Date.isValid_iff, and_iff_right real, Date.year_le_iff real (by decide), dayNumber_dateOf,
    IsDated, next, Nat.lt_succ_iff]

/-- So many rows of the table need no moment after the year 9999. -/
def IsDatedFor (table : Table) (count : Nat) : Prop :=
  ∀ index < count, ∀ field ∈ table.fields, field.exampleValue = "" → field.type = .datetime →
    IsDated index

def draws (field : Field) : Bool := field.type = .uuid && field.exampleValue == ""

def drawnCells (table : Table) (row : Row) : List Json :=
  (table.fields.zip row).filterMap fun pair => if draws pair.1 then some pair.2.2 else none

theorem placeholder_datetime (table : Table) {field : Field} (moment : field.type = .datetime)
    (index : Nat) :
    placeholder table field (index + 1) =
      if IsDated index then .ok (.str (Moment.base.addDays index).text)
      else .error (.tooLarge "date value out of range") := by
  simp only [placeholder, moment, ← isValid_dateOf_iff]
  rfl

theorem exists_placeholder_iff (table : Table) (field : Field) (index : Nat) :
    (∃ value, placeholder table field (index + 1) = .ok value) ↔
      (field.type = .datetime → IsDated index) := by
  cases type : field.type with
  | datetime =>
      rw [placeholder_datetime table type]
      split <;> simp [*]
  | enum =>
      simp only [placeholder, type]
      split <;> simp
  | _ => simp [placeholder, type]

section Rows

variable (draw : StateM σ String) (readDate : DateReader)

theorem run_fieldValue (table : Table) (number : Nat) (field : Field) (start : σ) :
    (fieldValue draw readDate table number field).run start =
      if field.exampleValue ≠ "" then .ok (.str (exampleText readDate field), start)
      else if field.type = .uuid then .ok (.str (draw.run start).1, (draw.run start).2)
      else (placeholder table field number).map (·, start) := by
  by_cases given : field.exampleValue = ""
  · by_cases identifier : field.type = .uuid
    · simp only [fieldValue, given, identifier]
      rfl
    · simp only [fieldValue, given, identifier]
      cases placeholder table field number <;> rfl
  · simp only [fieldValue, bne_iff_ne, ne_eq, given, not_false_eq_true, if_true]
    rfl

theorem exists_run_fieldValue_iff (table : Table) (index : Nat) (field : Field) (start : σ) :
    (∃ result, (fieldValue draw readDate table (index + 1) field).run start = .ok result) ↔
      (field.exampleValue = "" → field.type = .datetime → IsDated index) := by
  rw [run_fieldValue]
  by_cases given : field.exampleValue = ""
  · by_cases identifier : field.type = .uuid
    · simp [given, identifier]
    · simpa [given, identifier, map_eq_ok_iff] using exists_placeholder_iff table field index
  · simp [given]

theorem showsDraws_fieldValue (table : Table) (number : Nat) (field : Field) :
    ShowsDraws draw (fieldValue draw readDate table number field) fun value =>
      if draws field then [value] else [] := by
  intro start value after done
  rw [run_fieldValue] at done
  by_cases given : field.exampleValue = ""
  · by_cases identifier : field.type = .uuid
    · simp only [given, identifier] at done
      cases done
      exact ⟨[(draw.run start).1], .next (.none _), by simp [draws, given, identifier]⟩
    · have made : (placeholder table field number).map (·, start) = .ok (value, after) := by
        simpa [given, identifier] using done
      obtain ⟨_, -, same⟩ := map_eq_ok_iff.mp made
      cases same
      exact ⟨[], .none _, by simp [draws, identifier]⟩
  · simp only [ne_eq, given, not_false_eq_true, if_true] at done
    cases done
    exact ⟨[], .none _, by simp [draws, given]⟩

/-- The entries of a row, one for each field, before those of one name are put together. -/
def entries (table : Table) (number : Nat) : Drawing σ Row :=
  table.fields.mapM fun field => do
    return (field.name, ← fieldValue draw readDate table number field)

theorem map_fst_entries {table : Table} {number : Nat} {start after : σ} {found : Row}
    (done : (entries draw readDate table number).run start = .ok (found, after)) :
    found.map Prod.fst = names table := by
  refine map_of_mapM (fun field _ before entry next made => ?_) done
  obtain ⟨value, -, rfl⟩ := run_bind_pure_eq_ok_iff.mp made
  rfl

theorem showsDraws_entries (table : Table) (number : Nat) :
    ShowsDraws draw (entries draw readDate table number) (drawnCells table) := by
  have each : ∀ field ∈ table.fields, ShowsDraws draw
      (do return (field.name, ← fieldValue draw readDate table number field))
      fun entry : String × Json => if draws field then [entry.2] else [] := by
    intro field _ start entry after made
    obtain ⟨value, found, rfl⟩ := run_bind_pure_eq_ok_iff.mp made
    exact showsDraws_fieldValue draw readDate table number field start value after found
  intro start found after done
  obtain ⟨identifiers, drawn, shown⟩ := showsDraws_mapM each start found after done
  refine ⟨identifiers, drawn, Eq.trans ?_ shown⟩
  simp only [drawnCells, List.filterMap_eq_flatMap_toList]
  congr 1
  funext pair
  split <;> rfl

theorem exists_run_row_iff (table : Table) (index : Nat) (start : σ) :
    (∃ result, (row draw readDate table (index + 1)).run start = .ok result) ↔
      ∀ field ∈ table.fields, field.exampleValue = "" → field.type = .datetime → IsDated index := by
  rw [row, exists_run_bind_pure_iff]
  refine exists_run_mapM_iff fun field _ before => ?_
  rw [exists_run_bind_pure_iff]
  exact exists_run_fieldValue_iff draw readDate table index field before

theorem exists_run_rowsReading_iff (table : Table) (count : Nat) (start : σ) :
    (∃ result, (rowsReading draw readDate table count).run start = .ok result) ↔
      IsDatedFor table count := by
  simp only [IsDatedFor, ← List.mem_range]
  exact exists_run_mapM_iff fun index _ before =>
    exists_run_row_iff draw readDate table index before

theorem length_rowsReading {table : Table} {count : Nat} {start after : σ} {rows : List Row}
    (done : (rowsReading draw readDate table count).run start = .ok (rows, after)) :
    rows.length = count :=
  (length_of_mapM done).trans List.length_range

variable {table : Table} (distinct : (names table).Nodup)
include distinct

theorem run_row_eq_ok_iff {number : Nat} {start after : σ} {found : Row} :
    (row draw readDate table number).run start = .ok (found, after) ↔
      (entries draw readDate table number).run start = .ok (found, after) := by
  have apart : ∀ found after, (entries draw readDate table number).run start = .ok (found, after) →
      Keyed.ofPairs found = found := by
    intro found after done
    refine Keyed.ofPairs_of_nodup ?_
    rw [Keyed.keys, map_fst_entries draw readDate done]
    exact distinct
  refine run_bind_pure_eq_ok_iff.trans ⟨?_, fun done => ⟨found, done, apart found after done⟩⟩
  rintro ⟨value, done, rfl⟩
  rw [apart value after done]
  exact done

theorem showsDraws_rowsReading (count : Nat) :
    ShowsDraws draw (rowsReading draw readDate table count) (·.flatMap (drawnCells table)) := by
  refine showsDraws_mapM_flatMap fun index _ start found after done => ?_
  rw [run_row_eq_ok_iff draw readDate distinct] at done
  exact showsDraws_entries draw readDate table (index + 1) start found after done

theorem map_fst_of_mem_rowsReading {count : Nat} {start after : σ} {rows : List Row}
    (done : (rowsReading draw readDate table count).run start = .ok (rows, after)) :
    ∀ row ∈ rows, row.map Prod.fst = names table := by
  refine forall_mem_of_mapM (fun index _ before found next made => ?_) done
  rw [run_row_eq_ok_iff draw readDate distinct] at made
  exact map_fst_entries draw readDate made

end Rows

/-! ## Rows of several tables -/

/-- So many rows for each of the tables, with a cell for each field. -/
structure IsFilled (tables : List Table) (count : Nat) (found : List (Table × List Row)) :
    Prop where
  tables : found.map Prod.fst = tables
  counts : ∀ entry ∈ found, entry.2.length = count
  columns : ∀ entry ∈ found, ∀ row ∈ entry.2, row.map Prod.fst = names entry.1

/-- The cells that are filled with identifiers, table by table and row by row. -/
def identifierCells (found : List (Table × List Row)) : List Json :=
  found.flatMap fun entry => entry.2.flatMap (drawnCells entry.1)

/-- How many fields of the tables draw an identifier in each row. -/
def drawCount (tables : List Table) : Nat := (tables.flatMap (·.fields)).countP draws

section Tables

variable (draw : StateM σ String) (readDate : DateReader) {tables : List Table} {count : Nat}

theorem exists_run_tableRows_iff (start : σ) :
    (∃ result, (tableRows draw readDate tables count).run start = .ok result) ↔
      ∀ table ∈ tables, IsDatedFor table count := by
  refine exists_run_mapM_iff fun table _ before => ?_
  rw [exists_run_bind_pure_iff]
  exact exists_run_rowsReading_iff draw readDate table count before

variable (distinct : ∀ table ∈ tables, (names table).Nodup)
include distinct

theorem showsDraws_tableRows (count : Nat) :
    ShowsDraws draw (tableRows draw readDate tables count) identifierCells := by
  refine showsDraws_mapM_flatMap fun table mem start entry after done => ?_
  obtain ⟨rows, made, rfl⟩ := run_bind_pure_eq_ok_iff.mp done
  exact showsDraws_rowsReading draw readDate (distinct table mem) count start rows after made

theorem isFilled_tableRows {start after : σ} {found : List (Table × List Row)}
    (done : (tableRows draw readDate tables count).run start = .ok (found, after)) :
    IsFilled tables count found where
  tables := by
    rw [map_of_mapM ?_ done, List.map_id]
    intro table _ before entry next made
    obtain ⟨rows, -, rfl⟩ := run_bind_pure_eq_ok_iff.mp made
    rfl
  counts := by
    refine forall_mem_of_mapM (fun table _ before entry next made => ?_) done
    obtain ⟨rows, built, rfl⟩ := run_bind_pure_eq_ok_iff.mp made
    exact length_rowsReading draw readDate built
  columns := by
    refine forall_mem_of_mapM (fun table mem before entry next made => ?_) done
    obtain ⟨rows, built, rfl⟩ := run_bind_pure_eq_ok_iff.mp made
    exact map_fst_of_mem_rowsReading draw readDate (distinct table mem) built

end Tables

theorem length_drawnCells {table : Table} {row : Row} (columns : row.map Prod.fst = names table) :
    (drawnCells table row).length = table.fields.countP draws := by
  have lengths : row.length = table.fields.length := by
    simpa [names] using congrArg List.length columns
  have fields : (table.fields.zip row).map Prod.fst = table.fields :=
    List.map_fst_zip lengths.ge
  conv_rhs => rw [← fields, List.countP_map]
  rw [drawnCells, List.length_filterMap_eq_countP]
  congr 1
  funext pair
  by_cases drawn : draws pair.1 <;> simp [drawn]

theorem IsFilled.length_identifierCells {tables : List Table} {count : Nat}
    {found : List (Table × List Row)} (filled : IsFilled tables count found) :
    (identifierCells found).length = count * drawCount tables := by
  have each : ∀ entry ∈ found, (entry.2.flatMap (drawnCells entry.1)).length =
      count * entry.1.fields.countP draws := by
    intro entry mem
    have rows : ∀ row ∈ entry.2, (drawnCells entry.1 row).length = entry.1.fields.countP draws :=
      fun row hrow => length_drawnCells (filled.columns entry mem row hrow)
    rw [List.length_flatMap, List.map_congr_left rows, List.map_const', List.sum_replicate_nat,
      filled.counts entry mem]
  rw [identifierCells, List.length_flatMap, List.map_congr_left each, List.sum_map_mul_left,
    drawCount, ← filled.tables, List.countP_flatMap, List.map_map]
  rfl

theorem run_take_succ (count : Nat) (source : UuidSource) :
    (UuidSource.take (count + 1)).run source =
      ((UuidSource.draw.run source).1 ::
        ((UuidSource.take count).run (UuidSource.draw.run source).2).1,
        ((UuidSource.take count).run (UuidSource.draw.run source).2).2) := rfl

theorem take_of_draws {start after : UuidSource} {identifiers : List String}
    (drawn : Draws UuidSource.draw start identifiers after) :
    (UuidSource.take identifiers.length).run start = (identifiers, after) := by
  induction drawn with
  | none => rfl
  | next _ ih => rw [List.length_cons, run_take_succ, ih]

theorem take_called (answer : Nat → String) (count calls : Nat) :
    (UuidSource.take count).run (.called answer calls) =
      ((List.range' calls count).map answer, .called answer (calls + count)) := by
  induction count generalizing calls with
  | zero => rfl
  | succ count ih =>
      have drawn : UuidSource.draw.run (.called answer calls) =
          (answer calls, .called answer (calls + 1)) := rfl
      rw [run_take_succ, drawn, ih, List.range'_succ, List.map_cons, Nat.add_right_comm,
        Nat.add_assoc]

end SchemaArtifacts.Sample
