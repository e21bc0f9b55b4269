import Mathlib.Tactic.IntervalCases
import SchemaArtifacts.Proofs.Text.Numerals
import SchemaArtifacts.Time.Date

/-!
# Days of the calendar

The days from the first of January of the year 1 are numbered by the rule of leap years: so many
days lie before a year, and so many before each of its months.  Moving on by days adds to that
number.  An earlier date has a smaller one, and in years of four digits its text comes first.
-/

namespace SchemaArtifacts.Time

open Text

/-- Days before a year: each fourth year has one more, but for the full centuries that are no
multiple of 400. -/
def daysBeforeYear (year : Nat) : Nat :=
  365 * (year - 1) + (year - 1) / 4 - (year - 1) / 100 + (year - 1) / 400

def leapDays (year : Nat) : Nat := if isLeapYear year then 1 else 0

def daysBeforeMonth (year month : Nat) : Nat :=
  [0, 31, 59, 90, 120, 151, 181, 212, 243, 273, 304, 334].getD (month - 1) 365 +
    if 2 < month then leapDays year else 0

theorem daysBeforeYear_succ {year : Nat} (first : 1 ≤ year) :
    daysBeforeYear (year + 1) = daysBeforeYear year + 365 + leapDays year := by
  obtain ⟨past, rfl⟩ := Nat.exists_eq_add_of_le' first
  have fewer : past / 100 ≤ past / 4 := Nat.div_le_div_left (by decide) (by decide)
  have hundred : (past + 1) % 100 = 0 → (past + 1) % 4 = 0 := by omega
  have fourHundred : (past + 1) % 400 = 0 → (past + 1) % 100 = 0 := by omega
  simp only [daysBeforeYear, leapDays, isLeapYear, Nat.add_sub_cancel, Nat.succ_div,
    Nat.dvd_iff_mod_eq_zero]
  by_cases fourth : (past + 1) % 4 = 0
  · by_cases century : (past + 1) % 100 = 0
    · by_cases leap : (past + 1) % 400 = 0 <;> simp [fourth, century, leap] <;> omega
    · have common : (past + 1) % 400 ≠ 0 := fun leap => century (fourHundred leap)
      simp [fourth, century, common]
      omega
  · have plain : (past + 1) % 100 ≠ 0 := fun century => fourth (hundred century)
    have common : (past + 1) % 400 ≠ 0 := fun leap => plain (fourHundred leap)
    simp [fourth, plain, common]
    omega

theorem daysBeforeYear_mono {year other : Nat} (first : 1 ≤ year) (earlier : year ≤ other) :
    daysBeforeYear year ≤ daysBeforeYear other := by
  induction other, earlier using Nat.le_induction with
  | base => exact Nat.le_refl _
  | succ other earlier ih =>
      rw [daysBeforeYear_succ (first.trans earlier)]
      omega

theorem daysBeforeMonth_succ {month : Nat} (first : 1 ≤ month) (last : month < 12) (year : Nat) :
    daysBeforeMonth year (month + 1) = daysBeforeMonth year month + daysInMonth year month := by
  by_cases leap : isLeapYear year = true <;>
    interval_cases month <;> simp [daysBeforeMonth, daysInMonth, leapDays, leap]

theorem daysBeforeMonth_twelve (year : Nat) :
    daysBeforeMonth year 12 + daysInMonth year 12 = 365 + leapDays year := by
  simp [daysBeforeMonth, daysInMonth]
  omega

theorem daysBeforeMonth_le {month other : Nat} (first : 1 ≤ month) (earlier : month < other)
    (last : other ≤ 12) (year : Nat) :
    daysBeforeMonth year month + daysInMonth year month ≤ daysBeforeMonth year other := by
  induction other, earlier using Nat.le_induction with
  | base => rw [daysBeforeMonth_succ first (by omega)]
  | succ other earlier ih =>
      rw [daysBeforeMonth_succ (by omega) (by omega)]
      have := ih (by omega)
      omega

theorem daysBeforeMonth_add_le {month : Nat} (first : 1 ≤ month) (last : month ≤ 12)
    (year : Nat) :
    daysBeforeMonth year month + daysInMonth year month ≤ 365 + leapDays year := by
  rcases Nat.lt_or_eq_of_le last with earlier | rfl
  · have := daysBeforeMonth_le first earlier (Nat.le_refl 12) year
    have := daysBeforeMonth_twelve year
    omega
  · exact (daysBeforeMonth_twelve year).le

namespace Date

/-- The date has a month of twelve and a day of that month, in whatever year. -/
structure IsOnCalendar (date : Date) : Prop where
  year : 1 ≤ date.year
  firstMonth : 1 ≤ date.month
  lastMonth : date.month ≤ 12
  firstDay : 1 ≤ date.day
  lastDay : date.day ≤ daysInMonth date.year date.month

/-- The number of a day, which is 1 on the first of January of the year 1. -/
def dayNumber (date : Date) : Nat :=
  daysBeforeYear date.year + daysBeforeMonth date.year date.month + date.day

variable {date other : Date}

theorem isValid_iff : date.isValid = true ↔ date.IsOnCalendar ∧ date.year ≤ 9999 := by
  simp only [isValid, Bool.and_eq_true, decide_eq_true_eq]
  constructor
  · rintro ⟨⟨⟨⟨⟨year, four⟩, firstMonth⟩, lastMonth⟩, firstDay⟩, lastDay⟩
    exact ⟨⟨year, firstMonth, lastMonth, firstDay, lastDay⟩, four⟩
  · rintro ⟨⟨year, firstMonth, lastMonth, firstDay, lastDay⟩, four⟩
    exact ⟨⟨⟨⟨⟨year, four⟩, firstMonth⟩, lastMonth⟩, firstDay⟩, lastDay⟩

theorem one_le_daysInMonth (year month : Nat) : 1 ≤ daysInMonth year month := by
  rw [daysInMonth]
  split
  · split <;> decide
  · split <;> decide

theorem IsOnCalendar.next (real : date.IsOnCalendar) : date.next.IsOnCalendar := by
  obtain ⟨year, firstMonth, lastMonth, firstDay, lastDay⟩ := real
  rw [Date.next]
  split
  case isTrue within => exact ⟨year, firstMonth, lastMonth, by simp, within⟩
  case isFalse =>
    split
    case isTrue more =>
      exact ⟨year, by simp, more, Nat.le_refl 1, one_le_daysInMonth _ _⟩
    case isFalse =>
      exact ⟨by simp, Nat.le_refl 1, by simp, Nat.le_refl 1, one_le_daysInMonth _ _⟩

theorem dayNumber_next (real : date.IsOnCalendar) : date.next.dayNumber = date.dayNumber + 1 := by
  obtain ⟨year, firstMonth, lastMonth, firstDay, lastDay⟩ := real
  rw [next]
  split
  case isTrue => simp only [dayNumber, Nat.add_assoc]
  case isFalse ended =>
    have lastOfMonth : date.day = daysInMonth date.year date.month := by omega
    split
    case isTrue more =>
      simp only [dayNumber, daysBeforeMonth_succ firstMonth more, lastOfMonth]
      omega
    case isFalse full =>
      have december : date.month = 12 := by omega
      have whole := daysBeforeMonth_twelve date.year
      have january : daysBeforeMonth (date.year + 1) 1 = 0 := rfl
      simp only [dayNumber, daysBeforeYear_succ year, lastOfMonth, december, january]
      omega

theorem IsOnCalendar.addDays (real : date.IsOnCalendar) (days : Nat) :
    (date.addDays days).IsOnCalendar := by
  induction days with
  | zero => exact real
  | succ days ih => exact ih.next

theorem dayNumber_addDays (real : date.IsOnCalendar) (days : Nat) :
    (date.addDays days).dayNumber = date.dayNumber + days := by
  induction days with
  | zero => rfl
  | succ days ih => rw [Date.addDays, dayNumber_next (real.addDays days), ih, Nat.add_assoc]

example : dayNumber ⟨2024, 3, 1⟩ = dayNumber ⟨2024, 2, 28⟩ + 2 := by decide

def IsBefore (date other : Date) : Prop :=
  date.year < other.year ∨
    date.year = other.year ∧
      (date.month < other.month ∨ date.month = other.month ∧ date.day < other.day)

theorem IsBefore.year_le (before : date.IsBefore other) : date.year ≤ other.year := by
  rcases before with earlier | ⟨same, -⟩
  · exact earlier.le
  · exact same.le

theorem isBefore_trichotomy (date other : Date) :
    date.IsBefore other ∨ date = other ∨ other.IsBefore date := by
  obtain ⟨year, month, day⟩ := date
  obtain ⟨year', month', day'⟩ := other
  simp only [IsBefore, mk.injEq]
  omega

theorem IsOnCalendar.dayNumber_le (real : date.IsOnCalendar) :
    date.dayNumber ≤ daysBeforeYear (date.year + 1) := by
  have fills := daysBeforeMonth_add_le real.firstMonth real.lastMonth date.year
  have := real.lastDay
  rw [dayNumber, daysBeforeYear_succ real.year]
  omega

theorem IsBefore.dayNumber_lt (before : date.IsBefore other) (real : date.IsOnCalendar)
    (later : other.IsOnCalendar) : date.dayNumber < other.dayNumber := by
  rcases before with years | ⟨years, months | ⟨months, days⟩⟩
  · have whole := real.dayNumber_le
    have passed := daysBeforeYear_mono (Nat.le_add_left 1 date.year) years
    have := later.firstDay
    simp only [dayNumber] at whole ⊢
    omega
  · have passed := daysBeforeMonth_le real.firstMonth months later.lastMonth other.year
    have within := real.lastDay
    have := later.firstDay
    rw [years] at within
    rw [dayNumber, dayNumber, years]
    omega
  · rw [dayNumber, dayNumber, years, months]
    omega

theorem dayNumber_lt_iff (real : date.IsOnCalendar) (later : other.IsOnCalendar) :
    date.dayNumber < other.dayNumber ↔ date.IsBefore other := by
  refine ⟨fun smaller => ?_, fun before => before.dayNumber_lt real later⟩
  rcases isBefore_trichotomy date other with before | rfl | after
  · exact before
  · exact absurd smaller (Nat.lt_irrefl _)
  · exact absurd (after.dayNumber_lt later real) (Nat.lt_asymm smaller)

theorem year_le_of_dayNumber_le (real : date.IsOnCalendar) (other_real : other.IsOnCalendar)
    (earlier : date.dayNumber ≤ other.dayNumber) : date.year ≤ other.year := by
  rcases isBefore_trichotomy date other with before | rfl | after
  · exact before.year_le
  · exact Nat.le_refl _
  · exact absurd earlier (Nat.not_le_of_lt (after.dayNumber_lt other_real real))

theorem isOnCalendar_lastOfYear {year : Nat} (first : 1 ≤ year) :
    IsOnCalendar ⟨year, 12, 31⟩ := by
  constructor <;> simp [daysInMonth, first]

theorem dayNumber_lastOfYear {year : Nat} (first : 1 ≤ year) :
    dayNumber ⟨year, 12, 31⟩ = daysBeforeYear (year + 1) := by
  have fills := daysBeforeMonth_twelve year
  have december : daysInMonth year 12 = 31 := by simp [daysInMonth]
  simp only [dayNumber, daysBeforeYear_succ first]
  omega

theorem year_le_iff (real : date.IsOnCalendar) {year : Nat} (first : 1 ≤ year) :
    date.year ≤ year ↔ date.dayNumber ≤ dayNumber ⟨year, 12, 31⟩ := by
  constructor
  · intro early
    have passed := daysBeforeYear_mono (Nat.le_add_left 1 date.year) (Nat.succ_le_succ early)
    rw [dayNumber_lastOfYear first]
    exact real.dayNumber_le.trans passed
  · exact year_le_of_dayNumber_le real (isOnCalendar_lastOfYear first)

theorem length_numeralChars_year {year : Nat} (large : 1000 ≤ year) (small : year ≤ 9999) :
    (numeralChars year).length = 4 := by
  have units : numeralChars (year / 10 / 10 / 10) = [digitChar (year / 10 / 10 / 10)] := by
    rw [numeralChars, if_pos (by omega)]
  rw [numeralChars, if_neg (by omega), numeralChars, if_neg (by omega), numeralChars,
    if_neg (by omega), units]
  rfl

theorem toList_text (large : 1000 ≤ date.year) (small : date.year ≤ 9999) :
    date.text.toList =
      (paddedNumeral 4 date.year).toList ++ ('-' :: (paddedNumeral 2 date.month).toList ++
        '-' :: (paddedNumeral 2 date.day).toList) := by
  rw [text, ← paddedNumeral_of_length (length_numeralChars_year large small)]
  simp [String.toList_append]

theorem IsOnCalendar.day_lt (real : date.IsOnCalendar) : date.day < Nat.pow 10 2 := by
  have most : daysInMonth date.year date.month ≤ 31 := by
    rw [daysInMonth]
    split
    · split <;> decide
    · split <;> decide
  have := real.lastDay
  change date.day < 100
  omega

theorem IsOnCalendar.month_lt (real : date.IsOnCalendar) : date.month < Nat.pow 10 2 := by
  have := real.lastMonth
  change date.month < 100
  omega

theorem length_text (real : date.IsOnCalendar) (large : 1000 ≤ date.year)
    (small : date.year ≤ 9999) : date.text.toList.length = 10 := by
  have bound : date.year < Nat.pow 10 4 := Nat.lt_succ_of_le small
  rw [toList_text large small]
  simp only [List.length_append, List.length_cons, length_paddedNumeral (by decide) bound,
    length_paddedNumeral (by decide) real.month_lt, length_paddedNumeral (by decide) real.day_lt]

theorem IsBefore.text_lt (before : date.IsBefore other) (real : date.IsOnCalendar)
    (later : other.IsOnCalendar) (large : 1000 ≤ date.year) (small : other.year ≤ 9999) :
    date.text.toList < other.text.toList := by
  have years := before.year_le
  have bound : other.year < Nat.pow 10 4 := Nat.lt_succ_of_le small
  rw [toList_text large (years.trans small), toList_text (large.trans years) small]
  rcases before with earlier | ⟨same, months | ⟨alike, days⟩⟩
  · refine append_lt_append (paddedNumeral_lt (by decide) earlier bound) ?_ _ _
    rw [length_paddedNumeral (by decide) bound,
      length_paddedNumeral (by decide) (earlier.trans bound)]
  · rw [same, List.cons_append, List.cons_append]
    refine List.append_left_lt (List.Lex.cons (append_lt_append ?_ ?_ _ _))
    · exact paddedNumeral_lt (by decide) months later.month_lt
    · rw [length_paddedNumeral (by decide) later.month_lt,
        length_paddedNumeral (by decide) real.month_lt]
  · rw [same, alike]
    refine List.append_left_lt (List.append_left_lt (List.Lex.cons ?_))
    exact paddedNumeral_lt (by decide) days later.day_lt

end Date

end SchemaArtifacts.Time
