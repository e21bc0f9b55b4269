import SchemaArtifacts.Text.Numeral

/-!
# Dates

Days of the proleptic Gregorian calendar.  A later day is reached one day at a time, so moving on
by a number of days follows the lengths of the months that lie between.
-/

namespace SchemaArtifacts.Time

open Text

structure Date where
  year : Nat
  month : Nat
  day : Nat
  deriving DecidableEq, Repr

def isLeapYear (year : Nat) : Bool := year % 4 = 0 && (year % 100 ≠ 0 || year % 400 = 0)

def daysInMonth (year month : Nat) : Nat :=
  if month = 2 then (if isLeapYear year then 29 else 28)
  else if month = 4 || month = 6 || month = 9 || month = 11 then 30
  else 31

namespace Date

def isValid (date : Date) : Bool :=
  1 ≤ date.year && date.year ≤ 9999 && 1 ≤ date.month && date.month ≤ 12 && 1 ≤ date.day &&
    date.day ≤ daysInMonth date.year date.month

def next (date : Date) : Date :=
  if date.day < daysInMonth date.year date.month then { date with day := date.day + 1 }
  else if date.month < 12 then ⟨date.year, date.month + 1, 1⟩
  else ⟨date.year + 1, 1, 1⟩

def previous (date : Date) : Date :=
  if 1 < date.day then { date with day := date.day - 1 }
  else if 1 < date.month then
    ⟨date.year, date.month - 1, daysInMonth date.year (date.month - 1)⟩
  else ⟨date.year - 1, 12, 31⟩

def addDays (date : Date) : Nat → Date
  | 0 => date
  | days + 1 => (date.addDays days).next

def subDays (date : Date) : Nat → Date
  | 0 => date
  | days + 1 => (date.subDays days).previous

def text (date : Date) : String :=
  numeral date.year ++ "-" ++ paddedNumeral 2 date.month ++ "-" ++ paddedNumeral 2 date.day

end Date

structure Clock where
  hour : Nat := 0
  minute : Nat := 0
  second : Nat := 0
  deriving DecidableEq, Repr

namespace Clock

def isValid (clock : Clock) : Bool := clock.hour < 24 && clock.minute < 60 && clock.second < 60

def text (clock : Clock) : String :=
  paddedNumeral 2 clock.hour ++ ":" ++ paddedNumeral 2 clock.minute ++ ":" ++
    paddedNumeral 2 clock.second

end Clock

structure Moment where
  date : Date
  clock : Clock
  deriving DecidableEq, Repr

namespace Moment

def text (moment : Moment) : String := moment.date.text ++ " " ++ moment.clock.text

def base : Moment := ⟨⟨2024, 1, 1⟩, ⟨9, 0, 0⟩⟩

def addDays (moment : Moment) (days : Nat) : Moment :=
  { moment with date := moment.date.addDays days }

def subDays (moment : Moment) (days : Nat) : Moment :=
  { moment with date := moment.date.subDays days }

end Moment

end SchemaArtifacts.Time
