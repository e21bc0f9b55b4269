import SchemaArtifacts.Text.LetterCase
import SchemaArtifacts.Text.Trim
import SchemaArtifacts.Text.Word
import SchemaArtifacts.Time.Date

/-!
# Reading moments

A moment is written as a date with hyphens, as a day with the name of a month, or relative to the
base moment.  A time of day may follow a date; without one the day begins.  A date that does not
exist is not read.  Sample rows are built with any reader, of which this is one.
-/

namespace SchemaArtifacts.Time

open Text

def numberOf? (most : Nat) (cs : List Char) : Option Nat :=
  if !cs.isEmpty && cs.length ≤ most && cs.all isAsciiDigit then some (numeralValue cs) else none

def secondsOf? (cs : List Char) : Option Nat :=
  match cs.splitOn '.' with
  | [whole] => numberOf? 2 whole
  | [whole, fraction] =>
    if !fraction.isEmpty && fraction.all isAsciiDigit then numberOf? 2 whole else none
  | _ => none

def clockOf? (cs : List Char) : Option Clock := do
  let clock ←
    match cs.splitOn ':' with
    | [hour, minute] => do pure ⟨← numberOf? 2 hour, ← numberOf? 2 minute, 0⟩
    | [hour, minute, second] => do
      pure (⟨← numberOf? 2 hour, ← numberOf? 2 minute, ← secondsOf? second⟩ : Clock)
    | _ => none
  if clock.isValid then some clock else none

def existing? (date : Date) : Option Date := if date.isValid then some date else none

def hyphenatedDate? (cs : List Char) : Option Date :=
  match cs.splitOn '-' with
  | [year, month, day] => do
    if year.length ≠ 4 then none
    existing? ⟨← numberOf? 4 year, ← numberOf? 2 month, ← numberOf? 2 day⟩
  | _ => none

def monthNames : List String :=
  ["january", "february", "march", "april", "may", "june", "july", "august", "september",
   "october", "november", "december"]

def monthOf? (word : List Char) : Option Nat :=
  (monthNames.findIdx? (·.toList == word)).map (· + 1)

def ordinalEndings : List String := ["st", "nd", "rd", "th"]

def dayOf? (word : List Char) : Option Nat :=
  let ending := word.dropWhile isAsciiDigit
  if ending.isEmpty || ordinalEndings.contains (String.ofList ending) then
    numberOf? 2 (word.takeWhile isAsciiDigit)
  else none

def yearOf? (word : List Char) : Option Nat := if word.length = 4 then numberOf? 4 word else none

def namedDate? (first second year : List Char) : Option Date :=
  match monthOf? first with
  | some month => do existing? ⟨← yearOf? year, month, ← dayOf? second⟩
  | none => do existing? ⟨← yearOf? year, ← monthOf? second, ← dayOf? first⟩

def splitWords (cs : List Char) : List (List Char) :=
  (cs.splitOnP isBlank).filter (!·.isEmpty)

def relativeMoment? (base : Moment) : List (List Char) → Option Moment
  | [word] =>
    if word = "tomorrow".toList then some (base.addDays 1)
    else if word = "yesterday".toList then some (base.subDays 1)
    else if word = "today".toList then some base
    else none
  | [count, unit, ago] =>
    if (unit = "days".toList || unit = "day".toList) && ago = "ago".toList then
      (numberOf? 4 count).map base.subDays
    else none
  | _ => none

def joinedMoment? (word : List Char) : Option Moment :=
  match word.splitOn 't' with
  | [date] => (hyphenatedDate? date).map fun date => ⟨date, {}⟩
  | [date, clock] => do pure ⟨← hyphenatedDate? date, ← clockOf? clock⟩
  | _ => none

def absoluteMoment? : List (List Char) → Option Moment
  | [word] => joinedMoment? word
  | [date, clock] => do pure ⟨← hyphenatedDate? date, ← clockOf? clock⟩
  | [first, second, year] => (namedDate? first second year).map fun date => ⟨date, {}⟩
  | [first, second, year, clock] => do pure ⟨← namedDate? first second year, ← clockOf? clock⟩
  | _ => none

def ofText? (base : Moment) (s : String) : Option Moment :=
  let words := splitWords (lowerChars s.toList)
  (relativeMoment? base words).or (absoluteMoment? words)

end SchemaArtifacts.Time
