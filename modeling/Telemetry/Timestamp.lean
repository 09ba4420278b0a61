import Telemetry.Text.Digits
import Telemetry.Word

/-!
Contract: instants as calendar text.

Owns: the proleptic Gregorian calendar date of a day number, and the RFC 3339
text in UTC with milliseconds.

A time of 64 bits is read as a signed number of milliseconds since the start of
1970. Years outside 0 to 9999 carry a sign, and instants outside the years
-262143 to 262142 have no text.
-/

namespace Telemetry

/-- A calendar date. -/
structure CivilDate where
  year : Int
  month : Nat
  day : Nat
deriving DecidableEq, Repr

namespace CivilDate

/-- The date a number of days after 1 January 1970. Years are counted from March, in
cycles of 400 years, so that the leap day ends a year. -/
def ofDayNumber (days : Int) : CivilDate :=
  let shifted := days + 719468
  let cycle := shifted.fdiv 146097
  let dayOfCycle := (shifted - cycle * 146097).toNat
  let yearOfCycle :=
    (dayOfCycle - dayOfCycle / 1460 + dayOfCycle / 36524 - dayOfCycle / 146096) / 365
  let dayOfYear := dayOfCycle - (365 * yearOfCycle + yearOfCycle / 4 - yearOfCycle / 100)
  let monthFromMarch := (5 * dayOfYear + 2) / 153
  let day := dayOfYear - (153 * monthFromMarch + 2) / 5 + 1
  let month := if monthFromMarch < 10 then monthFromMarch + 3 else monthFromMarch - 9
  let year := (yearOfCycle : Int) + cycle * 400 + (if month ≤ 2 then 1 else 0)
  { year, month, day }

end CivilDate

namespace Timestamp

def yearText (year : Int) : String :=
  if 0 ≤ year ∧ year ≤ 9999 then Text.padded 4 year.toNat
  else (if year < 0 then "-" else "+") ++ Text.padded 4 year.natAbs

/-- Sixty-four bits as a signed number. -/
def signed (bits : Nat) : Int :=
  if bits < Word.size 63 then (bits : Int) else (bits : Int) - Word.size 64

/-- The text of a signed number of milliseconds since the start of 1970. -/
def text? (milliseconds : Int) : Option String :=
  let days := milliseconds.fdiv 86400000
  let ofDay := (milliseconds - days * 86400000).toNat
  let date := CivilDate.ofDayNumber days
  if -262143 ≤ date.year ∧ date.year ≤ 262142 then
    some (yearText date.year ++ "-" ++ Text.padded 2 date.month ++ "-" ++ Text.padded 2 date.day ++
      "T" ++ Text.padded 2 (ofDay / 3600000) ++ ":" ++ Text.padded 2 (ofDay / 60000 % 60) ++ ":" ++
      Text.padded 2 (ofDay / 1000 % 60) ++ "." ++ Text.padded 3 (ofDay % 1000) ++ "Z")
  else none

/-- The text of an event time; empty when there is none. -/
def ofEventTime (time : Nat) : String :=
  (text? (signed time)).getD ""

end Timestamp

end Telemetry
