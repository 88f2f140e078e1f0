import Waypost.Fault.Basic

/-!
# Moments in documents

A moment is a number of milliseconds since the start of 1970. A document shows it in universal
time with whole seconds.

* `civilDate` -- year, month and day of a day number, by the proleptic Gregorian calendar;
* `secondsOfMillis` -- the whole seconds of a moment, after rounding it to microseconds;
* `momentText` -- the text of a moment. The year is not filled with zeros;
* `clockMillis` -- a reading of the clock in whole seconds as a moment that has a text.
-/

namespace Waypost

open Decimal

/-! ## 1. Calendar -/

/-- Year, month and day of a day counted from the first of January 1970. Years are counted from
    March on, so that the leap day is the last of its year, in eras of 400 years. -/
def civilDate (day : Int) : Int × Nat × Nat :=
  let shifted := day + 719468
  let era := shifted / 146097
  let dayOfEra := (shifted % 146097).toNat
  let yearOfEra :=
    (dayOfEra - dayOfEra / 1460 + dayOfEra / 36524 - dayOfEra / 146096) / 365
  let dayOfYear := dayOfEra - (365 * yearOfEra + yearOfEra / 4 - yearOfEra / 100)
  let shiftedMonth := (5 * dayOfYear + 2) / 153
  let monthDay := dayOfYear - (153 * shiftedMonth + 2) / 5 + 1
  let month := if shiftedMonth < 10 then shiftedMonth + 3 else shiftedMonth - 9
  let year := (yearOfEra : Int) + era * 400
  (if month ≤ 2 then year + 1 else year, month, monthDay)

/-- The least and the greatest number that a calendar can take for a year, counted from 1900. -/
def calendarYears : Int × Int := (-2147483648, 2147483647)

/-- The number by which a calendar shows a year, which has 32 bits. A year is counted from 1900
    before, so some that the calendar takes are shown by a wrong number. -/
def shownYear (year : Int) : Int := Int.bmod year 0x100000000

/-- The text of a number of seconds since the start of 1970. -/
def secondsText (seconds : Int) : Except Fault String :=
  let (year, month, day) := civilDate (seconds / 86400)
  let second := (seconds % 86400).toNat
  if year - 1900 < calendarYears.1 || calendarYears.2 < year - 1900 then
    .error (.unexpected .momentBeyondCalendar)
  else if year < 1 || 9999 < year then .error (.unexpected (.yearOutOfRange (shownYear year)))
  else
    let two := zeroPadded 2
    .ok (toString year ++ "-" ++ two month ++ "-" ++ two day ++ "T" ++ two (second / 3600) ++ ":"
      ++ two (second / 60 % 60) ++ ":" ++ two (second % 60) ++ "Z")

/-- Refuses a number of seconds that does not fit into 64 bits. -/
def checkSeconds (seconds : Int) : Except Fault Int :=
  if seconds < -0x8000000000000000 || 0x8000000000000000 ≤ seconds then
    .error (.unexpected .momentOutOfRange)
  else .ok seconds

/-! ## 2. Milliseconds -/

/-- The whole seconds of a number of seconds: its fraction is rounded to microseconds first, which
    may carry over, and a negative fraction counts from the second below. -/
def wholeSeconds (seconds : Float) : Except Fault Int :=
  match truncate? seconds with
  | .error .nan => .error (.unexpected .momentNotANumber)
  | .error .infinite => .error (.unexpected .momentOutOfRange)
  | .ok whole => do
    let micros ← wholeNumber (nearest? ((seconds - Float.ofInt whole) * 1e6))
    let carried :=
      if 1000000 ≤ micros then whole + 1
      else if micros < 0 then whole - 1
      else whole
    checkSeconds carried

/-- The whole seconds of a moment in milliseconds. -/
def secondsOfMillis (millis : Float) : Except Fault Int := wholeSeconds (millis / 1000.0)

/-- The text of a moment in milliseconds. -/
def momentText (millis : Float) : Except Fault String := do
  secondsText (← secondsOfMillis millis)

/-- A reading of the clock in whole seconds, as milliseconds. It must have a text. -/
def clockMillis (now : Int) : Except Fault Int := do
  let _ ← secondsText (← checkSeconds now)
  return now * 1000

end Waypost
