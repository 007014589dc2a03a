/-!
# Moments

A moment is a number of milliseconds since the beginning of the year 1970.  Records show it as a
calendar date with a time of day.

The years of the calendar are counted here from March on, so that the day that not every year has
comes last; then the months before any day of a year have a fixed length together.
-/

namespace SprayWatch.Log

/-- A moment, in milliseconds. -/
structure Moment where
  ms : Nat
  deriving Repr, DecidableEq

namespace Moment

/-- A day of the calendar. -/
structure Date where
  year : Nat
  month : Nat
  day : Nat
  deriving Repr, DecidableEq

/-- The days from the first of March of the year 0 to the beginning of the year 1970. -/
def daysBefore1970 : Nat := 719468

/-- The days of 400 years, after which the calendar repeats itself. -/
def cycle : Nat := 146097

/-- The date that is a number of days after the beginning of the year 1970. -/
def dateOf (days : Nat) : Date :=
  let days := days + daysBefore1970
  let inCycle := days % cycle
  let yearOfCycle := (inCycle - inCycle / 1460 + inCycle / 36524 - inCycle / 146096) / 365
  let inYear := inCycle - (365 * yearOfCycle + yearOfCycle / 4 - yearOfCycle / 100)
  let month := (5 * inYear + 2) / 153
  let year := days / cycle * 400 + yearOfCycle
  ⟨if month < 10 then year else year + 1, if month < 10 then month + 3 else month - 9,
    inYear - (153 * month + 2) / 5 + 1⟩

def padded (digits n : Nat) : String :=
  let text := toString n
  String.ofList (List.replicate (digits - text.length) '0') ++ text

def text (m : Moment) : String :=
  let date := dateOf (m.ms / 86400000)
  let inDay := m.ms % 86400000
  String.join [toString date.year, "-", padded 2 date.month, "-", padded 2 date.day, " ",
    padded 2 (inDay / 3600000), ":", padded 2 (inDay / 60000 % 60), ":",
    padded 2 (inDay / 1000 % 60), ".", padded 3 (inDay % 1000), " (+0 UTC)"]

example : dateOf 0 = ⟨1970, 1, 1⟩ := by decide
example : dateOf 59 = ⟨1970, 3, 1⟩ := by decide
example : dateOf 11016 = ⟨2000, 2, 29⟩ := by decide
example : dateOf 19722 = ⟨2023, 12, 31⟩ := by decide

end Moment

end SprayWatch.Log
