/-!
# Dates

Days are counted from the beginning of 1970 in the Gregorian calendar, which is continued before
its introduction; the year before the year 1 is the year 0. Years are taken from March, so that the
leap day is the last day of a year, and in cycles of four hundred years.

## Main definitions

* `CrowdTask.Date`: a date.
* `CrowdTask.Date.ofDayNumber`, `CrowdTask.Date.dayNumber`: dates and days from the beginning of
  1970.
-/

namespace CrowdTask

/-- A date of the Gregorian calendar. -/
structure Date where
  year : Int
  month : Nat
  day : Nat
  deriving DecidableEq, Repr

namespace Date

/-- The days of a cycle of four hundred years. -/
def cycleDays : Int := 146097

/-- The days from the first of March of the year 0 to the beginning of 1970. -/
def epochOffset : Int := 719468

/-- The date a number of days after the beginning of 1970. -/
def ofDayNumber (n : Int) : Date :=
  let z := n + epochOffset
  let cycle := z / cycleDays
  let dayOfCycle := (z % cycleDays).toNat
  let yearOfCycle :=
    (dayOfCycle - dayOfCycle / 1460 + dayOfCycle / 36524 - dayOfCycle / 146096) / 365
  let dayOfYear := dayOfCycle - (365 * yearOfCycle + yearOfCycle / 4 - yearOfCycle / 100)
  let shifted := (5 * dayOfYear + 2) / 153
  let month := if shifted < 10 then shifted + 3 else shifted - 9
  let year := (yearOfCycle : Int) + cycle * 400 + (if month ≤ 2 then 1 else 0)
  ⟨year, month, dayOfYear - (153 * shifted + 2) / 5 + 1⟩

/-- The days from the beginning of 1970 to the date. -/
def dayNumber (d : Date) : Int :=
  let y := if d.month ≤ 2 then d.year - 1 else d.year
  let cycle := y / 400
  let yearOfCycle := (y % 400).toNat
  let shifted := if d.month ≤ 2 then d.month + 9 else d.month - 3
  let dayOfYear := (153 * shifted + 2) / 5 + d.day - 1
  let dayOfCycle := 365 * yearOfCycle + yearOfCycle / 4 - yearOfCycle / 100 + dayOfYear
  cycle * cycleDays + dayOfCycle - epochOffset

/-- Whether the year has a leap day. -/
def isLeap (year : Int) : Bool := year % 4 = 0 && (year % 100 ≠ 0 || year % 400 = 0)

/-- The number of days of a month. -/
def monthLength (year : Int) (month : Nat) : Nat :=
  if month = 2 then (if isLeap year then 29 else 28)
  else if month = 4 ∨ month = 6 ∨ month = 9 ∨ month = 11 then 30
  else 31

/-- Whether the month and the day exist. -/
def isValid (d : Date) : Bool :=
  1 ≤ d.month && d.month ≤ 12 && 1 ≤ d.day && d.day ≤ monthLength d.year d.month

end Date

end CrowdTask
