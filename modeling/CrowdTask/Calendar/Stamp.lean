import CrowdTask.Calendar.Date
import CrowdTask.Calendar.Instant
import CrowdTask.Text.Numeral

/-!
# Time stamps

The text of an instant in universal time. Years of four digits are written as they are, all others
with a sign and at least four digits. A fraction of a second is written with three, six or nine
digits, the fewest that show it.

## Main definitions

* `CrowdTask.Instant.internetStamp`: the date, the letter T, the time of day and a zone, as in
  RFC 3339.
* `CrowdTask.Instant.dayStamp`, `CrowdTask.Instant.compactStamp`: the forms without punctuation.
-/

namespace CrowdTask.Instant

open Text

/-- The date of an instant. -/
def date (t : Instant) : Date := .ofDayNumber (t.seconds / 86400)

/-- The second of the day of an instant. -/
def secondOfDay (t : Instant) : Nat := (t.seconds % 86400).toNat

/-- The digits of a year. -/
def yearChars (year : Int) : List Char :=
  if 0 ≤ year ∧ year ≤ 9999 then padded 4 year.toNat
  else (if year < 0 then '-' else '+') :: padded 4 year.natAbs

/-- The fraction of a second with a point in front, nothing for a whole second. -/
def fractionChars (nanos : Nat) : List Char :=
  if nanos = 0 then []
  else if nanos % 1000000 = 0 then '.' :: padded 3 (nanos / 1000000)
  else if nanos % 1000 = 0 then '.' :: padded 6 (nanos / 1000)
  else '.' :: padded 9 nanos

/-- The date, the letter T and the time of day, whose seconds are counted on by `late`. -/
def dateTimeChars (t : Instant) (late : Nat) : List Char :=
  let d := t.date
  let s := t.secondOfDay
  yearChars d.year ++ ['-'] ++ padded 2 d.month ++ ['-'] ++ padded 2 d.day ++ ['T'] ++
    padded 2 (s / 3600) ++ [':'] ++ padded 2 (s / 60 % 60) ++ [':'] ++ padded 2 (s % 60 + late) ++
    fractionChars t.subsecond

/-- The instant in the form of RFC 3339 with the given text for the zone. -/
def internetStamp (t : Instant) (zone : String) : String :=
  String.ofList (t.dateTimeChars 0 ++ zone.toList)

/-- The stamp that reports show. -/
def reportStamp (t : Instant) : String := t.internetStamp "+00:00"

/-- The stamp that the data of journal entries hold. -/
def recordStamp (t : Instant) : String := t.internetStamp "Z"

/-- The year, month and day in digits. -/
def dayChars (t : Instant) : List Char :=
  let d := t.date
  yearChars d.year ++ padded 2 d.month ++ padded 2 d.day

/-- The date without punctuation. -/
def dayStamp (t : Instant) : String := String.ofList t.dayChars

/-- The date, the letter T, the whole seconds of the day in hours, minutes and seconds, and the
letter Z, without punctuation. -/
def compactStamp (t : Instant) : String :=
  let s := t.secondOfDay
  String.ofList (t.dayChars ++ ['T'] ++ padded 2 (s / 3600) ++ padded 2 (s / 60 % 60) ++
    padded 2 (s % 60) ++ ['Z'])

end CrowdTask.Instant
