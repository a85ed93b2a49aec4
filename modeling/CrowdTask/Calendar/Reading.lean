import CrowdTask.Calendar.Moment
import CrowdTask.Text.Blank

/-!
# Reading time stamps

A stamp is a date, a separator, a time of day and a zone. Blanks may stand in front of every part,
a year may have a sign and then any number of digits, the separator is the letter T or a blank, and
the zone is the letter Z, the word UTC, or an offset in hours and minutes. The second 60 of any
minute is a leap second. The calendar has to cover the date as it is written and the instant in
universal time.

## Main definitions

* `CrowdTask.Moment.ofStamp?`: the moment of a stamp.
-/

namespace CrowdTask.Moment

open Text

/-- The value of up to `limit` digits, at least one, after blanks, and what follows them. -/
def readNumber? (limit : Nat) (cs : List Char) : Option (Nat × List Char) :=
  let cs := trimStart cs
  let ds := (cs.takeWhile Char.isDigit).take limit
  (ofDigits? 10 ds).map fun n => (n, cs.drop ds.length)

/-- A year: four digits, or a sign and any number of digits. -/
def readYear? (cs : List Char) : Option (Int × List Char) :=
  match trimStart cs with
  | '-' :: rest => if startsBlank rest then none else (readNumber? rest.length rest).map signed
  | '+' :: rest => if startsBlank rest then none else (readNumber? rest.length rest).map unsigned
  | rest => (readNumber? 4 rest).map unsigned
where
  startsBlank (cs : List Char) : Bool := cs.head?.any isBlank
  signed (r : Nat × List Char) : Int × List Char := (-(r.1 : Int), r.2)
  unsigned (r : Nat × List Char) : Int × List Char := (r.1, r.2)

/-- Skips blanks and the given mark. -/
def readMark? (mark : Char) (cs : List Char) : Option (List Char) :=
  match trimStart cs with
  | c :: rest => if c = mark then some rest else none
  | [] => none

/-- The nanoseconds of an optional fraction, of which nine digits count. -/
def readFraction? : List Char → Option (Nat × List Char)
  | '.' :: cs =>
    let ds := cs.takeWhile Char.isDigit
    let kept := ds.take 9
    (ofDigits? 10 kept).map fun n => (n * Nat.pow 10 (9 - kept.length), cs.drop ds.length)
  | cs => some (0, cs)

/-- The seconds of a zone east of universal time, and what follows the zone. -/
def readZone? (cs : List Char) : Option (Int × List Char) :=
  match trimStart cs with
  | 'Z' :: rest => some (0, rest)
  | 'z' :: rest => some (0, rest)
  | a :: rest =>
    if (a :: rest.take 2).map Char.toUpper = ['U', 'T', 'C'] then some (0, rest.drop 2)
    else if a = '+' then offset 1 rest
    else if a = '-' ∨ a.toNat = 0x2212 then offset (-1) rest
    else none
  | [] => none
where
  offset (sign : Int) (cs : List Char) : Option (Int × List Char) := do
    let hours ← ofDigits? 10 (cs.take 2)
    let rest := (cs.drop 2).dropWhile fun c => c = ':' || isBlank c
    let minutes ← ofDigits? 10 (rest.take 2)
    if 2 ≤ cs.length ∧ 2 ≤ rest.length ∧ minutes < 60 ∧ hours < 24 then
      some (sign * (hours * 3600 + minutes * 60 : Nat), rest.drop 2)
    else none

/-- The moment of a stamp, if its date exists and the calendar covers it. -/
def ofStamp? (text : String) : Option Moment := do
  let (year, cs) ← readYear? text.toList
  let (month, cs) ← readNumber? 2 (← readMark? '-' cs)
  let (day, cs) ← readNumber? 2 (← readMark? '-' cs)
  let cs ← match cs with
    | c :: rest => if c = 'T' ∨ c = 't' ∨ c = ' ' then some rest else none
    | [] => none
  let (hour, cs) ← readNumber? 2 cs
  let (minute, cs) ← readNumber? 2 (← readMark? ':' cs)
  let (second, cs) ← readNumber? 2 (← readMark? ':' cs)
  let (nanos, cs) ← readFraction? cs
  let (zone, cs) ← readZone? cs
  let d : Date := ⟨year, month, day⟩
  if d.isValid ∧ hour < 24 ∧ minute < 60 ∧ second ≤ 60 ∧ (trimStart cs).isEmpty then
    let wall : Int := d.dayNumber * 86400 + (hour * 3600 + minute * 60 + min second 59 : Nat)
    let _ ← (Instant.ofSeconds wall).checked?
    let t ← (Instant.ofParts (wall - zone) nanos).checked?
    return ⟨t, second = 60⟩
  else none

end CrowdTask.Moment
