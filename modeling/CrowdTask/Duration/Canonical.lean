import CrowdTask.Text.Blank
import CrowdTask.Text.Numeral

/-!
# Canonical duration phrases

A number of seconds is written as weeks, days, hours, minutes and seconds, units of value zero
being left out, with a comma between terms and the word `and` before the last one.

## Main definitions

* `CrowdTask.Duration.parts`: the values of the five units that are not zero.
* `CrowdTask.Duration.format`: the canonical phrase.
-/

namespace CrowdTask.Duration

/-- The number of weeks, days, hours, minutes and seconds in `s` seconds, zeros left out. -/
def parts (s : Nat) : List (Nat × String) :=
  [(s / 604800, "week"), (s / 86400 % 7, "day"), (s / 3600 % 24, "hour"), (s / 60 % 60, "minute"),
    (s % 60, "second")].filter fun p => p.1 ≠ 0

/-- A number and the noun it counts, in the plural unless the number is one. -/
def counted (n : Nat) (noun : String) : List Char :=
  Text.decimal n ++ ' ' :: noun.toList ++ (if n = 1 then [] else ['s'])

/-- Terms with a comma between neighbours and the word `and` before the last one. -/
def enumerated : List (List Char) → List Char
  | [] => []
  | [t] => t
  | [t, u] => t ++ " and ".toList ++ u
  | t :: u :: v :: ts => t ++ ", ".toList ++ enumerated (u :: v :: ts)

/-- The characters of the canonical phrase for `s` seconds; there are none for zero. -/
def formatChars (s : Nat) : List Char :=
  enumerated ((parts s).map fun p => counted p.1 p.2)

/-- The canonical phrase for a number of seconds. -/
def format (s : UInt64) : String := String.ofList (formatChars s.toNat)

end CrowdTask.Duration
