/-!
# Instants

An instant is counted in nanoseconds from the beginning of 1970, so that comparing and adding are
those of the integers. The calendar covers the years -262143 to 262142; instants outside of it
cannot be represented.

## Main definitions

* `CrowdTask.Instant`: an instant.
* `CrowdTask.Instant.Representable`: the instants that the calendar covers.
* `CrowdTask.Instant.plusSeconds?`: a later instant, if the calendar covers it.
* `CrowdTask.Instant.secondsUntil`: the whole seconds between two instants.
-/

namespace CrowdTask

/-- An instant, in nanoseconds from the beginning of 1970. -/
structure Instant where
  nanos : Int
  deriving DecidableEq, Repr, Inhabited

namespace Instant

/-- The nanoseconds of a second. -/
def second : Int := 1000000000

/-- The instant a number of seconds and nanoseconds after the beginning of 1970. -/
def ofParts (seconds : Int) (nanos : Nat) : Instant := ⟨seconds * second + nanos⟩

/-- The instant a number of seconds after the beginning of 1970. -/
def ofSeconds (seconds : Int) : Instant := ⟨seconds * second⟩

/-- The whole seconds from the beginning of 1970, rounded down. -/
def seconds (t : Instant) : Int := t.nanos / second

/-- The nanoseconds after the last whole second. -/
def subsecond (t : Instant) : Nat := (t.nanos % second).toNat

instance : LE Instant := ⟨fun a b => a.nanos ≤ b.nanos⟩

instance : LT Instant := ⟨fun a b => a.nanos < b.nanos⟩

instance (a b : Instant) : Decidable (a ≤ b) := inferInstanceAs (Decidable (a.nanos ≤ b.nanos))

instance (a b : Instant) : Decidable (a < b) := inferInstanceAs (Decidable (a.nanos < b.nanos))

/-- The later of two instants. -/
def later (a b : Instant) : Instant := if a ≤ b then b else a

/-- The earlier of two instants. -/
def earlier (a b : Instant) : Instant := if a ≤ b then a else b

/-- The first second that the calendar covers: the beginning of the year -262143. -/
def firstSecond : Int := -8334601228800

/-- The last second that the calendar covers: the end of the year 262142. -/
def lastSecond : Int := 8210266876799

/-- Whether the calendar covers the instant. -/
def Representable (t : Instant) : Prop := firstSecond ≤ t.seconds ∧ t.seconds ≤ lastSecond

instance (t : Instant) : Decidable t.Representable :=
  inferInstanceAs (Decidable (firstSecond ≤ t.seconds ∧ t.seconds ≤ lastSecond))

/-- The instant itself, if the calendar covers it. -/
def checked? (t : Instant) : Option Instant := if t.Representable then some t else none

/-- The instant `n` seconds later, without a look at the calendar. -/
def plusSeconds (t : Instant) (n : Nat) : Instant := ⟨t.nanos + n * second⟩

/-- The instant `n` seconds later, if the calendar covers it. -/
def plusSeconds? (t : Instant) (n : Nat) : Option Instant := (t.plusSeconds n).checked?

/-- The longest span that can be added to an instant: as many seconds as have a count of
milliseconds in 63 bits. -/
def longestSpan : Nat := 9223372036854775

/-- The whole seconds from `now` until `t`, rounded toward zero. -/
def secondsUntil (now t : Instant) : Int := (t.nanos - now.nanos).tdiv second

end Instant

end CrowdTask
