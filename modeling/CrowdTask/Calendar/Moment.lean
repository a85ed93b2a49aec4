import CrowdTask.Calendar.Stamp

/-!
# Moments

Now and then a leap second is put in at the end of a minute, and is shown as the second 60. Instants
do not count it. A moment is an instant, or the same fraction of the leap second that follows the
second of the instant, so that a stamp can be kept as it was given.

## Main definitions

* `CrowdTask.Moment`: a moment; every instant is one.
* `CrowdTask.Moment.stamp`: its time stamp.
-/

namespace CrowdTask

/-- An instant, or the moment in the leap second after it. -/
structure Moment where
  instant : Instant
  inLeapSecond : Bool
  deriving DecidableEq, Repr

namespace Moment

instance : Coe Instant Moment := ⟨fun t => ⟨t, false⟩⟩

/-- The stamp of a moment. A leap second is the second 60 of its minute. -/
def stamp (m : Moment) : String :=
  String.ofList (m.instant.dateTimeChars (if m.inLeapSecond then 1 else 0) ++ ['Z'])

end Moment

end CrowdTask
