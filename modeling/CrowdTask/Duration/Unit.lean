/-!
# Units of time

The units that a duration phrase may use, the words for them, and their amounts. Units below a
second are counted in nanoseconds, all others in seconds. A month is a twelfth of a year, and a
year has 365 days and a quarter.

## Main definitions

* `CrowdTask.TimeUnit`: a unit.
* `CrowdTask.TimeUnit.ofWord?`: the unit of a word in small letters.
* `CrowdTask.TimeUnit.amount`, `CrowdTask.TimeUnit.fractionAmount?`: what one unit adds, and in
  which grain a fraction of it is counted.
-/

namespace CrowdTask

/-- An amount of time in one of two grains. -/
inductive Amount where
  | seconds (n : Nat)
  | nanos (n : Nat)
  deriving DecidableEq, Repr

/-- A unit of time. -/
inductive TimeUnit where
  | nanosecond | microsecond | millisecond | second | minute | hour | day | week | month | year
  deriving DecidableEq, Repr

namespace TimeUnit

/-- The words for a unit. -/
def words : TimeUnit → List String
  | .nanosecond => ["nanos", "nsec", "ns"]
  | .microsecond => ["usec", "us", "µs"]
  | .millisecond => ["millis", "msec", "ms"]
  | .second => ["seconds", "second", "secs", "sec", "s"]
  | .minute => ["minutes", "minute", "min", "mins", "m"]
  | .hour => ["hours", "hour", "hrs", "hr", "h"]
  | .day => ["days", "day", "d"]
  | .week => ["weeks", "week", "wks", "wk", "w"]
  | .month => ["months", "month"]
  | .year => ["years", "year", "yrs", "yr", "y"]

/-- All units. -/
def all : List TimeUnit :=
  [.nanosecond, .microsecond, .millisecond, .second, .minute, .hour, .day, .week, .month, .year]

/-- The unit that a word stands for. -/
def ofWord? (word : List Char) : Option TimeUnit :=
  all.find? fun u => u.words.any fun w => w.toList == word

/-- The seconds in a unit of at least one second. -/
def amount : TimeUnit → Amount
  | .nanosecond => .nanos 1
  | .microsecond => .nanos 1000
  | .millisecond => .nanos 1000000
  | .second => .seconds 1
  | .minute => .seconds 60
  | .hour => .seconds 3600
  | .day => .seconds 86400
  | .week => .seconds 604800
  | .month => .seconds 2630016
  | .year => .seconds 31557600

/-- The amount of one unit in the grain in which its fractions are counted: nanoseconds up to a
minute, seconds above. A nanosecond has no fractions. -/
def fractionAmount? : TimeUnit → Option Amount
  | .nanosecond => none
  | .second => some (.nanos 1000000000)
  | .minute => some (.nanos 60000000000)
  | u => some u.amount

end TimeUnit

end CrowdTask
