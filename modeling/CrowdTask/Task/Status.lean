import CrowdTask.Calendar.Instant
import CrowdTask.Identifier

/-!
# Status of a task

The marketplace reports how many assignments of a task are open, and until when. A task is expired
when no whole second of its lifetime remains, or when it was disposed of.

## Main definitions

* `CrowdTask.TaskStatus`: what the marketplace reports.
* `CrowdTask.TaskStatus.phase`: whether the task is active.
-/

namespace CrowdTask

/-- Whether workers can see a task. -/
inductive TaskPhase where
  | active
  | expired
  deriving DecidableEq, Repr

/-- The word for a phase. -/
def TaskPhase.word : TaskPhase → String
  | .active => "Active"
  | .expired => "Expired"

/-- What the marketplace reports about a task. -/
structure TaskStatus where
  id : TaskId
  state : String
  maxAssignments : UInt32
  available : UInt32
  pending : UInt32
  completed : UInt32
  createdAt : Instant
  expiresAt : Instant
  deriving DecidableEq, Repr

namespace TaskStatus

/-- The whole seconds until the task expires, zero or negative afterwards. -/
def secondsLeft (s : TaskStatus) (now : Instant) : Int := now.secondsUntil s.expiresAt

/-- The remote status of a task that was disposed of. -/
def disposed : String := "Disposed"

/-- Whether the task is active. -/
def phase (s : TaskStatus) (now : Instant) : TaskPhase :=
  if s.secondsLeft now ≤ 0 ∨ s.state = disposed then .expired else .active

end TaskStatus

end CrowdTask
