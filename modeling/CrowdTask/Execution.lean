import CrowdTask.Command
import CrowdTask.Report

/-!
# Execution of commands

A command is executed for one environment at a desk, which holds the registry of tasks, the results,
the journal, the marketplace and a clock. A task is recorded only after the marketplace confirmed
it, and so is every other change.

## Main definitions

* `CrowdTask.Desk`: what commands are executed with, in any monad.
* `CrowdTask.Job`: what is known about one execution.
* `CrowdTask.ExecutionError`: why a command fails.
* `CrowdTask.Execution.run`: the execution of a command.
-/

namespace CrowdTask

/-- What commands are executed with: a place for the registry, a place for the results, a journal,
the marketplace and a clock. -/
structure Desk (m : Type → Type) where
  records : RecordStore m
  results : ResultStore m
  journal : Journal m
  market : Marketplace m
  clock : m Instant

/-- What is known about one execution: its environment, the settings of a new task, and the salt
that keeps workers anonymous. -/
structure Job where
  environment : Environment
  settings : Option Settings
  salt : Option String

/-- Kinds of failures. -/
inductive FailureKind where
  | config
  | stateConflict
  | invalidCommand
  | malformedDuration
  | remote
  | corruptState
  | storage
  deriving DecidableEq, Repr

/-- The word for a kind of failures. -/
def FailureKind.word : FailureKind → String
  | .config => "Config"
  | .stateConflict => "StateConflict"
  | .invalidCommand => "InvalidCommand"
  | .malformedDuration => "MalformedDuration"
  | .remote => "Remote"
  | .corruptState => "CorruptState"
  | .storage => "Storage"

/-- The kind of a refused line. -/
def CommandError.kind : CommandError → FailureKind
  | .duration _ => .malformedDuration
  | _ => .invalidCommand

/-- The kind of a failure of the registry. -/
def RecordError.kind : RecordError → FailureKind
  | .corrupt _ _ => .corruptState
  | .io _ => .storage

/-- The kind of a failed download. -/
def DownloadError.kind : DownloadError → FailureKind
  | .marketplace _ => .remote
  | .results _ => .storage

/-- Why a command fails. -/
inductive ExecutionError where
  | alreadyExists (environment : Environment) (id : TaskId)
  | notYetCreated (environment : Environment)
  | missingSettings
  | marketplace (cause : MarketError)
  | records (cause : RecordError)
  | download (cause : DownloadError)
  | journal (cause : JournalError)
  deriving DecidableEq, Repr

namespace ExecutionError

/-- The message for a failed command. -/
def message : ExecutionError → String
  | .alreadyExists e id =>
    "a HIT already exists in " ++ e.name ++ ": " ++ id.text ++
      "; expire it and remove it from the state file before creating another"
  | .notYetCreated e => "no HIT has been created in " ++ e.name ++ " yet; run `create` first"
  | .missingSettings => "settings are required to create a HIT"
  | .marketplace cause => cause.message
  | .records cause => cause.message
  | .download cause => cause.message
  | .journal cause => cause.message

/-- The kind of a failed command. -/
def kind : ExecutionError → FailureKind
  | .alreadyExists _ _ => .stateConflict
  | .notYetCreated _ => .stateConflict
  | .missingSettings => .config
  | .marketplace _ => .remote
  | .records cause => cause.kind
  | .download cause => cause.kind
  | .journal _ => .storage

end ExecutionError

namespace Execution

variable {m : Type → Type} [Monad m]

/-- Enters a change in the journal at the time of the clock. -/
def note (d : Desk m) (change : Change) (data : Json) : ExceptT ExecutionError m Unit := do
  let now ← (d.clock : m Instant)
  attempt .journal (d.journal.append ⟨now, change, data⟩)

/-- The registry of created tasks. -/
def registry (d : Desk m) : ExceptT ExecutionError m Registry := attempt .records d.records.load

/-- The record of the environment, which has to exist. -/
def recorded (d : Desk m) (job : Job) : ExceptT ExecutionError m TaskRecord := do
  match (← registry d).get? job.environment with
  | some r => return r
  | none => throw (.notYetCreated job.environment)

/-- The data that is recorded for a new task. -/
def createdData (e : Environment) (request : TaskRequest) (created : TaskRecord) : Json :=
  .obj
    [("environment", .str e.name), ("hit_id", .str created.id.text),
      ("hit_type_id", .str created.typeId.text), ("lifetime", .ofUInt64 request.lifetime),
      ("max_assignments", .ofUInt32 request.maxAssignments)]

/-- The data that is recorded for added assignments. -/
def assignmentsData (id : TaskId) (count : UInt32) : Json :=
  .obj [("assignments", .ofUInt32 count), ("hit_id", .str id.text)]

/-- The data that is recorded for added time. -/
def timeData (id : TaskId) (seconds : UInt64) (expiresAt : Instant) : Json :=
  .obj
    [("expires_at", .str expiresAt.recordStamp), ("hit_id", .str id.text),
      ("seconds", .ofUInt64 seconds)]

/-- The data that is recorded for an expired task. -/
def expiredData (id : TaskId) : Json := .obj [("hit_id", .str id.text)]

/-- Creates the task of the environment, unless one is recorded. -/
def create (d : Desk m) (job : Job) : ExceptT ExecutionError m Report := do
  let e := job.environment
  let known ← registry d
  match known.get? e, job.settings with
  | some r, _ => throw (.alreadyExists e r.id)
  | none, none => throw .missingSettings
  | none, some settings => do
    let request := TaskRequest.ofSettings settings e
    let created ← attempt .marketplace (d.market.create request)
    attempt .records (d.records.save (known.insert e created))
    note d .create (createdData e request created)
    return .created e created.id request.maxAssignments request.lifetime
      (e.managementPage created.id)

/-- Adds assignments to a task. -/
def addAssignments (d : Desk m) (id : TaskId) (count : UInt32) :
    ExceptT ExecutionError m Unit := do
  attempt .marketplace (d.market.addAssignments id count)
  note d .addAssignments (assignmentsData id count)

/-- Adds time to a task. -/
def addTime (d : Desk m) (id : TaskId) (seconds : UInt64) : ExceptT ExecutionError m Instant := do
  let expiresAt ← attempt .marketplace (d.market.extend id seconds)
  note d .addTime (timeData id seconds expiresAt)
  return expiresAt

/-- Adds assignments, then time, each of them recorded on its own. -/
def add (d : Desk m) (job : Job) (x : Addition) : ExceptT ExecutionError m Report := do
  let r ← recorded d job
  match x with
  | .assignments n => do
    addAssignments d r.id n
    return .extended r.id (some n) none none
  | .time s => do
    let t ← addTime d r.id s
    return .extended r.id none (some s) (some t)
  | .both n s => do
    addAssignments d r.id n
    let t ← addTime d r.id s
    return .extended r.id (some n) (some s) (some t)

/-- Reports the status of the task, or that there is none. -/
def status (d : Desk m) (job : Job) : ExceptT ExecutionError m Report := do
  match (← registry d).get? job.environment with
  | none => return .notCreated job.environment
  | some r => do
    let s ← attempt .marketplace (d.market.status r.id)
    let now ← (d.clock : m Instant)
    return .status job.environment s (s.phase now) (s.secondsLeft now)

/-- Expires the task. Its record is kept. -/
def expire (d : Desk m) (job : Job) : ExceptT ExecutionError m Report := do
  let r ← recorded d job
  attempt .marketplace (d.market.expire r.id)
  note d .expire (expiredData r.id)
  return .expired r.id

/-- Downloads the results of the task that are not stored yet. -/
def download (d : Desk m) (job : Job) : ExceptT ExecutionError m Report := do
  let r ← recorded d job
  return .downloaded (← attempt .download (Download.run d.market d.results job.salt r.id))

/-- Reports the page on which the task is managed. -/
def manage (d : Desk m) (job : Job) : ExceptT ExecutionError m Report := do
  let r ← recorded d job
  return .management (job.environment.managementPage r.id)

/-- Reports the page on which the task is previewed, if its group is known. -/
def view (d : Desk m) (job : Job) : ExceptT ExecutionError m Report := do
  let r ← recorded d job
  return .preview r.id (r.groupId.map job.environment.previewPage)

/-- Reports the balance of the account. -/
def balance (d : Desk m) (job : Job) : ExceptT ExecutionError m Report := do
  return .balance job.environment (← attempt .marketplace d.market.balance)

/-- The steps of a command. -/
def steps (d : Desk m) (job : Job) : Command → ExceptT ExecutionError m Report
  | .create => create d job
  | .add x => add d job x
  | .status => status d job
  | .expire => expire d job
  | .download => download d job
  | .manage => manage d job
  | .view => view d job
  | .balance => balance d job
  | .update => return .unavailable Command.update.verb
  | .history => return .unavailable Command.history.verb

/-- Executes a command. -/
def run (d : Desk m) (job : Job) (c : Command) : m (Except ExecutionError Report) :=
  (steps d job c).run

end Execution

end CrowdTask
