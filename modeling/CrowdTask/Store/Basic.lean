import CrowdTask.Assignment.Result
import CrowdTask.Files.System
import CrowdTask.JournalEntry
import CrowdTask.Task.Registry

/-!
# Stores

The program keeps three things: the registry of created tasks, the results of assignments, and the
journal of confirmed changes. Each is kept in a place whose operations may fail.

## Main definitions

* `CrowdTask.RecordStore`, `CrowdTask.ResultStore`, `CrowdTask.Journal`: the three places, in any
  monad.
* `CrowdTask.RecordError`, `CrowdTask.ResultError`, `CrowdTask.JournalError`: why they fail.
-/

namespace CrowdTask

/-- Why the registry cannot be loaded or saved. -/
inductive RecordError where
  | corrupt (location reason : String)
  | io (fault : FileFault)
  deriving DecidableEq, Repr

/-- The message for a registry that cannot be loaded or saved. -/
def RecordError.message : RecordError → String
  | .corrupt location reason => "state at " ++ location ++ " is corrupt: " ++ reason
  | .io fault => "state storage error: " ++ fault.message

/-- Where the registry is kept. -/
structure RecordStore (m : Type → Type) where
  load : m (Except RecordError Registry)
  save : Registry → m (Except RecordError Unit)

/-- Why results cannot be listed or written. -/
inductive ResultError where
  | alreadyStored (id : AssignmentId)
  | io (fault : FileFault)
  deriving DecidableEq, Repr

/-- The message for results that cannot be listed or written. -/
def ResultError.message : ResultError → String
  | .alreadyStored id => "result for assignment " ++ id.text ++ " already exists"
  | .io fault => "result storage error: " ++ fault.message

/-- Where results are kept. The identifiers of the stored results are listed in order, each of
them once. -/
structure ResultStore (m : Type → Type) where
  ids : m (Except ResultError (List AssignmentId))
  put : WorkResult → m (Except ResultError Unit)

/-- Why a change cannot be recorded. -/
inductive JournalError where
  | encode (reason : String)
  | io (fault : FileFault)
  deriving DecidableEq, Repr

/-- The message for a change that cannot be recorded. -/
def JournalError.message : JournalError → String
  | .encode reason => "could not encode action record: " ++ reason
  | .io fault => "action log storage error: " ++ fault.message

/-- Where changes are recorded. -/
structure Journal (m : Type → Type) where
  append : JournalEntry → m (Except JournalError Unit)

/-- Puts an identifier at its place among ordered ones, once. -/
def insertId (id : AssignmentId) : List AssignmentId → List AssignmentId
  | [] => [id]
  | x :: xs =>
    if id = x then x :: xs
    else if id.text < x.text then id :: x :: xs
    else x :: insertId id xs

/-- Identifiers in order, each of them once. -/
def orderedIds (ids : List AssignmentId) : List AssignmentId :=
  ids.foldl (fun acc id => insertId id acc) []

end CrowdTask
