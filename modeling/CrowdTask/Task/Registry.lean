import CrowdTask.Environment

/-!
# Registry of created tasks

Each environment has at most one record, which names the task that was created there.

## Main definitions

* `CrowdTask.TaskRecord`: the identifiers of a created task.
* `CrowdTask.Registry`: the records of both environments.
-/

namespace CrowdTask

/-- The identifiers of a created task. The group may be unknown. -/
structure TaskRecord where
  id : TaskId
  typeId : TaskTypeId
  groupId : Option TaskGroupId
  deriving DecidableEq, Repr

/-- The records of both environments. -/
structure Registry where
  sandbox : Option TaskRecord
  production : Option TaskRecord
  deriving DecidableEq, Repr

namespace Registry

/-- No task has been created. -/
def empty : Registry := ⟨none, none⟩

/-- The record of an environment. -/
def get? (rs : Registry) : Environment → Option TaskRecord
  | .sandbox => rs.sandbox
  | .production => rs.production

/-- Puts the record of an environment. -/
def insert (rs : Registry) (e : Environment) (r : TaskRecord) : Registry :=
  match e with
  | .sandbox => { rs with sandbox := some r }
  | .production => { rs with production := some r }

/-- Whether no task has been created. -/
def isEmpty (rs : Registry) : Bool := rs.sandbox.isNone && rs.production.isNone

/-- The records with their environments, the sandbox first. -/
def toList (rs : Registry) : List (Environment × TaskRecord) :=
  Environment.all.filterMap fun e => (rs.get? e).map fun r => (e, r)

@[simp]
theorem get?_insert_self (rs : Registry) (e : Environment) (r : TaskRecord) :
    (rs.insert e r).get? e = some r := by
  cases e <;> rfl

@[simp]
theorem get?_insert_of_ne (rs : Registry) {e e' : Environment} (r : TaskRecord) (h : e' ≠ e) :
    (rs.insert e r).get? e' = rs.get? e' := by
  cases e <;> cases e' <;> simp_all [get?, insert]

end Registry

end CrowdTask
