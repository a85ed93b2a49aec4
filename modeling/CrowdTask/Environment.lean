import CrowdTask.Identifier
import CrowdTask.Text.Lowercase

/-!
# Environments

A task lives in the sandbox or in production. The environment settles how many assignments a new
task asks for and how long it lives, which service answers, and where requesters and workers see
the task.

## Main definitions

* `CrowdTask.Environment`: the two environments.
* `CrowdTask.Environment.policy`: the size and lifetime of a new task.
* `CrowdTask.Environment.managementPage`, `CrowdTask.Environment.previewPage`: the pages of a task.
-/

namespace CrowdTask

/-- The marketplace in which a task lives. -/
inductive Environment where
  | sandbox
  | production
  deriving DecidableEq, Repr

/-- The number of assignments of a new task, and its lifetime in seconds. -/
structure Policy where
  maxAssignments : UInt32
  lifetime : UInt64
  deriving DecidableEq, Repr

/-- A text that names no environment. -/
structure UnknownEnvironment where
  raw : String
  deriving DecidableEq, Repr

/-- The message for a text that names no environment. -/
def UnknownEnvironment.message (e : UnknownEnvironment) : String :=
  "unknown environment: " ++ e.raw ++ ", expected sandbox or production"

namespace Environment

/-- Both environments, in the order in which records are kept. -/
def all : List Environment := [.sandbox, .production]

/-- The name of an environment. -/
def name : Environment → String
  | .sandbox => "sandbox"
  | .production => "production"

/-- The environment with the given name. -/
def ofName? (name : String) : Option Environment := all.find? fun e => e.name = name

/-- The environment that a JSON text names. -/
def ofRaw? (r : Json.Raw) : Option Environment := r.choice?.bind ofName?

/-- The environment that a text names, in any letter case and with blanks around the name. -/
def parse (raw : String) : Except UnknownEnvironment Environment :=
  match ofName? (String.ofList (Text.lowerAscii (Text.trim raw.toList))) with
  | some e => .ok e
  | none => .error ⟨raw⟩

/-- What a new task asks for: twenty assignments over a week in the sandbox, one assignment over
half a minute in production. -/
def policy : Environment → Policy
  | .sandbox => ⟨20, 604800⟩
  | .production => ⟨1, 30⟩

/-- The address of the service. -/
def endpoint : Environment → String
  | .sandbox => "https://mturk-requester-sandbox.us-east-1.amazonaws.com"
  | .production => "https://mturk-requester.us-east-1.amazonaws.com"

/-- The address of the site for requesters. -/
def requesterSite : Environment → String
  | .sandbox => "https://requestersandbox.mturk.com"
  | .production => "https://requester.mturk.com"

/-- The address of the site for workers. -/
def workerSite : Environment → String
  | .sandbox => "https://workersandbox.mturk.com"
  | .production => "https://worker.mturk.com"

/-- The name of the directory for results. -/
def resultsDirectory (e : Environment) : String := e.name ++ "-results"

/-- The page on which a requester manages a task. -/
def managementPage (e : Environment) (id : TaskId) : String :=
  e.requesterSite ++ "/mturk/manageHIT?HITId=" ++ id.text

/-- The page on which a worker previews the tasks of a group. -/
def previewPage (e : Environment) (id : TaskGroupId) : String :=
  e.workerSite ++ "/mturk/preview?groupId=" ++ id.text

end Environment

end CrowdTask
