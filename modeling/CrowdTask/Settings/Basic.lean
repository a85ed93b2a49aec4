import CrowdTask.Environment
import CrowdTask.Qualification
import CrowdTask.Reward

/-!
# Settings

The settings describe the task that is to be created; the environment adds how many assignments a
new task asks for and how long it lives.

## Main definitions

* `CrowdTask.Settings`: the description of a task.
* `CrowdTask.TaskRequest`: everything the marketplace needs to create a task.
* `CrowdTask.TaskRequest.ofSettings`: the request for an environment.
-/

namespace CrowdTask

/-- The description of a task. Both spans are in seconds. -/
structure Settings where
  title : String
  description : String
  keywords : String
  url : String
  frameHeight : UInt32
  reward : Reward
  autoApprovalDelay : UInt64
  assignmentDuration : UInt64
  qualifications : Qualifications
  deriving DecidableEq, Repr

/-- Everything the marketplace needs to create a task. -/
structure TaskRequest where
  title : String
  description : String
  keywords : String
  url : String
  frameHeight : UInt32
  reward : Reward
  autoApprovalDelay : UInt64
  assignmentDuration : UInt64
  lifetime : UInt64
  maxAssignments : UInt32
  requirements : List Requirement
  deriving DecidableEq, Repr

/-- The request that creates the task of the settings in an environment. -/
def TaskRequest.ofSettings (s : Settings) (e : Environment) : TaskRequest where
  title := s.title
  description := s.description
  keywords := s.keywords
  url := s.url
  frameHeight := s.frameHeight
  reward := s.reward
  autoApprovalDelay := s.autoApprovalDelay
  assignmentDuration := s.assignmentDuration
  lifetime := e.policy.lifetime
  maxAssignments := e.policy.maxAssignments
  requirements := s.qualifications.requirements

end CrowdTask
