import CrowdTask.Json.Printer
import CrowdTask.Marketplace.Basic
import CrowdTask.Marketplace.ExternalPage

/-!
# Requests to the service

The bodies of the requests are JSON objects. Their members stand in a fixed order, because the
signature of a request covers the text of its body.

## Main definitions

* `CrowdTask.Request`: the operations of the service, with what they are asked for.
* `CrowdTask.Request.operation`, `CrowdTask.Request.body`: the name of an operation and its body.
-/

namespace CrowdTask

/-- The operations of the service, with what they are asked for. -/
inductive Request where
  | create (request : TaskRequest)
  | describe (id : TaskId)
  | addAssignments (id : TaskId) (count : UInt32)
  | setExpiry (id : TaskId) (expiresAt : Instant)
  | list (id : TaskId) (token : Option String)
  | balance

namespace Request

/-- The name of an operation. -/
def operation : Request → String
  | .create _ => "CreateHIT"
  | .describe _ => "GetHIT"
  | .addAssignments _ _ => "CreateAdditionalAssignmentsForHIT"
  | .setExpiry _ _ => "UpdateExpirationForHIT"
  | .list _ _ => "ListAssignmentsForHIT"
  | .balance => "GetAccountBalance"

/-- The target of the requests for an operation. -/
def target (r : Request) : String := "MTurkRequesterServiceV20170117." ++ r.operation

/-- The number of assignments that are asked for at once. -/
def listingSize : UInt32 := 100

/-- The states of assignments that are asked for. -/
def listedStates : List String := ["Submitted", "Approved", "Rejected"]

/-- The qualification of workers by the country they live in. -/
def residenceQualification : String := "00000000000000000071"

/-- The qualification of workers by the percentage of their work that was approved. -/
def approvalQualification : String := "000000000000000000L0"

/-- One demand on workers. -/
def requirement : Requirement → Json
  | .localeEquals country =>
    .obj
      [("QualificationTypeId", .str residenceQualification), ("Comparator", .str "EqualTo"),
        ("LocaleValues", .arr [.obj [("Country", .str country)]])]
  | .minApproval percentage =>
    .obj
      [("QualificationTypeId", .str approvalQualification),
        ("Comparator", .str "GreaterThanOrEqualTo"),
        ("IntegerValues", .arr [.ofUInt32 percentage.toUInt32])]

/-- The member with the demands on workers, if there are any. -/
def requirementsMember (rs : List Requirement) : Json.Members :=
  if rs.isEmpty then [] else [("QualificationRequirements", .arr (rs.map requirement))]

/-- The members that describe a new task. -/
def taskMembers (r : TaskRequest) : Json.Members :=
  [("MaxAssignments", .ofUInt32 r.maxAssignments),
    ("AutoApprovalDelayInSeconds", .ofUInt64 r.autoApprovalDelay),
    ("LifetimeInSeconds", .ofUInt64 r.lifetime),
    ("AssignmentDurationInSeconds", .ofUInt64 r.assignmentDuration),
    ("Reward", .str r.reward.dollars), ("Title", .str r.title), ("Keywords", .str r.keywords),
    ("Description", .str r.description),
    ("Question", .str (ExternalPage.document r.url r.frameHeight))] ++
    requirementsMember r.requirements

/-- The number of whole seconds of an instant that the calendar covers, zero for others. -/
def secondsValue (t : Instant) : Json :=
  match WideInt.ofInt? t.seconds with
  | some n => .num (.int n)
  | none => .num (.int (.ofUInt64 0))

/-- The member with the identifier of a task. -/
def taskMember (id : TaskId) : String × Json := ("HITId", .str id.text)

/-- The body of a request. -/
def body : Request → Json
  | .create r => .obj (taskMembers r)
  | .describe id => .obj [taskMember id]
  | .addAssignments id count =>
    .obj [taskMember id, ("NumberOfAdditionalAssignments", .ofUInt32 count)]
  | .setExpiry id t => .obj [taskMember id, ("ExpireAt", secondsValue t)]
  | .list id token =>
    .obj
      (taskMember id :: (token.map fun t => ("NextToken", Json.str t)).toList ++
        [("MaxResults", .ofUInt32 listingSize),
          ("AssignmentStatuses", .arr (listedStates.map .str))])
  | .balance => .obj []

end Request

end CrowdTask
