import CrowdTask.Json.Reader
import CrowdTask.Json.Record
import CrowdTask.Marketplace.Basic

/-!
# Replies of the service

The service answers in JSON. Members that are not asked for are ignored. Points in time come as
numbers of seconds, of which the fraction is dropped; an assignment keeps all of its members but
the answers, which are split off.

## Main definitions

* `CrowdTask.TaskReply`, `CrowdTask.ListingReply`: the replies that describe a task and a part of a
  listing.
* `CrowdTask.TaskReply.status`: the status of a task in a reply.
* `CrowdTask.Submission.ofMembers`: an assignment in a listing.
* `CrowdTask.ErrorReply.cause`: the cause for a refused call.
-/

namespace CrowdTask

/-- The description of a task. -/
structure TaskReply where
  id : TaskId
  typeId : TaskTypeId
  groupId : Option TaskGroupId
  state : String
  maxAssignments : UInt32
  pending : UInt32
  available : UInt32
  completed : UInt32
  createdAt : Option Json.Number
  expiresAt : Option Json.Number

namespace TaskReply

/-- The names of the members that describe a task. -/
def names : List (List String) :=
  [["HITId"], ["HITTypeId"], ["HITGroupId"], ["HITStatus"], ["MaxAssignments"],
    ["NumberOfAssignmentsPending"], ["NumberOfAssignmentsAvailable"],
    ["NumberOfAssignmentsCompleted"], ["CreationTime"], ["Expiration"]]

/-- The description of a task. -/
def ofRaw? (r : Json.Raw) : Option TaskReply := do
  let fs ← Json.Fields.ofRaw? names r
  return {
    id := ← fs.required? 0 (Identifier.ofRaw? .task)
    typeId := ← fs.required? 1 (Identifier.ofRaw? .taskType)
    groupId := ← fs.orAbsent? 2 (Identifier.ofRaw? .taskGroup)
    state := ← fs.orElse? 3 "" Json.Raw.string?
    maxAssignments := ← fs.orElse? 4 0 Json.Raw.uint32?
    pending := ← fs.orElse? 5 0 Json.Raw.uint32?
    available := ← fs.orElse? 6 0 Json.Raw.uint32?
    completed := ← fs.orElse? 7 0 Json.Raw.uint32?
    createdAt := ← fs.optional? 8 Json.Raw.number?
    expiresAt := ← fs.optional? 9 Json.Raw.number? }

/-- The description of a task as the only member of a reply. -/
def ofReply? (r : Json.Raw) : Option TaskReply := do
  (← Json.Fields.ofRaw? [["HIT"]] r).required? 0 ofRaw?

/-- The whole seconds of a number of seconds: an integer of 63 bits and a sign, or what stands
before the point in the text of any other number. -/
def wholeSeconds? (n : Json.Number) : Option Int :=
  match n with
  | .int i => if i.val < Text.signedLimit then some i.val else none
  | .double _ =>
    if n.render.contains '.' then Text.signed64? (n.render.takeWhile (· ≠ '.')) else none

/-- The point in time of a member. -/
def instant (field : String) (n : Option Json.Number) : Except ResponseFault Instant :=
  match (n.bind wholeSeconds?).bind fun s => (Instant.ofSeconds s).checked? with
  | some t => .ok t
  | none => .error (.invalidTimestamp field)

/-- When the task expires. -/
def expiration (r : TaskReply) : Except ResponseFault Instant := instant "Expiration" r.expiresAt

/-- The status of the task. -/
def status (r : TaskReply) : Except ResponseFault TaskStatus := do
  let createdAt ← instant "CreationTime" r.createdAt
  let expiresAt ← r.expiration
  return ⟨r.id, r.state, r.maxAssignments, r.available, r.pending, r.completed, createdAt,
    expiresAt⟩

/-- The record of the task. -/
def record (r : TaskReply) : TaskRecord := ⟨r.id, r.typeId, r.groupId⟩

end TaskReply

/-! ### Listings -/

/-- A part of a listing, and the token that asks for the next one. -/
structure ListingReply where
  token : Option String
  entries : List Json.Members

namespace ListingReply

/-- The members of an object, with at most `levels` nested containers in each. -/
def members? (levels : Nat) : Json.Raw → Option Json.Members
  | .obj ms => (Json.Raw.membersToJson? levels ms).map Json.Members.ofList
  | _ => none

/-- A part of a listing. Its entries stand in two containers and are a third one. -/
def ofRaw? (r : Json.Raw) : Option ListingReply := do
  let fs ← Json.Fields.ofRaw? [["NextToken"], ["Assignments"]] r
  return ⟨← fs.orAbsent? 0 Json.Raw.string?,
    ← fs.orElse? 1 [] fun items => items.items?.bind (·.mapM (members? (Json.nestingLimit - 3)))⟩

end ListingReply

namespace Submission

/-- The member with the answers of an assignment. -/
def markupMember : String := "Answer"

/-- The member with the identifier of an assignment. -/
def idMember : String := "AssignmentId"

/-- An assignment in a listing. Answers that are no text count as empty. -/
def ofMembers (ms : Json.Members) : Except ResponseFault Submission :=
  match ms.get? idMember with
  | some (.str raw) => do
    let id ← (Identifier.parse .assignment raw).mapError .invalidId
    return ⟨id, ms.erase markupMember, ((ms.get? markupMember).bind Json.asString?).getD ""⟩
  | _ => .error .assignmentWithoutId

end Submission

/-! ### Other replies -/

/-- The balance of the account. -/
def balanceReply? (r : Json.Raw) : Option String := do
  (← Json.Fields.ofRaw? [["AvailableBalance"]] r).required? 0 Json.Raw.string?

/-- What the service says about a refused call. -/
structure ErrorReply where
  kind : Option String
  code : Option String
  message : Option String

namespace ErrorReply

/-- What the service says about a refused call. -/
def ofRaw? (r : Json.Raw) : Option ErrorReply := do
  let fs ← Json.Fields.ofRaw? [["__type"], ["TurkErrorCode"], ["Message", "message"]] r
  return ⟨← fs.orAbsent? 0 Json.Raw.string?, ← fs.orAbsent? 1 Json.Raw.string?,
    ← fs.orAbsent? 2 Json.Raw.string?⟩

/-- The code for a reply that gives none. -/
def statusCode (status : Nat) : String := "HTTP " ++ toString status

/-- The name of a kind of error without the vocabulary before the last number sign. -/
def shortName (kind : String) : String :=
  String.ofList (kind.toList.reverse.takeWhile (· ≠ '#')).reverse

/-- The cause for a refused call. -/
def cause (e : ErrorReply) (status : Nat) : MarketError :=
  .remote (e.code.getD ((e.kind.map shortName).getD (statusCode status))) (e.message.getD "")

/-- The cause for a refused call that was answered with the given status and text. -/
def causeOf (status : Nat) (text : String) : MarketError :=
  match (Json.Raw.read? text).bind ofRaw? with
  | some e => e.cause status
  | none => .remote (statusCode status) text

end ErrorReply

end CrowdTask
