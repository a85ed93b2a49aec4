import CrowdTask.Marketplace.Basic

/-!
# A local marketplace

A marketplace that is kept in memory. It keeps the tasks it hosts and a list of the calls it
received, and can be told to refuse every call. Identifiers are numbered in the order of creation.

## Main definitions

* `CrowdTask.MarketCall`: a call that was received.
* `CrowdTask.LocalMarket`: the state of the marketplace.
* `CrowdTask.LocalFault`: how a call ends that does not succeed.
* `CrowdTask.LocalMarket.marketplace`: the calls, in any monad that runs its steps.
-/

namespace CrowdTask

/-- A call that was received. -/
inductive MarketCall where
  | create (maxAssignments : UInt32)
  | addAssignments (id : TaskId) (count : UInt32)
  | extend (id : TaskId) (seconds : UInt64)
  | expire (id : TaskId)
  | status (id : TaskId)
  | page (id : TaskId) (number size : Nat)
  | balance
  deriving DecidableEq, Repr

/-- A task with the work that was submitted for it. -/
structure HostedTask where
  request : TaskRequest
  maxAssignments : UInt32
  createdAt : Instant
  expiresAt : Instant
  submissions : List Submission

/-- The state of a local marketplace: the hosted tasks, the number of the last one that was asked
for, the calls that were received, the balance if it was set, and the cause for which calls are
refused. -/
structure LocalMarket where
  tasks : List (TaskId × HostedTask)
  serial : Nat
  calls : List MarketCall
  balance : Option String
  failure : Option MarketError

/-- How a call ends that does not succeed: it is refused, or it stops the program because an
instant is not in the calendar. -/
inductive LocalFault where
  | refused (cause : MarketError)
  | beyondCalendar
  deriving DecidableEq, Repr

/-- A step of a local marketplace. What it changed remains when it fails. -/
abbrev LocalStep := ExceptT LocalFault (StateM LocalMarket)

namespace LocalMarket

/-- The marketplace without tasks. -/
def empty : LocalMarket := ⟨[], 0, [], none, none⟩

/-- The task with the given identifier. -/
def task? (s : LocalMarket) (id : TaskId) : Option HostedTask :=
  (s.tasks.find? fun p => p.1 = id).map (·.2)

/-- Puts a task. -/
def putTask (s : LocalMarket) (id : TaskId) (h : HostedTask) : LocalMarket :=
  { s with tasks := (id, h) :: s.tasks.filter fun p => p.1 ≠ id }

/-- The cause for which a call on a task that does not exist is refused. -/
def noSuchTask (id : TaskId) : MarketError :=
  .remote "AWS.MechanicalTurk.HITDoesNotExist" ("Hit " ++ id.text ++ " does not exist.")

/-- The cause for which a call with unusable numbers is refused. -/
def invalid (reason : String) : MarketError := .remote "ValidationException" reason

/-- The balance that is reported when none was set. -/
def defaultBalance : String := "10000.00"

/-- The identifier made of a word and a number of at least eight digits. -/
def numbered (kind : IdKind) (word : String) (n : Nat) : Except MarketError (Identifier kind) :=
  (Identifier.parse kind (word ++ String.ofList (Text.padded 8 n))).mapError fun e =>
    .response (.invalidId e)

/-! ### Steps -/

/-- Refuses a call. -/
def refuse {α : Type} (cause : MarketError) : LocalStep α := throw (.refused cause)

/-- The value of a result, or the refusal for its cause. -/
def require {α : Type} : Except MarketError α → LocalStep α
  | .ok a => pure a
  | .error cause => refuse cause

/-- Notes a call. Refuses it if all calls are to be refused. -/
def receive (call : MarketCall) : LocalStep Unit := do
  modify fun s => { s with calls := s.calls ++ [call] }
  match (← get).failure with
  | some cause => refuse cause
  | none => pure ()

/-- The task with the given identifier, which has to exist. -/
def requireTask (id : TaskId) : LocalStep HostedTask := do
  match (← get).task? id with
  | some h => pure h
  | none => refuse (noSuchTask id)

/-- The instant some seconds later. A span that is too long is refused; an instant that is not in
the calendar stops the program. -/
def later (t : Instant) (seconds : UInt64) : LocalStep Instant :=
  if Instant.longestSpan < seconds.toNat then refuse (invalid "duration out of range")
  else
    match t.plusSeconds? seconds.toNat with
    | some t => pure t
    | none => throw .beyondCalendar

/-! ### Calls -/

/-- Creates a task. -/
def create (now : Instant) (request : TaskRequest) : LocalStep TaskRecord := do
  receive (.create request.maxAssignments)
  modify fun s => { s with serial := s.serial + 1 }
  let n := (← get).serial
  let id ← require (numbered .task "HIT" n)
  let typeId ← require (numbered .taskType "TYPE" n)
  let groupId ← require (numbered .taskGroup "GROUP" n)
  let expiresAt ← later now request.lifetime
  modify fun s => s.putTask id ⟨request, request.maxAssignments, now, expiresAt, []⟩
  return ⟨id, typeId, some groupId⟩

/-- The sum of two counts, which stays at the largest count when it is larger. -/
def addCounts (a b : UInt32) : UInt32 := UInt32.ofNat (min (UInt32.size - 1) (a.toNat + b.toNat))

/-- Adds assignments to a task. -/
def addAssignments (id : TaskId) (count : UInt32) : LocalStep Unit := do
  receive (.addAssignments id count)
  let h ← requireTask id
  modify (putTask · id { h with maxAssignments := addCounts h.maxAssignments count })

/-- Lets a task expire later, counted from now if it has expired. -/
def extend (now : Instant) (id : TaskId) (seconds : UInt64) : LocalStep Instant := do
  receive (.extend id seconds)
  let h ← requireTask id
  let expiresAt ← later (h.expiresAt.later now) seconds
  modify (putTask · id { h with expiresAt := expiresAt })
  return expiresAt

/-- Lets a task expire now, unless it has expired. -/
def expire (now : Instant) (id : TaskId) : LocalStep Unit := do
  receive (.expire id)
  let h ← requireTask id
  modify (putTask · id { h with expiresAt := h.expiresAt.earlier now })

/-- The word for a task that workers see, and the one for a task that has expired. -/
def statusWord (now : Instant) (h : HostedTask) : String :=
  if now < h.expiresAt then "Assignable" else "Reviewable"

/-- The status of a task. Every submitted assignment is completed. -/
def statusOf (now : Instant) (id : TaskId) (h : HostedTask) : TaskStatus :=
  let submitted := min (UInt32.size - 1) h.submissions.length
  { id := id
    state := statusWord now h
    maxAssignments := h.maxAssignments
    available := UInt32.ofNat (h.maxAssignments.toNat - submitted)
    pending := 0
    completed := UInt32.ofNat submitted
    createdAt := h.createdAt
    expiresAt := h.expiresAt }

/-- Reports the status of a task. -/
def status (now : Instant) (id : TaskId) : LocalStep TaskStatus := do
  receive (.status id)
  return statusOf now id (← requireTask id)

/-- Lists a page of the submitted assignments of a task. -/
def page (id : TaskId) (number size : Nat) : LocalStep ListingPage := do
  receive (.page id number size)
  let h ← requireTask id
  match pageOf? h.submissions number size with
  | some items => return ⟨h.submissions.length, items⟩
  | none => refuse (invalid "page request out of range")

/-- Reports the balance. -/
def readBalance : LocalStep String := do
  receive .balance
  return (← get).balance.getD defaultBalance

/-! ### What happens outside of the program -/

/-- Submits an assignment for a task. -/
def submit (id : TaskId) (a : Submission) : LocalStep Unit := do
  let h ← requireTask id
  modify (putTask · id { h with submissions := h.submissions ++ [a] })

/-- Sets the instant at which a task expires. -/
def setExpiry (id : TaskId) (t : Instant) : LocalStep Unit := do
  let h ← requireTask id
  modify (putTask · id { h with expiresAt := t })

/-- The request that a task was created from. -/
def requestOf (id : TaskId) : LocalStep TaskRequest := return (← requireTask id).request

/-- The calls to the marketplace, in any monad that runs its steps and has a clock. -/
def marketplace {m : Type → Type} [Monad m] (clock : m Instant)
    (run : {α : Type} → LocalStep α → m (Except MarketError α)) : Marketplace m where
  create request := do run (create (← clock) request)
  addAssignments id count := run (addAssignments id count)
  extend id seconds := do run (extend (← clock) id seconds)
  expire id := do run (expire (← clock) id)
  status id := do run (status (← clock) id)
  page id number size := run (page id number size)
  balance := run readBalance

end LocalMarket

end CrowdTask
