import CrowdTask.Assignment.Result
import CrowdTask.Settings.Basic
import CrowdTask.Task.Registry
import CrowdTask.Task.Status

/-!
# The marketplace

The marketplace hosts tasks. There are seven calls to it, each of which may fail: the service
answers with an error, cannot be reached, or answers something that cannot be understood.

## Main definitions

* `CrowdTask.MarketError`: why a call fails.
* `CrowdTask.Marketplace`: the seven calls, in any monad.
* `CrowdTask.pageOf?`: a page of a list.
-/

namespace CrowdTask

/-- Why an answer of the marketplace cannot be understood. -/
inductive ResponseFault where
  | undecodable (operation reason : String)
  | assignmentWithoutId
  | invalidId (cause : IdentifierError)
  | invalidTimestamp (field : String)
  | pageOutOfRange (page size : Nat)
  | secondsOutOfRange (seconds : UInt64)
  | expirationOutOfRange
  | other (text : String)
  deriving DecidableEq, Repr

/-- The message for an answer that cannot be understood. -/
def ResponseFault.message : ResponseFault → String
  | .undecodable operation reason => "could not decode " ++ operation ++ " response: " ++ reason
  | .assignmentWithoutId => "assignment without an AssignmentId"
  | .invalidId cause => cause.message
  | .invalidTimestamp field => "missing or invalid " ++ field
  | .pageOutOfRange page size =>
    "page " ++ toString page ++ " of size " ++ toString size ++ " is out of range"
  | .secondsOutOfRange seconds => toString seconds.toNat ++ " seconds is out of range"
  | .expirationOutOfRange => "expiration is out of range"
  | .other text => text

/-- Why a call to the marketplace fails. -/
inductive MarketError where
  | remote (code message : String)
  | transport (message : String)
  | response (fault : ResponseFault)
  deriving DecidableEq, Repr

/-- The message for a failed call. -/
def MarketError.message : MarketError → String
  | .remote code message => "marketplace error " ++ code ++ ": " ++ message
  | .transport message => "marketplace transport error: " ++ message
  | .response fault => "unexpected marketplace response: " ++ fault.message

/-- The calls to a marketplace. -/
structure Marketplace (m : Type → Type) where
  create : TaskRequest → m (Except MarketError TaskRecord)
  addAssignments : TaskId → UInt32 → m (Except MarketError Unit)
  extend : TaskId → UInt64 → m (Except MarketError Instant)
  expire : TaskId → m (Except MarketError Unit)
  status : TaskId → m (Except MarketError TaskStatus)
  page : TaskId → (number size : Nat) → m (Except MarketError ListingPage)
  balance : m (Except MarketError String)

/-- The marketplace in which every call fails for the same cause. -/
def Marketplace.refusing {m : Type → Type} [Monad m] (cause : MarketError) :
    Marketplace m where
  create _ := pure (.error cause)
  addAssignments _ _ := pure (.error cause)
  extend _ _ := pure (.error cause)
  expire _ := pure (.error cause)
  status _ := pure (.error cause)
  page _ _ _ := pure (.error cause)
  balance := pure (.error cause)

/-- The slice of a list that is the page number `page` of size `size`, pages being counted from
one. There is no such page when the number of items before it does not fit 64 bits. -/
def pageOf? {α : Type} (items : List α) (page size : Nat) : Option (List α) :=
  if page = 0 ∨ UInt64.size ≤ (page - 1) * size then none
  else some ((items.drop ((page - 1) * size)).take size)

end CrowdTask
