import CrowdTask.Marketplace.Reply
import CrowdTask.Marketplace.Request
import CrowdTask.Marketplace.Signature

/-!
# The remote marketplace

The service of the marketplace is called by signed requests. It lists assignments in parts, each of
which names the token that asks for the next one. The whole listing of a task is fetched once, and
pages are slices of it.

## Main definitions

* `CrowdTask.WebRequest`, `CrowdTask.WebReply`: what is sent and what is answered.
* `CrowdTask.RemoteMarket`: who calls which service, and by which means.
* `CrowdTask.RemoteMarket.wholeListing`: the whole listing of a task.
* `CrowdTask.RemoteMarket.marketplace`: the calls to the marketplace.
-/

namespace CrowdTask

/-- A request that is sent to the service. -/
structure WebRequest where
  url : String
  contentType : String
  target : String
  date : String
  authorization : String
  body : String
  deriving DecidableEq, Repr

/-- The answer to a request. -/
structure WebReply where
  status : Nat
  body : String
  deriving DecidableEq, Repr

/-- Whether the request was carried out. -/
def WebReply.isSuccess (r : WebReply) : Bool := 200 ≤ r.status && r.status < 300

/-- Who calls which service, and by which means: sending a request, reading the time, and keeping
the listings that were fetched before. A request that is not answered fails with a text. -/
structure RemoteMarket (m : Type → Type) where
  endpoint : String
  credentials : Credentials
  send : WebRequest → m (Except String WebReply)
  clock : m Instant
  listing? : TaskId → m (Option (List Submission))
  keepListing : TaskId → List Submission → m Unit

namespace RemoteMarket

/-- The characters of a text without the slashes at its end. -/
def withoutSlashes (cs : List Char) : List Char := Text.dropEndWhile (· = '/') cs

/-- The host of an address: what follows the scheme, without slashes at the end. -/
def host (endpoint : String) : String :=
  let cs := endpoint.toList
  String.ofList (withoutSlashes ((Markup.splitAt? "://".toList cs).map (·.2) |>.getD cs))

/-- The address to which requests are sent. -/
def urlOf (endpoint : String) : String := String.ofList (withoutSlashes endpoint.toList ++ ['/'])

/-- The region of the service. -/
def region : String := "us-east-1"

/-- The name of the service in signatures. -/
def service : String := "mturk-requester"

/-- A signed request. -/
def signed (credentials : Credentials) (endpoint : String) (r : Request) (now : Instant) :
    WebRequest :=
  let body := r.body.compact
  let headers := Signer.sign ⟨credentials, region, service⟩ (host endpoint) r.target
    (Digest.utf8 body) now
  ⟨urlOf endpoint, Signer.contentType, r.target, headers.date, headers.authorization, body⟩

/-- The value of a reply. -/
def decodeReply {α : Type} (operation : String) (decode : Json.Raw → Option α) (r : WebReply) :
    Except MarketError α :=
  if r.isSuccess then
    match (Json.Raw.read? r.body).bind decode with
    | some a => .ok a
    | none => .error (.response (.undecodable operation Json.mismatch))
  else .error (ErrorReply.causeOf r.status r.body)

variable {m : Type → Type} [Monad m]

/-- A step that may fail for a cause that the marketplace gives. -/
abbrev Step (m : Type → Type) := ExceptT MarketError m

/-- Calls the service. -/
def call {α : Type} (c : RemoteMarket m) (r : Request) (decode : Json.Raw → Option α) :
    Step m α := do
  let now ← (c.clock : m Instant)
  match ← (c.send (signed c.credentials c.endpoint r now) : m (Except String WebReply)) with
  | .error text => throw (.transport text)
  | .ok reply => ExceptT.mk (pure (decodeReply r.operation decode reply))

/-- A result, its fault being one of the answer. -/
def answered {α : Type} (r : Except ResponseFault α) : Step m α :=
  ExceptT.mk (pure (r.mapError .response))

/-- Calls the service for an effect alone. Any JSON value confirms it. -/
def confirm (c : RemoteMarket m) (r : Request) : Step m Unit := do
  let _ ← c.call r (Json.Raw.toJson? Json.nestingLimit)

/-- Creates a task. -/
def create (c : RemoteMarket m) (request : TaskRequest) : Step m TaskRecord :=
  return (← c.call (.create request) TaskReply.ofReply?).record

/-- The description of a task. -/
def describe (c : RemoteMarket m) (id : TaskId) : Step m TaskReply :=
  c.call (.describe id) TaskReply.ofReply?

/-- Adds assignments to a task. -/
def addAssignments (c : RemoteMarket m) (id : TaskId) (count : UInt32) : Step m Unit :=
  c.confirm (.addAssignments id count)

/-- The instant some seconds after the later one of `t` and `now`. -/
def extended (t now : Instant) (seconds : UInt64) : Except ResponseFault Instant :=
  if Instant.longestSpan < seconds.toNat then .error (.secondsOutOfRange seconds)
  else
    match (t.later now).plusSeconds? seconds.toNat with
    | some t => .ok t
    | none => .error .expirationOutOfRange

/-- Lets a task expire later, counted from now if it has expired. -/
def extend (c : RemoteMarket m) (id : TaskId) (seconds : UInt64) : Step m Instant := do
  let current ← answered (← c.describe id).expiration
  let now ← (c.clock : m Instant)
  let expiresAt ← answered (extended current now seconds)
  c.confirm (.setExpiry id expiresAt)
  return expiresAt

/-- Lets a task expire now. -/
def expire (c : RemoteMarket m) (id : TaskId) : Step m Unit := do
  let now ← (c.clock : m Instant)
  c.confirm (.setExpiry id now)

/-- Reports the status of a task. -/
def status (c : RemoteMarket m) (id : TaskId) : Step m TaskStatus := do
  answered (← c.describe id).status

/-! ### Listings -/

/-- The largest number of parts that a listing may have. -/
def partLimit : Nat := UInt64.size

/-- Fetches at most `bound` parts of a listing, beginning with the one that `token` asks for. The
listing ends with a part that names no token or has no entries. -/
def fetchParts (c : RemoteMarket m) (id : TaskId) :
    Nat → Option String → Step m (List Submission)
  | 0, _ => throw (.response (.other "the listing does not end"))
  | bound + 1, token => do
    let part ← c.call (.list id token) ListingReply.ofRaw?
    let items ← answered (part.entries.mapM Submission.ofMembers)
    match part.token with
    | some next =>
      if items.isEmpty then return items else return items ++ (← fetchParts c id bound (some next))
    | none => return items

/-- Fetches the whole listing of a task. -/
def wholeListing (c : RemoteMarket m) (id : TaskId) : Step m (List Submission) :=
  c.fetchParts id partLimit none

/-- The listing of a task, fetched unless it is kept from before. -/
def listing (c : RemoteMarket m) (id : TaskId) : Step m (List Submission) := do
  match ← (c.listing? id : m (Option (List Submission))) with
  | some items => return items
  | none => do
    let items ← c.wholeListing id
    (c.keepListing id items : m Unit)
    return items

/-- A page of a listing. -/
def pageOfListing (items : List Submission) (number size : Nat) :
    Except ResponseFault ListingPage :=
  match pageOf? items number size with
  | some slice => .ok ⟨items.length, slice⟩
  | none => .error (.pageOutOfRange number size)

/-- Lists a page of the assignments of a task. -/
def page (c : RemoteMarket m) (id : TaskId) (number size : Nat) : Step m ListingPage := do
  answered (pageOfListing (← c.listing id) number size)

/-- Reports the balance of the account. -/
def balance (c : RemoteMarket m) : Step m String := c.call .balance balanceReply?

/-- The calls to the marketplace. -/
def marketplace (c : RemoteMarket m) : Marketplace m where
  create request := (c.create request).run
  addAssignments id count := (c.addAssignments id count).run
  extend id seconds := (c.extend id seconds).run
  expire id := (c.expire id).run
  status id := (c.status id).run
  page id number size := (c.page id number size).run
  balance := c.balance.run

end RemoteMarket

end CrowdTask
