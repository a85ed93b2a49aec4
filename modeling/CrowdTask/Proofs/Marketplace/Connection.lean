import CrowdTask.Marketplace.Remote
import CrowdTask.Proofs.Json.Values
import CrowdTask.Proofs.Run.Trail

/-!
# Connections to the service

What the service answers to a request may depend on everything that was asked of it before. A
connection is the state that a service is in, together with the requests that were sent to it and
the listings that the marketplace keeps. Every call to the marketplace is made of exchanges with the
service; only a page of a listing may add to the listings that are kept.

## Main definitions

* `CrowdTask.Service`: how a service in any state answers a request, and the clock.
* `CrowdTask.Connection`: a service in some state, the requests so far and the kept listings.
* `CrowdTask.Service.market`: the marketplace that is reached by connections.
* `CrowdTask.WebRequest.AsksPart`: the part of a listing that a request asks for.
* `CrowdTask.MarketAction`: a call to a marketplace with its arguments.

## Main results

* `CrowdTask.Service.outcome_call`: a call is one exchange with the service.
* `CrowdTask.Service.asksPart_requestAt`: a request for a part of a listing names the task and the
  token as members of its body.
* `CrowdTask.Service.outcome_page`: a page is a slice of the kept listing, or of the one that is
  fetched and kept.
* `CrowdTask.Service.listing?_after`, `CrowdTask.Service.listing?_afterAll`: a kept listing stays
  as it is, whatever is called.
-/

namespace CrowdTask

/-- A service that is called by an account: how it answers a request in any state, and the clock by
which requests are signed. -/
structure Service (σ : Type) where
  endpoint : String
  credentials : Credentials
  answer : WebRequest → StateM σ (Except String WebReply)
  clock : StateM σ Instant

/-- A service in some state, the requests that were sent to it, and the listings that are kept. -/
structure Connection (σ : Type) where
  outside : σ
  sent : List WebRequest
  kept : List (TaskId × List Submission)

variable {σ α β : Type}

namespace Connection

/-- The listing of a task that is kept. -/
def listing? (k : Connection σ) (id : TaskId) : Option (List Submission) :=
  (k.kept.find? fun p => p.1 = id).map (·.2)

/-- Keeps a listing. -/
def keep (k : Connection σ) (id : TaskId) (items : List Submission) : Connection σ :=
  { k with kept := (id, items) :: k.kept }

@[simp] theorem listing?_keep_self (k : Connection σ) (id : TaskId) (items : List Submission) :
    (k.keep id items).listing? id = some items := by
  simp [listing?, keep]

theorem listing?_keep_of_ne (k : Connection σ) {id id' : TaskId} (h : id ≠ id')
    (items : List Submission) : (k.keep id items).listing? id' = k.listing? id' := by
  simp [listing?, keep, h]

theorem listing?_congr {k k' : Connection σ} (h : k'.kept = k.kept) (id : TaskId) :
    k'.listing? id = k.listing? id := by
  rw [listing?, h, listing?]

end Connection

/-! ### Requests -/

/-- Whether a request asks for a part of the listing of a task: for the first one if there is no
token. The task and the token are members of its body. -/
def WebRequest.AsksPart (w : WebRequest) (id : TaskId) (token : Option String) : Prop :=
  w.target = "MTurkRequesterServiceV20170117.ListAssignmentsForHIT" ∧
    ∃ members : Json.Members, Json.read? w.body = some (.obj members) ∧
      members.get? "HITId" = some (.str id.text) ∧
        members.get? "NextToken" = token.map Json.str

namespace Service

variable (s : Service σ)

/-- The request that is sent in a given state of the service. -/
def requestAt (r : Request) (o : σ) : WebRequest :=
  RemoteMarket.signed s.credentials s.endpoint r (s.clock.run o).1

/-- The answer to a request that is sent in a given state of the service, and the state after
it. -/
def exchange (r : Request) (o : σ) : Except String WebReply × σ :=
  (s.answer (s.requestAt r o)).run (s.clock.run o).2

/-- The members of a request for a part of a listing, in the order in which they are written. -/
def listMembers (id : TaskId) (token : Option String) : Json.Members :=
  ("HITId", .str id.text) :: (token.map fun t => ("NextToken", Json.str t)).toList ++
    [("MaxResults", .ofUInt32 Request.listingSize),
      ("AssignmentStatuses", .arr (Request.listedStates.map .str))]

theorem target_list (id : TaskId) (token : Option String) :
    (Request.list id token).target = "MTurkRequesterServiceV20170117.ListAssignmentsForHIT" :=
  rfl

theorem read?_body_list (id : TaskId) (token : Option String) : ∃ members : Json.Members,
    Json.read? (Request.list id token).body.compact = some (.obj members) ∧
      ∀ key, members.get? key = ((listMembers id token).get? key).map Json.ordered := by
  have hbody : (Request.list id token).body = .obj (listMembers id token) := rfl
  rw [hbody]
  refine Json.read?_compact_obj ?_ ?_ ?_
  all_goals cases token
  all_goals
    simp [listMembers, Request.listedStates, Json.IsWhole, Json.MembersWhole, Json.ItemsWhole,
      Json.nesting, Json.membersNesting, Json.itemsNesting, Json.nestingLimit, Json.ofUInt32]

/-- A request for a part of a listing names the task and the token, and no token for the first
part. -/
theorem asksPart_requestAt (id : TaskId) (token : Option String) (o : σ) :
    (s.requestAt (.list id token) o).AsksPart id token := by
  have htarget : (s.requestAt (.list id token) o).target = (Request.list id token).target := rfl
  have hbody : (s.requestAt (.list id token) o).body = (Request.list id token).body.compact := rfl
  obtain ⟨members, hread, hmembers⟩ := read?_body_list id token
  refine ⟨htarget.trans (target_list id token), members, ?_, hmembers "HITId", ?_⟩
  · rw [hbody, hread]
  · rw [hmembers]
    cases token <;> rfl

/-! ### Calls -/

/-- The marketplace that is reached by connections to the service. -/
def market : RemoteMarket (StateM (Connection σ)) where
  endpoint := s.endpoint
  credentials := s.credentials
  send w := fun k =>
    let r := (s.answer w).run k.outside
    (r.1, { k with outside := r.2, sent := k.sent ++ [w] })
  clock := fun k =>
    let r := s.clock.run k.outside
    (r.1, { k with outside := r.2 })
  listing? id := fun k => (k.listing? id, k)
  keepListing id items := fun k => ((), k.keep id items)

/-- The connection after an exchange. -/
def exchanged (r : Request) (k : Connection σ) : Connection σ :=
  { k with outside := (s.exchange r k.outside).2, sent := k.sent ++ [s.requestAt r k.outside] }

/-- The value of the answer to a request. -/
def received (r : Request) (decode : Json.Raw → Option α) :
    Except String WebReply → Except MarketError α
  | .error text => .error (.transport text)
  | .ok reply => RemoteMarket.decodeReply r.operation decode reply

/-- A call is one exchange with the service. -/
theorem outcome_call (r : Request) (decode : Json.Raw → Option α) (k : Connection σ) :
    outcome (s.market.call r decode) k =
      (received r decode (s.exchange r k.outside).1, s.exchanged r k) := by
  have hclock : outcome (s.market.clock : RemoteMarket.Step (StateM (Connection σ)) Instant) k =
      (.ok (s.clock.run k.outside).1, { k with outside := (s.clock.run k.outside).2 }) := rfl
  have hsend : outcome (s.market.send (RemoteMarket.signed s.market.credentials s.market.endpoint r
      (s.clock.run k.outside).1) : RemoteMarket.Step (StateM (Connection σ)) _)
        { k with outside := (s.clock.run k.outside).2 } =
      (.ok (s.exchange r k.outside).1, s.exchanged r k) := rfl
  rw [RemoteMarket.call, outcome_bind_of_ok _ hclock, outcome_bind_of_ok _ hsend]
  cases (s.exchange r k.outside).1 <;> rfl

theorem outcome_answered (r : Except ResponseFault α) (k : Connection σ) :
    outcome (RemoteMarket.answered (m := StateM (Connection σ)) r) k =
      (r.mapError .response, k) := rfl

/-- Whether a step is made of exchanges: it adds to the requests that were sent, and leaves the
listings that are kept as they are. -/
def Exchanges (x : RemoteMarket.Step (StateM (Connection σ)) α) : Prop :=
  ∀ k, k.sent <+: (outcome x k).2.sent ∧ (outcome x k).2.kept = k.kept

namespace Exchanges

variable {s} {x : RemoteMarket.Step (StateM (Connection σ)) α}
  {f : α → RemoteMarket.Step (StateM (Connection σ)) β}

theorem bind (hx : Exchanges x) (hf : ∀ a, Exchanges (f a)) : Exchanges (x >>= f) := by
  intro k
  have hk := hx k
  rcases hout : outcome x k with ⟨e | a, k'⟩
  · rw [outcome_bind_of_error f hout]
    rwa [hout] at hk
  · rw [outcome_bind_of_ok f hout]
    rw [hout] at hk
    obtain ⟨hsent, hkept⟩ := hf a k'
    exact ⟨hk.1.trans hsent, hkept.trans hk.2⟩

theorem call (r : Request) (decode : Json.Raw → Option α) :
    Exchanges (s.market.call r decode) := by
  intro k
  rw [outcome_call]
  exact ⟨List.prefix_append _ _, rfl⟩

theorem pure (a : α) : Exchanges (Pure.pure a : RemoteMarket.Step (StateM (Connection σ)) α) :=
  fun _ => ⟨List.prefix_rfl, rfl⟩

theorem answered (r : Except ResponseFault α) :
    Exchanges (RemoteMarket.answered (m := StateM (Connection σ)) r) :=
  fun _ => ⟨List.prefix_rfl, rfl⟩

theorem clock : Exchanges (s.market.clock : RemoteMarket.Step (StateM (Connection σ)) Instant) :=
  fun _ => ⟨List.prefix_rfl, rfl⟩

theorem confirm (r : Request) : Exchanges (s.market.confirm r) := (call r _).bind fun _ => pure ()

/-- What follows the receipt of a part of a listing. -/
theorem followPart {id : TaskId} {bound : Nat}
    (h : ∀ token, Exchanges (s.market.fetchParts id bound token)) (part : ListingReply) :
    Exchanges (do
      let items ← RemoteMarket.answered (part.entries.mapM Submission.ofMembers)
      match part.token with
      | some next =>
        if items.isEmpty then return items
        else return items ++ (← s.market.fetchParts id bound (some next))
      | none => return items) := by
  refine (answered _).bind fun items => ?_
  cases part.token with
  | none => exact pure items
  | some next =>
    dsimp only
    split
    · exact pure items
    · exact (h (some next)).bind fun rest => pure (items ++ rest)

theorem fetchParts (id : TaskId) (bound : Nat) (token : Option String) :
    Exchanges (s.market.fetchParts id bound token) := by
  induction bound generalizing token with
  | zero => exact fun _ => ⟨List.prefix_rfl, rfl⟩
  | succ bound ih => exact (call _ _).bind (followPart ih)

/-- The first request of a step that begins with a call. -/
theorem first_bind (r : Request) (decode : Json.Raw → Option β)
    {f : β → RemoteMarket.Step (StateM (Connection σ)) α} (hf : ∀ b, Exchanges (f b))
    (k : Connection σ) :
    k.sent ++ [s.requestAt r k.outside] <+: (outcome (s.market.call r decode >>= f) k).2.sent := by
  have hout := s.outcome_call r decode k
  cases hanswer : received r decode (s.exchange r k.outside).1 with
  | error e =>
    rw [hanswer] at hout
    rw [outcome_bind_of_error f hout]
    exact List.prefix_rfl
  | ok b =>
    rw [hanswer] at hout
    rw [outcome_bind_of_ok f hout]
    exact (hf b (s.exchanged r k)).1

end Exchanges

/-! ### Pages -/

variable {s} {id : TaskId} {k k' : Connection σ}

/-- Fetching a listing leaves what is kept as it is, whether or not it succeeds. -/
theorem kept_wholeListing {r : Except MarketError (List Submission)}
    (h : outcome (s.market.wholeListing id) k = (r, k')) : k'.kept = k.kept := by
  have hkept := (Exchanges.fetchParts (s := s) id RemoteMarket.partLimit none k).2
  rwa [← RemoteMarket.wholeListing, h] at hkept

/-- The fetching of a listing begins with a request without a token. -/
theorem first_wholeListing (id : TaskId) (k : Connection σ) :
    k.sent ++ [s.requestAt (.list id none) k.outside] <+:
      (outcome (s.market.wholeListing id) k).2.sent :=
  Exchanges.first_bind _ _ (Exchanges.followPart (Exchanges.fetchParts id _)) k

/-- The listing is the one that is kept, or is fetched; it is kept only when all of it was
fetched. -/
theorem outcome_listing (k : Connection σ) (id : TaskId) :
    outcome (s.market.listing id) k =
      match k.listing? id with
      | some items => (.ok items, k)
      | none =>
        match outcome (s.market.wholeListing id) k with
        | (.ok items, k') => (.ok items, k'.keep id items)
        | (.error e, k') => (.error e, k') := by
  have hlookup : outcome (monadLift (s.market.listing? id) :
      RemoteMarket.Step (StateM (Connection σ)) _) k = (.ok (k.listing? id), k) := rfl
  rw [RemoteMarket.listing, outcome_bind_of_ok _ hlookup]
  cases k.listing? id with
  | some items => rfl
  | none =>
    dsimp only
    rcases hfetch : outcome (s.market.wholeListing id) k with ⟨e | items, k'⟩
    · exact outcome_bind_of_error _ hfetch
    · exact (outcome_bind_of_ok _ hfetch).trans rfl

/-- The answer to a call for a page of a listing. -/
def pageAnswer (items : List Submission) (number size : Nat) : Except MarketError ListingPage :=
  (RemoteMarket.pageOfListing items number size).mapError .response

/-- A page is a slice of the listing. -/
theorem outcome_page (k : Connection σ) (id : TaskId) (number size : Nat) :
    outcome (s.market.page id number size) k =
      ((outcome (s.market.listing id) k).1.bind fun items => pageAnswer items number size,
        (outcome (s.market.listing id) k).2) := by
  rcases h : outcome (s.market.listing id) k with ⟨e | items, k'⟩
  · exact outcome_bind_of_error _ h
  · rw [RemoteMarket.page, outcome_bind_of_ok _ h, outcome_answered]
    rfl

end Service

/-! ### Calls to a marketplace -/

/-- A call to a marketplace with its arguments. -/
inductive MarketAction where
  | create (request : TaskRequest)
  | addAssignments (id : TaskId) (count : UInt32)
  | extend (id : TaskId) (seconds : UInt64)
  | expire (id : TaskId)
  | status (id : TaskId)
  | page (id : TaskId) (number size : Nat)
  | balance

namespace Marketplace

/-- The state after a call. -/
def after (m : Marketplace (StateM σ)) (k : σ) : MarketAction → σ
  | .create request => ((m.create request).run k).2
  | .addAssignments id count => ((m.addAssignments id count).run k).2
  | .extend id seconds => ((m.extend id seconds).run k).2
  | .expire id => ((m.expire id).run k).2
  | .status id => ((m.status id).run k).2
  | .page id number size => ((m.page id number size).run k).2
  | .balance => (m.balance.run k).2

/-- The state after a sequence of calls. -/
def afterAll (m : Marketplace (StateM σ)) (k : σ) (actions : List MarketAction) : σ :=
  actions.foldl m.after k

end Marketplace

namespace Service

variable (s : Service σ) (k : Connection σ)

/-- No call but one for a page changes the listings that are kept. -/
theorem kept_after {action : MarketAction} (h : ∀ id number size, action ≠ .page id number size) :
    (s.market.marketplace.after k action).kept = k.kept := by
  cases action with
  | create request => exact ((Exchanges.call _ _).bind (fun _ => .pure _) k).2
  | addAssignments id count => exact (Exchanges.confirm _ k).2
  | extend id seconds =>
    exact ((Exchanges.call _ _).bind (fun _ => (Exchanges.answered _).bind fun _ =>
      Exchanges.clock.bind fun _ => (Exchanges.answered _).bind fun _ =>
        (Exchanges.confirm _).bind fun _ => .pure _) k).2
  | expire id => exact (Exchanges.clock.bind (fun _ => .confirm _) k).2
  | status id => exact ((Exchanges.call _ _).bind (fun _ => .answered _) k).2
  | page id number size => exact absurd rfl (h id number size)
  | balance => exact (Exchanges.call _ _ k).2

theorem after_page (id : TaskId) (number size : Nat) :
    s.market.marketplace.after k (.page id number size) = (outcome (s.market.listing id) k).2 :=
  congrArg Prod.snd (outcome_page k id number size)

/-- Only a page of a task changes what is kept of its listing. -/
theorem listing?_after_of_ne {id : TaskId} {action : MarketAction}
    (h : ∀ number size, action ≠ .page id number size) :
    (s.market.marketplace.after k action).listing? id = k.listing? id := by
  cases action with
  | page id' number size =>
    have hne : id' ≠ id := by
      rintro rfl
      exact h number size rfl
    rw [after_page, outcome_listing]
    cases k.listing? id' with
    | some items => rfl
    | none =>
      rcases hfetch : outcome (s.market.wholeListing id') k with ⟨e | items, k'⟩
      · exact Connection.listing?_congr (kept_wholeListing hfetch) id
      · exact (k'.listing?_keep_of_ne hne items).trans
          (Connection.listing?_congr (kept_wholeListing hfetch) id)
  | _ => exact Connection.listing?_congr (s.kept_after k (by simp)) id

/-- A kept listing stays as it is, whatever is called. -/
theorem listing?_after {id : TaskId} {items : List Submission} (action : MarketAction)
    (h : k.listing? id = some items) :
    (s.market.marketplace.after k action).listing? id = some items := by
  by_cases hpage : ∃ number size, action = .page id number size
  · obtain ⟨number, size, rfl⟩ := hpage
    rw [after_page, outcome_listing, h]
    exact h
  · rw [s.listing?_after_of_ne k fun number size heq => hpage ⟨number, size, heq⟩, h]

/-- What is kept of a listing stays as it is through all calls but those for its pages. -/
theorem listing?_afterAll_of_notMem {id : TaskId} (actions : List MarketAction)
    (h : ∀ number size, .page id number size ∉ actions) :
    (s.market.marketplace.afterAll k actions).listing? id = k.listing? id := by
  induction actions generalizing k with
  | nil => rfl
  | cons action actions ih =>
    have hne : ∀ number size, action ≠ .page id number size := fun number size heq =>
      h number size (heq ▸ List.mem_cons_self)
    have hrest : ∀ number size, .page id number size ∉ actions := fun number size hmem =>
      h number size (.tail _ hmem)
    exact (ih _ hrest).trans (s.listing?_after_of_ne k hne)

/-- A kept listing stays as it is through all calls that follow. -/
theorem listing?_afterAll {id : TaskId} {items : List Submission} (actions : List MarketAction)
    (h : k.listing? id = some items) :
    (s.market.marketplace.afterAll k actions).listing? id = some items := by
  induction actions generalizing k with
  | nil => exact h
  | cons action actions ih => exact ih _ (s.listing?_after k action h)

end Service

end CrowdTask
