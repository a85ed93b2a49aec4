import CrowdTask.Proofs.Identifier
import CrowdTask.Proofs.Marketplace.Connection

/-!
# The listing of a task is fetched part by part

The service gives a listing in parts. Every part but the last names the token that asks for the next
one, so the parts are a chain. The marketplace follows the chain: it asks for the first part without
a token and for each further one by the token of the part before. It stops behind the last part, and
also behind a part without entries, whatever token that part names. So the listing that it returns
holds the entries of the whole chain when no part but the last is empty.

## Main definitions

* `CrowdTask.ListingReply.IsChain`: the parts of a listing.
* `CrowdTask.ListingReply.heard`: the parts up to the first one without entries.
* `CrowdTask.ListingReply.asked`: the tokens by which parts are asked for.
* `CrowdTask.Service.Serves`: that a service gives certain parts in turn.
* `CrowdTask.Service.Fetches`: that a run fetches certain parts, and nothing else.
* `CrowdTask.Service.script`: the service that gives the same replies whatever is asked.

## Main results

* `CrowdTask.ListingReply.heard_eq_self_iff`: every part is heard if and only if none but the last is
  empty.
* `CrowdTask.Service.fetches_heard`: the marketplace fetches the parts up to the first one without
  entries.
-/

namespace CrowdTask

/-! ### Chains of parts -/

/-- Whether the member with the identifier of an entry is the text of an identifier. -/
def Submission.HasId (ms : Json.Members) : Prop :=
  ∃ raw id, ms.get? Submission.idMember = some (.str raw) ∧
    Identifier.parse .assignment raw = .ok id

theorem Submission.HasId.exists_ofMembers {ms : Json.Members} (h : Submission.HasId ms) :
    ∃ a, Submission.ofMembers ms = .ok a := by
  obtain ⟨raw, id, hraw, hid⟩ := h
  simp only [Submission.ofMembers, hraw, hid]
  exact ⟨_, rfl⟩

/-- Whether the reply carries the given part of a listing. -/
def WebReply.Carries (r : WebReply) (part : ListingReply) : Prop :=
  r.isSuccess = true ∧ (Json.Raw.read? r.body).bind ListingReply.ofRaw? = some part

namespace ListingReply

/-- The parts of a listing: every one but the last names the token for the next one. -/
inductive IsChain : List ListingReply → Prop where
  | last {part : ListingReply} (htoken : part.token = none) : IsChain [part]
  | more {part : ListingReply} {token : String} {parts : List ListingReply}
      (htoken : part.token = some token) (hparts : IsChain parts) : IsChain (part :: parts)

/-- The parts up to the first one without entries. -/
def heard : List ListingReply → List ListingReply
  | [] => []
  | part :: parts => if part.entries.isEmpty then [part] else part :: heard parts

/-- The tokens by which parts are asked for: each but the first one by the token of the part before
it. -/
def asked : Option String → List ListingReply → List (Option String)
  | _, [] => []
  | token, part :: parts => token :: asked part.token parts

/-- Every part is heard if and only if none but the last is empty. -/
theorem heard_eq_self_iff {parts : List ListingReply} :
    heard parts = parts ↔ ∀ part ∈ parts.dropLast, part.entries ≠ [] := by
  induction parts with
  | nil => simp [heard]
  | cons part parts ih =>
    cases parts with
    | nil => simp [heard]
    | cons next parts =>
      rw [heard, List.dropLast_cons_cons, List.forall_mem_cons, ← ih]
      by_cases hempty : part.entries = []
      · simp [hempty]
      · simp [hempty]

end ListingReply

open ListingReply

namespace Service

variable {σ : Type} (s : Service σ) (id : TaskId)

/-- Whether the service in the state `o` gives certain parts of the listing of a task in turn, when
it is asked for the first one by `token` and for each further one by the token of the part before
it. -/
def Serves : Option String → List ListingReply → σ → Prop
  | _, [], _ => True
  | token, part :: parts, o =>
    (∃ reply, (s.exchange (.list id token) o).1 = .ok reply ∧ reply.Carries part) ∧
      Serves part.token parts (s.exchange (.list id token) o).2

/-- Whether the run of a step fetches certain parts of the listing of a task, the first one by
`token`, and nothing else: it returns their entries in order, it sends one request for each part,
and it keeps no listing. -/
def Fetches (id : TaskId) (token : Option String) (parts : List ListingReply)
    (x : RemoteMarket.Step (StateM (Connection σ)) (List Submission)) (k : Connection σ) : Prop :=
  ∃ items k', outcome x k = (.ok items, k') ∧
    (List.Forall₂ (fun ms a => Submission.ofMembers ms = .ok a)
      (parts.flatMap (·.entries)) items) ∧
    (∃ requests, k'.sent = k.sent ++ requests ∧
      List.Forall₂ (fun w t => w.AsksPart id t) requests (asked token parts)) ∧
    k'.kept = k.kept

variable {s id} {token : Option String} {part : ListingReply} {parts : List ListingReply}
  {k : Connection σ}

/-- The entries of a part, all of which have identifiers. -/
theorem exists_mapM_ofMembers {entries : List Json.Members}
    (h : ∀ ms ∈ entries, Submission.HasId ms) :
    ∃ items, entries.mapM Submission.ofMembers = .ok items ∧
      List.Forall₂ (fun ms a => Submission.ofMembers ms = .ok a) entries items := by
  induction entries with
  | nil => exact ⟨[], rfl, .nil⟩
  | cons ms entries ih =>
    obtain ⟨hid, hentries⟩ := List.forall_mem_cons.mp h
    obtain ⟨a, ha⟩ := hid.exists_ofMembers
    obtain ⟨items, hitems, hall⟩ := ih hentries
    exact ⟨a :: items, by rw [List.mapM_cons, ha, hitems]; rfl, .cons ha hall⟩

/-- A part that is served is received. -/
theorem outcome_call_list {reply : WebReply}
    (hreply : (s.exchange (.list id token) k.outside).1 = .ok reply) (hpart : reply.Carries part) :
    outcome (s.market.call (.list id token) ListingReply.ofRaw?) k =
      (.ok part, s.exchanged (.list id token) k) := by
  rw [outcome_call, hreply, received, RemoteMarket.decodeReply, if_pos hpart.1, hpart.2]

/-- A part behind which the listing ends is fetched alone. -/
theorem fetches_last {bound : Nat} (hserved : s.Serves id token (part :: parts) k.outside)
    (hids : ∀ ms ∈ part.entries, Submission.HasId ms)
    (hends : part.token = none ∨ part.entries = []) :
    Fetches id token [part] (s.market.fetchParts id (bound + 1) token) k := by
  obtain ⟨⟨reply, hreply, hpart⟩, -⟩ := hserved
  obtain ⟨items, hitems, hall⟩ := exists_mapM_ofMembers hids
  refine ⟨items, s.exchanged (.list id token) k, ?_, by simpa using hall,
    ⟨[s.requestAt (.list id token) k.outside], rfl, .cons (s.asksPart_requestAt ..) .nil⟩, rfl⟩
  rw [RemoteMarket.fetchParts, outcome_bind_of_ok _ (outcome_call_list hreply hpart), hitems,
    outcome_bind_of_ok _ (outcome_answered ..)]
  rcases htoken : part.token with _ | next
  · rfl
  · obtain hempty : part.entries = [] := hends.resolve_left (by simp [htoken])
    rw [hempty] at hall
    obtain rfl : items = [] := List.forall₂_nil_left_iff.mp hall
    rfl

/-- A part with entries and a token is fetched together with the parts that follow it. -/
theorem fetches_more {bound : Nat} {next : String} {rest : List ListingReply}
    (hserved : s.Serves id token (part :: parts) k.outside)
    (hids : ∀ ms ∈ part.entries, Submission.HasId ms) (htoken : part.token = some next)
    (hentries : part.entries ≠ [])
    (hrest : Fetches id (some next) rest (s.market.fetchParts id bound (some next))
      (s.exchanged (.list id token) k)) :
    Fetches id token (part :: rest) (s.market.fetchParts id (bound + 1) token) k := by
  obtain ⟨⟨reply, hreply, hpart⟩, -⟩ := hserved
  obtain ⟨items, hitems, hall⟩ := exists_mapM_ofMembers hids
  obtain ⟨others, k', hout, hothers, ⟨requests, hsent, hasks⟩, hkept⟩ := hrest
  have hnonempty : items.isEmpty = false := by
    have hlength := hall.length_eq
    cases items with
    | nil => exact absurd (List.length_eq_zero_iff.mp hlength) hentries
    | cons a items => rfl
  refine ⟨items ++ others, k', ?_, List.rel_append hall hothers,
    ⟨s.requestAt (.list id token) k.outside :: requests, ?_, ?_⟩, hkept⟩
  · rw [RemoteMarket.fetchParts, outcome_bind_of_ok _ (outcome_call_list hreply hpart), hitems,
      outcome_bind_of_ok _ (outcome_answered ..), htoken]
    dsimp only
    rw [hnonempty, if_neg Bool.false_ne_true, outcome_bind_of_ok _ hout]
    rfl
  · rw [hsent, exchanged, List.append_assoc]
    rfl
  · rw [asked, htoken]
    exact .cons (s.asksPart_requestAt ..) hasks

/-- The parts of a chain are fetched up to the first one without entries, with any bound on the
number of parts that these meet. -/
theorem fetches_of_isChain (hchain : IsChain parts) : ∀ (bound : Nat) {token : Option String}
    {k : Connection σ}, s.Serves id token parts k.outside →
      (∀ part ∈ parts, ∀ ms ∈ part.entries, Submission.HasId ms) → (heard parts).length ≤ bound →
        Fetches id token (heard parts) (s.market.fetchParts id bound token) k := by
  induction hchain with
  | @last part htoken =>
    intro bound token k hserved hids hbound
    have hheard : heard [part] = [part] := by simp [heard]
    rw [hheard] at hbound ⊢
    obtain ⟨bound, rfl⟩ := Nat.exists_eq_add_of_le' hbound
    exact fetches_last hserved (hids part (.head _)) (.inl htoken)
  | @more part next parts htoken hparts ih =>
    intro bound token k hserved hids hbound
    obtain ⟨hpart, hrest⟩ := List.forall_mem_cons.mp hids
    rw [heard] at hbound ⊢
    split_ifs at hbound ⊢ with hempty
    · obtain ⟨bound, rfl⟩ := Nat.exists_eq_add_of_le' hbound
      exact fetches_last hserved hpart (.inr (List.isEmpty_iff.mp hempty))
    · obtain ⟨bound, rfl⟩ : ∃ b, bound = b + 1 := Nat.exists_eq_add_one.mpr (by
        rw [List.length_cons] at hbound
        omega)
      refine fetches_more hserved hpart htoken (mt List.isEmpty_iff.mpr hempty)
        (ih bound ?_ hrest ?_)
      · exact htoken ▸ hserved.2
      · simpa using hbound

/-- **Traversal of a listing.** The parts of a listing are fetched up to the first one without
entries: one request is sent for each of them, the first one without a token and each further one
with the token of the part before, and the entries of these parts are returned in order. These are
all parts of the chain if and only if none but the last is empty. A bound on the number of parts is
not met if it is at least their number. -/
theorem fetches_heard (s : Service σ) (id : TaskId) (parts : List ListingReply) (k : Connection σ)
    (hchain : IsChain parts) (hserved : s.Serves id none parts k.outside)
    (hids : ∀ part ∈ parts, ∀ ms ∈ part.entries, Submission.HasId ms) :
    (∀ bound, (heard parts).length ≤ bound →
      Fetches id none (heard parts) (s.market.fetchParts id bound none) k) ∧
    ((heard parts).length ≤ RemoteMarket.partLimit →
      Fetches id none (heard parts) (s.market.wholeListing id) k) ∧
    (heard parts = parts ↔ ∀ part ∈ parts.dropLast, part.entries ≠ []) :=
  ⟨fun bound => fetches_of_isChain hchain bound hserved hids,
    fetches_of_isChain hchain RemoteMarket.partLimit hserved hids, heard_eq_self_iff⟩

end Service

/-! ### A service that follows a script -/

namespace ListingReply

/-- The part of a listing whose entries give nothing but their identifiers. -/
def ofIds (x : List AssignmentId × Option String) : ListingReply :=
  ⟨x.2, x.1.map fun id => [(Submission.idMember, .str id.text)]⟩

/-- A reply with such a part. -/
def ofIdsReply (x : List AssignmentId × Option String) : WebReply :=
  ⟨200, (Json.obj
    (("Assignments", .arr (x.1.map fun id => .obj [(Submission.idMember, .str id.text)])) ::
      (x.2.map fun t => ("NextToken", Json.str t)).toList)).compact⟩

theorem hasId_ofIds (xs : List (List AssignmentId × Option String)) :
    ∀ part ∈ xs.map ofIds, ∀ ms ∈ part.entries, Submission.HasId ms := by
  intro part hpart ms hms
  obtain ⟨x, -, rfl⟩ := List.mem_map.mp hpart
  obtain ⟨id, -, rfl⟩ := List.mem_map.mp hms
  exact ⟨id.text, id, if_pos rfl, id.parse_text⟩

open Json Raw in
/-- A reply carries the part that it was made for. -/
theorem carries_ofIdsReply (x : List AssignmentId × Option String) :
    (ofIdsReply x).Carries (ofIds x) := by
  obtain ⟨ids, token⟩ := x
  have hitems : (rawItems (ids.map fun id => .obj [(Submission.idMember, .str id.text)])).mapM
      (members? (nestingLimit - 3)) =
        some (ids.map fun id => [(Submission.idMember, .str id.text)]) := by
    induction ids with
    | nil => rfl
    | cons id ids ih =>
      rw [List.map_cons, rawItems, List.mapM_cons, ih]
      simp [raw, rawMembers, members?, membersToJson?, toJson?, pieceText?_pieces, Members.ofList,
        Members.insert]
  refine ⟨rfl, ?_⟩
  rw [ofIdsReply, rawRead?_compact, Option.bind_some, ofIds]
  cases token <;>
    simp [raw, rawMembers, ofRaw?, Fields.ofRaw?, Fields.keyed?, Fields.slot?, Fields.named,
      Fields.orAbsent?, Fields.orElse?, Fields.raw?, Fields.nullable?, Raw.items?, Raw.string?,
      pieceText?_pieces, hitems]

end ListingReply

namespace Service

/-- The service that gives certain replies in turn, whatever it is asked. -/
def script : Service (List WebReply) where
  endpoint := "https://mturk-requester.us-east-1.amazonaws.com"
  credentials := ⟨"key", "secret"⟩
  answer _ := fun replies =>
    match replies with
    | [] => (.error "the script ends", [])
    | reply :: replies => (.ok reply, replies)
  clock := pure ⟨0⟩

/-- The connection to a scripted service before anything is sent. -/
def opened (xs : List (List AssignmentId × Option String)) : Connection (List WebReply) :=
  ⟨xs.map ofIdsReply, [], []⟩

theorem serves_script (id : TaskId) (token : Option String)
    (xs : List (List AssignmentId × Option String)) :
    script.Serves id token (xs.map ofIds) (opened xs).outside := by
  induction xs generalizing token with
  | nil => trivial
  | cons x xs ih => exact ⟨⟨_, rfl, carries_ofIdsReply x⟩, ih x.2⟩

/-- A task in a script. -/
def scriptTask : TaskId := ⟨"T", rfl⟩

/-- An assignment in a script. -/
def scriptA : AssignmentId := ⟨"A", rfl⟩

/-- Another assignment in a script. -/
def scriptB : AssignmentId := ⟨"B", rfl⟩

/-- Three parts of a listing, of which the last one is empty. -/
def emptyAtEnd : List (List AssignmentId × Option String) :=
  [([scriptA], some "t1"), ([scriptB], some "t2"), ([], none)]

theorem isChain_emptyAtEnd : IsChain (emptyAtEnd.map ofIds) := .more rfl (.more rfl (.last rfl))

/-- Three parts of a listing, of which the second one is empty. -/
def emptyWithin : List (List AssignmentId × Option String) :=
  [([scriptA], some "t1"), ([], some "t2"), ([scriptB], none)]

/-- All parts are fetched if only the last one is empty. -/
theorem fetches_emptyAtEnd :
    Fetches scriptTask none (emptyAtEnd.map ofIds) (script.market.wholeListing scriptTask)
      (opened emptyAtEnd) := by
  obtain ⟨-, hfetch, hself⟩ := fetches_heard script scriptTask (emptyAtEnd.map ofIds)
    (opened emptyAtEnd) isChain_emptyAtEnd (serves_script _ _ _) (hasId_ofIds _)
  have hall : heard (emptyAtEnd.map ofIds) = emptyAtEnd.map ofIds :=
    hself.mpr (by simp [emptyAtEnd, ofIds])
  rw [hall] at hfetch
  exact hfetch (by decide)

/-- The part behind an empty one is not fetched, although the empty part names a token for it. -/
theorem not_fetches_emptyWithin :
    IsChain (emptyWithin.map ofIds) ∧
    script.Serves scriptTask none (emptyWithin.map ofIds) (opened emptyWithin).outside ∧
    (∀ part ∈ emptyWithin.map ofIds, ∀ ms ∈ part.entries, Submission.HasId ms) ∧
    ¬ Fetches scriptTask none (emptyWithin.map ofIds) (script.market.wholeListing scriptTask)
      (opened emptyWithin) := by
  have hchain : IsChain (emptyWithin.map ofIds) := .more rfl (.more rfl (.last rfl))
  refine ⟨hchain, serves_script _ _ _, hasId_ofIds _, ?_⟩
  rintro ⟨items, k', hout, hitems, -⟩
  -- what is fetched are the two parts up to the empty one, with one entry
  obtain ⟨heardItems, k'', hout', hheard, -⟩ :=
    fetches_of_isChain hchain RemoteMarket.partLimit (serves_script scriptTask none emptyWithin)
      (hasId_ofIds _) (by decide)
  obtain rfl : heardItems = items := by
    have heq := hout'.symm.trans hout
    exact Except.ok.inj (Prod.mk.inj heq).1
  have htwo : heardItems.length = 2 := hitems.length_eq.symm
  have hone : heardItems.length = 1 := hheard.length_eq.symm
  omega

end Service

end CrowdTask
