import CrowdTask.Proofs.Desk.Timing
import CrowdTask.Proofs.Marketplace.CalendarEnd
import CrowdTask.Proofs.Marketplace.Timestamps
import CrowdTask.Proofs.Marketplace.Traversal

/-!
# Extensions that the service carries out

To extend a task the service is asked when the task expires, and is then told when it shall expire:
at the later one of that instant and the present, and the added seconds. The request names a whole
number of seconds, whereas the instant that is reported keeps the fraction that the clock showed. So
the instant that is reported is the one that was asked for unless the task had expired before, and
then only if the clock showed a whole second. An extension beyond what can be reckoned with fails
before anything is asked for.

## Main definitions

* `CrowdTask.WebRequest.AsksDescription`, `CrowdTask.WebRequest.SetsExpiry`: the two requests.
* `CrowdTask.Service.reportedExpiry`, `CrowdTask.Service.extensionTime`: what the service reports,
  and the time of an extension.
* `CrowdTask.ExtensionSends`: how an extension ends, and what is sent for it.

## Main results

* `CrowdTask.Service.setsExpiry_requestAt_iff`: the instant that a request names.
* `CrowdTask.Service.sent_extend`: what is sent for an extension.
* `CrowdTask.extension_as_requested`: when the reported expiry is the requested one.
* `CrowdTask.extension_cut`: an extension that is reported otherwise than requested.
-/

namespace CrowdTask

/-! ### Whole seconds -/

namespace Instant

/-- An instant is that of its whole seconds if it has no fraction. -/
theorem ofSeconds_seconds_eq_iff {t : Instant} : ofSeconds t.seconds = t ↔ t.subsecond = 0 := by
  cases t with | mk nanos
  rw [ofSeconds, seconds, subsecond, mk.injEq]
  simp only [second]
  omega

theorem subsecond_ofSeconds (n : Int) : (ofSeconds n).subsecond = 0 := by
  rw [subsecond, ofSeconds, Int.mul_emod_left]
  rfl

theorem subsecond_plusSeconds (t : Instant) (n : Nat) :
    (t.plusSeconds n).subsecond = t.subsecond := by
  rw [subsecond, plusSeconds, Int.add_mul_emod_self_right]
  rfl

/-- The later one of an instant without fraction and the present has a fraction only if it is the
present. -/
theorem subsecond_later_eq_zero_iff {u now : Instant} (hu : u.subsecond = 0) :
    (u.later now).subsecond = 0 ↔ now ≤ u ∨ now.subsecond = 0 := by
  rw [later]
  split_ifs with hle
  · refine ⟨.inr, ?_⟩
    rintro (hge | h)
    · obtain rfl : u = now := congrArg mk (Int.le_antisymm hle hge)
      exact hu
    · exact h
  · exact iff_of_true hu (.inl (Int.le_of_lt (Int.not_le.mp hle)))

/-- A new expiry is that of its whole seconds unless it is reckoned from a present with a
fraction. -/
theorem extended_eq_ofSeconds_iff {u : Instant} (hu : u.subsecond = 0) (now : Instant) (n : Nat) :
    (u.later now).plusSeconds n = ofSeconds ((u.later now).plusSeconds n).seconds ↔
      now ≤ u ∨ now.subsecond = 0 := by
  rw [eq_comm, ofSeconds_seconds_eq_iff, subsecond_plusSeconds, subsecond_later_eq_zero_iff hu]

end Instant

/-- A reply tells when a task expires in whole seconds, and within the calendar. -/
theorem TaskReply.expiration_spec {r : TaskReply} {u : Instant} (h : r.expiration = .ok u) :
    u.subsecond = 0 ∧ u.Representable := by
  rw [expiration, instant] at h
  split at h
  · rename_i t ht
    obtain rfl := Except.ok.inj h
    obtain ⟨n, -, hn⟩ := Option.bind_eq_some_iff.mp ht
    rw [Instant.checked?] at hn
    split_ifs at hn with hrepresentable
    obtain rfl := Option.some.inj hn
    exact ⟨Instant.subsecond_ofSeconds n, hrepresentable⟩
  · cases h

/-! ### Requests -/

namespace WebRequest

/-- Whether a request asks for the description of a task. -/
def AsksDescription (w : WebRequest) (id : TaskId) : Prop :=
  w.target = "MTurkRequesterServiceV20170117.GetHIT" ∧
    ∃ members : Json.Members, Json.read? w.body = some (.obj members) ∧
      members.get? "HITId" = some (.str id.text)

/-- Whether a request asks that a task expire at the instant `t`, which is named by the number of
seconds after the beginning of 1970. -/
def SetsExpiry (w : WebRequest) (id : TaskId) (t : Instant) : Prop :=
  w.target = "MTurkRequesterServiceV20170117.UpdateExpirationForHIT" ∧
    ∃ (members : Json.Members) (n : Json.Number), Json.read? w.body = some (.obj members) ∧
      members.get? "HITId" = some (.str id.text) ∧ members.get? "ExpireAt" = some (.num n) ∧
        (t.nanos : ℚ) = n.printed * Instant.second

end WebRequest

namespace Request

/-- The number of seconds of an instant that the calendar covers. -/
theorem exists_secondsValue {t : Instant} (ht : t.Representable) :
    ∃ n : WideInt, secondsValue t = .num (.int n) ∧ n.val = t.seconds := by
  obtain ⟨hlower, hupper⟩ := ht
  rw [Instant.firstSecond] at hlower
  rw [Instant.lastSecond] at hupper
  have hfits : -9223372036854775808 ≤ t.seconds ∧ t.seconds < 18446744073709551616 := by omega
  refine ⟨⟨t.seconds, hfits.1, hfits.2⟩, ?_, rfl⟩
  rw [secondsValue, WideInt.ofInt?, dif_pos hfits]

/-- The body of a request for a description names the task. -/
theorem read?_body_describe (id : TaskId) : ∃ members : Json.Members,
    Json.read? (Request.describe id).body.compact = some (.obj members) ∧
      members.get? "HITId" = some (.str id.text) := by
  have hbody : (Request.describe id).body = .obj [taskMember id] := rfl
  obtain ⟨members, hread, hget⟩ := @Json.read?_compact_obj [taskMember id] (by simp)
    (by simp [taskMember, Json.IsWhole, Json.MembersWhole])
    (by simp [taskMember, Json.nesting, Json.membersNesting, Json.nestingLimit])
  exact ⟨members, hbody ▸ hread, hget "HITId"⟩

theorem read?_body_setExpiry (id : TaskId) {t : Instant} (ht : t.Representable) :
    ∃ (members : Json.Members) (n : WideInt),
      Json.read? (Request.setExpiry id t).body.compact = some (.obj members) ∧
        members.get? "HITId" = some (.str id.text) ∧
          members.get? "ExpireAt" = some (.num (.int n)) ∧ n.val = t.seconds := by
  obtain ⟨n, hvalue, hn⟩ := exists_secondsValue ht
  have hbody : (Request.setExpiry id t).body =
      .obj [taskMember id, ("ExpireAt", .num (.int n))] := by rw [body, hvalue]
  rw [hbody]
  obtain ⟨members, hread, hget⟩ := @Json.read?_compact_obj
    [taskMember id, ("ExpireAt", .num (.int n))] (by simp [taskMember])
    (by simp [taskMember, Json.IsWhole, Json.MembersWhole])
    (by simp [taskMember, Json.nesting, Json.membersNesting, Json.nestingLimit])
  exact ⟨members, n, hread, hget "HITId", hget "ExpireAt", hn⟩

end Request

namespace Service

variable {σ : Type} (s : Service σ)

theorem asksDescription_requestAt (id : TaskId) (o : σ) :
    (s.requestAt (.describe id) o).AsksDescription id := by
  obtain ⟨members, hread, hget⟩ := Request.read?_body_describe id
  exact ⟨rfl, members, hread, hget⟩

/-- A request that sets an expiry names its whole seconds. -/
theorem setsExpiry_requestAt_iff (id : TaskId) {t : Instant} (ht : t.Representable) (o : σ)
    (t' : Instant) :
    (s.requestAt (.setExpiry id t) o).SetsExpiry id t' ↔ t' = .ofSeconds t.seconds := by
  obtain ⟨members, n, hread, hid, hexpiry, hn⟩ := Request.read?_body_setExpiry id ht
  have hnamed : (t'.nanos : ℚ) = (Json.Number.int n).printed * Instant.second ↔
      t' = .ofSeconds t.seconds := by
    rw [Json.Number.printed_int, hn, ← Int.cast_mul, Int.cast_inj]
    exact ⟨congrArg Instant.mk, congrArg Instant.nanos⟩
  constructor
  · rintro ⟨-, members', n', hread', -, hexpiry', hnanos⟩
    obtain rfl : members = members' := Json.obj.inj (Option.some.inj (hread.symm.trans hread'))
    obtain rfl : .int n = n' := Json.num.inj (Option.some.inj (hexpiry.symm.trans hexpiry'))
    exact hnamed.mp hnanos
  · intro h
    exact ⟨rfl, members, .int n, hread, hid, hexpiry, hnamed.mpr h⟩

/-! ### Extensions -/

/-- The description of a task that the service answers with. -/
def described (id : TaskId) (k : Connection σ) : Except MarketError TaskReply :=
  received (.describe id) TaskReply.ofReply? (s.exchange (.describe id) k.outside).1

/-- When the task expires, as the service reports. -/
def reportedExpiry (id : TaskId) (k : Connection σ) : Except MarketError Instant :=
  (s.described id k).bind fun r => r.expiration.mapError .response

/-- The connection once the task was described and the clock was read. -/
def informed (id : TaskId) (k : Connection σ) : Connection σ :=
  let k' := s.exchanged (.describe id) k
  { k' with outside := (s.clock.run k'.outside).2 }

/-- The time of an extension: the clock is read once the task was described. -/
def extensionTime (id : TaskId) (k : Connection σ) : Instant :=
  (s.clock.run (s.exchanged (.describe id) k).outside).1

/-- Whether the service then confirms that the task expires at the instant `t`. -/
def confirmedExpiry (id : TaskId) (k : Connection σ) (t : Instant) : Except MarketError Unit :=
  (received (.setExpiry id t) (Json.Raw.toJson? Json.nestingLimit)
    (s.exchange (.setExpiry id t) (s.informed id k).outside).1).map fun _ => ()

end Service

/-- How an extension ends, and which requests are sent for it, where `reported` is the expiry that
the service reports, `now` is the time of the extension, and `confirmed` tells whether the service
confirms another expiry. -/
inductive ExtensionSends (id : TaskId) (n : UInt64) (reported : Except MarketError Instant)
    (now : Instant) (confirmed : Instant → Except MarketError Unit) :
    Except MarketError Instant → List WebRequest → Prop where
  /-- The present expiry is not known. -/
  | unknown {cause : MarketError} (hreported : reported = .error cause) {d : WebRequest}
    (hd : d.AsksDescription id) :
    ExtensionSends id n reported now confirmed (.error cause) [d]
  /-- The span is too long. -/
  | tooLong {u : Instant} (hreported : reported = .ok u) (hspan : Instant.longestSpan < n.toNat)
    {d : WebRequest} (hd : d.AsksDescription id) :
    ExtensionSends id n reported now confirmed (.error (.response (.secondsOutOfRange n))) [d]
  /-- The calendar does not cover the new expiry. -/
  | beyond {u : Instant} (hreported : reported = .ok u) (hspan : n.toNat ≤ Instant.longestSpan)
    (hend : Instant.lastSecond < ((u.later now).plusSeconds n.toNat).seconds)
    {d : WebRequest} (hd : d.AsksDescription id) :
    ExtensionSends id n reported now confirmed (.error (.response .expirationOutOfRange)) [d]
  /-- The service is asked for the whole seconds of the new expiry `t`. If it confirms them, the
  instant `t` is reported; it is the one that was asked for unless the task had expired before the
  present, and the present has a fraction. -/
  | asked {u t : Instant} (hreported : reported = .ok u) (hspan : n.toNat ≤ Instant.longestSpan)
    (ht : t = (u.later now).plusSeconds n.toNat) (hend : t.seconds ≤ Instant.lastSecond)
    {d w : WebRequest} (hd : d.AsksDescription id)
    (hw : ∀ t', w.SetsExpiry id t' ↔ t' = .ofSeconds t.seconds)
    (hsame : w.SetsExpiry id t ↔ now ≤ u ∨ now.subsecond = 0) :
    ExtensionSends id n reported now confirmed ((confirmed t).map fun _ => t) [d, w]

namespace Service

variable {σ : Type} (s : Service σ)

theorem outcome_confirm (r : Request) (k : Connection σ) :
    outcome (s.market.confirm r) k =
      ((received r (Json.Raw.toJson? Json.nestingLimit) (s.exchange r k.outside).1).map fun _ => (),
        s.exchanged r k) := by
  have hcall := s.outcome_call r (Json.Raw.toJson? Json.nestingLimit) k
  rw [RemoteMarket.confirm]
  cases hanswer : received r (Json.Raw.toJson? Json.nestingLimit) (s.exchange r k.outside).1 with
  | error e =>
    rw [hanswer] at hcall
    rw [outcome_bind_of_error _ hcall]
    rfl
  | ok v =>
    rw [hanswer] at hcall
    rw [outcome_bind_of_ok _ hcall]
    rfl

/-- The second part of an extension, which depends on the expiry that the service reported. -/
theorem outcome_extended_bind {u : Instant} (hu : u.Representable) (now : Instant) (id : TaskId)
    (n : UInt64) (k : Connection σ) :
    outcome (do
      let t ← RemoteMarket.answered (RemoteMarket.extended u now n)
      s.market.confirm (.setExpiry id t)
      return t) k =
      let t := (u.later now).plusSeconds n.toNat
      if Instant.longestSpan < n.toNat then (.error (.response (.secondsOutOfRange n)), k)
      else if t.seconds ≤ Instant.lastSecond then
        (((received (.setExpiry id t) (Json.Raw.toJson? Json.nestingLimit)
          (s.exchange (.setExpiry id t) k.outside).1).map fun _ => ()).map fun _ => t,
            s.exchanged (.setExpiry id t) k)
      else (.error (.response .expirationOutOfRange), k) := by
  have hanswered := outcome_answered (RemoteMarket.extended u now n) k
  rw [RemoteMarket.extended, Instant.plusSeconds?, Instant.checked?] at hanswered ⊢
  simp only [hu.extended_iff] at hanswered ⊢
  split_ifs at hanswered ⊢
  · rw [outcome_bind_of_error _ hanswered]
  · rw [outcome_bind_of_ok _ hanswered]
    generalize (u.later now).plusSeconds n.toNat = t
    have hconfirm := s.outcome_confirm (.setExpiry id t) k
    rcases hanswer : (received (.setExpiry id t) (Json.Raw.toJson? Json.nestingLimit)
        (s.exchange (.setExpiry id t) k.outside).1) with e | v
    · rw [hanswer] at hconfirm
      exact outcome_bind_of_error _ hconfirm
    · rw [hanswer] at hconfirm
      exact outcome_bind_of_ok _ hconfirm
  · rw [outcome_bind_of_error _ hanswered]

/-- What is sent for an extension, and how it ends. -/
theorem sent_extend (id : TaskId) (n : UInt64) (k : Connection σ) :
    ∃ sent, (outcome (s.market.extend id n) k).2.sent = k.sent ++ sent ∧
      ExtensionSends id n (s.reportedExpiry id k) (s.extensionTime id k) (s.confirmedExpiry id k)
        (outcome (s.market.extend id n) k).1 sent := by
  have hd := s.asksDescription_requestAt id k.outside
  have hdescribe : outcome (s.market.describe id) k =
      (s.described id k, s.exchanged (.describe id) k) := s.outcome_call _ _ k
  rw [RemoteMarket.extend]
  rcases hdescribed : s.described id k with e | r
  · rw [hdescribed] at hdescribe
    rw [outcome_bind_of_error _ hdescribe]
    refine ⟨_, rfl, .unknown ?_ hd⟩
    rw [reportedExpiry, hdescribed]
    rfl
  rw [hdescribed] at hdescribe
  rw [outcome_bind_of_ok _ hdescribe]
  have hexpiry := outcome_answered r.expiration (s.exchanged (.describe id) k)
  have hreported : s.reportedExpiry id k = r.expiration.mapError .response := by
    rw [reportedExpiry, hdescribed]
    rfl
  rcases hu : r.expiration with fault | u
  · rw [hu] at hexpiry hreported
    rw [outcome_bind_of_error _ hexpiry]
    exact ⟨_, rfl, .unknown hreported hd⟩
  rw [hu] at hexpiry hreported
  have hclock : outcome (s.market.clock : RemoteMarket.Step (StateM (Connection σ)) Instant)
      (s.exchanged (.describe id) k) = (.ok (s.extensionTime id k), s.informed id k) := rfl
  obtain ⟨hwhole, hrepresentable⟩ := TaskReply.expiration_spec hu
  rw [outcome_bind_of_ok _ hexpiry, outcome_bind_of_ok _ hclock,
    s.outcome_extended_bind hrepresentable]
  dsimp only
  split_ifs with hspan hend
  · exact ⟨_, rfl, .tooLong hreported hspan hd⟩
  · have ht := (hrepresentable.extended_iff (s.extensionTime id k) n.toNat).mpr hend
    have hw := s.setsExpiry_requestAt_iff id ht (s.informed id k).outside
    have hsame := (hw _).trans (Instant.extended_eq_ofSeconds_iff hwhole _ n.toNat)
    exact ⟨_, List.append_assoc _ _ _, .asked hreported (Nat.not_lt.mp hspan) rfl hend hd hw hsame⟩
  · exact ⟨_, rfl, .beyond hreported (Nat.not_lt.mp hspan) (Int.not_le.mp hend) hd⟩

end Service

/-! ### Reports of extensions -/

theorem exists_mem_of_forall₂ {α β : Type} {R : α → β → Prop} {xs : List α} {ys : List β} {y : β}
    (h : List.Forall₂ R xs ys) (hy : y ∈ ys) : ∃ x ∈ xs, R x y := by
  induction h with
  | nil => cases hy
  | cons hxy _ ih =>
    rcases List.mem_cons.mp hy with rfl | hy
    · exact ⟨_, .head _, hxy⟩
    · obtain ⟨x, hx, hR⟩ := ih hy
      exact ⟨x, .tail _ hx, hR⟩

theorem DeskEvent.eq_append_of_mem_appended {x : DeskEvent} {entry : JournalEntry}
    (h : entry ∈ x.appended) : x = .append entry (.ok ()) := by
  cases x with
  | append e r =>
    rcases r with cause | ⟨⟨⟩⟩
    · cases h
    · obtain rfl := List.mem_singleton.mp h
      rfl
  | _ => cases h

/-- An extension that is reported was answered by the marketplace, and is entered in the journal. -/
theorem Execution.shown_of_extended {w : Type} (d : Desk (StateM w)) (job : Job) (x : Addition)
    (a : w) {id : TaskId} {m : Option UInt32} {n : UInt64} {t : Instant}
    (h : (episode (run d.observed job (.add x)) a).answer =
      .ok (.extended id m (some n) (some t))) :
    let events := (episode (run d.observed job (.add x)) a).steps.map (·.event)
    .extend id n (.ok t) ∈ events ∧ ∃ entry, .append entry (.ok ()) ∈ events ∧
      Records job.environment entry (.extend id n (.ok t)) := by
  have htimes : Times job (.add x)
      ((episode (run d.observed job (.add x)) a).steps.map (·.event))
        (episode (run d.observed job (.add x)) a).answer := (times_steps d (.add x)).episode.2
  have haudited := (audits_steps d job (.add x) a).episode.2
  have hmem := htimes.extended id m n t h
  refine ⟨hmem, ?_⟩
  rcases haudited.mirrored with hmirrored | ⟨earlier, last, -, -, cause, hcause, -⟩
  · obtain ⟨entry, hentry, hrecords⟩ :=
      exists_mem_of_forall₂ hmirrored (List.mem_filter.mpr ⟨hmem, rfl⟩)
    obtain ⟨y, hy, happended⟩ := List.mem_flatMap.mp hentry
    exact ⟨entry, DeskEvent.eq_append_of_mem_appended happended ▸ hy, hrecords⟩
  · cases h.symm.trans hcause

/-- **The reported expiry is the requested one, up to its fraction.** To extend a task the service
is asked for its description, and then once for the whole seconds of the new expiry, if that can be
reckoned with. If the service confirms them, the new expiry itself is answered, which is the later
one of the reported expiry and the present, and the added seconds; so it is the requested one unless
the task had expired before a present with a fraction. An extension that a command reports is the
one that the marketplace answered and that the journal records. -/
theorem extension_as_requested {σ : Type} (s : Service σ) (id : TaskId) (n : UInt64)
    (k : Connection σ) :
    (∃ sent, (outcome (s.market.extend id n) k).2.sent = k.sent ++ sent ∧
      ExtensionSends id n (s.reportedExpiry id k) (s.extensionTime id k) (s.confirmedExpiry id k)
        (outcome (s.market.extend id n) k).1 sent) ∧
    ∀ (w : Type) (d : Desk (StateM w)) (job : Job) (x : Addition) (a : w) (id : TaskId)
      (m : Option UInt32) (n : UInt64) (t : Instant),
      (episode (Execution.run d.observed job (.add x)) a).answer =
          .ok (.extended id m (some n) (some t)) →
        let events := (episode (Execution.run d.observed job (.add x)) a).steps.map (·.event)
        .extend id n (.ok t) ∈ events ∧ ∃ entry, .append entry (.ok ()) ∈ events ∧
          Records job.environment entry (.extend id n (.ok t)) :=
  ⟨s.sent_extend id n k, fun _ d job x a _ _ _ _ h => Execution.shown_of_extended d job x a h⟩

/-- A service whose clock shows half a second after a whole one. -/
def halfPast : Service (List WebReply) :=
  { Service.script with clock := pure ⟨1709283600500000000⟩ }

/-- The connection to the service that describes the task, and then confirms the extension. -/
def overdue : Connection (List WebReply) :=
  ⟨[⟨200, "\x7b\"HIT\": \x7b\"HITId\": \"HIT00000001\", \"HITTypeId\": \"T\", \"Expiration\": " ++
      "1709280000\x7d\x7d"⟩, ⟨200, "\x7b\x7d"⟩], [], []⟩

/-- A desk at which a task is recorded, whose marketplace lets it expire at the instant `t`. -/
def confirming (t : Instant) : Desk (StateM Unit) where
  records := ⟨pure (.ok registryOfMinute), fun _ => pure (.ok ())⟩
  results := ⟨pure (.ok []), fun _ => pure (.ok ())⟩
  journal := ⟨fun _ => pure (.ok ())⟩
  market := { Marketplace.refusing (.transport "") with extend := fun _ _ => pure (.ok t) }
  clock := pure ⟨1709283600500000000⟩

theorem extension_as_requested_halfPast :
    (∃ sent, (outcome (halfPast.market.extend firstTask 60) overdue).2.sent = overdue.sent ++ sent ∧
      ExtensionSends firstTask 60 (halfPast.reportedExpiry firstTask overdue)
        (halfPast.extensionTime firstTask overdue) (halfPast.confirmedExpiry firstTask overdue)
          (outcome (halfPast.market.extend firstTask 60) overdue).1 sent) ∧
    let e := episode (Execution.run (confirming ⟨1709283660500000000⟩).observed
      ⟨.sandbox, none, none⟩ (.add (.time 60))) ()
    e.answer = .ok (.extended firstTask none (some 60) (some ⟨1709283660500000000⟩)) ∧
      .extend firstTask 60 (.ok ⟨1709283660500000000⟩) ∈ e.steps.map (·.event) ∧
        ∃ entry, .append entry (.ok ()) ∈ e.steps.map (·.event) ∧
          Records .sandbox entry (.extend firstTask 60 (.ok ⟨1709283660500000000⟩)) :=
  ⟨(extension_as_requested halfPast firstTask 60 overdue).1, rfl,
    (extension_as_requested halfPast firstTask 60 overdue).2 _ _ _ _ _ _ none _ _ rfl⟩

/-- The report tells an expiry with a fraction, which the service was not asked for. -/
theorem extension_cut :
    (outcome (halfPast.market.extend firstTask 60) overdue).1 = .ok ⟨1709283660500000000⟩ ∧
      ∃ d w, (outcome (halfPast.market.extend firstTask 60) overdue).2.sent = [d, w] ∧
        w.SetsExpiry firstTask ⟨1709283660000000000⟩ ∧
          ¬w.SetsExpiry firstTask ⟨1709283660500000000⟩ := by
  have hanswer : (outcome (halfPast.market.extend firstTask 60) overdue).1 =
      .ok ⟨1709283660500000000⟩ := by decide +kernel
  obtain ⟨sent, hsent, hends⟩ := halfPast.sent_extend firstTask 60 overdue
  refine ⟨hanswer, ?_⟩
  rw [hsent]
  rw [hanswer] at hends
  generalize hr : (Except.ok ⟨1709283660500000000⟩ : Except MarketError Instant) = r at hends
  cases hends with
  | @asked _ t _ _ _ _ _ w _ hw =>
    obtain rfl : t = ⟨1709283660500000000⟩ := by
      revert hr
      rcases halfPast.confirmedExpiry firstTask overdue t with cause | v
      · exact nofun
      · exact fun hr => (Except.ok.inj hr).symm
    refine ⟨_, w, rfl, (hw _).mpr (by decide), fun h => ?_⟩
    exact absurd ((hw _).mp h) (by decide)
  | _ => cases hr

end CrowdTask
