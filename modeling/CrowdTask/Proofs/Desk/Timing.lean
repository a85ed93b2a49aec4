import CrowdTask.Proofs.Desk.AuditTrail

/-!
# Commands and the time of tasks

Only two commands have to do with the time that is left of a task: one adds time, the other ends it.
Both concern the task that is recorded for their environment. What a command reports of the time of
a task is what the marketplace answered, and time that the marketplace added is reported unless it
cannot be entered in the journal.

## Main definitions

* `CrowdTask.Answers`: what holds of every value that a run ends with.
* `CrowdTask.Report.IsFor`: the commands that end with a report about time.
* `CrowdTask.DeskEvent.timed?`: the calls that change the time of a task.
* `CrowdTask.Execution.Times`: what the calls and the answer of a command say about time.

## Main results

* `CrowdTask.Execution.answers_steps`: every report is one for its command.
* `CrowdTask.Execution.leads_add`, `CrowdTask.Execution.leads_expire`,
  `CrowdTask.Execution.leads_status`: the calls of the commands that have to do with time.
* `CrowdTask.Execution.times_steps`: what the calls and the answer of each command say about time.
-/

namespace CrowdTask

variable {s w α β ε : Type}

/-! ### Reports -/

/-- Whether every value that the run ends with has the property `P`. -/
def Answers (P : α → Prop) (x : ExceptT ε (StateM s) α) : Prop :=
  ∀ a v, (outcome x a).1 = .ok v → P v

namespace Answers

variable {P : α → Prop}

theorem pure {v : α} (h : P v) : Answers P (Pure.pure v : ExceptT ε (StateM s) α) := by
  rintro a _ ⟨⟩
  exact h

theorem throw (e : ε) : Answers P (MonadExcept.throw e : ExceptT ε (StateM s) α) := nofun

/-- A run in two parts ends with a value of the second one. -/
theorem bind {x : ExceptT ε (StateM s) β} {f : β → ExceptT ε (StateM s) α}
    (h : ∀ v, Answers P (f v)) : Answers P (x >>= f) := by
  intro a v hv
  rcases hx : outcome x a with ⟨e | u, b⟩
  · rw [outcome_bind_of_error f hx] at hv
    cases hv
  · rw [outcome_bind_of_ok f hx] at hv
    exact h u b v hv

end Answers

/-- What holds of every value that a run ends with holds of its answer. -/
theorem Leads.answers {a : w} {x : ExceptT ε (StateM (Observed w)) α} {P : α → Prop}
    {Q : List (DeskStep w) → w → Except ε α → Prop} (h : Leads a x Q) (hx : Answers P x) :
    Leads a x fun steps b r => Q steps b r ∧ ∀ v, r = .ok v → P v := by
  intro trail
  obtain ⟨steps, b, r, hrun, ht, hq⟩ := h trail
  refine ⟨steps, b, r, hrun, ht, hq, fun v hv => hx ⟨a, trail⟩ v ?_⟩
  rw [hrun]
  exact hv

/-- Whether a report, if it is one about the time of a task, is one for the given command. -/
def Report.IsFor (c : Command) : Report → Prop
  | .extended _ _ _ _ => ∃ x, c = .add x
  | .status _ _ _ _ => c = .status
  | .expired _ => c = .expire
  | _ => True

namespace Execution

/-- Every report is one for its command. -/
theorem answers_steps (d : Desk (StateM s)) (job : Job) (c : Command) :
    Answers (Report.IsFor c) (steps d job c) := by
  cases c with
  | create =>
    refine .bind fun known => ?_
    dsimp only
    split
    · exact .throw _
    · exact .throw _
    · exact .bind fun r => .bind fun _ => .bind fun _ => .pure trivial
  | add x =>
    refine .bind fun r => ?_
    cases x with
    | assignments n => exact .bind fun _ => .pure ⟨_, rfl⟩
    | time n => exact .bind fun _ => .pure ⟨_, rfl⟩
    | both n m => exact .bind fun _ => .bind fun _ => .pure ⟨_, rfl⟩
  | status =>
    refine .bind fun known => ?_
    split
    · exact .pure trivial
    · exact .bind fun t => .bind fun now => .pure rfl
  | expire => exact .bind fun r => .bind fun _ => .bind fun _ => .pure rfl
  | download => exact .bind fun r => .bind fun _ => .pure trivial
  | manage => exact .bind fun r => .pure trivial
  | view => exact .bind fun r => .pure trivial
  | balance => exact .bind fun _ => .pure trivial
  | update => exact .pure trivial
  | history => exact .pure trivial

end Execution

/-! ### Calls -/

/-- The task whose time a call is about to change. -/
def DeskEvent.timed? : DeskEvent → Option TaskId
  | .extend id _ _ => some id
  | .expire id _ => some id
  | _ => none

namespace DeskEvent

/-- An entry in the journal has nothing to do with time. -/
theorem timed?_noted (now : Instant) (entry : JournalEntry) (r : Except JournalError Unit) :
    ∀ x ∈ [DeskEvent.clock now, .append entry r], x.timed? = none :=
  List.forall_mem_cons.mpr ⟨rfl, List.forall_mem_singleton.mpr rfl⟩

/-- A call about the task `id`, and then ones that have nothing to do with time. -/
theorem eq_of_timed_cons {x : DeskEvent} {events : List DeskEvent} {id : TaskId}
    (hx : x.timed? = some id) (h : ∀ y ∈ events, y.timed? = none) :
    ∀ y ∈ x :: events, ∀ id', y.timed? = some id' → id' = id := by
  refine List.forall_mem_cons.mpr ⟨fun id' hid' => ?_, fun y hy id' hid' => ?_⟩
  · exact Option.some.inj (hid'.symm.trans hx)
  · cases (h y hy).symm.trans hid'

end DeskEvent

theorem eq_nil_of_cons_sublist_singleton {k j : Change} {ks : List Change}
    (h : (k :: ks).Sublist [j]) : ks = [] :=
  List.length_eq_zero_iff.mp (Nat.le_zero.mp (Nat.le_of_succ_le_succ h.length_le))

/-- A change of the time of a task is the last change that a command asks for. -/
theorem Command.eq_nil_of_cons_sublist {k : Change} {ks : List Change}
    (hk : k = .addTime ∨ k = .expire) : ∀ c : Command, (k :: ks).Sublist c.changes → ks = []
  | .create, h | .expire, h | .add (.assignments _), h | .add (.time _), h =>
    eq_nil_of_cons_sublist_singleton h
  | .add (.both _ _), h => by
    rcases List.cons_sublist_cons'.mp h with h | ⟨rfl, -⟩
    · exact eq_nil_of_cons_sublist_singleton h
    · rcases hk with hk | hk <;> cases hk
  | .status, h | .download, h | .manage, h | .view, h | .balance, h | .update, h | .history, h =>
    nomatch h

/-- A call about the time of a task asks for a change of it. -/
theorem DeskEvent.change?_of_timed? {x : DeskEvent} {id : TaskId} (h : x.timed? = some id) :
    ∃ k, x.change? = some k ∧ (k = .addTime ∨ k = .expire) := by
  cases x with
  | extend => exact ⟨.addTime, rfl, Or.inl rfl⟩
  | expire => exact ⟨.expire, rfl, Or.inr rfl⟩
  | _ => cases h

namespace Execution

variable (d : Desk (StateM w)) {job : Job} {a : w}

/-- The calls of a command on the recorded task: the registry is loaded first. -/
theorem leads_recorded_bind {f : TaskRecord → ExceptT ExecutionError (StateM (Observed w)) α}
    {Q : List DeskEvent → Except ExecutionError α → Prop}
    (hload : ∀ cause, Q [.load (.error cause)] (.error (.records cause)))
    (hnone : ∀ known, Q [.load (.ok known)] (.error (.notYetCreated job.environment)))
    (hsome : ∀ known r b, known.get? job.environment = some r →
      Leads b (f r) fun steps _ answer => Q (.load (.ok known) :: steps.map (·.event)) answer) :
    Leads a (recorded d.observed job >>= f) fun steps _ answer =>
      Q (steps.map (·.event)) answer := by
  refine .bind (.bind (.attempt ExecutionError.records .load d.records.load ?_))
  rcases d.records.load.run a with ⟨cause | known, b⟩
  · exact hload cause
  · dsimp only [Except.mapError]
    rcases hr : known.get? job.environment with _ | r
    · exact .throw _ (hnone known)
    · exact .pure r ((hsome known r b hr).mono fun steps c answer _ h => h)

/-- The calls that enter a change in the journal, and what follows them. -/
theorem leads_note_bind {change : Change} {data : Json}
    {f : Unit → ExceptT ExecutionError (StateM (Observed w)) α}
    {Q : List DeskEvent → Except ExecutionError α → Prop}
    (herror : ∀ now entry cause,
      Q [.clock now, .append entry (.error cause)] (.error (.journal cause)))
    (hok : ∀ now entry b, Leads b (f ()) fun steps _ answer =>
      Q (.clock now :: .append entry (.ok ()) :: steps.map (·.event)) answer) :
    Leads a (note d.observed change data >>= f) fun steps _ answer =>
      Q (steps.map (·.event)) answer := by
  refine .bind (.bind (.lift .clock d.clock ?_))
  rcases d.clock.run a with ⟨now, b⟩
  refine .attempt ExecutionError.journal (.append _) _ ?_
  rcases (d.journal.append ⟨now, change, data⟩).run b with ⟨cause | ⟨⟨⟩⟩, c⟩
  · exact herror now _ cause
  · exact (hok now _ c).mono fun steps b answer _ h => h

/-- The calls that add time to a task, and their answer. -/
inductive IsExtension (id : TaskId) (n : UInt64) :
    List DeskEvent → Except ExecutionError Instant → Prop where
  | refused (cause : MarketError) :
    IsExtension id n [.extend id n (.error cause)] (.error (.marketplace cause))
  | unnoted (t now : Instant) (entry : JournalEntry) (cause : JournalError) :
    IsExtension id n [.extend id n (.ok t), .clock now, .append entry (.error cause)]
      (.error (.journal cause))
  | added (t now : Instant) (entry : JournalEntry) :
    IsExtension id n [.extend id n (.ok t), .clock now, .append entry (.ok ())] (.ok t)

theorem leads_addTime (id : TaskId) (n : UInt64) :
    Leads a (addTime d.observed id n) fun steps _ answer =>
      IsExtension id n (steps.map (·.event)) answer := by
  refine .bind (.attempt ExecutionError.marketplace (.extend id n) _ ?_)
  rcases (d.market.extend id n).run a with ⟨cause | t, b⟩
  · exact .refused cause
  · exact leads_note_bind d
      (Q := fun events answer => IsExtension id n (.extend id n (.ok t) :: events) answer)
      (fun now entry cause => .unnoted t now entry cause)
      fun now entry c => .pure t (.added t now entry)

theorem leads_addAssignments (id : TaskId) (n : UInt32) :
    Leads a (addAssignments d.observed id n) fun steps _ _ =>
      ∀ x ∈ steps.map (·.event), x.timed? = none := by
  refine .bind (.attempt ExecutionError.marketplace (.addAssignments id n) _ ?_)
  rcases (d.market.addAssignments id n).run a with ⟨cause | ⟨⟨⟩⟩, b⟩
  · exact List.forall_mem_singleton.mpr rfl
  · refine .bind (.lift .clock d.clock (.attempt ExecutionError.journal (.append _) _ ?_))
    exact List.forall_mem_cons.mpr ⟨rfl, DeskEvent.timed?_noted _ _ _⟩

/-- Time is added to the given task only. -/
theorem IsExtension.eq_of_timed {id : TaskId} {n : UInt64} {events : List DeskEvent}
    {answer : Except ExecutionError Instant} (h : IsExtension id n events answer) :
    ∀ x ∈ events, ∀ id', x.timed? = some id' → id' = id := by
  cases h with
  | refused cause => exact DeskEvent.eq_of_timed_cons rfl (List.forall_mem_nil _)
  | unnoted t now entry cause =>
    exact DeskEvent.eq_of_timed_cons rfl (DeskEvent.timed?_noted now entry _)
  | added t now entry => exact DeskEvent.eq_of_timed_cons rfl (DeskEvent.timed?_noted now entry _)

/-- What the calls and the answer of an addition to the task `id` say about time. -/
structure IsAddition (id : TaskId) (events : List DeskEvent)
    (answer : Except ExecutionError Report) : Prop where
  concerns : ∀ x ∈ events, ∀ id', x.timed? = some id' → id' = id
  extended : ∀ id' m n t, answer = .ok (.extended id' m (some n) (some t)) →
    .extend id' n (.ok t) ∈ events
  reported : ∀ id' n t, .extend id' n (.ok t) ∈ events →
    (∃ m, answer = .ok (.extended id' m (some n) (some t))) ∨
      ∃ cause, answer = .error (.journal cause)

section Addition

variable {id : TaskId} {events events' : List DeskEvent}

theorem IsAddition.of_untimed {answer : Except ExecutionError Report}
    (h : ∀ x ∈ events, x.timed? = none)
    (hanswer : ∀ id' m n t, answer ≠ .ok (.extended id' m (some n) (some t))) :
    IsAddition id events answer where
  concerns x hx id' hid' := by
    rw [h x hx] at hid'
    cases hid'
  extended id' m n t heq := absurd heq (hanswer id' m n t)
  reported id' n t hmem := by
    cases h _ hmem

/-- Time is added after calls that have nothing to do with time. -/
theorem IsExtension.isAddition {n : UInt64} {answer : Except ExecutionError Instant}
    (h : IsExtension id n events answer) (h' : ∀ x ∈ events', x.timed? = none)
    (m : Option UInt32) :
    IsAddition id (events' ++ events)
      (answer.map fun t => .extended id m (some n) (some t)) where
  concerns x hx id' hid' := by
    rcases List.mem_append.mp hx with hx | hx
    · rw [h' x hx] at hid'
      cases hid'
    · exact h.eq_of_timed x hx id' hid'
  extended id' m' n' t' heq := by
    cases h with
    | refused cause => cases heq
    | unnoted t now entry cause => cases heq
    | added t now entry =>
      cases heq
      exact List.mem_append_right _ (.head _)
  reported id' n' t' hmem := by
    have hmem : .extend id' n' (.ok t') ∈ events :=
      (List.mem_append.mp hmem).resolve_left fun hmem => by cases h' _ hmem
    cases h with
    | refused cause => simp at hmem
    | unnoted t now entry cause => exact Or.inr ⟨cause, rfl⟩
    | added t now entry =>
      obtain ⟨rfl, rfl, rfl⟩ : id' = id ∧ n' = n ∧ t' = t := by simpa using hmem
      exact Or.inl ⟨m, rfl⟩

end Addition

/-- Time is added and reported, after calls that have nothing to do with time. -/
theorem leads_addTime_bind {id : TaskId} {n : UInt64} {m : Option UInt32} :
    Leads a (addTime d.observed id n >>= fun t => pure (.extended id m (some n) (some t)))
      fun steps _ answer => ∀ events', (∀ x ∈ events', x.timed? = none) →
        IsAddition id (events' ++ steps.map (·.event)) answer := by
  refine .bind ((leads_addTime d id n).mono ?_)
  rintro steps b (cause | t) - h
  · exact fun events' h' => h.isAddition h' m
  · refine .pure _ fun events' h' => ?_
    rw [List.append_nil]
    exact h.isAddition h' m

/-- The calls of a command on the recorded task, where `Q` says what the calls about this task and
the answer are like. -/
def IsOnRecorded (job : Job) (Q : TaskId → List DeskEvent → Except ExecutionError Report → Prop)
    (events : List DeskEvent) (answer : Except ExecutionError Report) : Prop :=
  (∃ loaded cause, events = [.load loaded] ∧ answer = .error cause) ∨
    ∃ known r later, events = .load (.ok known) :: later ∧
      known.get? job.environment = some r ∧ Q r.id later answer

theorem leads_onRecorded {f : TaskRecord → ExceptT ExecutionError (StateM (Observed w)) Report}
    {Q : TaskId → List DeskEvent → Except ExecutionError Report → Prop}
    (h : ∀ r b, Leads b (f r) fun steps _ answer => Q r.id (steps.map (·.event)) answer) :
    Leads a (recorded d.observed job >>= f) fun steps _ answer =>
      IsOnRecorded job Q (steps.map (·.event)) answer :=
  leads_recorded_bind d (fun _ => Or.inl ⟨_, _, rfl, rfl⟩) (fun _ => Or.inl ⟨_, _, rfl, rfl⟩)
    fun known r b hr => (h r b).mono fun _ _ _ _ hq => Or.inr ⟨known, r, _, rfl, hr, hq⟩

/-- The calls of an addition. -/
theorem leads_add (x : Addition) :
    Leads a (add d.observed job x) fun steps _ answer =>
      IsOnRecorded job IsAddition (steps.map (·.event)) answer := by
  refine leads_onRecorded d fun r b => ?_
  cases x with
  | assignments n =>
    refine .bind ((leads_addAssignments d r.id n).mono ?_)
    rintro steps c (cause | ⟨⟨⟩⟩) - h
    · exact .of_untimed h nofun
    · refine .pure _ ?_
      rw [List.append_nil]
      refine .of_untimed h fun id' m n' t heq => ?_
      simp at heq
  | time n =>
    exact (leads_addTime_bind d).mono fun steps c answer _ h => h [] (List.forall_mem_nil _)
  | both n m =>
    refine .bind ((leads_addAssignments d r.id n).mono ?_)
    rintro steps c (cause | ⟨⟨⟩⟩) - h
    · exact .of_untimed h nofun
    · refine (leads_addTime_bind d).mono fun steps' b answer _ h' => ?_
      rw [List.map_append]
      exact h' _ h

/-- What the calls and the answer of a command that ends the task `id` say about time. -/
structure IsEnd (id : TaskId) (events : List DeskEvent) (answer : Except ExecutionError Report) :
    Prop where
  concerns : ∀ x ∈ events, ∀ id', x.timed? = some id' → id' = id
  expired : ∀ id', answer = .ok (.expired id') → .expire id' (.ok ()) ∈ events

/-- The calls that end the time of a task. -/
theorem leads_expire :
    Leads a (expire d.observed job) fun steps _ answer =>
      IsOnRecorded job IsEnd (steps.map (·.event)) answer := by
  refine leads_onRecorded d fun r b => ?_
  refine .bind (.attempt ExecutionError.marketplace (.expire r.id) _ ?_)
  rcases (d.market.expire r.id).run b with ⟨cause | ⟨⟨⟩⟩, c⟩
  · exact ⟨DeskEvent.eq_of_timed_cons rfl (List.forall_mem_nil _), nofun⟩
  · refine leads_note_bind d
      (Q := fun events answer => IsEnd r.id (.expire r.id (.ok ()) :: events) answer) ?_ ?_
    · intro now entry cause
      exact ⟨DeskEvent.eq_of_timed_cons rfl (DeskEvent.timed?_noted now entry _), nofun⟩
    · intro now entry b'
      refine .pure _ ⟨DeskEvent.eq_of_timed_cons rfl (DeskEvent.timed?_noted now entry _), ?_⟩
      rintro id' ⟨⟩
      exact .head _

/-- The calls that report the status of a task: what is reported was answered to the second of them,
and reckoned for the time that the third one read. -/
theorem leads_status :
    Leads a (status d.observed job) fun steps _ answer =>
      ∀ e s phase left, answer = .ok (.status e s phase left) →
        ∃ (known : Registry) (r : TaskRecord) (now : Instant),
          steps.map (·.event) = [.load (.ok known), .status r.id (.ok s), .clock now] ∧
            known.get? job.environment = some r ∧ phase = s.phase now ∧
              left = s.secondsLeft now := by
  refine .bind (.attempt ExecutionError.records .load d.records.load ?_)
  rcases d.records.load.run a with ⟨cause | known, b⟩
  · exact nofun
  dsimp only [Except.mapError]
  rcases hr : known.get? job.environment with _ | r
  · exact .pure _ nofun
  refine .bind (.attempt ExecutionError.marketplace (.status r.id) _ ?_)
  rcases (d.market.status r.id).run b with ⟨cause | s, c⟩
  · exact nofun
  refine .bind (.lift .clock d.clock (.pure _ ?_))
  rintro _ _ _ _ ⟨⟩
  exact ⟨known, r, _, rfl, hr, rfl, rfl⟩

/-! ### Commands -/

/-- What the calls and the answer of a command say about the time of tasks. -/
structure Times (job : Job) (c : Command) (events : List DeskEvent)
    (answer : Except ExecutionError Report) : Prop where
  /-- The changes are those that the command asks for, each of them at most once. -/
  kinds : (events.filterMap DeskEvent.change?).Sublist c.changes
  /-- Only the time of the recorded task is changed. -/
  recorded : ∀ x ∈ events, ∀ id, x.timed? = some id → ∃ known r later,
    events = .load (.ok known) :: later ∧ known.get? job.environment = some r ∧ r.id = id
  /-- A reported extension is one that the marketplace confirmed. -/
  extended : ∀ id m n t, answer = .ok (.extended id m (some n) (some t)) →
    .extend id n (.ok t) ∈ events
  /-- A confirmed extension is reported, unless it cannot be entered in the journal. -/
  reported : ∀ id n t, .extend id n (.ok t) ∈ events →
    (∃ m, answer = .ok (.extended id m (some n) (some t))) ∨
      ∃ cause, answer = .error (.journal cause)
  /-- A task that is reported to be expired was expired by the marketplace. -/
  expired : ∀ id, answer = .ok (.expired id) → .expire id (.ok ()) ∈ events
  /-- A reported status was answered by the marketplace, before the clock was read. -/
  status : ∀ e s phase left, answer = .ok (.status e s phase left) →
    ∃ (known : Registry) (r : TaskRecord) (now : Instant),
      events = [.load (.ok known), .status r.id (.ok s), .clock now] ∧
        known.get? job.environment = some r ∧ phase = s.phase now ∧ left = s.secondsLeft now

section Times

variable {c : Command} {events : List DeskEvent} {answer : Except ExecutionError Report}

theorem IsOnRecorded.recorded
    {Q : TaskId → List DeskEvent → Except ExecutionError Report → Prop}
    (h : IsOnRecorded job Q events answer)
    (hQ : ∀ {id later}, Q id later answer → ∀ x ∈ later, ∀ id', x.timed? = some id' → id' = id) :
    ∀ x ∈ events, ∀ id, x.timed? = some id → ∃ known r later,
      events = .load (.ok known) :: later ∧ known.get? job.environment = some r ∧ r.id = id := by
  rintro x hx id hid
  rcases h with ⟨loaded, cause, rfl, -⟩ | ⟨known, r, later, rfl, hr, hq⟩
  · obtain rfl := List.mem_singleton.mp hx
    cases hid
  · rcases List.mem_cons.mp hx with rfl | hx
    · cases hid
    · exact ⟨known, r, later, rfl, hr, (hQ hq x hx id hid).symm⟩

variable (hkinds : (events.filterMap DeskEvent.change?).Sublist c.changes)
  (hreport : ∀ report, answer = .ok report → report.IsFor c)

include hkinds hreport

/-- Commands that neither add time nor end it. -/
theorem times_of_ne (hadd : ∀ x, c ≠ .add x) (hexpire : c ≠ .expire)
    (hstatus : ∀ e s phase left, answer = .ok (.status e s phase left) →
      ∃ (known : Registry) (r : TaskRecord) (now : Instant),
        events = [.load (.ok known), .status r.id (.ok s), .clock now] ∧
          known.get? job.environment = some r ∧ phase = s.phase now ∧ left = s.secondsLeft now) :
    Times job c events answer := by
  have hnone : ∀ x ∈ events, ∀ id, x.timed? ≠ some id := by
    intro x hx id hid
    obtain ⟨k, hk, hkind⟩ := DeskEvent.change?_of_timed? hid
    have hmem := hkinds.subset (List.mem_filterMap.mpr ⟨x, hx, hk⟩)
    cases c with
    | add x => exact hadd x rfl
    | expire => exact hexpire rfl
    | create => rcases hkind with rfl | rfl <;> cases List.mem_singleton.mp hmem
    | _ => cases hmem
  refine ⟨hkinds, fun x hx id hid => absurd hid (hnone x hx id), ?_, ?_, ?_, hstatus⟩
  · intro id m n t h
    obtain ⟨x, hx⟩ := hreport _ h
    exact absurd hx (hadd x)
  · exact fun id n t hmem => absurd rfl (hnone _ hmem id)
  · exact fun id h => absurd (hreport _ h) hexpire

theorem times_of_add {x : Addition} (hc : c = .add x)
    (h : IsOnRecorded job IsAddition events answer) : Times job c events answer where
  kinds := hkinds
  recorded := h.recorded fun hq => hq.concerns
  extended id m n t hanswer := by
    rcases h with ⟨loaded, cause, -, rfl⟩ | ⟨known, r, later, rfl, -, hq⟩
    · cases hanswer
    · exact .tail _ (hq.extended id m n t hanswer)
  reported id n t hmem := by
    rcases h with ⟨loaded, cause, rfl, -⟩ | ⟨known, r, later, rfl, -, hq⟩
    · cases List.mem_singleton.mp hmem
    · exact hq.reported id n t ((List.mem_cons.mp hmem).resolve_left nofun)
  expired id h := by
    cases hc.symm.trans (hreport _ h)
  status e s phase left h := by
    cases hc.symm.trans (hreport _ h)

theorem times_of_expire (hc : c = .expire) (h : IsOnRecorded job IsEnd events answer) :
    Times job c events answer where
  kinds := hkinds
  recorded := h.recorded fun hq => hq.concerns
  extended id m n t h := by
    obtain ⟨x, hx⟩ := hreport _ h
    cases hc.symm.trans hx
  reported id n t hmem := by
    have h := hkinds.subset (List.mem_filterMap.mpr ⟨_, hmem, rfl⟩)
    subst hc
    cases List.mem_singleton.mp h
  expired id hanswer := by
    rcases h with ⟨loaded, cause, -, rfl⟩ | ⟨known, r, later, rfl, -, hq⟩
    · cases hanswer
    · exact .tail _ (hq.expired id hanswer)
  status e s phase left h := by
    cases hc.symm.trans (hreport _ h)

end Times

/-- After a change of the time of a task, a command changes the time of none. -/
theorem Times.timed?_eq_none_of_append {c : Command} {answer : Except ExecutionError Report}
    {before after : List DeskEvent} {x : DeskEvent} {id : TaskId}
    (h : Times job c (before ++ x :: after) answer) (hx : x.timed? = some id) :
    ∀ y ∈ after, y.timed? = none := by
  obtain ⟨k, hk, hkind⟩ := DeskEvent.change?_of_timed? hx
  have hkinds : (k :: after.filterMap DeskEvent.change?).Sublist c.changes := by
    rw [← List.filterMap_cons_some hk]
    exact ((List.sublist_append_right before _).filterMap _).trans h.kinds
  have hnone := Command.eq_nil_of_cons_sublist hkind c hkinds
  intro y hy
  cases hid : y.timed? with
  | none => rfl
  | some id' =>
    obtain ⟨k', hk', -⟩ := DeskEvent.change?_of_timed? hid
    cases (List.filterMap_eq_nil_iff.mp hnone y hy).symm.trans hk'

/-- What the calls and the answer of each command say about the time of tasks. -/
theorem times_steps (c : Command) :
    Leads a (steps d.observed job c) fun steps _ answer =>
      Times job c (steps.map (·.event)) answer := by
  have hleads : Leads a (steps d.observed job c) fun steps _ answer =>
      ((steps.map (·.event)).filterMap DeskEvent.change?).Sublist c.changes ∧
        ∀ report, answer = .ok report → report.IsFor c :=
    ((audits_steps d job c a).answers (answers_steps d.observed job c)).mono
      fun _ _ _ _ h => ⟨h.1.kinds, h.2⟩
  cases c with
  | add x => exact (hleads.and (leads_add d x)).mono fun _ _ _ _ h =>
      times_of_add h.1.1 h.1.2 rfl h.2
  | expire => exact (hleads.and (leads_expire d)).mono fun _ _ _ _ h =>
      times_of_expire h.1.1 h.1.2 rfl h.2
  | status => exact (hleads.and (leads_status d)).mono fun _ _ _ _ h =>
      times_of_ne h.1.1 h.1.2 nofun nofun h.2
  | _ => exact hleads.mono fun _ _ _ _ h =>
      times_of_ne h.1 h.2 nofun nofun fun _ _ _ _ hanswer => by cases h.2 _ hanswer

end Execution

end CrowdTask
