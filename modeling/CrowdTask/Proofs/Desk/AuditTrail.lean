import CrowdTask.Proofs.Desk.Commands
import CrowdTask.Store.Memory

/-!
# The journal mirrors the confirmed changes

An execution asks the marketplace for changes, and enters each confirmed one in the journal before
it asks for the next. So the journal has an entry for every confirmed change, in order, and no other
entries; only the last change may be missing, when the registry cannot be saved or the journal not
be extended. A change that is refused ends the execution.

## Main definitions

* `CrowdTask.DeskEvent.change?`, `CrowdTask.DeskEvent.isConfirmed`, `CrowdTask.DeskEvent.isRefused`:
  the calls that ask for a change, and how they are answered.
* `CrowdTask.Records`: which entry records which change.
* `CrowdTask.IsAudited`: what the calls of an execution mean for the journal.
* `CrowdTask.Audits`, `CrowdTask.Settles`: the runs whose calls mean this, and those that enter a
  confirmed change.
* `CrowdTask.Desk.KeepsJournal`: what is required of the journal of a desk.
* `CrowdTask.MirrorsChanges`: what the execution of a command means for the journal.

## Main results

* `CrowdTask.Audits.bind`, `CrowdTask.Audits.change`: the rules for parts of executions, and for a
  change with its entry.
* `CrowdTask.Execution.audits_steps`: the calls of every command are audited.
* `CrowdTask.journal_mirrors_changes`: what an execution adds to the journal.
-/

namespace CrowdTask

/-! ### Changes and entries -/

namespace DeskEvent

/-- The kind of the change that a call asks the marketplace for. -/
def change? : DeskEvent → Option Change
  | .create _ _ => some .create
  | .addAssignments _ _ _ => some .addAssignments
  | .extend _ _ _ => some .addTime
  | .expire _ _ => some .expire
  | _ => none

/-- Whether the marketplace confirmed a change. -/
def isConfirmed : DeskEvent → Bool
  | .create _ (.ok _) => true
  | .addAssignments _ _ (.ok _) => true
  | .extend _ _ (.ok _) => true
  | .expire _ (.ok _) => true
  | _ => false

/-- Whether a call for a change failed. -/
def isRefused (x : DeskEvent) : Bool := x.change?.isSome && !x.isConfirmed

/-- The entry that a call put into the journal. -/
def appended : DeskEvent → List JournalEntry
  | .append entry (.ok ()) => [entry]
  | _ => []

theorem isConfirmed_of_change?_eq_none {x : DeskEvent} (h : x.change? = none) :
    x.isConfirmed = false := by
  cases x <;> simp_all [change?, isConfirmed]

theorem isRefused_of_change?_eq_none {x : DeskEvent} (h : x.change? = none) :
    x.isRefused = false := by
  rw [isRefused, h]
  rfl

end DeskEvent

/-- Which entry records which confirmed change in the environment `e`: it names the kind of the
change and the task, and holds what was asked for and what was answered. -/
inductive Records (e : Environment) : JournalEntry → DeskEvent → Prop where
  | create (time : Moment) (request : TaskRequest) (r : TaskRecord) :
    Records e
      ⟨time, .create, .obj
        [("environment", .str e.name), ("hit_id", .str r.id.text),
          ("hit_type_id", .str r.typeId.text), ("lifetime", .ofUInt64 request.lifetime),
          ("max_assignments", .ofUInt32 request.maxAssignments)]⟩
      (.create request (.ok r))
  | addAssignments (time : Moment) (id : TaskId) (count : UInt32) :
    Records e
      ⟨time, .addAssignments, .obj [("assignments", .ofUInt32 count), ("hit_id", .str id.text)]⟩
      (.addAssignments id count (.ok ()))
  | addTime (time : Moment) (id : TaskId) (seconds : UInt64) (expiresAt : Instant) :
    Records e
      ⟨time, .addTime, .obj
        [("expires_at", .str expiresAt.recordStamp), ("hit_id", .str id.text),
          ("seconds", .ofUInt64 seconds)]⟩
      (.extend id seconds (.ok expiresAt))
  | expire (time : Moment) (id : TaskId) :
    Records e ⟨time, .expire, .obj [("hit_id", .str id.text)]⟩ (.expire id (.ok ()))

/-- The kinds of changes that a command asks for, in order. -/
def Command.changes : Command → List Change
  | .create => [.create]
  | .add (.assignments _) => [.addAssignments]
  | .add (.time _) => [.addTime]
  | .add (.both _ _) => [.addAssignments, .addTime]
  | .expire => [.expire]
  | _ => []

theorem Command.nodup_changes : ∀ c : Command, c.changes.Nodup
  | .create => List.nodup_singleton _
  | .add (.assignments _) => List.nodup_singleton _
  | .add (.time _) => List.nodup_singleton _
  | .add (.both _ _) => List.nodup_cons.mpr ⟨by decide, List.nodup_singleton _⟩
  | .expire => List.nodup_singleton _
  | .status | .download | .manage | .view | .balance | .update | .history => List.nodup_nil

variable {w α β : Type} {e : Environment}

/-! ### Audited calls -/

/-- Whether an execution fails since the registry cannot be loaded or saved, or the journal cannot
be extended. -/
def ExecutionError.isLocal : ExecutionError → Bool
  | .records _ | .journal _ => true
  | _ => false

/-- What the calls of an execution, or of a part of it, mean for the journal, where the execution
asks for changes of the given kinds. -/
structure IsAudited (e : Environment) (kinds : List Change) (events : List DeskEvent)
    (r : Except ExecutionError α) : Prop where
  /-- The appended entries record the confirmed changes, except perhaps the last one. -/
  mirrored :
    List.Forall₂ (Records e) (events.flatMap DeskEvent.appended)
        (events.filter DeskEvent.isConfirmed) ∨
      ∃ earlier last, events.filter DeskEvent.isConfirmed = earlier ++ [last] ∧
        List.Forall₂ (Records e) (events.flatMap DeskEvent.appended) earlier ∧
        ∃ cause, r = .error cause ∧ cause.isLocal = true
  /-- A refused change is the last call, and its cause is the answer. -/
  refused : ∀ before x after, events = before ++ x :: after → x.isRefused = true →
    after = [] ∧ ∃ cause, r = .error (.marketplace cause)
  /-- The changes are asked for in the given order, each of them at most once. -/
  kinds : (events.filterMap DeskEvent.change?).Sublist kinds

/-- Whether a call neither asks for a change nor extends the journal. -/
def DeskEvent.IsQuiet (x : DeskEvent) : Prop := x.change? = none ∧ x.appended = []

theorem IsAudited.of_quiet {events : List DeskEvent} (h : ∀ x ∈ events, x.IsQuiet)
    (r : Except ExecutionError α) : IsAudited e [] events r := by
  have hchange : events.filterMap DeskEvent.change? = [] :=
    List.filterMap_eq_nil_iff.mpr fun x hx => (h x hx).1
  have hconfirmed : events.filter DeskEvent.isConfirmed = [] :=
    List.filter_eq_nil_iff.mpr fun x hx => by
      simp [DeskEvent.isConfirmed_of_change?_eq_none (h x hx).1]
  have happended : events.flatMap DeskEvent.appended = [] :=
    List.flatMap_eq_nil_iff.mpr fun x hx => (h x hx).2
  refine ⟨Or.inl (by rw [happended, hconfirmed]; exact .nil), ?_, by rw [hchange]⟩
  rintro before x after rfl hx
  rw [DeskEvent.isRefused_of_change?_eq_none (h x (by simp)).1] at hx
  cases hx

/-- A part of an execution that was completed is followed by another part. -/
theorem IsAudited.append {kinds kinds' : List Change} {events events' : List DeskEvent} {v : α}
    {r : Except ExecutionError β} (h : IsAudited e kinds events (.ok v : Except ExecutionError α))
    (h' : IsAudited e kinds' events' r) : IsAudited e (kinds ++ kinds') (events ++ events') r := by
  have hmirrored : List.Forall₂ (Records e) (events.flatMap DeskEvent.appended)
      (events.filter DeskEvent.isConfirmed) := by
    rcases h.mirrored with h | ⟨_, _, _, _, _, h, _⟩
    · exact h
    · cases h
  refine ⟨?_, fun before x after hevents hx => ?_, ?_⟩
  · rw [List.flatMap_append, List.filter_append]
    rcases h'.mirrored with h' | ⟨earlier, last, hlast, h', hr⟩
    · exact Or.inl (List.rel_append hmirrored h')
    · refine Or.inr ⟨_, last, ?_, List.rel_append hmirrored h', hr⟩
      rw [hlast, List.append_assoc]
  · rcases List.append_eq_append_iff.mp hevents with ⟨between, rfl, hevents'⟩ | ⟨between, rfl, h₂⟩
    · exact h'.refused between x after hevents' hx
    · cases between with
      | nil => exact h'.refused [] x after h₂.symm hx
      | cons y between =>
        obtain ⟨rfl, -⟩ := List.cons.inj h₂
        obtain ⟨-, cause, hcause⟩ := h.refused before x between rfl hx
        cases hcause
  · rw [List.filterMap_append]
    exact h.kinds.append h'.kinds

theorem IsAudited.mono {kinds kinds' : List Change} {events : List DeskEvent}
    {r : Except ExecutionError α} (h : IsAudited e kinds events r) (hkinds : kinds.Sublist kinds') :
    IsAudited e kinds' events r :=
  ⟨h.mirrored, h.refused, h.kinds.trans hkinds⟩

/-- Nothing follows a part of an execution that failed. -/
theorem IsAudited.of_error {kinds : List Change} {events : List DeskEvent} {cause : ExecutionError}
    (h : IsAudited e kinds events (.error cause : Except ExecutionError α)) :
    IsAudited e kinds events (.error cause : Except ExecutionError β) := by
  refine ⟨h.mirrored.imp_right ?_, fun before x after hevents hx => ?_, h.kinds⟩
  · rintro ⟨earlier, last, hlast, hearlier, _, hcause, hlocal⟩
    obtain rfl := Except.error.inj hcause
    exact ⟨earlier, last, hlast, hearlier, cause, rfl, hlocal⟩
  · obtain ⟨hafter, _, hcause⟩ := h.refused before x after hevents hx
    obtain rfl := Except.error.inj hcause
    exact ⟨hafter, _, rfl⟩

/-- What an execution does once the change `x` is confirmed: it enters the change in the journal, or
it fails before that. -/
structure IsSettled (e : Environment) (x : DeskEvent) (events : List DeskEvent)
    (r : Except ExecutionError α) : Prop where
  unchanged : ∀ y ∈ events, y.change? = none
  entered : (∃ v entry, r = .ok v ∧ events.flatMap DeskEvent.appended = [entry] ∧
      Records e entry x) ∨
    (events.flatMap DeskEvent.appended = [] ∧ ∃ cause, r = .error cause ∧ cause.isLocal = true)

section Change

variable {k : Change} {x : DeskEvent}

theorem DeskEvent.appended_of_change? (h : x.change? = some k) : x.appended = [] := by
  cases x <;> simp_all [change?, appended]

/-- A confirmed change, and what follows it. -/
theorem IsAudited.of_confirmed {events : List DeskEvent} {r : Except ExecutionError α}
    (hk : x.change? = some k) (hx : x.isConfirmed = true) (h : IsSettled e x events r) :
    IsAudited e [k] (x :: events) r := by
  have hconfirmed : (x :: events).filter DeskEvent.isConfirmed = [x] := by
    rw [List.filter_cons_of_pos hx, List.filter_eq_nil_iff.mpr fun y hy => ?_]
    simp [DeskEvent.isConfirmed_of_change?_eq_none (h.unchanged y hy)]
  have happended : (x :: events).flatMap DeskEvent.appended =
      events.flatMap DeskEvent.appended := by
    rw [List.flatMap_cons, DeskEvent.appended_of_change? hk, List.nil_append]
  refine ⟨?_, fun before y after hevents hy => ?_, ?_⟩
  · rw [hconfirmed, happended]
    rcases h.entered with ⟨_, entry, -, hentry, hrecords⟩ | ⟨hnone, hr⟩
    · rw [hentry]
      exact Or.inl (.cons hrecords .nil)
    · exact Or.inr ⟨[], x, rfl, by rw [hnone]; exact .nil, hr⟩
  · -- neither the confirmed change nor what follows it is refused
    have hmem : y ∈ x :: events := by
      rw [hevents]
      simp
    rcases List.mem_cons.mp hmem with rfl | hmem
    · rw [DeskEvent.isRefused, hx, Bool.not_true, Bool.and_false] at hy
      cases hy
    · rw [DeskEvent.isRefused_of_change?_eq_none (h.unchanged y hmem)] at hy
      cases hy
  · rw [List.filterMap_cons_some hk, List.filterMap_eq_nil_iff.mpr h.unchanged]

/-- A refused change, which nothing follows. -/
theorem IsAudited.of_refused (hk : x.change? = some k) (hx : x.isConfirmed = false)
    (cause : MarketError) :
    IsAudited e [k] [x] (.error (.marketplace cause) : Except ExecutionError α) := by
  refine ⟨Or.inl ?_, fun before y after hevents _ => ?_, ?_⟩
  · rw [List.filter_cons_of_neg (by simp [hx]), List.flatMap_singleton,
      DeskEvent.appended_of_change? hk]
    exact .nil
  · cases before with
    | nil =>
      obtain ⟨-, rfl⟩ := List.cons.inj hevents
      exact ⟨rfl, cause, rfl⟩
    | cons _ before => simp at hevents
  · rw [List.filterMap_cons_some hk]
    rfl

end Change

/-! ### Audited executions -/

/-- Wherever it begins, the run asks for changes of the given kinds, and its calls are audited. -/
def Audits (e : Environment) (kinds : List Change)
    (x : ExceptT ExecutionError (StateM (Observed w)) α) : Prop :=
  ∀ a, Leads a x fun steps _ r => IsAudited e kinds (steps.map (·.event)) r

/-- Wherever it begins, the run enters the change `x` in the journal, or it fails. -/
def Settles (e : Environment) (x : DeskEvent)
    (y : ExceptT ExecutionError (StateM (Observed w)) α) : Prop :=
  ∀ a, Leads a y fun steps _ r => IsSettled e x (steps.map (·.event)) r

namespace Audits

variable {x : ExceptT ExecutionError (StateM (Observed w)) α} {kinds kinds' : List Change}

theorem mono (h : Audits e kinds x) (hkinds : kinds.Sublist kinds') : Audits e kinds' x :=
  fun a => (h a).mono fun _ _ _ _ hsteps => hsteps.mono hkinds

theorem of_quiet (h : ∀ a, Leads a x fun steps _ _ => ∀ step ∈ steps, step.event.IsQuiet) :
    Audits e [] x :=
  fun a => (h a).mono fun _ _ r _ hsteps => .of_quiet (List.forall_mem_map.mpr hsteps) r

theorem pure (v : α) :
    Audits e [] (Pure.pure v : ExceptT ExecutionError (StateM (Observed w)) α) :=
  of_quiet fun _ => .pure v (List.forall_mem_nil _)

theorem throw (cause : ExecutionError) :
    Audits e [] (MonadExcept.throw cause : ExceptT ExecutionError (StateM (Observed w)) α) :=
  of_quiet fun _ => .throw cause (List.forall_mem_nil _)

theorem attempt {ε : Type} (cause : ε → ExecutionError) (event : Except ε α → DeskEvent)
    (call : StateM w (Except ε α)) (h : ∀ r, (event r).IsQuiet) :
    Audits e [] (CrowdTask.attempt cause (observe event call)) :=
  of_quiet fun _ => .attempt cause event call (List.forall_mem_singleton.mpr (h _))

theorem bind {f : α → ExceptT ExecutionError (StateM (Observed w)) β} (hx : Audits e kinds x)
    (hf : ∀ v, Audits e kinds' (f v)) : Audits e (kinds ++ kinds') (x >>= f) := by
  refine fun a => .bind ((hx a).mono ?_)
  rintro steps c (cause | v) - h
  · exact h.of_error.mono (List.sublist_append_left _ _)
  · refine (hf v c).mono fun steps' b r _ h' => ?_
    rw [List.map_append]
    exact h.append h'

/-- What asks for no change is followed by what asks for some. -/
theorem quiet_bind {f : α → ExceptT ExecutionError (StateM (Observed w)) β} (hx : Audits e [] x)
    (hf : ∀ v, Audits e kinds (f v)) : Audits e kinds (x >>= f) :=
  hx.bind hf

/-- A change is asked for, and entered once it is confirmed. -/
theorem change {k : Change} {f : α → ExceptT ExecutionError (StateM (Observed w)) β}
    (event : Except MarketError α → DeskEvent) (call : StateM w (Except MarketError α))
    (hk : ∀ r, (event r).change? = some k) (hok : ∀ v, (event (.ok v)).isConfirmed = true)
    (herror : ∀ cause, (event (.error cause)).isConfirmed = false)
    (hf : ∀ v, Settles e (event (.ok v)) (f v)) :
    Audits e [k] (CrowdTask.attempt ExecutionError.marketplace (observe event call) >>= f) := by
  refine fun a => .bind (.attempt ExecutionError.marketplace event call ?_)
  rcases call.run a with ⟨cause | v, b⟩
  · exact .of_refused (hk _) (herror cause) cause
  · exact (hf v b).mono fun steps c r _ h => .of_confirmed (hk _) (hok v) h

end Audits

namespace Settles

variable {x : DeskEvent} {y : ExceptT ExecutionError (StateM (Observed w)) α}

/-- A change is entered at whatever time the clock shows. -/
theorem note (d : Desk (StateM w)) {k : Change} {data : Json}
    (h : ∀ time, Records e ⟨time, k, data⟩ x) :
    Settles e x (Execution.note d.observed k data) := by
  refine fun a => .bind (.lift .clock d.clock ?_)
  rcases d.clock.run a with ⟨now, b⟩
  refine .attempt ExecutionError.journal (.append _) _ ?_
  generalize (d.journal.append ⟨now, k, data⟩).run b = answer
  obtain ⟨cause | ⟨⟨⟩⟩, c⟩ := answer
  · exact ⟨by simp [DeskEvent.change?], Or.inr ⟨rfl, .journal cause, rfl, rfl⟩⟩
  · exact ⟨by simp [DeskEvent.change?], Or.inl ⟨(), _, rfl, rfl, h now⟩⟩

/-- The registry is saved before the change is entered. -/
theorem save (d : Desk (StateM w)) (known : Registry) (h : Settles e x y) :
    Settles e x (attempt .records (d.observed.records.save known) >>= fun _ => y) := by
  refine fun a => .bind (.attempt ExecutionError.records (.save known) _ ?_)
  rcases (d.records.save known).run a with ⟨cause | ⟨⟨⟩⟩, b⟩
  · exact ⟨by simp [DeskEvent.change?], Or.inr ⟨rfl, .records cause, rfl, rfl⟩⟩
  · refine (h b).mono fun steps c r _ hr => ⟨?_, hr.entered⟩
    exact List.forall_mem_cons.mpr ⟨rfl, hr.unchanged⟩

/-- What is answered after that has no part in it. -/
theorem bind_pure (h : Settles e x y) (f : α → β) :
    Settles e x (y >>= fun v => Pure.pure (f v)) := by
  refine fun a => .bind ((h a).mono ?_)
  rintro steps b (cause | v) - hr
  · refine ⟨hr.unchanged, ?_⟩
    rcases hr.entered with ⟨_, _, hcause, _⟩ | ⟨hnone, _, hcause, hlocal⟩
    · cases hcause
    · obtain rfl := Except.error.inj hcause
      exact Or.inr ⟨hnone, cause, rfl, hlocal⟩
  · refine .pure _ ?_
    rw [List.append_nil]
    refine ⟨hr.unchanged, ?_⟩
    rcases hr.entered with ⟨_, entry, _, hentry⟩ | ⟨_, _, hcause, _⟩
    · exact Or.inl ⟨f v, entry, rfl, hentry⟩
    · cases hcause

end Settles

/-! ### Commands -/

namespace Execution

variable (d : Desk (StateM w)) (job : Job)

theorem audits_registry : Audits e [] (registry d.observed) :=
  .attempt ExecutionError.records .load _ fun _ => ⟨rfl, rfl⟩

theorem audits_recorded : Audits e [] (recorded d.observed job) := by
  refine (audits_registry d).quiet_bind fun known => ?_
  cases known.get? job.environment with
  | none => exact .throw _
  | some r => exact .pure r

theorem audits_addAssignments (id : TaskId) (count : UInt32) :
    Audits e [.addAssignments] (addAssignments d.observed id count) :=
  .change (.addAssignments id count) _ (fun _ => rfl) (fun _ => rfl) (fun _ => rfl)
    fun _ => .note d fun time => .addAssignments time id count

theorem audits_addTime (id : TaskId) (seconds : UInt64) :
    Audits e [.addTime] (addTime d.observed id seconds) :=
  .change (.extend id seconds) _ (fun _ => rfl) (fun _ => rfl) (fun _ => rfl)
    fun expiresAt => .bind_pure (.note d fun time => .addTime time id seconds expiresAt) _

theorem audits_add (x : Addition) :
    Audits e (Command.add x).changes (add d.observed job x) := by
  refine (audits_recorded d job).quiet_bind fun r => ?_
  cases x with
  | assignments n =>
    exact (audits_addAssignments d r.id n).bind fun _ => .pure _
  | time s => exact (audits_addTime d r.id s).bind fun _ => .pure _
  | both n s =>
    exact (audits_addAssignments d r.id n).bind fun _ =>
      (audits_addTime d r.id s).bind fun _ => .pure _

theorem audits_expire : Audits e [.expire] (expire d.observed job) := by
  refine (audits_recorded d job).quiet_bind fun r => ?_
  refine .change (.expire r.id) _ (fun _ => rfl) (fun _ => rfl) (fun _ => rfl) fun _ => ?_
  exact .bind_pure (.note d fun time => .expire time r.id) _

theorem audits_create : Audits job.environment [.create] (create d.observed job) := by
  refine (audits_registry d).quiet_bind fun known => ?_
  dsimp only
  rcases known.get? job.environment with _ | r
  · rcases job.settings with _ | settings
    · exact (Audits.throw _).mono (List.nil_sublist _)
    · refine .change (.create _) _ (fun _ => rfl) (fun _ => rfl) (fun _ => rfl) fun r => ?_
      exact .save d _ (.bind_pure (.note d fun time => .create time _ r) _)
  · exact (Audits.throw _).mono (List.nil_sublist _)

theorem audits_download : Audits e [] (download d.observed job) := by
  refine (audits_recorded d job).quiet_bind fun r => ?_
  refine Audits.quiet_bind (.of_quiet fun a => ?_) fun _ => .pure _
  refine .attempt_run ExecutionError.download ?_
  refine ((Download.observes_steps (C := fun step => step.event.IsQuiet) (fun _ => ⟨rfl, rfl⟩)
    (fun _ => ⟨rfl, rfl⟩)
    (Download.observes_takePage (fun _ _ => ⟨rfl, rfl⟩) fun _ _ => ⟨rfl, rfl⟩)) a).mono ?_
  exact fun steps b r _ h => h.2

theorem audits_status : Audits e [] (status d.observed job) := by
  refine (audits_registry d).quiet_bind fun known => ?_
  cases known.get? job.environment with
  | none => exact .pure _
  | some r =>
    refine (Audits.attempt ExecutionError.marketplace (.status r.id) _
      fun _ => ⟨rfl, rfl⟩).quiet_bind fun s => ?_
    refine Audits.quiet_bind (.of_quiet fun a => ?_) fun now => .pure _
    exact .lift .clock d.clock (List.forall_mem_singleton.mpr ⟨rfl, rfl⟩)

/-- The calls of every command are audited. -/
theorem audits_steps (c : Command) :
    Audits job.environment c.changes (steps d.observed job c) := by
  cases c with
  | create => exact audits_create d job
  | update => exact .pure _
  | add x => exact audits_add d job x
  | status => exact audits_status d job
  | expire => exact audits_expire d job
  | download => exact audits_download d job
  | history => exact .pure _
  | manage => exact (audits_recorded d job).quiet_bind fun r => .pure _
  | view => exact (audits_recorded d job).quiet_bind fun r => .pure _
  | balance =>
    exact (Audits.attempt ExecutionError.marketplace .balance _
      fun _ => ⟨rfl, rfl⟩).quiet_bind fun _ => .pure _

end Execution

/-! ### Journals -/

/-- Whether a step adds to the journal what its call appended, and nothing else. -/
def IsJournaled (entries : w → List JournalEntry) (step : DeskStep w) : Prop :=
  entries step.after = entries step.before ++ step.event.appended

/-- What is required of the journal of a desk: the calls that extend it add their entry or fail and
add nothing, and the other calls leave it alone. -/
structure Desk.KeepsJournal (entries : w → List JournalEntry) (d : Desk (StateM w)) : Prop where
  keeps : d.Keeps (IsJournaled entries)
  save : ∀ records a, IsJournaled entries ⟨a, .save records ((d.records.save records).run a).1,
    ((d.records.save records).run a).2⟩

theorem IsTrail.entries_eq {entries : w → List JournalEntry} {a b : w} {steps : List (DeskStep w)}
    (h : IsTrail a steps b) (hsteps : ∀ step ∈ steps, IsJournaled entries step) :
    entries b = entries a ++ (steps.map (·.event)).flatMap DeskEvent.appended := by
  induction steps generalizing a with
  | nil =>
    obtain rfl : a = b := h
    exact (List.append_nil _).symm
  | cons step steps ih =>
    obtain ⟨rfl, h⟩ := h
    obtain ⟨hfirst, hrest⟩ := List.forall_mem_cons.mp hsteps
    rw [ih h hrest, hfirst, List.append_assoc, List.map_cons, List.flatMap_cons]

/-- What the execution of a command means for the journal. -/
structure MirrorsChanges (d : Desk (StateM w)) (job : Job) (c : Command)
    (run : Episode w (Except ExecutionError Report)) : Prop where
  /-- The calls are those of the execution. -/
  runs : (run.answer, run.after) = (Execution.run d job c).run run.before
  /-- The calls mean what they should for the journal. -/
  audited : IsAudited job.environment c.changes (run.steps.map (·.event)) run.answer
  /-- No change is asked for twice. -/
  once : ((run.steps.map (·.event)).filterMap DeskEvent.change?).Nodup
  /-- The journal is extended by the entries that were appended. -/
  extended : ∀ entries : w → List JournalEntry, d.KeepsJournal entries →
    entries run.after =
      entries run.before ++ (run.steps.map (·.event)).flatMap DeskEvent.appended

/-- A desk with a recorded task, at which every change is confirmed, and whose journal takes one
entry and no more. -/
def Desk.withShortJournal (r : TaskRecord) : Desk (StateM MemoryJournal) where
  records := ⟨pure (.ok (Registry.empty.insert .sandbox r)), fun _ => pure (.ok ())⟩
  results := ⟨pure (.ok []), fun _ => pure (.ok ())⟩
  journal := ⟨fun entry => barring
    (do return if (← get).entries.isEmpty then none else some (.io .notFound))
    (MemoryJournal.append entry)⟩
  market :=
    { Marketplace.refusing (.transport "") with
      addAssignments := fun _ _ => pure (.ok ())
      extend := fun _ seconds => pure (.ok ⟨seconds.toNat⟩) }
  clock := pure ⟨0⟩

theorem Desk.keepsJournal_withShortJournal (r : TaskRecord) :
    (withShortJournal r).KeepsJournal MemoryJournal.entries where
  keeps :=
    { load := fun _ => (List.append_nil _).symm
      ids := fun _ => (List.append_nil _).symm
      put := fun _ _ => (List.append_nil _).symm
      append := fun entry a => by
        rcases a with ⟨_ | ⟨x, xs⟩⟩
        · rfl
        · exact (List.append_nil _).symm
      create := fun _ _ => (List.append_nil _).symm
      addAssignments := fun _ _ _ => (List.append_nil _).symm
      extend := fun _ _ _ => (List.append_nil _).symm
      expire := fun _ _ => (List.append_nil _).symm
      status := fun _ _ => (List.append_nil _).symm
      page := fun _ _ _ _ => (List.append_nil _).symm
      balance := fun _ => (List.append_nil _).symm
      clock := fun _ => (List.append_nil _).symm }
  save _ _ := (List.append_nil _).symm

end CrowdTask
