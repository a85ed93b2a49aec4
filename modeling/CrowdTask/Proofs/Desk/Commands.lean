import CrowdTask.Proofs.Download.Entries

/-!
# The calls of a command

A command calls the ports of its desk. The one that creates a task is the only one that saves the
registry, and its calls follow one of seven patterns: it gives up at one of its calls or between
two of them, or it makes them all.

## Main definitions

* `CrowdTask.Desk.Keeps`: what holds of every call at a desk but those that save the registry.
* `CrowdTask.Execution.IsCreation`: the calls of a command that creates a task, and its answer.

## Main results

* `CrowdTask.Execution.observes_steps_of_ne`: what holds of the calls of the other commands.
* `CrowdTask.Execution.leads_create`: the calls of a command that creates a task.
-/

namespace CrowdTask

variable {w : Type} {C : DeskStep w → Prop} {d : Desk (StateM w)} {job : Job}

/-- Whether `C` holds of every call at a desk but those that save the registry. -/
structure Desk.Keeps (C : DeskStep w → Prop) (d : Desk (StateM w)) : Prop where
  load : ∀ a, C ⟨a, .load (d.records.load.run a).1, (d.records.load.run a).2⟩
  ids : ∀ a, C ⟨a, .ids (d.results.ids.run a).1, (d.results.ids.run a).2⟩
  put : ∀ r a, C ⟨a, .put r ((d.results.put r).run a).1, ((d.results.put r).run a).2⟩
  append : ∀ r a,
    C ⟨a, .append r ((d.journal.append r).run a).1, ((d.journal.append r).run a).2⟩
  create : ∀ request a,
    C ⟨a, .create request ((d.market.create request).run a).1, ((d.market.create request).run a).2⟩
  addAssignments : ∀ id n a, C ⟨a, .addAssignments id n ((d.market.addAssignments id n).run a).1,
    ((d.market.addAssignments id n).run a).2⟩
  extend : ∀ id n a,
    C ⟨a, .extend id n ((d.market.extend id n).run a).1, ((d.market.extend id n).run a).2⟩
  expire : ∀ id a, C ⟨a, .expire id ((d.market.expire id).run a).1, ((d.market.expire id).run a).2⟩
  status : ∀ id a, C ⟨a, .status id ((d.market.status id).run a).1, ((d.market.status id).run a).2⟩
  page : ∀ id number size a, C ⟨a, .page id number size ((d.market.page id number size).run a).1,
    ((d.market.page id number size).run a).2⟩
  balance : ∀ a, C ⟨a, .balance (d.market.balance.run a).1, (d.market.balance.run a).2⟩
  clock : ∀ a, C ⟨a, .clock (d.clock.run a).1, (d.clock.run a).2⟩

theorem Desk.Keeps.mono {C' : DeskStep w → Prop} (h : d.Keeps C) (hC : ∀ step, C step → C' step) :
    d.Keeps C' where
  load a := hC _ (h.load a)
  ids a := hC _ (h.ids a)
  put r a := hC _ (h.put r a)
  append r a := hC _ (h.append r a)
  create request a := hC _ (h.create request a)
  addAssignments id n a := hC _ (h.addAssignments id n a)
  extend id n a := hC _ (h.extend id n a)
  expire id a := hC _ (h.expire id a)
  status id a := hC _ (h.status id a)
  page id number size a := hC _ (h.page id number size a)
  balance a := hC _ (h.balance a)
  clock a := hC _ (h.clock a)

namespace Execution

section Observes

variable (h : d.Keeps C)

include h

theorem observes_note (change : Change) (data : Json) :
    Observes C (note d.observed change data) (note d change data) := by
  refine .bind (.lift .clock d.clock h.clock) fun now => ?_
  exact .attempt ExecutionError.journal (.append _) _ (h.append _)

theorem observes_recorded : Observes C (recorded d.observed job) (recorded d job) := by
  refine .bind (.attempt ExecutionError.records .load _ h.load) fun known => ?_
  cases known.get? job.environment with
  | none => exact .throw _
  | some r => exact .pure r

theorem observes_addAssignments (id : TaskId) (count : UInt32) :
    Observes C (addAssignments d.observed id count) (addAssignments d id count) := by
  refine .bind (.attempt ExecutionError.marketplace (.addAssignments id count) _
    (h.addAssignments id count)) fun _ => ?_
  exact observes_note h _ _

theorem observes_addTime (id : TaskId) (seconds : UInt64) :
    Observes C (addTime d.observed id seconds) (addTime d id seconds) := by
  refine .bind (.attempt ExecutionError.marketplace (.extend id seconds) _
    (h.extend id seconds)) fun expiresAt => ?_
  exact .bind (observes_note h _ _) fun _ => .pure _

theorem observes_add (x : Addition) : Observes C (add d.observed job x) (add d job x) := by
  refine .bind (observes_recorded h) fun r => ?_
  cases x with
  | assignments n => exact .bind (observes_addAssignments h r.id n) fun _ => .pure _
  | time s => exact .bind (observes_addTime h r.id s) fun _ => .pure _
  | both n s =>
    refine .bind (observes_addAssignments h r.id n) fun _ => ?_
    exact .bind (observes_addTime h r.id s) fun _ => .pure _

theorem observes_status : Observes C (status d.observed job) (status d job) := by
  refine .bind (.attempt ExecutionError.records .load _ h.load) fun known => ?_
  cases known.get? job.environment with
  | none => exact .pure _
  | some r =>
    refine .bind (.attempt ExecutionError.marketplace (.status r.id) _ (h.status r.id)) fun s => ?_
    exact .bind (.lift .clock d.clock h.clock) fun now => .pure _

theorem observes_expire : Observes C (expire d.observed job) (expire d job) := by
  refine .bind (observes_recorded h) fun r => ?_
  refine .bind (.attempt ExecutionError.marketplace (.expire r.id) _ (h.expire r.id)) fun _ => ?_
  exact .bind (observes_note h _ _) fun _ => .pure _

theorem observes_download : Observes C (download d.observed job) (download d job) := by
  refine .bind (observes_recorded h) fun r => ?_
  refine .bind (.attempt_run ExecutionError.download ?_) fun _ => .pure _
  exact Download.observes_steps h.ids (h.page r.id 1 1)
    (Download.observes_takePage h.put fun number => h.page r.id number Download.pageSize)

theorem observes_create (hsave : ∀ records a, C ⟨a,
      .save records ((d.records.save records).run a).1, ((d.records.save records).run a).2⟩) :
    Observes C (create d.observed job) (create d job) := by
  refine .bind (.attempt ExecutionError.records .load _ h.load) fun known => ?_
  dsimp only
  rcases known.get? job.environment with _ | r
  · rcases job.settings with _ | settings
    · exact .throw _
    · refine .bind (.attempt ExecutionError.marketplace (.create _) _ (h.create _)) fun r => ?_
      refine .bind (.attempt ExecutionError.records (.save _) _ (hsave _)) fun _ => ?_
      exact .bind (observes_note h _ _) fun _ => .pure _
  · exact .throw _

/-- The calls of every command but the one that creates a task are those of `Keeps`. -/
theorem observes_steps_of_ne {c : Command} (hc : c ≠ .create) :
    Observes C (steps d.observed job c) (steps d job c) := by
  cases c with
  | create => exact absurd rfl hc
  | update => exact .pure _
  | add x => exact observes_add h x
  | status => exact observes_status h
  | expire => exact observes_expire h
  | download => exact observes_download h
  | history => exact .pure _
  | manage => exact .bind (observes_recorded h) fun r => .pure _
  | view => exact .bind (observes_recorded h) fun r => .pure _
  | balance =>
    exact .bind (.attempt ExecutionError.marketplace .balance _ h.balance) fun _ => .pure _

theorem observes_steps (hsave : ∀ records a, C ⟨a, .save records ((d.records.save records).run a).1,
      ((d.records.save records).run a).2⟩) (c : Command) :
    Observes C (steps d.observed job c) (steps d job c) := by
  by_cases hc : c = .create
  · subst hc
    exact observes_create h hsave
  · exact observes_steps_of_ne h hc

end Observes

/-- The calls of a command that creates a task, and its answer. -/
inductive IsCreation (job : Job) : List DeskEvent → Except ExecutionError Report → Prop where
  | unloaded (e : RecordError) : IsCreation job [.load (.error e)] (.error (.records e))
  | found (known : Registry) (r : TaskRecord) (h : known.get? job.environment = some r) :
    IsCreation job [.load (.ok known)] (.error (.alreadyExists job.environment r.id))
  | unsettled (known : Registry) (h : known.get? job.environment = none) :
    IsCreation job [.load (.ok known)] (.error .missingSettings)
  | refused (known : Registry) (h : known.get? job.environment = none) (request : TaskRequest)
    (e : MarketError) :
    IsCreation job [.load (.ok known), .create request (.error e)] (.error (.marketplace e))
  | unsaved (known : Registry) (h : known.get? job.environment = none) (request : TaskRequest)
    (r : TaskRecord) (e : RecordError) :
    IsCreation job
      [.load (.ok known), .create request (.ok r),
        .save (known.insert job.environment r) (.error e)]
      (.error (.records e))
  | unnoted (known : Registry) (h : known.get? job.environment = none) (request : TaskRequest)
    (r : TaskRecord) (now : Instant) (entry : JournalEntry) (e : JournalError) :
    IsCreation job
      [.load (.ok known), .create request (.ok r), .save (known.insert job.environment r) (.ok ()),
        .clock now, .append entry (.error e)]
      (.error (.journal e))
  | created (known : Registry) (h : known.get? job.environment = none) (request : TaskRequest)
    (r : TaskRecord) (now : Instant) (entry : JournalEntry) (report : Report) :
    IsCreation job
      [.load (.ok known), .create request (.ok r), .save (known.insert job.environment r) (.ok ()),
        .clock now, .append entry (.ok ())]
      (.ok report)

theorem leads_create (d : Desk (StateM w)) (job : Job) (a : w) :
    Leads a (create d.observed job) fun steps _ r => IsCreation job (steps.map (·.event)) r := by
  refine .bind (.attempt ExecutionError.records .load d.records.load ?_)
  rcases d.records.load.run a with ⟨e | known, b⟩
  · exact .unloaded e
  dsimp only [Except.mapError]
  rcases hknown : known.get? job.environment with _ | r
  · rcases job.settings with _ | settings
    · exact .throw _ (.unsettled known hknown)
    refine .bind (.attempt ExecutionError.marketplace (.create _) _ ?_)
    rcases (d.market.create (.ofSettings settings job.environment)).run b with ⟨e | r, c⟩
    · exact .refused known hknown _ e
    refine .bind (.attempt ExecutionError.records (.save _) _ ?_)
    rcases (d.records.save (known.insert job.environment r)).run c with ⟨e | ⟨⟨⟩⟩, c'⟩
    · exact .unsaved known hknown _ r e
    refine .bind (.bind (.lift .clock d.clock ?_))
    rcases d.clock.run c' with ⟨now, c''⟩
    refine .attempt ExecutionError.journal (.append _) _ ?_
    generalize hentry : (⟨now, .create, createdData job.environment _ r⟩ : JournalEntry) = entry
    rcases (d.journal.append entry).run c'' with ⟨e | ⟨⟨⟩⟩, b'⟩
    · exact .unnoted known hknown _ r now entry e
    · exact .pure _ (.created known hknown _ r now entry _)
  · exact .throw _ (.found known r hknown)

end Execution

end CrowdTask
