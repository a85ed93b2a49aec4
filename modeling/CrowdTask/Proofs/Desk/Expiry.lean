import CrowdTask.Proofs.Desk.Separation
import CrowdTask.Proofs.Desk.Timing
import CrowdTask.Proofs.Marketplace.Hosting

/-!
# Expiry over whole runs

Commands are executed one after the other, in either environment, against one local marketplace
whose clock never goes back; the results, the journal and the place of the registry may answer
anything. Each recorded task has an identifier of its own, which the marketplace used, so that a
command reaches the task of its environment alone. What is known of the expiry of a task is carried
by relations between the time of the clock and the instant at which the task expires: a task that
was expired is over until time is added, and a task to which time was added expires when it was
told, or later, until it is expired.

## Main definitions

* `CrowdTask.LocalVisit`: one execution of a command against a local marketplace.
* `CrowdTask.LocalVisit.IsTimed`: what the steps of an execution mean for the time of tasks.
* `CrowdTask.Episode.Extends`, `CrowdTask.Episode.Expires`, `CrowdTask.Episode.Reports`: the
  executions that extend or expire a task, and those that report a status.
* `CrowdTask.IsOrderly`: how executions leave a desk.
* `CrowdTask.KeepsExpiry`: what a sequence of executions means for when tasks expire.

## Main results

* `CrowdTask.LocalVisit.isTimed_run`, `CrowdTask.IsOrderly.run`: what each execution means.
* `CrowdTask.LocalVisit.IsTimed.at_after`: what one execution preserves.
* `CrowdTask.at_of_precedes`: what a sequence of executions preserves until a status is reported.
* `CrowdTask.keepsExpiry`: the expiry of tasks over whole runs.
-/

namespace CrowdTask

variable {ρ α : Type} {p : RecordPlace}

open Workplace

/-! ### Executions with a local marketplace -/

/-- One execution of a command against the marketplace of a scene: what is known about it, the
results and the journal that it meets, what happens before each look at the clock, the cause that
takes the place of an instant outside of the calendar, and the faults of the place of the
registry. -/
structure LocalVisit (ρ : Type) where
  job : Job
  command : Command
  results : ResultStore (StateM ρ)
  journal : Journal (StateM ρ)
  pace : StateM ρ Interlude
  halt : MarketError
  faults : DeskCall → StateM ρ (Option RecordError)

/-- Whether a step at a desk means for the scene what its call says. -/
def IsTimely (step : DeskStep (Workplace p (Scene ρ))) : Prop :=
  Scene.Step step.event step.before.outside step.after.outside

namespace LocalVisit

variable (v : LocalVisit ρ)

/-- The execution, whose marketplace is the one of the scene. -/
def visit (v : LocalVisit ρ) : Visit (Scene ρ) where
  job := v.job
  command := v.command
  market := LocalMarket.marketplace (Scene.tick v.pace) (Scene.onMarket (LocalFault.cause v.halt))
  results := ⟨Scene.onRest v.results.ids, fun r => Scene.onRest (v.results.put r)⟩
  journal := ⟨fun entry => Scene.onRest (v.journal.append entry)⟩
  clock := Scene.tick v.pace
  faults call := Scene.onRest (v.faults call)

/-- The execution, observed. -/
def run (p : RecordPlace) (v : LocalVisit ρ) :
    StateM (Observed (Workplace p (Scene ρ))) (Except ExecutionError Report) :=
  v.visit.run p

/-- Calls to the registry change neither the marketplace nor the time. -/
theorem outside_records (call : DeskCall) (x : StateM p.State (Except RecordError α))
    (a : Workplace p (Scene ρ)) :
    ∃ r, ((barring (onOutside (v.visit.faults call)) (onRecords x)).run a).2.outside =
      { a.outside with rest := r } := by
  refine ⟨((v.faults call).run a.outside.rest).2, ?_⟩
  rcases hfault : (v.faults call).run a.outside.rest with ⟨_ | cause, r⟩
  · rw [v.visit.run_records_of_none x (Scene.run_onRest hfault)]
  · rw [v.visit.run_records_of_some x (Scene.run_onRest hfault)]

theorem isTimely_records (event : Except RecordError α → DeskEvent) (call : DeskCall)
    (x : StateM p.State (Except RecordError α)) (hclock : ∀ r now, event r ≠ .clock now)
    (hexpiry : ∀ r id now u, (event r).expiryAfter id now u = u)
    (hanswer : ∀ r now s, (event r).IsAnswered now s s) (a : Workplace p (Scene ρ)) :
    IsTimely ⟨a, event ((barring (onOutside (v.visit.faults call)) (onRecords x)).run a).1,
      ((barring (onOutside (v.visit.faults call)) (onRecords x)).run a).2⟩ := by
  obtain ⟨r, hr⟩ := v.outside_records call x a
  rw [IsTimely, hr]
  exact Scene.step_rest r (hclock _) (hexpiry _) (hanswer _)

theorem keeps_isTimely : (v.visit.desk p).Keeps IsTimely where
  load a := v.isTimely_records .load .load p.store.load nofun (fun _ _ _ _ => rfl)
    (fun _ _ _ => trivial) a
  ids _ := Scene.step_rest _ nofun (fun _ _ _ => rfl) fun _ _ => trivial
  put _ _ := Scene.step_rest _ nofun (fun _ _ _ => rfl) fun _ _ => trivial
  append _ _ := Scene.step_rest _ nofun (fun _ _ _ => rfl) fun _ _ => trivial
  create request a :=
    Scene.step_call (fun now => LocalMarket.affects_create now request) nofun v.pace _ a.outside
  addAssignments id n a :=
    Scene.step_timeless (fun now => LocalMarket.affects_addAssignments now id n) nofun _ a.outside
  extend id n a :=
    Scene.step_call (fun now => LocalMarket.affects_extend now id n) nofun v.pace _ a.outside
  expire id a :=
    Scene.step_call (fun now => LocalMarket.affects_expire now id) nofun v.pace _ a.outside
  status id a :=
    Scene.step_call (fun now => LocalMarket.affects_status now id) nofun v.pace _ a.outside
  page id number size a :=
    Scene.step_timeless (fun now => LocalMarket.affects_page now id number size) nofun _ a.outside
  balance a := Scene.step_timeless LocalMarket.affects_balance nofun _ a.outside
  clock a := Scene.step_tick v.pace a.outside

theorem isTimely_save (records : Registry) (a : Workplace p (Scene ρ)) :
    IsTimely ⟨a, .save records (((v.visit.desk p).records.save records).run a).1,
      (((v.visit.desk p).records.save records).run a).2⟩ :=
  v.isTimely_records (.save records) .save (p.store.save records) nofun (fun _ _ _ _ => rfl)
    (fun _ _ _ => trivial) a

/-- What the steps of an execution mean for the scene and the registry, and what they say about
time. -/
structure IsTimed (v : LocalVisit ρ)
    (e : Episode (Workplace p (Scene ρ)) (Except ExecutionError Report)) : Prop where
  trail : IsTrail e.before e.steps e.after
  timely : ∀ step ∈ e.steps, IsTimely step
  faithful : ∀ step ∈ e.steps, IsFaithful step
  times : Execution.Times v.job v.command (e.steps.map (·.event)) e.answer

theorem isTimed_run (a : Workplace p (Scene ρ)) : v.IsTimed (episode (v.run p) a) := by
  have htimely : Observes IsTimely (Execution.steps (v.visit.desk p).observed v.job v.command)
      (Execution.steps (v.visit.desk p) v.job v.command) :=
    Execution.observes_steps v.keeps_isTimely v.isTimely_save v.command
  obtain ⟨ht, ⟨⟨-, hsteps⟩, hfaithful, -⟩, htimes⟩ := (((htimely a).and
    (v.visit.leads_run p a)).and (Execution.times_steps (v.visit.desk p) v.command)).episode
  exact ⟨ht, hsteps, hfaithful, htimes⟩

end LocalVisit

/-! ### Tasks during an execution -/

/-- Whether the marketplace confirmed that it added time to a task. -/
def Episode.Extends {w : Type} (e : Episode w α) (id : TaskId) : Prop :=
  ∃ n t, .extend id n (.ok t) ∈ e.steps.map (·.event)

/-- Whether the marketplace confirmed that it expired a task. -/
def Episode.Expires {w : Type} (e : Episode w α) (id : TaskId) : Prop :=
  .expire id (.ok ()) ∈ e.steps.map (·.event)

/-- Whether an execution reports a status, with what was reckoned from it for the time `now` that the
clock showed. -/
def Episode.Reports {w : Type} (e : Episode w (Except ExecutionError Report)) (s : TaskStatus)
    (now : Instant) (phase : TaskPhase) (left : Int) : Prop :=
  (∃ environment, e.answer = .ok (.status environment s phase left)) ∧
    .clock now ∈ e.steps.map (·.event)

namespace LocalVisit.IsTimed

variable {v : LocalVisit ρ} {e : Episode (Workplace p (Scene ρ)) (Except ExecutionError Report)}
  {id : TaskId} {P : Instant → Instant → Prop}

section At

variable (hv : v.IsTimed e) (hclock : ∀ now now' u, now ≤ now' → P now u → P now' u)

include hv hclock

/-- What is related to the time of the clock before an execution is so afterwards, where `P` allows
it also when the task is extended or expired. -/
theorem at_after (hextend : e.Extends id → ∀ now u (n : Nat), P now u →
      P now ((u.later now).plusSeconds n))
    (hexpire : e.Expires id → ∀ now u, P now u → P now (u.earlier now))
    (hbefore : e.before.outside.At id P) : e.after.outside.At id P := by
  refine (hv.trail.invariant (I := fun b => b.outside.At id P) hbefore fun step hstep h => ?_).1
  have hmem : ∀ {x}, step.event = x → x ∈ e.steps.map (·.event) :=
    fun hx => hx ▸ List.mem_map_of_mem hstep
  exact (hv.timely step hstep).at_after hclock
    (fun n t hx now u => hextend ⟨n, t, hmem hx⟩ now u n.toNat) (fun hx => hexpire (hmem hx)) h

/-- What is related to the time of the clock once the time of a task was changed is so after the
execution. -/
theorem at_after_of_timed {step : DeskStep (Workplace p (Scene ρ))} {id' : TaskId}
    (hstep : step ∈ e.steps) (htimed : step.event.timed? = some id')
    (hat : step.after.outside.At id P) : e.after.outside.At id P := by
  obtain ⟨steps, steps', hsteps⟩ := List.append_of_mem hstep
  have htrail := hv.trail
  have htimes := hv.times
  rw [hsteps] at htrail htimes
  rw [List.map_append, List.map_cons] at htimes
  refine (htrail.of_append_cons.invariant (I := fun b => b.outside.At id P) hat
    fun step' hstep' h => ?_).1
  have huntimed := htimes.timed?_eq_none_of_append htimed _ (List.mem_map_of_mem hstep')
  refine (hv.timely step' (hsteps ▸ List.mem_append_right _ (.tail _ hstep'))).at_after hclock
    (fun n t hx => ?_) (fun hx => ?_) h
  · rw [hx] at huntimed
    cases huntimed
  · rw [hx] at huntimed
    cases huntimed

end At

end LocalVisit.IsTimed

/-! ### Recorded tasks -/

/-- Whether the tasks of a registry have identifiers that were used, and different ones in different
environments. -/
structure Hosting.Covers (s : Hosting) (known : Registry) : Prop where
  used : ∀ e r, known.get? e = some r → s.IsUsed r.id
  distinct : ∀ e e' r r', known.get? e = some r → known.get? e' = some r' → r.id = r'.id → e = e'

namespace Hosting.Covers

variable {s s' : Hosting} {known : Registry}

theorem mono (h : s.Covers known) (hserial : s.serial ≤ s'.serial) : s'.Covers known :=
  ⟨fun e r hr => (h.used e r hr).mono hserial, h.distinct⟩

/-- A task is entered under an identifier that was not used before. -/
theorem insert (h : s.Covers known) (hserial : s.serial ≤ s'.serial) {e : Environment}
    {r : TaskRecord} (hunused : ¬s.IsUsed r.id) (hused : s'.IsUsed r.id) :
    s'.Covers (known.insert e r) := by
  have hget : ∀ {e₁ r₁}, (known.insert e r).get? e₁ = some r₁ →
      e₁ = e ∧ r₁ = r ∨ e₁ ≠ e ∧ known.get? e₁ = some r₁ := by
    intro e₁ r₁ hr₁
    by_cases he : e₁ = e
    · rw [he, Registry.get?_insert_self] at hr₁
      exact Or.inl ⟨he, (Option.some.inj hr₁).symm⟩
    · rw [Registry.get?_insert_of_ne known r he] at hr₁
      exact Or.inr ⟨he, hr₁⟩
  refine ⟨fun e₁ r₁ hr₁ => ?_, fun e₁ e₂ r₁ r₂ hr₁ hr₂ hid => ?_⟩
  · rcases hget hr₁ with ⟨-, rfl⟩ | ⟨-, hr₁⟩
    · exact hused
    · exact (h.used e₁ r₁ hr₁).mono hserial
  · rcases hget hr₁ with ⟨rfl, rfl⟩ | ⟨-, hk₁⟩ <;> rcases hget hr₂ with ⟨rfl, rfl⟩ | ⟨-, hk₂⟩
    · rfl
    · exact absurd (hid ▸ h.used e₂ r₂ hk₂) hunused
    · exact absurd (hid ▸ h.used e₁ r₁ hk₁) hunused
    · exact h.distinct e₁ e₂ r₁ r₂ hk₁ hk₂ hid

end Hosting.Covers

/-- An execution leaves a registry whose tasks are ones of the marketplace. -/
theorem LocalVisit.IsTimed.covers {v : LocalVisit ρ}
    {e : Episode (Workplace p (Scene ρ)) (Except ExecutionError Report)} {known known' : Registry}
    (hv : v.IsTimed e) (hsettles : v.visit.Settles e known known')
    (hcovers : e.before.outside.market.hosting.Covers known) :
    e.after.outside.market.hosting.Covers known' := by
  have hkeeps : ∀ {k : Registry}, ∀ step ∈ e.steps,
      step.before.outside.market.hosting.Covers k → step.after.outside.market.hosting.Covers k :=
    fun step hstep h => h.mono (hv.timely step hstep).effect.serial
  obtain ⟨hafter, hall⟩ := hv.trail.invariant
    (I := fun b => b.outside.market.hosting.Covers known) hcovers hkeeps
  rcases hsettles.change with rfl | ⟨r, henters, rfl⟩
  · exact hafter
  · obtain ⟨step, hstep, ⟨request, hevent⟩, -⟩ := henters.confirmed
    have htimely := hv.timely step hstep
    have hcreated := htimely.effect.answered
    rw [hevent] at hcreated
    have hentered := (hall step hstep).1.insert (e := v.job.environment) htimely.effect.serial
      hcreated.1 hcreated.2
    obtain ⟨steps, steps', hsteps⟩ := List.append_of_mem hstep
    have htrail := hv.trail
    rw [hsteps] at htrail hkeeps
    exact (htrail.of_append_cons.invariant
      (I := fun b => b.outside.market.hosting.Covers (known.insert v.job.environment r)) hentered
      fun step' hstep' => hkeeps step' (List.mem_append_right _ (.tail _ hstep'))).1

/-- Whether a desk is as executions leave it: the directory of the registry exists, and the recorded
tasks are ones of the marketplace. -/
structure IsOrderly (a : Workplace p (Scene ρ)) : Prop where
  directory : p.HasDirectory a.records
  records : ∃ known, a.stored = .ok known ∧ a.outside.market.hosting.Covers known

/-- Every execution leaves an orderly desk orderly. -/
theorem IsOrderly.run {a : Workplace p (Scene ρ)} (ha : IsOrderly a) (v : LocalVisit ρ) :
    IsOrderly (episode (v.run p) a).after := by
  obtain ⟨known, hknown, hcovers⟩ := ha.records
  obtain ⟨hharmless, hdirectory⟩ := v.visit.isHarmless_episode ha.directory
  obtain ⟨known', hsettles⟩ := exists_settles v.visit hknown hharmless
  exact ⟨hdirectory, known', hsettles.after, (v.isTimed_run a).covers hsettles hcovers⟩

namespace LocalVisit.IsTimed

variable {v : LocalVisit ρ} {e : Episode (Workplace p (Scene ρ)) (Except ExecutionError Report)}
  {known : Registry}

/-- Only the time of the task that is recorded for its environment is changed by an execution. -/
theorem recorded_of_timed (hv : v.IsTimed e) (hknown : e.before.stored = .ok known) {x : DeskEvent}
    {id : TaskId} (hx : x ∈ e.steps.map (·.event)) (hid : x.timed? = some id) :
    ∃ r, known.get? v.job.environment = some r ∧ r.id = id := by
  obtain ⟨k, r, later, hevents, hr, hid⟩ := hv.times.recorded x hx id hid
  obtain rfl := Except.ok.inj ((stored_of_load hv.trail hv.faithful hevents).symm.trans hknown)
  exact ⟨r, hr, hid⟩

/-- A status that is reported tells when the task expires. -/
theorem expiry?_of_reports (hv : v.IsTimed e) (hknown : e.before.stored = .ok known)
    {s : TaskStatus} {now : Instant} {phase : TaskPhase} {left : Int}
    (h : e.Reports s now phase left) :
    e.before.outside.market.expiry? s.id = some s.expiresAt ∧ s.state ≠ TaskStatus.disposed ∧
      e.before.outside.now ≤ now ∧ phase = s.phase now ∧ left = s.secondsLeft now := by
  obtain ⟨⟨environment, hanswer⟩, hnow⟩ := h
  obtain ⟨k, r, now', hevents, hr, hphase, hleft⟩ := hv.times.status _ _ _ _ hanswer
  obtain rfl := Except.ok.inj ((stored_of_load hv.trail hv.faithful hevents).symm.trans hknown)
  obtain rfl : now = now' := by simpa [hevents] using hnow
  obtain ⟨before, answer, steps, after⟩ := e
  obtain ⟨s₁, rest₁, rfl, h₁, hrest⟩ := List.map_eq_cons_iff.mp hevents
  obtain ⟨s₂, rest₂, rfl, h₂, hrest⟩ := List.map_eq_cons_iff.mp hrest
  obtain ⟨s₃, rest₃, rfl, h₃, hrest⟩ := List.map_eq_cons_iff.mp hrest
  obtain rfl := List.map_eq_nil_iff.mp hrest
  obtain ⟨rfl, t₂, t₃, rfl⟩ := hv.trail
  have htimely := hv.timely
  simp only [List.forall_mem_cons, IsTimely, h₁, h₂, h₃, t₂, t₃] at htimely
  obtain ⟨f₁, f₂, f₃, -⟩ := htimely
  -- the registry is loaded without an effect, and the time goes on
  have hload : s₁.after.outside.market.expiry? r.id = s₁.before.outside.market.expiry? r.id :=
    f₁.effect.expiry r.id nofun
  obtain ⟨hid, hexpiry, hstate⟩ := f₂.effect.answered
  refine ⟨?_, hstate, ?_, hphase, hleft⟩
  · rw [hid, ← hload]
    exact hexpiry
  · rw [← f₃.time now rfl]
    exact Instant.le_trans f₁.clock (Instant.le_trans f₂.clock f₃.clock)

/-- The phase that is reported is that of the task. -/
theorem phase?_of_reports (hv : v.IsTimed e) (hknown : e.before.stored = .ok known)
    {s : TaskStatus} {now : Instant} {phase : TaskPhase} {left : Int}
    (h : e.Reports s now phase left) :
    e.before.outside.market.phase? s.id now = some phase := by
  obtain ⟨hexpiry, hstate, -, rfl, -⟩ := hv.expiry?_of_reports hknown h
  rw [LocalMarket.phase?_eq, hexpiry, TaskStatus.phase]
  simp only [hstate, or_false]
  rfl

/-- The tasks whose time an execution changes were created before. -/
theorem isUsed_of_timed (hv : v.IsTimed e) (ho : IsOrderly e.before)
    {step : DeskStep (Workplace p (Scene ρ))} {id : TaskId} (hstep : step ∈ e.steps)
    (hid : step.event.timed? = some id) : step.before.outside.market.hosting.IsUsed id := by
  obtain ⟨known, hknown, hcovers⟩ := ho.records
  obtain ⟨r, hr, rfl⟩ := hv.recorded_of_timed hknown (List.mem_map_of_mem hstep) hid
  exact ((hv.trail.invariant (I := fun b => b.outside.market.hosting.IsUsed r.id)
    (hcovers.used _ r hr) fun step hstep h => (hv.timely step hstep).isUsed h).2 step hstep).1

/-- A task expires when it did, unless an execution extends or expires it. -/
theorem expiresAlike (hv : v.IsTimed e) {id : TaskId}
    (hid : e.before.outside.market.hosting.IsUsed id) (hextend : ¬e.Extends id)
    (hexpire : ¬e.Expires id) : e.before.outside.ExpiresAlike id e.after.outside := by
  refine Scene.expiresAlike_of_eq (hv.trail.invariant (I := fun b =>
    b.outside.market.hosting.IsUsed id ∧
      b.outside.market.expiry? id = e.before.outside.market.expiry? id) ⟨hid, rfl⟩ ?_).1.2
  rintro step hstep ⟨hused, hexpiry⟩
  have hmem : ∀ {x}, step.event = x → x ∈ e.steps.map (·.event) :=
    fun hx => hx ▸ List.mem_map_of_mem hstep
  refine ⟨(hv.timely step hstep).isUsed hused, Eq.trans ?_ hexpiry⟩
  exact (hv.timely step hstep).expiry?_eq hused (fun n t hx => hextend ⟨n, t, hmem hx⟩)
    fun hx => hexpire (hmem hx)

end LocalVisit.IsTimed

/-! ### Sequences of executions -/

/-- What a sequence of executions means for when tasks expire. -/
structure KeepsExpiry
    (runs : List (LocalVisit ρ × Episode (Workplace p (Scene ρ)) (Except ExecutionError Report))) :
    Prop where
  /-- A status tells when the task expires, and its phase at the time of the clock. -/
  status : ∀ run ∈ runs, ∀ s now phase left, run.2.Reports s now phase left →
    run.2.before.outside.market.expiry? s.id = some s.expiresAt ∧
      run.2.before.outside.market.phase? s.id now = some phase
  /-- A task that is reported to be expired was expired by the marketplace. -/
  expired_reported : ∀ run ∈ runs, ∀ id, run.2.answer = .ok (.expired id) → run.2.Expires id
  /-- Once a task was expired, every status of it shows so until time is added. -/
  expired : ∀ run run' id s now phase left,
    Precedes runs (fun e => ¬e.Extends id) run run' → run.2.Expires id →
      run'.2.Reports s now phase left → s.id = id → phase = .expired
  /-- Time that is reported to be added was added by the marketplace, and time that the marketplace
  added is reported unless it cannot be entered in the journal. -/
  extended_reported : ∀ run ∈ runs, ∀ id n t,
    (∀ m, run.2.answer = .ok (.extended id m (some n) (some t)) →
      .extend id n (.ok t) ∈ run.2.steps.map (·.event)) ∧
    (.extend id n (.ok t) ∈ run.2.steps.map (·.event) →
      (∃ m, run.2.answer = .ok (.extended id m (some n) (some t))) ∨
        ∃ cause, run.2.answer = .error (.journal cause))
  /-- When time is added, the task expires at least as many seconds later than now, and no earlier
  than before. -/
  extended : ∀ run ∈ runs, ∀ step ∈ run.2.steps, ∀ id n t, step.event = .extend id n (.ok t) →
    step.after.outside.now.plusSeconds n.toNat ≤ t ∧
      ∃ u, step.before.outside.market.expiry? id = some u ∧ u ≤ t
  /-- The next status tells the end that was reported when time was added. -/
  lasting : ∀ run run' id s now phase left n t,
    Precedes runs (fun e => ¬e.Extends id ∧ ¬e.Expires id) run run' →
      .extend id n (.ok t) ∈ run.2.steps.map (·.event) → run'.2.Reports s now phase left →
        s.id = id → s.expiresAt = t
  /-- Until a second before the time that was added is over, the task is active and a second
  remains, unless the task is expired meanwhile. -/
  active : ∀ run run' id s now phase left, ∀ step ∈ run.2.steps, ∀ n t,
    Precedes runs (fun e => ¬e.Expires id) run run' → step.event = .extend id n (.ok t) →
      0 < n.toNat → run'.2.Reports s now phase left → s.id = id →
        now ≤ step.after.outside.now.plusSeconds (n.toNat - 1) → phase = .active ∧ 1 ≤ left
  /-- Added assignments change no expiry. -/
  assignments : ∀ run ∈ runs, ∀ step ∈ run.2.steps, ∀ id n answer,
    step.event = .addAssignments id n answer →
      ∀ id', step.before.outside.ExpiresAlike id' step.after.outside
  /-- A command in another environment, and one that only adds assignments, leaves the task of an
  environment as it was. -/
  others : ∀ run ∈ runs, ∀ known e r, run.2.before.stored = .ok known → known.get? e = some r →
    (e ≠ run.1.job.environment ∨ ∃ n, run.1.command = .add (.assignments n)) →
      run.2.before.outside.ExpiresAlike r.id run.2.after.outside

namespace LocalVisit.IsTimed

variable {v : LocalVisit ρ} {e : Episode (Workplace p (Scene ρ)) (Except ExecutionError Report)}
  {step : DeskStep (Workplace p (Scene ρ))} {id : TaskId} {n : UInt64} {t : Instant}
  (hv : v.IsTimed e) (hstep : step ∈ e.steps)

include hv hstep

theorem expiry?_of_extended (hevent : step.event = .extend id n (.ok t)) :
    step.after.outside.market.expiry? id = some t ∧
      ∃ u, step.before.outside.market.expiry? id = some u ∧
        t = (u.later step.after.outside.now).plusSeconds n.toNat := by
  have heffect := (hv.timely step hstep).effect
  rw [hevent] at heffect
  exact ⟨(heffect.expiry id nofun).trans (if_pos rfl), heffect.answered⟩

/-- When time is added, the task expires at least as many seconds later than now, and no earlier than
before. -/
theorem le_of_extended (hevent : step.event = .extend id n (.ok t)) :
    step.after.outside.now.plusSeconds n.toNat ≤ t ∧
      ∃ u, step.before.outside.market.expiry? id = some u ∧ u ≤ t := by
  obtain ⟨-, u, hu, rfl⟩ := hv.expiry?_of_extended hstep hevent
  exact ⟨Instant.plusSeconds_le_plusSeconds (Instant.le_later_right u _) _, u, hu,
    Instant.le_trans (Instant.le_later_left u _) (Instant.le_plusSeconds _ _)⟩

variable (ho : IsOrderly e.before)

include ho

theorem at_after_of_extended (hevent : step.event = .extend id n (.ok t))
    {P : Instant → Instant → Prop} (hclock : ∀ now now' u, now ≤ now' → P now u → P now' u)
    (hP : P step.after.outside.now t) : e.after.outside.At id P := by
  have htimed : step.event.timed? = some id := by
    rw [hevent]
    rfl
  exact hv.at_after_of_timed hclock hstep htimed
    ⟨(hv.timely step hstep).isUsed (hv.isUsed_of_timed ho hstep htimed), t,
      (hv.expiry?_of_extended hstep hevent).1, hP⟩

omit hstep in
/-- A task that was expired is over. -/
theorem overdue_of_expires (hexpires : e.Expires id) :
    e.after.outside.At id fun now u => u ≤ now := by
  obtain ⟨step, hstep, hevent⟩ := List.mem_map.mp hexpires
  have htimed : step.event.timed? = some id := by
    rw [hevent]
    rfl
  have htimely := hv.timely step hstep
  have heffect := htimely.effect
  rw [hevent] at heffect
  obtain ⟨u, hu⟩ := heffect.answered
  refine hv.at_after_of_timed (fun _ _ _ h h' => Instant.le_trans h' h) hstep htimed
    ⟨htimely.isUsed (hv.isUsed_of_timed ho hstep htimed), u.earlier step.after.outside.now, ?_,
      Instant.earlier_le_right u _⟩
  exact (heffect.expiry id nofun).trans ((if_pos rfl).trans (congrArg (Option.map _) hu))

end LocalVisit.IsTimed

section Chronicle

variable {visits : List (LocalVisit ρ)} {a : Workplace p (Scene ρ)}
  {run run' : LocalVisit ρ × Episode (Workplace p (Scene ρ)) (Except ExecutionError Report)}
  {id : TaskId} {s : TaskStatus} {now : Instant} {phase : TaskPhase} {left : Int}

theorem isTimed_chronicle (visits : List (LocalVisit ρ)) {a : Workplace p (Scene ρ)}
    (ha : IsOrderly a) : ∀ run ∈ chronicle (LocalVisit.run p) visits a,
      run.1.IsTimed run.2 ∧ IsOrderly run.2.before :=
  (forall_mem_chronicle (LocalVisit.run p) (I := IsOrderly)
    (P := fun v e => v.IsTimed e ∧ IsOrderly e.before)
    (fun v a ha => ⟨⟨v.isTimed_run a, ha⟩, ha.run v⟩) visits ha).1

/-- What is related to the time of the clock after an execution is so when the status is reported, if
the executions between preserve it. -/
theorem at_of_precedes (ha : IsOrderly a) {Q : Episode _ (Except ExecutionError Report) → Prop}
    {P : Instant → Instant → Prop}
    (hprecedes : Precedes (chronicle (LocalVisit.run p) visits a) Q run run')
    (hclock : ∀ now now' u, now ≤ now' → P now u → P now' u)
    (hextend : ∀ e, Q e → e.Extends id → ∀ now u (n : Nat), P now u →
      P now ((u.later now).plusSeconds n))
    (hexpire : ∀ e, Q e → e.Expires id → ∀ now u, P now u → P now (u.earlier now))
    (hat : run.2.after.outside.At id P) (h : run'.2.Reports s now phase left) (hid : s.id = id) :
    P run'.2.before.outside.now s.expiresAt := by
  have hall := isTimed_chronicle visits ha
  obtain ⟨-, u, hu, hP⟩ := hprecedes.invariant (I := fun b => b.outside.At id P) hat
    fun q hq hQ => (hall q hq).1.at_after hclock (hextend _ hQ) (hexpire _ hQ)
  obtain ⟨hv, ho⟩ := hall run' hprecedes.mem_right
  obtain ⟨known, hknown, -⟩ := ho.records
  have hexpiry := (hv.expiry?_of_reports hknown h).1
  rw [hid, hu] at hexpiry
  exact Option.some.inj hexpiry ▸ hP

section Reports

variable (ha : IsOrderly a) (h : run'.2.Reports s now phase left) (hid : s.id = id)

include ha h hid

theorem expired_of_precedes
    (hprecedes : Precedes (chronicle (LocalVisit.run p) visits a) (fun e => ¬e.Extends id) run run')
    (hexpires : run.2.Expires id) : phase = .expired := by
  have hall := isTimed_chronicle visits ha
  obtain ⟨hv, ho⟩ := hall run hprecedes.mem_left
  have hover : s.expiresAt ≤ run'.2.before.outside.now :=
    at_of_precedes ha hprecedes (P := fun now u => u ≤ now)
      (fun _ _ _ h h' => Instant.le_trans h' h) (fun _ hno hextends => absurd hextends hno)
      (fun _ _ _ _ u _ => Instant.earlier_le_right u _) (hv.overdue_of_expires ho hexpires) h hid
  obtain ⟨known, hknown, -⟩ := (hall run' hprecedes.mem_right).2.records
  obtain ⟨-, -, hnow, rfl, -⟩ := (hall run' hprecedes.mem_right).1.expiry?_of_reports hknown h
  exact if_pos (Or.inl (Instant.secondsUntil_nonpos (Instant.le_trans hover hnow)))

variable {n : UInt64} {t : Instant}

theorem expiresAt_of_precedes
    (hprecedes : Precedes (chronicle (LocalVisit.run p) visits a)
      (fun e => ¬e.Extends id ∧ ¬e.Expires id) run run')
    (hextends : .extend id n (.ok t) ∈ run.2.steps.map (·.event)) : s.expiresAt = t := by
  obtain ⟨hv, ho⟩ := isTimed_chronicle visits ha run hprecedes.mem_left
  obtain ⟨step, hstep, hevent⟩ := List.mem_map.mp hextends
  exact at_of_precedes ha hprecedes (P := fun _ u => u = t) (fun _ _ _ _ h => h)
    (fun _ hno hextends => absurd hextends hno.1) (fun _ hno hexpires => absurd hexpires hno.2)
    (hv.at_after_of_extended hstep ho hevent (fun _ _ _ _ h => h) rfl) h hid

theorem active_of_precedes {step : DeskStep (Workplace p (Scene ρ))}
    (hprecedes : Precedes (chronicle (LocalVisit.run p) visits a) (fun e => ¬e.Expires id) run run')
    (hstep : step ∈ run.2.steps) (hevent : step.event = .extend id n (.ok t)) (hn : 0 < n.toNat)
    (hnow : now ≤ step.after.outside.now.plusSeconds (n.toNat - 1)) :
    phase = .active ∧ 1 ≤ left := by
  have hall := isTimed_chronicle visits ha
  obtain ⟨hv, ho⟩ := hall run hprecedes.mem_left
  have hend : step.after.outside.now.plusSeconds n.toNat ≤ s.expiresAt :=
    at_of_precedes ha hprecedes
      (P := fun _ u => step.after.outside.now.plusSeconds n.toNat ≤ u) (fun _ _ _ _ h => h)
      (fun _ _ _ now u k h => Instant.le_trans h
        (Instant.le_trans (Instant.le_later_left u now) (Instant.le_plusSeconds _ k)))
      (fun _ hno hexpires => absurd hexpires hno)
      (hv.at_after_of_extended hstep ho hevent (fun _ _ _ _ h => h)
        (hv.le_of_extended hstep hevent).1) h hid
  have hsecond : now.plusSeconds 1 ≤ s.expiresAt := by
    refine Instant.le_trans (Instant.plusSeconds_le_plusSeconds hnow 1) ?_
    rw [Instant.plusSeconds_plusSeconds, Nat.sub_add_cancel hn]
    exact hend
  obtain ⟨known, hknown, -⟩ := (hall run' hprecedes.mem_right).2.records
  obtain ⟨-, hstate, -, rfl, rfl⟩ :=
    (hall run' hprecedes.mem_right).1.expiry?_of_reports hknown h
  have hleft : 1 ≤ s.secondsLeft now := Instant.one_le_secondsUntil hsecond
  refine ⟨if_neg (not_or.mpr ⟨?_, hstate⟩), hleft⟩
  exact Int.not_le.mpr hleft

end Reports

/-- A command in another environment, and one that only adds assignments, neither extends nor expires
the task of an environment. -/
theorem LocalVisit.IsTimed.expiresAlike_of_other {v : LocalVisit ρ}
    {e : Episode (Workplace p (Scene ρ)) (Except ExecutionError Report)} (hv : v.IsTimed e)
    (ho : IsOrderly e.before) {known : Registry} {environment : Environment} {r : TaskRecord}
    (hknown : e.before.stored = .ok known) (hr : known.get? environment = some r)
    (hother : environment ≠ v.job.environment ∨ ∃ n, v.command = .add (.assignments n)) :
    e.before.outside.ExpiresAlike r.id e.after.outside := by
  obtain ⟨known', hknown', hcovers⟩ := ho.records
  obtain rfl := Except.ok.inj (hknown.symm.trans hknown')
  have huntimed : ∀ x ∈ e.steps.map (·.event), x.timed? ≠ some r.id := by
    intro x hx hid
    rcases hother with hne | ⟨n, hn⟩
    · obtain ⟨r', hr', hid'⟩ := hv.recorded_of_timed hknown hx hid
      exact hne (hcovers.distinct _ _ r r' hr hr' hid'.symm)
    · obtain ⟨k, hk, hkind⟩ := DeskEvent.change?_of_timed? hid
      have hmem := hv.times.kinds.subset (List.mem_filterMap.mpr ⟨x, hx, hk⟩)
      rw [hn] at hmem
      obtain rfl := List.mem_singleton.mp hmem
      rcases hkind with h | h <;> cases h
  refine hv.expiresAlike (hcovers.used _ r hr) ?_ fun hexpires => huntimed _ hexpires rfl
  rintro ⟨n, t, hextends⟩
  exact huntimed _ hextends rfl

end Chronicle

/-- Commands that are executed one after the other against a local marketplace, in either
environment, tell of each task when it expires as they should. -/
theorem keepsExpiry (visits : List (LocalVisit ρ)) {a : Workplace p (Scene ρ)} (ha : IsOrderly a) :
    KeepsExpiry (chronicle (LocalVisit.run p) visits a) := by
  have hall := isTimed_chronicle visits ha
  constructor
  case status =>
    intro run hrun s now phase left h
    obtain ⟨hv, ho⟩ := hall run hrun
    obtain ⟨known, hknown, -⟩ := ho.records
    exact ⟨(hv.expiry?_of_reports hknown h).1, hv.phase?_of_reports hknown h⟩
  case expired_reported => exact fun run hrun => (hall run hrun).1.times.expired
  case expired =>
    exact fun run run' id s now phase left hprecedes hexpires h hid =>
      expired_of_precedes ha h hid hprecedes hexpires
  case extended_reported =>
    intro run hrun id n t
    have htimes := (hall run hrun).1.times
    exact ⟨fun m => htimes.extended id m n t, htimes.reported id n t⟩
  case extended =>
    exact fun run hrun step hstep id n t hevent => (hall run hrun).1.le_of_extended hstep hevent
  case lasting =>
    exact fun run run' id s now phase left n t hprecedes hextends h hid =>
      expiresAt_of_precedes ha h hid hprecedes hextends
  case active =>
    exact fun run run' id s now phase left step hstep n t hprecedes hevent hn h hid hnow =>
      active_of_precedes ha h hid hprecedes hstep hevent hn hnow
  case assignments =>
    intro run hrun step hstep id n answer hevent id'
    have heffect := ((hall run hrun).1.timely step hstep).effect
    rw [hevent] at heffect
    exact Scene.expiresAlike_of_eq (heffect.expiry id' nofun)
  case others =>
    intro run hrun known e r hknown hr hother
    obtain ⟨hv, ho⟩ := hall run hrun
    exact hv.expiresAlike_of_other ho hknown hr hother

/-- Where no task is recorded, a desk is orderly. -/
theorem isOrderly_of_empty {a : Workplace p (Scene ρ)} (hdirectory : p.HasDirectory a.records)
    (hstored : a.stored = .ok .empty) : IsOrderly a := by
  refine ⟨hdirectory, .empty, hstored, fun e r hr => ?_, fun e e' r r' hr => ?_⟩
  · cases e <;> cases hr
  · cases e <;> cases hr

/-- A command that is executed while the clock takes half a second before each reading. -/
def LocalVisit.slowly (environment : Environment) (command : Command) : LocalVisit Unit where
  job := ⟨environment, some ⟨"T", "D", "K", "U", 600, ⟨50⟩, 60, 60, .none⟩, none⟩
  command := command
  results := ⟨pure (.ok []), fun _ => pure (.ok ())⟩
  journal := ⟨fun _ => pure (.ok ())⟩
  pace := pure ⟨500000000, []⟩
  halt := .transport ""
  faults _ := pure none

/-- A task that is expired and extended by a minute, while another one is created elsewhere. -/
def extendedOnce : List (LocalVisit Unit) :=
  [.slowly .sandbox .create, .slowly .sandbox .expire, .slowly .sandbox .status,
    .slowly .sandbox (.add (.time 60)), .slowly .production .create, .slowly .sandbox .status]

theorem keepsExpiry_extendedOnce :
    KeepsExpiry (chronicle (LocalVisit.run .memory) extendedOnce
      (⟨.holding .empty, .empty, ⟨0⟩, ()⟩ : Workplace .memory (Scene Unit))) :=
  keepsExpiry _ (isOrderly_of_empty trivial rfl)

example :
    (chronicle (LocalVisit.run .memory) extendedOnce
      (⟨.holding .empty, .empty, ⟨0⟩, ()⟩ : Workplace .memory (Scene Unit))).filterMap (fun run =>
        match run.2.answer with
        | .ok (.status _ s phase left) => some (s.expiresAt.nanos, phase, left)
        | _ => none) =
    [(1500000000, .expired, -1), (63500000000, .active, 57)] := by
  decide +kernel

end CrowdTask
