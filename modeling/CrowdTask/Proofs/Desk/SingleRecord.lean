import CrowdTask.Proofs.Desk.Commands
import CrowdTask.Proofs.Store.RegistryFile

/-!
# One record for each environment

Commands are executed one after the other, in either environment, at desks that share the place of
the registry. The marketplace, the results, the journal and the clock may answer anything, and the
place of the registry may fail at any call. A record is entered only for a task that the marketplace
has just created in an environment without a record; it is never changed or removed.

## Main definitions

* `CrowdTask.Workplace`, `CrowdTask.Visit`: the world of a desk, and one execution at it.
* `CrowdTask.IsHarmless`: the saves that leave the stored registry as it was if they fail.
* `CrowdTask.Visit.Enters`: how a record is entered.
* `CrowdTask.Visit.Settles`: what an execution means for the stored registry.
* `CrowdTask.HasSingleRecords`: what a sequence of executions means for the records.

## Main results

* `CrowdTask.Visit.leads_run`: the steps of an execution.
* `CrowdTask.Visit.episode_run`: observing an execution changes nothing.
* `CrowdTask.exists_settles`: every execution settles the registry.
* `CrowdTask.isHarmless_of_hasDirectory`: a save that fails is harmless in memory, and in a file
  whose directory exists.
* `CrowdTask.hasSingleRecords`: each environment keeps its one record.
-/

namespace CrowdTask

variable {σ α : Type} {p : RecordPlace}

/-! ### Desks -/

/-- The world of a desk: the place of the registry, and whatever else settles what its calls
answer. -/
structure Workplace (p : RecordPlace) (σ : Type) where
  records : p.State
  outside : σ

namespace Workplace

/-- What is loaded at a desk. -/
def stored (a : Workplace p σ) : Except RecordError Registry := p.stored a.records

/-- A computation on the place of the registry. -/
def onRecords (x : StateM p.State α) : StateM (Workplace p σ) α := fun a =>
  let r := x.run a.records
  (r.1, { a with records := r.2 })

/-- A computation on everything else. -/
def onOutside (x : StateM σ α) : StateM (Workplace p σ) α := fun a =>
  let r := x.run a.outside
  (r.1, { a with outside := r.2 })

theorem run_onOutside {x : StateM σ α} {a : Workplace p σ} {r : α} {o : σ}
    (h : x.run a.outside = (r, o)) : (onOutside x).run a = (r, { a with outside := o }) := by
  change ((x.run a.outside).1, { a with outside := (x.run a.outside).2 }) = _
  rw [h]

end Workplace

open Workplace

/-- One execution of a command: what is known about it, the marketplace, the results, the journal
and the clock that it meets, which are not restricted in any way, and the faults of the place of the
registry. -/
structure Visit (σ : Type) where
  job : Job
  command : Command
  market : Marketplace (StateM σ)
  results : ResultStore (StateM σ)
  journal : Journal (StateM σ)
  clock : StateM σ Instant
  faults : DeskCall → StateM σ (Option RecordError)

namespace Visit

/-- The desk of an execution. -/
def desk (p : RecordPlace) (v : Visit σ) : Desk (StateM (Workplace p σ)) where
  records := RecordStore.interrupted
    ⟨onRecords p.store.load, fun rs => onRecords (p.store.save rs)⟩
    ⟨fun call => onOutside (v.faults call), fun _ => pure none, fun _ => pure none,
      fun _ => pure none⟩
  results := ⟨onOutside v.results.ids, fun r => onOutside (v.results.put r)⟩
  journal := ⟨fun r => onOutside (v.journal.append r)⟩
  market :=
    { create := fun request => onOutside (v.market.create request)
      addAssignments := fun id n => onOutside (v.market.addAssignments id n)
      extend := fun id n => onOutside (v.market.extend id n)
      expire := fun id => onOutside (v.market.expire id)
      status := fun id => onOutside (v.market.status id)
      page := fun id number size => onOutside (v.market.page id number size)
      balance := onOutside v.market.balance }
  clock := onOutside v.clock

/-- The execution, observed. -/
def run (p : RecordPlace) (v : Visit σ) :
    StateM (Observed (Workplace p σ)) (Except ExecutionError Report) :=
  Execution.run (v.desk p).observed v.job v.command

end Visit

/-! ### Single calls -/

/-- Whether a step of an execution keeps to what the place of the registry promises: what is loaded
is what is stored, what was saved is stored, and no other call changes what is stored. -/
def IsFaithful (step : DeskStep (Workplace p σ)) : Prop :=
  match step.event with
  | .load (.ok known) => step.before.stored = .ok known ∧ step.after.stored = step.before.stored
  | .save known (.ok ()) => step.after.stored = .ok known
  | .save _ (.error _) => True
  | _ => step.after.stored = step.before.stored

/-- Whether a save that fails leaves what is stored as it was. -/
def IsHarmless (step : DeskStep (Workplace p σ)) : Prop :=
  ∀ known e, step.event = .save known (.error e) → step.after.stored = step.before.stored

/-- Whether a step keeps the directory of the registry, where it exists, and is harmless there. -/
def IsGuarded (step : DeskStep (Workplace p σ)) : Prop :=
  p.HasDirectory step.before.records → p.HasDirectory step.after.records ∧ IsHarmless step

/-- Whether a step saves the registry, or fails to. -/
def IsSave (step : DeskStep (Workplace p σ)) : Prop :=
  match step.event with
  | .save _ _ => True
  | _ => False

namespace Visit

variable (p) (v : Visit σ)

variable {p} in
/-- A call to the place of the registry that fails beforehand leaves the place alone. -/
theorem run_records_of_some {call : DeskCall} {a : Workplace p σ} {cause : RecordError} {o : σ}
    (x : StateM p.State (Except RecordError α))
    (hfault : (v.faults call).run a.outside = (some cause, o)) :
    (barring (onOutside (v.faults call)) (onRecords x)).run a = (.error cause, ⟨a.records, o⟩) := by
  rw [run_barring, run_onOutside hfault]
  rfl

variable {p} in
/-- A call to the place of the registry that does not fail beforehand is made. -/
theorem run_records_of_none {call : DeskCall} {a : Workplace p σ} {o : σ}
    (x : StateM p.State (Except RecordError α))
    (hfault : (v.faults call).run a.outside = (none, o)) :
    (barring (onOutside (v.faults call)) (onRecords x)).run a =
      ((x.run a.records).1, ⟨(x.run a.records).2, o⟩) := by
  rw [run_barring, run_onOutside hfault]
  rfl

/-- A call to the place of the registry is made in a world with the same place, if at all. -/
theorem run_barred (call : DeskCall) (x : StateM p.State (Except RecordError α))
    (a : Workplace p σ) :
    ∃ b : Workplace p σ, b.records = a.records ∧
      ((∃ e, (barring (onOutside (v.faults call)) (onRecords x)).run a = (.error e, b)) ∨
        (barring (onOutside (v.faults call)) (onRecords x)).run a = (onRecords x).run b) :=
  ⟨((onOutside (v.faults call)).run a).2, rfl, run_barring_cases _ _ a⟩

theorem records_load (a : Workplace p σ) :
    ((v.desk p).records.load.run a).2.records = a.records := by
  obtain ⟨b, hb, ⟨e, hrun⟩ | hrun⟩ := v.run_barred p .load p.store.load a
  · have hload : (v.desk p).records.load.run a = (.error e, b) := hrun
    rw [hload, hb]
  · have hload : (v.desk p).records.load.run a = (onRecords p.store.load).run b := hrun
    rw [hload, ← hb]
    exact p.load_snd b.records

theorem isFaithful_load (a : Workplace p σ) :
    IsFaithful ⟨a, .load ((v.desk p).records.load.run a).1, ((v.desk p).records.load.run a).2⟩ := by
  obtain ⟨b, hb, ⟨e, hrun⟩ | hrun⟩ := v.run_barred p .load p.store.load a
  · have hload : (v.desk p).records.load.run a = (.error e, b) := hrun
    rw [hload]
    show b.stored = a.stored
    rw [stored, hb, stored]
  · have hload : (v.desk p).records.load.run a = (onRecords p.store.load).run b := hrun
    have hanswer : ((onRecords p.store.load).run b).1 = a.stored := by
      show p.stored b.records = a.stored
      rw [hb, stored]
    have hafter : ((onRecords p.store.load).run b).2.stored = a.stored := by
      show p.stored (p.store.load.run b.records).2 = a.stored
      rw [RecordPlace.load_snd, hb, stored]
    rw [hload, hanswer]
    rcases hstored : a.stored with e | known
    · exact hafter
    · exact ⟨hstored, hafter⟩

theorem isFaithful_save (known : Registry) (a : Workplace p σ) :
    IsFaithful ⟨a, .save known (((v.desk p).records.save known).run a).1,
      (((v.desk p).records.save known).run a).2⟩ := by
  obtain ⟨b, hb, ⟨e, hrun⟩ | hrun⟩ := v.run_barred p .save (p.store.save known) a
  · have hsave : ((v.desk p).records.save known).run a = (.error e, b) := hrun
    rw [hsave]
    trivial
  · have hsave : ((v.desk p).records.save known).run a =
        (onRecords (p.store.save known)).run b := hrun
    rw [hsave]
    rcases hplace : (p.store.save known).run b.records with ⟨e | ⟨⟩, s⟩
    · have hrecords : (onRecords (p.store.save known)).run b = (.error e, ⟨s, b.outside⟩) := by
        show (((p.store.save known).run b.records).1, _) = _
        rw [hplace]
      rw [hrecords]
      trivial
    · have hrecords : (onRecords (p.store.save known)).run b = (.ok (), ⟨s, b.outside⟩) := by
        show (((p.store.save known).run b.records).1, _) = _
        rw [hplace]
      rw [hrecords]
      exact RecordPlace.stored_of_save hplace

theorem isGuarded_save (known : Registry) (a : Workplace p σ) :
    IsGuarded ⟨a, .save known (((v.desk p).records.save known).run a).1,
      (((v.desk p).records.save known).run a).2⟩ := by
  intro hdirectory
  obtain ⟨b, hb, ⟨e, hrun⟩ | hrun⟩ := v.run_barred p .save (p.store.save known) a
  · have hsave : ((v.desk p).records.save known).run a = (.error e, b) := hrun
    rw [hsave]
    refine ⟨by rwa [hb], fun _ _ _ => ?_⟩
    rw [stored, stored, hb]
  · have hsave : ((v.desk p).records.save known).run a =
        (onRecords (p.store.save known)).run b := hrun
    rw [hsave]
    have hb' : p.HasDirectory b.records := by rwa [hb]
    refine ⟨RecordPlace.hasDirectory_save hb' known, fun known' e hevent => ?_⟩
    have hplace : (p.store.save known).run b.records =
        (.error e, ((p.store.save known).run b.records).2) :=
      Prod.ext (DeskEvent.save.inj hevent).2 rfl
    show p.stored ((p.store.save known).run b.records).2 = p.stored a.records
    rw [RecordPlace.stored_of_save_error hb' hplace, hb]

/-- Every call but those that save the registry leaves it where it is. -/
theorem keeps_desk : (v.desk p).Keeps fun step =>
    IsFaithful step ∧ ¬IsSave step ∧ step.after.records = step.before.records where
  load a := ⟨v.isFaithful_load p a, id, v.records_load p a⟩
  ids _ := ⟨rfl, id, rfl⟩
  put _ _ := ⟨rfl, id, rfl⟩
  append _ _ := ⟨rfl, id, rfl⟩
  create _ _ := ⟨rfl, id, rfl⟩
  addAssignments _ _ _ := ⟨rfl, id, rfl⟩
  extend _ _ _ := ⟨rfl, id, rfl⟩
  expire _ _ := ⟨rfl, id, rfl⟩
  status _ _ := ⟨rfl, id, rfl⟩
  page _ _ _ _ := ⟨rfl, id, rfl⟩
  balance _ := ⟨rfl, id, rfl⟩
  clock _ := ⟨rfl, id, rfl⟩

/-- The steps of an execution: which calls save the registry, and what the others do. -/
theorem leads_run (a : Workplace p σ) :
    Leads a (Execution.steps (v.desk p).observed v.job v.command) fun steps _ r =>
      (∀ step ∈ steps, IsFaithful step) ∧
        (v.command = .create → Execution.IsCreation v.job (steps.map (·.event)) r) ∧
        (v.command ≠ .create → ∀ step ∈ steps, ¬IsSave step) := by
  have hkeeps := v.keeps_desk p
  by_cases hc : v.command = .create
  · have hfaithful : Observes IsFaithful (Execution.create (v.desk p).observed v.job)
        (Execution.create (v.desk p) v.job) :=
      Execution.observes_create (hkeeps.mono fun _ h => h.1) (v.isFaithful_save p)
    rw [hc]
    refine ((hfaithful a).and (Execution.leads_create (v.desk p) v.job a)).mono ?_
    exact fun steps b r _ h => ⟨h.1.2, fun _ => h.2, fun h => absurd rfl h⟩
  · refine (Execution.observes_steps_of_ne hkeeps hc a).mono fun steps b r _ ⟨_, h⟩ => ?_
    exact ⟨fun step hstep => (h step hstep).1, fun h => absurd h hc,
      fun _ step hstep => (h step hstep).2.1⟩

/-- Where the directory of the registry exists, it stays, and no save that fails changes what is
loaded. -/
theorem observes_isGuarded :
    Observes IsGuarded (Execution.steps (v.desk p).observed v.job v.command)
      (Execution.steps (v.desk p) v.job v.command) := by
  refine Execution.observes_steps ((v.keeps_desk p).mono fun step h => ?_) (v.isGuarded_save p) _
  obtain ⟨-, hsave, hrecords⟩ := h
  refine fun hdirectory => ⟨by rwa [hrecords], fun known e hevent => absurd ?_ hsave⟩
  rw [IsSave, hevent]
  trivial

/-- An observed execution answers and ends as the execution itself does. -/
theorem episode_run (a : Workplace p σ) :
    ((episode (v.run p) a).answer, (episode (v.run p) a).after) =
      (Execution.run (v.desk p) v.job v.command).run a :=
  (v.observes_isGuarded p).episode a

end Visit

/-! ### Registries -/

namespace Registry

/-- Whether the records of one registry are those of another one too. -/
def IsKeptIn (known known' : Registry) : Prop :=
  ∀ e r, known.get? e = some r → known'.get? e = some r

theorem IsKeptIn.refl (known : Registry) : known.IsKeptIn known := fun _ _ h => h

theorem IsKeptIn.trans {known known' known'' : Registry} (h : known.IsKeptIn known')
    (h' : known'.IsKeptIn known'') : known.IsKeptIn known'' :=
  fun e r hr => h' e r (h e r hr)

theorem isKeptIn_insert {known : Registry} {e : Environment} (h : known.get? e = none)
    (r : TaskRecord) : known.IsKeptIn (known.insert e r) := by
  intro e' r' hr'
  have hne : e' ≠ e := by
    rintro rfl
    rw [h] at hr'
    cases hr'
  rw [get?_insert_of_ne known r hne, hr']

end Registry

/-! ### Executions -/

theorem stored_eq_of_isFaithful {step : DeskStep (Workplace p σ)} (h : IsFaithful step)
    (hsave : ∀ known, step.event ≠ .save known (.ok ())) (hharmless : IsHarmless step) :
    step.after.stored = step.before.stored := by
  obtain ⟨before, event, after⟩ := step
  cases event with
  | load answer =>
    cases answer with
    | error e => exact h
    | ok known => exact h.2
  | save known answer =>
    cases answer with
    | error e => exact hharmless known e rfl
    | ok => exact absurd rfl (hsave known)
  | _ => exact h

/-- How a record is entered for an environment: the registry has none there, the marketplace
confirms the task, and the registry is saved together with the record of the task. The execution
fails only if the change is not noted in the journal. -/
structure Visit.Enters (v : Visit σ) (e : Episode (Workplace p σ) (Except ExecutionError Report))
    (known : Registry) (r : TaskRecord) : Prop where
  command : v.command = .create
  missing : known.get? v.job.environment = none
  calls : ∃ request now entry noted,
    e.steps.map (·.event) =
        [.load (.ok known), .create request (.ok r),
          .save (known.insert v.job.environment r) (.ok ()), .clock now, .append entry noted] ∧
      ((noted = .ok () ∧ ∃ report, e.answer = .ok report) ∨
        ∃ cause, noted = .error cause ∧ e.answer = .error (.journal cause))
  confirmed : ∃ step ∈ e.steps, (∃ request, step.event = .create request (.ok r)) ∧
    step.before.stored = .ok known

/-- What an execution means for the registry that is stored before it and the one that is stored
after it. -/
structure Visit.Settles (v : Visit σ) (e : Episode (Workplace p σ) (Except ExecutionError Report))
    (known known' : Registry) : Prop where
  before : e.before.stored = .ok known
  after : e.after.stored = .ok known'
  /-- Nothing changes, unless a record is entered. -/
  change : known' = known ∨
    ∃ r, v.Enters e known r ∧ known' = known.insert v.job.environment r
  /-- No record is missing after any of the calls. -/
  kept : ∀ step ∈ e.steps, ∃ k, step.after.stored = .ok k ∧ known.IsKeptIn k
  /-- A task that is recorded is not created again: the registry is loaded, and nothing else is
  called. -/
  found : v.command = .create → ∀ r, known.get? v.job.environment = some r →
    e.steps.map (·.event) = [.load (.ok known)] ∧
        e.answer = .error (.alreadyExists v.job.environment r.id) ∨
      ∃ cause, e.steps.map (·.event) = [.load (.error cause)] ∧ e.answer = .error (.records cause)

section Settles

variable {a b : Workplace p σ} {steps : List (DeskStep (Workplace p σ))} {known : Registry}

/-- What is loaded first is what is stored when the execution begins. -/
theorem stored_of_load {k : Registry} {events : List DeskEvent} (ht : IsTrail a steps b)
    (hfaithful : ∀ step ∈ steps, IsFaithful step)
    (hevents : steps.map (·.event) = .load (.ok k) :: events) : a.stored = .ok k := by
  obtain ⟨step, rest, rfl, hevent, -⟩ := List.map_eq_cons_iff.mp hevents
  obtain ⟨rfl, -⟩ := ht
  have hstep := hfaithful step (.head _)
  rw [IsFaithful, hevent] at hstep
  exact hstep.1

/-- Without a successful save nothing that is stored changes. -/
theorem stored_eq_of_isTrail (ht : IsTrail a steps b)
    (hsteps : ∀ step ∈ steps, step.after.stored = step.before.stored) :
    b.stored = a.stored ∧ ∀ step ∈ steps, step.after.stored = a.stored := by
  obtain ⟨hb, hall⟩ := ht.invariant (I := fun c => c.stored = a.stored) rfl fun step hstep h =>
    (hsteps step hstep).trans h
  exact ⟨hb, fun step hstep => (hall step hstep).2⟩

variable {v : Visit σ} {e : Episode (Workplace p σ) (Except ExecutionError Report)}

theorem settles_of_unchanged (hbefore : e.before.stored = .ok known)
    (ht : IsTrail e.before e.steps e.after)
    (hsteps : ∀ step ∈ e.steps, step.after.stored = step.before.stored)
    (hfound : v.command = .create → ∀ r, known.get? v.job.environment = some r →
      e.steps.map (·.event) = [.load (.ok known)] ∧
          e.answer = .error (.alreadyExists v.job.environment r.id) ∨
        ∃ cause, e.steps.map (·.event) = [.load (.error cause)] ∧
          e.answer = .error (.records cause)) :
    v.Settles e known known := by
  obtain ⟨hafter, hall⟩ := stored_eq_of_isTrail ht hsteps
  exact ⟨hbefore, hafter.trans hbefore, Or.inl rfl,
    fun step hstep => ⟨known, (hall step hstep).trans hbefore, .refl known⟩, hfound⟩

/-- An execution that enters a record. -/
theorem settles_of_enters (hbefore : e.before.stored = .ok known)
    (ht : IsTrail e.before e.steps e.after) (hfaithful : ∀ step ∈ e.steps, IsFaithful step)
    (hc : v.command = .create) (hmissing : known.get? v.job.environment = none)
    {request : TaskRequest} {r : TaskRecord} {now : Instant} {entry : JournalEntry}
    {noted : Except JournalError Unit}
    (hevents : e.steps.map (·.event) =
      [.load (.ok known), .create request (.ok r),
        .save (known.insert v.job.environment r) (.ok ()), .clock now, .append entry noted])
    (hanswer : (noted = .ok () ∧ ∃ report, e.answer = .ok report) ∨
      ∃ cause, noted = .error cause ∧ e.answer = .error (.journal cause)) :
    v.Settles e known (known.insert v.job.environment r) := by
  obtain ⟨before, answer, steps, after⟩ := e
  obtain ⟨s₁, rest₁, rfl, h₁, hrest⟩ := List.map_eq_cons_iff.mp hevents
  obtain ⟨s₂, rest₂, rfl, h₂, hrest⟩ := List.map_eq_cons_iff.mp hrest
  obtain ⟨s₃, rest₃, rfl, h₃, hrest⟩ := List.map_eq_cons_iff.mp hrest
  obtain ⟨s₄, rest₄, rfl, h₄, hrest⟩ := List.map_eq_cons_iff.mp hrest
  obtain ⟨s₅, rest₅, rfl, h₅, hrest⟩ := List.map_eq_cons_iff.mp hrest
  obtain rfl := List.map_eq_nil_iff.mp hrest
  obtain ⟨rfl, t₂, t₃, t₄, t₅, rfl⟩ := ht
  simp only [List.forall_mem_cons, IsFaithful, h₁, h₂, h₃, h₄, h₅] at hfaithful
  obtain ⟨⟨-, f₁⟩, f₂, f₃, f₄, f₅, -⟩ := hfaithful
  have hkept := Registry.isKeptIn_insert hmissing r
  -- the registry stays until it is saved, and after that
  have g₁ : s₁.after.stored = .ok known := f₁.trans hbefore
  have g₂ : s₂.after.stored = .ok known := by rw [f₂, t₂, g₁]
  have g₄ : s₄.after.stored = .ok (known.insert v.job.environment r) := by rw [f₄, t₄, f₃]
  have g₅ : s₅.after.stored = .ok (known.insert v.job.environment r) := by rw [f₅, t₅, g₄]
  refine ⟨hbefore, g₅, Or.inr ⟨r, ⟨hc, hmissing, ⟨request, now, entry, noted, hevents, hanswer⟩,
    s₂, .tail _ (.head _), ⟨request, h₂⟩, by rw [t₂, g₁]⟩, rfl⟩, ?_, fun _ r' hr' => ?_⟩
  · simp only [List.forall_mem_cons]
    exact ⟨⟨known, g₁, .refl known⟩, ⟨known, g₂, .refl known⟩, ⟨_, f₃, hkept⟩, ⟨_, g₄, hkept⟩,
      ⟨_, g₅, hkept⟩, List.forall_mem_nil _⟩
  · rw [hmissing] at hr'
    cases hr'

/-- An execution that creates a task, by the patterns of its calls. -/
theorem exists_settles_of_isCreation (hbefore : e.before.stored = .ok known)
    (ht : IsTrail e.before e.steps e.after) (hfaithful : ∀ step ∈ e.steps, IsFaithful step)
    (hharmless : ∀ step ∈ e.steps, IsHarmless step) (hc : v.command = .create)
    (hcreate : Execution.IsCreation v.job (e.steps.map (·.event)) e.answer) :
    ∃ known', v.Settles e known known' := by
  have hunchanged : (∀ k, .save k (.ok ()) ∉ e.steps.map (·.event)) →
      ∀ step ∈ e.steps, step.after.stored = step.before.stored := by
    intro hsave step hstep
    refine stored_eq_of_isFaithful (hfaithful step hstep) (fun k hk => hsave k ?_)
      (hharmless step hstep)
    rw [← hk]
    exact List.mem_map_of_mem hstep
  have hloaded : ∀ {k events}, e.steps.map (·.event) = .load (.ok k) :: events → k = known := by
    intro k events hevents
    exact Except.ok.inj ((stored_of_load ht hfaithful hevents).symm.trans hbefore)
  have hnone : ∀ {k}, k = known → k.get? v.job.environment = none →
      ∀ r, known.get? v.job.environment ≠ some r := by
    rintro k rfl h r hr
    rw [h] at hr
    cases hr
  generalize hevents : e.steps.map (·.event) = events at hcreate hunchanged hloaded
  generalize hanswer : e.answer = answer at hcreate
  cases hcreate with
  | unloaded cause =>
    refine ⟨known, settles_of_unchanged hbefore ht (hunchanged (by simp)) fun _ r _ => ?_⟩
    exact Or.inr ⟨cause, hevents, hanswer⟩
  | found k r h =>
    obtain rfl := hloaded rfl
    refine ⟨k, settles_of_unchanged hbefore ht (hunchanged (by simp)) fun _ r' hr' => ?_⟩
    obtain rfl := Option.some.inj (h.symm.trans hr')
    exact Or.inl ⟨hevents, hanswer⟩
  | unsettled k h =>
    refine ⟨known, settles_of_unchanged hbefore ht (hunchanged (by simp)) fun _ r hr => ?_⟩
    exact absurd hr (hnone (hloaded rfl) h r)
  | refused k h request cause =>
    refine ⟨known, settles_of_unchanged hbefore ht (hunchanged (by simp)) fun _ r hr => ?_⟩
    exact absurd hr (hnone (hloaded rfl) h r)
  | unsaved k h request r cause =>
    refine ⟨known, settles_of_unchanged hbefore ht (hunchanged (by simp)) fun _ r hr => ?_⟩
    exact absurd hr (hnone (hloaded rfl) h r)
  | unnoted k h request r now entry cause =>
    obtain rfl := hloaded rfl
    exact ⟨_, settles_of_enters hbefore ht hfaithful hc h hevents
      (Or.inr ⟨cause, rfl, hanswer⟩)⟩
  | created k h request r now entry report =>
    obtain rfl := hloaded rfl
    exact ⟨_, settles_of_enters hbefore ht hfaithful hc h hevents
      (Or.inl ⟨rfl, report, hanswer⟩)⟩

/-- What an execution means for the registry. -/
theorem exists_settles (v : Visit σ) (hstored : a.stored = .ok known)
    (hharmless : ∀ step ∈ (episode (v.run p) a).steps, IsHarmless step) :
    ∃ known', v.Settles (episode (v.run p) a) known known' := by
  obtain ⟨ht, hfaithful, hcreate, hnosave⟩ := (v.leads_run p a).episode
  by_cases hc : v.command = .create
  · exact exists_settles_of_isCreation hstored ht hfaithful hharmless hc (hcreate hc)
  · refine ⟨known, settles_of_unchanged hstored ht (fun step hstep => ?_) fun h => absurd h hc⟩
    refine stored_eq_of_isFaithful (hfaithful step hstep) (fun k hk => ?_) (hharmless step hstep)
    have hsave := hnosave hc step hstep
    rw [IsSave, hk] at hsave
    exact hsave trivial

end Settles

/-! ### Sequences of executions -/

section Chronicle

variable {visits : List (Visit σ)} {a : Workplace p σ} {known known' : Registry}

/-- The record of an environment is one of those in the beginning, or one of the executions entered
it. -/
def StemsFrom (runs : List (Visit σ × Episode (Workplace p σ) (Except ExecutionError Report)))
    (known : Registry) (e : Environment) (r : TaskRecord) : Prop :=
  known.get? e = some r ∨
    ∃ run ∈ runs, run.1.job.environment = e ∧ ∃ k, run.1.Enters run.2 k r

theorem Visit.Settles.isKeptIn {v : Visit σ}
    {e : Episode (Workplace p σ) (Except ExecutionError Report)} (h : v.Settles e known known') :
    known.IsKeptIn known' := by
  rcases h.change with rfl | ⟨r, henters, rfl⟩
  · exact .refl _
  · exact Registry.isKeptIn_insert henters.missing r

theorem Visit.Settles.stemsFrom {v : Visit σ}
    {e : Episode (Workplace p σ) (Except ExecutionError Report)} (h : v.Settles e known known')
    {environment : Environment} {r : TaskRecord} (hr : known'.get? environment = some r) :
    StemsFrom [(v, e)] known environment r := by
  rcases h.change with rfl | ⟨r', henters, rfl⟩
  · exact Or.inl hr
  by_cases he : environment = v.job.environment
  · subst he
    obtain rfl : r' = r := by simpa using hr
    exact Or.inr ⟨(v, e), .head _, rfl, known, henters⟩
  · rw [Registry.get?_insert_of_ne known r' he] at hr
    exact Or.inl hr

/-- All executions of a sequence settle the registry, from the records in the beginning on. -/
theorem exists_settles_chronicle (visits : List (Visit σ)) (hstored : a.stored = .ok known)
    (hharmless : ∀ run ∈ chronicle (Visit.run p) visits a, ∀ step ∈ run.2.steps,
      IsHarmless step) :
    (∀ run ∈ chronicle (Visit.run p) visits a,
      ∃ k k', run.1.Settles run.2 k k' ∧ known.IsKeptIn k) ∧
    ∃ known', (worldAfter (Visit.run p) visits a).stored = .ok known' ∧ known.IsKeptIn known' ∧
      ∀ e r, known'.get? e = some r →
        StemsFrom (chronicle (Visit.run p) visits a) known e r := by
  induction visits generalizing a known with
  | nil => exact ⟨by simp, known, hstored, .refl known, fun e r hr => Or.inl hr⟩
  | cons v visits ih =>
    rw [chronicle_cons] at hharmless ⊢
    rw [worldAfter_cons]
    obtain ⟨hfirst, hlater⟩ := List.forall_mem_cons.mp hharmless
    obtain ⟨k, hk⟩ := exists_settles v hstored hfirst
    obtain ⟨hruns, known', hknown', hkept, hstems⟩ := ih hk.after hlater
    refine ⟨List.forall_mem_cons.mpr ⟨⟨known, k, hk, .refl known⟩, fun run hrun => ?_⟩,
      known', hknown', hk.isKeptIn.trans hkept, fun e r hr => ?_⟩
    · obtain ⟨k₁, k₂, hsettles, hkept₁⟩ := hruns run hrun
      exact ⟨k₁, k₂, hsettles, hk.isKeptIn.trans hkept₁⟩
    · rcases hstems e r hr with hr | ⟨run, hrun, henters⟩
      · rcases hk.stemsFrom hr with hr | ⟨run, hrun, henters⟩
        · exact Or.inl hr
        · obtain rfl := List.mem_singleton.mp hrun
          exact Or.inr ⟨_, .head _, henters⟩
      · exact Or.inr ⟨run, .tail _ hrun, henters⟩

/-- Where the directory of the registry exists, it stays, and every save of an execution that fails
is harmless. -/
theorem Visit.isHarmless_episode (v : Visit σ) (hdirectory : p.HasDirectory a.records) :
    (∀ step ∈ (episode (v.run p) a).steps, IsHarmless step) ∧
      p.HasDirectory (episode (v.run p) a).after.records := by
  obtain ⟨ht, -, hguarded⟩ := (v.observes_isGuarded p a).episode
  obtain ⟨hafter, hall⟩ := ht.invariant (I := fun c => p.HasDirectory c.records) hdirectory
    fun step hstep h => (hguarded step hstep h).1
  exact ⟨fun step hstep => (hguarded step hstep (hall step hstep).1).2, hafter⟩

/-- Where the directory of the registry exists, every save that fails is harmless. -/
theorem isHarmless_of_hasDirectory (visits : List (Visit σ))
    (hdirectory : p.HasDirectory a.records) :
    ∀ run ∈ chronicle (Visit.run p) visits a, ∀ step ∈ run.2.steps, IsHarmless step :=
  (forall_mem_chronicle (Visit.run p) (I := fun b => p.HasDirectory b.records)
    (P := fun _ e => ∀ step ∈ e.steps, IsHarmless step)
    (fun v _ hb => v.isHarmless_episode hb) visits hdirectory).1

/-- What a sequence of executions means for the records of the environments. -/
structure HasSingleRecords (visits : List (Visit σ)) (a : Workplace p σ) (known : Registry) :
    Prop where
  /-- Each execution leaves the registry, or enters a record where none was. -/
  settles : ∀ run ∈ chronicle (Visit.run p) visits a, ∃ k k', run.1.Settles run.2 k k'
  /-- After any of the executions, no record was made up, and none is changed from then on. -/
  records : ∀ earlier later, visits = earlier ++ later →
    ∃ k, (worldAfter (Visit.run p) earlier a).stored = .ok k ∧
      (∀ e r, k.get? e = some r → StemsFrom (chronicle (Visit.run p) earlier a) known e r) ∧
      ∀ run ∈ chronicle (Visit.run p) later (worldAfter (Visit.run p) earlier a),
        (∀ step ∈ run.2.steps, ∃ k', step.after.stored = .ok k' ∧ k.IsKeptIn k') ∧
          ∃ k', run.2.after.stored = .ok k' ∧ k.IsKeptIn k'

/-- Each environment has at most one record, and keeps it, whatever commands are executed. -/
theorem hasSingleRecords (visits : List (Visit σ)) (hstored : a.stored = .ok known)
    (hharmless : ∀ run ∈ chronicle (Visit.run p) visits a, ∀ step ∈ run.2.steps,
      IsHarmless step) :
    HasSingleRecords visits a known := by
  refine ⟨fun run hrun => ?_, fun earlier later hvisits => ?_⟩
  · obtain ⟨k, k', hsettles, -⟩ := (exists_settles_chronicle visits hstored hharmless).1 run hrun
    exact ⟨k, k', hsettles⟩
  · rw [hvisits, chronicle_append] at hharmless
    obtain ⟨hearlier, hlater⟩ := List.forall_mem_append.mp hharmless
    obtain ⟨-, k, hk, -, hstems⟩ := exists_settles_chronicle earlier hstored hearlier
    obtain ⟨hruns, -⟩ := exists_settles_chronicle later hk hlater
    refine ⟨k, hk, hstems, fun run hrun => ?_⟩
    obtain ⟨k₁, k₂, hsettles, hkept⟩ := hruns run hrun
    refine ⟨fun step hstep => ?_, k₂, hsettles.after, hkept.trans hsettles.isKeptIn⟩
    obtain ⟨k', hk', hkept'⟩ := hsettles.kept step hstep
    exact ⟨k', hk', hkept.trans hkept'⟩

end Chronicle

/-- A task that is created in an environment, at a desk at which every call succeeds. -/
def Visit.creating (environment : Environment) (id : TaskId) : Visit Unit where
  job := ⟨environment, some ⟨"T", "D", "K", "U", 600, ⟨50⟩, 60, 60, .none⟩, none⟩
  command := .create
  market :=
    { Marketplace.refusing (.transport "") with
      create := fun _ => pure (.ok ⟨id, ⟨"Y", by decide⟩, none⟩) }
  results := ⟨pure (.ok []), fun _ => pure (.ok ())⟩
  journal := ⟨fun _ => pure (.ok ())⟩
  clock := pure ⟨0⟩
  faults _ := pure none

/-- Three tasks are created, two of them in one environment, with a registry in a file that is
missing in the beginning. -/
theorem hasSingleRecords_of_three :
    HasSingleRecords
      [.creating .sandbox ⟨"A", by decide⟩, .creating .production ⟨"B", by decide⟩,
        .creating .sandbox ⟨"C", by decide⟩]
      (⟨FileTree.empty, ()⟩ : Workplace (.file "records") Unit) .empty := by
  have hroute : Route.splitPath? "records" = some (⟨"."⟩, "records") := by decide +kernel
  refine hasSingleRecords _ rfl (isHarmless_of_hasDirectory _ fun d name hsplit => ?_)
  obtain rfl := congrArg Prod.fst (Option.some.inj (hroute.symm.trans hsplit))
  exact ⟨FileTree.workingDirectory, rfl⟩

/-- The second task of an environment is not recorded. -/
example :
    (worldAfter (Visit.run (.file "records"))
      [.creating .sandbox ⟨"A", by decide⟩, .creating .production ⟨"B", by decide⟩,
        .creating .sandbox ⟨"C", by decide⟩]
      (⟨FileTree.empty, ()⟩ : Workplace (.file "records") Unit)).stored =
    .ok ⟨some ⟨⟨"A", by decide⟩, ⟨"Y", by decide⟩, none⟩,
      some ⟨⟨"B", by decide⟩, ⟨"Y", by decide⟩, none⟩⟩ := by
  decide +kernel

end CrowdTask
