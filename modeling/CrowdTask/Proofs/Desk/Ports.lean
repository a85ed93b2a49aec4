import CrowdTask.Program
import CrowdTask.Proofs.Desk.Timing

/-!
# The ports that a command calls

Each command has its own ports, and calls no others, whatever they answer. A command on the recorded
task loads the registry first; unless a task is recorded for its environment nothing follows, and
otherwise the marketplace is called about this task alone. So a command that is not to call the
marketplace is the same with every marketplace, one that refuses all calls included.

## Main definitions

* `CrowdTask.Port`, `CrowdTask.DeskEvent.port`: the ports of a desk, and the one that a call is made
  to.
* `CrowdTask.Command.ports`, `CrowdTask.Command.portsOnRecorded`: the ports that a command calls,
  and those that it calls about the recorded task.
* `CrowdTask.Execution.IsConfined`: what the calls of each command are like.
* `CrowdTask.Command.IsOffline`: that a command is the same with every marketplace.
* `CrowdTask.KeepsToPorts`: what a command leaves alone.

## Main results

* `CrowdTask.Execution.leads_confined`: every command makes its own calls only.
* `CrowdTask.keeps_to_ports`: every command keeps to its ports, whatever they answer.
-/

namespace CrowdTask

/-- The ports of a desk. -/
inductive Port where
  | registry
  | results
  | journal
  | market
  | clock
  deriving DecidableEq, Repr

namespace DeskEvent

/-- The port that a call is made to. -/
def port : DeskEvent → Port
  | .load _ | .save _ _ => .registry
  | .ids _ | .put _ _ => .results
  | .append _ _ => .journal
  | .create _ _ | .addAssignments _ _ _ | .extend _ _ _ | .expire _ _ | .status _ _
  | .page _ _ _ _ | .balance _ => .market
  | .clock _ => .clock

/-- Whether a call saves the registry. -/
def isSave : DeskEvent → Bool
  | .save _ _ => true
  | _ => false

/-- The task that a call to the marketplace is about. -/
def task? : DeskEvent → Option TaskId
  | .addAssignments id _ _ | .extend id _ _ | .expire id _ | .status id _ | .page id _ _ _ =>
    some id
  | _ => none

/-- Whether a call is made to one of the given ports, and is about the task `id` if it is made to
the marketplace. -/
def IsWithin (ports : List Port) (id : TaskId) (x : DeskEvent) : Prop :=
  x.port ∈ ports ∧ (x.port = .market → x.task? = some id)

end DeskEvent

/-- The ports that a command calls about the recorded task. -/
def Command.portsOnRecorded : Command → List Port
  | .add _ | .expire => [.market, .journal, .clock]
  | .status => [.market, .clock]
  | .download => [.market, .results]
  | _ => []

/-- The ports that a command calls. -/
def Command.ports : Command → List Port
  | .create => [.registry, .market, .journal, .clock]
  | .balance => [.market]
  | .update | .history => []
  | c => .registry :: c.portsOnRecorded

namespace Command

theorem registry_notMem_portsOnRecorded (c : Command) : .registry ∉ c.portsOnRecorded := by
  cases c <;> simp [portsOnRecorded]

theorem journal_mem_ports {c : Command} (h : .journal ∈ c.ports) :
    c = .create ∨ (∃ x, c = .add x) ∨ c = .expire := by
  cases c <;> simp_all [ports, portsOnRecorded]

theorem results_mem_ports {c : Command} (h : .results ∈ c.ports) : c = .download := by
  cases c <;> simp_all [ports, portsOnRecorded]

/-- The commands that call the marketplace are those that are said to. -/
theorem market_mem_ports {c : Command} : .market ∈ c.ports ↔ c.callsMarketplace = true := by
  cases c <;> simp [ports, portsOnRecorded, callsMarketplace]

end Command

variable {w : Type}

namespace Execution

/-! ### Calls about the recorded task -/

section Recorded

variable {d : Desk (StateM w)} {job : Job} {id : TaskId} {ports : List Port}

theorem observes_note_within (hjournal : .journal ∈ ports) (hclock : .clock ∈ ports)
    (change : Change) (data : Json) :
    Observes (fun step => step.event.IsWithin ports id) (note d.observed change data)
      (note d change data) := by
  refine .bind (.lift .clock d.clock fun _ => ⟨hclock, nofun⟩) fun now => ?_
  exact .attempt ExecutionError.journal (.append _) _ fun _ => ⟨hjournal, nofun⟩

theorem observes_addAssignments_within (x : Addition) (count : UInt32) :
    Observes (fun step => step.event.IsWithin (Command.add x).portsOnRecorded id)
      (addAssignments d.observed id count) (addAssignments d id count) := by
  refine .bind (.attempt ExecutionError.marketplace (.addAssignments id count) _
    fun _ => ⟨.head _, fun _ => rfl⟩) fun _ => ?_
  exact observes_note_within (.tail _ (.head _)) (.tail _ (.tail _ (.head _))) _ _

theorem observes_addTime_within (x : Addition) (seconds : UInt64) :
    Observes (fun step => step.event.IsWithin (Command.add x).portsOnRecorded id)
      (addTime d.observed id seconds) (addTime d id seconds) := by
  refine .bind (.attempt ExecutionError.marketplace (.extend id seconds) _
    fun _ => ⟨.head _, fun _ => rfl⟩) fun expiresAt => ?_
  refine .bind ?_ fun _ => .pure _
  exact observes_note_within (.tail _ (.head _)) (.tail _ (.tail _ (.head _))) _ _

theorem observes_download_within (salt : Option String) :
    Observes (fun step => step.event.IsWithin Command.download.portsOnRecorded id)
      (Download.steps d.observed.market d.observed.results salt id)
      (Download.steps d.market d.results salt id) := by
  refine Download.observes_steps (fun _ => ⟨.tail _ (.head _), nofun⟩)
    (fun _ => ⟨.head _, fun _ => rfl⟩) (Download.observes_takePage ?_ ?_)
  · exact fun _ _ => ⟨.tail _ (.head _), nofun⟩
  · exact fun _ _ => ⟨.head _, fun _ => rfl⟩

/-- The calls of a command that consults the registry: it loads the registry, and unless that has a
record for the environment nothing follows. Otherwise the further calls are made to the given
ports, and to the marketplace about the recorded task alone. -/
def IsWithinRecorded (job : Job) (ports : List Port) (events : List DeskEvent) : Prop :=
  (∃ loaded, events = [.load loaded]) ∨
    ∃ known r later, events = .load (.ok known) :: later ∧
      known.get? job.environment = some r ∧ ∀ x ∈ later, x.IsWithin ports r.id

theorem IsOnRecorded.isWithinRecorded {events : List DeskEvent}
    {answer : Except ExecutionError Report}
    (h : IsOnRecorded job (fun id later _ => ∀ x ∈ later, x.IsWithin ports id) events answer) :
    IsWithinRecorded job ports events := by
  rcases h with ⟨loaded, -, hevents, -⟩ | ⟨known, r, later, hevents, hr, hlater⟩
  · exact Or.inl ⟨loaded, hevents⟩
  · exact Or.inr ⟨known, r, later, hevents, hr, hlater⟩

variable {a : w}

/-- A command on the recorded task calls the ports that its further steps call. -/
theorem leads_onRecorded_within
    {f : TaskRecord → ExceptT ExecutionError (StateM (Observed w)) Report}
    {g : TaskRecord → ExceptT ExecutionError (StateM w) Report}
    (h : ∀ r, Observes (fun step => step.event.IsWithin ports r.id) (f r) (g r)) :
    Leads a (recorded d.observed job >>= f) fun steps _ _ =>
      IsWithinRecorded job ports (steps.map (·.event)) := by
  refine (leads_onRecorded d (Q := fun id later _ => ∀ x ∈ later, x.IsWithin ports id)
    fun r b => ?_).mono fun _ _ _ _ hevents => hevents.isWithinRecorded
  exact (h r b).mono fun _ _ _ _ hsteps => List.forall_mem_map.mpr hsteps.2

theorem leads_add_within (x : Addition) :
    Leads a (add d.observed job x) fun steps _ _ =>
      IsWithinRecorded job (Command.add x).portsOnRecorded (steps.map (·.event)) := by
  cases x with
  | assignments n =>
    exact leads_onRecorded_within fun r =>
      .bind (observes_addAssignments_within _ n) fun _ => .pure _
  | time s =>
    exact leads_onRecorded_within fun r => .bind (observes_addTime_within _ s) fun _ => .pure _
  | both n s =>
    exact leads_onRecorded_within fun r => .bind (observes_addAssignments_within _ n) fun _ =>
      .bind (observes_addTime_within _ s) fun _ => .pure _

theorem leads_expire_within :
    Leads a (expire d.observed job) fun steps _ _ =>
      IsWithinRecorded job Command.expire.portsOnRecorded (steps.map (·.event)) :=
  leads_onRecorded_within fun r =>
    .bind (.attempt ExecutionError.marketplace (.expire r.id) _ fun _ => ⟨.head _, fun _ => rfl⟩)
      fun _ => .bind (observes_note_within (.tail _ (.head _)) (.tail _ (.tail _ (.head _))) _ _)
        fun _ => .pure _

/-- Without a record the status is reported as well. -/
theorem leads_status_within :
    Leads a (status d.observed job) fun steps _ _ =>
      IsWithinRecorded job Command.status.portsOnRecorded (steps.map (·.event)) := by
  refine .bind (.attempt ExecutionError.records .load d.records.load ?_)
  rcases d.records.load.run a with ⟨cause | known, b⟩
  · exact Or.inl ⟨_, rfl⟩
  dsimp only [Except.mapError]
  rcases hr : known.get? job.environment with _ | r
  · exact .pure _ (Or.inl ⟨_, rfl⟩)
  have hstatus (answer) :
      (DeskEvent.status r.id answer).IsWithin Command.status.portsOnRecorded r.id :=
    ⟨.head _, fun _ => rfl⟩
  refine .bind (.attempt ExecutionError.marketplace (.status r.id) _ ?_)
  rcases (d.market.status r.id).run b with ⟨cause | current, c⟩
  · exact Or.inr ⟨known, r, _, rfl, hr, List.forall_mem_singleton.mpr (hstatus _)⟩
  · refine .bind (.lift .clock d.clock (.pure _ (Or.inr ⟨known, r, _, rfl, hr, ?_⟩)))
    exact List.forall_mem_cons.mpr
      ⟨hstatus _, List.forall_mem_singleton.mpr ⟨.tail _ (.head _), nofun⟩⟩

theorem leads_download_within :
    Leads a (download d.observed job) fun steps _ _ =>
      IsWithinRecorded job Command.download.portsOnRecorded (steps.map (·.event)) :=
  leads_onRecorded_within fun _ =>
    .bind (.attempt_run ExecutionError.download (observes_download_within job.salt)) fun _ =>
      .pure _

end Recorded

/-! ### The calls of each command -/

/-- What the calls of each command are like. -/
def IsConfined (job : Job) : Command → List DeskEvent → Prop
  | .create, events => ∃ answer, IsCreation job events answer
  | .balance, events => ∃ answer, events = [.balance answer]
  | .update, events | .history, events => events = []
  | c, events => IsWithinRecorded job c.portsOnRecorded events

theorem leads_confined (d : Desk (StateM w)) (job : Job) (c : Command) (a : w) :
    Leads a (steps d.observed job c) fun steps _ _ =>
      IsConfined job c (steps.map (·.event)) := by
  cases c with
  | create => exact (leads_create d job a).mono fun _ _ answer _ h => ⟨answer, h⟩
  | add x => exact leads_add_within x
  | status => exact leads_status_within
  | expire => exact leads_expire_within
  | download => exact leads_download_within
  | manage => exact leads_onRecorded_within fun _ => .pure _
  | view => exact leads_onRecorded_within fun _ => .pure _
  | balance =>
    refine .bind (.attempt ExecutionError.marketplace .balance d.market.balance ?_)
    rcases d.market.balance.run a with ⟨cause | amount, b⟩
    · exact ⟨_, rfl⟩
    · exact .pure _ ⟨_, rfl⟩
  | update => exact .pure _ rfl
  | history => exact .pure _ rfl

/-- The calls of a command on the recorded task: it loads the registry first, and what else it
calls is about the task that this has for the environment. -/
theorem IsWithinRecorded.of_mem {ports : List Port} {events : List DeskEvent} {x : DeskEvent}
    (h : IsWithinRecorded job ports events) (hx : x ∈ events) :
    (∃ loaded, x = .load loaded) ∨
      ∃ known r, .load (.ok known) ∈ events.head? ∧ known.get? job.environment = some r ∧
        x.IsWithin ports r.id := by
  rcases h with ⟨loaded, rfl⟩ | ⟨known, r, later, rfl, hr, hlater⟩
  · exact Or.inl ⟨loaded, List.mem_singleton.mp hx⟩
  · rcases List.mem_cons.mp hx with rfl | hx
    · exact Or.inl ⟨_, rfl⟩
    · exact Or.inr ⟨known, r, rfl, hr, hlater x hx⟩

theorem IsCreation.port_mem {events : List DeskEvent} {answer : Except ExecutionError Report}
    (h : IsCreation job events answer) : ∀ x ∈ events, x.port ∈ Command.create.ports := by
  cases h <;> simp [DeskEvent.port, Command.ports]

theorem IsCreation.length_saves_le {events : List DeskEvent}
    {answer : Except ExecutionError Report} (h : IsCreation job events answer) :
    (events.filter DeskEvent.isSave).length ≤ 1 := by
  cases h with
  | unloaded | found | unsettled | refused => exact Nat.zero_le 1
  | unsaved | unnoted | created => exact Nat.le_refl 1

namespace IsConfined

variable {c : Command} {events : List DeskEvent} {x : DeskEvent}

theorem of_mem (h : IsConfined job c events) (hcreate : c ≠ .create) (hbalance : c ≠ .balance)
    (hx : x ∈ events) :
    (∃ loaded, x = .load loaded) ∨
      ∃ known r, .load (.ok known) ∈ events.head? ∧ known.get? job.environment = some r ∧
        x.IsWithin c.portsOnRecorded r.id := by
  cases c with
  | create => exact absurd rfl hcreate
  | balance => exact absurd rfl hbalance
  | update | history =>
    obtain rfl : events = [] := h
    cases hx
  | add | status | expire | download | manage | view => exact IsWithinRecorded.of_mem h hx

/-- A command makes all calls to its own ports. -/
theorem port_mem (h : IsConfined job c events) : ∀ x ∈ events, x.port ∈ c.ports := by
  intro x hx
  cases c with
  | create => exact h.choose_spec.port_mem x hx
  | balance =>
    obtain ⟨answer, rfl⟩ := h
    obtain rfl := List.mem_singleton.mp hx
    exact .head _
  | update | history =>
    obtain rfl : events = [] := h
    cases hx
  | add | status | expire | download | manage | view =>
    rcases IsWithinRecorded.of_mem h hx with ⟨loaded, rfl⟩ | ⟨known, r, -, -, hport, -⟩
    · exact .head _
    · exact .tail _ hport

/-- The registry is saved when a task is created, and by no other command. -/
theorem eq_create_of_isSave (h : IsConfined job c events) (hx : x ∈ events)
    (hsave : x.isSave = true) : c = .create := by
  have hport : x.port = .registry := by
    cases x <;> first | rfl | cases hsave
  by_contra hcreate
  have hbalance : c ≠ .balance := by
    rintro rfl
    have hmem := h.port_mem x hx
    rw [hport] at hmem
    simp [Command.ports] at hmem
  rcases h.of_mem hcreate hbalance hx with ⟨loaded, rfl⟩ | ⟨known, r, -, -, hwithin, -⟩
  · cases hsave
  · exact c.registry_notMem_portsOnRecorded (hport ▸ hwithin)

theorem length_saves_le (h : IsConfined job c events) :
    (events.filter DeskEvent.isSave).length ≤ 1 := by
  by_cases hc : c = .create
  · subst hc
    exact h.choose_spec.length_saves_le
  · have hnone : events.filter DeskEvent.isSave = [] :=
      List.filter_eq_nil_iff.mpr fun x hx hsave => hc (h.eq_create_of_isSave hx hsave)
    rw [hnone]
    exact Nat.zero_le 1

end IsConfined

/-- What is loaded is what the place for the registry answers in the world before the call. -/
def LoadsFrom (d : Desk (StateM w)) (step : DeskStep w) : Prop :=
  ∀ loaded, step.event = .load loaded → loaded = (d.records.load.run step.before).1

theorem observes_loadsFrom (d : Desk (StateM w)) (job : Job) (c : Command) :
    Observes (LoadsFrom d) (steps d.observed job c) (steps d job c) := by
  refine observes_steps ?_ (fun _ _ => nofun) c
  constructor
  case load => exact fun a loaded h => (DeskEvent.load.inj h).symm
  all_goals
    intros
    nofun

/-- What a command loaded first is what the registry was when it began. -/
theorem run_load_of_mem_head? {d : Desk (StateM w)} {a b : w} {steps : List (DeskStep w)}
    {loaded : Except RecordError Registry} (htrail : IsTrail a steps b)
    (hsteps : ∀ step ∈ steps, LoadsFrom d step)
    (h : .load loaded ∈ (steps.map (·.event)).head?) : (d.records.load.run a).1 = loaded := by
  cases steps with
  | nil => cases h
  | cons step steps =>
    obtain ⟨rfl, -⟩ := htrail
    exact (hsteps step List.mem_cons_self loaded (Option.some.inj h)).symm

end Execution

/-! ### What a command leaves alone -/

/-- Whether a command is the same with every marketplace: its execution at any desk, and the run of
the program for it, which asks for no credentials. -/
structure Command.IsOffline (w : Type) (c : Command) : Prop where
  run (d : Desk (StateM w)) (job : Job) (market : Marketplace (StateM w)) :
    Execution.run { d with market := market } job c = Execution.run d job c
  perform (s : Surroundings (StateM w)) (line : CommandLine) (market : Marketplace (StateM w)) :
    Program.perform s line c =
      attempt .execution
        (Execution.run (Program.desk s line market) ⟨line.environment, none, none⟩ c)

theorem Command.isOffline {c : Command} (h : c.callsMarketplace = false) : c.IsOffline w := by
  cases c with
  | create | add | status | expire | download | balance => cases h
  | update | history | manage | view => exact ⟨fun _ _ _ => rfl, fun _ _ _ => rfl⟩

/-- What the run of a command leaves alone. -/
structure KeepsToPorts (d : Desk (StateM w)) (job : Job) (c : Command)
    (run : Episode w (Except ExecutionError Report)) : Prop where
  /-- The run is the execution of the command at the desk. -/
  runs : (run.answer, run.after) = (Execution.run d job c).run run.before
  /-- Nothing but the creation of a task saves the registry. -/
  saves : ∀ step ∈ run.steps, step.event.isSave = true → c = .create
  /-- The registry is saved at most once. -/
  once : ((run.steps.map (·.event)).filter DeskEvent.isSave).length ≤ 1
  /-- Nothing but a change of a task appends to the journal. -/
  journal : ∀ step ∈ run.steps, step.event.port = .journal →
    c = .create ∨ (∃ x, c = .add x) ∨ c = .expire
  /-- Nothing but a download lists or puts results. -/
  results : ∀ step ∈ run.steps, step.event.port = .results → c = .download
  /-- The marketplace is called by the commands that are said to call it. -/
  market : ∀ step ∈ run.steps, step.event.port = .market → c.callsMarketplace = true
  /-- Unless a task is created or the balance is asked for, the marketplace is called about the
  task that was recorded for the environment, and about no other. -/
  recorded : c ≠ .create → c ≠ .balance → ∀ step ∈ run.steps, step.event.port = .market →
    ∃ known r, (d.records.load.run run.before).1 = .ok known ∧
      known.get? job.environment = some r ∧ step.event.task? = some r.id

/-- Every command keeps to its ports, whatever these answer, and one that is not said to call the
marketplace is the same with every marketplace. -/
theorem keeps_to_ports (d : Desk (StateM w)) (job : Job) (c : Command) (a : w) :
    KeepsToPorts d job c (episode (Execution.run d.observed job c) a) ∧
      (c.callsMarketplace = false → c.IsOffline w) := by
  refine ⟨?_, Command.isOffline⟩
  have hobserves := Execution.observes_loadsFrom d job c
  obtain ⟨-, -, hloads⟩ := (hobserves a).episode
  obtain ⟨htrail, hconfined⟩ := (Execution.leads_confined d job c a).episode
  have hport {step} (hstep) := hconfined.port_mem _ (List.mem_map_of_mem (a := step) hstep)
  refine
    { runs := hobserves.episode a
      saves := fun step hstep => hconfined.eq_create_of_isSave (List.mem_map_of_mem hstep)
      once := hconfined.length_saves_le
      journal := fun step hstep h => Command.journal_mem_ports (h ▸ hport hstep)
      results := fun step hstep h => Command.results_mem_ports (h ▸ hport hstep)
      market := fun step hstep h => Command.market_mem_ports.mp (h ▸ hport hstep)
      recorded := fun hcreate hbalance step hstep h => ?_ }
  rcases hconfined.of_mem hcreate hbalance (List.mem_map_of_mem hstep) with
    ⟨loaded, hload⟩ | ⟨known, r, hhead, hr, -, htask⟩
  · rw [hload] at h
    cases h
  · exact ⟨known, r, Execution.run_load_of_mem_head? htrail hloads hhead, hr, htask h⟩

end CrowdTask
