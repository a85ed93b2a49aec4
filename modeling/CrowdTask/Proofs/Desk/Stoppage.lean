import CrowdTask.Execution
import CrowdTask.Proofs.Marketplace.CalendarEnd
import CrowdTask.Store.Memory

/-!
# Commands that stop the program

A local marketplace stops the program when an instant is not in the calendar. A run that is stopped
makes no further calls and has no answer. A command that adds to a task makes just one call that can
do this, the extension; so it is stopped exactly when it comes to an extension that the calendar
does not allow.

## Main definitions

* `CrowdTask.ending`, `CrowdTask.Stops`: how a run ends that may be stopped, and whether it is.
* `CrowdTask.Lasts`: the runs that are never stopped.
* `CrowdTask.LocalPorts`: what commands are executed with beside a local marketplace.
* `CrowdTask.Execution.beforeTime`: the part of an addition that comes before the extension.

## Main results

* `CrowdTask.stops_bind_iff`: when a run in two parts is stopped.
* `CrowdTask.Execution.stops_add_iff`: when an addition is stopped.
* `CrowdTask.extensions_end`: how extensions end, and which additions are stopped by them.
-/

namespace CrowdTask

variable {s α β ε : Type}

/-! ### Runs that may be stopped -/

/-- How a run ends that may be stopped: with an answer, unless it is, and in some state. -/
def ending (x : OptionT (StateM s) α) (a : s) : Option α × s := x.run.run a

/-- Whether a run that begins in the state `a` is stopped. -/
def Stops (x : OptionT (StateM s) α) (a : s) : Prop := (ending x a).1 = none

theorem ending_bind (x : OptionT (StateM s) α) (f : α → OptionT (StateM s) β) (a : s) :
    ending (x >>= f) a =
      (ending x a).1.elim (none, (ending x a).2) fun v => ending (f v) (ending x a).2 := by
  rw [ending, OptionT.run_bind]
  change ((ending x a).1.elim (pure none) fun v => (f v).run).run (ending x a).2 = _
  rcases ending x a with ⟨_ | v, b⟩
  · rfl
  · rfl

/-- A run in two parts is stopped in the first one, or in the second one if it comes to it. -/
theorem stops_bind_iff {x : OptionT (StateM s) α} {f : α → OptionT (StateM s) β} {a : s} :
    Stops (x >>= f) a ↔ Stops x a ∨ ∃ v b, ending x a = (some v, b) ∧ Stops (f v) b := by
  rw [Stops, Stops, ending_bind]
  rcases ending x a with ⟨_ | v, b⟩
  · exact iff_of_true rfl (.inl rfl)
  · refine ⟨fun h => .inr ⟨v, b, rfl, h⟩, ?_⟩
    rintro (h | ⟨_, _, ⟨⟩, h⟩)
    · cases h
    · exact h

theorem not_stops_pure (v : α) (a : s) : ¬Stops (pure v : OptionT (StateM s) α) a := nofun

/-- A run that may also fail goes on after its first part unless that failed. -/
theorem stops_run_bind_iff {x : ExceptT ε (OptionT (StateM s)) α}
    {f : α → ExceptT ε (OptionT (StateM s)) β} {a : s} :
    Stops (x >>= f).run a ↔
      Stops x.run a ∨ ∃ v b, ending x.run a = (some (.ok v), b) ∧ Stops (f v).run b := by
  have hbind : (x >>= f).run = x.run >>= ExceptT.bindCont f := rfl
  rw [hbind, stops_bind_iff]
  refine or_congr_right ⟨?_, fun ⟨v, b, h, hstops⟩ => ⟨.ok v, b, h, hstops⟩⟩
  rintro ⟨e | v, b, h, hstops⟩
  · exact absurd hstops (not_stops_pure _ b)
  · exact ⟨v, b, h, hstops⟩

/-- A call as a step that may fail for a cause of another kind. -/
theorem stops_attempt_iff {ε' : Type} (cause : ε' → ε) {call : OptionT (StateM s) (Except ε' α)}
    {a : s} : Stops (attempt cause call).run a ↔ Stops call a := by
  have hrun : (attempt cause call).run = call >>= fun r => pure (r.mapError cause) := rfl
  rw [hrun, stops_bind_iff]
  refine or_iff_left ?_
  rintro ⟨r, b, -, hstops⟩
  exact not_stops_pure _ b hstops

/-- Whether a run is never stopped. -/
def Lasts (x : ExceptT ε (OptionT (StateM s)) α) : Prop := ∀ a, ¬Stops x.run a

namespace Lasts

theorem pure (v : α) : Lasts (Pure.pure v : ExceptT ε (OptionT (StateM s)) α) := fun _ => nofun

theorem throw (e : ε) : Lasts (MonadExcept.throw e : ExceptT ε (OptionT (StateM s)) α) :=
  fun _ => nofun

theorem bind {x : ExceptT ε (OptionT (StateM s)) α} {f : α → ExceptT ε (OptionT (StateM s)) β}
    (hx : Lasts x) (hf : ∀ v, Lasts (f v)) : Lasts (x >>= f) := by
  intro a hstops
  rcases stops_run_bind_iff.mp hstops with hstops | ⟨v, b, -, hstops⟩
  · exact hx a hstops
  · exact hf v b hstops

theorem attempt {ε' : Type} (cause : ε' → ε) {call : OptionT (StateM s) (Except ε' α)}
    (h : ∀ a, ¬Stops call a) : Lasts (CrowdTask.attempt cause call) :=
  fun a hstops => h a ((stops_attempt_iff cause).mp hstops)

theorem lift (x : StateM s α) :
    Lasts (MonadLift.monadLift (OptionT.lift x : OptionT (StateM s) α) :
      ExceptT ε (OptionT (StateM s)) α) := fun _ => nofun

end Lasts

/-! ### Commands at a desk with a local marketplace -/

/-- What comes of a call to a local marketplace: there is no answer if it stops the program. -/
def LocalFault.answer? : Except LocalFault α → Option (Except MarketError α)
  | .ok v => some (.ok v)
  | .error (.refused cause) => some (.error cause)
  | .error .beyondCalendar => none

theorem LocalFault.answer?_eq_none_iff {r : Except LocalFault α} :
    answer? r = none ↔ r = .error .beyondCalendar := by
  rcases r with (cause | _) | v <;> simp [answer?]

variable {ρ : Type}

/-- A call to the marketplace, which may stop the program. -/
def Scene.orStop (x : LocalStep α) : OptionT (StateM (Scene ρ)) (Except MarketError α) :=
  OptionT.mk fun a =>
    let r := outcome x a.market
    (LocalFault.answer? r.1, { a with market := r.2 })

theorem Scene.stops_orStop_iff {x : LocalStep α} {a : Scene ρ} :
    Stops (orStop x) a ↔ (outcome x a.market).1 = .error .beyondCalendar :=
  LocalFault.answer?_eq_none_iff

/-- What commands are executed with beside a local marketplace: places for the registry, the results
and the journal, and what happens before each look at the clock. -/
structure LocalPorts (ρ : Type) where
  records : RecordStore (StateM ρ)
  results : ResultStore (StateM ρ)
  journal : Journal (StateM ρ)
  pace : StateM ρ Interlude

/-- The desk with these ports and the marketplace of the scene. -/
def LocalPorts.desk (q : LocalPorts ρ) : Desk (OptionT (StateM (Scene ρ))) where
  records :=
    { load := .lift (Scene.onRest q.records.load)
      save := fun known => .lift (Scene.onRest (q.records.save known)) }
  results :=
    { ids := .lift (Scene.onRest q.results.ids)
      put := fun r => .lift (Scene.onRest (q.results.put r)) }
  journal := { append := fun entry => .lift (Scene.onRest (q.journal.append entry)) }
  market := LocalMarket.marketplace (.lift (Scene.tick q.pace)) Scene.orStop
  clock := .lift (Scene.tick q.pace)

theorem LocalMarket.outcome_addAssignments_ne (id : TaskId) (n : UInt32) (m : LocalMarket) :
    (outcome (addAssignments id n) m).1 ≠ .error .beyondCalendar := by
  rcases hfailure : m.failure with _ | cause
  · have hreceive : outcome (receive (.addAssignments id n)) m =
        (.ok (), m.noting (.addAssignments id n)) := outcome_receive_of_none hfailure _
    rw [addAssignments, outcome_bind_of_ok _ hreceive]
    rcases hh : m.task? id with _ | h
    · have htask : (m.noting (.addAssignments id n)).task? id = none := hh
      rw [outcome_bind_of_error _ (outcome_requireTask_of_none htask)]
      nofun
    · have htask : (m.noting (.addAssignments id n)).task? id = some h := hh
      rw [outcome_bind_of_ok _ (outcome_requireTask htask)]
      nofun
  · rw [addAssignments, outcome_bind_of_error _ (outcome_receive_of_some hfailure _)]
    nofun

namespace Execution

section Monad

variable {m : Type → Type} [Monad m] (d : Desk m) (job : Job)

/-- The part of an addition that comes before the extension: the record of the task, to which
assignments are added. -/
def beforeTime (x : Addition) : ExceptT ExecutionError m TaskRecord := do
  let r ← recorded d job
  match x.count? with
  | none => return r
  | some n => do
    addAssignments d r.id n
    return r

/-- An addition is extended last. -/
theorem add_eq [LawfulMonad m] (x : Addition) :
    add d job x = (do
      let r ← beforeTime d job x
      match x.seconds? with
      | none => return .extended r.id x.count? none none
      | some n => do
        let t ← addTime d r.id n
        return .extended r.id x.count? (some n) (some t)) := by
  cases x <;> simp [add, beforeTime, Addition.count?, Addition.seconds?]

end Monad

variable (q : LocalPorts ρ) {job : Job}

theorem lasts_note (change : Change) (data : Json) : Lasts (note q.desk change data) :=
  .bind (.lift (Scene.tick q.pace)) fun _ => .attempt ExecutionError.journal fun _ => nofun

theorem lasts_recorded : Lasts (recorded q.desk job) := by
  refine .bind (.attempt ExecutionError.records fun _ => nofun) fun known => ?_
  cases known.get? job.environment with
  | none => exact .throw _
  | some r => exact .pure r

theorem lasts_beforeTime (x : Addition) : Lasts (beforeTime q.desk job x) := by
  refine .bind (lasts_recorded q) fun r => ?_
  cases x.count? with
  | none => exact .pure r
  | some n =>
    refine .bind (.bind (.attempt ExecutionError.marketplace fun a hstops => ?_)
      fun _ => lasts_note q _ _) fun _ => .pure r
    exact LocalMarket.outcome_addAssignments_ne r.id n a.market (Scene.stops_orStop_iff.mp hstops)

/-- Adding time is stopped by the extension alone. -/
theorem stops_addTime_bind_iff {id : TaskId} {n : UInt64} {a : Scene ρ}
    {f : Instant → ExceptT ExecutionError (OptionT (StateM (Scene ρ))) α} (hf : ∀ t, Lasts (f t)) :
    Stops (addTime q.desk id n >>= f).run a ↔ Stops (q.desk.market.extend id n) a := by
  have hrest (t : Instant) : Lasts (do
      note q.desk .addTime (timeData id n t)
      return t) := (lasts_note q _ _).bind fun _ => .pure t
  rw [stops_run_bind_iff, addTime, stops_run_bind_iff, stops_attempt_iff]
  constructor
  · rintro ((hstops | ⟨t, b, -, hstops⟩) | ⟨t, b, -, hstops⟩)
    · exact hstops
    · exact absurd hstops (hrest t b)
    · exact absurd hstops (hf t b)
  · exact fun hstops => .inl (.inl hstops)

/-- An extension is made at the time of the clock. -/
theorem stops_extend_iff {id : TaskId} {n : UInt64} {a : Scene ρ} :
    Stops (q.desk.market.extend id n) a ↔
      ∃ b : Scene ρ, (Scene.tick q.pace).run a = (b.now, b) ∧
        (outcome (LocalMarket.extend b.now id n) b.market).1 = .error .beyondCalendar := by
  have hcall : Stops (q.desk.market.extend id n) a ↔
      Stops (Scene.orStop (LocalMarket.extend ((Scene.tick q.pace).run a).1 id n))
        ((Scene.tick q.pace).run a).2 := Iff.rfl
  obtain ⟨b, hrun, -, -⟩ := Scene.run_tick q.pace a
  rw [hcall, hrun, Scene.stops_orStop_iff]
  refine ⟨fun h => ⟨b, rfl, h⟩, ?_⟩
  rintro ⟨c, hc, h⟩
  obtain rfl : b = c := congrArg Prod.snd hc
  exact h

/-- An addition is stopped if it comes to an extension that is. -/
theorem stops_add_iff {x : Addition} {a : Scene ρ} :
    Stops (run q.desk job (.add x)) a ↔
      ∃ r b n, ending (beforeTime q.desk job x).run a = (some (.ok r), b) ∧ x.seconds? = some n ∧
        Stops (q.desk.market.extend r.id n) b := by
  have hrun : run q.desk job (.add x) = (add q.desk job x).run := rfl
  rw [hrun, add_eq, stops_run_bind_iff, or_iff_right (lasts_beforeTime q x a)]
  refine exists_congr fun r => exists_congr fun b => ?_
  rcases x.seconds? with _ | n
  · exact iff_of_false (fun h => not_stops_pure _ b h.2) (by simp)
  · have htime : Stops (addTime q.desk r.id n >>= fun t =>
        pure (Report.extended r.id x.count? (some n) (some t))).run b ↔
          Stops (q.desk.market.extend r.id n) b :=
      stops_addTime_bind_iff q fun _ => .pure _
    exact (and_congr_right fun _ => htime).trans (by simp)

end Execution

/-! ### Extensions -/

/-- **Extensions end in order, unless the calendar ends.** In every state of a local marketplace
that is reached, an extension of a task is refused, or lets the task expire later, or stops the
program since the calendar does not cover the new end. An addition is stopped if and only if it
comes to an extension that is. -/
theorem extensions_end (m : LocalMarket) (now : Instant) (id : TaskId) (n : UInt64) :
    (m.Reachable → ∀ h, m.task? id = some h →
      LocalMarket.ExtensionEnds m id h now n (outcome (LocalMarket.extend now id n) m)) ∧
    ∀ (ρ : Type) (q : LocalPorts ρ) (job : Job) (x : Addition) (a : Scene ρ),
      Stops (Execution.run q.desk job (.add x)) a ↔
        ∃ r b c n, ending (Execution.beforeTime q.desk job x).run a = (some (.ok r), b) ∧
          x.seconds? = some n ∧ (Scene.tick q.pace).run b = (c.now, c) ∧
            (outcome (LocalMarket.extend c.now r.id n) c.market).1 = .error .beyondCalendar := by
  refine ⟨fun hm h hh => hm.extensionEnds hh now n, fun ρ q job x a => ?_⟩
  rw [Execution.stops_add_iff]
  refine exists_congr fun r => exists_congr fun b => ?_
  rw [exists_comm]
  refine exists_congr fun n => ?_
  rw [Execution.stops_extend_iff]
  simp only [exists_and_left]

/-- The task that lives for a minute, as it is hosted. -/
def hostedMinute : HostedTask := ⟨minuteTask, 20, ⟨500000000⟩, ⟨60500000000⟩, []⟩

theorem reachable_marketOfMinute : marketOfMinute.Reachable :=
  .call .empty (by decide) (.create minuteTask)

theorem extensions_end_of_minute :
    marketOfMinute.Reachable ∧ marketOfMinute.task? firstTask = some hostedMinute ∧
      LocalMarket.ExtensionEnds marketOfMinute firstTask hostedMinute ⟨60000000000⟩ 60
        (outcome (LocalMarket.extend ⟨60000000000⟩ firstTask 60) marketOfMinute) :=
  ⟨reachable_marketOfMinute, rfl,
    (extensions_end marketOfMinute _ _ _).1 reachable_marketOfMinute _ rfl⟩

/-- A registry in memory, with results and a journal that never fail. -/
def portsOfMinute : LocalPorts MemoryRecords where
  records := MemoryRecords.store id
  results := ⟨pure (.ok []), fun _ => pure (.ok ())⟩
  journal := ⟨fun _ => pure (.ok ())⟩
  pace := pure ⟨0, []⟩

/-- The calendar does not cover an end that is nine trillion seconds away. The command line for it
is accepted, and stops the program. -/
theorem addition_stops :
    Command.parse "add 9000000000000 seconds" = .ok (.add (.time 9000000000000)) ∧
      marketOfMinute.Reachable ∧
        (outcome (LocalMarket.extend ⟨60000000000⟩ firstTask 9000000000000) marketOfMinute).1 =
            .error .beyondCalendar ∧
          Stops (Execution.run portsOfMinute.desk ⟨.sandbox, none, none⟩
            (.add (.time 9000000000000)))
              ⟨marketOfMinute, ⟨60000000000⟩, .holding registryOfMinute⟩ :=
  ⟨by decide +kernel, reachable_marketOfMinute, by decide +kernel, by rfl⟩

end CrowdTask
