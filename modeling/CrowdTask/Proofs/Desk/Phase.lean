import CrowdTask.Proofs.Desk.Expiry
import CrowdTask.Proofs.Duration.Canonical

/-!
# The phase of a task and the end of its lifetime

The phase of a task is reckoned from the whole seconds that are left of its lifetime, and so is the
line of a report that tells how much time remains. A marketplace looks at the instant itself. So a
task is shown as expired once its lifetime is over, and already during the last second of it, while
the marketplace still calls the task assignable; at all other times the two agree.

## Main definitions

* `CrowdTask.TaskStatus.InLastSecond`: the time in which no whole second of a lifetime is left.
* `CrowdTask.Report.TellsExpired`: the texts of a status that say that no time remains.
* `CrowdTask.LocalVisit.IsCurrent`: the steps whose answer tells whether the task is over by then.

## Main results

* `CrowdTask.TaskStatus.phase_eq_expired_iff`: when a task is shown as expired.
* `CrowdTask.Report.tellsExpired_statusText`: when the text says so.
* `CrowdTask.phase_of_lifetime`: both, and how the phase goes with what a local marketplace reports.
* `CrowdTask.expired_while_assignable`: a task that is shown as expired before its end.
-/

namespace CrowdTask

/-! ### Whole seconds -/

/-- No whole second is left if the end is less than a second away. -/
theorem Instant.secondsUntil_nonpos_iff {now t : Instant} :
    now.secondsUntil t ≤ 0 ↔ t < now.plusSeconds 1 := by
  constructor
  · intro h
    by_contra hlt
    exact absurd (one_le_secondsUntil (Int.not_lt.mp hlt)) (Int.not_le.mpr (Int.lt_add_one_of_le h))
  · intro h
    by_cases hover : t ≤ now
    · exact secondsUntil_nonpos hover
    · have hleft : 0 ≤ t.nanos - now.nanos :=
        Int.sub_nonneg_of_le (Int.le_of_lt (Int.not_le.mp hover))
      have hsecond : t.nanos - now.nanos < second := Int.sub_left_lt_of_lt_add (by
        simpa [plusSeconds] using (show t.nanos < (now.plusSeconds 1).nanos from h))
      rw [secondsUntil, Int.tdiv_eq_ediv_of_nonneg hleft, Int.ediv_eq_zero_of_lt hleft hsecond]

namespace TaskStatus

variable {s : TaskStatus} {now : Instant}

/-- Whether a task is in the last second of its lifetime, the end of which is still to come. -/
def InLastSecond (s : TaskStatus) (now : Instant) : Prop :=
  now < s.expiresAt ∧ s.expiresAt < now.plusSeconds 1

instance : Decidable (s.InLastSecond now) :=
  inferInstanceAs (Decidable (now < s.expiresAt ∧ s.expiresAt < now.plusSeconds 1))

/-- No whole second is left of a lifetime that is over, and of one in its last second. -/
theorem secondsLeft_nonpos_iff :
    s.secondsLeft now ≤ 0 ↔ s.expiresAt ≤ now ∨ s.InLastSecond now := by
  rw [secondsLeft, Instant.secondsUntil_nonpos_iff, InLastSecond]
  constructor
  · intro h
    by_cases hover : s.expiresAt ≤ now
    · exact .inl hover
    · exact .inr ⟨Int.not_le.mp hover, h⟩
  · rintro (hover | ⟨-, h⟩)
    · exact Int.lt_of_le_of_lt hover (Int.lt_add_of_pos_right _ (by decide))
    · exact h

theorem phase_eq_expired_iff :
    s.phase now = .expired ↔ s.expiresAt ≤ now ∨ s.InLastSecond now ∨ s.state = disposed := by
  rw [phase, ← or_assoc, ← secondsLeft_nonpos_iff]
  split_ifs with h
  · exact iff_of_true rfl h
  · exact iff_of_false (fun hphase => by cases hphase) h

theorem phase_eq_active_iff :
    s.phase now = .active ↔
      now < s.expiresAt ∧ ¬s.InLastSecond now ∧ s.state ≠ disposed := by
  have hphase : s.phase now = .active ↔ s.phase now ≠ .expired := by
    cases s.phase now <;> decide
  rw [hphase, ne_eq, phase_eq_expired_iff, not_or, not_or]
  exact and_congr_left fun _ => Int.not_le

end TaskStatus

/-! ### The text of a status -/

namespace Report

/-- Whether the text of a status ends with the line for a task without time, and the line for its
end. -/
def TellsExpired (text : String) (expiresAt : Instant) : Prop :=
  ("\nTime remaining: Expired\nExpires at: " ++ expiresAt.reportStamp).toList <:+ text.toList

/-- The end of the text of a status: the time that remains, and the end of the task. -/
theorem exists_toList_statusText (e : Environment) (s : TaskStatus) (phase : TaskPhase)
    (remaining : Int) :
    ∃ begin : List Char, (statusText e s phase remaining).toList =
      (begin ++ "\nTime remaining: ".toList ++ (remainingText remaining).toList) ++
        ("\nExpires at: " ++ s.expiresAt.reportStamp).toList := by
  refine ⟨(lines ["HIT " ++ s.id.text ++ " (" ++ e.name ++ ")",
      "Status: " ++ s.state ++ " (" ++ phase.word ++ ")",
      "Assignments: " ++ toString s.maxAssignments.toNat ++ " total, " ++
        toString s.available.toNat ++ " available, " ++ toString s.pending.toNat ++
        " pending, " ++ toString s.completed.toNat ++ " completed"]).toList, ?_⟩
  simp [statusText, lines, String.intercalate_cons_cons, String.intercalate_singleton]

/-- There are no capitals in a positive amount of time, so it is not taken for the word that stands
in its place. -/
theorem not_expired_suffix {begin rest : List Char} (hrest : Text.IsSmall rest) :
    ¬"\nTime remaining: Expired".toList <:+ begin ++ "\nTime remaining: ".toList ++ rest := by
  intro h
  have hword : "Expired".toList <:+ begin ++ "\nTime remaining: ".toList ++ rest :=
    List.IsSuffix.trans ⟨"\nTime remaining: ".toList, by decide⟩ h
  have hsmall : Text.IsSmall ("ime remaining: ".toList ++ rest) :=
    List.forall_mem_append.mpr ⟨by decide, hrest⟩
  have hend : "ime remaining: ".toList ++ rest <:+ begin ++ "\nTime remaining: ".toList ++ rest :=
    ⟨begin ++ "\nT".toList, by simp⟩
  have hlength : "Expired".toList.length ≤ ("ime remaining: ".toList ++ rest).length := by
    rw [List.length_append]
    exact Nat.le_trans (by decide) (Nat.le_add_right _ _)
  have hcapital : 'E' ∈ "ime remaining: ".toList ++ rest :=
    (List.suffix_of_suffix_length_le hword hend hlength).subset (by decide)
  exact absurd (hsmall 'E' hcapital).2 (by decide)

/-- The text says that no time remains if no whole second does. -/
theorem tellsExpired_statusText (e : Environment) (s : TaskStatus) (phase : TaskPhase)
    (remaining : Int) :
    TellsExpired (statusText e s phase remaining) s.expiresAt ↔ remaining ≤ 0 := by
  obtain ⟨begin, htext⟩ := exists_toList_statusText e s phase remaining
  have hline : ("\nTime remaining: Expired\nExpires at: " ++ s.expiresAt.reportStamp).toList =
      "\nTime remaining: Expired".toList ++
        ("\nExpires at: " ++ s.expiresAt.reportStamp).toList := by
    simp
  rw [TellsExpired, htext, hline, List.suffix_append_self_iff, remainingText]
  split_ifs with h
  · refine iff_of_false ?_ (Int.not_le.mpr h)
    refine not_expired_suffix ?_
    rw [Duration.format, String.toList_ofList]
    exact Duration.isSmall_formatChars _
  · refine iff_of_true ⟨begin, ?_⟩ (Int.not_lt.mp h)
    simp

end Report

/-! ### The state that a local marketplace reports -/

namespace LocalMarket

/-- A status tells whether the task is over at the time of the call. -/
theorem ends_status (now : Instant) (id : TaskId) (m : LocalMarket) :
    Ends m (status now id) fun r _ => ∀ s, r = .ok s →
      s.state = if now < s.expiresAt then "Assignable" else "Reviewable" := by
  refine ends_receive_bind nofun (ends_requireTask_bind nofun fun h _ => ?_)
  rintro _ ⟨⟩
  rfl

end LocalMarket

variable {ρ : Type} {p : RecordPlace}

/-- A status that is asked for at the time of the clock tells whether the task is over by then. -/
theorem Scene.state_of_status (pace : StateM ρ Interlude) (cause : LocalFault → MarketError)
    (id : TaskId) (a : Scene ρ) {s : TaskStatus}
    (h : ((do onMarket cause (LocalMarket.status (← tick pace) id)).run a).1 = .ok s) :
    s.state =
      if ((do onMarket cause (LocalMarket.status (← tick pace) id)).run a).2.now < s.expiresAt then
        "Assignable" else "Reviewable" := by
  obtain ⟨b, hrun, -, -⟩ := run_tick pace a
  have hcall : (do onMarket cause (LocalMarket.status (← tick pace) id)).run a =
      (onMarket cause (LocalMarket.status ((tick pace).run a).1 id)).run
        ((tick pace).run a).2 := rfl
  rw [hcall, hrun] at h ⊢
  have hstatus := LocalMarket.ends_status b.now id b.market
  rw [Ends] at hstatus
  change (outcome (LocalMarket.status b.now id) b.market).1.mapError cause = .ok s at h
  rcases houtcome : (outcome (LocalMarket.status b.now id) b.market).1 with e | t
  · rw [houtcome] at h
    cases h
  · rw [houtcome] at h
    obtain rfl := Except.ok.inj h
    exact hstatus t houtcome

namespace LocalVisit

/-- Whether a step that answers with a status tells by it whether the task is over by then. -/
def IsCurrent (step : DeskStep (Workplace p (Scene ρ))) : Prop :=
  ∀ id s, step.event = .status id (.ok s) →
    s.state = if step.after.outside.now < s.expiresAt then "Assignable" else "Reviewable"

theorem keeps_isCurrent (v : LocalVisit ρ) : (v.visit.desk p).Keeps IsCurrent where
  load _ := nofun
  ids _ := nofun
  put _ _ := nofun
  append _ _ := nofun
  create _ _ := nofun
  addAssignments _ _ _ := nofun
  extend _ _ _ := nofun
  expire _ _ := nofun
  status id a := by
    intro _ s hevent
    exact Scene.state_of_status v.pace _ id a.outside (DeskEvent.status.inj hevent).2
  page _ _ _ _ := nofun
  balance _ := nofun
  clock _ := nofun

/-- A status that is reported tells by its state whether the task was over when it was asked for,
and by its phase whether it is over when the clock is read after that. -/
theorem state_and_phase_of_reports (v : LocalVisit ρ) (a : Workplace p (Scene ρ)) {s : TaskStatus}
    {now : Instant} {phase : TaskPhase} {left : Int}
    (h : (episode (v.run p) a).Reports s now phase left) :
    ∃ step ∈ (episode (v.run p) a).steps, step.event = .status s.id (.ok s) ∧
      step.after.outside.now ≤ now ∧
        (s.state = if step.after.outside.now < s.expiresAt then "Assignable" else "Reviewable") ∧
          phase = s.phase now := by
  have hv := v.isTimed_run a
  have hsteps : Observes IsCurrent (Execution.steps (v.visit.desk p).observed v.job v.command)
      (Execution.steps (v.visit.desk p) v.job v.command) :=
    Execution.observes_steps v.keeps_isCurrent (fun _ _ => nofun) v.command
  have hcurrent : ∀ step ∈ (episode (v.run p) a).steps, IsCurrent step := (hsteps a).episode.2.2
  obtain ⟨⟨environment, hanswer⟩, hnow⟩ := h
  obtain ⟨known, r, now', hevents, -, hphase, -⟩ := hv.times.status _ _ _ _ hanswer
  obtain rfl : now = now' := by simpa [hevents] using hnow
  generalize episode (v.run p) a = e at hv hcurrent hevents
  obtain ⟨before, answer, steps, after⟩ := e
  obtain ⟨s₁, rest₁, rfl, h₁, hrest⟩ := List.map_eq_cons_iff.mp hevents
  obtain ⟨s₂, rest₂, rfl, h₂, hrest⟩ := List.map_eq_cons_iff.mp hrest
  obtain ⟨s₃, rest₃, rfl, h₃, hrest⟩ := List.map_eq_cons_iff.mp hrest
  obtain rfl := List.map_eq_nil_iff.mp hrest
  obtain ⟨-, -, t₃, rfl⟩ := hv.trail
  have hstatus := hv.timely s₂ (.tail _ (.head _))
  have hclock := hv.timely s₃ (.tail _ (.tail _ (.head _)))
  rw [IsTimely, h₂] at hstatus
  rw [IsTimely, h₃, t₃] at hclock
  obtain ⟨hid, -, -⟩ := hstatus.effect.answered
  refine ⟨s₂, .tail _ (.head _), by rw [h₂, hid], ?_, hcurrent s₂ (.tail _ (.head _)) _ s h₂,
    hphase⟩
  rw [← hclock.time now rfl]
  exact hclock.clock

end LocalVisit

/-! ### The phase of a task -/

/-- What a status that was answered at the time `asked` and reported at the time `now` shows of the
lifetime of a task. -/
structure TaskStatus.ShowsLifetime (s : TaskStatus) (asked now : Instant) (shown : TaskPhase) :
    Prop where
  later : asked ≤ now
  /-- The task is assignable until its lifetime is over. -/
  state : s.state = "Assignable" ↔ asked < s.expiresAt
  /-- The task is active until the last second of its lifetime. -/
  phase : shown = .active ↔ now < s.expiresAt ∧ ¬s.InLastSecond now
  /-- So the state and the phase agree at any other time, if the clock stands still meanwhile. -/
  agree : asked = now → (shown = .active ↔ s.state = "Assignable" ∧ ¬s.InLastSecond now)

theorem TaskStatus.showsLifetime {s : TaskStatus} {asked now : Instant} (hle : asked ≤ now)
    (hstate : s.state = if asked < s.expiresAt then "Assignable" else "Reviewable") :
    s.ShowsLifetime asked now (s.phase now) := by
  have hassignable : s.state = "Assignable" ↔ asked < s.expiresAt := by
    rw [hstate]
    split_ifs with h
    · exact iff_of_true rfl h
    · exact iff_of_false (by decide) h
  have hphase : s.phase now = .active ↔ now < s.expiresAt ∧ ¬s.InLastSecond now := by
    have hdisposed : s.state ≠ disposed := by
      rw [hstate]
      split_ifs <;> decide
    rw [phase_eq_active_iff, and_iff_left hdisposed]
  refine ⟨hle, hassignable, hphase, ?_⟩
  rintro rfl
  rw [hphase, hassignable]

/-- **The phase of a task and the end of its lifetime.** A task is shown as expired when its
lifetime is over, in the last second of it, and when it was disposed of; the text says that no time
remains in the first two cases. What a local marketplace reports of a task is assignable until its
lifetime is over, and active until the last second of it. -/
theorem phase_of_lifetime (s : TaskStatus) (now : Instant) :
    (s.phase now = .expired ↔
      s.expiresAt ≤ now ∨ s.InLastSecond now ∨ s.state = TaskStatus.disposed) ∧
    (∀ e, Report.TellsExpired (Report.status e s (s.phase now) (s.secondsLeft now)).text
      s.expiresAt ↔ s.expiresAt ≤ now ∨ s.InLastSecond now) ∧
    ∀ (p : RecordPlace) (ρ : Type) (v : LocalVisit ρ) (a : Workplace p (Scene ρ))
      (phase : TaskPhase) (left : Int),
      (episode (v.run p) a).Reports s now phase left →
        ∃ step ∈ (episode (v.run p) a).steps, step.event = .status s.id (.ok s) ∧
          s.ShowsLifetime step.after.outside.now now phase := by
  refine ⟨TaskStatus.phase_eq_expired_iff, fun e => ?_, ?_⟩
  · exact (Report.tellsExpired_statusText e s _ _).trans TaskStatus.secondsLeft_nonpos_iff
  · intro p ρ v a phase left h
    obtain ⟨step, hstep, hevent, hle, hstate, rfl⟩ := v.state_and_phase_of_reports a h
    exact ⟨step, hstep, hevent, TaskStatus.showsLifetime hle hstate⟩

/-- The status of the task a minute after the time began. -/
def statusOfMinute : TaskStatus :=
  ⟨firstTask, "Assignable", 20, 20, 0, 0, ⟨500000000⟩, ⟨60500000000⟩⟩

/-- A desk at which the task is recorded, most of a minute after the time began. -/
def deskOfMinute : Workplace .memory (Scene Unit) :=
  ⟨.holding registryOfMinute, marketOfMinute, ⟨59000000000⟩, ()⟩

theorem phase_of_lifetime_of_minute :
    (episode ((LocalVisit.slowly .sandbox .status).run .memory) deskOfMinute).Reports statusOfMinute
        ⟨60000000000⟩ .expired 0 ∧
      ∃ step ∈ (episode ((LocalVisit.slowly .sandbox .status).run .memory) deskOfMinute).steps,
        step.event = .status firstTask (.ok statusOfMinute) ∧
          statusOfMinute.ShowsLifetime step.after.outside.now ⟨60000000000⟩ .expired := by
  have hreports :
      (episode ((LocalVisit.slowly .sandbox .status).run .memory) deskOfMinute).Reports
        statusOfMinute ⟨60000000000⟩ .expired 0 :=
    ⟨⟨.sandbox, rfl⟩, .tail _ (.tail _ (.head _))⟩
  exact ⟨hreports, (phase_of_lifetime statusOfMinute ⟨60000000000⟩).2.2 _ _ _ _ _ _ hreports⟩

/-- A task is assignable and shown as expired, half a second before its lifetime is over. -/
theorem expired_while_assignable :
    (outcome (LocalMarket.status ⟨60000000000⟩ firstTask) marketOfMinute).1 = .ok statusOfMinute ∧
      Instant.mk 60000000000 < statusOfMinute.expiresAt ∧ statusOfMinute.state = "Assignable" ∧
        statusOfMinute.phase ⟨60000000000⟩ = .expired ∧
          Report.TellsExpired
            (Report.status .sandbox statusOfMinute .expired
              (statusOfMinute.secondsLeft ⟨60000000000⟩)).text statusOfMinute.expiresAt := by
  refine ⟨rfl, by decide, rfl, by decide, ?_⟩
  exact (Report.tellsExpired_statusText .sandbox statusOfMinute .expired _).mpr (by decide)

end CrowdTask
