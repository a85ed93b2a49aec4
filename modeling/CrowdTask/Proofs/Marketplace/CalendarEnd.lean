import CrowdTask.Proofs.Marketplace.Connection
import CrowdTask.Proofs.Marketplace.Hosting

/-!
# Extensions and the end of the calendar

A local marketplace lets its tasks expire at instants that the calendar covers, whatever is called
and whatever happens to it, as long as the clock shows such instants. An extension by a span that
is too long is refused. One by a shorter span is carried out if the calendar still covers the new
end of the task; otherwise the program is stopped, and no task has changed.

## Main definitions

* `CrowdTask.LocalMarket.Reachable`: a local marketplace as calls and other events leave it.
* `CrowdTask.LocalMarket.InCalendar`: that all tasks expire within the calendar.
* `CrowdTask.LocalMarket.ExtensionEnds`: how an extension ends, and what it leaves.

## Main results

* `CrowdTask.LocalMarket.extensionEnds_of_representable`: how an extension ends if the task expires
  within the calendar.
* `CrowdTask.LocalMarket.Reachable.inCalendar`: what a local marketplace keeps to.
* `CrowdTask.LocalMarket.Reachable.extensionEnds`: how an extension ends in a state that is reached.
-/

namespace CrowdTask

/-! ### Instants that the calendar covers -/

namespace Instant

variable {a b : Instant}

theorem Representable.earlier (ha : a.Representable) (hb : b.Representable) :
    (a.earlier b).Representable := by
  rw [Instant.earlier]
  split_ifs
  · exact ha
  · exact hb

/-- Only the end of the calendar is in the way of instants later than one in the calendar. -/
theorem Representable.extended_iff (ha : a.Representable) (b : Instant) (n : Nat) :
    ((a.later b).plusSeconds n).Representable ↔
      ((a.later b).plusSeconds n).seconds ≤ lastSecond := by
  have hle : a.seconds ≤ ((a.later b).plusSeconds n).seconds :=
    Int.ediv_le_ediv (by decide) (le_trans (le_later_left a b) (le_plusSeconds _ n))
  exact and_iff_right (Int.le_trans ha.1 hle)

end Instant

/-- When a task expires if it is extended at the time `now`. -/
def HostedTask.extendedEnd (h : HostedTask) (now : Instant) (n : UInt64) : Instant :=
  (h.expiresAt.later now).plusSeconds n.toNat

namespace LocalMarket

variable {m : LocalMarket} {id : TaskId} {h : HostedTask} {now : Instant} {n : UInt64} {α : Type}

/-! ### Extensions -/

theorem outcome_later (t : Instant) (n : UInt64) (m : LocalMarket) :
    outcome (later t n) m =
      (if Instant.longestSpan < n.toNat then .error (.refused (invalid "duration out of range"))
        else if (t.plusSeconds n.toNat).Representable then .ok (t.plusSeconds n.toNat)
        else .error .beyondCalendar, m) := by
  rw [later, Instant.plusSeconds?, Instant.checked?]
  split_ifs
  · rfl
  · rfl
  · rfl

/-- The marketplace after a call was noted. -/
def noting (m : LocalMarket) (call : MarketCall) : LocalMarket :=
  { m with calls := m.calls ++ [call] }

/-- How an extension of the task `h` at the time `now` ends, and what it leaves. Only in the third
case a task is changed. -/
inductive ExtensionEnds (m : LocalMarket) (id : TaskId) (h : HostedTask) (now : Instant)
    (n : UInt64) : Except LocalFault Instant × LocalMarket → Prop where
  /-- All calls are refused. -/
  | refused (cause : MarketError) (hfailure : m.failure = some cause) :
    ExtensionEnds m id h now n (.error (.refused cause), m.noting (.extend id n))
  /-- The span is too long. -/
  | tooLong (hfailure : m.failure = none) (hspan : Instant.longestSpan < n.toNat) :
    ExtensionEnds m id h now n
      (.error (.refused (.remote "ValidationException" "duration out of range")),
        m.noting (.extend id n))
  /-- The task expires later. -/
  | extended (hfailure : m.failure = none) (hspan : n.toNat ≤ Instant.longestSpan)
    (hend : (h.extendedEnd now n).seconds ≤ Instant.lastSecond) :
    ExtensionEnds m id h now n
      (.ok (h.extendedEnd now n),
        (m.noting (.extend id n)).putTask id { h with expiresAt := h.extendedEnd now n })
  /-- The calendar does not cover the new end. -/
  | stopped (hfailure : m.failure = none) (hspan : n.toNat ≤ Instant.longestSpan)
    (hend : Instant.lastSecond < (h.extendedEnd now n).seconds) :
    ExtensionEnds m id h now n (.error .beyondCalendar, m.noting (.extend id n))

theorem extensionEnds_of_representable (hh : m.task? id = some h)
    (hexpires : h.expiresAt.Representable) (now : Instant) (n : UInt64) :
    ExtensionEnds m id h now n (outcome (extend now id n) m) := by
  rcases hfailure : m.failure with _ | cause
  · have hreceive : outcome (receive (.extend id n)) m = (.ok (), m.noting (.extend id n)) :=
      outcome_receive_of_none hfailure _
    have htask : (m.noting (.extend id n)).task? id = some h := hh
    have hlater := outcome_later (h.expiresAt.later now) n (m.noting (.extend id n))
    have hcovered := hexpires.extended_iff now n.toNat
    rw [extend, outcome_bind_of_ok _ hreceive, outcome_bind_of_ok _ (outcome_requireTask htask)]
    split_ifs at hlater with hspan hcalendar
    · rw [outcome_bind_of_error _ hlater]
      exact .tooLong hfailure hspan
    · rw [outcome_bind_of_ok _ hlater]
      exact .extended hfailure (Nat.not_lt.mp hspan) (hcovered.mp hcalendar)
    · rw [outcome_bind_of_error _ hlater]
      exact .stopped hfailure (Nat.not_lt.mp hspan) (Int.not_le.mp (mt hcovered.mpr hcalendar))
  · rw [extend, outcome_bind_of_error _ (outcome_receive_of_some hfailure _)]
    exact .refused cause hfailure

/-! ### Local marketplaces over time -/

/-- The marketplace after a call at the time `now`. -/
def after (m : LocalMarket) (now : Instant) : MarketAction → LocalMarket
  | .create request => (outcome (create now request) m).2
  | .addAssignments id count => (outcome (addAssignments id count) m).2
  | .extend id seconds => (outcome (extend now id seconds) m).2
  | .expire id => (outcome (expire now id) m).2
  | .status id => (outcome (status now id) m).2
  | .page id number size => (outcome (page id number size) m).2
  | .balance => (outcome readBalance m).2

/-- Whether a local marketplace is as calls and other events leave it, where the clock and whoever
sets the expiry of a task keep to the calendar. -/
inductive Reachable : LocalMarket → Prop where
  | empty : Reachable .empty
  | call {m : LocalMarket} (hm : Reachable m) {now : Instant} (hnow : now.Representable)
    (action : MarketAction) : Reachable (m.after now action)
  | happening {m : LocalMarket} (hm : Reachable m) (x : Happening) : Reachable (x.after m)
  | setExpiry {m : LocalMarket} (hm : Reachable m) (id : TaskId) {t : Instant}
    (ht : t.Representable) : Reachable (outcome (setExpiry id t) m).2

/-- Whether all tasks expire at instants that the calendar covers. -/
def InCalendar (m : LocalMarket) : Prop :=
  ∀ id h, m.task? id = some h → h.expiresAt.Representable

namespace InCalendar

variable (hm : m.InCalendar)

include hm

theorem putTask (ht : h.expiresAt.Representable) : (m.putTask id h).InCalendar := by
  intro id' h' hh'
  rw [task?_putTask] at hh'
  split_ifs at hh' with hid
  · obtain rfl := Option.some.inj hh'
    exact ht
  · exact hm id' h' hh'

/-- What is done with a task, if it exists. -/
theorem ends_requireTask_bind {f : HostedTask → LocalStep α}
    (hf : ∀ h, h.expiresAt.Representable → Ends m (f h) fun _ m' => m'.InCalendar) :
    Ends m (requireTask id >>= f) fun _ m' => m'.InCalendar :=
  LocalMarket.ends_requireTask_bind (fun _ => hm) fun h hh => hf h (hm id h hh)

/-- A call on a task is noted before anything is done. -/
theorem ends_onTask (call : MarketCall) {f : HostedTask → LocalStep α}
    (hf : ∀ {m : LocalMarket}, m.InCalendar → ∀ h, h.expiresAt.Representable →
      Ends m (f h) fun _ m' => m'.InCalendar) :
    Ends m (do
      receive call
      f (← requireTask id)) fun _ m' => m'.InCalendar := by
  have hnoted : (m.noting call).InCalendar := hm
  exact ends_receive_bind (fun _ => hm) (hnoted.ends_requireTask_bind (hf hnoted))

theorem ends_later_bind {t : Instant} {f : Instant → LocalStep α}
    (hf : ∀ t : Instant, t.Representable → Ends m (f t) fun _ m' => m'.InCalendar) :
    Ends m (later t n >>= f) fun _ m' => m'.InCalendar := by
  refine .bind ?_
  rw [Ends, outcome_later]
  split_ifs with hspan hcalendar
  · exact hm
  · exact hf _ hcalendar
  · exact hm

theorem create (now : Instant) (request : TaskRequest) :
    Ends m (create now request) fun _ m' => m'.InCalendar := by
  refine ends_receive_bind (fun _ => hm) (ends_modify_bind (ends_get_bind ?_))
  refine ends_require_bind (fun _ => hm) fun id _ => ends_require_bind (fun _ => hm) fun _ _ => ?_
  refine ends_require_bind (fun _ => hm) fun _ _ => ?_
  have hnumbered : InCalendar
      { m with calls := m.calls ++ [.create request.maxAssignments], serial := m.serial + 1 } := hm
  exact hnumbered.ends_later_bind fun t ht => hnumbered.putTask ht

/-- Every call leaves the tasks in the calendar. -/
theorem after (hnow : now.Representable) (action : MarketAction) :
    (m.after now action).InCalendar := by
  cases action with
  | create request => exact hm.create now request
  | addAssignments id count => exact hm.ends_onTask _ fun hm _ ht => hm.putTask ht
  | extend id seconds =>
    exact hm.ends_onTask _ fun hm _ _ => hm.ends_later_bind fun _ ht => hm.putTask ht
  | expire id => exact hm.ends_onTask _ fun hm _ ht => hm.putTask (ht.earlier hnow)
  | status id => exact hm.ends_onTask _ fun hm _ _ => hm
  | page id number size =>
    refine hm.ends_onTask _ fun hm h _ => ?_
    cases pageOf? h.submissions number size with
    | some items => exact hm
    | none => exact hm
  | balance =>
    exact ends_receive_bind (Q := fun _ m' => m'.InCalendar) (fun _ => hm) hm

theorem happening (x : Happening) : (x.after m).InCalendar := by
  cases x with
  | submission id a => exact hm.ends_requireTask_bind fun h ht => hm.putTask ht
  | balance amount => exact hm
  | failure cause => exact hm

end InCalendar

/-- Tasks expire within the calendar, whatever is called and whatever happens. -/
theorem Reachable.inCalendar (hm : m.Reachable) : m.InCalendar := by
  induction hm with
  | empty => exact nofun
  | call _ hnow action ih => exact ih.after hnow action
  | happening _ x ih => exact ih.happening x
  | setExpiry _ id ht ih => exact ih.ends_requireTask_bind fun h _ => ih.putTask ht

/-- How an extension ends in a state that is reached. -/
theorem Reachable.extensionEnds (hm : m.Reachable) (hh : m.task? id = some h) (now : Instant)
    (n : UInt64) : ExtensionEnds m id h now n (outcome (extend now id n) m) :=
  extensionEnds_of_representable hh (hm.inCalendar id h hh) now n

end LocalMarket

end CrowdTask
