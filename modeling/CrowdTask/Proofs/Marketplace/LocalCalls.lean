import CrowdTask.Marketplace.Local
import CrowdTask.Proofs.Run.Trail
import Mathlib.Tactic.Common

/-!
# Calls to a local marketplace

A call to a local marketplace is noted and perhaps refused, looks for its task, and goes on with it.
What it does is known from these parts: each of them fails and leaves the marketplace as it found
it, or goes on to the next one.

## Main definitions

* `CrowdTask.Ends`: how a run ends that begins in a given state.
* `CrowdTask.marketOfMinute`: a marketplace with one task, for examples.

## Main results

* `CrowdTask.LocalMarket.outcome_receive_of_none`, `CrowdTask.LocalMarket.outcome_requireTask`: how
  a call begins that is not refused.
* `CrowdTask.LocalMarket.ends_receive_bind`, `CrowdTask.LocalMarket.ends_requireTask_bind`,
  `CrowdTask.LocalMarket.ends_later_bind`: the rules for the parts of a call.
-/

namespace CrowdTask

/-- Whether a run that begins in the state `a` ends as `Q` says. -/
def Ends {s α ε : Type} (a : s) (x : ExceptT ε (StateM s) α) (Q : Except ε α → s → Prop) : Prop :=
  Q (outcome x a).1 (outcome x a).2

/-- A run in two parts: the second one begins where the first one ended, unless that failed. -/
theorem Ends.bind {s α β ε : Type} {a : s} {x : ExceptT ε (StateM s) α}
    {f : α → ExceptT ε (StateM s) β} {Q : Except ε β → s → Prop}
    (h : Ends a x fun r b =>
      match r with
      | .ok v => Ends b (f v) Q
      | .error e => Q (.error e) b) :
    Ends a (x >>= f) Q := by
  rcases hx : outcome x a with ⟨e | v, b⟩
  · rw [Ends, hx] at h
    rw [Ends, outcome_bind_of_error f hx]
    exact h
  · rw [Ends, hx] at h
    rw [Ends, outcome_bind_of_ok f hx]
    exact h

namespace LocalMarket

variable {m : LocalMarket} {α : Type} {Q : Except LocalFault α → LocalMarket → Prop}

theorem ends_modify_bind {g : LocalMarket → LocalMarket} {f : PUnit → LocalStep α}
    (h : Ends (g m) (f ⟨⟩) Q) : Ends m (modify g >>= f) Q :=
  .bind h

theorem ends_get_bind {f : LocalMarket → LocalStep α} (h : Ends m (f m) Q) :
    Ends m (get >>= f) Q :=
  .bind h

/-! ### Notes of calls -/

theorem outcome_receive_of_none (hfailure : m.failure = none) (call : MarketCall) :
    outcome (receive call) m = (.ok (), { m with calls := m.calls ++ [call] }) := by
  cases m
  cases hfailure
  rfl

theorem outcome_receive_of_some {cause : MarketError} (hfailure : m.failure = some cause)
    (call : MarketCall) :
    outcome (receive call) m =
      (.error (.refused cause), { m with calls := m.calls ++ [call] }) := by
  cases m
  cases hfailure
  rfl

theorem ends_receive_bind {call : MarketCall} {f : Unit → LocalStep α}
    (herror : ∀ e, Q (.error e) { m with calls := m.calls ++ [call] })
    (hok : Ends { m with calls := m.calls ++ [call] } (f ()) Q) :
    Ends m (receive call >>= f) Q := by
  refine .bind ?_
  rcases hfailure : m.failure with _ | cause
  · rw [Ends, outcome_receive_of_none hfailure]
    exact hok
  · rw [Ends, outcome_receive_of_some hfailure]
    exact herror _

/-! ### Tasks of calls -/

section Task

variable {id : TaskId} {h : HostedTask}

theorem outcome_requireTask (hh : m.task? id = some h) :
    outcome (requireTask id) m = (.ok h, m) := by
  have hget : outcome (get : LocalStep LocalMarket) m = (.ok m, m) := rfl
  rw [requireTask, outcome_bind_of_ok _ hget, hh]
  rfl

theorem outcome_requireTask_of_none (hh : m.task? id = none) :
    outcome (requireTask id) m = (.error (.refused (noSuchTask id)), m) := by
  have hget : outcome (get : LocalStep LocalMarket) m = (.ok m, m) := rfl
  rw [requireTask, outcome_bind_of_ok _ hget, hh]
  rfl

theorem ends_requireTask_bind {f : HostedTask → LocalStep α} (herror : ∀ e, Q (.error e) m)
    (hok : ∀ h, m.task? id = some h → Ends m (f h) Q) : Ends m (requireTask id >>= f) Q := by
  refine .bind ?_
  rcases hh : m.task? id with _ | h
  · rw [Ends, outcome_requireTask_of_none hh]
    exact herror _
  · rw [Ends, outcome_requireTask hh]
    exact hok h hh

end Task

/-! ### Values and instants of calls -/

theorem ends_require_bind {β : Type} {r : Except MarketError β} {f : β → LocalStep α}
    (herror : ∀ e, Q (.error e) m) (hok : ∀ v, r = .ok v → Ends m (f v) Q) :
    Ends m (require r >>= f) Q := by
  cases r with
  | ok v => exact hok v rfl
  | error cause => exact herror _

theorem ends_later_bind {t : Instant} {n : UInt64} {f : Instant → LocalStep α}
    (herror : ∀ e, Q (.error e) m) (hok : Ends m (f (t.plusSeconds n.toNat)) Q) :
    Ends m (later t n >>= f) Q := by
  refine .bind ?_
  rw [later]
  split_ifs with hspan
  · exact herror _
  · rw [Instant.plusSeconds?, Instant.checked?]
    split_ifs with hcalendar
    · exact hok
    · exact herror _

end LocalMarket

/-! ### A marketplace with one task -/

/-- The identifier of the first task of a local marketplace. -/
def firstTask : TaskId := ⟨"HIT00000001", by decide⟩

/-- A task that lives for a minute. -/
def minuteTask : TaskRequest := ⟨"T", "D", "K", "U", 600, ⟨50⟩, 60, 60, 60, 20, []⟩

/-- A local marketplace with the task, which was created half a second after the time began. -/
def marketOfMinute : LocalMarket := (outcome (LocalMarket.create ⟨500000000⟩ minuteTask) .empty).2

/-- The registry in which the task is recorded. -/
def registryOfMinute : Registry :=
  ⟨some ⟨firstTask, ⟨"TYPE00000001", by decide⟩, some ⟨"GROUP00000001", by decide⟩⟩, none⟩

end CrowdTask
