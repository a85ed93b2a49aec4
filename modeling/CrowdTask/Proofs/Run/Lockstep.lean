import CrowdTask.Proofs.Run.Trail
import Mathlib.Tactic.Common

/-!
# Runs in lockstep

Two runs that begin in related states go in lockstep when their calls keep the states related and
are answered alike. Values that the answers carry need not be equal: it is enough that they are
related, and that what is done with them is.

## Main definitions

* `CrowdTask.Matches`: two answers that are both values or the same cause.
* `CrowdTask.Lockstep`: two runs that end alike when they begin in related states.
* `CrowdTask.outward`: the calls of a run, those to the registry apart.
* `CrowdTask.Observed.Alike`: related states in which the same calls were made, the registry apart.
* `CrowdTask.Desk.InStep`: two desks whose calls are answered alike, those to the registry apart.

## Main results

* `CrowdTask.Lockstep.bind`, `CrowdTask.Lockstep.attempt`, `CrowdTask.Lockstep.foldlM`: the rules
  for runs.
* `CrowdTask.Download.lockstep_steps`: downloads at desks in step go in lockstep.
-/

namespace CrowdTask

variable {s s' α α' β β' ε : Type}

/-- Whether two answers are values that are related by `V`, or the same cause. -/
def Matches (V : α → α' → Prop) : Except ε α → Except ε α' → Prop
  | .ok v, .ok v' => V v v'
  | .error e, .error e' => e = e'
  | _, _ => False

theorem matches_eq_iff {r r' : Except ε α} : Matches Eq r r' ↔ r = r' := by
  cases r <;> cases r' <;> simp [Matches]

theorem Matches.mapError {ε' : Type} {V : α → α' → Prop} {r : Except ε α} {r' : Except ε α'}
    (h : Matches V r r') (cause : ε → ε') : Matches V (r.mapError cause) (r'.mapError cause) := by
  cases r with
  | ok v => cases r' with
    | ok v' => exact h
    | error e' => exact h.elim
  | error e => cases r' with
    | ok v' => exact h.elim
    | error e' => exact congrArg cause h

/-- Whether two runs that begin in states related by `R` have matching answers and end in states
related by `S`. -/
def Lockstep (R S : s → s' → Prop) (V : α → α' → Prop) (x : ExceptT ε (StateM s) α)
    (y : ExceptT ε (StateM s') α') : Prop :=
  ∀ a b, R a b → Matches V (outcome x a).1 (outcome y b).1 ∧ S (outcome x a).2 (outcome y b).2

/-- Whether two calls that are made in states related by `R` have the same answer and keep the
states related. -/
def CallsAlike (R : s → s' → Prop) (call : StateM s α) (call' : StateM s' α) : Prop :=
  ∀ a b, R a b → (call.run a).1 = (call'.run b).1 ∧ R (call.run a).2 (call'.run b).2

theorem CallsAlike.lockstep {R : s → s' → Prop} {call : StateM s (Except ε α)}
    {call' : StateM s' (Except ε α)} (h : CallsAlike R call call') :
    Lockstep R R Eq (ExceptT.mk call) (ExceptT.mk call') := fun a b hab =>
  ⟨matches_eq_iff.mpr (h a b hab).1, (h a b hab).2⟩

namespace Lockstep

variable {R S T : s → s' → Prop} {V : α → α' → Prop} {W : β → β' → Prop}
  {x : ExceptT ε (StateM s) α} {y : ExceptT ε (StateM s') α'}

theorem pure {v : α} {v' : α'} (h : V v v') :
    Lockstep R R V (Pure.pure v : ExceptT ε (StateM s) α) (Pure.pure v') :=
  fun _ _ hab => ⟨h, hab⟩

theorem throw (e : ε) :
    Lockstep R R V (MonadExcept.throw e : ExceptT ε (StateM s) α)
      (MonadExcept.throw e : ExceptT ε (StateM s') α') :=
  fun _ _ hab => ⟨rfl, hab⟩

theorem mono (h : Lockstep R S V x y) (hS : ∀ a b, S a b → T a b) : Lockstep R T V x y :=
  fun a b hab => ⟨(h a b hab).1, hS _ _ (h a b hab).2⟩

/-- Two runs in two parts each. The first parts may end in a narrower relation than the second
ones. -/
theorem bind {f : α → ExceptT ε (StateM s) β} {g : α' → ExceptT ε (StateM s') β'}
    (hx : Lockstep R S V x y) (hf : ∀ v v', V v v' → Lockstep S T W (f v) (g v'))
    (hS : ∀ a b, S a b → T a b) : Lockstep R T W (x >>= f) (y >>= g) := by
  intro a b hab
  obtain ⟨hanswers, hstates⟩ := hx a b hab
  rcases hout : outcome x a with ⟨r, a'⟩
  rcases hout' : outcome y b with ⟨r', b'⟩
  rw [hout, hout'] at hanswers hstates
  cases r with
  | ok v => cases r' with
    | ok v' =>
      rw [outcome_bind_of_ok f hout, outcome_bind_of_ok g hout']
      exact hf v v' hanswers a' b' hstates
    | error e' => exact hanswers.elim
  | error e => cases r' with
    | ok v' => exact hanswers.elim
    | error e' =>
      rw [outcome_bind_of_error f hout, outcome_bind_of_error g hout']
      exact ⟨hanswers, hS a' b' hstates⟩

/-- Two runs in two parts each, the first of which have the same answers. -/
theorem bind_eq {x : ExceptT ε (StateM s) α} {y : ExceptT ε (StateM s') α}
    {f : α → ExceptT ε (StateM s) β} {g : α → ExceptT ε (StateM s') β'}
    (hx : Lockstep R R Eq x y) (hf : ∀ v, Lockstep R R W (f v) (g v)) :
    Lockstep R R W (x >>= f) (y >>= g) :=
  bind hx (fun v _ hv => hv ▸ hf v) fun _ _ => id

/-- A call, or a run, as a part of runs that fail for causes of another kind. -/
theorem attempt {ε' : Type} (cause : ε → ε') (h : Lockstep R S V x y) :
    Lockstep R S V (CrowdTask.attempt cause x.run) (CrowdTask.attempt cause y.run) :=
  fun a b hab => ⟨(h a b hab).1.mapError cause, (h a b hab).2⟩

/-- A call that does not fail, among the calls of runs that may. -/
theorem lift {call : StateM s α} {call' : StateM s' α} (h : CallsAlike R call call') :
    Lockstep R R Eq (MonadLift.monadLift call : ExceptT ε (StateM s) α)
      (MonadLift.monadLift call' : ExceptT ε (StateM s') α) := h

theorem foldlM {γ : Type} {f : β → γ → ExceptT ε (StateM s) β}
    {g : β → γ → ExceptT ε (StateM s') β}
    (hf : ∀ p i, Lockstep R R Eq (f p i) (g p i)) (items : List γ) (p : β) :
    Lockstep R R Eq (items.foldlM f p) (items.foldlM g p) := by
  induction items generalizing p with
  | nil => exact pure rfl
  | cons i items ih =>
    rw [List.foldlM_cons, List.foldlM_cons]
    exact bind_eq (hf p i) ih

end Lockstep

/-! ### Calls that leave a trail -/

/-- Whether a call is made to anything but the registry. -/
def DeskEvent.IsOutward : DeskEvent → Bool
  | .load _ | .save _ _ => false
  | _ => true

/-- The calls of a run with their answers, those to the registry apart. -/
def outward (steps : List (DeskStep s)) : List DeskEvent :=
  (steps.map (·.event)).filter (·.IsOutward)

theorem outward_concat (steps : List (DeskStep s)) (step : DeskStep s) :
    outward (steps ++ [step]) = outward steps ++ [step.event].filter (·.IsOutward) := by
  rw [outward, List.map_append, List.filter_append]
  rfl

/-- Whether two states are related by `R`, and the same calls led to them, the registry apart. -/
structure Observed.Alike (R : s → s' → Prop) (o : Observed s) (o' : Observed s') : Prop where
  world : R o.world o'.world
  calls : outward o.trail = outward o'.trail

section Observed

variable {R S : s → s' → Prop}

/-- The same call leaves the same trail. -/
theorem CallsAlike.observe {call : StateM s α} {call' : StateM s' α} (h : CallsAlike R call call')
    (event : α → DeskEvent) :
    CallsAlike (Observed.Alike R) (observe event call) (observe event call') := by
  intro o o' ho
  obtain ⟨hanswer, hworld⟩ := h _ _ ho.world
  refine ⟨hanswer, hworld, ?_⟩
  change outward (o.trail ++ [_]) = outward (o'.trail ++ [_])
  rw [outward_concat, outward_concat, ho.calls, hanswer]

/-- Calls to the registry leave the other calls as they were. -/
theorem Lockstep.observe {V : α → α' → Prop} {call : StateM s (Except ε α)}
    {call' : StateM s' (Except ε α')}
    (h : Lockstep R S V (ExceptT.mk call) (ExceptT.mk call'))
    {event : Except ε α → DeskEvent} {event' : Except ε α' → DeskEvent}
    (hevent : ∀ r, (event r).IsOutward = false) (hevent' : ∀ r, (event' r).IsOutward = false) :
    Lockstep (Observed.Alike R) (Observed.Alike S) V (ExceptT.mk (CrowdTask.observe event call))
      (ExceptT.mk (CrowdTask.observe event' call')) := by
  intro o o' ho
  obtain ⟨hanswers, hworld⟩ := h _ _ ho.world
  refine ⟨hanswers, hworld, ?_⟩
  change outward (o.trail ++ [_]) = outward (o'.trail ++ [_])
  rw [outward_concat, outward_concat, ho.calls, List.filter_cons_of_neg (by simp [hevent]),
    List.filter_cons_of_neg (by simp [hevent'])]

end Observed

/-- Whether the calls at two desks are answered alike in related states, and keep the states
related. Nothing is said of the calls to the registry. -/
structure Desk.InStep (R : s → s' → Prop) (d : Desk (StateM s)) (d' : Desk (StateM s')) : Prop where
  ids : CallsAlike R d.results.ids d'.results.ids
  put : ∀ r, CallsAlike R (d.results.put r) (d'.results.put r)
  append : ∀ r, CallsAlike R (d.journal.append r) (d'.journal.append r)
  create : ∀ request, CallsAlike R (d.market.create request) (d'.market.create request)
  addAssignments : ∀ id n,
    CallsAlike R (d.market.addAssignments id n) (d'.market.addAssignments id n)
  extend : ∀ id n, CallsAlike R (d.market.extend id n) (d'.market.extend id n)
  expire : ∀ id, CallsAlike R (d.market.expire id) (d'.market.expire id)
  status : ∀ id, CallsAlike R (d.market.status id) (d'.market.status id)
  page : ∀ id number size,
    CallsAlike R (d.market.page id number size) (d'.market.page id number size)
  balance : CallsAlike R d.market.balance d'.market.balance
  clock : CallsAlike R d.clock d'.clock

theorem Desk.InStep.observed {R : s → s' → Prop} {d : Desk (StateM s)} {d' : Desk (StateM s')}
    (h : d.InStep R d') : d.observed.InStep (Observed.Alike R) d'.observed where
  ids := h.ids.observe _
  put r := (h.put r).observe _
  append r := (h.append r).observe _
  create request := (h.create request).observe _
  addAssignments id n := (h.addAssignments id n).observe _
  extend id n := (h.extend id n).observe _
  expire id := (h.expire id).observe _
  status id := (h.status id).observe _
  page id number size := (h.page id number size).observe _
  balance := h.balance.observe _
  clock := h.clock.observe _

/-! ### Downloads -/

namespace Download

variable {R : s → s' → Prop} {d : Desk (StateM s)} {d' : Desk (StateM s')} (h : d.InStep R d')
  {salt : Option String} {task : TaskId}

include h

theorem lockstep_takeEntry (p : Progress) (x : Submission) :
    Lockstep R R Eq (takeEntry d.results salt p x) (takeEntry d'.results salt p x) := by
  unfold takeEntry
  split_ifs
  · exact .pure rfl
  · refine .bind_eq (.lift (h.put _)) ?_
    rintro ((_ | _) | ⟨⟨⟩⟩)
    · exact .pure rfl
    · exact .throw _
    · exact .pure rfl

theorem lockstep_takePage (p : Progress) (page : Nat) :
    Lockstep R R Eq (takePage d.market d.results salt task p page)
      (takePage d'.market d'.results salt task p page) := by
  refine .bind_eq (.attempt DownloadError.marketplace (h.page task page pageSize).lockstep) ?_
  exact fun fetched => .foldlM (lockstep_takeEntry h) _ _

theorem lockstep_takePages (n page : Nat) (p : Progress) :
    Lockstep R R Eq (takePages d.market d.results salt task n page p)
      (takePages d'.market d'.results salt task n page p) := by
  induction n generalizing page p with
  | zero => exact .pure rfl
  | succ n ih => exact .bind_eq (lockstep_takePage h p page) (ih (page + 1))

/-- Downloads at desks that are in step go in lockstep. -/
theorem lockstep_steps :
    Lockstep R R Eq (steps d.market d.results salt task)
      (steps d'.market d'.results salt task) := by
  refine .bind_eq (.attempt DownloadError.results h.ids.lockstep) fun known => ?_
  refine .bind_eq (.attempt DownloadError.marketplace (h.page task 1 1).lockstep) fun first => ?_
  dsimp only
  split_ifs
  · exact .pure rfl
  · exact .bind_eq (lockstep_takePages h _ _ _) fun p => .pure rfl

end Download

end CrowdTask
