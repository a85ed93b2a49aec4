import CrowdTask.Proofs.Identifier
import CrowdTask.Proofs.Json.Digits
import CrowdTask.Proofs.Marketplace.LocalCalls

/-!
# Tasks of a local marketplace over time

What matters of a local marketplace for the time of its tasks is the number of the last identifier
and when each task expires. Three calls have to do with it: one hosts a task under an identifier
that was not used before, one lets a task expire later, one lets it expire now. While time passes
workers submit assignments, and the balance and the cause of refusals may change; none of this
changes when a task expires.

## Main definitions

* `CrowdTask.Hosting`, `CrowdTask.LocalMarket.hosting`: the identifiers that were used, and when
  each task expires.
* `CrowdTask.Hosting.Effect`: what a call with its answer means for the tasks.
* `CrowdTask.LocalMarket.Affects`: the calls that mean this.
* `CrowdTask.Scene`: a local marketplace with a clock that never goes back.
* `CrowdTask.Scene.Step`: what a call means for a scene.
* `CrowdTask.Scene.At`: how the expiry of a task is related to the time of the clock.

## Main results

* `CrowdTask.LocalMarket.numbered_injective`: identifiers with different numbers are different.
* `CrowdTask.LocalMarket.affects_create`, `CrowdTask.LocalMarket.affects_extend`,
  `CrowdTask.LocalMarket.affects_expire`, `CrowdTask.LocalMarket.affects_status`: what the calls do.
* `CrowdTask.Scene.step_tick`, `CrowdTask.Scene.step_call`: the time goes on, and a call is made at
  the time of the clock.
* `CrowdTask.Scene.Step.expiry?_cases`, `CrowdTask.Scene.Step.at_after`: what a call preserves.
-/

namespace CrowdTask

/-! ### Instants -/

namespace Instant

variable {a b c : Instant}

theorem le_refl (a : Instant) : a ≤ a := Int.le_refl a.nanos

theorem le_trans (h : a ≤ b) (h' : b ≤ c) : a ≤ c := Int.le_trans h h'

theorem le_later_left (a b : Instant) : a ≤ a.later b := by
  rw [later]
  split_ifs with h
  · exact h
  · exact le_refl a

theorem le_later_right (a b : Instant) : b ≤ a.later b := by
  rw [later]
  split_ifs with h
  · exact le_refl b
  · exact Int.le_of_lt (Int.not_le.mp h)

theorem earlier_le_right (a b : Instant) : a.earlier b ≤ b := by
  rw [earlier]
  split_ifs with h
  · exact h
  · exact le_refl b

theorem le_plusSeconds (a : Instant) (n : Nat) : a ≤ a.plusSeconds n :=
  Int.le_add_of_nonneg_right (Int.mul_nonneg (Int.natCast_nonneg n) (by decide))

theorem plusSeconds_le_plusSeconds (h : a ≤ b) (n : Nat) : a.plusSeconds n ≤ b.plusSeconds n :=
  Int.add_le_add_right h _

theorem plusSeconds_plusSeconds (a : Instant) (m n : Nat) :
    (a.plusSeconds m).plusSeconds n = a.plusSeconds (m + n) := by
  rw [plusSeconds, plusSeconds, plusSeconds, Int.natCast_add, Int.add_mul, Int.add_assoc]

/-- No whole second remains of what is over. -/
theorem secondsUntil_nonpos (h : b ≤ a) : a.secondsUntil b ≤ 0 := by
  have hpast : 0 ≤ (-(b.nanos - a.nanos)).tdiv second :=
    Int.tdiv_nonneg (Int.neg_nonneg_of_nonpos (Int.sub_nonpos_of_le h)) (by decide)
  rw [Int.neg_tdiv] at hpast
  exact Int.nonpos_of_neg_nonneg hpast

/-- A whole second remains of what is over a second later or more. -/
theorem one_le_secondsUntil (h : a.plusSeconds 1 ≤ b) : 1 ≤ a.secondsUntil b := by
  have h : a.nanos + 1 * second ≤ b.nanos := h
  rw [secondsUntil, Int.tdiv_eq_ediv_of_nonneg (by rw [second] at h; omega), second]
  rw [second] at h
  omega

end Instant

/-! ### Numbered identifiers -/

namespace LocalMarket

variable {kind : IdKind} {word : String} {id : Identifier kind} {n m : Nat}

theorem toList_numbered (hword : ∀ c ∈ word.toList, isIdChar c = true)
    (h : numbered kind word n = .ok id) : id.text.toList = word.toList ++ Text.padded 8 n := by
  have hchars : (word ++ String.ofList (Text.padded 8 n)).toList =
      word.toList ++ Text.padded 8 n := by
    rw [String.toList_append, String.toList_ofList]
  have htrim : Text.trim (word.toList ++ Text.padded 8 n) = word.toList ++ Text.padded 8 n :=
    Text.trim_of_forall fun c hc => isBlank_of_isIdChar <| by
      rcases List.mem_append.mp hc with hc | hc
      · exact hword c hc
      · simp [isIdChar, Char.isAlphanum, Text.isDigit_of_mem_padded hc]
  rw [numbered, Identifier.parse] at h
  split at h
  · obtain rfl := Except.ok.inj h
    change (Text.trimmed _).toList = _
    rw [Text.trimmed, String.toList_ofList, hchars, htrim]
  · cases h

/-- Identifiers with different numbers are different. -/
theorem numbered_injective (hword : ∀ c ∈ word.toList, isIdChar c = true)
    (h : numbered kind word n = .ok id) (h' : numbered kind word m = .ok id) : n = m := by
  have hpadded : Text.padded 8 n = Text.padded 8 m :=
    List.append_cancel_left ((toList_numbered hword h).symm.trans (toList_numbered hword h'))
  exact Option.some.inj ((Text.ofDigitsFrom?_padded 8 n).symm.trans
    (hpadded ▸ Text.ofDigitsFrom?_padded 8 m))

end LocalMarket

/-! ### Hosted tasks -/

/-- What matters of a local marketplace for the time of its tasks: the number of the last
identifier, and when each task expires. -/
structure Hosting where
  serial : Nat
  expiry? : TaskId → Option Instant

/-- Whether an identifier was used for a task. -/
def Hosting.IsUsed (s : Hosting) (id : TaskId) : Prop :=
  ∃ n ≤ s.serial, LocalMarket.numbered .task "HIT" n = .ok id

/-- The task that a call created. -/
def DeskEvent.created? : DeskEvent → Option TaskId
  | .create _ (.ok r) => some r.id
  | _ => none

/-- What a call with its answer makes of the expiry of the task `id`. -/
def DeskEvent.expiryAfter (x : DeskEvent) (id : TaskId) (now : Instant) (u : Option Instant) :
    Option Instant :=
  match x with
  | .extend id' _ (.ok t) => if id = id' then some t else u
  | .expire id' (.ok ()) => if id = id' then u.map (·.earlier now) else u
  | _ => u

/-- What the answer to a call at the time `now` says about the tasks before and after it. -/
def DeskEvent.IsAnswered (x : DeskEvent) (now : Instant) (s s' : Hosting) : Prop :=
  match x with
  | .create _ (.ok r) => ¬s.IsUsed r.id ∧ s'.IsUsed r.id
  | .extend id n (.ok t) =>
    ∃ u, s.expiry? id = some u ∧ t = (u.later now).plusSeconds n.toNat
  | .expire id (.ok ()) => ∃ u, s.expiry? id = some u
  | .status id (.ok t) =>
    t.id = id ∧ s.expiry? id = some t.expiresAt ∧ t.state ≠ TaskStatus.disposed
  | _ => True

theorem Hosting.IsUsed.mono {s s' : Hosting} {id : TaskId} (h : s.IsUsed id)
    (hserial : s.serial ≤ s'.serial) : s'.IsUsed id := by
  obtain ⟨n, hn, hid⟩ := h
  exact ⟨n, Nat.le_trans hn hserial, hid⟩

/-- What a call with its answer, made at the time `now`, means for the tasks. -/
structure Hosting.Effect (x : DeskEvent) (now : Instant) (s s' : Hosting) : Prop where
  serial : s.serial ≤ s'.serial
  expiry : ∀ id, x.created? ≠ some id → s'.expiry? id = x.expiryAfter id now (s.expiry? id)
  answered : x.IsAnswered now s s'

/-- A call without an effect on the tasks. -/
theorem Hosting.Effect.idle {x : DeskEvent} {now : Instant} {s : Hosting}
    (hexpiry : ∀ id u, x.expiryAfter id now u = u) (hanswer : x.IsAnswered now s s) :
    Effect x now s s :=
  ⟨Nat.le_refl _, fun id _ => (hexpiry id _).symm, hanswer⟩

namespace LocalMarket

variable {m m' : LocalMarket} {id : TaskId} {h : HostedTask}

/-- When a task expires. -/
def expiry? (m : LocalMarket) (id : TaskId) : Option Instant := (m.task? id).map (·.expiresAt)

/-- What matters of a local marketplace for the time of its tasks. -/
def hosting (m : LocalMarket) : Hosting := ⟨m.serial, m.expiry?⟩

theorem task?_putTask (m : LocalMarket) (id : TaskId) (h : HostedTask) (id' : TaskId) :
    (m.putTask id h).task? id' = if id' = id then some h else m.task? id' := by
  split_ifs with hid
  · subst hid
    simp [task?, putTask]
  · have hfilter : (m.tasks.filter fun p => p.1 ≠ id).find? (fun p => p.1 = id') =
        m.tasks.find? fun p => p.1 = id' := by
      rw [List.find?_filter]
      congr 1
      funext p
      by_cases hp : p.1 = id'
      · simp [hp, hid]
      · simp [hp]
    rw [task?, putTask, List.find?_cons_of_neg (by simpa using Ne.symm hid), hfilter, task?]

theorem expiry?_putTask (m : LocalMarket) (id : TaskId) (h : HostedTask) (id' : TaskId) :
    (m.putTask id h).expiry? id' = if id' = id then some h.expiresAt else m.expiry? id' := by
  rw [expiry?, task?_putTask]
  split_ifs
  · rfl
  · rfl

/-- A task that is put where it is, and expires when it did, changes no expiry. -/
theorem hosting_putTask (hh : m.task? id = some h) (h' : HostedTask)
    (hexpires : h'.expiresAt = h.expiresAt) : (m.putTask id h').hosting = m.hosting := by
  have hexpiry : (m.putTask id h').expiry? = m.expiry? := by
    funext id'
    rw [expiry?_putTask, hexpires]
    split_ifs with hid
    · rw [hid, expiry?, hh]
      rfl
    · rfl
  exact congrArg (Hosting.mk m.serial) hexpiry

end LocalMarket

/-! ### Calls -/

namespace LocalMarket

variable {α : Type}

/-- What a call means for the tasks, whatever it answers where it stops the program. -/
def Affects (event : Except MarketError α → DeskEvent) (now : Instant) (x : LocalStep α) : Prop :=
  ∀ m (cause : LocalFault → MarketError), Ends m x fun r m' =>
    Hosting.Effect (event (r.mapError cause)) now m.hosting m'.hosting

variable (now : Instant)

theorem affects_create (request : TaskRequest) :
    Affects (.create request) now (create now request) := by
  intro m cause
  refine ends_receive_bind (fun e => .idle (fun _ _ => rfl) trivial) ?_
  refine ends_modify_bind (ends_get_bind ?_)
  have herror : ∀ e : LocalFault, Hosting.Effect
      (.create request (Except.mapError cause (.error e))) now m.hosting
      ⟨m.serial + 1, m.expiry?⟩ := fun e => ⟨Nat.le_succ _, fun _ _ => rfl, trivial⟩
  refine ends_require_bind (fun e => herror e) fun id hid => ?_
  refine ends_require_bind (fun e => herror e) fun typeId _ => ?_
  refine ends_require_bind (fun e => herror e) fun groupId _ => ?_
  refine ends_later_bind (fun e => herror e) (ends_modify_bind ?_)
  have hunused : ¬m.hosting.IsUsed id := by
    rintro ⟨n, hn, hid'⟩
    have heq : n = m.serial + 1 := numbered_injective (by decide) hid' hid
    exact absurd hn (heq ▸ Nat.not_succ_le_self _)
  refine ⟨Nat.le_succ _, fun id' hid' => ?_, hunused, m.serial + 1, Nat.le_refl _, hid⟩
  exact (expiry?_putTask _ id _ id').trans (if_neg fun heq => hid' (congrArg some heq.symm))

/-- A call on a task: it fails without an effect, or goes on with the task. -/
theorem affects_onTask {event : Except MarketError α → DeskEvent} (call : MarketCall) {id : TaskId}
    {f : HostedTask → LocalStep α}
    (herror : ∀ cause s, Hosting.Effect (event (.error cause)) now s s)
    (hok : ∀ m h (cause : LocalFault → MarketError), m.task? id = some h → Ends m (f h) fun r m' =>
      Hosting.Effect (event (r.mapError cause)) now m.hosting m'.hosting) :
    Affects event now (do
      receive call
      f (← requireTask id)) := by
  intro m cause
  refine ends_receive_bind (fun e => herror (cause e) m.hosting) ?_
  refine ends_requireTask_bind (fun e => herror (cause e) m.hosting) fun h hh => ?_
  exact hok { m with calls := m.calls ++ [call] } h cause hh

theorem affects_addAssignments (id : TaskId) (n : UInt32) :
    Affects (.addAssignments id n) now (addAssignments id n) := by
  refine affects_onTask now _ (fun _ _ => .idle (fun _ _ => rfl) trivial)
    fun m h cause hh => ?_
  have hsame := hosting_putTask hh { h with maxAssignments := addCounts h.maxAssignments n } rfl
  exact ⟨Nat.le_refl _, fun id' _ => congrFun (congrArg Hosting.expiry? hsame) id', trivial⟩

theorem affects_extend (id : TaskId) (n : UInt64) :
    Affects (.extend id n) now (extend now id n) := by
  have herror : ∀ cause s, Hosting.Effect (.extend id n (.error cause)) now s s :=
    fun _ _ => .idle (fun _ _ => rfl) trivial
  refine affects_onTask now _ herror fun m h cause hh => ?_
  refine ends_later_bind (fun e => herror (cause e) m.hosting) (ends_modify_bind ?_)
  refine ⟨Nat.le_refl _, fun id' _ => expiry?_putTask m id _ id', h.expiresAt, ?_, rfl⟩
  exact congrArg (Option.map HostedTask.expiresAt) hh

theorem affects_expire (id : TaskId) : Affects (.expire id) now (expire now id) := by
  refine affects_onTask now _ (fun _ _ => .idle (fun _ _ => rfl) trivial)
    fun m h cause hh => ?_
  have hexpiry : m.expiry? id = some h.expiresAt := congrArg (Option.map HostedTask.expiresAt) hh
  refine ⟨Nat.le_refl _, fun id' _ => (expiry?_putTask m id _ id').trans ?_, h.expiresAt, hexpiry⟩
  change _ = if id' = id then (m.expiry? id').map (·.earlier now) else m.expiry? id'
  split_ifs with hid
  · rw [hid, hexpiry]
    rfl
  · rfl

theorem statusWord_ne_disposed (now : Instant) (h : HostedTask) :
    statusWord now h ≠ TaskStatus.disposed := by
  rw [statusWord]
  split_ifs
  · decide
  · decide

theorem affects_status (id : TaskId) : Affects (.status id) now (status now id) := by
  refine affects_onTask now _ (fun _ _ => .idle (fun _ _ => rfl) trivial)
    fun m h cause hh => ?_
  refine .idle (fun _ _ => rfl) ⟨rfl, ?_, statusWord_ne_disposed now h⟩
  exact congrArg (Option.map HostedTask.expiresAt) hh

theorem affects_page (id : TaskId) (number size : Nat) :
    Affects (.page id number size) now (page id number size) := by
  refine affects_onTask now _ (fun _ _ => .idle (fun _ _ => rfl) trivial)
    fun m h cause _ => ?_
  cases pageOf? h.submissions number size with
  | some items => exact .idle (fun _ _ => rfl) trivial
  | none => exact .idle (fun _ _ => rfl) trivial

theorem affects_balance : Affects .balance now readBalance := by
  intro m cause
  refine ends_receive_bind (fun e => .idle (fun _ _ => rfl) trivial) ?_
  exact .idle (fun _ _ => rfl) trivial

/-- The phase that the status of a task would show. -/
def phase? (m : LocalMarket) (id : TaskId) (now : Instant) : Option TaskPhase :=
  (m.task? id).map fun h => (statusOf now id h).phase now

/-- The phase is that of the time that is left. -/
theorem phase?_eq (m : LocalMarket) (id : TaskId) (now : Instant) :
    m.phase? id now = (m.expiry? id).map fun u =>
      if now.secondsUntil u ≤ 0 then .expired else .active := by
  rw [phase?, expiry?, Option.map_map]
  congr 1
  funext h
  have hstate : (statusOf now id h).state ≠ TaskStatus.disposed := statusWord_ne_disposed now h
  simp only [TaskStatus.phase, hstate, or_false]
  rfl

end LocalMarket

/-! ### Scenes -/

/-- What happens to a local marketplace while time passes, apart from the calls to it. -/
inductive Happening where
  | submission (id : TaskId) (a : Submission)
  | balance (amount : Option String)
  | failure (cause : Option MarketError)

/-- The marketplace after something happened. -/
def Happening.after (m : LocalMarket) : Happening → LocalMarket
  | .submission id a => (outcome (LocalMarket.submit id a) m).2
  | .balance amount => { m with balance := amount }
  | .failure cause => { m with failure := cause }

theorem Happening.hosting_after (x : Happening) (m : LocalMarket) :
    (x.after m).hosting = m.hosting := by
  cases x with
  | submission id a =>
    refine LocalMarket.ends_requireTask_bind
      (Q := fun _ m' => m'.hosting = m.hosting) (fun _ => rfl) fun h hh => ?_
    exact LocalMarket.hosting_putTask hh _ rfl
  | balance amount => rfl
  | failure cause => rfl

/-- What happens until the clock is read: time passes, never backwards. -/
structure Interlude where
  nanos : Nat
  happenings : List Happening

/-- The cause for which a call fails: the one for which it is refused, or `halt` where it would stop
the program. -/
def LocalFault.cause (halt : MarketError) : LocalFault → MarketError
  | .refused cause => cause
  | .beyondCalendar => halt

/-- A local marketplace with its clock, and whatever else there is. -/
structure Scene (ρ : Type) where
  market : LocalMarket
  now : Instant
  rest : ρ

namespace Scene

variable {ρ α : Type}

/-- A computation on whatever else there is. -/
def onRest (x : StateM ρ α) : StateM (Scene ρ) α := fun a =>
  let r := x.run a.rest
  (r.1, { a with rest := r.2 })

theorem run_onRest {x : StateM ρ α} {a : Scene ρ} {r : α} {o : ρ} (h : x.run a.rest = (r, o)) :
    (onRest x).run a = (r, { a with rest := o }) := by
  change ((x.run a.rest).1, { a with rest := (x.run a.rest).2 }) = _
  rw [h]

/-- The scene after an interlude. -/
def pass (a : Scene ρ) (i : Interlude) : Scene ρ :=
  { a with
    market := i.happenings.foldl Happening.after a.market
    now := ⟨a.now.nanos + i.nanos⟩ }

/-- Reads the clock, after the interlude that `pace` tells. -/
def tick (pace : StateM ρ Interlude) : StateM (Scene ρ) Instant := do
  let i ← onRest pace
  modify (pass · i)
  return (← get).now

/-- Makes a call to the marketplace. `cause` tells the cause for which it fails. -/
def onMarket (cause : LocalFault → MarketError) (x : LocalStep α) :
    StateM (Scene ρ) (Except MarketError α) := fun a =>
  let r := outcome x a.market
  (r.1.mapError cause, { a with market := r.2 })

/-- What a call with its answer means for a scene. -/
structure Step (x : DeskEvent) (a b : Scene ρ) : Prop where
  clock : a.now ≤ b.now
  time : ∀ now, x = .clock now → b.now = now
  effect : Hosting.Effect x b.now a.market.hosting b.market.hosting

theorem Step.isUsed {x : DeskEvent} {a b : Scene ρ} (h : Step x a b) {id : TaskId}
    (hid : a.market.hosting.IsUsed id) : b.market.hosting.IsUsed id :=
  hid.mono h.effect.serial

/-- A task is created under an identifier that was not used. -/
theorem Step.created?_ne {x : DeskEvent} {a b : Scene ρ} (h : Step x a b) {id : TaskId}
    (hid : a.market.hosting.IsUsed id) : x.created? ≠ some id := by
  cases x with
  | create request r =>
    rcases r with cause | r
    · nofun
    · rintro ⟨⟩
      exact h.effect.answered.1 hid
  | _ => nofun

/-- Whether a task is hosted that expires at an instant which is related by `P` to the time of the
clock. -/
def At (id : TaskId) (P : Instant → Instant → Prop) (a : Scene ρ) : Prop :=
  a.market.hosting.IsUsed id ∧ ∃ u, a.market.expiry? id = some u ∧ P a.now u

/-- Whether a task expires when it did before, and shows the same phase at any time. -/
def ExpiresAlike (id : TaskId) (a b : Scene ρ) : Prop :=
  b.market.expiry? id = a.market.expiry? id ∧
    ∀ now, b.market.phase? id now = a.market.phase? id now

theorem expiresAlike_of_eq {id : TaskId} {a b : Scene ρ}
    (h : b.market.expiry? id = a.market.expiry? id) : ExpiresAlike id a b :=
  ⟨h, fun now => by rw [LocalMarket.phase?_eq, LocalMarket.phase?_eq, h]⟩

section At

variable {x : DeskEvent} {a b : Scene ρ} {id : TaskId} {u : Instant}

/-- Only two calls change when a task expires. -/
theorem Step.expiry?_eq (h : Step x a b) (hid : a.market.hosting.IsUsed id)
    (hextend : ∀ n t, x ≠ .extend id n (.ok t)) (hexpire : x ≠ .expire id (.ok ())) :
    b.market.expiry? id = a.market.expiry? id := by
  refine (h.effect.expiry id (h.created?_ne hid)).trans ?_
  cases x with
  | extend id' n r =>
    rcases r with cause | t
    · rfl
    · exact if_neg fun heq => hextend n t (by rw [heq])
  | expire id' r =>
    rcases r with cause | ⟨⟨⟩⟩
    · rfl
    · exact if_neg fun heq => hexpire (by rw [heq])
  | _ => rfl

/-- A call lets a task expire later, or now, or when it did before. -/
theorem Step.expiry?_cases (h : Step x a b) (hid : a.market.hosting.IsUsed id)
    (hu : a.market.expiry? id = some u) :
    (∃ n t, x = .extend id n (.ok t) ∧ t = (u.later b.now).plusSeconds n.toNat ∧
      b.market.expiry? id = some t) ∨
    (x = .expire id (.ok ()) ∧ b.market.expiry? id = some (u.earlier b.now)) ∨
    b.market.expiry? id = some u := by
  have hexpiry : b.market.expiry? id = x.expiryAfter id b.now (some u) :=
    (h.effect.expiry id (h.created?_ne hid)).trans (congrArg _ hu)
  by_cases hextend : ∃ n t, x = .extend id n (.ok t)
  · obtain ⟨n, t, rfl⟩ := hextend
    obtain ⟨u', hu', ht⟩ := h.effect.answered
    obtain rfl : u = u' := Option.some.inj (hu.symm.trans hu')
    exact Or.inl ⟨n, t, rfl, ht, hexpiry.trans (if_pos rfl)⟩
  by_cases hexpire : x = .expire id (.ok ())
  · subst hexpire
    exact Or.inr (Or.inl ⟨rfl, hexpiry.trans (if_pos rfl)⟩)
  · refine Or.inr (Or.inr ((h.expiry?_eq hid (fun n t hx => ?_) hexpire).trans hu))
    exact hextend ⟨n, t, hx⟩

/-- What is related to the time of the clock remains so as time passes, and where `P` allows it also
when the task is extended or expired. -/
theorem Step.at_after {P : Instant → Instant → Prop} (h : Step x a b)
    (hclock : ∀ now now' u, now ≤ now' → P now u → P now' u)
    (hextend : ∀ n t, x = .extend id n (.ok t) →
      ∀ now u, P now u → P now ((u.later now).plusSeconds n.toNat))
    (hexpire : x = .expire id (.ok ()) → ∀ now u, P now u → P now (u.earlier now))
    (ha : a.At id P) : b.At id P := by
  obtain ⟨hid, u, hu, hP⟩ := ha
  have hP' := hclock _ _ _ h.clock hP
  refine ⟨h.isUsed hid, ?_⟩
  rcases h.expiry?_cases hid hu with ⟨n, t, hx, rfl, ht⟩ | ⟨hx, hu'⟩ | hu'
  · exact ⟨_, ht, hextend n _ hx _ _ hP'⟩
  · exact ⟨_, hu', hexpire hx _ _ hP'⟩
  · exact ⟨u, hu', hP'⟩

end At

theorem hosting_pass (a : Scene ρ) (i : Interlude) :
    (a.pass i).market.hosting = a.market.hosting := by
  change (i.happenings.foldl Happening.after a.market).hosting = _
  induction i.happenings generalizing a with
  | nil => rfl
  | cons x xs ih =>
    rw [List.foldl_cons, ih { a with market := x.after a.market }, Happening.hosting_after]

/-- The clock does not go back, and no task comes to expire at another time meanwhile. -/
theorem run_tick (pace : StateM ρ Interlude) (a : Scene ρ) :
    ∃ b : Scene ρ, (tick pace).run a = (b.now, b) ∧ a.now ≤ b.now ∧
      b.market.hosting = a.market.hosting :=
  ⟨({ a with rest := (pace.run a.rest).2 } : Scene ρ).pass (pace.run a.rest).1, rfl,
    Int.le_add_of_nonneg_right (Int.natCast_nonneg _), hosting_pass _ _⟩

theorem step_tick (pace : StateM ρ Interlude) (a : Scene ρ) :
    Step (.clock ((tick pace).run a).1) a ((tick pace).run a).2 := by
  obtain ⟨b, hrun, hclock, hhosting⟩ := run_tick pace a
  rw [hrun]
  refine ⟨hclock, fun now h => DeskEvent.clock.inj h, ?_⟩
  rw [hhosting]
  exact .idle (fun _ _ => rfl) trivial

/-- What neither calls the marketplace nor reads the clock. -/
theorem step_rest {x : DeskEvent} {a : Scene ρ} (r : ρ) (hclock : ∀ now, x ≠ .clock now)
    (hexpiry : ∀ id now u, x.expiryAfter id now u = u) (hanswer : ∀ now s, x.IsAnswered now s s) :
    Step x a { a with rest := r } :=
  ⟨Instant.le_refl _, fun now h => absurd h (hclock now),
    .idle (fun id u => hexpiry id _ u) (hanswer _ _)⟩

/-- A call at the time of the clock. -/
theorem step_call {event : Except MarketError α → DeskEvent} {x : Instant → LocalStep α}
    (h : ∀ now, LocalMarket.Affects event now (x now)) (hclock : ∀ r now, event r ≠ .clock now)
    (pace : StateM ρ Interlude) (cause : LocalFault → MarketError) (a : Scene ρ) :
    Step (event ((do onMarket cause (x (← tick pace))).run a).1) a
      ((do onMarket cause (x (← tick pace))).run a).2 := by
  obtain ⟨b, hrun, hle, hhosting⟩ := run_tick pace a
  have hcall : (do onMarket cause (x (← tick pace))).run a =
      (onMarket cause (x ((tick pace).run a).1)).run ((tick pace).run a).2 := rfl
  rw [hcall, hrun]
  refine ⟨hle, fun now h => absurd h (hclock _ now), ?_⟩
  rw [← hhosting]
  exact h b.now b.market cause

/-- A call for which the time does not matter. -/
theorem step_timeless {event : Except MarketError α → DeskEvent} {x : LocalStep α}
    (h : ∀ now, LocalMarket.Affects event now x) (hclock : ∀ r now, event r ≠ .clock now)
    (cause : LocalFault → MarketError) (a : Scene ρ) :
    Step (event ((onMarket cause x).run a).1) a ((onMarket cause x).run a).2 :=
  ⟨Instant.le_refl _, fun now h => absurd h (hclock _ now), h _ a.market cause⟩

end Scene

end CrowdTask
