import CrowdTask.Interruption

/-!
# Trails of runs

A run calls the ports of a desk, and each call may change the world that the desk is part of. An
observed run keeps a trail: for each call, the world before it, the call with its answer, and the
world after it. Nothing but a call changes the world, so a trail leads from the world in which the
run begins to the one in which it ends.

## Main definitions

* `CrowdTask.DeskEvent`, `CrowdTask.DeskStep`: a call with its answer, and the worlds around it.
* `CrowdTask.Observed`: a world with a trail.
* `CrowdTask.Desk.observed`: a desk whose calls leave a trail.
* `CrowdTask.Leads`: how a run ends that begins in a given world, together with its trail.
* `CrowdTask.Observes`: that an observed run does what another one does, and what its steps keep
  to.
* `CrowdTask.Episode`, `CrowdTask.chronicle`: one run with its trail, and a sequence of runs.
* `CrowdTask.Precedes`: the order of the runs of a sequence.

## Main results

* `CrowdTask.Leads.bind`, `CrowdTask.Leads.attempt`, `CrowdTask.Leads.foldlM`: the rules for runs.
* `CrowdTask.Leads.episode`: what the rules say of a run holds of its episode.
-/

namespace CrowdTask

/-- A call at a desk with its answer. -/
inductive DeskEvent where
  | load (answer : Except RecordError Registry)
  | save (records : Registry) (answer : Except RecordError Unit)
  | ids (answer : Except ResultError (List AssignmentId))
  | put (result : WorkResult) (answer : Except ResultError Unit)
  | append (entry : JournalEntry) (answer : Except JournalError Unit)
  | create (request : TaskRequest) (answer : Except MarketError TaskRecord)
  | addAssignments (id : TaskId) (count : UInt32) (answer : Except MarketError Unit)
  | extend (id : TaskId) (seconds : UInt64) (answer : Except MarketError Instant)
  | expire (id : TaskId) (answer : Except MarketError Unit)
  | status (id : TaskId) (answer : Except MarketError TaskStatus)
  | page (id : TaskId) (number size : Nat) (answer : Except MarketError ListingPage)
  | balance (answer : Except MarketError String)
  | clock (answer : Instant)

/-- A call with the worlds before and after it. -/
structure DeskStep (w : Type) where
  before : w
  event : DeskEvent
  after : w

/-- A world, and the steps that led to it. -/
structure Observed (w : Type) where
  world : w
  trail : List (DeskStep w)

variable {w α β ε τ : Type}

/-- A call that leaves a step. -/
def observe (event : α → DeskEvent) (call : StateM w α) : StateM (Observed w) α := fun o =>
  let r := call.run o.world
  (r.1, ⟨r.2, o.trail ++ [⟨o.world, event r.1, r.2⟩]⟩)

/-- A store of the registry whose calls leave a trail. -/
def RecordStore.observed (s : RecordStore (StateM w)) : RecordStore (StateM (Observed w)) where
  load := observe .load s.load
  save records := observe (.save records) (s.save records)

/-- A store of results whose calls leave a trail. -/
def ResultStore.observed (s : ResultStore (StateM w)) : ResultStore (StateM (Observed w)) where
  ids := observe .ids s.ids
  put r := observe (.put r) (s.put r)

/-- A journal whose calls leave a trail. -/
def Journal.observed (j : Journal (StateM w)) : Journal (StateM (Observed w)) where
  append r := observe (.append r) (j.append r)

/-- A marketplace whose calls leave a trail. -/
def Marketplace.observed (s : Marketplace (StateM w)) : Marketplace (StateM (Observed w)) where
  create request := observe (.create request) (s.create request)
  addAssignments id count := observe (.addAssignments id count) (s.addAssignments id count)
  extend id seconds := observe (.extend id seconds) (s.extend id seconds)
  expire id := observe (.expire id) (s.expire id)
  status id := observe (.status id) (s.status id)
  page id number size := observe (.page id number size) (s.page id number size)
  balance := observe .balance s.balance

/-- A desk whose calls leave a trail. -/
def Desk.observed (d : Desk (StateM w)) : Desk (StateM (Observed w)) where
  records := d.records.observed
  results := d.results.observed
  journal := d.journal.observed
  market := d.market.observed
  clock := observe .clock d.clock

/-- An interrupted call ends where the question for a cause against it ended, or goes on from
there. -/
theorem run_barring (cause : StateM w (Option ε)) (call : StateM w (Except ε α)) (a : w) :
    (barring cause call).run a =
      (cause.run a).1.elim (call.run (cause.run a).2) fun e => (.error e, (cause.run a).2) := by
  rcases hcause : cause.run a with ⟨_ | e, b⟩
  · simp only [barring, StateT.run_bind, hcause]
    rfl
  · simp only [barring, StateT.run_bind, hcause]
    rfl

/-- So it fails there, or is made there. -/
theorem run_barring_cases (cause : StateM w (Option ε)) (call : StateM w (Except ε α)) (a : w) :
    (∃ e, (barring cause call).run a = (.error e, (cause.run a).2)) ∨
      (barring cause call).run a = call.run (cause.run a).2 := by
  rw [run_barring]
  rcases (cause.run a).1 with _ | e
  · exact Or.inr rfl
  · exact Or.inl ⟨e, rfl⟩

/-! ### Trails -/

/-- Whether the steps lead from one world to another, each beginning where the one before it
ended. -/
def IsTrail : w → List (DeskStep w) → w → Prop
  | a, [], b => a = b
  | a, step :: steps, b => step.before = a ∧ IsTrail step.after steps b

namespace IsTrail

variable {a b c : w} {steps steps' : List (DeskStep w)}

theorem append (h : IsTrail a steps b) (h' : IsTrail b steps' c) :
    IsTrail a (steps ++ steps') c := by
  induction steps generalizing a with
  | nil =>
    obtain rfl : a = b := h
    exact h'
  | cons step steps ih => exact ⟨h.1, ih h.2⟩

/-- A relation that holds around every step of a trail, and that is reflexive and transitive, holds
between its ends. -/
theorem rel {R : w → w → Prop} (hrefl : ∀ a, R a a) (htrans : ∀ a b c, R a b → R b c → R a c)
    (h : IsTrail a steps b) (hsteps : ∀ step ∈ steps, R step.before step.after) : R a b := by
  induction steps generalizing a with
  | nil =>
    obtain rfl : a = b := h
    exact hrefl a
  | cons step steps ih =>
    obtain ⟨rfl, h⟩ := h
    exact htrans _ _ _ (hsteps step List.mem_cons_self)
      (ih h fun step' h' => hsteps step' (List.mem_cons_of_mem step h'))

/-- What every step of a trail preserves holds in the end, and before and after every step. -/
theorem invariant {I : w → Prop} (h : IsTrail a steps b) (ha : I a)
    (hsteps : ∀ step ∈ steps, I step.before → I step.after) :
    I b ∧ ∀ step ∈ steps, I step.before ∧ I step.after := by
  induction steps generalizing a with
  | nil =>
    obtain rfl : a = b := h
    exact ⟨ha, List.forall_mem_nil _⟩
  | cons step steps ih =>
    obtain ⟨rfl, h⟩ := h
    obtain ⟨hfirst, hrest⟩ := List.forall_mem_cons.mp hsteps
    have hafter := hfirst ha
    obtain ⟨hb, hall⟩ := ih h hafter hrest
    exact ⟨hb, List.forall_mem_cons.mpr ⟨⟨ha, hafter⟩, hall⟩⟩

/-- The steps behind one of a trail lead from where it ended to the end. -/
theorem of_append_cons {step : DeskStep w} (h : IsTrail a (steps ++ step :: steps') b) :
    IsTrail step.after steps' b := by
  induction steps generalizing a with
  | nil => exact h.2
  | cons _ steps ih => exact ih h.2

end IsTrail

/-! ### Runs that may fail -/

/-- How a run ends that begins in a given state: with a value or a cause, and in some state. -/
def outcome {s : Type} (x : ExceptT ε (StateM s) α) (a : s) : Except ε α × s := x.run.run a

section Outcome

variable {s : Type} {x : ExceptT ε (StateM s) α} (f : α → ExceptT ε (StateM s) β) {a b : s}

/-- The second part of a run begins where the first one ended. -/
theorem outcome_bind_of_ok {v : α} (h : outcome x a = (.ok v, b)) :
    outcome (x >>= f) a = outcome (f v) b := by
  change (ExceptT.bindCont f (outcome x a).1).run (outcome x a).2 = _
  rw [h]
  rfl

/-- Nothing follows a part of a run that failed. -/
theorem outcome_bind_of_error {e : ε} (h : outcome x a = (.error e, b)) :
    outcome (x >>= f) a = (.error e, b) := by
  change (ExceptT.bindCont f (outcome x a).1).run (outcome x a).2 = _
  rw [h]
  rfl

theorem outcome_attempt {ε' : Type} (cause : ε' → ε) {call : StateM s (Except ε' α)}
    {r : Except ε' α} (h : call.run a = (r, b)) :
    outcome (attempt cause call) a = (r.mapError cause, b) := by
  change ((call.run a).1.mapError cause, (call.run a).2) = _
  rw [h]

theorem outcome_lift {call : StateM s α} {v : α} (h : call.run a = (v, b)) :
    outcome (MonadLift.monadLift call : ExceptT ε (StateM s) α) a = (.ok v, b) := by
  change (Except.ok (call.run a).1, (call.run a).2) = _
  rw [h]

end Outcome

/-- Begun in the world `a`, the run `x` extends every trail by steps to the world in which it ends,
and the steps, that world and the answer are related by `Q`. -/
def Leads (a : w) (x : ExceptT ε (StateM (Observed w)) α)
    (Q : List (DeskStep w) → w → Except ε α → Prop) : Prop :=
  ∀ trail, ∃ steps b r,
    outcome x ⟨a, trail⟩ = (r, ⟨b, trail ++ steps⟩) ∧ IsTrail a steps b ∧ Q steps b r

namespace Leads

variable {a : w} {x : ExceptT ε (StateM (Observed w)) α}
  {Q Q' : List (DeskStep w) → w → Except ε α → Prop}

theorem mono (h : Leads a x Q)
    (hQ : ∀ steps b r, IsTrail a steps b → Q steps b r → Q' steps b r) : Leads a x Q' := by
  intro trail
  obtain ⟨steps, b, r, hx, ht, hq⟩ := h trail
  exact ⟨steps, b, r, hx, ht, hQ steps b r ht hq⟩

theorem pure (v : α) (h : Q [] a (.ok v)) :
    Leads a (Pure.pure v : ExceptT ε (StateM (Observed w)) α) Q := by
  intro trail
  exact ⟨[], a, .ok v, by rw [List.append_nil]; rfl, rfl, h⟩

theorem throw (e : ε) (h : Q [] a (.error e)) :
    Leads a (MonadExcept.throw e : ExceptT ε (StateM (Observed w)) α) Q := by
  intro trail
  exact ⟨[], a, .error e, by rw [List.append_nil]; rfl, rfl, h⟩

/-- Two facts about the same run hold of the same steps. -/
theorem and (h : Leads a x Q) (h' : Leads a x Q') :
    Leads a x fun steps b r => Q steps b r ∧ Q' steps b r := by
  intro trail
  obtain ⟨steps, b, r, hx, ht, hq⟩ := h trail
  obtain ⟨steps', b', r', hx', -, hq'⟩ := h' trail
  simp only [hx, Prod.mk.injEq, Observed.mk.injEq, List.append_cancel_left_eq] at hx'
  obtain ⟨rfl, rfl, rfl⟩ := hx'
  exact ⟨steps, b, r, hx, ht, hq, hq'⟩

/-- A run in two parts: the second one begins where the first one ended, unless that failed. -/
theorem bind {f : α → ExceptT ε (StateM (Observed w)) β}
    {R : List (DeskStep w) → w → Except ε β → Prop}
    (hx : Leads a x fun steps c r =>
      match r with
      | .ok v => Leads c (f v) fun steps' b r' => R (steps ++ steps') b r'
      | .error e => R steps c (.error e)) :
    Leads a (x >>= f) R := by
  intro trail
  obtain ⟨steps, c, r, hrun, ht, hr⟩ := hx trail
  cases r with
  | error e => exact ⟨steps, c, .error e, outcome_bind_of_error f hrun, ht, hr⟩
  | ok v =>
    obtain ⟨steps', b, r', hrun', ht', hr'⟩ := hr (trail ++ steps)
    refine ⟨steps ++ steps', b, r', ?_, ht.append ht', hr'⟩
    rw [outcome_bind_of_ok f hrun, hrun', List.append_assoc]

/-- A call that may fail for a cause of another kind. -/
theorem attempt {ε' : Type} (cause : ε' → ε) (event : Except ε' α → DeskEvent)
    (call : StateM w (Except ε' α))
    (h : Q [⟨a, event (call.run a).1, (call.run a).2⟩] (call.run a).2
      ((call.run a).1.mapError cause)) :
    Leads a (CrowdTask.attempt cause (observe event call)) Q := by
  intro trail
  exact ⟨_, _, _, rfl, ⟨rfl, rfl⟩, h⟩

/-- A call that does not fail, among the steps of a run that may. -/
theorem lift (event : α → DeskEvent) (call : StateM w α)
    (h : Q [⟨a, event (call.run a).1, (call.run a).2⟩] (call.run a).2 (.ok (call.run a).1)) :
    Leads a (MonadLift.monadLift (observe event call) : ExceptT ε (StateM (Observed w)) α) Q := by
  intro trail
  exact ⟨_, _, _, rfl, ⟨rfl, rfl⟩, h⟩

/-- A run as a part of another one, which may fail for causes of another kind. -/
theorem attempt_run {ε' : Type} (cause : ε → ε') {R : List (DeskStep w) → w → Except ε' α → Prop}
    (h : Leads a x fun steps b r => R steps b (r.mapError cause)) :
    Leads a (CrowdTask.attempt cause x.run) R := by
  intro trail
  obtain ⟨steps, b, r, hx, ht, hr⟩ := h trail
  refine ⟨steps, b, r.mapError cause, ?_, ht, hr⟩
  change ((outcome x ⟨a, trail⟩).1.mapError cause, (outcome x ⟨a, trail⟩).2) = _
  rw [hx]

/-- A run over the items of a list: `I` holds of the items that are done, the state that was reached
and the steps so far, and `E` of the steps and the cause if the run fails on an item. -/
theorem foldlM {f : β → α → ExceptT ε (StateM (Observed w)) β}
    {I : List α → β → List (DeskStep w) → w → Prop} {E : List (DeskStep w) → w → ε → Prop}
    (items : List α) {p : β} (hnil : I [] p [] a)
    (hitem : ∀ done x rest p steps c, items = done ++ x :: rest → I done p steps c →
      Leads c (f p x) fun steps' b r =>
        match r with
        | .ok p' => I (done ++ [x]) p' (steps ++ steps') b
        | .error e => E (steps ++ steps') b e) :
    Leads a (items.foldlM f p) fun steps b r =>
      match r with
      | .ok p' => I items p' steps b
      | .error e => E steps b e := by
  induction items generalizing a p I E with
  | nil => exact pure p hnil
  | cons x rest ih =>
    rw [List.foldlM_cons]
    refine bind ((hitem [] x rest p [] a rfl hnil).mono ?_)
    rintro steps c (e | p') - h
    · exact h
    · refine (ih (I := fun done p'' s b => I (x :: done) p'' (steps ++ s) b)
        (E := fun s b e => E (steps ++ s) b e) (by simpa using h) ?_).mono ?_
      · intro done y rest' p'' s c' hrest h'
        subst hrest
        simpa only [List.cons_append, List.append_assoc] using
          hitem (x :: done) y rest' p'' (steps ++ s) c' rfl h'
      · rintro s b (e | p'') - h' <;> exact h'

end Leads

/-- Wherever it begins, the observed run `x` does what the run `y` does: it has the same answer and
ends in the same world. Every step of it has the property `C`. -/
def Observes (C : DeskStep w → Prop) (x : ExceptT ε (StateM (Observed w)) α)
    (y : ExceptT ε (StateM w) α) : Prop :=
  ∀ a, Leads a x fun steps b r => outcome y a = (r, b) ∧ ∀ step ∈ steps, C step

namespace Observes

variable {C : DeskStep w → Prop} {x : ExceptT ε (StateM (Observed w)) α}
  {y : ExceptT ε (StateM w) α}

theorem pure (v : α) : Observes C (Pure.pure v : ExceptT ε (StateM (Observed w)) α) (Pure.pure v) :=
  fun _ => .pure v ⟨rfl, List.forall_mem_nil _⟩

theorem throw (e : ε) :
    Observes C (MonadExcept.throw e : ExceptT ε (StateM (Observed w)) α) (MonadExcept.throw e) :=
  fun _ => .throw e ⟨rfl, List.forall_mem_nil _⟩

theorem bind {f : α → ExceptT ε (StateM (Observed w)) β} {g : α → ExceptT ε (StateM w) β}
    (hx : Observes C x y) (hf : ∀ v, Observes C (f v) (g v)) :
    Observes C (x >>= f) (y >>= g) := by
  intro a
  refine .bind ((hx a).mono ?_)
  rintro steps c (e | v) - ⟨hy, h⟩
  · exact ⟨outcome_bind_of_error g hy, h⟩
  · refine (hf v c).mono fun steps' b r _ ⟨hg, h'⟩ => ⟨?_, List.forall_mem_append.mpr ⟨h, h'⟩⟩
    rw [outcome_bind_of_ok g hy, hg]

theorem attempt {ε' : Type} (cause : ε' → ε) (event : Except ε' α → DeskEvent)
    (call : StateM w (Except ε' α))
    (h : ∀ a, C ⟨a, event (call.run a).1, (call.run a).2⟩) :
    Observes C (CrowdTask.attempt cause (observe event call)) (CrowdTask.attempt cause call) :=
  fun a => .attempt cause event call ⟨rfl, List.forall_mem_singleton.mpr (h a)⟩

theorem lift (event : α → DeskEvent) (call : StateM w α)
    (h : ∀ a, C ⟨a, event (call.run a).1, (call.run a).2⟩) :
    Observes C (MonadLift.monadLift (observe event call) : ExceptT ε (StateM (Observed w)) α)
      (MonadLift.monadLift call) :=
  fun a => .lift event call ⟨rfl, List.forall_mem_singleton.mpr (h a)⟩

theorem attempt_run {ε' : Type} (cause : ε → ε') (h : Observes C x y) :
    Observes C (CrowdTask.attempt cause x.run) (CrowdTask.attempt cause y.run) := by
  refine fun a => .attempt_run cause ((h a).mono fun steps b r _ ⟨hy, hsteps⟩ => ⟨?_, hsteps⟩)
  change ((outcome y a).1.mapError cause, (outcome y a).2) = _
  rw [hy]

theorem foldlM {f : β → α → ExceptT ε (StateM (Observed w)) β}
    {g : β → α → ExceptT ε (StateM w) β} (items : List α)
    (hf : ∀ p x, Observes C (f p x) (g p x)) (p : β) :
    Observes C (items.foldlM f p) (items.foldlM g p) := by
  induction items generalizing p with
  | nil => exact pure p
  | cons x rest ih =>
    rw [List.foldlM_cons, List.foldlM_cons]
    exact bind (hf p x) ih

end Observes

/-! ### Episodes -/

/-- One run with its trail. -/
structure Episode (w α : Type) where
  before : w
  answer : α
  steps : List (DeskStep w)
  after : w

/-- The run `x`, begun in the world `a`. -/
def episode (x : StateM (Observed w) α) (a : w) : Episode w α :=
  let r := x.run ⟨a, []⟩
  ⟨a, r.1, r.2.trail, r.2.world⟩

/-- The runs for the given tasks, each of them begun in the world in which the one before it
ended. -/
def chronicle (run : τ → StateM (Observed w) α) : List τ → w → List (τ × Episode w α)
  | [], _ => []
  | t :: ts, a => (t, episode (run t) a) :: chronicle run ts (episode (run t) a).after

/-- The world in which a sequence of runs ends. -/
def worldAfter (run : τ → StateM (Observed w) α) (ts : List τ) (a : w) : w :=
  ts.foldl (fun b t => (episode (run t) b).after) a

@[simp]
theorem chronicle_nil (run : τ → StateM (Observed w) α) (a : w) : chronicle run [] a = [] := rfl

theorem chronicle_cons (run : τ → StateM (Observed w) α) (t : τ) (ts : List τ) (a : w) :
    chronicle run (t :: ts) a =
      (t, episode (run t) a) :: chronicle run ts (episode (run t) a).after := rfl

theorem worldAfter_cons (run : τ → StateM (Observed w) α) (t : τ) (ts : List τ) (a : w) :
    worldAfter run (t :: ts) a = worldAfter run ts (episode (run t) a).after := rfl

/-- The runs of a sequence in two parts. -/
theorem chronicle_append (run : τ → StateM (Observed w) α) (ts ts' : List τ) (a : w) :
    chronicle run (ts ++ ts') a =
      chronicle run ts a ++ chronicle run ts' (worldAfter run ts a) := by
  induction ts generalizing a with
  | nil => rfl
  | cons t ts ih =>
    rw [List.cons_append, chronicle_cons, chronicle_cons, worldAfter_cons, ih, List.cons_append]

theorem Leads.episode {a : w} {x : ExceptT ε (StateM (Observed w)) α}
    {Q : List (DeskStep w) → w → Except ε α → Prop} (h : Leads a x Q) :
    IsTrail a (CrowdTask.episode x.run a).steps (CrowdTask.episode x.run a).after ∧
      Q (CrowdTask.episode x.run a).steps (CrowdTask.episode x.run a).after
        (CrowdTask.episode x.run a).answer := by
  obtain ⟨steps, b, r, hx, ht, hq⟩ := h []
  change (x.run.run ⟨a, []⟩ : Except ε α × Observed w) = (r, ⟨b, [] ++ steps⟩) at hx
  simp only [CrowdTask.episode, hx]
  exact ⟨ht, hq⟩

/-- The episode of an observed run ends as the run itself does. -/
theorem Observes.episode {C : DeskStep w → Prop} {x : ExceptT ε (StateM (Observed w)) α}
    {y : ExceptT ε (StateM w) α} (h : Observes C x y) (a : w) :
    ((CrowdTask.episode x.run a).answer, (CrowdTask.episode x.run a).after) = y.run.run a :=
  (h a).episode.2.1.symm

/-- What holds of every run that begins with the invariant `I`, and is such that `I` holds in the
end, holds of all runs of a sequence. -/
theorem forall_mem_chronicle (run : τ → StateM (Observed w) α) {I : w → Prop}
    {P : τ → Episode w α → Prop}
    (hrun : ∀ t a, I a → P t (episode (run t) a) ∧ I (episode (run t) a).after)
    (ts : List τ) {a : w} (ha : I a) :
    (∀ r ∈ chronicle run ts a, P r.1 r.2) ∧ I (worldAfter run ts a) := by
  induction ts generalizing a with
  | nil => exact ⟨List.forall_mem_nil _, ha⟩
  | cons t ts ih =>
    obtain ⟨hfirst, hafter⟩ := hrun t a ha
    obtain ⟨hrest, hend⟩ := ih hafter
    exact ⟨List.forall_mem_cons.mpr ⟨hfirst, hrest⟩, hend⟩

theorem fst_mem_of_mem_chronicle {run : τ → StateM (Observed w) α} {ts : List τ} {a : w}
    {r : τ × Episode w α} (h : r ∈ chronicle run ts a) : r.1 ∈ ts := by
  induction ts generalizing a with
  | nil => exact nomatch h
  | cons t ts ih =>
    rcases List.mem_cons.mp h with rfl | h
    · exact List.mem_cons_self
    · exact List.mem_cons_of_mem _ (ih h)

/-- The runs of a sequence follow one another. -/
theorem isTrail_chronicle (run : τ → StateM (Observed w) α)
    (hrun : ∀ t a, IsTrail a (episode (run t) a).steps (episode (run t) a).after)
    (ts : List τ) (a : w) :
    IsTrail a ((chronicle run ts a).flatMap fun r => r.2.steps) (worldAfter run ts a) := by
  induction ts generalizing a with
  | nil => rfl
  | cons t ts ih => exact (hrun t a).append (ih _)

/-- Each run of a sequence begins where the one before it ended. -/
theorem before_of_chronicle_eq {run : τ → StateM (Observed w) α} {ts : List τ} {a : w}
    {earlier later : List (τ × Episode w α)} {r r' : τ × Episode w α}
    (h : chronicle run ts a = earlier ++ r :: r' :: later) : r'.2.before = r.2.after := by
  induction ts generalizing a earlier with
  | nil => simp [chronicle] at h
  | cons t ts ih =>
    cases earlier with
    | cons e earlier => exact ih (List.cons.inj h).2
    | nil =>
      obtain ⟨rfl, hrest⟩ := List.cons.inj h
      cases ts with
      | nil => simp [chronicle] at hrest
      | cons t' ts =>
        obtain ⟨rfl, -⟩ := List.cons.inj hrest
        rfl

/-- Whether a run comes before another one, where all runs between them have the property `P`. -/
def Precedes (runs : List (τ × Episode w α)) (P : Episode w α → Prop) (r r' : τ × Episode w α) :
    Prop :=
  ∃ earlier between later, runs = earlier ++ r :: (between ++ r' :: later) ∧ ∀ q ∈ between, P q.2

namespace Precedes

variable {runs : List (τ × Episode w α)} {P : Episode w α → Prop} {r r' : τ × Episode w α}

theorem mem_left (h : Precedes runs P r r') : r ∈ runs := by
  obtain ⟨earlier, between, later, rfl, -⟩ := h
  simp

theorem mem_right (h : Precedes runs P r r') : r' ∈ runs := by
  obtain ⟨earlier, between, later, rfl, -⟩ := h
  simp

/-- What holds after a run, and is preserved by the runs between, holds before the later run. -/
theorem invariant {run : τ → StateM (Observed w) α} {ts : List τ} {a : w} {I : w → Prop}
    (h : Precedes (chronicle run ts a) P r r') (hafter : I r.2.after)
    (hruns : ∀ q ∈ chronicle run ts a, P q.2 → I q.2.before → I q.2.after) : I r'.2.before := by
  obtain ⟨earlier, between, later, heq, hbetween⟩ := h
  induction between generalizing earlier r with
  | nil =>
    rw [before_of_chronicle_eq heq]
    exact hafter
  | cons q between ih =>
    obtain ⟨hq, hbetween⟩ := List.forall_mem_cons.mp hbetween
    have hbefore : q.2.before = r.2.after := before_of_chronicle_eq heq
    refine ih (r := q) (hruns q ?_ hq (hbefore ▸ hafter)) (earlier ++ [r]) ?_ hbetween
    · rw [heq]
      simp
    · rw [heq, List.append_assoc]
      rfl

end Precedes

end CrowdTask
