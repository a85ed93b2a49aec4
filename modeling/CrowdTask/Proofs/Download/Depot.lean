import CrowdTask.Proofs.Download.Account
import CrowdTask.Store.Memory

/-!
# Downloads from a growing listing

A series of downloads meets a listing that only grows, and a place for results in memory. Before
each call further assignments may be listed, and the call may fail without effect. What is listed,
and which calls fail, is settled by a computation that is not restricted in any way.

## Main definitions

* `CrowdTask.Depot`: what a series of downloads meets.
* `CrowdTask.Disturbance`: what happens between its calls.
* `CrowdTask.Depot.download`: a download, observed.
* `CrowdTask.Depot.IsLawful`: what every step of a download keeps to.

## Main results

* `CrowdTask.Depot.run_page`, `CrowdTask.Depot.run_ids`, `CrowdTask.Depot.run_put`: the calls.
* `CrowdTask.Depot.leads_takePages`: successive pages make up a slice of the listing.
* `CrowdTask.Depot.observes_isLawful`: what every step of a download keeps to.
* `CrowdTask.Depot.episode_download`: observing a download changes nothing.
* `CrowdTask.Depot.leads_received`: the entries that a download receives are a slice of the listing.
-/

namespace CrowdTask

namespace Submission

/-- The assignment that is named by `n + 1` letters, and that has neither fields nor answers. -/
def lettered (n : Nat) : Submission where
  id := ⟨String.ofList (List.replicate (n + 1) 'A'), by
    rw [String.toList_ofList, isIdText, List.replicate_succ, ← List.replicate_succ,
      List.all_replicate]
    rfl⟩
  fields := []
  answerXml := ""

theorem nodup_lettered (n : Nat) : (((List.range n).map lettered).map id).Nodup := by
  rw [List.map_map]
  refine List.nodup_range.map fun i j h => ?_
  have htext := congrArg (fun x : AssignmentId => x.text.toList.length) h
  simpa [lettered] using htext

end Submission

namespace MemoryResults

theorem document?_isSome {s : MemoryResults} {id : AssignmentId} :
    (s.document? id).isSome = true ↔ id ∈ Download.storedIds s.documents := by
  simp [document?, Download.storedIds]

/-- A result is refused if there is one for its assignment, and added otherwise. -/
theorem run_put (s : MemoryResults) (r : WorkResult) :
    (put r).run s =
      if r.id ∈ Download.storedIds s.documents then (.error (.alreadyStored r.id), s)
      else (.ok (), ⟨(r.id, r.document) :: s.documents, s.writes + 1⟩) := by
  have hrun : (put r).run s =
      (if (s.document? r.id).isSome then Pure.pure (.error (.alreadyStored r.id))
        else (do
          set (⟨(r.id, r.document) :: s.documents, s.writes + 1⟩ : MemoryResults)
          return .ok ()) : StateM MemoryResults (Except ResultError Unit)).run s := rfl
  rw [hrun]
  by_cases h : r.id ∈ Download.storedIds s.documents
  · rw [if_pos (document?_isSome.mpr h), if_pos h]
    rfl
  · rw [if_neg (mt document?_isSome.mp h), if_neg h]
    rfl

end MemoryResults

/-- What a series of downloads meets: how many assignments are listed by now, the stored results,
and whatever else settles what happens. -/
structure Depot (σ : Type) where
  listed : Nat
  results : MemoryResults
  outside : σ

/-- What happens between the calls of downloads: how many assignments are listed in addition, and
whether the stored identifiers cannot be listed, a page is not served, or a result is not
written. -/
structure Disturbance (σ : Type) where
  arrivals : StateM σ Nat
  counting : StateM σ (Option ResultError)
  paging : StateM σ (Option MarketError)
  writing : StateM σ (Option FileFault)

namespace Depot

variable {σ α : Type}

/-- The assignments that are listed by now, of all that ever will be. -/
def listing (all : List Submission) (s : Depot σ) : List Submission := all.take s.listed

/-- The identifiers of the stored results, the last one first. -/
def stored (s : Depot σ) : List AssignmentId := Download.storedIds s.results.documents

/-- The number of stored results. -/
def count (s : Depot σ) : Nat := (orderedIds s.stored).length

/-- Whether stored results are those of listed assignments. -/
def IsListed (all : List Submission) (s : Depot σ) : Prop :=
  ∀ id ∈ s.stored, ∃ x ∈ s.listing all, id = x.id

/-- A computation on the stored results. -/
def onResults (x : StateM MemoryResults α) : StateM (Depot σ) α := fun s =>
  let r := x.run s.results
  (r.1, { s with results := r.2 })

/-- A computation on what settles what happens. -/
def onOutside (x : StateM σ α) : StateM (Depot σ) α := fun s =>
  let r := x.run s.outside
  (r.1, { s with outside := r.2 })

/-- Further assignments are listed. -/
def arrive (d : Disturbance σ) : StateM (Depot σ) Unit := fun s =>
  let r := d.arrivals.run s.outside
  ((), { s with listed := s.listed + r.1, outside := r.2 })

/-- The interruptions of a disturbance. Assignments are listed in addition before a call is made or
fails. -/
def interruptions (d : Disturbance σ) : Interruptions (StateM (Depot σ)) where
  records _ := pure none
  results call := do
    arrive d
    if call = .put then return (← onOutside d.writing).map .io else onOutside d.counting
  journal _ := pure none
  market _ := do
    arrive d
    onOutside d.paging

/-- The marketplace that serves the pages of the listing, together with its length. -/
def market (all : List Submission) : Marketplace (StateM (Depot σ)) :=
  { Marketplace.refusing (.transport "only pages are served") with
    page := fun _ number size => do
      let items := (← get).listing all
      return .ok ⟨items.length, (items.drop ((number - 1) * size)).take size⟩ }

/-- The marketplace of a depot with disturbances. -/
def disturbedMarket (d : Disturbance σ) (all : List Submission) : Marketplace (StateM (Depot σ)) :=
  (market all).interrupted (interruptions d)

/-- The place for the results of a depot with disturbances. -/
def disturbedStore (d : Disturbance σ) : ResultStore (StateM (Depot σ)) :=
  (MemoryResults.store onResults).interrupted (interruptions d)

/-- A download, observed. -/
def download (d : Disturbance σ) (all : List Submission) (task : TaskId) (salt : Option String) :
    StateM (Observed (Depot σ)) (Except DownloadError DownloadSummary) :=
  Download.run (disturbedMarket d all).observed (disturbedStore d).observed salt task

variable (d : Disturbance σ) (all : List Submission) (task : TaskId) (a : Depot σ)

/-! ### Calls -/

/-- A page fails, or is the slice of the listing at that moment. -/
theorem run_page (number size : Nat) :
    ∃ b : Depot σ, b.results = a.results ∧ a.listed ≤ b.listed ∧
      ((∃ e, ((disturbedMarket d all).page task number size).run a = (.error e, b)) ∨
        ((disturbedMarket d all).page task number size).run a =
          (.ok ⟨(b.listing all).length, ((b.listing all).drop ((number - 1) * size)).take size⟩,
            b)) := by
  have hcases := run_barring_cases ((interruptions d).market .page)
    ((market all).page task number size) a
  exact ⟨(((interruptions d).market .page).run a).2, rfl, Nat.le_add_right _ _, hcases⟩

/-- The stored identifiers are listed, in order, unless that fails. -/
theorem run_ids :
    ∃ b : Depot σ, b.results = a.results ∧ a.listed ≤ b.listed ∧
      ((∃ e, (disturbedStore d).ids.run a = (.error e, b)) ∨
        (disturbedStore d).ids.run a = (.ok (orderedIds b.stored), b)) := by
  have hcases := run_barring_cases ((interruptions d).results .ids)
    (MemoryResults.store onResults).ids a
  exact ⟨(((interruptions d).results .ids).run a).2, rfl, Nat.le_add_right _ _, hcases⟩

/-- Putting a result fails, or finds one for its assignment, or adds its document. -/
theorem run_put (r : WorkResult) :
    ∃ b : Depot σ, a.listed ≤ b.listed ∧
      ((∃ fault, ((disturbedStore d).put r).run a = (.error (.io fault), b) ∧
          b.results = a.results) ∨
        (r.id ∈ a.stored ∧ ((disturbedStore d).put r).run a = (.error (.alreadyStored r.id), b) ∧
          b.results = a.results) ∨
        (r.id ∉ a.stored ∧ ((disturbedStore d).put r).run a = (.ok (), b) ∧
          b.results.documents = (r.id, r.document) :: a.results.documents)) := by
  let s : Depot σ := ((arrive d).run a).2
  let c : Depot σ := { s with outside := (d.writing.run s.outside).2 }
  have hlisted : a.listed ≤ c.listed := Nat.le_add_right _ _
  have hasked : ((interruptions d).results .put).run a =
      ((d.writing.run s.outside).1.map .io, c) := rfl
  have hrun : ((disturbedStore d).put r).run a =
      (barring ((interruptions d).results .put) (onResults (MemoryResults.put r))).run a := rfl
  rw [run_barring, hasked] at hrun
  cases hcause : (d.writing.run s.outside).1 with
  | some fault =>
    rw [hcause] at hrun
    exact ⟨c, hlisted, Or.inl ⟨fault, hrun, rfl⟩⟩
  | none =>
    rw [hcause] at hrun
    have hput : ((disturbedStore d).put r).run a =
        (((MemoryResults.put r).run a.results).1,
          { c with results := ((MemoryResults.put r).run a.results).2 }) := hrun
    by_cases hmem : r.id ∈ Download.storedIds a.results.documents
    · have hres := (MemoryResults.run_put a.results r).trans (if_pos hmem)
      rw [hres] at hput
      exact ⟨_, hlisted, Or.inr (Or.inl ⟨hmem, hput, rfl⟩)⟩
    · have hres := (MemoryResults.run_put a.results r).trans (if_neg hmem)
      rw [hres] at hput
      refine ⟨_, ?_, Or.inr (Or.inr ⟨hmem, hput, rfl⟩)⟩
      exact hlisted

theorem keepsResults :
    Download.KeepsResults (disturbedMarket d all) (disturbedStore d)
      fun s => s.results.documents where
  page task number size a := by
    obtain ⟨b, hb, -, ⟨e, h⟩ | h⟩ := run_page d all task a number size
    · rw [h, hb]
    · rw [h, hb]
  ids a := by
    obtain ⟨b, hb, -, ⟨e, h⟩ | h⟩ := run_ids d a
    · rw [h, hb]
      exact ⟨rfl, nofun⟩
    · rw [h, stored, hb]
      exact ⟨rfl, fun ids hids => (Except.ok.inj hids).symm⟩
  put r a := by
    obtain ⟨b, -, ⟨fault, h, hb⟩ | ⟨hmem, h, hb⟩ | ⟨hmem, h, hb⟩⟩ := run_put d a r
    · exact Or.inl ⟨by rw [h, hb], fault, by rw [h]⟩
    · exact Or.inr (Or.inl ⟨hmem, by rw [h, hb], by rw [h]⟩)
    · exact Or.inr (Or.inr ⟨hmem, by rw [h], by rw [h]; exact hb⟩)

theorem length_listing_mono {b : Depot σ} (h : a.listed ≤ b.listed) :
    (a.listing all).length ≤ (b.listing all).length := by
  simp only [listing, List.length_take]
  omega

/-- What every step of a download keeps to: the listing only grows, and the stored documents stay as
they are unless a result is written for an assignment that is listed. -/
structure IsLawful (step : DeskStep (Depot σ)) : Prop where
  listed : step.before.listed ≤ step.after.listed
  documents : step.after.results.documents = step.event.written ++ step.before.results.documents
  offered : ∀ p ∈ step.event.written, ∃ x ∈ step.after.listing all, p.1 = x.id

/-- The answer to an entry that is listed. -/
theorem leads_takeEntry {salt : Option String} (p : Download.Progress) {x : Submission}
    (hx : x ∈ a.listing all) :
    Leads a (Download.takeEntry (disturbedStore d).observed salt p x) fun steps _ _ =>
      ∀ step ∈ steps, IsLawful all step ∧ step.event.received = [] := by
  unfold Download.takeEntry
  split_ifs
  · exact .pure _ (List.forall_mem_nil _)
  · refine .bind (.lift (.put (.decode salt x)) ((disturbedStore d).put (.decode salt x)) ?_)
    obtain ⟨b, hlisted, ⟨fault, h, hb⟩ | ⟨-, h, hb⟩ | ⟨-, h, hb⟩⟩ := run_put d a (.decode salt x)
    · rw [h]
      exact .throw _ (List.forall_mem_singleton.mpr
        ⟨⟨hlisted, congrArg _ hb, List.forall_mem_nil _⟩, rfl⟩)
    · rw [h]
      exact .pure _ (List.forall_mem_singleton.mpr
        ⟨⟨hlisted, congrArg _ hb, List.forall_mem_nil _⟩, rfl⟩)
    · rw [h]
      refine .pure _ (List.forall_mem_singleton.mpr ⟨⟨hlisted, hb, ?_⟩, rfl⟩)
      rintro p hp
      obtain rfl := List.mem_singleton.mp hp
      exact ⟨x, List.take_subset_take_left _ hlisted hx, rfl⟩

theorem isTrail_listed {b : Depot σ} {steps : List (DeskStep (Depot σ))} (h : IsTrail a steps b)
    (hsteps : ∀ step ∈ steps, IsLawful all step) : a.listed ≤ b.listed :=
  h.rel (R := fun a b => a.listed ≤ b.listed) (fun _ => le_rfl) (fun _ _ _ => le_trans)
    fun step hstep => (hsteps step hstep).listed

/-- A page of a download: the fetched entries are a slice of the listing at that moment, unless the
page is not served. -/
theorem leads_takePage (salt : Option String) (p : Download.Progress) (page : Nat) :
    Leads a (Download.takePage (disturbedMarket d all).observed (disturbedStore d).observed salt
        task p page) fun steps b r =>
      (∀ step ∈ steps, IsLawful all step) ∧ ∃ c : Depot σ, a.listed ≤ c.listed ∧
        c.listed ≤ b.listed ∧ ((Download.received steps = [] ∧ ∃ e, r = .error e) ∨
          Download.received steps =
            ((c.listing all).drop ((page - 1) * Download.pageSize)).take Download.pageSize) := by
  refine .bind (.attempt DownloadError.marketplace (.page task page Download.pageSize) _ ?_)
  obtain ⟨c, hc, hlisted, ⟨e, h⟩ | h⟩ := run_page d all task a page Download.pageSize
  · rw [h]
    refine ⟨List.forall_mem_singleton.mpr ⟨hlisted, congrArg _ hc, List.forall_mem_nil _⟩, c,
      hlisted, le_rfl, ?_⟩
    exact Or.inl ⟨rfl, _, rfl⟩
  · rw [h]
    set items := ((c.listing all).drop ((page - 1) * Download.pageSize)).take Download.pageSize
      with hitems
    let Good (steps : List (DeskStep (Depot σ))) (b : Depot σ) : Prop :=
      (∀ step ∈ steps, IsLawful all step ∧ step.event.received = []) ∧ c.listed ≤ b.listed
    refine (Leads.foldlM items (I := fun _ _ => Good) (E := fun steps b _ => Good steps b)
      ⟨List.forall_mem_nil _, le_rfl⟩ ?_).mono ?_
    · intro done x rest p' steps c' hsplit ⟨hsteps, hc'⟩
      have hx : x ∈ c.listing all :=
        List.drop_subset _ _ (List.take_subset _ _ (hsplit ▸ List.mem_append_right done (.head _)))
      refine (leads_takeEntry d all c' p' (List.take_subset_take_left _ hc' hx)).mono ?_
      rintro steps' b r ht hsteps'
      have hgood : Good (steps ++ steps') b := ⟨List.forall_mem_append.mpr ⟨hsteps, hsteps'⟩,
        hc'.trans (isTrail_listed all c' ht fun step hstep => (hsteps' step hstep).1)⟩
      rcases r with e | p'' <;> exact hgood
    · intro steps b r _ h
      have hgood : Good steps b := by rcases r with e | p' <;> exact h
      refine ⟨List.forall_mem_cons.mpr ⟨⟨hlisted, congrArg _ hc, List.forall_mem_nil _⟩,
        fun step hstep => (hgood.1 step hstep).1⟩, c, hlisted, hgood.2, Or.inr ?_⟩
      have hreceived : Download.received steps = [] :=
        Download.received_eq_nil fun step hstep => (hgood.1 step hstep).2
      rw [List.singleton_append, Download.received_cons, hreceived, List.append_nil,
        DeskEvent.received_page]

theorem listing_eq_take : a.listing all = all.take (a.listing all).length :=
  List.prefix_iff_eq_take.mp (List.take_prefix _ _)

theorem listing_slice (k : Nat) :
    ((a.listing all).drop (k * Download.pageSize)).take Download.pageSize =
      (all.take (min (a.listing all).length ((k + 1) * Download.pageSize))).drop
        (k * Download.pageSize) := by
  rw [List.take_drop, ← Nat.succ_mul, min_comm, ← List.take_take, ← listing_eq_take]

/-- The entries that a download receives from successive pages are a slice of the listing, however
the listing grows in the meantime, if all pages but the last one are full in the beginning. -/
theorem leads_takePages (salt : Option String) :
    ∀ (n k : Nat) (a : Depot σ) (p : Download.Progress),
    (k + n - 1) * Download.pageSize ≤ (a.listing all).length →
    Leads a (Download.takePages (disturbedMarket d all).observed (disturbedStore d).observed salt
        task n (k + 1) p) fun steps b r =>
      (∀ step ∈ steps, IsLawful all step) ∧
      ∃ j ≤ (b.listing all).length, j ≤ (k + n) * Download.pageSize ∧
        Download.received steps = (all.take j).drop (k * Download.pageSize) ∧
        ∀ p', r = .ok p' → min (a.listing all).length ((k + n) * Download.pageSize) ≤ j
  | 0, k, a, p, _ => by
    refine .pure p ⟨List.forall_mem_nil _, min (a.listing all).length (k * Download.pageSize),
      min_le_left _ _, min_le_right _ _, ?_, fun _ _ => le_rfl⟩
    rw [Download.received_nil, List.drop_eq_nil_of_le]
    exact (List.length_take_le _ _).trans (min_le_right _ _)
  | n + 1, k, a, p, hfull => by
    refine .bind ((leads_takePage d all task a salt p (k + 1)).mono ?_)
    rintro steps c r - ⟨hlawful, e, hae, hec, hreceived⟩
    rw [Nat.add_sub_cancel, listing_slice] at hreceived
    have hac' := length_listing_mono all a hae
    have hcc' := length_listing_mono all e hec
    set j₁ := min (e.listing all).length ((k + 1) * Download.pageSize) with hj₁
    rcases r with err | p₁
    · rcases hreceived with ⟨hnil, -⟩ | hslice
      · exact ⟨hlawful, 0, Nat.zero_le _, Nat.zero_le _,
          by rw [hnil, List.take_zero, List.drop_nil],
          nofun⟩
      · refine ⟨hlawful, j₁, (min_le_left _ _).trans hcc', ?_, hslice, nofun⟩
        exact (min_le_right _ _).trans (Nat.mul_le_mul_right _ (by omega))
    · have hslice := hreceived.resolve_left fun ⟨_, _, h⟩ => nomatch h
      have hfull' : (k + 1 + n - 1) * Download.pageSize ≤ (c.listing all).length := by
        rw [show k + 1 + n - 1 = k + (n + 1) - 1 by omega]
        exact hfull.trans (hac'.trans hcc')
      refine (leads_takePages salt n (k + 1) c p₁ hfull').mono ?_
      rintro steps' b r ht' ⟨hlawful', j₂, hb, hj₂, hslice', hok⟩
      refine ⟨List.forall_mem_append.mpr ⟨hlawful, hlawful'⟩, ?_⟩
      rw [show k + 1 + n = k + (n + 1) by omega] at hj₂ hok
      rw [Download.received_append, hslice, hslice']
      -- the later slice is empty unless the first page was full
      by_cases hempty : j₂ ≤ (k + 1) * Download.pageSize
      · have hnil : (all.take j₂).drop ((k + 1) * Download.pageSize) = [] :=
          List.drop_eq_nil_of_le ((List.length_take_le _ _).trans hempty)
        have hcb := length_listing_mono all c (isTrail_listed all c ht' hlawful')
        refine ⟨j₁, (min_le_left _ _).trans (hcc'.trans hcb), ?_,
          by rw [hnil, List.append_nil], fun p' hp' => ?_⟩
        · exact (min_le_right _ _).trans (Nat.mul_le_mul_right _ (by omega))
        · have := hok p' hp'
          omega
      · have hlater : k + 1 ≤ k + (n + 1) - 1 := by
          by_contra h
          exact hempty (hj₂.trans (Nat.mul_le_mul_right _ (by omega)))
        have hfirst : j₁ = (k + 1) * Download.pageSize :=
          min_eq_right (((Nat.mul_le_mul_right _ hlater).trans hfull).trans hac')
        refine ⟨j₂, hb, hj₂, ?_, fun p' hp' => ?_⟩
        · rw [hfirst, Download.slice_append all (Nat.mul_le_mul_right _ (Nat.le_add_right k 1))
            (Nat.lt_of_not_le hempty).le]
        · have := hok p' hp'
          omega

theorem observes_takePage (salt : Option String) (p : Download.Progress) (page : Nat) :
    Observes (IsLawful all)
      (Download.takePage (disturbedMarket d all).observed (disturbedStore d).observed salt task p
        page)
      (Download.takePage (disturbedMarket d all) (disturbedStore d) salt task p page) := by
  have hplain : Observes (fun _ => True)
      (Download.takePage (disturbedMarket d all).observed (disturbedStore d).observed salt task p
        page)
      (Download.takePage (disturbedMarket d all) (disturbedStore d) salt task p page) :=
    Download.observes_takePage (fun _ _ => trivial) (fun _ _ => trivial) p page
  intro a
  refine ((hplain a).and (leads_takePage d all task a salt p page)).mono fun _ _ _ _ h => ?_
  exact ⟨h.1.1, h.2.1⟩

theorem observes_isLawful (salt : Option String) :
    Observes (IsLawful all)
      (Download.steps (disturbedMarket d all).observed (disturbedStore d).observed salt task)
      (Download.steps (disturbedMarket d all) (disturbedStore d) salt task) := by
  refine Download.observes_steps (fun a => ?_) (fun a => ?_) (observes_takePage d all task salt)
  · obtain ⟨b, hb, hlisted, ⟨e, h⟩ | h⟩ := run_ids d a
    · rw [h]
      exact ⟨hlisted, congrArg _ hb, List.forall_mem_nil _⟩
    · rw [h]
      exact ⟨hlisted, congrArg _ hb, List.forall_mem_nil _⟩
  · obtain ⟨b, hb, hlisted, ⟨e, h⟩ | h⟩ := run_page d all task a 1 1
    · rw [h]
      exact ⟨hlisted, congrArg _ hb, List.forall_mem_nil _⟩
    · rw [h]
      exact ⟨hlisted, congrArg _ hb, List.forall_mem_nil _⟩

/-- An observed download answers and ends as the download itself does. -/
theorem episode_download (salt : Option String) :
    ((episode (download d all task salt) a).answer, (episode (download d all task salt) a).after) =
      (Download.run (disturbedMarket d all) (disturbedStore d) salt task).run a :=
  (observes_isLawful d all task salt).episode a

theorem IsLawful.isListed {step : DeskStep (Depot σ)} (h : IsLawful all step)
    (hbefore : IsListed all step.before) : IsListed all step.after := by
  intro id hid
  rw [stored, h.documents, Download.storedIds, List.map_append, List.mem_append] at hid
  rcases hid with hid | hid
  · obtain ⟨p, hp, rfl⟩ := List.mem_map.mp hid
    exact h.offered p hp
  · obtain ⟨x, hx, hid⟩ := hbefore id hid
    exact ⟨x, List.take_subset_take_left _ h.listed hx, hid⟩

/-- The stored identifiers are listed once each. -/
theorem run_ids_ok {ids : List AssignmentId} {b : Depot σ}
    (h : (disturbedStore d).ids.run a = (.ok ids, b)) :
    a.listed ≤ b.listed ∧ ids.length = a.count := by
  obtain ⟨b', hb, hlisted, ⟨e, h'⟩ | h'⟩ := run_ids d a
  · rw [h'] at h
    cases h
  · rw [h'] at h
    cases h
    exact ⟨hlisted, by rw [count, stored, stored, hb]⟩

/-- The number of assignments is the length of the listing at that moment. -/
theorem run_page_ok {number size : Nat} {first : ListingPage} {b : Depot σ}
    (h : ((disturbedMarket d all).page task number size).run a = (.ok first, b)) :
    a.listed ≤ b.listed ∧ first.total = (b.listing all).length := by
  obtain ⟨b', -, hlisted, ⟨e, h'⟩ | h'⟩ := run_page d all task a number size
  · rw [h'] at h
    cases h
  · rw [h'] at h
    cases h
    exact ⟨hlisted, rfl⟩

/-- Whether the assignments were counted in the state `s`. -/
def IsCounted (steps : List (DeskStep (Depot σ))) (s : Depot σ) : Prop :=
  ∃ step ∈ steps, step.after = s ∧
    ∃ first, step.event = .page task 1 1 (.ok first) ∧ first.total = (s.listing all).length

/-- The entries that a download receives are a slice of the listing. It begins with the page of the
last stored result, and if the download succeeds the slice reaches as far as the listing did when
the assignments were counted. -/
theorem leads_received (salt : Option String) (hcount : a.count ≤ (a.listing all).length) :
    Leads a (Download.steps (disturbedMarket d all).observed (disturbedStore d).observed salt task)
      fun steps b r => ∃ j ≤ (b.listing all).length,
        Download.received steps =
          (all.take j).drop (a.count / Download.pageSize * Download.pageSize) ∧
        ∀ summary, r = .ok summary → ∃ s, IsCounted all task steps s ∧
          (a.listing all).length ≤ (s.listing all).length ∧
          (s.listing all).length ≤ max a.count j := by
  set k := a.count / Download.pageSize with hk
  have hnone {steps : List (DeskStep (Depot σ))} (h : Download.received steps = []) :
      Download.received steps = (all.take 0).drop (k * Download.pageSize) := by
    rw [h, List.take_zero, List.drop_nil]
  refine Download.leads_steps_of (fun e b _ => ⟨0, Nat.zero_le _, hnone rfl, nofun⟩)
    (fun ids c e b _ _ => ⟨0, Nat.zero_le _, hnone rfl, nofun⟩)
    (fun ids c first b hids hpage htotal => ⟨0, Nat.zero_le _, hnone rfl, fun _ _ => ?_⟩)
    (fun ids c first b hids hpage htotal => ?_)
  · obtain ⟨hlisted, hlength⟩ := run_ids_ok d a hids
    obtain ⟨hlisted', hall⟩ := run_page_ok d all task c hpage
    refine ⟨b, ⟨_, .tail _ (.head _), rfl, first, rfl, hall⟩, ?_, by omega⟩
    exact length_listing_mono all a (hlisted.trans hlisted')
  · obtain ⟨hlisted, hlength⟩ := run_ids_ok d a hids
    obtain ⟨hlisted', hall⟩ := run_page_ok d all task c hpage
    have hmono := length_listing_mono all a (hlisted.trans hlisted')
    have hfewer : ids.length < first.total := by omega
    -- the pages reach from the one that holds the last stored result to the last one
    set n := Download.pageCount first.total + 1 - Download.firstPage ids.length with hn
    have hpages : k + n = Download.pageCount first.total := by
      simp only [hk, hn, ← hlength, Download.firstPage, Download.pageCount, Download.pageSize]
      omega
    have hfull : (k + n - 1) * Download.pageSize ≤ (b.listing all).length := by
      rw [hpages, ← hall, Download.pageCount, Download.pageSize]
      omega
    have hreach : first.total ≤ (k + n) * Download.pageSize := by
      rw [hpages, Download.pageCount, Download.pageSize]
      omega
    have hfirst : Download.firstPage ids.length = k + 1 := by
      rw [hlength, Download.firstPage]
    rw [hfirst]
    refine (leads_takePages d all task salt n k b ⟨ids, [], [], []⟩ hfull).mono ?_
    rintro more e r - ⟨-, j, hj, -, hslice, hok⟩
    refine ⟨j, hj, ?_, fun summary hsummary =>
      ⟨b, ⟨_, .tail _ (.head _), rfl, first, rfl, hall⟩, hmono, ?_⟩⟩
    · rw [Download.received_cons, Download.received_cons, hslice]
      rfl
    · rcases r with err | p'
      · cases hsummary
      · have hj := hok p' rfl
        omega

end Depot

end CrowdTask
