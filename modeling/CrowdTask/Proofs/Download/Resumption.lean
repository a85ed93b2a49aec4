import CrowdTask.Proofs.Download.Depot
import Mathlib.Data.List.Perm.Subperm

/-!
# Resumed downloads

A download begins with the first page that can hold something new, and which page that is depends on
the number of stored results alone. This is enough because the results that downloads leave behind,
whether or not they succeed, are those of the first assignments of the listing: a slice of the
listing that begins among them extends them to a longer such part.

## Main definitions

* `CrowdTask.Depot.IsOpening`: the results of the first assignments of the listing are stored.
* `CrowdTask.Depot.Resumed`: what a series of downloads keeps to.

## Main results

* `CrowdTask.Depot.leads_steps`, `CrowdTask.Depot.leads_idle`: single downloads.
* `CrowdTask.Depot.resumed_chronicle`: every series of downloads keeps to it.
-/

namespace CrowdTask

namespace Depot

variable {σ : Type} {all : List Submission}

/-- Whether the stored results are those of the first assignments of the listing, in its order. -/
def IsOpening (all : List Submission) (s : Depot σ) : Prop :=
  ∃ items, items <+: s.listing all ∧ s.stored.reverse = items.map Submission.id

/-- Whether a run that succeeds has stored all that was listed when it counted the assignments. -/
def IsComplete (all : List Submission) (task : TaskId) (steps : List (DeskStep (Depot σ)))
    (b : Depot σ) (r : Except DownloadError DownloadSummary) : Prop :=
  ∀ summary, r = .ok summary →
    ∃ s, IsCounted all task steps s ∧ ∀ x ∈ s.listing all, x.id ∈ b.stored

/-- Whether a run does no more than to count the stored results and the assignments. -/
def IsIdle (task : TaskId) (steps : List (DeskStep (Depot σ)))
    (r : Except DownloadError DownloadSummary) : Prop :=
  (∃ e, steps.map (·.event) = [.ids (.error e)]) ∨
  ∃ ids answer, steps.map (·.event) = [.ids (.ok ids), .page task 1 1 answer] ∧
    ∀ first, answer = .ok first → r = .ok ⟨first.total, first.total, [], [], []⟩

section Opening

variable {s : Depot σ}

theorem IsOpening.isListed (h : IsOpening all s) : IsListed all s := by
  obtain ⟨items, hitems, hstored⟩ := h
  intro id hid
  rw [← List.mem_reverse, hstored] at hid
  obtain ⟨x, hx, rfl⟩ := List.mem_map.mp hid
  exact ⟨x, hitems.subset hx, rfl⟩

theorem IsOpening.eq_take (h : IsOpening all s) :
    s.stored.length ≤ (s.listing all).length ∧
      s.stored = ((all.take s.stored.length).map Submission.id).reverse := by
  obtain ⟨items, hitems, hstored⟩ := h
  have hlength : s.stored.length = items.length := by
    rw [← List.length_reverse, hstored, List.length_map]
  refine ⟨hlength ▸ hitems.length_le, ?_⟩
  rw [hlength, ← List.prefix_iff_eq_take.mp (hitems.trans (List.take_prefix _ _)), ← hstored,
    List.reverse_reverse]

theorem isOpening_of_eq_take (hall : (all.map Submission.id).Nodup) {n : Nat}
    (h : s.stored = ((all.take n).map Submission.id).reverse) (hlisted : IsListed all s) :
    IsOpening all s := by
  refine ⟨all.take n, ?_, by rw [h, List.reverse_reverse]⟩
  have hsubset : (all.take n).map Submission.id ⊆ (s.listing all).map Submission.id := by
    intro id hid
    obtain ⟨x, hx, rfl⟩ := hlisted id (by rwa [h, List.mem_reverse])
    exact List.mem_map_of_mem hx
  have hnodup : ((all.take n).map Submission.id).Nodup :=
    hall.sublist ((List.take_sublist _ _).map _)
  have hlength : (all.take n).length ≤ (s.listing all).length := by
    simpa only [List.length_map] using (List.subperm_of_subset hnodup hsubset).length_le
  exact List.prefix_of_prefix_length_le (List.take_prefix _ _) (List.take_prefix _ _) hlength

theorem IsOpening.nodup (hall : (all.map Submission.id).Nodup) (h : IsOpening all s) :
    s.stored.Nodup := by
  rw [h.eq_take.2, List.nodup_reverse]
  exact hall.sublist ((List.take_sublist _ _).map _)

theorem IsOpening.count_eq (hall : (all.map Submission.id).Nodup) (h : IsOpening all s) :
    s.count = s.stored.length :=
  (perm_orderedIds (h.nodup hall)).length_eq

end Opening

variable (d : Disturbance σ) (task : TaskId) (salt : Option String) {a : Depot σ}

/-- A download that begins with an opening of the listing keeps to one, and if it succeeds it has
stored all that was listed when the assignments were counted. -/
theorem leads_steps (hall : (all.map Submission.id).Nodup) (ha : IsOpening all a) :
    Leads a (Download.steps (disturbedMarket d all).observed (disturbedStore d).observed salt task)
      fun steps b r =>
        (∀ step ∈ steps, IsLawful all step ∧ IsOpening all step.after) ∧ IsOpening all b ∧
        IsComplete all task steps b r := by
  have hrun := Download.leads_steps (keepsResults d all) salt task a
  have hcount := ha.count_eq hall
  have hreceived := leads_received d all task a salt (hcount ▸ ha.eq_take.1)
  refine ((hrun.and (observes_isLawful d all task salt a)).and hreceived).mono ?_
  rintro steps b r ht ⟨⟨⟨hsteps, done, hdone, hb, hend⟩, -, hlawful⟩, j, -, hslice, hok⟩
  set k := a.count / Download.pageSize * Download.pageSize
  have hk : k ≤ a.stored.length := hcount ▸ Nat.div_mul_le_self _ _
  obtain ⟨hlisted, hlisted'⟩ := ht.invariant ha.isListed fun step hstep =>
    (hlawful step hstep).isListed all
  have hstored {c : Depot σ} {items : List Submission}
      (hc : c.results.documents = Download.shelveAll salt a.results.documents items) {i : Nat}
      (hitems : items = (all.take i).drop k) :
      c.stored = ((all.take (max a.stored.length i)).map Submission.id).reverse := by
    rw [stored, hc, hitems]
    exact Download.storedIds_shelveAll_slice hall ha.eq_take.2 hk
  rw [hslice] at hsteps hdone
  refine ⟨fun step hstep => ⟨hlawful step hstep, ?_⟩, ?_, fun summary hsummary => ?_⟩
  · obtain ⟨items, hitems, hafter⟩ := hsteps step hstep
    obtain ⟨i, hi⟩ := Download.eq_slice_of_prefix hitems
    exact isOpening_of_eq_take hall (hstored hafter hi) (hlisted' step hstep).2
  · obtain ⟨i, hi⟩ := Download.eq_slice_of_prefix hdone
    exact isOpening_of_eq_take hall (hstored hb hi) hlisted
  · obtain ⟨s, hs, -, hreach⟩ := hok summary hsummary
    rw [hcount] at hreach
    refine ⟨s, hs, fun x hx => ?_⟩
    rw [hstored hb ((hend summary hsummary).trans hslice), List.mem_reverse]
    refine List.mem_map_of_mem (List.take_subset_take_left _ hreach ?_)
    rwa [← listing_eq_take]

/-- If all that is listed is stored already, and nothing is listed in addition, then a download asks
for the number of assignments and ends. -/
theorem leads_idle (hall : (all.map Submission.id).Nodup) (ha : IsOpening all a)
    (hstored : ∀ x ∈ a.listing all, x.id ∈ a.stored) :
    Leads a (Download.steps (disturbedMarket d all).observed (disturbedStore d).observed salt task)
      fun steps b r => b.listing all = a.listing all → IsIdle task steps r := by
  have hlength : (a.listing all).length ≤ a.stored.length := by
    have hnodup : ((a.listing all).map Submission.id).Nodup :=
      hall.sublist ((List.take_sublist _ _).map _)
    have hsubset : (a.listing all).map Submission.id ⊆ a.stored := by
      intro id hid
      obtain ⟨x, hx, rfl⟩ := List.mem_map.mp hid
      exact hstored x hx
    simpa only [List.length_map] using (List.subperm_of_subset hnodup hsubset).length_le
  refine Download.leads_steps_of (fun e b _ _ => Or.inl ⟨e, rfl⟩)
    (fun ids c e b _ _ _ => Or.inr ⟨ids, .error e, rfl, nofun⟩)
    (fun ids c first b _ _ htotal _ => Or.inr ⟨ids, .ok first, rfl, fun _ h => ?_⟩)
    (fun ids c first b hids hpage htotal => ?_)
  · cases h
    rw [htotal]
  · refine (Download.observes_takePages (observes_takePage d all task salt) _ _ _ b).mono ?_
    rintro more e r ht ⟨-, hlawful⟩ hsame
    obtain ⟨hlisted, hids⟩ := run_ids_ok d a hids
    obtain ⟨hlisted', htotal'⟩ := run_page_ok d all task c hpage
    have hle := length_listing_mono all a (hlisted.trans hlisted')
    have hle' := length_listing_mono all b (isTrail_listed all b ht hlawful)
    have hmost := ha.eq_take.1
    have hcount := ha.count_eq hall
    rw [hsame] at hle'
    omega

/-- A run of a series, for a task and with the salt that is given for it. -/
abbrev Run (σ : Type) : Type :=
  Option String × Episode (Depot σ) (Except DownloadError DownloadSummary)

/-- What a series of downloads keeps to. -/
structure Resumed (all : List Submission) (task : TaskId) (a : Depot σ) (runs : List (Run σ))
    (b : Depot σ) : Prop where
  /-- The runs follow one another, and nothing happens but their steps. -/
  trail : IsTrail a (runs.flatMap fun r => r.2.steps) b
  /-- After every step the results of the first assignments of the listing are stored. -/
  opening : ∀ r ∈ runs, ∀ step ∈ r.2.steps, IsOpening all step.after
  /-- The stored documents change only in that the written ones are added. -/
  kept : ∀ r ∈ runs, ∀ step ∈ r.2.steps,
    step.after.results.documents = step.event.written ++ step.before.results.documents
  /-- No result is written for an assignment that one was written for before. -/
  once : (Download.storedIds
    ((runs.flatMap fun r => r.2.steps).flatMap fun step => step.event.written)).Nodup
  /-- A run that succeeds has stored all that was listed when it counted the assignments. -/
  complete : ∀ r ∈ runs, IsComplete all task r.2.steps r.2.after r.2.answer
  /-- After a run that succeeded and left all that is listed stored, the next run counts, and calls
  nothing else, if nothing was listed in addition. -/
  idle : ∀ earlier r r' later, runs = earlier ++ r :: r' :: later →
    (∃ summary, r.2.answer = .ok summary) →
    (∀ x ∈ r.2.after.listing all, x.id ∈ r.2.after.stored) →
    r'.2.after.listing all = r.2.after.listing all →
    IsIdle task r'.2.steps r'.2.answer

/-- What is stored at the end of a trail was written in it, or stored before. -/
theorem documents_of_isTrail {b : Depot σ} {steps : List (DeskStep (Depot σ))}
    (h : IsTrail a steps b) (hlawful : ∀ step ∈ steps, IsLawful all step) :
    b.results.documents.Perm
      (steps.flatMap (fun step => step.event.written) ++ a.results.documents) := by
  induction steps generalizing a with
  | nil =>
    obtain rfl : a = b := h
    exact .refl _
  | cons step steps ih =>
    obtain ⟨rfl, h⟩ := h
    obtain ⟨hstep, hsteps⟩ := List.forall_mem_cons.mp hlawful
    refine (ih h hsteps).trans ?_
    rw [hstep.documents, List.flatMap_cons, List.append_assoc]
    exact List.perm_append_comm_assoc _ _ _

/-- **Downloads can be resumed.** Every series of downloads, begun with no stored results, keeps to
`Resumed`, whatever is listed between their calls and whichever calls fail. -/
theorem resumed_chronicle (d : Disturbance σ) (all : List Submission)
    (hall : (all.map Submission.id).Nodup) (task : TaskId) (salts : List (Option String))
    (a : Depot σ) (hempty : a.results.documents = []) :
    Resumed all task a (chronicle (download d all task) salts a)
      (worldAfter (download d all task) salts a) := by
  have hopening : IsOpening all a := ⟨[], List.nil_prefix, by rw [stored, hempty]; rfl⟩
  obtain ⟨hruns, hend⟩ := forall_mem_chronicle (download d all task)
    (I := IsOpening all)
    (P := fun _ e => ((∀ step ∈ e.steps, IsLawful all step ∧ IsOpening all step.after) ∧
      IsComplete all task e.steps e.after e.answer) ∧
      ((∀ x ∈ e.before.listing all, x.id ∈ e.before.stored) →
        e.after.listing all = e.before.listing all → IsIdle task e.steps e.answer))
    (fun salt s hs => by
      have hrun := (leads_steps d task salt hall hs).episode.2
      refine ⟨⟨⟨hrun.1, hrun.2.2⟩, fun hstored => ?_⟩, hrun.2.1⟩
      exact (leads_idle d task salt hall hs hstored).episode.2)
    salts hopening
  have htrail := isTrail_chronicle (download d all task)
    (fun salt s => (observes_isLawful d all task salt s).episode.1) salts a
  refine ⟨htrail, fun r hr step hstep => ((hruns r hr).1.1 step hstep).2,
    fun r hr step hstep => ((hruns r hr).1.1 step hstep).1.documents, ?_,
    fun r hr => (hruns r hr).1.2, fun earlier r r' later hseries _ hstored hsame => ?_⟩
  · have hwritten := documents_of_isTrail htrail fun step hstep => by
      obtain ⟨r, hr, hstep⟩ := List.mem_flatMap.mp hstep
      exact ((hruns r hr).1.1 step hstep).1
    rw [hempty, List.append_nil] at hwritten
    exact (hwritten.map _).nodup_iff.mp (hend.nodup hall)
  · have hr' := (hruns r' (by rw [hseries]; simp)).2
    rw [before_of_chronicle_eq hseries] at hr'
    exact hr' hstored hsame

/-- Three downloads of three assignments, one of which is listed before each call. -/
theorem resumed_three :
    Resumed ((List.range 3).map Submission.lettered) ⟨"T", by decide⟩ ⟨0, ⟨[], 0⟩, ()⟩
      (chronicle (download ⟨pure 1, pure none, pure none, pure none⟩
        ((List.range 3).map Submission.lettered) ⟨"T", by decide⟩) [none, none, none]
        (⟨0, ⟨[], 0⟩, ()⟩ : Depot Unit))
      (worldAfter (download ⟨pure 1, pure none, pure none, pure none⟩
        ((List.range 3).map Submission.lettered) ⟨"T", by decide⟩) [none, none, none]
        (⟨0, ⟨[], 0⟩, ()⟩ : Depot Unit)) :=
  resumed_chronicle _ _ (Submission.nodup_lettered 3) _ _ _ rfl

end Depot

end CrowdTask
