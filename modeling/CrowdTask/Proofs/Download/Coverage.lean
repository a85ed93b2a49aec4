import CrowdTask.Proofs.Download.Depot
import Mathlib.Data.List.Perm.Subperm

/-!
# What a download passes over

A download begins with the page that its number of stored results points to, and passes over the
pages before it. Which results are stored is not looked at: if a result of an earlier page is
missing, it remains missing, although the download succeeds. Of the other pages nothing is missing
in the end.

## Main definitions

* `CrowdTask.Depot.passedOver`, `CrowdTask.Depot.visited`: the assignments of the earlier pages, and
  those of the other ones.

## Main results

* `CrowdTask.Depot.coverage_of_ok`: what a download that succeeds has stored.
* `CrowdTask.Depot.gap_remains`: a gap among the assignments of the first page.
-/

namespace CrowdTask

namespace Depot

variable {σ : Type} (all : List Submission)

/-- The assignments on the pages before the one at which a download begins. -/
def passedOver (s : Depot σ) : List Submission :=
  (s.listing all).take (s.count / Download.pageSize * Download.pageSize)

/-- The assignments on the page at which a download begins, and on the later ones. -/
def visited (s : Depot σ) : List Submission :=
  (s.listing all).drop (s.count / Download.pageSize * Download.pageSize)

variable {all} {a : Depot σ}

/-- The stored results are at most as many as the listed assignments. If they are as many, then
nothing is missing. -/
theorem IsListed.count_le (ha : IsListed all a) :
    a.count ≤ (a.listing all).length ∧
      ((a.listing all).length ≤ a.count → ∀ x ∈ a.listing all, x.id ∈ a.stored) := by
  have hsubset : orderedIds a.stored ⊆ (a.listing all).map Submission.id := by
    intro id hid
    obtain ⟨x, hx, rfl⟩ := ha id (mem_orderedIds.mp hid)
    exact List.mem_map_of_mem hx
  have hsubperm := List.subperm_of_subset (nodup_orderedIds a.stored) hsubset
  have hlength := hsubperm.length_le
  rw [List.length_map] at hlength
  refine ⟨hlength, fun hle x hx => ?_⟩
  have hperm := hsubperm.perm_of_length_le (by rwa [List.length_map])
  exact mem_orderedIds.mp (hperm.mem_iff.mpr (List.mem_map_of_mem hx))

theorem leads_coverage (d : Disturbance σ) (task : TaskId) (salt : Option String)
    (ha : IsListed all a) :
    Leads a (Download.steps (disturbedMarket d all).observed (disturbedStore d).observed salt task)
      fun _ b r => b.listing all = a.listing all → ∀ summary, r = .ok summary →
        ∀ id, id ∈ b.stored ↔ id ∈ a.stored ∨ ∃ x ∈ a.visited all, id = x.id := by
  obtain ⟨hcount, hfull⟩ := ha.count_le
  refine ((Download.leads_steps (keepsResults d all) salt task a).and
    (leads_received d all task a salt hcount)).mono ?_
  rintro steps b r - ⟨⟨-, done, -, hb, hend⟩, j, hj, hslice, hok⟩ hsame summary hsummary id
  obtain ⟨s, -, has, hreach⟩ := hok summary hsummary
  rw [hsame] at hj
  have hvisited : a.visited all =
      (all.take (a.listing all).length).drop (a.count / Download.pageSize * Download.pageSize) := by
    rw [visited, ← listing_eq_take]
  rw [stored, hb, hend summary hsummary, hslice, Download.mem_storedIds_shelveAll]
  rcases le_or_gt (a.listing all).length a.count with hle | hlt
  · -- nothing is missing, so that no entry brings anything new
    have hold {i : Nat} (hi : i ≤ (a.listing all).length) :
        ∀ x ∈ (all.take i).drop (a.count / Download.pageSize * Download.pageSize),
          x.id ∈ a.stored := by
      intro x hx
      refine hfull hle x ?_
      rw [listing_eq_take]
      exact List.take_subset_take_left _ hi (List.drop_subset _ _ hx)
    rw [hvisited, or_iff_left_of_imp, or_iff_left_of_imp]
    · rfl
    · rintro ⟨x, hx, rfl⟩
      exact hold le_rfl x hx
    · intro hid
      obtain ⟨x, hx, rfl⟩ := List.mem_map.mp hid
      exact hold hj x hx
  · have hj : j = (a.listing all).length := by omega
    rw [hvisited, hj, List.mem_map]
    simp only [eq_comm (a := id)]
    rfl

/-- **What a download that succeeds has stored.** If the listing stays as it is, and only results of
listed assignments are stored before, then a download that succeeds adds those that were missing of
the visited pages. So nothing is missing in the end if and only if nothing was missing of the pages
that are passed over. -/
theorem coverage_of_ok (d : Disturbance σ) (all : List Submission)
    (hall : (all.map Submission.id).Nodup) (task : TaskId) (salt : Option String) (a : Depot σ)
    (ha : IsListed all a)
    (hstatic : (episode (download d all task salt) a).after.listing all = a.listing all)
    (summary : DownloadSummary)
    (hok : (episode (download d all task salt) a).answer = .ok summary) :
    (∀ id, id ∈ (episode (download d all task salt) a).after.stored ↔
      id ∈ a.stored ∨ ∃ x ∈ a.visited all, id = x.id) ∧
    ((∀ x ∈ a.listing all, x.id ∈ (episode (download d all task salt) a).after.stored) ↔
      ∀ x ∈ a.passedOver all, x.id ∈ a.stored) := by
  have hafter := (leads_coverage d task salt ha).episode.2 hstatic
    summary hok
  have hsplit : a.passedOver all ++ a.visited all = a.listing all := List.take_append_drop _ _
  have hnodup : ((a.passedOver all ++ a.visited all).map Submission.id).Nodup := by
    rw [hsplit]
    exact hall.sublist ((List.take_sublist _ _).map _)
  rw [List.map_append, List.nodup_append] at hnodup
  refine ⟨hafter, fun h x hx => ?_, fun h x hx => ?_⟩
  · rcases (hafter x.id).mp (h x (hsplit ▸ List.mem_append_left _ hx)) with hold | ⟨y, hy, hid⟩
    · exact hold
    · exact absurd hid (hnodup.2.2 _ (List.mem_map_of_mem hx) _ (List.mem_map_of_mem hy))
  · rw [← hsplit, List.mem_append] at hx
    rcases hx with hx | hx
    · exact (hafter x.id).mpr (Or.inl (h x hx))
    · exact (hafter x.id).mpr (Or.inr ⟨x, hx, rfl⟩)

/-- Nothing happens between the calls. -/
def undisturbed : Disturbance Unit := ⟨pure 0, pure none, pure none, pure none⟩

/-- The given number of listed assignments, where those at the given places are stored. -/
def holding (listed : Nat) (places : List Nat) : Depot Unit where
  listed := listed
  results := ⟨places.map fun i => ((Submission.lettered i).id, .null), 0⟩
  outside := ()

/-- A download of the first assignments that are named by letters. -/
def letteredRun (listed : Nat) (places : List Nat) :
    Episode (Depot Unit) (Except DownloadError DownloadSummary) :=
  episode (download undisturbed ((List.range listed).map Submission.lettered) ⟨"T", by decide⟩ none)
    (holding listed places)

/-- Three assignments are listed and the second one is stored: the third one is added. -/
theorem coverage_of_three : (Submission.lettered 2).id ∈ (letteredRun 3 [1]).after.stored :=
  (coverage_of_ok undisturbed _ (Submission.nodup_lettered 3) ⟨"T", by decide⟩ none (holding 3 [1])
    (by unfold IsListed; decide +kernel) (by rfl)
    ⟨1, 3, [1], [(Submission.lettered 0).id, (Submission.lettered 2).id],
      [(Submission.lettered 1).id]⟩ (by decide +kernel)).2.mpr (fun _ hx => nomatch hx)
    (Submission.lettered 2) (.tail _ (.tail _ (.head _)))

/-- Fifty-one assignments are listed, and all but the first one are stored: a download succeeds, and
the first one is still missing. -/
theorem gap_remains :
    (((List.range 51).map Submission.lettered).map Submission.id).Nodup ∧
    IsListed ((List.range 51).map Submission.lettered)
      (letteredRun 51 (List.range' 1 50).reverse).before ∧
    Submission.lettered 0 ∈ ((List.range 51).map Submission.lettered).take 51 ∧
    (letteredRun 51 (List.range' 1 50).reverse).before.listed = 51 ∧
    (letteredRun 51 (List.range' 1 50).reverse).after.listed = 51 ∧
    (letteredRun 51 (List.range' 1 50).reverse).answer =
      .ok ⟨50, 51, [2], [], [(Submission.lettered 50).id]⟩ ∧
    (Submission.lettered 0).id ∉ (letteredRun 51 (List.range' 1 50).reverse).after.stored := by
  refine ⟨Submission.nodup_lettered 51, fun id hid => ?_, ?_, rfl, ?_⟩
  · obtain ⟨p, hp, rfl⟩ := List.mem_map.mp hid
    obtain ⟨i, hi, rfl⟩ := List.mem_map.mp hp
    refine ⟨Submission.lettered i, ?_, rfl⟩
    rw [listing, List.take_of_length_le (by simp [letteredRun, episode, holding])]
    have := List.mem_range'_1.mp (List.mem_reverse.mp hi)
    exact List.mem_map_of_mem (List.mem_range.mpr (by omega))
  · rw [List.take_of_length_le (by simp)]
    exact List.mem_map_of_mem (List.mem_range.mpr (by omega))
  · decide +kernel

end Depot

end CrowdTask
