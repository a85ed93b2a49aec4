import CrowdTask.Proofs.Identifier
import CrowdTask.Store.Basic
import Mathlib.Data.String.Basic
import Mathlib.Data.List.Nodup
import Mathlib.Tactic.Common

/-!
# Ordered identifiers

The identifiers of stored results are listed in order, each of them once, whatever the order in
which they were found.

## Main results

* `CrowdTask.mem_orderedIds`: no identifier is lost and none is made up.
* `CrowdTask.pairwise_orderedIds`: they are in strict order.
* `CrowdTask.perm_orderedIds`: distinct identifiers are only rearranged.
-/

namespace CrowdTask

variable {id x : AssignmentId} {ids : List AssignmentId}

@[simp]
theorem mem_insertId : x ∈ insertId id ids ↔ x = id ∨ x ∈ ids := by
  induction ids with
  | nil => simp [insertId]
  | cons y ids ih =>
    rw [insertId]
    split_ifs with h h'
    · subst h
      simp
    · rw [List.mem_cons]
    · rw [List.mem_cons, ih, List.mem_cons]
      tauto

theorem pairwise_insertId (h : ids.Pairwise fun a b => a.text < b.text) :
    (insertId id ids).Pairwise fun a b => a.text < b.text := by
  induction ids with
  | nil => exact List.pairwise_singleton _ id
  | cons y ids ih =>
    obtain ⟨hy, hids⟩ := List.pairwise_cons.mp h
    rw [insertId]
    split_ifs with heq hlt
    · exact h
    · refine List.pairwise_cons.mpr ⟨fun z hz => ?_, h⟩
      rcases List.mem_cons.mp hz with rfl | hz
      · exact hlt
      · exact hlt.trans (hy z hz)
    · refine List.pairwise_cons.mpr ⟨fun z hz => ?_, ih hids⟩
      rcases mem_insertId.mp hz with rfl | hz
      · exact lt_of_le_of_ne (not_lt.mp hlt) fun h => heq (Identifier.eq_of_text h.symm)
      · exact hy z hz

private theorem foldl_insertId (ids acc : List AssignmentId)
    (h : acc.Pairwise fun a b => a.text < b.text) :
    ((ids.foldl (fun acc id => insertId id acc) acc).Pairwise fun a b => a.text < b.text) ∧
      ∀ x, x ∈ ids.foldl (fun acc id => insertId id acc) acc ↔ x ∈ acc ∨ x ∈ ids := by
  induction ids generalizing acc with
  | nil => exact ⟨h, by simp⟩
  | cons id ids ih =>
    obtain ⟨hsorted, hmem⟩ := ih (insertId id acc) (pairwise_insertId h)
    refine ⟨hsorted, fun x => ?_⟩
    rw [List.foldl_cons, hmem, mem_insertId, List.mem_cons]
    tauto

theorem pairwise_orderedIds (ids : List AssignmentId) :
    (orderedIds ids).Pairwise fun a b => a.text < b.text :=
  (foldl_insertId ids [] .nil).1

@[simp]
theorem mem_orderedIds : x ∈ orderedIds ids ↔ x ∈ ids := by
  rw [orderedIds, (foldl_insertId ids [] .nil).2 x]
  simp

theorem nodup_orderedIds (ids : List AssignmentId) : (orderedIds ids).Nodup :=
  (pairwise_orderedIds ids).imp fun h heq => by
    subst heq
    exact lt_irrefl _ h

theorem perm_orderedIds (h : ids.Nodup) : (orderedIds ids).Perm ids :=
  (List.perm_ext_iff_of_nodup (nodup_orderedIds ids) h).mpr fun _ => mem_orderedIds

end CrowdTask
