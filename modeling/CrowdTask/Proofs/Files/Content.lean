import CrowdTask.Proofs.Files.Outage

/-!
# The bytes at a place

A path leads to one place, whether or not there are directories on the way: two dots lead up by the
text of the path. The bytes at that place stay the same under all operations that name other places,
and making directories never changes them.

## Main definitions

* `CrowdTask.Route.place`, `CrowdTask.Route.placeOf`: where a route leads, and a name in it.
* `CrowdTask.FileTree.bytesAt`: the bytes of the file at a place.
* `CrowdTask.FileOp.places`: the places that an operation names.
* `CrowdTask.FileOp.IsElsewhere`: the places that replacing a file has nothing to do with.

## Main results

* `CrowdTask.FileTree.bytesAt_perform`, `CrowdTask.FileTree.bytesAt_performAll`: operations leave
  the bytes at other places alone.
* `CrowdTask.FileTree.bytesAt_of_append`: what is appended stands behind the bytes that are there.
-/

namespace CrowdTask

namespace Route

/-- Where a step leads from a place. -/
def Step.from (p : Place) : Step → Place
  | .up => p.up
  | .enter name => p.enter name

/-- Where a route leads if all directories on it exist. -/
def place (r : Route) : Place := r.steps.foldl Step.from (FileTree.origin r)

/-- The place of a name in the directory of a route. -/
def placeOf (r : Route) (name : String) : Place := r.place.enter name

end Route

namespace FileOp

/-- The places of the files that an operation names. -/
def places : FileOp → List Place
  | .makeDirectories _ => []
  | .write d name _ | .append d name _ | .remove d name => [d.placeOf name]
  | .rename d source target => [d.placeOf source, d.placeOf target]

/-- Whether a place is neither that of a file nor that of its draft. -/
structure IsElsewhere (d : Route) (name : String) (p : Place) : Prop where
  file : p ≠ d.placeOf name
  draft : p ≠ d.placeOf (draftName name)

/-- Replacing a file names the places of the file and of its draft alone. -/
theorem IsElsewhere.notMem_places {d : Route} {name : String} {p : Place}
    (h : IsElsewhere d name p) (bytes : ByteArray) :
    ∀ op ∈ replace d name bytes, p ∉ op.places := by
  intro op hop
  simp only [replace, List.mem_cons, List.not_mem_nil, or_false] at hop
  rcases hop with rfl | rfl | rfl
  · exact List.not_mem_nil
  · simpa [places] using h.draft
  · simpa [places] using ⟨h.draft, h.file⟩

end FileOp

namespace FileTree

variable {t t' : FileTree} {p q : Place} {d : Route} {name : String} {bytes : ByteArray}

/-! ### Places -/

theorem eq_of_resolveFrom : ∀ (steps : List Route.Step) {p q : Place},
    t.resolveFrom p steps = .ok q → q = steps.foldl Route.Step.from p
  | [], _, _, h => (Except.ok.inj h).symm
  | .up :: steps, _, _, h => eq_of_resolveFrom steps h
  | .enter name :: steps, p, q, h => by
    rw [resolveFrom] at h
    cases hcheck : checkName name with
    | error e =>
      rw [hcheck] at h
      cases h
    | ok =>
      rw [hcheck] at h
      cases hnode : t.node? (p.enter name) with
      | none =>
        rw [hnode] at h
        cases h
      | some n =>
        rw [hnode] at h
        cases n with
        | file bytes => cases h
        | directory => exact eq_of_resolveFrom steps h

/-- A route that can be followed leads to its place. -/
theorem eq_place_of_resolve (h : t.resolve d = .ok p) : p = d.place := by
  rw [resolve] at h
  cases hcheck : checkRoute d with
  | error e =>
    rw [hcheck] at h
    cases h
  | ok =>
    rw [hcheck] at h
    exact eq_of_resolveFrom _ h

theorem eq_placeOf_of_locate (h : t.locate d name = .ok q) : q = d.placeOf name := by
  obtain ⟨p, hp, -, rfl⟩ := locate_eq_ok.mp h
  rw [eq_place_of_resolve hp]
  rfl

/-! ### Bytes -/

/-- The bytes of the file at a place, none if there is no file. -/
def bytesAt (t : FileTree) (p : Place) : List UInt8 :=
  match t.node? p with
  | some (.file bytes) => bytes.data.toList
  | _ => []

theorem bytesAt_of_node? (h : t.node? p = some (.file bytes)) :
    t.bytesAt p = bytes.data.toList := by
  rw [bytesAt, h]

theorem bytesAt_congr
    (h : ∀ bytes, t'.node? p = some (.file bytes) ↔ t.node? p = some (.file bytes)) :
    t'.bytesAt p = t.bytesAt p := by
  by_cases hfile : ∃ bytes, t.node? p = some (.file bytes)
  · obtain ⟨bytes, hbytes⟩ := hfile
    rw [bytesAt_of_node? hbytes, bytesAt_of_node? ((h bytes).mpr hbytes)]
  · have hnone : ∀ u : FileTree, (∀ bytes, u.node? p ≠ some (.file bytes)) → u.bytesAt p = [] := by
      intro u hu
      rw [bytesAt]
      split
      next bytes hbytes => exact absurd hbytes (hu bytes)
      next => rfl
    rw [hnone t (not_exists.mp hfile), hnone t' fun bytes hb => hfile ⟨bytes, (h bytes).mp hb⟩]

/-- The bytes that are read are those at the place. -/
theorem bytesAt_of_read (h : t.read d name = .ok bytes) :
    t.bytesAt (d.placeOf name) = bytes.data.toList := by
  obtain ⟨q, hq, hnode⟩ := read_eq_ok.mp h
  rw [← eq_placeOf_of_locate hq, bytesAt_of_node? hnode]

/-! ### Operations -/

/-- Making directories changes the bytes of no file. -/
theorem bytesAt_make (t : FileTree) (r : Route) (p : Place) :
    (t.make r).2.bytesAt p = t.bytesAt p := by
  refine bytesAt_congr fun bytes => ?_
  rw [make]
  cases checkRoute r with
  | error e => rfl
  | ok => exact node?_makeFrom_file _

theorem bytesAt_put_of_ne (t : FileTree) (n : Node) (h : p ≠ q) :
    (t.put q n).bytesAt p = t.bytesAt p :=
  bytesAt_congr fun _ => by rw [node?_put_of_ne t n h]

theorem bytesAt_erase_of_ne (t : FileTree) (h : p ≠ q) : (t.erase q).bytesAt p = t.bytesAt p :=
  bytesAt_congr fun _ => by rw [node?_erase_of_ne t h]

/-- An operation leaves the bytes at the places alone that it does not name. -/
theorem bytesAt_perform {op : FileOp} (hp : p ∉ op.places) (t : FileTree) :
    (t.perform op).2.bytesAt p = t.bytesAt p := by
  have hedit : ∀ {d name change}, p ≠ d.placeOf name →
      (t.edit d name change).2.bytesAt p = t.bytesAt p := by
    intro d name change hne
    rcases hresult : t.edit d name change with ⟨_ | ⟨⟩, u⟩
    · rw [edit_error hresult]
    · obtain ⟨q, old, hq, -, -, rfl⟩ := edit_ok hresult
      exact bytesAt_put_of_ne t _ (eq_placeOf_of_locate hq ▸ hne)
  cases op with
  | makeDirectories r => exact bytesAt_make t r p
  | write d name bytes => exact hedit (mt List.mem_singleton.mpr hp)
  | append d name bytes => exact hedit (mt List.mem_singleton.mpr hp)
  | rename d a b =>
    have hsource : p ≠ d.placeOf a := List.ne_of_not_mem_cons hp
    have htarget : p ≠ d.placeOf b := mt List.mem_singleton.mpr (List.not_mem_of_not_mem_cons hp)
    rw [perform]
    rcases hresult : t.move d a b with ⟨_ | ⟨⟩, u⟩
    · rw [move_error hresult]
    · obtain ⟨x, y, bytes, hx, hy, -, -, rfl⟩ := move_ok hresult
      rw [bytesAt_put_of_ne _ _ (eq_placeOf_of_locate hy ▸ htarget),
        bytesAt_erase_of_ne t (eq_placeOf_of_locate hx ▸ hsource)]
  | remove d name =>
    rw [perform]
    rcases hresult : t.delete d name with ⟨_ | ⟨⟩, u⟩
    · rw [delete_error hresult]
    · obtain ⟨q, bytes, hq, -, rfl⟩ := delete_ok hresult
      exact bytesAt_erase_of_ne t (eq_placeOf_of_locate hq ▸ mt List.mem_singleton.mpr hp)

theorem bytesAt_performAll {ops : List FileOp} (hp : ∀ op ∈ ops, p ∉ op.places) (t : FileTree) :
    (system.performAll ops t).2.bytesAt p = t.bytesAt p :=
  performAll_invariant (P := fun u => u.bytesAt p = t.bytesAt p)
    (fun op hop u hu => (bytesAt_perform (hp op hop) u).trans hu) rfl

/-- What is appended to a file stands behind the bytes that are there, and is read with them. -/
theorem bytesAt_of_append (h : t.perform (.append d name bytes) = (.ok (), t')) :
    t'.bytesAt (d.placeOf name) = t.bytesAt (d.placeOf name) ++ bytes.data.toList ∧
      ∃ whole, t'.read d name = .ok whole := by
  obtain ⟨q, old, hq, hdirectory, hold, rfl⟩ := edit_ok h
  have hnode := node?_put_self t (.file (old ++ bytes)) (not_isFixed_of_ne hdirectory)
  have hkeeps : KeepsDirectories t (t.put q (.file (old ++ bytes))) :=
    keepsDirectories_put hdirectory
  have hbytes : t.bytesAt q = old.data.toList := by
    rcases hold with hold | ⟨hnone, rfl⟩
    · exact bytesAt_of_node? hold
    · rw [bytesAt, hnone]
      rfl
  refine ⟨?_, _, read_eq_ok.mpr ⟨q, hkeeps.locate hq, hnode⟩⟩
  rw [← eq_placeOf_of_locate hq, bytesAt_of_node? hnode, hbytes, ByteArray.data_append,
    Array.toList_append]

/-- So it is if the directory of the file is made first. If that fails, or the file cannot be given
the bytes, those that are there stay. -/
theorem bytesAt_performAll_append (t : FileTree) (d : Route) (name : String) (bytes : ByteArray) :
    match system.performAll [.makeDirectories d, .append d name bytes] t with
    | (.ok (), t') =>
      t'.bytesAt (d.placeOf name) = t.bytesAt (d.placeOf name) ++ bytes.data.toList ∧
        ∃ whole, t'.read d name = .ok whole
    | (.error _, t') => t'.bytesAt (d.placeOf name) = t.bytesAt (d.placeOf name) := by
  have hmade : (t.perform (.makeDirectories d)).2.bytesAt (d.placeOf name) =
      t.bytesAt (d.placeOf name) := bytesAt_make t d _
  rw [performAll_cons]
  rcases hmake : t.perform (.makeDirectories d) with ⟨fault | ⟨⟩, u⟩
  · rw [hmake] at hmade
    exact hmade
  · rw [hmake] at hmade
    dsimp only
    rw [performAll_cons]
    rcases happend : u.perform (.append d name bytes) with ⟨fault | ⟨⟩, t'⟩
    · obtain rfl : t' = u := edit_error happend
      exact hmade
    · rw [← hmade]
      exact bytesAt_of_append happend

end FileTree

end CrowdTask
