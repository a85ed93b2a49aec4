import CrowdTask.Proofs.Files.Replacement

/-!
# Files after an outage

An outage stops the program after some of its operations on files. The operation after these may
have been underway: some of the directories on a route are made, or a file holds any bytes. A file
takes the place of another one at once or not at all. Everything after that fails and changes
nothing, so that the tree at the end is what is found when the program is started again.

If a file is replaced and an outage comes before the end, the directories on the route are there in
part or as a whole, and nothing else is changed but the draft.

## Main definitions

* `CrowdTask.Outage`: a tree, and when and how an outage comes.
* `CrowdTask.Outage.system`: the file system of a tree up to an outage.
* `CrowdTask.FileTree.makeSteps`: what remains when directories are made in part.
* `CrowdTask.FileTree.DiffersAt`: the trees that differ in one file at most.
* `CrowdTask.FileTree.Makes`: what holds once a missing directory is made as a whole.

## Main results

* `CrowdTask.Outage.performAll_ok`, `CrowdTask.Outage.performAll_of_le`: operations before an outage
  do what they do without one.
* `CrowdTask.Outage.performAll_replace_error`: what remains of a file that was not replaced.
* `CrowdTask.FileTree.Makes.makeSteps`: what remains when a missing directory is made in part.
-/

namespace CrowdTask

namespace FileTree

variable {t t' t'' : FileTree} {p q : Place} {d r : Route} {name other : String}

/-! ### Directories that are made in part -/

/-- The tree after some steps of making the directories on a route. -/
def makeSteps (t : FileTree) (k : Nat) (r : Route) : FileTree :=
  match checkRoute r with
  | .error _ => t
  | .ok () => (t.makeFrom (origin r) (r.steps.take k)).2

theorem makeSteps_length (t : FileTree) (r : Route) :
    t.makeSteps r.steps.length r = (t.make r).2 := by
  rw [makeSteps, make, List.take_length]
  cases checkRoute r <;> rfl

theorem makeSteps_zero (t : FileTree) (r : Route) : t.makeSteps 0 r = t := by
  rw [makeSteps]
  cases checkRoute r <;> rfl

/-- Nothing is made on a route that is not followed for another reason than a missing directory. -/
theorem makeFrom_take_of_ne_notFound : ∀ (steps : List Route.Step) (k : Nat) {p : Place},
    t.resolveFrom p steps ≠ .error .notFound → (t.makeFrom p (steps.take k)).2 = t
  | [], k, _, _ => by
    rw [List.take_nil]
    rfl
  | _ :: _, 0, _, _ => rfl
  | .up :: steps, k + 1, _, h => makeFrom_take_of_ne_notFound steps k h
  | .enter name :: steps, k + 1, p, h => by
    rw [resolveFrom] at h
    rw [List.take_succ_cons, makeFrom]
    cases hcheck : checkName name with
    | error e => rfl
    | ok =>
      rw [hcheck] at h
      cases hnode : t.node? (p.enter name) with
      | none =>
        rw [hnode] at h
        exact absurd rfl h
      | some n =>
        rw [hnode] at h
        cases n with
        | file bytes => rfl
        | directory => exact makeFrom_take_of_ne_notFound steps k h

theorem makeSteps_of_ne_notFound (h : t.resolve r ≠ .error .notFound) (k : Nat) :
    t.makeSteps k r = t := by
  rw [resolve] at h
  rw [makeSteps]
  cases hcheck : checkRoute r with
  | error e => rfl
  | ok =>
    rw [hcheck] at h
    exact makeFrom_take_of_ne_notFound r.steps k h

theorem makeFrom_enter_of_none {steps : List Route.Step} (hcheck : checkName name = .ok ())
    (hnode : t.node? (p.enter name) = none) :
    t.makeFrom p (.enter name :: steps) =
      (t.put (p.enter name) .directory).makeFrom (p.enter name) steps := by
  rw [makeFrom, hcheck]
  simp only [hnode]

theorem makeFrom_enter_of_directory {steps : List Route.Step} (hcheck : checkName name = .ok ())
    (hnode : t.node? (p.enter name) = some .directory) :
    t.makeFrom p (.enter name :: steps) = t.makeFrom (p.enter name) steps := by
  rw [makeFrom, hcheck]
  simp only [hnode]

theorem not_isFixed_of_none (h : t.node? p = none) : ¬IsFixed p :=
  not_isFixed_of_ne (t := t) (by rw [h]; exact nofun)

theorem makeFrom_makeFrom_take : ∀ (steps : List Route.Step) (k : Nat) {t t' : FileTree}
    {p : Place}, t.makeFrom p steps = (.ok (), t') →
      (t.makeFrom p (steps.take k)).2.makeFrom p steps = (.ok (), t')
  | [], k, _, _, _, h => by
    rw [List.take_nil]
    exact h
  | _ :: _, 0, _, _, _, h => h
  | .up :: steps, k + 1, _, _, _, h => makeFrom_makeFrom_take steps k h
  | .enter name :: steps, k + 1, t, t', p, h => by
    rw [List.take_succ_cons]
    cases hcheck : checkName name with
    | error e =>
      rw [makeFrom, hcheck] at h
      cases h
    | ok =>
      -- the first directory exists after its step, so that the next attempt goes on behind it
      have hagain : ∀ {u : FileTree}, u.node? (p.enter name) = some .directory →
          u.makeFrom (p.enter name) steps = (.ok (), t') →
            (u.makeFrom (p.enter name) (steps.take k)).2.makeFrom p (.enter name :: steps) =
              (.ok (), t') := by
        intro u hu hmake
        rw [makeFrom_enter_of_directory hcheck (node?_makeFrom (steps.take k) hu)]
        exact makeFrom_makeFrom_take steps k hmake
      cases hnode : t.node? (p.enter name) with
      | none =>
        rw [makeFrom_enter_of_none hcheck hnode] at h ⊢
        exact hagain (node?_put_self t _ (not_isFixed_of_none hnode)) h
      | some n =>
        cases n with
        | file bytes =>
          rw [makeFrom, hcheck] at h
          simp only [hnode] at h
          cases h
        | directory =>
          have hfirst : t.makeFrom (p.enter name) steps = (.ok (), t') := by
            rw [← h, makeFrom_enter_of_directory hcheck hnode]
          rw [makeFrom_enter_of_directory hcheck hnode]
          exact hagain hnode hfirst

/-- Directories that were made in part are made as a whole by another attempt. -/
theorem make_makeSteps (h : t.make r = (.ok (), t')) (k : Nat) :
    (t.makeSteps k r).make r = (.ok (), t') := by
  rw [make] at h ⊢
  rw [makeSteps]
  cases hcheck : checkRoute r with
  | error e =>
    rw [hcheck] at h
    cases h
  | ok =>
    rw [hcheck] at h
    exact makeFrom_makeFrom_take r.steps k h

/-- Only directories are made. -/
theorem node?_makeFrom_file {bytes : ByteArray} : ∀ (steps : List Route.Step) {t : FileTree}
    {p : Place}, (t.makeFrom p steps).2.node? q = some (.file bytes) ↔
      t.node? q = some (.file bytes)
  | [], _, _ => .rfl
  | .up :: steps, _, _ => node?_makeFrom_file steps
  | .enter name :: steps, t, p => by
    rw [makeFrom]
    cases checkName name with
    | error e => rfl
    | ok =>
      cases hnode : t.node? (p.enter name) with
      | none =>
        refine (node?_makeFrom_file steps).trans ?_
        by_cases hq : q = p.enter name
        · rw [hq, node?_put_self t _ (not_isFixed_of_none hnode), hnode]
          simp
        · rw [node?_put_of_ne t _ hq]
      | some n =>
        cases n with
        | file bytes => rfl
        | directory => exact node?_makeFrom_file steps

theorem node?_makeSteps_file {bytes : ByteArray} {k : Nat} :
    (t.makeSteps k r).node? q = some (.file bytes) ↔ t.node? q = some (.file bytes) := by
  rw [makeSteps]
  cases checkRoute r with
  | error e => rfl
  | ok => exact node?_makeFrom_file _

/-- Whether a missing directory can be made as a whole, and a tree in which it was made is as it is
asked for. Nothing is asked for if the directory exists, or is not found for another reason. -/
def Makes (t : FileTree) (d : Route) (P : FileTree → Prop) : Prop :=
  t.resolve d = .error .notFound → (t.make d).1 = .ok () ∧ P (t.make d).2

/-- As long as a missing directory is made in part, it is missing. -/
theorem Makes.makeSteps {P : FileTree → Prop} (h : t.Makes d P) (k : Nat) :
    t.makeSteps k d = t ∨ t.resolve d = .error .notFound ∧
      ((t.makeSteps k d).resolve d = .error .notFound ∨ P (t.makeSteps k d)) := by
  by_cases hmissing : t.resolve d = .error .notFound
  · refine .inr ⟨hmissing, ?_⟩
    obtain ⟨hmake, hP⟩ := h hmissing
    by_cases hstill : (t.makeSteps k d).resolve d = .error .notFound
    · exact .inl hstill
    · have hagain : (t.makeSteps k d).make d = (.ok (), (t.make d).2) :=
        make_makeSteps (Prod.ext hmake rfl) k
      have hwhole := makeSteps_of_ne_notFound hstill d.steps.length
      rw [makeSteps_length, hagain] at hwhole
      exact .inr (hwhole ▸ hP)
  · exact .inl (makeSteps_of_ne_notFound hmissing k)

/-! ### Trees that differ in one file -/

theorem node?_erase_self (hq : ¬IsFixed q) : (t.erase q).node? q = none := by
  rw [node?_of_not_isFixed hq]
  simp [erase]

theorem erase_erase (t : FileTree) (q : Place) : (t.erase q).erase q = t.erase q := by
  simp [erase]

theorem erase_put (t : FileTree) (q : Place) (n : Node) : (t.put q n).erase q = t.erase q := by
  simp [erase, put]

theorem put_erase (t : FileTree) (q : Place) (n : Node) : (t.erase q).put q n = t.put q n := by
  rw [put, put, erase_erase]

theorem put_put (t : FileTree) (q : Place) (n n' : Node) : (t.put q n).put q n' = t.put q n' := by
  rw [← put_erase, erase_put, put_erase]

theorem filter_namesAt_erase {keep : String → Bool} (hkeep : keep name = false) :
    ((t.erase (q.enter name)).namesAt p).filter keep = (t.namesAt p).filter keep := by
  have hentry : ∀ e : Place × Node, (if e.1 ≠ q.enter name then
      (if e.1.up = p then e.1.names.head? else none) else none).filter keep =
        (if e.1.up = p then e.1.names.head? else none).filter keep := by
    intro e
    by_cases he : e.1 = q.enter name
    · rw [if_neg (not_not_intro he), he, nameAt_enter]
      split_ifs
      · rw [Option.filter_none, Option.filter_some, hkeep, if_neg Bool.false_ne_true]
      · rfl
    · rw [if_pos he]
  simp only [namesAt, FileTree.erase, List.filterMap_filter, List.filter_filterMap,
    decide_eq_true_eq, hentry]

theorem filter_namesAt_put {keep : String → Bool} (hkeep : keep name = false) (n : Node) :
    ((t.put (q.enter name) n).namesAt p).filter keep =
      ((t.erase (q.enter name)).namesAt p).filter keep := by
  rw [namesAt, put, List.filterMap_cons, nameAt_enter]
  by_cases hup : q = p
  · rw [if_pos hup]
    exact List.filter_cons_of_neg (ne_true_of_eq_false hkeep)
  · rw [if_neg hup]
    rfl

/-- The trees in which a file in a directory may be another one or missing, and everything else is
as in a tree. -/
inductive DiffersAt (t : FileTree) (d : Route) (name : String) : FileTree → Prop
  | refl : t.DiffersAt d name t
  | erase {q : Place} : t.locate d name = .ok q → t.node? q ≠ some .directory →
      t.DiffersAt d name (t.erase q)
  | put {q : Place} (bytes : ByteArray) : t.locate d name = .ok q →
      t.node? q ≠ some .directory → t.DiffersAt d name (t.put q (.file bytes))

namespace DiffersAt

theorem keepsDirectories (h : t.DiffersAt d name t') : KeepsDirectories t t' := by
  cases h with
  | refl => exact .refl t
  | erase _ hnode => exact keepsDirectories_erase hnode
  | put _ _ hnode => exact keepsDirectories_put hnode

theorem resolve (h : t.DiffersAt d name t') : t'.resolve d = t.resolve d := by
  have hexists : ∀ {q : Place}, t.locate d name = .ok q → t'.resolve d = t.resolve d := by
    intro q hq
    obtain ⟨p, hp, -⟩ := locate_eq_ok.mp hq
    rw [hp]
    exact h.keepsDirectories.resolve hp
  cases h with
  | refl => rfl
  | erase hq _ => exact hexists hq
  | put _ hq _ => exact hexists hq

theorem locate (h : t.DiffersAt d name t') (other : String) :
    t'.locate d other = t.locate d other := by
  rw [FileTree.locate, FileTree.locate, h.resolve]

/-- An entry of another name is the same. -/
theorem node?_of_ne (h : t.DiffersAt d name t') (hne : other ≠ name) (p : Place) :
    t'.node? (p.enter other) = t.node? (p.enter other) := by
  have hplace : ∀ {q : Place}, t.locate d name = .ok q → p.enter other ≠ q := by
    intro q hq heq
    obtain ⟨p', -, -, rfl⟩ := locate_eq_ok.mp hq
    exact hne (List.cons.inj (congrArg Place.names heq)).1
  cases h with
  | refl => rfl
  | erase hq _ => exact node?_erase_of_ne t (hplace hq)
  | put _ hq _ => exact node?_put_of_ne t _ (hplace hq)

theorem read_of_ne (h : t.DiffersAt d name t') (hne : other ≠ name) :
    t'.read d other = t.read d other := by
  rw [read, read, h.locate]
  cases hlocate : t.locate d other with
  | error e => rfl
  | ok q =>
    obtain ⟨p, -, -, rfl⟩ := locate_eq_ok.mp hlocate
    simp only [bind, Except.bind, h.node?_of_ne hne]

/-- The names in a directory are the same, as far as the one of the file is not asked for. -/
theorem filter_namesAt {keep : String → Bool} (h : t.DiffersAt d name t')
    (hkeep : keep name = false) (p : Place) :
    (t'.namesAt p).filter keep = (t.namesAt p).filter keep := by
  cases h with
  | refl => rfl
  | erase hq _ =>
    obtain ⟨p', -, -, rfl⟩ := locate_eq_ok.mp hq
    exact filter_namesAt_erase hkeep
  | put bytes hq _ =>
    obtain ⟨p', -, -, rfl⟩ := locate_eq_ok.mp hq
    rw [filter_namesAt_put hkeep, filter_namesAt_erase hkeep]

theorem trans (h : t.DiffersAt d name t') (h' : t'.DiffersAt d name t'') :
    t.DiffersAt d name t'' := by
  have hlocate := h.locate name
  cases h with
  | refl => exact h'
  | erase hq hnode =>
    cases h' with
    | refl => exact .erase hq hnode
    | erase hq' _ =>
      obtain rfl := Except.ok.inj (hq.symm.trans (hlocate.symm.trans hq'))
      rw [erase_erase]
      exact .erase hq hnode
    | put bytes hq' _ =>
      obtain rfl := Except.ok.inj (hq.symm.trans (hlocate.symm.trans hq'))
      rw [put_erase]
      exact .put bytes hq hnode
  | put old hq hnode =>
    cases h' with
    | refl => exact .put old hq hnode
    | erase hq' _ =>
      obtain rfl := Except.ok.inj (hq.symm.trans (hlocate.symm.trans hq'))
      rw [erase_put]
      exact .erase hq hnode
    | put bytes hq' _ =>
      obtain rfl := Except.ok.inj (hq.symm.trans (hlocate.symm.trans hq'))
      rw [put_put]
      exact .put bytes hq hnode

theorem edit (t : FileTree) (d : Route) (name : String) (change : ByteArray → ByteArray) :
    t.DiffersAt d name (t.edit d name change).2 := by
  rcases h : t.edit d name change with ⟨_ | ⟨⟩, u⟩
  · rw [edit_error h]
    exact .refl
  · obtain ⟨q, old, hq, hnode, -, rfl⟩ := edit_ok h
    exact .put _ hq hnode

theorem delete (t : FileTree) (d : Route) (name : String) :
    t.DiffersAt d name (t.delete d name).2 := by
  rcases h : t.delete d name with ⟨_ | ⟨⟩, u⟩
  · rw [delete_error h]
    exact .refl
  · obtain ⟨q, bytes, hq, hnode, rfl⟩ := delete_ok h
    exact .erase hq (by rw [hnode]; exact nofun)

end DiffersAt

end FileTree

/-! ### Outages -/

/-- How far an operation gets that an outage interrupts: which of the steps of a route are made, and
which bytes are written. -/
structure Tear where
  steps : Nat
  bytes : ByteArray

/-- The tree after an operation that is interrupted. -/
def FileTree.tear (t : FileTree) (x : Tear) : FileOp → FileTree
  | .makeDirectories d => t.makeSteps x.steps d
  | .write d name _ => (t.edit d name fun _ => x.bytes).2
  | .append d name _ => (t.edit d name fun old => old ++ x.bytes).2
  | .rename _ _ _ | .remove _ _ => t

/-- A tree, the number of operations before an outage, and how far the next one gets; none if the
outage comes between two operations. -/
structure Outage where
  tree : FileTree
  left : Nat
  tear : Option Tear

namespace Outage

variable {o o' : Outage} {op : FileOp} {ops : List FileOp} {d : Route} {name : String}
  {bytes : ByteArray} {e : FileFault}

/-- Performs an operation before an outage. The first one after it may be interrupted, and all
others fail and change nothing. -/
def perform (o : Outage) (op : FileOp) : Except FileFault Unit × Outage :=
  match o.left with
  | 0 => (.error (.other "interrupted"), ⟨o.tear.elim o.tree (o.tree.tear · op), 0, none⟩)
  | n + 1 => ((o.tree.perform op).1, ⟨(o.tree.perform op).2, n, o.tear⟩)

/-- The file system of a tree up to an outage. -/
def system : FileSystem (StateM Outage) where
  perform op := fun o => o.perform op
  read directory name := fun o => (o.tree.read directory name, o)
  names directory := fun o => (o.tree.names directory, o)

theorem perform_ok (h : o.perform op = (.ok (), o')) :
    o.left = o'.left + 1 ∧ o.tree.perform op = (.ok (), o'.tree) := by
  rw [perform] at h
  cases hleft : o.left with
  | zero =>
    rw [hleft] at h
    cases h
  | succ n =>
    rw [hleft] at h
    obtain ⟨hanswer, rfl⟩ := Prod.mk.inj h
    exact ⟨rfl, Prod.ext hanswer rfl⟩

theorem perform_of_pos (op : FileOp) (h : 0 < o.left) :
    o.perform op = ((o.tree.perform op).1, ⟨(o.tree.perform op).2, o.left - 1, o.tear⟩) := by
  obtain ⟨n, hn⟩ := Nat.exists_eq_add_of_lt h
  rw [perform]
  simp only [hn, Nat.zero_add, Nat.add_sub_cancel]

theorem performAll_cons (op : FileOp) (ops : List FileOp) (o : Outage) :
    system.performAll (op :: ops) o =
      match o.perform op with
      | (.ok (), u) => system.performAll ops u
      | (.error e, u) => (.error e, u) := by
  rcases h : o.perform op with ⟨e | ⟨⟩, u⟩
  · exact system.run_performAll_cons ops h
  · exact system.run_performAll_cons ops h

/-- Operations that succeed are performed before the outage, as they are without one. -/
theorem performAll_ok (h : system.performAll ops o = (.ok (), o')) :
    ops.length ≤ o.left ∧ FileTree.system.performAll ops o.tree = (.ok (), o'.tree) := by
  induction ops generalizing o with
  | nil =>
    obtain rfl : o = o' := (Prod.mk.inj h).2
    exact ⟨Nat.zero_le _, rfl⟩
  | cons op ops ih =>
    rw [performAll_cons] at h
    rcases hstep : o.perform op with ⟨_ | ⟨⟩, u⟩
    · rw [hstep] at h
      cases h
    · rw [hstep] at h
      obtain ⟨hleft, htree⟩ := perform_ok hstep
      obtain ⟨hle, hops⟩ := ih h
      rw [FileTree.performAll_cons, htree]
      exact ⟨by rw [List.length_cons]; omega, hops⟩

/-- Before the outage, operations answer as they do without one. -/
theorem performAll_of_le (h : ops.length ≤ o.left) :
    (system.performAll ops o).1 = (FileTree.system.performAll ops o.tree).1 := by
  induction ops generalizing o with
  | nil => rfl
  | cons op ops ih =>
    rw [List.length_cons] at h
    rw [performAll_cons, FileTree.performAll_cons, perform_of_pos op (by omega)]
    rcases o.tree.perform op with ⟨_ | ⟨⟩, u⟩
    · rfl
    · exact ih (by simp only; omega)

/-! ### Files that are not replaced -/

theorem tree_makeDirectories (o : Outage) (d : Route) :
    ∃ k, (o.perform (.makeDirectories d)).2.tree = o.tree.makeSteps k d := by
  rw [perform]
  cases o.left with
  | zero =>
    cases o.tear with
    | none => exact ⟨0, (FileTree.makeSteps_zero o.tree d).symm⟩
    | some x => exact ⟨x.steps, rfl⟩
  | succ n => exact ⟨d.steps.length, (FileTree.makeSteps_length o.tree d).symm⟩

theorem tree_write (o : Outage) (d : Route) (name : String) (bytes : ByteArray) :
    o.tree.DiffersAt d name (o.perform (.write d name bytes)).2.tree := by
  rw [perform]
  cases o.left with
  | zero =>
    cases o.tear with
    | none => exact .refl
    | some x => exact .edit o.tree d name _
  | succ n => exact .edit o.tree d name _

theorem tree_remove (o : Outage) (d : Route) (name : String) :
    o.tree.DiffersAt d name (o.perform (.remove d name)).2.tree := by
  rw [perform]
  cases o.left with
  | zero => cases o.tear <;> exact .refl
  | succ n => exact .delete o.tree d name

theorem tree_rename_error {source target : String}
    (h : o.perform (.rename d source target) = (.error e, o')) : o'.tree = o.tree := by
  rw [perform] at h
  cases hleft : o.left with
  | zero =>
    rw [hleft] at h
    obtain ⟨-, rfl⟩ := Prod.mk.inj h
    cases o.tear <;> rfl
  | succ n =>
    rw [hleft] at h
    obtain ⟨hanswer, rfl⟩ := Prod.mk.inj h
    exact FileTree.move_error (Prod.ext hanswer rfl)

/-- When a file was not replaced, some of the missing directories may be made, and the draft may be
another one. -/
theorem performAll_replace_error
    (h : system.performAll (FileOp.replace d name bytes) o = (.error e, o')) :
    ∃ k, (o.tree.makeSteps k d).DiffersAt d (FileOp.draftName name) o'.tree := by
  obtain ⟨k, hmake⟩ := tree_makeDirectories o d
  refine ⟨k, ?_⟩
  rw [← hmake]
  rw [FileOp.replace, performAll_cons] at h
  rcases hfirst : o.perform (.makeDirectories d) with ⟨_ | ⟨⟩, o₁⟩
  · rw [hfirst] at h
    obtain rfl : o₁ = o' := (Prod.mk.inj h).2
    exact .refl
  rw [hfirst] at h
  simp only [performAll_cons] at h
  have hwrite := tree_write o₁ d (FileOp.draftName name) bytes
  rcases hsecond : o₁.perform (.write d (FileOp.draftName name) bytes) with ⟨_ | ⟨⟩, o₂⟩
  · rw [hsecond] at h hwrite
    obtain rfl : o₂ = o' := (Prod.mk.inj h).2
    exact hwrite
  rw [hsecond] at h hwrite
  simp only at h
  rcases hthird : o₂.perform (.rename d (FileOp.draftName name) name) with ⟨_ | ⟨⟩, o₃⟩
  · rw [hthird] at h
    obtain rfl : o₃ = o' := (Prod.mk.inj h).2
    rw [tree_rename_error hthird]
    exact hwrite
  · rw [hthird] at h
    cases (Prod.mk.inj h).1

end Outage

end CrowdTask
