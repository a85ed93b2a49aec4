import CrowdTask.Proofs.Files.Tree

/-!
# Files that are replaced

A file is given new bytes by writing them under another name, which then takes the place of the
file. If all of this succeeds, the file holds the new bytes. All other files keep theirs, but for
the one of the other name.

## Main definitions

* `CrowdTask.FileOp.Spares`: the operations that do not name a given file.
* `CrowdTask.FileTree.CanReplace`: the trees in which a file can be replaced.

## Main results

* `CrowdTask.FileTree.read_perform`: a file keeps its bytes under the operations that spare it.
* `CrowdTask.FileTree.performAll_invariant`: what each of some operations preserves.
* `CrowdTask.FileTree.read_of_replace`: a replaced file holds its new bytes.
* `CrowdTask.FileTree.read_of_replace_error`: a file that could not be replaced is read as before.
* `CrowdTask.FileTree.CanReplace.performAll_replace`: a file that can be replaced is replaced.
-/

namespace CrowdTask

namespace FileOp

/-- Whether an operation works in the directory of a file, or makes directories, and does not name
the file. -/
def Spares (d : Route) (name : String) : FileOp → Prop
  | .makeDirectories _ => True
  | .write d' other _ | .append d' other _ | .remove d' other => d' = d ∧ other ≠ name
  | .rename d' source target => d' = d ∧ source ≠ name ∧ target ≠ name

theorem draftName_ne (name : String) : draftName name ≠ name := by
  intro h
  have hlength := congrArg String.length h
  rw [draftName, String.length_append, String.length_append] at hlength
  have hdot : ".".length = 1 := rfl
  omega

theorem spares_replace {d : Route} {name other : String} (bytes : ByteArray) (hname : name ≠ other)
    (hdraft : draftName name ≠ other) : ∀ op ∈ replace d name bytes, op.Spares d other := by
  intro op hop
  simp only [replace, List.mem_cons, List.not_mem_nil, or_false] at hop
  rcases hop with rfl | rfl | rfl
  · trivial
  · exact ⟨rfl, hdraft⟩
  · exact ⟨rfl, hdraft, hname⟩

end FileOp

/-- The first of several operations decides whether the others are performed. -/
theorem FileSystem.run_performAll_cons {σ : Type} (fs : FileSystem (StateM σ)) {op : FileOp}
    {s : σ} (ops : List FileOp) {r : Except FileFault Unit × σ} : fs.perform op s = r →
      fs.performAll (op :: ops) s =
        match r with
        | (.ok (), s') => fs.performAll ops s'
        | (.error e, s') => (.error e, s') := by
  intro h
  obtain ⟨e | ⟨⟩, s'⟩ := r
  · simp only [performAll, bind, StateT.bind, h]
    rfl
  · simp only [performAll, bind, StateT.bind, h]

namespace FileTree

variable {t t' : FileTree} {p q : Place} {d : Route} {name : String} {bytes : ByteArray}

/-! ### One operation -/

theorem keepsDirectories_perform (t : FileTree) (op : FileOp) :
    KeepsDirectories t (t.perform op).2 := by
  have hedit : ∀ d name change, KeepsDirectories t (t.edit d name change).2 := by
    intro d name change
    rcases hresult : t.edit d name change with ⟨_ | ⟨⟩, u⟩
    · rw [edit_error hresult]
      exact KeepsDirectories.refl t
    · obtain ⟨q, old, -, hq, -, rfl⟩ := edit_ok hresult
      exact keepsDirectories_put hq
  cases op with
  | makeDirectories r => exact keepsDirectories_make t r
  | write d name bytes => exact hedit d name _
  | append d name bytes => exact hedit d name _
  | rename d a b =>
    rw [perform]
    rcases hresult : t.move d a b with ⟨_ | ⟨⟩, u⟩
    · rw [move_error hresult]
      exact KeepsDirectories.refl t
    · obtain ⟨p, q, bytes, -, -, hp, hq, rfl⟩ := move_ok hresult
      have herase : KeepsDirectories t (t.erase p) := keepsDirectories_erase (by simp [hp])
      intro x hx
      have hne : x ≠ q := by
        rintro rfl
        exact hq hx
      rw [node?_put_of_ne _ _ hne, herase x hx]
  | remove d name =>
    rw [perform]
    rcases hresult : t.delete d name with ⟨_ | ⟨⟩, u⟩
    · rw [delete_error hresult]
      exact KeepsDirectories.refl t
    · obtain ⟨q, bytes, -, hq, rfl⟩ := delete_ok hresult
      exact keepsDirectories_erase (by simp [hq])

theorem node?_perform {op : FileOp} {n : Node} (hop : op.Spares d name)
    (hq : t.locate d name = .ok q) (hnode : t.node? q = some n) :
    (t.perform op).2.node? q = some n := by
  have hedit : ∀ {other : String} {change : ByteArray → ByteArray}, other ≠ name →
      (t.edit d other change).2.node? q = some n := by
    intro other change hne
    rcases hresult : t.edit d other change with ⟨_ | ⟨⟩, u⟩
    · rw [edit_error hresult, hnode]
    · obtain ⟨p, old, hp, -, -, rfl⟩ := edit_ok hresult
      rw [node?_put_of_ne t _ (ne_of_locate hp hq hne).symm, hnode]
  cases op with
  | makeDirectories r => exact node?_make hnode
  | write d' other bytes =>
    obtain ⟨rfl, hne⟩ := hop
    exact hedit hne
  | append d' other bytes =>
    obtain ⟨rfl, hne⟩ := hop
    exact hedit hne
  | rename d' a b =>
    obtain ⟨rfl, hsource, htarget⟩ := hop
    rw [perform]
    rcases hresult : t.move d' a b with ⟨_ | ⟨⟩, u⟩
    · rw [move_error hresult, hnode]
    · obtain ⟨x, y, bytes, hx, hy, -, -, rfl⟩ := move_ok hresult
      rw [node?_put_of_ne _ _ (ne_of_locate hy hq htarget).symm,
        node?_erase_of_ne t (ne_of_locate hx hq hsource).symm, hnode]
  | remove d' other =>
    obtain ⟨rfl, hne⟩ := hop
    rw [perform]
    rcases hresult : t.delete d' other with ⟨_ | ⟨⟩, u⟩
    · rw [delete_error hresult, hnode]
    · obtain ⟨x, bytes, hx, -, rfl⟩ := delete_ok hresult
      rw [node?_erase_of_ne t (ne_of_locate hx hq hne).symm, hnode]

/-- A file keeps its bytes under the operations that spare it. -/
theorem read_perform {op : FileOp} (hop : op.Spares d name) (h : t.read d name = .ok bytes) :
    (t.perform op).2.read d name = .ok bytes := by
  obtain ⟨q, hq, hnode⟩ := read_eq_ok.mp h
  exact read_eq_ok.mpr ⟨q, (keepsDirectories_perform t op).locate hq, node?_perform hop hq hnode⟩

/-! ### Lists of operations -/

theorem performAll_cons (op : FileOp) (ops : List FileOp) (t : FileTree) :
    system.performAll (op :: ops) t =
      match t.perform op with
      | (.ok (), u) => system.performAll ops u
      | (.error e, u) => (.error e, u) := by
  rcases h : t.perform op with ⟨e | ⟨⟩, u⟩
  · exact system.run_performAll_cons ops h
  · exact system.run_performAll_cons ops h

/-- What every operation of a list preserves is preserved by the list, also if one of them fails. -/
theorem performAll_invariant {P : FileTree → Prop} {ops : List FileOp}
    (hops : ∀ op ∈ ops, ∀ u, P u → P (u.perform op).2) (h : P t) :
    P (system.performAll ops t).2 := by
  induction ops generalizing t with
  | nil => exact h
  | cons op ops ih =>
    obtain ⟨hop, hops⟩ := List.forall_mem_cons.mp hops
    have hstep := hop t h
    rw [performAll_cons]
    rcases hresult : t.perform op with ⟨_ | ⟨⟩, u⟩
    · rwa [hresult] at hstep
    · rw [hresult] at hstep
      exact ih hops hstep

/-- A file keeps its bytes under all operations that spare it. -/
theorem read_performAll {ops : List FileOp} (hops : ∀ op ∈ ops, op.Spares d name)
    (h : t.read d name = .ok bytes) : (system.performAll ops t).2.read d name = .ok bytes :=
  performAll_invariant (P := fun u => u.read d name = .ok bytes)
    (fun op hop _ hu => read_perform (hops op hop) hu) h

theorem keepsDirectories_performAll (ops : List FileOp) (t : FileTree) :
    KeepsDirectories t (system.performAll ops t).2 :=
  performAll_invariant (P := KeepsDirectories t)
    (fun op _ u hu => hu.trans (keepsDirectories_perform u op)) (.refl t)

/-- A file in an existing directory that could not be replaced is read as before. -/
theorem read_of_replace_error {e : FileFault} (hp : t.resolve d = .ok p)
    (h : system.performAll (FileOp.replace d name bytes) t = (.error e, t')) :
    t'.read d name = t.read d name := by
  have hmake : t.perform (.makeDirectories d) = (.ok (), t) := make_eq_of_resolve hp
  rw [FileOp.replace, performAll_cons, hmake] at h
  simp only [performAll_cons] at h
  rcases hwrite : t.perform (.write d (FileOp.draftName name) bytes) with ⟨_ | ⟨⟩, u⟩
  · rw [hwrite] at h
    obtain rfl : u = t' := (Prod.mk.inj h).2
    rw [edit_error hwrite]
  rw [hwrite] at h
  simp only at h
  rcases hmove : u.perform (.rename d (FileOp.draftName name) name) with ⟨_ | ⟨⟩, u'⟩
  · rw [hmove] at h
    obtain rfl : u' = t' := (Prod.mk.inj h).2
    obtain ⟨q, old, hq, hnode, -, rfl⟩ := edit_ok hwrite
    rw [move_error hmove]
    exact read_put hp hq hnode (FileOp.draftName_ne name)
  · rw [hmove] at h
    cases (Prod.mk.inj h).1

/-- A replaced file holds its new bytes. -/
theorem read_of_replace (h : system.performAll (FileOp.replace d name bytes) t = (.ok (), t')) :
    t'.read d name = .ok bytes := by
  rw [FileOp.replace, performAll_cons] at h
  rcases hmake : t.perform (.makeDirectories d) with ⟨_ | ⟨⟩, t₁⟩
  · rw [hmake] at h
    cases h
  rw [hmake] at h
  simp only [performAll_cons] at h
  rcases hwrite : t₁.perform (.write d (FileOp.draftName name) bytes) with ⟨_ | ⟨⟩, t₂⟩
  · rw [hwrite] at h
    cases h
  rw [hwrite] at h
  simp only at h
  rcases hmove : t₂.perform (.rename d (FileOp.draftName name) name) with ⟨_ | ⟨⟩, t₃⟩
  · rw [hmove] at h
    cases h
  rw [hmove] at h
  obtain rfl : t₃ = t' := (Prod.mk.inj h).2
  -- the draft holds the new bytes, and these are what is moved
  obtain ⟨p, old, hp, hpdir, -, rfl⟩ := edit_ok hwrite
  obtain ⟨p', q, moved, hp', hq, hdraft, hqdir, rfl⟩ := move_ok hmove
  have hkeeps : KeepsDirectories t₁ (t₁.put p (.file bytes)) := keepsDirectories_put hpdir
  obtain rfl := Except.ok.inj ((hkeeps.locate hp).symm.trans hp')
  rw [node?_put_self t₁ _ (not_isFixed_of_ne hpdir)] at hdraft
  obtain rfl : bytes = moved := by
    simpa using hdraft
  have hmoves := keepsDirectories_perform (t₁.put p (.file bytes))
    (.rename d (FileOp.draftName name) name)
  rw [hmove] at hmoves
  exact read_eq_ok.mpr ⟨q, hmoves.locate hq, node?_put_self _ _ (not_isFixed_of_ne hqdir)⟩

/-! ### When a file can be replaced -/

theorem checkName_of_draftName (h : checkName (FileOp.draftName name) = .ok ()) :
    checkName name = .ok () := by
  unfold checkName at h ⊢
  split at h
  · cases h
  rename_i hnul
  split at h
  · cases h
  rename_i hsize
  have hnul' : ¬hasNul name = true := by
    intro hname
    refine hnul ?_
    rw [hasNul, List.contains_iff_mem] at hname ⊢
    simp [FileOp.draftName, hname]
  have hsize' : ¬255 < name.utf8ByteSize := by
    simp only [FileOp.draftName, String.utf8ByteSize_append] at hsize
    omega
  rw [if_neg hnul', if_neg hsize']

theorem edit_of_locate {change : ByteArray → ByteArray} (hq : t.locate d name = .ok q)
    (hnode : t.node? q ≠ some .directory) : (t.edit d name change).1 = .ok () := by
  rw [edit, hq]
  cases hentry : t.node? q with
  | none => simp only [hentry]
  | some n =>
    cases n with
    | directory => exact absurd hentry hnode
    | file old => simp only [hentry]

theorem move_of_locate {a b : String} (hp : t.locate d a = .ok p) (hq : t.locate d b = .ok q)
    (hsource : t.node? p = some (.file bytes)) (htarget : t.node? q ≠ some .directory) :
    (t.move d a b).1 = .ok () := by
  rw [move, hp, hq]
  cases hentry : t.node? q with
  | none => simp only [hsource, hentry]
  | some n =>
    cases n with
    | directory => exact absurd hentry htarget
    | file old => simp only [hsource, hentry]

theorem node?_of_read_ne (hq : t.locate d name = .ok q)
    (h : t.read d name ≠ .error .isADirectory) : t.node? q ≠ some .directory := by
  intro hnode
  refine h ?_
  rw [read, hq]
  simp only [bind, Except.bind, hnode]

/-- Whether a file can be replaced: its directory exists or can be made, and neither its name nor
that of the draft is too long for a file or stands for a directory. -/
structure CanReplace (t : FileTree) (d : Route) (name : String) : Prop where
  make_ok : (t.make d).1 = .ok ()
  checkName_ok : checkName (FileOp.draftName name) = .ok ()
  draft_ne : (t.make d).2.read d (FileOp.draftName name) ≠ .error .isADirectory
  file_ne : (t.make d).2.read d name ≠ .error .isADirectory

/-- A file that can be replaced is replaced. -/
theorem CanReplace.performAll_replace (h : t.CanReplace d name) (bytes : ByteArray) :
    (system.performAll (FileOp.replace d name bytes) t).1 = .ok () := by
  obtain ⟨hmake, hname, hdraft, hfile⟩ := h
  have hfirst : t.perform (.makeDirectories d) = (.ok (), (t.make d).2) := Prod.ext hmake rfl
  generalize (t.make d).2 = t₁ at hfirst hdraft hfile
  obtain ⟨p, hp⟩ := resolve_of_make hfirst
  have hdraftPlace := locate_eq_ok.mpr ⟨p, hp, hname, rfl⟩
  have hplace := locate_eq_ok.mpr ⟨p, hp, checkName_of_draftName hname, rfl⟩
  have hdraftNode := node?_of_read_ne hdraftPlace hdraft
  have hsecond : (t₁.perform (.write d (FileOp.draftName name) bytes)).1 = .ok () :=
    edit_of_locate hdraftPlace hdraftNode
  rw [FileOp.replace, performAll_cons, hfirst]
  simp only [performAll_cons]
  rcases hwrite : t₁.perform (.write d (FileOp.draftName name) bytes) with ⟨_ | ⟨⟩, t₂⟩
  · rw [hwrite] at hsecond
    cases hsecond
  · -- the draft is a file now, and the file itself is as it was
    obtain ⟨q, old, hq, -, -, rfl⟩ := edit_ok hwrite
    obtain rfl := Except.ok.inj (hdraftPlace.symm.trans hq)
    have hkeeps : KeepsDirectories t₁ (t₁.put (p.enter (FileOp.draftName name)) (.file bytes)) :=
      keepsDirectories_put hdraftNode
    have htarget : (t₁.put (p.enter (FileOp.draftName name)) (.file bytes)).node? (p.enter name) ≠
        some .directory := by
      rw [node?_put_of_ne t₁ _ fun heq => FileOp.draftName_ne name (enter_inj.mp heq).symm]
      exact node?_of_read_ne hplace hfile
    have hthird := move_of_locate (hkeeps.locate hdraftPlace) (hkeeps.locate hplace)
      (node?_put_self t₁ _ (not_isFixed_of_ne hdraftNode)) htarget
    simp only
    rw [perform]
    rcases hmove : (t₁.put (p.enter (FileOp.draftName name)) (.file bytes)).move d
        (FileOp.draftName name) name with ⟨_ | ⟨⟩, t₃⟩
    · rw [hmove] at hthird
      cases hthird
    · rfl

end FileTree

end CrowdTask
