import CrowdTask.Files.Tree
import Mathlib.Tactic.SplitIfs

/-!
# What the operations on file trees leave untouched

An operation changes the entry that it names and no other one. Directories stay where they are, so a
route leads to the same place before and after; the missing directories on a route are made once.

## Main definitions

* `CrowdTask.FileTree.KeepsDirectories`: no directory of one tree is missing in another one.

## Main results

* `CrowdTask.FileTree.make_eq_of_resolve`, `CrowdTask.FileTree.resolve_of_make`: the directories on
  a route exist exactly when there are none to be made.
* `CrowdTask.FileTree.read_put`: a file is read as before when another one gets new bytes.
* `CrowdTask.FileTree.edit_ok`, `CrowdTask.FileTree.move_ok`, `CrowdTask.FileTree.delete_ok`: what
  an operation on files does if it succeeds.
-/

namespace CrowdTask

namespace FileTree

variable {t t' : FileTree} {p q : Place}

/-! ### Entries -/

/-- Whether a place always holds a directory. -/
def IsFixed (p : Place) : Prop := p = .root ∨ p = workingDirectory

theorem node?_of_isFixed (hp : IsFixed p) (t : FileTree) : t.node? p = some .directory :=
  if_pos hp

theorem node?_of_not_isFixed (hp : ¬IsFixed p) (t : FileTree) :
    t.node? p = (t.entries.find? fun e => e.1 = p).map (·.2) :=
  if_neg hp

theorem node?_erase_of_ne (t : FileTree) (h : q ≠ p) : (t.erase p).node? q = t.node? q := by
  have hfind : (t.erase p).entries.find? (fun e => e.1 = q) =
      t.entries.find? fun e => e.1 = q := by
    rw [erase, List.find?_filter]
    congr 1
    funext e
    by_cases he : e.1 = q
    · simp [he, h]
    · simp [he]
  rw [node?, node?, hfind]

theorem node?_put_self (t : FileTree) (n : Node) (hp : ¬IsFixed p) :
    (t.put p n).node? p = some n := by
  rw [node?_of_not_isFixed hp]
  simp [put]

theorem node?_put_of_ne (t : FileTree) (n : Node) (h : q ≠ p) :
    (t.put p n).node? q = t.node? q := by
  have hne : (decide (p = q)) = false := by simpa using h.symm
  rw [← node?_erase_of_ne t h]
  simp only [node?, put, List.find?_cons, hne]

/-- A place and a name in it make one entry. -/
theorem enter_inj {a b : String} : p.enter a = p.enter b ↔ a = b := by
  constructor
  · intro h
    exact (List.cons.inj (congrArg Place.names h)).1
  · rintro rfl
    rfl

/-- An entry is named in its own directory only. -/
theorem nameAt_enter (p q : Place) (name : String) :
    (if (q.enter name).up = p then (q.enter name).names.head? else none) =
      if q = p then some name else none := by
  have hup : (q.enter name).up = q := Place.ext_names rfl
  rw [hup]
  rfl

theorem mem_namesAt {name : String} {n : Node} (hfixed : ¬IsFixed (p.enter name))
    (h : t.node? (p.enter name) = some n) : name ∈ t.namesAt p := by
  rw [node?_of_not_isFixed hfixed] at h
  obtain ⟨e, he, -⟩ := Option.map_eq_some_iff.mp h
  have hplace : e.1 = p.enter name := by simpa using List.find?_some he
  refine List.mem_filterMap.mpr ⟨e, List.mem_of_find?_eq_some he, ?_⟩
  rw [hplace, nameAt_enter, if_pos rfl]

theorem node?_of_mem_namesAt {name : String} (h : name ∈ t.namesAt p) :
    ∃ n, t.node? (p.enter name) = some n := by
  obtain ⟨e, he, hname⟩ := List.mem_filterMap.mp h
  split at hname
  · rename_i hup
    have hplace : e.1 = p.enter name := by
      refine Place.ext_names ?_
      obtain ⟨xs, hxs⟩ := List.head?_eq_some_iff.mp hname
      have htail : e.1.names.tail = p.names := congrArg Place.names hup
      rw [hxs, List.tail_cons] at htail
      rw [hxs, htail]
      rfl
    by_cases hfixed : IsFixed (p.enter name)
    · exact ⟨_, node?_of_isFixed hfixed t⟩
    · rw [node?_of_not_isFixed hfixed]
      have hsome : (t.entries.find? fun e => e.1 = p.enter name).isSome :=
        List.find?_isSome.mpr ⟨e, he, by simpa using hplace⟩
      obtain ⟨x, hx⟩ := Option.isSome_iff_exists.mp hsome
      exact ⟨x.2, by rw [hx]; rfl⟩
  · cases hname

/-! ### Directories -/

/-- Whether the directories of one tree are those of another one too. -/
def KeepsDirectories (t t' : FileTree) : Prop :=
  ∀ p, t.node? p = some .directory → t'.node? p = some .directory

theorem KeepsDirectories.refl (t : FileTree) : KeepsDirectories t t := fun _ h => h

theorem KeepsDirectories.trans {t'' : FileTree} (h : KeepsDirectories t t')
    (h' : KeepsDirectories t' t'') : KeepsDirectories t t'' := fun p hp => h' p (h p hp)

theorem KeepsDirectories.resolveFrom (h : KeepsDirectories t t') : ∀ (steps : List Route.Step)
    {p q : Place}, t.resolveFrom p steps = .ok q → t'.resolveFrom p steps = .ok q
  | [], _, _, hq => hq
  | .up :: steps, _, _, hq => h.resolveFrom steps hq
  | .enter name :: steps, p, q, hq => by
    rw [FileTree.resolveFrom] at hq ⊢
    cases hcheck : checkName name with
    | error e =>
      rw [hcheck] at hq
      cases hq
    | ok =>
      rw [hcheck] at hq
      cases hnode : t.node? (p.enter name) with
      | none =>
        rw [hnode] at hq
        cases hq
      | some n =>
        rw [hnode] at hq
        cases n with
        | file bytes => cases hq
        | directory =>
          simp only [h _ hnode]
          exact h.resolveFrom steps hq

theorem KeepsDirectories.resolve (h : KeepsDirectories t t') {r : Route}
    (hp : t.resolve r = .ok p) : t'.resolve r = .ok p := by
  rw [FileTree.resolve] at hp ⊢
  cases hcheck : checkRoute r with
  | error e =>
    rw [hcheck] at hp
    cases hp
  | ok =>
    rw [hcheck] at hp
    exact h.resolveFrom _ hp

/-- Making directories leaves every entry where it is. -/
theorem node?_makeFrom : ∀ (steps : List Route.Step) {t : FileTree} {p : Place} {n : Node},
    t.node? q = some n → (t.makeFrom p steps).2.node? q = some n
  | [], _, _, _, h => h
  | .up :: steps, _, _, _, h => node?_makeFrom steps h
  | .enter name :: steps, t, p, n, h => by
    rw [makeFrom]
    cases checkName name with
    | error e => exact h
    | ok =>
      cases hnode : t.node? (p.enter name) with
      | none =>
        have hne : q ≠ p.enter name := by
          rintro rfl
          rw [h] at hnode
          cases hnode
        simp only
        exact node?_makeFrom steps (by rw [node?_put_of_ne t _ hne, h])
      | some n' =>
        cases n' with
        | file bytes => exact h
        | directory => exact node?_makeFrom steps h

theorem node?_make {r : Route} {n : Node} (h : t.node? q = some n) :
    (t.make r).2.node? q = some n := by
  rw [make]
  cases checkRoute r with
  | error e => exact h
  | ok => exact node?_makeFrom _ h

theorem keepsDirectories_make (t : FileTree) (r : Route) : KeepsDirectories t (t.make r).2 :=
  fun _ h => node?_make h

theorem resolveFrom_of_makeFrom : ∀ (steps : List Route.Step) {t t' : FileTree} {p : Place},
    t.makeFrom p steps = (.ok (), t') → ∃ q, t'.resolveFrom p steps = .ok q
  | [], _, _, p, _ => ⟨p, rfl⟩
  | .up :: steps, _, _, _, h => resolveFrom_of_makeFrom steps h
  | .enter name :: steps, t, t', p, h => by
    have hkeeps : ∀ {u : FileTree}, u.node? (p.enter name) = some .directory →
        u.makeFrom (p.enter name) steps = (.ok (), t') →
          t'.node? (p.enter name) = some .directory := by
      intro u hu hmake
      have := node?_makeFrom steps (p := p.enter name) hu
      rwa [hmake] at this
    rw [makeFrom] at h
    rw [resolveFrom]
    cases hcheck : checkName name with
    | error e =>
      rw [hcheck] at h
      cases h
    | ok =>
      rw [hcheck] at h
      cases hnode : t.node? (p.enter name) with
      | none =>
        rw [hnode] at h
        have hfixed : ¬IsFixed (p.enter name) := by
          intro hfixed
          rw [node?_of_isFixed hfixed] at hnode
          cases hnode
        obtain ⟨q, hq⟩ := resolveFrom_of_makeFrom steps h
        refine ⟨q, ?_⟩
        simp only [hkeeps (node?_put_self t _ hfixed) h]
        exact hq
      | some n =>
        rw [hnode] at h
        cases n with
        | file bytes => cases h
        | directory =>
          obtain ⟨q, hq⟩ := resolveFrom_of_makeFrom steps h
          refine ⟨q, ?_⟩
          simp only [hkeeps hnode h]
          exact hq

/-- The directories on a route exist once they were made. -/
theorem resolve_of_make {r : Route} (h : t.make r = (.ok (), t')) : ∃ p, t'.resolve r = .ok p := by
  rw [make] at h
  rw [resolve]
  cases hcheck : checkRoute r with
  | error e =>
    rw [hcheck] at h
    cases h
  | ok =>
    rw [hcheck] at h
    exact resolveFrom_of_makeFrom _ h

theorem makeFrom_eq_of_resolveFrom : ∀ (steps : List Route.Step) {p : Place},
    t.resolveFrom p steps = .ok q → t.makeFrom p steps = (.ok (), t)
  | [], _, _ => rfl
  | .up :: steps, _, h => makeFrom_eq_of_resolveFrom steps h
  | .enter name :: steps, p, h => by
    rw [resolveFrom] at h
    rw [makeFrom]
    cases hcheck : checkName name with
    | error e =>
      rw [hcheck] at h
      cases h
    | ok =>
      rw [hcheck] at h
      cases hnode : t.node? (p.enter name) with
      | none =>
        rw [hnode] at h
        cases h
      | some n =>
        rw [hnode] at h
        cases n with
        | file bytes => cases h
        | directory => exact makeFrom_eq_of_resolveFrom steps h

/-- No directory is made on a route whose directories exist. -/
theorem make_eq_of_resolve {r : Route} (h : t.resolve r = .ok p) : t.make r = (.ok (), t) := by
  rw [resolve] at h
  rw [make]
  cases hcheck : checkRoute r with
  | error e =>
    rw [hcheck] at h
    cases h
  | ok =>
    rw [hcheck] at h
    exact makeFrom_eq_of_resolveFrom _ h

/-! ### Files -/

theorem locate_eq_ok {r : Route} {name : String} :
    t.locate r name = .ok q ↔
      ∃ p, t.resolve r = .ok p ∧ checkName name = .ok () ∧ q = p.enter name := by
  rw [locate]
  cases hresolve : t.resolve r with
  | error e => exact ⟨nofun, nofun⟩
  | ok p =>
    cases hcheck : checkName name with
    | error e => exact ⟨nofun, fun ⟨_, _, h, _⟩ => nomatch h⟩
    | ok =>
      constructor
      · intro h
        exact ⟨p, rfl, rfl, (Except.ok.inj h).symm⟩
      · rintro ⟨p', hp', -, rfl⟩
        obtain rfl := Except.ok.inj hp'
        rfl

theorem read_eq_ok {r : Route} {name : String} {bytes : ByteArray} :
    t.read r name = .ok bytes ↔
      ∃ q, t.locate r name = .ok q ∧ t.node? q = some (.file bytes) := by
  rw [read]
  cases hlocate : t.locate r name with
  | error e => exact ⟨nofun, nofun⟩
  | ok q =>
    constructor
    · intro h
      refine ⟨q, rfl, ?_⟩
      cases hnode : t.node? q with
      | none =>
        simp only [hnode, bind, Except.bind] at h
        cases h
      | some n =>
        simp only [hnode, bind, Except.bind] at h
        cases n with
        | directory => cases h
        | file b =>
          obtain rfl := Except.ok.inj h
          rfl
    · rintro ⟨q', hq', hnode⟩
      obtain rfl := Except.ok.inj hq'
      simp only [hnode, bind, Except.bind]
      rfl

theorem names_eq_ok {r : Route} {names : List String} :
    t.names r = .ok names ↔ ∃ p, t.resolve r = .ok p ∧ names = t.namesAt p := by
  rw [FileTree.names]
  cases t.resolve r with
  | error e => exact ⟨nofun, nofun⟩
  | ok p =>
    constructor
    · intro h
      exact ⟨p, rfl, (Except.ok.inj h).symm⟩
    · rintro ⟨p', hp', rfl⟩
      obtain rfl := Except.ok.inj hp'
      rfl

/-- What a name in a directory stands for is there. -/
theorem read_ne_notFound {r : Route} {names : List String} {name : String}
    (hnames : t.names r = .ok names) (hname : name ∈ names) :
    t.read r name ≠ .error .notFound := by
  obtain ⟨p, hp, rfl⟩ := names_eq_ok.mp hnames
  obtain ⟨n, hn⟩ := node?_of_mem_namesAt hname
  intro h
  rw [read, locate, hp] at h
  rcases hcheck : checkName name with fault | ⟨⟩
  · rw [hcheck] at h
    obtain rfl : fault = .notFound := Except.error.inj h
    unfold checkName at hcheck
    split at hcheck
    · cases hcheck
    · split at hcheck <;> cases hcheck
  · rw [hcheck] at h
    simp only [bind, Except.bind, pure, Except.pure, hn] at h
    cases n with
    | directory => cases h
    | file bytes => cases h

theorem not_isFixed_of_ne {q : Place} (h : t.node? q ≠ some .directory) : ¬IsFixed q :=
  fun hfixed => h (node?_of_isFixed hfixed t)

theorem KeepsDirectories.locate (h : KeepsDirectories t t') {r : Route} {name : String}
    (hq : t.locate r name = .ok q) : t'.locate r name = .ok q := by
  obtain ⟨p, hp, hcheck, rfl⟩ := locate_eq_ok.mp hq
  exact locate_eq_ok.mpr ⟨p, h.resolve hp, hcheck, rfl⟩

/-- Two names in a directory stand for two places. -/
theorem ne_of_locate {r : Route} {a b : String} (hp : t.locate r a = .ok p)
    (hq : t.locate r b = .ok q) (hne : a ≠ b) : p ≠ q := by
  obtain ⟨d, hd, -, rfl⟩ := locate_eq_ok.mp hp
  obtain ⟨d', hd', -, rfl⟩ := locate_eq_ok.mp hq
  obtain rfl := Except.ok.inj (hd.symm.trans hd')
  exact fun h => hne (enter_inj.mp h)

theorem keepsDirectories_put {bytes : ByteArray} (hp : t.node? p ≠ some .directory) :
    KeepsDirectories t (t.put p (.file bytes)) := by
  intro q hq
  have hne : q ≠ p := by
    rintro rfl
    exact hp hq
  rw [node?_put_of_ne t _ hne, hq]

theorem keepsDirectories_erase (hp : t.node? p ≠ some .directory) :
    KeepsDirectories t (t.erase p) := by
  intro q hq
  have hne : q ≠ p := by
    rintro rfl
    exact hp hq
  rw [node?_erase_of_ne t hne, hq]

/-- Another file in an existing directory may get any bytes. -/
theorem read_put {r : Route} {name other : String} {bytes : ByteArray} (hp : t.resolve r = .ok p)
    (hq : t.locate r other = .ok q) (hnode : t.node? q ≠ some .directory) (hne : other ≠ name) :
    (t.put q (.file bytes)).read r name = t.read r name := by
  have hkeeps : KeepsDirectories t (t.put q (.file bytes)) := keepsDirectories_put hnode
  have hp' := hkeeps.resolve hp
  obtain ⟨p', hresolve, -, rfl⟩ := locate_eq_ok.mp hq
  obtain rfl := Except.ok.inj (hresolve.symm.trans hp)
  have hplace : p'.enter name ≠ p'.enter other := fun h => hne (enter_inj.mp h).symm
  rw [read, read, locate, locate, hp, hp']
  cases hcheck : checkName name with
  | error e => rfl
  | ok =>
    simp only [bind, Except.bind, pure, Except.pure, node?_put_of_ne t _ hplace]

/-! ### Operations -/

section Operations

variable {d : Route} {a b name : String} {change : ByteArray → ByteArray} {e : FileFault}

theorem edit_ok (h : t.edit d name change = (.ok (), t')) :
    ∃ q old, t.locate d name = .ok q ∧ t.node? q ≠ some .directory ∧
      (t.node? q = some (.file old) ∨ t.node? q = none ∧ old = ByteArray.empty) ∧
      t' = t.put q (.file (change old)) := by
  rw [edit] at h
  cases hlocate : t.locate d name with
  | error e =>
    rw [hlocate] at h
    cases h
  | ok q =>
    rw [hlocate] at h
    cases hnode : t.node? q with
    | none =>
      simp only [hnode] at h
      exact ⟨q, .empty, rfl, by simp [hnode], Or.inr ⟨hnode, rfl⟩, (Prod.mk.inj h).2.symm⟩
    | some n =>
      cases n with
      | directory =>
        simp only [hnode] at h
        cases h
      | file old =>
        simp only [hnode] at h
        exact ⟨q, old, rfl, by simp [hnode], Or.inl hnode, (Prod.mk.inj h).2.symm⟩

theorem edit_error (h : t.edit d name change = (.error e, t')) : t' = t := by
  rw [edit] at h
  cases hlocate : t.locate d name with
  | error e =>
    rw [hlocate] at h
    exact (Prod.mk.inj h).2.symm
  | ok q =>
    rw [hlocate] at h
    cases hnode : t.node? q with
    | none =>
      simp only [hnode] at h
      cases h
    | some n =>
      cases n with
      | directory =>
        simp only [hnode] at h
        exact (Prod.mk.inj h).2.symm
      | file old =>
        simp only [hnode] at h
        cases h

theorem move_ok (h : t.move d a b = (.ok (), t')) :
    ∃ p q bytes, t.locate d a = .ok p ∧ t.locate d b = .ok q ∧ t.node? p = some (.file bytes) ∧
      t.node? q ≠ some .directory ∧ t' = (t.erase p).put q (.file bytes) := by
  rw [move] at h
  cases hp : t.locate d a with
  | error e =>
    rw [hp] at h
    cases h
  | ok p =>
    cases hq : t.locate d b with
    | error e =>
      rw [hp, hq] at h
      cases h
    | ok q =>
      rw [hp, hq] at h
      cases hsource : t.node? p with
      | none =>
        simp only [hsource] at h
        cases h
      | some n =>
        cases n with
        | directory =>
          simp only [hsource] at h
          cases h
        | file bytes =>
          have hfile : ∀ n, t.node? q = some n → n ≠ .directory := by
            rintro n htarget rfl
            simp only [hsource, htarget] at h
            cases h
          refine ⟨p, q, bytes, rfl, rfl, hsource, fun htarget => hfile _ htarget rfl, ?_⟩
          cases htarget : t.node? q with
          | none =>
            simp only [hsource, htarget] at h
            exact (Prod.mk.inj h).2.symm
          | some n =>
            cases n with
            | directory => exact absurd rfl (hfile _ htarget)
            | file old =>
              simp only [hsource, htarget] at h
              exact (Prod.mk.inj h).2.symm

theorem move_error (h : t.move d a b = (.error e, t')) : t' = t := by
  unfold move at h
  split at h
  · split at h
    · exact (Prod.mk.inj h).2.symm
    · exact (Prod.mk.inj h).2.symm
    · exact (Prod.mk.inj h).2.symm
    · cases h
  · exact (Prod.mk.inj h).2.symm
  · exact (Prod.mk.inj h).2.symm

theorem delete_ok (h : t.delete d name = (.ok (), t')) :
    ∃ q bytes, t.locate d name = .ok q ∧ t.node? q = some (.file bytes) ∧ t' = t.erase q := by
  rw [delete] at h
  cases hlocate : t.locate d name with
  | error e =>
    rw [hlocate] at h
    cases h
  | ok q =>
    rw [hlocate] at h
    cases hnode : t.node? q with
    | none =>
      simp only [hnode] at h
      cases h
    | some n =>
      cases n with
      | directory =>
        simp only [hnode] at h
        cases h
      | file bytes =>
        simp only [hnode] at h
        exact ⟨q, bytes, rfl, hnode, (Prod.mk.inj h).2.symm⟩

theorem delete_error (h : t.delete d name = (.error e, t')) : t' = t := by
  unfold delete at h
  split at h
  · exact (Prod.mk.inj h).2.symm
  · split at h
    · exact (Prod.mk.inj h).2.symm
    · exact (Prod.mk.inj h).2.symm
    · cases h

end Operations

end FileTree

end CrowdTask
