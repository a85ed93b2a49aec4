import CrowdTask.Proofs.Files.Outage
import CrowdTask.Proofs.Store.RegistryFile
import CrowdTask.Proofs.Store.ResultFiles

/-!
# Stores after an outage

The registry and the results are written to drafts, which take the place of the files in the last
operation. If an outage comes before it, the registry is loaded as it was before, the same results
are listed, and no file with the name of a result is changed. A result is then stored as if there
was no draft left of it.

A missing directory is made first. If its route leads back to another directory, what is in that one
is found from then on. It is therefore asked that nothing is found there.

## Main definitions

* `CrowdTask.RecordFile.MakesRoom`, `CrowdTask.ResultDirectory.MakesRoom`: a missing directory can
  be made, and there is nothing to be found in it.
* `CrowdTask.RecordFile.Withstands`, `CrowdTask.ResultDirectory.Withstands`: what is asked of a save
  and of a result that is stored when there is an outage.

## Main results

* `CrowdTask.ResultDirectory.put_delete_draft`: what is left of a draft does not matter.
* `CrowdTask.Outage.stores_withstand`: the registry and the results withstand every outage.
* `CrowdTask.Outage.loaded_on_way_back`: a registry that comes to light.
-/

namespace CrowdTask

open FileTree

theorem FileTree.read_of_resolve {t : FileTree} {d : Route} {e : FileFault}
    (h : t.resolve d = .error e) (name : String) : t.read d name = .error e := by
  rw [read, locate, h]
  rfl

/-! ### The registry -/

namespace RecordFile

variable {path : String} {t t' : FileTree} {d : Route} {name : String} {o o' : Outage}
  {rs : Registry}

/-- Whether the directory of the file that a path names, if it is missing, can be made, and the file
is missing from it. -/
def MakesRoom (path : String) (t : FileTree) : Prop :=
  ∀ d name, Route.splitPath? path = some (d, name) →
    t.Makes d fun u => u.read d name = .error .notFound

/-- Whether the file that a path names can be replaced. -/
def CanSave (path : String) (t : FileTree) : Prop :=
  ∃ d name, Route.splitPath? path = some (d, name) ∧ t.CanReplace d name

/-- What a save does when there is an outage. -/
structure Withstands (path : String) (rs : Registry) (o : Outage) : Prop where
  /-- A save consists of three operations, and does not succeed if one of them is interrupted. -/
  interrupted : o.left < 3 → (save Outage.system path rs o).1 ≠ .ok ()
  /-- As long as a save has not succeeded, what is loaded is what was loaded before. -/
  before : (save Outage.system path rs o).1 ≠ .ok () →
    (load FileTree.system path (save Outage.system path rs o).2.tree).1 =
      (load FileTree.system path o.tree).1
  /-- As soon as it has, what is loaded is what was saved. -/
  after : (save Outage.system path rs o).1 = .ok () →
    (load FileTree.system path (save Outage.system path rs o).2.tree).1 = .ok rs
  /-- A save that is not interrupted succeeds, whatever the file holds. -/
  completed : 3 ≤ o.left → CanSave path o.tree → (save Outage.system path rs o).1 = .ok ()

theorem load_congr
    (h : ∀ d name, Route.splitPath? path = some (d, name) → t'.read d name = t.read d name) :
    (load FileTree.system path t').1 = (load FileTree.system path t).1 := by
  rw [run_load, run_load]
  rcases hsplit : Route.splitPath? path with _ | ⟨d, name⟩
  · rfl
  · simp only [h d name hsplit]

/-- The file is read as before as long as at most its draft and its directory are new. -/
theorem read_of_differsAt {k : Nat} (hroom : t.Makes d fun u => u.read d name = .error .notFound)
    (h : (t.makeSteps k d).DiffersAt d (FileOp.draftName name) t') :
    t'.read d name = t.read d name := by
  rw [h.read_of_ne (FileOp.draftName_ne name).symm]
  rcases hroom.makeSteps k with hsame | ⟨hmissing, hstill | hread⟩
  · rw [hsame]
  · rw [read_of_resolve hstill, read_of_resolve hmissing]
  · rw [hread, read_of_resolve hmissing]

theorem save_ok (h : save Outage.system path rs o = (.ok (), o')) :
    3 ≤ o.left ∧ save FileTree.system path rs o.tree = (.ok (), o'.tree) := by
  obtain ⟨d, name, hsplit, hops⟩ := save_eq_ok.mp h
  obtain ⟨hleft, htree⟩ := Outage.performAll_ok hops
  exact ⟨hleft, save_eq_ok.mpr ⟨d, name, hsplit, htree⟩⟩

theorem load_of_save_outage {e : RecordError} (hroom : MakesRoom path o.tree)
    (h : save Outage.system path rs o = (.error e, o')) :
    (load FileTree.system path o'.tree).1 = (load FileTree.system path o.tree).1 := by
  refine load_congr fun d name hsplit => ?_
  obtain ⟨fault, hops⟩ := performAll_of_save_error hsplit h
  obtain ⟨k, hk⟩ := Outage.performAll_replace_error hops
  exact read_of_differsAt (hroom d name hsplit) hk

theorem save_of_canSave (hleft : 3 ≤ o.left) (h : CanSave path o.tree) :
    (save Outage.system path rs o).1 = .ok () := by
  obtain ⟨d, name, hsplit, hreplace⟩ := h
  have hlength : (FileOp.replace d name (text rs).toUTF8).length ≤ o.left := hleft
  have hops := Outage.performAll_of_le hlength
  rw [hreplace.performAll_replace] at hops
  rw [run_save hsplit]
  simp only [hops]
  rfl

theorem withstands (rs : Registry) (hroom : MakesRoom path o.tree) : Withstands path rs o := by
  rcases hsave : save Outage.system path rs o with ⟨e | ⟨⟩, o'⟩
  · have herror : (save Outage.system path rs o).1 ≠ .ok () := by
      rw [hsave]
      exact nofun
    refine ⟨fun _ => herror, fun _ => ?_, fun hok => absurd hok herror, save_of_canSave⟩
    rw [hsave]
    exact load_of_save_outage hroom hsave
  · obtain ⟨hleft, htree⟩ := save_ok hsave
    refine ⟨fun hlt => absurd hleft (by omega), fun hne => ?_, fun _ => ?_, save_of_canSave⟩
    · rw [hsave] at hne
      exact absurd rfl hne
    · rw [hsave]
      exact load_of_save htree

end RecordFile

/-! ### Results -/

namespace ResultDirectory

variable {t t' : FileTree} {d : Route} {name : String} {o o' : Outage} {r : WorkResult}

/-- Whether a name ends as those of results do. -/
def IsResultName (name : String) : Prop := ending.toList <:+ name.toList

/-- Whether a directory, if it is missing, can be made, and no results are listed in it. -/
def MakesRoom (d : Route) (t : FileTree) : Prop :=
  t.Makes d fun u => (ids FileTree.system d u).1 = .ok []

/-- The name of the draft of a result. -/
def draftOf (r : WorkResult) : String := FileOp.draftName (fileName r.id)

/-- What remains of the directory when a result was not stored: it is as before but for the draft,
and the result is stored as if there was no draft. -/
structure Spares (d : Route) (r : WorkResult) (t t' : FileTree) : Prop where
  /-- The same results are listed. -/
  ids_eq : (ids FileTree.system d t').1 = (ids FileTree.system d t).1
  /-- Every file with the name of a result has the bytes that it had. -/
  file_iff : ∀ (p : Place) (name : String) (bytes : ByteArray), IsResultName name →
    (t'.node? (p.enter name) = some (.file bytes) ↔ t.node? (p.enter name) = some (.file bytes))
  /-- The answer to another attempt does not depend on the draft. -/
  again_answer : (put FileTree.system d r t').1 =
    (put FileTree.system d r (t'.delete d (draftOf r)).2).1
  /-- What another attempt leaves does not depend on the draft, unless it changes nothing. -/
  again_tree : (put FileTree.system d r t').2 =
      (put FileTree.system d r (t'.delete d (draftOf r)).2).2 ∨
    (put FileTree.system d r t').2 = t' ∧
      (put FileTree.system d r (t'.delete d (draftOf r)).2).2 = (t'.delete d (draftOf r)).2

/-- What storing a result does when there is an outage. -/
structure Withstands (d : Route) (r : WorkResult) (o : Outage) : Prop where
  /-- A result is stored by four operations, and not if one of them is interrupted. -/
  interrupted : o.left < 4 → (put Outage.system d r o).1 ≠ .ok ()
  /-- As long as a result is not stored, nothing is changed but the draft. -/
  before : (put Outage.system d r o).1 ≠ .ok () →
    Spares d r o.tree (put Outage.system d r o).2.tree

/-- The name of a draft ends in another letter. -/
theorem not_isResultName_draftName (name : String) : ¬IsResultName (FileOp.draftName name) := by
  rintro ⟨stem, h⟩
  have hlast := congrArg List.getLast? h
  rw [FileOp.draftName, String.toList_append, List.getLast?_append, List.getLast?_append] at hlast
  simp [ending] at hlast

theorem idOfName?_of_not_isResultName (h : ¬IsResultName name) : idOfName? name = none := by
  have hending : withoutEnding? ending.toList name.toList = none := by
    rw [withoutEnding?, if_neg (by rwa [List.isSuffixOf_iff_suffix])]
  rw [idOfName?, hending]
  rfl

theorem completeIds_filter (acc : List AssignmentId) (names : List String) :
    completeIds FileTree.system d acc (names.filter fun n => (idOfName? n).isSome) t =
      completeIds FileTree.system d acc names t := by
  induction names generalizing acc with
  | nil => rfl
  | cons name names ih =>
    cases hid : idOfName? name with
    | none =>
      rw [List.filter_cons_of_neg (by simp [hid]), run_completeIds_cons, hid]
      exact ih acc
    | some id =>
      rw [List.filter_cons_of_pos (by simp [hid]), run_completeIds_cons, run_completeIds_cons, hid]
      simp only [ih]

theorem completeIds_congr (h : ∀ name, (idOfName? name).isSome → t'.read d name = t.read d name)
    (acc : List AssignmentId) (names : List String) :
    (completeIds FileTree.system d acc names t').1 =
      (completeIds FileTree.system d acc names t).1 := by
  induction names generalizing acc with
  | nil => rfl
  | cons name names ih =>
    rw [run_completeIds_cons, run_completeIds_cons]
    cases hid : idOfName? name with
    | none => exact ih acc
    | some id =>
      simp only [h name (by rw [hid]; rfl)]
      rcases t.read d name with fault | bytes
      · cases fault with
        | notFound => exact ih acc
        | _ => rfl
      · exact ih _

/-- A draft is not listed. -/
theorem ids_of_differsAt (h : t.DiffersAt d name t') (hname : ¬IsResultName name) :
    (ids FileTree.system d t').1 = (ids FileTree.system d t).1 := by
  have hid := idOfName?_of_not_isResultName hname
  have hread : ∀ other, (idOfName? other).isSome → t'.read d other = t.read d other := by
    intro other hother
    refine h.read_of_ne ?_
    rintro rfl
    rw [hid] at hother
    cases hother
  rw [run_ids, run_ids, FileTree.names, FileTree.names, h.resolve]
  rcases t.resolve d with fault | p
  · cases fault <;> rfl
  · simp only [bind, Except.bind, pure, Except.pure]
    rw [← completeIds_filter, ← completeIds_filter [] (t.namesAt p),
      h.filter_namesAt (by rw [hid]; rfl), completeIds_congr hread]

theorem ids_of_resolve (h : t.resolve d = .error .notFound) :
    (ids FileTree.system d t).1 = .ok [] := by
  rw [run_ids, FileTree.names, h]
  rfl

/-- The same results are listed while a missing directory is made. -/
theorem ids_makeSteps (h : MakesRoom d t) (k : Nat) :
    (ids FileTree.system d (t.makeSteps k d)).1 = (ids FileTree.system d t).1 := by
  rcases h.makeSteps k with hsame | ⟨hmissing, hstill | hnone⟩
  · rw [hsame]
  · rw [ids_of_resolve hstill, ids_of_resolve hmissing]
  · rw [hnone, ids_of_resolve hmissing]

/-- Storing a result begins with its draft, whatever is there. -/
theorem performAll_replace_erase {q : Place} {old bytes : ByteArray}
    (hq : t.locate d (FileOp.draftName name) = .ok q) (hnode : t.node? q = some (.file old)) :
    FileTree.system.performAll (FileOp.replace d name bytes) (t.erase q) =
      FileTree.system.performAll (FileOp.replace d name bytes) t := by
  have hdir : t.node? q ≠ some .directory := by
    rw [hnode]
    exact nofun
  have hdiffers : t.DiffersAt d (FileOp.draftName name) (t.erase q) := .erase hq hdir
  obtain ⟨p, hp, -⟩ := locate_eq_ok.mp hq
  have hmake : t.perform (.makeDirectories d) = (.ok (), t) := make_eq_of_resolve hp
  have hmake' : (t.erase q).perform (.makeDirectories d) = (.ok (), t.erase q) :=
    make_eq_of_resolve (hdiffers.resolve.trans hp)
  have hwrite : t.perform (.write d (FileOp.draftName name) bytes) =
      (.ok (), t.put q (.file bytes)) := by
    rw [perform, edit, hq]
    simp only [hnode]
  have hwrite' : (t.erase q).perform (.write d (FileOp.draftName name) bytes) =
      (.ok (), t.put q (.file bytes)) := by
    rw [perform, edit, hdiffers.locate, hq]
    simp only [node?_erase_self (not_isFixed_of_ne hdir), put_erase]
  rw [FileOp.replace, performAll_cons, performAll_cons, hmake, hmake']
  simp only [performAll_cons, hwrite, hwrite']

/-- A result is stored as if there was no draft of it. -/
theorem put_delete_draft (d : Route) (r : WorkResult) (t : FileTree) :
    let cleared := (t.delete d (draftOf r)).2
    (put FileTree.system d r t).1 = (put FileTree.system d r cleared).1 ∧
      ((put FileTree.system d r t).2 = (put FileTree.system d r cleared).2 ∨
        (put FileTree.system d r t).2 = t ∧ (put FileTree.system d r cleared).2 = cleared) := by
  rcases hdelete : t.delete d (draftOf r) with ⟨_ | ⟨⟩, u⟩
  · rw [delete_error hdelete]
    exact ⟨rfl, .inl rfl⟩
  · obtain ⟨q, old, hq, hnode, rfl⟩ := delete_ok hdelete
    have hdiffers : t.DiffersAt d (draftOf r) (t.erase q) :=
      .erase hq (by rw [hnode]; exact nofun)
    obtain ⟨p, hp, -⟩ := locate_eq_ok.mp hq
    have hreplace : ∀ bytes, replace FileTree.system d (fileName r.id) bytes (t.erase q) =
        replace FileTree.system d (fileName r.id) bytes t := by
      intro bytes
      rw [run_replace, run_replace, performAll_replace_erase hq hnode]
    simp only
    rw [run_put, run_put, make_eq_of_resolve hp, make_eq_of_resolve (hdiffers.resolve.trans hp)]
    simp only [hdiffers.read_of_ne (draftName_ne_fileName _ r.id).symm, hreplace]
    -- either nothing more is done, or the draft is written first
    rcases t.read d (fileName r.id) with fault | bytes
    · cases fault <;> simp
    · by_cases hwhole : isWhole bytes = true
      · simp [hwhole]
      · simp [hwhole]

/-! ### Results when there is an outage -/

theorem replace_ok {bytes : ByteArray} (h : replace Outage.system d name bytes o = (.ok (), o')) :
    3 ≤ o.left :=
  (Outage.performAll_ok (performAll_of_replace_ok h)).1

theorem put_ok (h : put Outage.system d r o = (.ok (), o')) : 4 ≤ o.left := by
  obtain ⟨u, hmake, hreplace⟩ := replace_of_put_ok Outage.tree (fun _ _ _ => rfl) h
  obtain ⟨hleft, -⟩ := Outage.perform_ok hmake
  have := replace_ok hreplace
  omega

theorem replace_error {bytes : ByteArray} {e : ResultError} {p : Place}
    (hp : o.tree.resolve d = .ok p)
    (h : replace Outage.system d name bytes o = (.error e, o')) :
    o.tree.DiffersAt d (FileOp.draftName name) o'.tree := by
  rw [run_replace] at h
  rcases hops : Outage.system.performAll (FileOp.replace d name bytes) o with ⟨fault | ⟨⟩, u⟩
  · rw [hops] at h
    obtain rfl := (Prod.mk.inj h).2
    obtain ⟨k, hk⟩ := Outage.performAll_replace_error hops
    rw [makeSteps_of_ne_notFound (by rw [hp]; exact nofun)] at hk
    exact hk.trans (Outage.tree_remove u d _)
  · rw [hops] at h
    cases h

/-- When a result was not stored, some of the missing directories may be made, and the draft may be
another one. -/
theorem put_error {e : ResultError} (h : put Outage.system d r o = (.error e, o')) :
    ∃ k, (o.tree.makeSteps k d).DiffersAt d (draftOf r) o'.tree := by
  obtain ⟨k, hk⟩ := Outage.tree_makeDirectories o d
  refine ⟨k, ?_⟩
  rw [← hk]
  rcases hmake : o.perform (.makeDirectories d) with ⟨fault | ⟨⟩, u⟩
  · rw [run_put_on Outage.system Outage.tree (fun _ _ _ => rfl) r hmake] at h
    obtain rfl : u = o' := (Prod.mk.inj h).2
    exact .refl
  · obtain ⟨p, hp⟩ := resolve_of_make (Outage.perform_ok hmake).2
    rw [run_put_on Outage.system Outage.tree (fun _ _ _ => rfl) r hmake] at h
    simp only at h
    split at h
    · split at h
      · obtain rfl : u = o' := (Prod.mk.inj h).2
        exact .refl
      · exact replace_error hp h
    · exact replace_error hp h
    · obtain rfl : u = o' := (Prod.mk.inj h).2
      exact .refl

theorem spares_of_differsAt {k : Nat} (hroom : MakesRoom d t)
    (h : (t.makeSteps k d).DiffersAt d (draftOf r) t') : Spares d r t t' := by
  have hdraft := not_isResultName_draftName (fileName r.id)
  obtain ⟨hanswer, htree⟩ := put_delete_draft d r t'
  refine ⟨?_, fun p name bytes hname => ?_, hanswer, htree⟩
  · rw [ids_of_differsAt h hdraft, ids_makeSteps hroom k]
  · have hne : name ≠ draftOf r := by
      rintro rfl
      exact hdraft hname
    rw [h.node?_of_ne hne, node?_makeSteps_file]

theorem withstands (r : WorkResult) (hroom : MakesRoom d o.tree) : Withstands d r o := by
  rcases hput : put Outage.system d r o with ⟨e | ⟨⟩, o'⟩
  · obtain ⟨k, hk⟩ := put_error hput
    refine ⟨fun _ => ?_, fun _ => ?_⟩
    · rw [hput]
      exact nofun
    · rw [hput]
      exact spares_of_differsAt hroom hk
  · refine ⟨fun hlt => absurd (put_ok hput) (by omega), fun hne => ?_⟩
    rw [hput] at hne
    exact absurd rfl hne

end ResultDirectory

/-! ### Both -/

namespace Outage

/-- When there is an outage, the registry and the results are as before until the last operation
that replaces a file, and what remains does not get in the way. -/
theorem stores_withstand (o : Outage) {path : String} (rs : Registry)
    (hpath : RecordFile.MakesRoom path o.tree) {d : Route} (r : WorkResult)
    (hd : ResultDirectory.MakesRoom d o.tree) :
    RecordFile.Withstands path rs o ∧ ResultDirectory.Withstands d r o :=
  ⟨RecordFile.withstands rs hpath, ResultDirectory.withstands r hd⟩

/-- A registry with a task in the sandbox. -/
def sampleRegistry : Registry := ⟨some ⟨⟨"S", rfl⟩, ⟨"K", rfl⟩, none⟩, none⟩

/-- A tree with a file that is no text, and a draft of it. -/
def unreadable : FileTree :=
  ⟨[(workingDirectory.enter "state.json", .file ⟨#[255]⟩),
    (workingDirectory.enter ".state.json.tmp", .file ⟨#[123]⟩)]⟩

/-- While a draft is written, the file stays unreadable. -/
theorem stores_withstand_unreadable :
    RecordFile.MakesRoom "state.json" unreadable ∧
      ResultDirectory.MakesRoom ⟨"results"⟩ unreadable ∧
      (RecordFile.load FileTree.system "state.json" (RecordFile.save Outage.system "state.json"
        sampleRegistry ⟨unreadable, 1, some ⟨0, ⟨#[34]⟩⟩⟩).2.tree).1 = .error (.io .notText) := by
  have hroute : Route.splitPath? "state.json" = some (⟨"."⟩, "state.json") := by decide +kernel
  have hpath : RecordFile.MakesRoom "state.json" unreadable := by
    intro d name hsplit hmissing
    obtain ⟨rfl, rfl⟩ := Prod.mk.inj (Option.some.inj (hroute.symm.trans hsplit))
    exact absurd hmissing (by decide +kernel)
  have hd : ResultDirectory.MakesRoom ⟨"results"⟩ unreadable := fun _ =>
    ⟨by decide +kernel, by decide +kernel⟩
  obtain ⟨hsave, -⟩ := stores_withstand ⟨unreadable, 1, some ⟨0, ⟨#[34]⟩⟩⟩ sampleRegistry hpath
    ⟨⟨"A", rfl⟩, [], []⟩ hd
  refine ⟨hpath, hd, (hsave.before (hsave.interrupted (by decide))).trans ?_⟩
  decide +kernel

/-- A tree with a registry in a file of the working directory. -/
def hidden : FileTree :=
  ⟨[(workingDirectory.enter "hit-ids.json", .file (RecordFile.text sampleRegistry).toUTF8)]⟩

/-- A path leads back to the working directory through a missing directory. As soon as this is made,
the registry in the working directory is found, whatever is to be saved. -/
theorem loaded_on_way_back :
    (RecordFile.load FileTree.system "a/../hit-ids.json" hidden).1 = .ok .empty ∧
      (RecordFile.load FileTree.system "a/../hit-ids.json" (RecordFile.save Outage.system
        "a/../hit-ids.json" .empty ⟨hidden, 1, none⟩).2.tree).1 = .ok sampleRegistry ∧
      (hidden.make ⟨"a/.."⟩).2.names ⟨"a/.."⟩ = .ok ["a", "hit-ids.json"] := by
  have hroute : Route.splitPath? "a/../hit-ids.json" = some (⟨"a/.."⟩, "hit-ids.json") := by
    decide +kernel
  have hmissing : hidden.read ⟨"a/.."⟩ "hit-ids.json" = .error .notFound := by decide +kernel
  have hfound : (RecordFile.save Outage.system "a/../hit-ids.json" .empty
      ⟨hidden, 1, none⟩).2.tree.read ⟨"a/.."⟩ "hit-ids.json" =
        .ok (RecordFile.text sampleRegistry).toUTF8 := by
    decide +kernel
  refine ⟨?_, ?_, by decide +kernel⟩
  · rw [RecordFile.run_load, hroute]
    simp only [hmissing]
  · rw [RecordFile.run_load, hroute]
    simp only [hfound, Json.fromUTF8?_toUTF8, RecordFile.parse_text]

end Outage

end CrowdTask
