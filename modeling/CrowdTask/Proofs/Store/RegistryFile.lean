import CrowdTask.Proofs.Files.Replacement
import CrowdTask.Proofs.Identifier
import CrowdTask.Proofs.Json.Nesting
import CrowdTask.Store.Memory
import CrowdTask.Store.RecordFile

/-!
# The registry is loaded as it was saved

The file of the registry has a member for each environment with a record, and a record has one for
its group only if the group is known. Nothing of a registry is lost between saving and loading it,
and loading changes no file.

## Main definitions

* `CrowdTask.RecordPlace`: the places in which the registry may be kept.
* `CrowdTask.RecordPlace.stored`: what is loaded from a place.
* `CrowdTask.RecordPlace.HasDirectory`: the places at which a save that fails leaves no trace.

## Main results

* `CrowdTask.RecordFile.parse_text`: a registry is read from its text.
* `CrowdTask.RecordFile.save_eq_ok`: when a registry is saved in a file.
* `CrowdTask.RecordPlace.stored_of_save`: what was saved is what is loaded.
* `CrowdTask.RecordPlace.stored_of_save_error`: a save that fails changes nothing of what is loaded.
-/

namespace CrowdTask

namespace Json

theorem keyed?_rawMembers (ms : List (String × Json)) :
    Fields.keyed? (rawMembers ms) = some (ms.map fun m => (m.1, raw m.2)) := by
  rw [Fields.keyed?]
  induction ms with
  | nil => rfl
  | cons m ms ih =>
    rw [rawMembers, List.mapM_cons, ih, pieceText?_pieces]
    rfl

theorem ofRaw?_raw_obj (names : List (List String)) (ms : List (String × Json)) :
    Fields.ofRaw? names (raw (.obj ms)) =
      (names.mapM (Fields.slot? (ms.map fun m => (m.1, raw m.2)))).map fun slots =>
        ⟨false, slots⟩ := by
  have hraw : raw (.obj ms) = .obj (rawMembers ms) := by rw [raw]
  rw [hraw, Fields.ofRaw?, keyed?_rawMembers]
  exact Option.map_eq_bind.symm

end Json

open Json

theorem Identifier.ofRaw?_raw {kind : IdKind} (id : Identifier kind) :
    Identifier.ofRaw? kind (raw (.str id.text)) = some id := by
  rw [raw, Identifier.ofRaw?, Raw.string?, pieceText?_pieces, Option.bind_some,
    Identifier.parse?_text]

namespace RecordFile

theorem fields_entryMembers (r : TaskRecord) :
    Fields.ofRaw? [["id"], ["type_id"], ["group_id"]] (raw (.obj (entryMembers r))) =
      some ⟨false, [some (raw (.str r.id.text)), some (raw (.str r.typeId.text)),
        r.groupId.map fun g => raw (.str g.text)]⟩ := by
  rw [ofRaw?_raw_obj]
  cases hgroup : r.groupId with
  | none => simp [entryMembers, hgroup, Fields.slot?, Fields.named]
  | some g => simp [entryMembers, hgroup, Fields.slot?, Fields.named]

theorem entry?_raw (r : TaskRecord) : entry? (raw (.obj (entryMembers r))) = some r := by
  obtain ⟨id, typeId, groupId⟩ := r
  have hid := id.ofRaw?_raw
  have htype := typeId.ofRaw?_raw
  unfold entry?
  rw [fields_entryMembers]
  cases groupId with
  | none => simp [Fields.required?, Fields.orAbsent?, Fields.raw?, hid, htype]
  | some g =>
    have hgroup : Fields.nullable? (Identifier.ofRaw? .taskGroup) (raw (.str g.text)) =
        some (some g) := by
      rw [← Option.map_some, ← g.ofRaw?_raw]
      rfl
    simp [Fields.required?, Fields.orAbsent?, Fields.raw?, hid, htype, hgroup]

theorem nullable?_entry?_raw (r : TaskRecord) :
    Fields.nullable? entry? (raw (.obj (entryMembers r))) = some (some r) := by
  rw [← Option.map_some, ← entry?_raw, raw, Fields.nullable?]
  exact nofun

/-- The environments with a record are the members of the file. -/
theorem fields_document (rs : Registry) :
    Fields.ofRaw? (Environment.all.map fun e => [e.name]) (raw (document rs)) =
      some ⟨false, [rs.sandbox.map fun r => raw (.obj (entryMembers r)),
        rs.production.map fun r => raw (.obj (entryMembers r))]⟩ := by
  obtain ⟨sandbox, production⟩ := rs
  rw [document, ofRaw?_raw_obj]
  cases sandbox with
  | none =>
    cases production with
    | none => rfl
    | some r => rfl
  | some r =>
    cases production with
    | none => rfl
    | some r' => rfl

theorem registry?_raw (rs : Registry) : registry? (raw (document rs)) = some rs := by
  obtain ⟨sandbox, production⟩ := rs
  unfold registry?
  rw [fields_document]
  cases sandbox with
  | none =>
    cases production with
    | none => rfl
    | some r => simp [Fields.orAbsent?, Fields.raw?, nullable?_entry?_raw]
  | some r =>
    cases production with
    | none => simp [Fields.orAbsent?, Fields.raw?, nullable?_entry?_raw]
    | some r' => simp [Fields.orAbsent?, Fields.raw?, nullable?_entry?_raw]

/-- A registry is read from its text. -/
theorem parse_text (path : String) (rs : Registry) : parse path (text rs) = .ok rs := by
  rw [parse, text, rawRead?_indented, Option.bind_some, registry?_raw]

/-! ### Saving and loading -/

open FileTree

variable {path : String} {t t' : FileTree}

theorem run_load (path : String) (t : FileTree) :
    load system path t =
      (match Route.splitPath? path with
        | none => .error (.io (.noFileName path))
        | some (d, name) =>
          match t.read d name with
          | .ok bytes =>
            match String.fromUTF8? bytes with
            | some text => parse path text
            | none => .error (.io .notText)
          | .error .notFound => .ok .empty
          | .error fault => .error (.io fault), t) := by
  simp only [load, FileSystem.readText, FileSystem.readPath, bind, StateT.bind]
  rcases Route.splitPath? path with _ | ⟨d, name⟩
  · rfl
  · have hread : system.read d name t = (t.read d name, t) := rfl
    simp only [hread]
    rcases t.read d name with fault | bytes
    · cases fault <;> rfl
    · cases htext : String.fromUTF8? bytes with
      | none =>
        simp only [htext]
        rfl
      | some text =>
        simp only [htext]
        rfl

/-- Loading changes no file. -/
theorem load_snd (path : String) (t : FileTree) : (load system path t).2 = t := by
  rw [run_load]

/-- Whether the directory of the file that a path names exists. -/
def HasDirectory (path : String) (t : FileTree) : Prop :=
  ∀ d name, Route.splitPath? path = some (d, name) → ∃ q, t.resolve d = .ok q

theorem run_save {σ : Type} {fs : FileSystem (StateM σ)} {d : Route} {name : String}
    (hsplit : Route.splitPath? path = some (d, name)) (rs : Registry) (s : σ) :
    save fs path rs s =
      let r := fs.performAll (FileOp.replace d name (text rs).toUTF8) s
      (r.1.mapError .io, r.2) := by
  simp only [save, saveOps, hsplit]
  rfl

/-- A save succeeds where the path names a file and this is replaced. -/
theorem save_eq_ok {σ : Type} {fs : FileSystem (StateM σ)} {rs : Registry} {s s' : σ} :
    save fs path rs s = (.ok (), s') ↔ ∃ d name, Route.splitPath? path = some (d, name) ∧
      fs.performAll (FileOp.replace d name (text rs).toUTF8) s = (.ok (), s') := by
  rcases hsplit : Route.splitPath? path with _ | ⟨d, name⟩
  · simp only [save, saveOps, hsplit]
    exact iff_of_false nofun nofun
  · rw [run_save hsplit]
    constructor
    · intro h
      rcases hops : fs.performAll (FileOp.replace d name (text rs).toUTF8) s with
        ⟨fault | ⟨⟩, u⟩
      · rw [hops] at h
        cases h
      · rw [hops] at h
        exact ⟨d, name, rfl, hops.trans (congrArg _ (Prod.mk.inj h).2)⟩
    · rintro ⟨d', name', hsame, hops⟩
      obtain ⟨rfl, rfl⟩ := Prod.mk.inj (Option.some.inj hsame)
      rw [hops]
      rfl

/-- A save in a file fails where this is not replaced. -/
theorem performAll_of_save_error {σ : Type} {fs : FileSystem (StateM σ)} {d : Route}
    {name : String} {rs : Registry} {s s' : σ} {e : RecordError}
    (hsplit : Route.splitPath? path = some (d, name)) (h : save fs path rs s = (.error e, s')) :
    ∃ fault, fs.performAll (FileOp.replace d name (text rs).toUTF8) s = (.error fault, s') := by
  rw [run_save hsplit] at h
  rcases hops : fs.performAll (FileOp.replace d name (text rs).toUTF8) s with ⟨fault | ⟨⟩, u⟩
  · rw [hops] at h
    exact ⟨fault, congrArg _ (Prod.mk.inj h).2⟩
  · rw [hops] at h
    cases h

/-- What was saved is what is loaded. -/
theorem load_of_save {rs : Registry} (h : save system path rs t = (.ok (), t')) :
    (load system path t').1 = .ok rs := by
  obtain ⟨d, name, hsplit, hops⟩ := save_eq_ok.mp h
  rw [run_load, hsplit]
  simp only [read_of_replace hops, fromUTF8?_toUTF8, parse_text]

theorem keepsDirectories_save (path : String) (rs : Registry) (t : FileTree) :
    KeepsDirectories t (save system path rs t).2 := by
  rcases hsplit : Route.splitPath? path with _ | ⟨d, name⟩
  · simp only [save, saveOps, hsplit]
    exact .refl t
  · rw [run_save hsplit]
    exact keepsDirectories_performAll _ t

/-- A save that fails changes nothing of what is loaded, if the directory of the file exists. -/
theorem load_of_save_error {rs : Registry} {e : RecordError} (hdirectory : HasDirectory path t)
    (h : save system path rs t = (.error e, t')) :
    (load system path t').1 = (load system path t).1 := by
  rcases hsplit : Route.splitPath? path with _ | ⟨d, name⟩
  · rw [run_load, run_load, hsplit]
  · obtain ⟨q, hq⟩ := hdirectory d name hsplit
    obtain ⟨fault, hops⟩ := performAll_of_save_error hsplit h
    rw [run_load, run_load, hsplit]
    simp only [read_of_replace_error hq hops]

end RecordFile

/-! ### Places -/

/-- A place in which the registry may be kept: memory, or the file that a path names. -/
inductive RecordPlace where
  | memory
  | file (path : String)

namespace RecordPlace

/-- What a place keeps. -/
def State : RecordPlace → Type
  | .memory => MemoryRecords
  | .file _ => FileTree

/-- The store of the registry in a place. -/
def store : (p : RecordPlace) → RecordStore (StateM p.State)
  | .memory => MemoryRecords.store id
  | .file path => RecordFile.store FileTree.system path

/-- What is loaded from a place. -/
def stored (p : RecordPlace) (s : p.State) : Except RecordError Registry := (p.store.load.run s).1

variable {p : RecordPlace} {s s' : p.State}

/-- Loading changes nothing. -/
theorem load_snd (p : RecordPlace) (s : p.State) : (p.store.load.run s).2 = s := by
  cases p with
  | memory => rfl
  | file path => exact RecordFile.load_snd path s

/-- What was saved is what is loaded. -/
theorem stored_of_save {rs : Registry} (h : (p.store.save rs).run s = (.ok (), s')) :
    p.stored s' = .ok rs := by
  cases p with
  | memory =>
    obtain rfl : (⟨rs, s.saves + 1⟩ : MemoryRecords) = s' := (Prod.mk.inj h).2
    rfl
  | file path => exact RecordFile.load_of_save h

/-- Whether a place is memory, or the directory of the file exists. -/
def HasDirectory : (p : RecordPlace) → p.State → Prop
  | .memory, _ => True
  | .file path, t => RecordFile.HasDirectory path t

/-- A save that fails changes nothing of what is loaded. -/
theorem stored_of_save_error {rs : Registry} {e : RecordError} (hs : p.HasDirectory s)
    (h : (p.store.save rs).run s = (.error e, s')) : p.stored s' = p.stored s := by
  cases p with
  | memory => cases (Prod.mk.inj h).1
  | file path => exact RecordFile.load_of_save_error hs h

theorem hasDirectory_save (hs : p.HasDirectory s) (rs : Registry) :
    p.HasDirectory ((p.store.save rs).run s).2 := by
  cases p with
  | memory => trivial
  | file path =>
    intro d name hsplit
    obtain ⟨q, hq⟩ := hs d name hsplit
    exact ⟨q, (RecordFile.keepsDirectories_save path rs s).resolve hq⟩

end RecordPlace

end CrowdTask
