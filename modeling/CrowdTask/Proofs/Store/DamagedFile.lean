import CrowdTask.Proofs.Store.RegistryFile

/-!
# Files without a registry

A file may hold bytes that are not a text, a text that is not JSON or does not have the shape of a
registry, and entries whose texts are not identifiers. These are all the ways in which the registry
cannot be loaded from the bytes of a file, and for each of them loading says so.

## Main definitions

* `CrowdTask.RecordFile.EntryTexts`: the texts in an entry of the registry.
* `CrowdTask.RecordFile.HasShape`: the texts with the shape of a registry, with their entries.
* `CrowdTask.RecordFile.IsDamaged`: the bytes without a registry.

## Main results

* `CrowdTask.RecordFile.exists_registry_iff`: a registry is a shape whose entries are valid.
* `CrowdTask.RecordFile.load_error_iff`: the registry cannot be loaded if and only if the bytes of
  the file are damaged.
-/

namespace CrowdTask

namespace Json

/-- Whether `decode` understands the texts that `outline` understands, and whose outlines are
valid. -/
def Refines {α β : Type} (outline : Raw → Option β) (IsValid : β → Prop)
    (decode : Raw → Option α) : Prop :=
  ∀ r, (decode r).isSome ↔ ∃ x ∈ outline r, IsValid x

namespace Refines

variable {α β : Type} {outline : Raw → Option β} {IsValid : β → Prop} {decode : Raw → Option α}

theorem required? (h : Refines outline IsValid decode) (fs : Fields) (i : Nat) :
    (fs.required? i decode).isSome ↔ ∃ x ∈ fs.required? i outline, IsValid x := by
  rw [Fields.required?, Fields.required?]
  cases fs.raw? i with
  | none => simp
  | some r => exact h r

theorem nullable? (h : Refines outline IsValid decode) (r : Raw) :
    (Fields.nullable? decode r).isSome ↔
      ∃ o ∈ Fields.nullable? outline r, ∀ x ∈ o, IsValid x := by
  by_cases hr : r = .null
  · subst hr
    simp [Fields.nullable?]
  · have hdecode : Fields.nullable? decode r = (decode r).map some := by
      cases r <;> first | rfl | exact absurd rfl hr
    have houtline : Fields.nullable? outline r = (outline r).map some := by
      cases r <;> first | rfl | exact absurd rfl hr
    rw [hdecode, houtline, Option.isSome_map, h r]
    simp

theorem orAbsent? (h : Refines outline IsValid decode) (fs : Fields) (i : Nat) :
    (fs.orAbsent? i decode).isSome ↔
      ∃ o ∈ fs.orAbsent? i outline, ∀ x ∈ o, IsValid x := by
  rw [Fields.orAbsent?, Fields.orAbsent?]
  cases fs.raw? i with
  | none => simp
  | some r => exact h.nullable? r

end Refines

end Json

open Json

namespace RecordFile

/-- The texts in an entry of the registry. -/
structure EntryTexts where
  id : String
  typeId : String
  groupId : Option String

/-- The texts in an entry, whether they are identifiers or not. -/
def entryTexts? (r : Raw) : Option EntryTexts := do
  let fs ← Fields.ofRaw? [["id"], ["type_id"], ["group_id"]] r
  return {
    id := ← fs.required? 0 Raw.string?
    typeId := ← fs.required? 1 Raw.string?
    groupId := ← fs.orAbsent? 2 Raw.string? }

/-- Whether the texts in an entry are identifiers. -/
structure EntryTexts.IsValid (x : EntryTexts) : Prop where
  id : (Identifier.parse? .task x.id).isSome
  typeId : (Identifier.parse? .taskType x.typeId).isSome
  groupId : ∀ g ∈ x.groupId, (Identifier.parse? .taskGroup g).isSome

/-- Whether a text has the shape of a registry with the given entries. -/
def HasShape (r : Raw) (sandbox production : Option EntryTexts) : Prop :=
  ∃ fs, Fields.ofRaw? (Environment.all.map fun e => [e.name]) r = some fs ∧
    fs.orAbsent? 0 entryTexts? = some sandbox ∧ fs.orAbsent? 1 entryTexts? = some production

theorem refines_identifier (kind : IdKind) :
    Refines Raw.string? (fun s => (Identifier.parse? kind s).isSome) (Identifier.ofRaw? kind) := by
  intro r
  rw [Identifier.ofRaw?]
  cases r.string? with
  | none => simp
  | some s => simp

theorem isSome_bind₂ {α β γ : Type} (x : Option α) (y : Option β) (f : α → β → γ) :
    (x.bind fun a => y.bind fun b => some (f a b)).isSome ↔ x.isSome ∧ y.isSome := by
  cases x <;> cases y <;> simp

theorem isSome_bind₃ {α β γ δ : Type} (x : Option α) (y : Option β) (z : Option γ)
    (f : α → β → γ → δ) :
    (x.bind fun a => y.bind fun b => z.bind fun c => some (f a b c)).isSome ↔
      x.isSome ∧ y.isSome ∧ z.isSome := by
  cases x <;> cases y <;> cases z <;> simp

theorem refines_entry : Refines entryTexts? EntryTexts.IsValid entry? := by
  intro r
  simp only [entryTexts?, entry?, bind, pure]
  cases Fields.ofRaw? [["id"], ["type_id"], ["group_id"]] r with
  | none => simp
  | some fs =>
    simp only [Option.bind_some]
    rw [isSome_bind₃, (refines_identifier .task).required? fs 0,
      (refines_identifier .taskType).required? fs 1,
      (refines_identifier .taskGroup).orAbsent? fs 2]
    constructor
    · rintro ⟨⟨s, hs, hid⟩, ⟨t, ht, htype⟩, o, ho, hgroup⟩
      exact ⟨⟨s, t, o⟩, by simp [Option.mem_def.mp hs, Option.mem_def.mp ht, Option.mem_def.mp ho],
        hid, htype, hgroup⟩
    · rintro ⟨x, hx, hid, htype, hgroup⟩
      obtain ⟨s, hs, t, ht, o, ho, rfl⟩ : ∃ s ∈ fs.required? 0 Raw.string?,
          ∃ t ∈ fs.required? 1 Raw.string?, ∃ o ∈ fs.orAbsent? 2 Raw.string?, ⟨s, t, o⟩ = x := by
        simpa [Option.bind_eq_some_iff] using hx
      exact ⟨⟨s, hs, hid⟩, ⟨t, ht, htype⟩, o, ho, hgroup⟩

/-- A registry is a shape whose entries are valid. -/
theorem exists_registry_iff (r : Raw) :
    (∃ rs, registry? r = some rs) ↔ ∃ sandbox production, HasShape r sandbox production ∧
      (∀ x ∈ sandbox, x.IsValid) ∧ ∀ x ∈ production, x.IsValid := by
  rw [← Option.isSome_iff_exists]
  simp only [HasShape, registry?, bind, pure]
  cases Fields.ofRaw? (Environment.all.map fun e => [e.name]) r with
  | none => simp
  | some fs =>
    simp only [Option.bind_some]
    rw [isSome_bind₂, refines_entry.orAbsent? fs 0, refines_entry.orAbsent? fs 1]
    constructor
    · rintro ⟨⟨s, hs, hsandbox⟩, p, hp, hproduction⟩
      exact ⟨s, p, ⟨fs, rfl, hs, hp⟩, hsandbox, hproduction⟩
    · rintro ⟨s, p, ⟨_, hfs, hs, hp⟩, hsandbox, hproduction⟩
      obtain rfl := Option.some.inj hfs
      exact ⟨⟨s, hs, hsandbox⟩, p, hp, hproduction⟩

/-- The bytes without a registry. -/
inductive IsDamaged (bytes : ByteArray) : Prop where
  | notText (h : String.fromUTF8? bytes = none)
  | notJson (text : String) (htext : String.fromUTF8? bytes = some text)
    (h : Raw.read? text = none)
  | misshapen (text : String) (r : Raw) (htext : String.fromUTF8? bytes = some text)
    (hread : Raw.read? text = some r) (h : ∀ sandbox production, ¬HasShape r sandbox production)
  | notIdentifiers (text : String) (r : Raw) (sandbox production : Option EntryTexts)
    (x : EntryTexts) (htext : String.fromUTF8? bytes = some text)
    (hread : Raw.read? text = some r) (hshape : HasShape r sandbox production)
    (hx : x ∈ sandbox ∨ x ∈ production) (h : ¬x.IsValid)

theorem HasShape.eq {r : Raw} {s s' p p' : Option EntryTexts} (h : HasShape r s p)
    (h' : HasShape r s' p') : s = s' ∧ p = p' := by
  obtain ⟨fs, hfs, hs, hp⟩ := h
  obtain ⟨fs', hfs', hs', hp'⟩ := h'
  obtain rfl := Option.some.inj (hfs.symm.trans hfs')
  exact ⟨Option.some.inj (hs.symm.trans hs'), Option.some.inj (hp.symm.trans hp')⟩

/-- A text that is JSON holds no registry if and only if it does not have the shape of one, or an
entry of it is not valid. -/
theorem registry?_eq_none_iff (r : Raw) :
    registry? r = none ↔ (∀ s p, ¬HasShape r s p) ∨
      ∃ s p x, HasShape r s p ∧ (x ∈ s ∨ x ∈ p) ∧ ¬x.IsValid := by
  rw [← Option.not_isSome_iff_eq_none, Option.isSome_iff_exists, exists_registry_iff]
  constructor
  · intro h
    by_cases hshape : ∃ s p, HasShape r s p
    · obtain ⟨s, p, hshape⟩ := hshape
      refine Or.inr ?_
      by_contra hvalid
      have hsound : ∀ x, x ∈ s ∨ x ∈ p → x.IsValid := fun x hx =>
        by_contra fun hinvalid => hvalid ⟨s, p, x, hshape, hx, hinvalid⟩
      exact h ⟨s, p, hshape, fun x hx => hsound x (Or.inl hx), fun x hx => hsound x (Or.inr hx)⟩
    · exact Or.inl fun s p hs => hshape ⟨s, p, hs⟩
  · rintro (h | ⟨s, p, x, hshape, hx, hinvalid⟩) ⟨s', p', hshape', hs, hp⟩
    · exact h s' p' hshape'
    · obtain ⟨rfl, rfl⟩ := hshape.eq hshape'
      exact hinvalid (hx.elim (hs x) (hp x))

section Load

variable {path name : String} {d : Route} {t : FileTree} {bytes : ByteArray}

theorem load_of_notText (hpath : Route.splitPath? path = some (d, name))
    (hbytes : t.read d name = .ok bytes) (h : String.fromUTF8? bytes = none) :
    (load FileTree.system path t).1 = .error (.io .notText) := by
  rw [run_load, hpath]
  simp only [hbytes, h]

theorem load_of_text (hpath : Route.splitPath? path = some (d, name))
    (hbytes : t.read d name = .ok bytes) {text : String} (h : String.fromUTF8? bytes = some text) :
    (load FileTree.system path t).1 = parse path text := by
  rw [run_load, hpath]
  simp only [hbytes, h]

/-- The registry cannot be loaded from the bytes of a file if and only if they are damaged. -/
theorem load_error_iff (hpath : Route.splitPath? path = some (d, name))
    (hbytes : t.read d name = .ok bytes) :
    (∃ cause, (load FileTree.system path t).1 = .error cause) ↔ IsDamaged bytes := by
  cases htext : String.fromUTF8? bytes with
  | none =>
    rw [load_of_notText hpath hbytes htext]
    exact iff_of_true ⟨_, rfl⟩ (.notText htext)
  | some text =>
    rw [load_of_text hpath hbytes htext, parse]
    cases hread : Raw.read? text with
    | none => exact iff_of_true ⟨_, rfl⟩ (.notJson text htext hread)
    | some r =>
      rw [Option.bind_some]
      cases hregistry : registry? r with
      | none =>
        refine iff_of_true ⟨_, rfl⟩ ?_
        rcases (registry?_eq_none_iff r).mp hregistry with h | ⟨s, p, x, hshape, hx, h⟩
        · exact .misshapen text r htext hread h
        · exact .notIdentifiers text r s p x htext hread hshape hx h
      | some rs =>
        have hloaded : ¬∃ cause, (Except.ok rs : Except RecordError Registry) = .error cause := by
          rintro ⟨cause, hcause⟩
          cases hcause
        refine iff_of_false hloaded fun h => ?_
        -- Every kind of damage is a stage at which there is no registry yet.
        have hnone : registry? r = none := by
          cases h with
          | notText h => cases htext.symm.trans h
          | notJson text' htext' h =>
            obtain rfl := Option.some.inj (htext.symm.trans htext')
            cases hread.symm.trans h
          | misshapen text' r' htext' hread' h =>
            obtain rfl := Option.some.inj (htext.symm.trans htext')
            obtain rfl := Option.some.inj (hread.symm.trans hread')
            exact (registry?_eq_none_iff r).mpr (Or.inl h)
          | notIdentifiers text' r' s p x htext' hread' hshape hx h =>
            obtain rfl := Option.some.inj (htext.symm.trans htext')
            obtain rfl := Option.some.inj (hread.symm.trans hread')
            exact (registry?_eq_none_iff r).mpr (Or.inr ⟨s, p, x, hshape, hx, h⟩)
        cases hregistry.symm.trans hnone

/-- A text that is loaded without success is said to be corrupt, and bytes that are not a text are
a fault of the file. -/
theorem eq_of_load_error (hpath : Route.splitPath? path = some (d, name))
    (hbytes : t.read d name = .ok bytes) {cause : RecordError}
    (h : (load FileTree.system path t).1 = .error cause) :
    cause = if (String.fromUTF8? bytes).isSome then .corrupt path mismatch else .io .notText := by
  cases htext : String.fromUTF8? bytes with
  | none =>
    rw [load_of_notText hpath hbytes htext] at h
    exact (Except.error.inj h).symm
  | some text =>
    rw [load_of_text hpath hbytes htext, parse] at h
    split at h
    · cases h
    · exact (Except.error.inj h).symm

end Load

end RecordFile

end CrowdTask
