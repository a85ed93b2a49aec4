import CrowdTask.Files.Tree
import CrowdTask.Proofs.Settings.ListedFields

/-!
# Pairs from one source

Credentials come from the variables of the process or from a file, and never one half from each. The
variables give a pair only if both of them are set to more than blanks. The file gives any pair of
texts, so that a half of it may be blank.

## Main definitions

* `CrowdTask.Credentials.IsFilled`: whether both halves of a pair are more than blanks.
* `CrowdTask.Credentials.InVariables`, `CrowdTask.Credentials.InFile`: the pairs of the two sources.
* `CrowdTask.Credentials.AlwaysComplete`: whether only filled pairs are loaded.
* `CrowdTask.Credentials.FromOneSource`: which pair is loaded.

## Main results

* `CrowdTask.Credentials.ofVariables?_eq_some_iff`, `CrowdTask.Credentials.ofRaw?_eq_some_iff`: what
  the readers of the two sources give.
* `CrowdTask.Credentials.complete_pairs_loaded`: which pair is loaded, and when it is filled.
* `CrowdTask.Credentials.blank_pair_loaded`: a pair of blank halves that is loaded.
-/

namespace CrowdTask.Credentials

open Json

variable {lookup : String → Option String} {c : Credentials} {r : Raw}

/-- Whether both halves of a pair are more than blanks. -/
structure IsFilled (c : Credentials) : Prop where
  accessKeyId : Text.isBlankText c.accessKeyId = false
  secretAccessKey : Text.isBlankText c.secretAccessKey = false

/-! ### Variables -/

/-- Whether the variables are set to the halves of a pair, and these are more than blanks. -/
structure InVariables (lookup : String → Option String) (c : Credentials) : Prop where
  accessKeyId : lookup "AWS_ACCESS_KEY_ID" = some c.accessKeyId
  secretAccessKey : lookup "AWS_SECRET_ACCESS_KEY" = some c.secretAccessKey
  isFilled : c.IsFilled

/-- The variables give the pair that they are set to, if it is filled. -/
theorem ofVariables?_eq_some_iff : ofVariables? lookup = some c ↔ InVariables lookup c := by
  have hfilled : ∀ name s, ((lookup name).filter fun s => !Text.isBlankText s) = some s ↔
      lookup name = some s ∧ Text.isBlankText s = false := by
    intro name s
    rw [Option.filter_eq_some_iff, Bool.not_eq_true']
  simp only [ofVariables?, bind, Option.bind_eq_some_iff, pure, Option.some.injEq]
  constructor
  · rintro ⟨id, hid, secret, hsecret, rfl⟩
    obtain ⟨hid, hidFilled⟩ := (hfilled _ _).mp hid
    obtain ⟨hsecret, hsecretFilled⟩ := (hfilled _ _).mp hsecret
    exact ⟨hid, hsecret, hidFilled, hsecretFilled⟩
  · intro h
    exact ⟨c.accessKeyId, (hfilled _ _).mpr ⟨h.accessKeyId, h.isFilled.accessKeyId⟩,
      c.secretAccessKey, (hfilled _ _).mpr ⟨h.secretAccessKey, h.isFilled.secretAccessKey⟩, rfl⟩

/-! ### Files -/

/-- Whether a value is a pair: an object that has each half once, or an array of both of them. -/
inductive IsPair : Raw → Credentials → Prop where
  | object {members : List (List Piece × Raw)} {fields : List (String × Raw)} {id secret : Raw}
      {c : Credentials} (hfields : Fields.keyed? members = some fields)
      (hid : Fields.named ["access_id"] fields = [id])
      (hsecret : Fields.named ["secret_key"] fields = [secret])
      (hidText : id.string? = some c.accessKeyId)
      (hsecretText : secret.string? = some c.secretAccessKey) : IsPair (.obj members) c
  | array {id secret : Raw} {c : Credentials} (hidText : id.string? = some c.accessKeyId)
      (hsecretText : secret.string? = some c.secretAccessKey) : IsPair (.arr [id, secret]) c

theorem slot?_eq_some_some_iff {fields : List (String × Raw)} {names : List String} :
    Fields.slot? fields names = some (some r) ↔ Fields.named names fields = [r] := by
  rw [Fields.slot?]
  split
  next hnone => simp [hnone]
  next r' hone => simp [hone]
  next hnone hone => simp only [reduceCtorEq, false_iff]; exact hone r

/-- The two fields of an object. -/
theorem fieldsOf_obj_iff {members : List (List Piece × Raw)} {fs : Fields} :
    Fields.ofRaw? [["access_id"], ["secret_key"]] (.obj members) = some fs ↔
      ∃ fields id secret, Fields.keyed? members = some fields ∧
        Fields.slot? fields ["access_id"] = some id ∧
        Fields.slot? fields ["secret_key"] = some secret ∧ fs = ⟨false, [id, secret]⟩ := by
  simp only [Fields.ofRaw?, List.mapM_cons, List.mapM_nil, bind, pure, Option.bind_eq_some_iff,
    Option.some.injEq]
  constructor
  · rintro ⟨fields, hfields, -, ⟨id, hid, -, ⟨secret, hsecret, -, rfl, rfl⟩, rfl⟩, rfl⟩
    exact ⟨fields, id, secret, hfields, hid, hsecret, rfl⟩
  · rintro ⟨fields, id, secret, hfields, hid, hsecret, rfl⟩
    exact ⟨fields, hfields, _, ⟨id, hid, _, ⟨secret, hsecret, _, rfl, rfl⟩, rfl⟩, rfl⟩

/-- The value of a text gives the pair that it is. -/
theorem ofRaw?_eq_some_iff : ofRaw? r = some c ↔ IsPair r c := by
  simp only [ofRaw?, bind, pure, Option.bind_eq_some_iff, Option.some.injEq, Fields.required?]
  constructor
  · rintro ⟨fs, hfs, id, ⟨rawId, hrawId, hid⟩, secret, ⟨rawSecret, hrawSecret, hsecret⟩, rfl⟩
    cases r with
    | obj members =>
      obtain ⟨fields, slotId, slotSecret, hfields, hslotId, hslotSecret, rfl⟩ :=
        fieldsOf_obj_iff.mp hfs
      obtain rfl : slotId = some rawId := hrawId
      obtain rfl : slotSecret = some rawSecret := hrawSecret
      exact .object hfields (slot?_eq_some_some_iff.mp hslotId)
        (slot?_eq_some_some_iff.mp hslotSecret) hid hsecret
    | arr items =>
      rw [Fields.ofRaw?] at hfs
      split_ifs at hfs with hlength
      obtain rfl := Option.some.inj hfs
      rcases items with _ | ⟨id', _ | ⟨secret', _ | ⟨_, rest⟩⟩⟩
      · cases hrawId
      · cases hrawSecret
      · obtain rfl : id' = rawId := Option.some.inj hrawId
        obtain rfl : secret' = rawSecret := Option.some.inj hrawSecret
        exact .array hid hsecret
      · exact absurd hlength (by simp)
    | _ => cases hfs
  · intro h
    cases h with
    | object hfields hid hsecret hidText hsecretText =>
      exact ⟨_, fieldsOf_obj_iff.mpr ⟨_, _, _, hfields, slot?_eq_some_some_iff.mpr hid,
        slot?_eq_some_some_iff.mpr hsecret, rfl⟩, _, ⟨_, rfl, hidText⟩, _, ⟨_, rfl, hsecretText⟩,
        rfl⟩
    | array hidText hsecretText =>
      exact ⟨_, rfl, _, ⟨_, rfl, hidText⟩, _, ⟨_, rfl, hsecretText⟩, rfl⟩

/-- The pair in a text is that of its value. -/
theorem parse_eq_ok_iff {text path : String} :
    parse text path = .ok c ↔ ∃ r, Raw.read? text = some r ∧ IsPair r c := by
  have hpair : (Raw.read? text).bind ofRaw? = some c ↔
      ∃ r, Raw.read? text = some r ∧ IsPair r c := by
    simp only [Option.bind_eq_some_iff, ofRaw?_eq_some_iff]
  rw [← hpair, parse]
  cases (Raw.read? text).bind ofRaw? with
  | none => simp
  | some c' => simp

section Load

variable {σ : Type} {fs : FileSystem (StateM σ)} {path : String} {s : σ}

/-- Whether the text of a file is a pair. -/
def InFile (fs : FileSystem (StateM σ)) (path : String) (s : σ) (c : Credentials) : Prop :=
  ∃ text r, (fs.readText path s).1 = .ok text ∧ Raw.read? text = some r ∧ IsPair r c

/-! ### Both sources -/

/-- Without a pair in the variables the pair in the file is loaded, if there is one. -/
theorem load_eq_ok_iff (hvariables : ∀ c, ¬ InVariables lookup c) :
    (load fs lookup path s).1 = .ok c ↔ InFile fs path s c := by
  have hnone : ofVariables? lookup = none :=
    Option.eq_none_iff_forall_ne_some.mpr fun c hc => hvariables c (ofVariables?_eq_some_iff.mp hc)
  rcases hread : fs.readText path s with ⟨_ | text, s'⟩
  next fault =>
    have hfault : ∃ e, (load fs lookup path s).1 = .error e := by
      simp only [load, hnone, ConfigFile.read, bind, StateT.bind, hread]
      cases fault <;> exact ⟨_, rfl⟩
    obtain ⟨e, he⟩ := hfault
    simp [he, InFile, hread]
  next =>
    rw [load_of_readText hnone hread, parse_eq_ok_iff]
    simp [InFile, hread]

/-- Whether what is loaded is a filled pair, and an error if neither source has one. -/
structure AlwaysComplete (fs : FileSystem (StateM σ)) (lookup : String → Option String)
    (path : String) (s : σ) : Prop where
  filled : ∀ c, (load fs lookup path s).1 = .ok c → c.IsFilled
  refused : (∀ c, ¬ InVariables lookup c) → (∀ c, InFile fs path s c → ¬ c.IsFilled) →
    ∃ e, (load fs lookup path s).1 = .error e

/-- Whether a pair is loaded from one source: from the variables if both of them are set to more
than blanks, and otherwise from the file. -/
structure FromOneSource (fs : FileSystem (StateM σ)) (lookup : String → Option String)
    (path : String) (s : σ) : Prop where
  /-- With a pair in the variables the file is not even read. -/
  ofVariables : ∀ c, InVariables lookup c → load fs lookup path s = (.ok c, s)
  ofFile : (∀ c, ¬ InVariables lookup c) →
    ∀ c, (load fs lookup path s).1 = .ok c ↔ InFile fs path s c
  refused : (∀ c, ¬ InVariables lookup c) → (∀ c, ¬ InFile fs path s c) →
    ∃ e, (load fs lookup path s).1 = .error e

/-- A pair is loaded from one source. -/
theorem fromOneSource (fs : FileSystem (StateM σ)) (lookup : String → Option String)
    (path : String) (s : σ) : FromOneSource fs lookup path s where
  ofVariables c hc := by
    simp only [load, ofVariables?_eq_some_iff.mpr hc]
    rfl
  ofFile hvariables c := load_eq_ok_iff hvariables
  refused hvariables hfile := by
    rcases hload : (load fs lookup path s).1 with e | c
    · exact ⟨e, rfl⟩
    · exact absurd ((load_eq_ok_iff hvariables).mp hload) (hfile c)

/-- **Loaded credentials are always a complete pair from one source**, if the pair in the file is
filled or not needed. Under any variables and for any file, what is loaded is the pair of the
variables if both are set to more than blanks, and otherwise the pair of the file, or an error if
there is none. Only a filled pair is ever loaded just if the variables have a pair, or the file has
none with a blank half. -/
theorem complete_pairs_loaded (fs : FileSystem (StateM σ)) (lookup : String → Option String)
    (path : String) (s : σ) :
    FromOneSource fs lookup path s ∧
      (AlwaysComplete fs lookup path s ↔
        (∃ c, InVariables lookup c) ∨ ∀ c, InFile fs path s c → c.IsFilled) := by
  have hsource := fromOneSource fs lookup path s
  refine ⟨hsource, fun h => ?_, ?_⟩
  · refine Classical.or_iff_not_imp_left.mpr fun hvariables c hc => h.filled c ?_
    exact (hsource.ofFile (not_exists.mp hvariables) c).mpr hc
  · rintro (⟨c, hc⟩ | hfile)
    · refine ⟨fun c' hc' => ?_, fun hnone => absurd hc (hnone c)⟩
      rw [hsource.ofVariables c hc] at hc'
      exact Except.ok.inj hc' ▸ hc.isFilled
    · refine ⟨fun c hload => ?_, fun hvariables hblank => ?_⟩
      · by_cases hvariables : ∃ c, InVariables lookup c
        · obtain ⟨c', hc'⟩ := hvariables
          rw [hsource.ofVariables c' hc'] at hload
          exact Except.ok.inj hload ▸ hc'.isFilled
        · exact hfile c ((hsource.ofFile (not_exists.mp hvariables) c).mp hload)
      · exact hsource.refused hvariables fun c hc => hblank c hc (hfile c hc)

end Load

/-- A file with a pair of blank halves. -/
def blankFile : FileTree :=
  FileTree.empty.plant "auth.json"
    (.file "\x7b\"access_id\": \" \", \"secret_key\": \"\"\x7d".toUTF8)

/-- A pair of blank halves in a file is loaded. -/
theorem blank_pair_loaded :
    (load FileTree.system (fun _ => none) "auth.json" blankFile).1 = .ok ⟨" ", ""⟩ ∧
      ¬ AlwaysComplete FileTree.system (fun _ => none) "auth.json" blankFile := by
  have hload : (load FileTree.system (fun _ => none) "auth.json" blankFile).1 = .ok ⟨" ", ""⟩ := by
    decide +kernel
  exact ⟨hload, fun h => absurd (h.filled _ hload).accessKeyId (by decide)⟩

end CrowdTask.Credentials
