import CrowdTask.Credentials
import CrowdTask.Proofs.Json.Positional
import CrowdTask.Store.RecordFile

/-!
# Files that hold no object

The settings, the credentials and the registry are read from a text that holds an object. A text
that holds another value is refused, unless the value is an array that has as many items as the
reader needs and no more than it knows fields: such an array is read as the object that gives its
items to the names of the fields.

## Main definitions

* `CrowdTask.Settings.ofValue`, `CrowdTask.Credentials.ofValue`, `CrowdTask.RecordFile.ofValue`:
  what the readers make of the value in a text.
* `CrowdTask.TakesArrays`: what a reader makes of the texts that hold no object.
* `CrowdTask.ReadsNonObjects`: what the readers of all three files make of them.

## Main results

* `CrowdTask.SettingsDraft.readsArrays_ofRaw?`, `CrowdTask.Credentials.readsArrays_ofRaw?`,
  `CrowdTask.RecordFile.readsArrays_registry`: the arrays that are read.
* `CrowdTask.non_objects_read`: all three files, read from texts that hold no object.
* `CrowdTask.arrays_accepted`: texts that hold arrays and are read.
-/

namespace CrowdTask

open Json

/-! ### Readers of values -/

/-- The names of the fields of settings. -/
def SettingsDraft.fieldNames : List String :=
  ["title", "description", "keywords", "url", "frame_height", "reward", "auto_approval_delay",
    "assignment_duration", "qualifications"]

/-- Only the qualifications may be left out of an array. -/
theorem SettingsDraft.readsArrays_ofRaw? (levels : Nat) :
    ReadsArrays fieldNames 8 (ofRaw? levels) := by
  refine readsArrays_of_fields (by decide) (fun items hfew => ?_) fun items henough _ => ?_
  · have hlast : (⟨true, slotsOf fieldNames.length items⟩ : Fields).optional? 7
        (Raw.toJson? (levels - 1)) = none := optional?_slotsOf_of_le (Nat.le_of_lt_succ hfew) _
    simp [hlast]
  · simp (disch := omega) only [optional?_slotsOf_of_lt]
    rfl

/-- Neither half of a pair may be left out. -/
theorem Credentials.readsArrays_ofRaw? :
    ReadsArrays ["access_id", "secret_key"] 2 ofRaw? := by
  refine readsArrays_of_fields (by decide) (fun items hfew => ?_) fun items _ _ => rfl
  simp [required?_slotsOf_of_le true (Nat.le_of_lt_succ hfew)]

/-- Every record may be left out. -/
theorem RecordFile.readsArrays_registry :
    ReadsArrays (Environment.all.map Environment.name) 0 registry? := by
  refine readsArrays_of_fields (by decide) (fun items hfew => ?_) fun items _ _ => rfl
  exact absurd hfew (Nat.not_lt_zero _)

/-! ### Readers of texts -/

/-- The settings in the value of a text. -/
def Settings.ofValue (path : String) (r : Raw) : Except ConfigError Settings :=
  match SettingsDraft.ofRaw? nestingLimit r with
  | none => .error (.malformed path mismatch)
  | some draft => draft.settings.mapError (.ofFaults path)

/-- The credentials in the value of a text. -/
def Credentials.ofValue (path : String) (r : Raw) : Except ConfigError Credentials :=
  match Credentials.ofRaw? r with
  | some c => .ok c
  | none => .error (.malformed path mismatch)

/-- The registry in the value of a text. -/
def RecordFile.ofValue (path : String) (r : Raw) : Except RecordError Registry :=
  match registry? r with
  | some rs => .ok rs
  | none => .error (.corrupt path mismatch)

/-- What the reader `read` makes of the texts with the values `value?`, where `ofValue` is what it
makes of an object. -/
structure TakesArrays {α ε : Type} (names : List String) (least : Nat)
    (value? : String → Option Raw) (ofValue : Raw → Except ε α) (refusal : ε)
    (read : String → Except ε α) : Prop where
  /-- An object is read. -/
  object : ∀ text r, value? text = some r → r.isObject = true → read text = ofValue r
  /-- An array with enough items, each of which has a name, is read as the object that gives the
  items to the names. -/
  array : ∀ text items, value? text = some (.arr items) →
    least ≤ items.length → items.length ≤ names.length →
      read text = ofValue (.named names items)
  /-- Any other array is refused. -/
  otherArray : ∀ text items, value? text = some (.arr items) →
    items.length < least ∨ names.length < items.length → read text = .error refusal
  /-- Any other value is refused. -/
  other : ∀ text r, value? text = some r → r.isObject = false → (∀ items, r ≠ .arr items) →
    read text = .error refusal

/-- A reader takes arrays if its reader of values does. -/
theorem takesArrays_of_readsArrays {α β ε : Type} {names : List String} {least : Nat}
    {value? : String → Option Raw} {decode : Raw → Option β} {ofValue : Raw → Except ε α}
    {refusal : ε} {read : String → Except ε α} (h : ReadsArrays names least decode)
    (hread : ∀ text r, value? text = some r → read text = ofValue r)
    (hvalue : ∀ r r', decode r = decode r' → ofValue r = ofValue r')
    (hnone : ∀ r, decode r = none → ofValue r = .error refusal) :
    TakesArrays names least value? ofValue refusal read where
  object text r hr _ := hread text r hr
  array text items hr hleast hlength := by
    rw [hread text _ hr]
    refine hvalue _ _ ((h _ rfl).trans ?_)
    rw [Raw.named?, if_pos ⟨hleast, hlength⟩]
    rfl
  otherArray text items hr hlength := by
    rw [hread text _ hr]
    refine hnone _ ((h _ rfl).trans ?_)
    rw [Raw.named?, if_neg (by omega)]
    rfl
  other text r hr hobject harray := by
    rw [hread text r hr]
    refine hnone r ((h r hobject).trans ?_)
    cases r with
    | arr items => exact absurd rfl (harray items)
    | _ => rfl

/-! ### Readers of files -/

section Loaders

variable {σ : Type} {fs : FileSystem (StateM σ)} {path text : String} {s s' : σ}

/-- The pair is read from the file if the variables do not give it. -/
theorem Credentials.load_of_readText {lookup : String → Option String}
    (hvariables : ofVariables? lookup = none) (h : fs.readText path s = (.ok text, s')) :
    load fs lookup path s = (parse text path, s') := by
  simp only [load, hvariables, ConfigFile.read, bind, StateT.bind, h]
  rfl

theorem RecordFile.load_of_readText (h : fs.readText path s = (.ok text, s')) :
    load fs path s = (parse path text, s') := by
  simp only [load, bind, StateT.bind, h]
  rfl

end Loaders

/-- **Files that hold no object.** The settings need eight items of an array, the credentials need
two and the registry needs none. The loaders of the credentials and of the registry make of a file
what the readers make of its text. -/
structure ReadsNonObjects {σ : Type} (fs : FileSystem (StateM σ)) (path : String) : Prop where
  /-- The settings. -/
  settings : TakesArrays SettingsDraft.fieldNames 8
    (fun text => Raw.read? (Comments.strip text)) (Settings.ofValue path)
    (.malformed path mismatch) (Settings.parse · path)
  /-- The credentials. -/
  credentials : TakesArrays ["access_id", "secret_key"] 2 Raw.read?
    (Credentials.ofValue path) (.malformed path mismatch) (Credentials.parse · path)
  /-- The credentials, from the file rather than the variables. -/
  credentialsFile : ∀ lookup text s s', Credentials.ofVariables? lookup = none →
    fs.readText path s = (.ok text, s') →
      Credentials.load fs lookup path s = (Credentials.parse text path, s')
  /-- The registry. -/
  registry : TakesArrays (Environment.all.map Environment.name) 0 Raw.read?
    (RecordFile.ofValue path) (.corrupt path mismatch) (RecordFile.parse path)
  /-- The registry, from its file. -/
  registryFile : ∀ text s s', fs.readText path s = (.ok text, s') →
    (RecordFile.store fs path).load s = (RecordFile.parse path text, s')

/-- No text that holds another value than an object is read, apart from the arrays that stand for
an object. -/
theorem non_objects_read {σ : Type} (fs : FileSystem (StateM σ)) (path : String) :
    ReadsNonObjects fs path where
  settings := by
    refine takesArrays_of_readsArrays (SettingsDraft.readsArrays_ofRaw? nestingLimit) ?_ ?_ ?_
    · intro text r hr
      rw [Settings.parse, hr, Option.bind_some]
      rfl
    · intro r r' hr
      rw [Settings.ofValue, hr, Settings.ofValue]
    · intro r hr
      rw [Settings.ofValue, hr]
  credentials := by
    refine takesArrays_of_readsArrays Credentials.readsArrays_ofRaw? ?_ ?_ ?_
    · intro text r hr
      rw [Credentials.parse, hr, Option.bind_some]
      rfl
    · intro r r' hr
      rw [Credentials.ofValue, hr, Credentials.ofValue]
    · intro r hr
      rw [Credentials.ofValue, hr]
  credentialsFile _ _ _ _ := Credentials.load_of_readText
  registry := by
    refine takesArrays_of_readsArrays RecordFile.readsArrays_registry ?_ ?_ ?_
    · intro text r hr
      rw [RecordFile.parse, hr, Option.bind_some]
      rfl
    · intro r r' hr
      rw [RecordFile.ofValue, hr, RecordFile.ofValue]
    · intro r hr
      rw [RecordFile.ofValue, hr]
  registryFile _ _ _ := RecordFile.load_of_readText

/-- Settings as a list of texts. -/
def Settings.listed : String :=
  "[\"Label images\", \"Pick the best caption\", \"images, captions\", " ++
    "\"https://example.com/task\", \"400\", \"0.50\", \"1 day\", \"1 hour and 30 minutes\"]"

/-- Arrays that are read as settings, as credentials and as the registry without records. -/
theorem arrays_accepted :
    (Raw.read? (Comments.strip Settings.listed)).map Raw.isObject = some false ∧
    (Settings.parse Settings.listed "settings.json").isOk = true ∧
    (Raw.read? "[\"A\", \"B\"]").map Raw.isObject = some false ∧
    Credentials.parse "[\"A\", \"B\"]" "auth.json" = .ok ⟨"A", "B"⟩ ∧
    (Raw.read? "[]").map Raw.isObject = some false ∧
    RecordFile.parse "hit-ids.json" "[]" = .ok .empty := by
  decide +kernel

end CrowdTask
