import CrowdTask.Proofs.Json.Strings
import CrowdTask.Json.Record
import Mathlib.Tactic.Common

/-!
# Records written as arrays

A record is read from an array as it is read from the object that gives the items to the names of
the fields in their order. The fields that no item is left for are absent, which only some fields
may be.

## Main definitions

* `CrowdTask.Json.Raw.named`: the object that gives items to names.
* `CrowdTask.Json.Raw.named?`: the object that an array stands for, if it has enough items and not
  too many of them.
* `CrowdTask.Json.ReadsArrays`: that a reader takes arrays for objects.

## Main results

* `CrowdTask.Json.ofRaw?_arr`, `CrowdTask.Json.ofRaw?_named`: an array and its object have the same
  fields.
-/

namespace CrowdTask.Json

namespace Raw

/-- Whether a text is an object. -/
def isObject : Raw → Bool
  | .obj _ => true
  | _ => false

/-- The object that gives items to names, in their order. -/
def named (names : List String) (items : List Raw) : Raw :=
  .obj ((names.zip items).map fun m => (pieces m.1, m.2))

/-- The object that an array with at least the given number of items stands for, in which each item
has a name. -/
def named? (names : List String) (least : Nat) : Raw → Option Raw
  | .arr items =>
    if least ≤ items.length ∧ items.length ≤ names.length then some (named names items) else none
  | _ => none

end Raw

/-- Whether `decode` reads an array as the object that it stands for, and no other text that is not
an object. -/
def ReadsArrays {α : Type} (names : List String) (least : Nat) (decode : Raw → Option α) : Prop :=
  ∀ r : Raw, r.isObject = false → decode r = (r.named? names least).bind decode

/-- The texts of fields that are given by the first items. -/
def slotsOf (count : Nat) (items : List Raw) : List (Option Raw) :=
  items.map some ++ List.replicate (count - items.length) none

section Fields

variable {names : List String} {items : List Raw}

theorem keyed?_pieces (members : List (String × Raw)) :
    Fields.keyed? (members.map fun m => (pieces m.1, m.2)) = some members := by
  rw [Fields.keyed?]
  induction members with
  | nil => rfl
  | cons m members ih =>
    rw [List.map_cons, List.mapM_cons, ih, pieceText?_pieces]
    rfl

theorem slot?_cons_self {name : String} (r : Raw) {members : List (String × Raw)}
    (h : ∀ m ∈ members, m.1 ≠ name) :
    Fields.slot? ((name, r) :: members) [name] = some (some r) := by
  have hrest : (members.filter fun m => [name].contains m.1) = [] := by
    rw [List.filter_eq_nil_iff]
    intro m hm
    simpa using h m hm
  rw [Fields.slot?, Fields.named, List.filter_cons_of_pos (by simp), hrest]
  rfl

theorem slot?_cons_of_ne {name name' : String} (r : Raw) (members : List (String × Raw))
    (h : name' ≠ name) :
    Fields.slot? ((name', r) :: members) [name] = Fields.slot? members [name] := by
  rw [Fields.slot?, Fields.named, List.filter_cons_of_neg (by simpa using h)]
  rfl

theorem mapM_slot?_cons {name : String} (r : Raw) (members : List (String × Raw))
    (h : name ∉ names) :
    (names.map fun name => [name]).mapM (Fields.slot? ((name, r) :: members)) =
      (names.map fun name => [name]).mapM (Fields.slot? members) := by
  induction names with
  | nil => rfl
  | cons name' names ih =>
    obtain ⟨hne, hrest⟩ := not_or.mp (mt List.mem_cons.mpr h)
    rw [List.map_cons, List.mapM_cons, List.mapM_cons, slot?_cons_of_ne r members hne, ih hrest]

/-- Each name has the item at its place, if there is one. -/
theorem mapM_slot?_zip (hnames : names.Nodup) (h : items.length ≤ names.length) :
    (names.map fun name => [name]).mapM (Fields.slot? (names.zip items)) =
      some (slotsOf names.length items) := by
  induction names generalizing items with
  | nil =>
    obtain rfl : items = [] := List.length_eq_zero_iff.mp (Nat.le_zero.mp h)
    rfl
  | cons name names ih =>
    obtain ⟨hname, hnames⟩ := List.nodup_cons.mp hnames
    cases items with
    | nil =>
      have hrest := @ih [] hnames (Nat.zero_le _)
      rw [List.zip_nil_right] at hrest
      rw [List.zip_nil_right, List.map_cons, List.mapM_cons, hrest]
      rfl
    | cons r items =>
      -- Names do not repeat, so the other members have nothing for the first field.
      have hother : ∀ m ∈ names.zip items, m.1 ≠ name := by
        rintro m hm rfl
        exact hname (List.of_mem_zip hm).1
      rw [List.zip_cons_cons, List.map_cons, List.mapM_cons, slot?_cons_self r hother,
        mapM_slot?_cons r _ hname, ih hnames (Nat.le_of_succ_le_succ h), slotsOf, slotsOf,
        List.length_cons, List.length_cons, Nat.add_sub_add_right]
      rfl

theorem ofRaw?_named (hnames : names.Nodup) (h : items.length ≤ names.length) :
    Fields.ofRaw? (names.map fun name => [name]) (Raw.named names items) =
      some ⟨false, slotsOf names.length items⟩ := by
  rw [Raw.named, Fields.ofRaw?, keyed?_pieces]
  change ((names.map fun name => [name]).mapM (Fields.slot? (names.zip items))).bind _ = _
  rw [mapM_slot?_zip hnames h]
  rfl

theorem ofRaw?_arr (h : items.length ≤ names.length) :
    Fields.ofRaw? (names.map fun name => [name]) (.arr items) =
      some ⟨true, slotsOf names.length items⟩ := by
  rw [Fields.ofRaw?, List.length_map, if_pos h]
  rfl

theorem ofRaw?_arr_of_lt (h : names.length < items.length) :
    Fields.ofRaw? (names.map fun name => [name]) (.arr items) = none := by
  rw [Fields.ofRaw?, List.length_map, if_neg (Nat.not_le.mpr h)]

/-- A text that is neither an object nor an array has no fields. -/
theorem ofRaw?_eq_none {fields : List (List String)} {r : Raw} (hobject : r.isObject = false)
    (harray : ∀ items, r ≠ .arr items) : Fields.ofRaw? fields r = none := by
  cases r with
  | obj => cases hobject
  | arr items => exact absurd rfl (harray items)
  | _ => rfl

end Fields

/-! ### Fields of arrays -/

section Slots

variable {α : Type} {count i : Nat} {items : List Raw} (positional : Bool)

theorem raw?_slotsOf (count i : Nat) (items : List Raw) :
    (⟨positional, slotsOf count items⟩ : Fields).raw? i = items[i]? := by
  rw [Fields.raw?, slotsOf, List.getElem?_append, List.length_map]
  split_ifs with h
  · rw [List.getElem?_map, List.getElem?_eq_getElem h]
    rfl
  · rw [List.getElem?_eq_none (Nat.not_lt.mp h), List.getElem?_replicate]
    split_ifs <;> rfl

theorem required?_slotsOf_of_le (h : items.length ≤ i) (decode : Raw → Option α) :
    (⟨positional, slotsOf count items⟩ : Fields).required? i decode = none := by
  rw [Fields.required?, raw?_slotsOf, List.getElem?_eq_none h]
  rfl

theorem optional?_slotsOf_of_le (h : items.length ≤ i) (decode : Raw → Option α) :
    (⟨true, slotsOf count items⟩ : Fields).optional? i decode = none := by
  rw [Fields.optional?, raw?_slotsOf, List.getElem?_eq_none h]
  rfl

/-- A field that is given does not depend on whether it is given by name. -/
theorem optional?_slotsOf_of_lt (h : i < items.length) (decode : Raw → Option α) :
    (⟨true, slotsOf count items⟩ : Fields).optional? i decode =
      (⟨false, slotsOf count items⟩ : Fields).optional? i decode := by
  rw [Fields.optional?, Fields.optional?, raw?_slotsOf, raw?_slotsOf, List.getElem?_eq_getElem h]

end Slots

/-- A reader of fields reads arrays if the fields that it takes from an array do not depend on
whether they are given by name, and it takes none from an array with too few items. -/
theorem readsArrays_of_fields {α : Type} {names : List String} {least : Nat}
    (hnames : names.Nodup) {take : Fields → Option α}
    (hfew : ∀ items : List Raw, items.length < least →
      take ⟨true, slotsOf names.length items⟩ = none)
    (henough : ∀ items : List Raw, least ≤ items.length → items.length ≤ names.length →
      take ⟨true, slotsOf names.length items⟩ = take ⟨false, slotsOf names.length items⟩) :
    ReadsArrays names least fun r =>
      (Fields.ofRaw? (names.map fun name => [name]) r).bind take := by
  intro r hr
  dsimp only
  by_cases harray : ∃ items, r = .arr items
  · obtain ⟨items, rfl⟩ := harray
    rw [Raw.named?]
    by_cases hlength : items.length ≤ names.length
    · rw [ofRaw?_arr hlength, Option.bind_some]
      by_cases hleast : least ≤ items.length
      · rw [if_pos ⟨hleast, hlength⟩, Option.bind_some, ofRaw?_named hnames hlength,
          Option.bind_some, henough items hleast hlength]
      · rw [if_neg fun h => hleast h.1, hfew items (Nat.not_le.mp hleast)]
        rfl
    · rw [if_neg fun h => hlength h.2, ofRaw?_arr_of_lt (Nat.not_le.mp hlength)]
      rfl
  · have hnot : ∀ items, r ≠ .arr items := fun items h => harray ⟨items, h⟩
    have hnamed : r.named? names least = none := by
      cases r with
      | arr items => exact absurd rfl (hnot items)
      | _ => rfl
    rw [ofRaw?_eq_none hr hnot, hnamed]
    rfl

end CrowdTask.Json
