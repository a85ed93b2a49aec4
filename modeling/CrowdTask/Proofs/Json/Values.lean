import CrowdTask.Proofs.Json.Nesting
import Mathlib.Data.String.Basic

/-!
# The values of printed texts

A value without binary numbers loses nothing when it is printed and read again. The reader puts the
members of an object in the order of their keys, and of several members with one key it keeps the
last one.

## Main definitions

* `CrowdTask.Json.IsWhole`: the values without binary numbers.
* `CrowdTask.Json.ordered`: a value with the members of its objects in order.

## Main results

* `CrowdTask.Json.Members.get?_ofList`: the last member with a key is the one that counts.
* `CrowdTask.Json.Members.pairwise_ofList`: ordered members have each key once.
* `CrowdTask.Json.read?_compact`, `CrowdTask.Json.read?_compact_obj`: what is read from a printed
  value, and from a printed object.
-/

namespace CrowdTask.Json

/-! ### Members -/

namespace Members

variable {key k : String} {value : Json} {ms : Members}

@[simp]
theorem get?_insert_self (key : String) (value : Json) (ms : Members) :
    get? key (insert key value ms) = some value := by
  induction ms with
  | nil => simp [insert, get?]
  | cons m ms ih =>
    rw [insert]
    split_ifs with heq hlt
    · simp [get?]
    · simp [get?]
    · rw [get?, if_neg (Ne.symm heq), ih]

theorem get?_insert_of_ne (h : k ≠ key) (value : Json) (ms : Members) :
    get? k (insert key value ms) = get? k ms := by
  induction ms with
  | nil => simp [insert, get?, h.symm]
  | cons m ms ih =>
    rw [insert]
    split_ifs with heq hlt
    · rw [get?, if_neg h.symm, get?, if_neg (heq ▸ h.symm)]
    · rw [get?, if_neg h.symm]
    · rw [get?, get?, ih]

@[simp]
theorem get?_erase_self (key : String) (ms : Members) : get? key (erase key ms) = none := by
  induction ms with
  | nil => rfl
  | cons m ms ih =>
    rw [erase, List.filter_cons]
    split_ifs with hne
    · rw [get?, if_neg (of_decide_eq_true hne)]
      exact ih
    · exact ih

theorem get?_erase_of_ne (h : k ≠ key) (ms : Members) : get? k (erase key ms) = get? k ms := by
  induction ms with
  | nil => rfl
  | cons m ms ih =>
    rw [erase, List.filter_cons]
    split_ifs with hne
    · rw [get?, get?, ← ih]
      rfl
    · have heq : m.1 = key := of_not_not fun h => hne (decide_eq_true h)
      rw [get?, if_neg (heq ▸ h.symm)]
      exact ih

theorem get?_append (key : String) (ms ms' : Members) :
    get? key (ms ++ ms') = (get? key ms).or (get? key ms') := by
  induction ms with
  | nil => rfl
  | cons m ms ih =>
    rw [List.cons_append, get?, get?, ih]
    split_ifs
    · rfl
    · rfl

theorem get?_eq_none_iff : get? key ms = none ↔ ∀ m ∈ ms, m.1 ≠ key := by
  induction ms with
  | nil => simp [get?]
  | cons m ms ih =>
    rw [get?, List.forall_mem_cons, ← ih]
    split_ifs with h
    · simp [h]
    · simp [h]

theorem mem_of_get? (h : get? key ms = some value) : (key, value) ∈ ms := by
  induction ms with
  | nil => cases h
  | cons m ms ih =>
    rw [get?] at h
    split_ifs at h with hkey
    · obtain rfl := Option.some.inj h
      rw [← hkey]
      exact .head _
    · exact .tail _ (ih h)

theorem get?_foldl_insert (key : String) (ms acc : Members) :
    get? key (ms.foldl (fun acc m => insert m.1 m.2 acc) acc) =
      (get? key ms.reverse).or (get? key acc) := by
  induction ms generalizing acc with
  | nil => rfl
  | cons m ms ih =>
    rw [List.foldl_cons, ih, List.reverse_cons, get?_append, Option.or_assoc]
    congr 1
    by_cases h : key = m.1
    · subst h
      simp [get?]
    · simp [get?_insert_of_ne h, get?, Ne.symm h]

/-- Of several members with one key, the last one counts. -/
theorem get?_ofList (key : String) (ms : List (String × Json)) :
    get? key (ofList ms) = get? key (ms.reverse : Members) := by
  rw [ofList, get?_foldl_insert]
  exact Option.or_none

/-- Where each key occurs once, the order of the members does not matter. -/
theorem get?_ofList_of_nodup {ms : List (String × Json)} (h : (ms.map (·.1)).Nodup)
    (key : String) : get? key (ofList ms) = get? key (ms : Members) := by
  rw [get?_ofList]
  induction ms with
  | nil => rfl
  | cons m ms ih =>
    obtain ⟨hm, hms⟩ := List.nodup_cons.mp h
    rw [List.reverse_cons, get?_append, ih hms]
    show (get? key ms).or (if m.1 = key then some m.2 else none) =
      if m.1 = key then some m.2 else get? key ms
    split_ifs with hkey
    · subst hkey
      have hnone : get? m.1 ms = none := get?_eq_none_iff.mpr fun m' hm' heq =>
        hm (List.mem_map.mpr ⟨m', hm', heq⟩)
      rw [hnone, Option.none_or]
    · exact Option.or_none

theorem pairwise_insert (h : ms.Pairwise fun a b => a.1 < b.1) :
    (insert key value ms).Pairwise fun a b => a.1 < b.1 := by
  induction ms with
  | nil => exact List.pairwise_singleton _ _
  | cons m ms ih =>
    obtain ⟨hm, hms⟩ := List.pairwise_cons.mp h
    rw [insert]
    split_ifs with heq hlt
    · exact List.pairwise_cons.mpr ⟨fun m' hm' => heq ▸ hm m' hm', hms⟩
    · refine List.pairwise_cons.mpr ⟨fun m' hm' => ?_, h⟩
      rcases List.mem_cons.mp hm' with rfl | hm'
      · exact hlt
      · exact hlt.trans (hm m' hm')
    · refine List.pairwise_cons.mpr ⟨fun m' hm' => ?_, ih hms⟩
      rcases mem_insert hm' with rfl | hm'
      · exact lt_of_le_of_ne (not_lt.mp hlt) (Ne.symm heq)
      · exact hm m' hm'

/-- Ordered members have each key once. -/
theorem pairwise_ofList (ms : List (String × Json)) :
    (ofList ms).Pairwise fun a b => a.1 < b.1 := by
  suffices h : ∀ acc : Members, acc.Pairwise (fun a b => a.1 < b.1) →
      (ms.foldl (fun acc m => insert m.1 m.2 acc) acc).Pairwise fun a b => a.1 < b.1 from
    h [] .nil
  induction ms with
  | nil => exact fun _ h => h
  | cons m ms ih => exact fun acc h => ih _ (pairwise_insert h)

theorem insert_of_forall_lt (h : ∀ m ∈ ms, m.1 < key) :
    insert key value ms = ms ++ [(key, value)] := by
  induction ms with
  | nil => rfl
  | cons m ms ih =>
    obtain ⟨hm, hms⟩ := List.forall_mem_cons.mp h
    rw [insert, if_neg hm.ne', if_neg hm.asymm, ih hms, List.cons_append]

/-- Members in order stay as they are. -/
theorem ofList_of_pairwise {ms : List (String × Json)} (h : ms.Pairwise fun a b => a.1 < b.1) :
    ofList ms = ms := by
  suffices hfold : ∀ (rest acc : Members), (acc ++ rest).Pairwise (fun a b => a.1 < b.1) →
      rest.foldl (fun acc m => insert m.1 m.2 acc) acc = acc ++ rest from hfold ms [] h
  intro rest
  induction rest with
  | nil => exact fun acc _ => (List.append_nil acc).symm
  | cons m rest ih =>
    intro acc hacc
    have hlt : ∀ a ∈ acc, a.1 < m.1 := fun a ha =>
      (List.pairwise_append.mp hacc).2.2 a ha m List.mem_cons_self
    rw [List.foldl_cons, insert_of_forall_lt hlt, ih _ (by simpa using hacc), List.append_assoc,
      List.singleton_append]

end Members

/-! ### Values -/

mutual

/-- Whether a value has no binary numbers. -/
def IsWhole : Json → Prop
  | .null | .bool _ | .str _ | .num (.int _) => True
  | .num (.double _) => False
  | .arr items => ItemsWhole items
  | .obj members => MembersWhole members

/-- Whether the items of an array have no binary numbers. -/
def ItemsWhole : List Json → Prop
  | [] => True
  | v :: vs => IsWhole v ∧ ItemsWhole vs

/-- Whether the members of an object have no binary numbers. -/
def MembersWhole : List (String × Json) → Prop
  | [] => True
  | (_, v) :: ms => IsWhole v ∧ MembersWhole ms

end

theorem itemsWhole_iff {vs : List Json} : ItemsWhole vs ↔ ∀ v ∈ vs, IsWhole v := by
  induction vs with
  | nil => simp [ItemsWhole]
  | cons v vs ih => simp [ItemsWhole, ih]

theorem membersWhole_iff {ms : List (String × Json)} : MembersWhole ms ↔ ∀ m ∈ ms, IsWhole m.2 := by
  induction ms with
  | nil => simp [MembersWhole]
  | cons m ms ih => simp [MembersWhole, ih]

theorem itemsNesting_le_iff {vs : List Json} {n : Nat} :
    itemsNesting vs ≤ n ↔ ∀ v ∈ vs, nesting v ≤ n := by
  induction vs with
  | nil => simp [itemsNesting]
  | cons v vs ih => simp [itemsNesting, ih]

mutual

/-- A value with the members of its objects in the order of their keys. -/
def ordered : Json → Json
  | .null => .null
  | .bool b => .bool b
  | .num n => .num n
  | .str s => .str s
  | .arr items => .arr (orderedItems items)
  | .obj members => .obj (Members.ofList (orderedMembers members))

/-- The items of an array, each of them in order. -/
def orderedItems : List Json → List Json
  | [] => []
  | v :: vs => ordered v :: orderedItems vs

/-- The members of an object as they stand, each value in order. -/
def orderedMembers : List (String × Json) → List (String × Json)
  | [] => []
  | (k, v) :: ms => (k, ordered v) :: orderedMembers ms

end

theorem orderedItems_eq_map (vs : List Json) : orderedItems vs = vs.map ordered := by
  induction vs with
  | nil => rfl
  | cons v vs ih => rw [orderedItems, List.map_cons, ih]

theorem get?_orderedMembers (key : String) (ms : Members) :
    Members.get? key (orderedMembers ms : Members) = (Members.get? key ms).map ordered := by
  induction ms with
  | nil => rfl
  | cons m ms ih =>
    rw [orderedMembers, Members.get?, Members.get?, ih]
    split_ifs
    · rfl
    · rfl

theorem map_fst_orderedMembers (ms : List (String × Json)) :
    (orderedMembers ms).map (·.1) = ms.map (·.1) := by
  induction ms with
  | nil => rfl
  | cons m ms ih => rw [orderedMembers, List.map_cons, List.map_cons, ih]

section Printed

open Raw

mutual

/-- The value of a printed text is the printed value, but for the order of members. -/
theorem toJson?_raw : ∀ {v : Json} {levels : Nat}, v.IsWhole → v.nesting ≤ levels →
    toJson? levels (raw v) = some v.ordered
  | .null, _, _, _ | .bool _, _, _, _ => by simp [raw, toJson?, ordered]
  | .num (.int n), _, _, _ => by simp [raw, toJson?, ordered, Number.toNumber?_written_int]
  | .num (.double _), _, hv, _ => hv.elim
  | .str s, _, _, _ => by simp [raw, toJson?, ordered, pieceText?_pieces]
  | .arr items, levels, hv, hlevels => by
    rw [nesting] at hlevels
    rw [raw, toJson?, ordered, if_neg (by omega), itemsToJson?_raw hv (by omega)]
    rfl
  | .obj members, levels, hv, hlevels => by
    rw [nesting] at hlevels
    rw [raw, toJson?, ordered, if_neg (by omega), membersToJson?_raw hv (by omega)]
    rfl

theorem itemsToJson?_raw : ∀ {vs : List Json} {levels : Nat}, ItemsWhole vs →
    itemsNesting vs ≤ levels → itemsToJson? levels (rawItems vs) = some (orderedItems vs)
  | [], _, _, _ => by rw [rawItems, itemsToJson?, orderedItems]
  | v :: vs, _, hvs, hlevels => by
    obtain ⟨hv, hvs'⟩ := Nat.max_le.mp hlevels
    rw [rawItems, itemsToJson?, orderedItems, toJson?_raw hvs.1 hv, itemsToJson?_raw hvs.2 hvs']

theorem membersToJson?_raw : ∀ {ms : List (String × Json)} {levels : Nat}, MembersWhole ms →
    membersNesting ms ≤ levels → membersToJson? levels (rawMembers ms) = some (orderedMembers ms)
  | [], _, _, _ => by rw [rawMembers, membersToJson?, orderedMembers]
  | (k, v) :: ms, _, hms, hlevels => by
    obtain ⟨hv, hms'⟩ := Nat.max_le.mp hlevels
    rw [rawMembers, membersToJson?, orderedMembers, pieceText?_pieces, toJson?_raw hms.1 hv,
      membersToJson?_raw hms.2 hms']

end

end Printed

/-- A value without binary numbers is read as it was printed, but for the order of members. -/
theorem read?_compact {v : Json} (hv : v.IsWhole) (hnesting : v.nesting ≤ nestingLimit) :
    read? v.compact = some v.ordered := by
  rw [read?, rawRead?_compact, Option.bind_some, toJson?_raw hv hnesting]

/-- The members of a printed object with different keys are found as they are written. -/
theorem read?_compact_obj {ms : Members} (hnodup : (ms.map (·.1)).Nodup)
    (hv : (Json.obj ms).IsWhole) (hnesting : (Json.obj ms).nesting ≤ nestingLimit) :
    ∃ members : Members, read? (Json.obj ms).compact = some (.obj members) ∧
      ∀ key, members.get? key = (ms.get? key).map ordered := by
  refine ⟨_, read?_compact hv hnesting, fun key => ?_⟩
  rw [← map_fst_orderedMembers] at hnodup
  rw [Members.get?_ofList_of_nodup hnodup, get?_orderedMembers]

end CrowdTask.Json
