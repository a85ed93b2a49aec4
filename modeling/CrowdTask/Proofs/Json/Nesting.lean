import CrowdTask.Proofs.Json.Printed

/-!
# Which values can be read back

A printed text has a value if the numbers in it are finite and its containers are not nested too
deep. Every value that was read meets both conditions, so that it can be written and read again. Put
into a further container it nests deeper, and may be written but not read.

## Main definitions

* `CrowdTask.Json.nesting`: the number of containers that are nested in a value.
* `CrowdTask.Json.IsFinite`: the values whose numbers are neither infinite nor undefined.

## Main results

* `CrowdTask.Json.toJson?_raw_isSome`: a printed value has a value at the levels that it nests.
* `CrowdTask.Json.read?_indented_isSome`: a file with a value is read if and only if the value does
  not nest too deep.
* `CrowdTask.Json.finite_of_read?`: a value that is read is finite and does not nest too deep.
-/

namespace CrowdTask.Json

mutual

/-- The number of containers that are nested in a value. -/
def nesting : Json → Nat
  | .null | .bool _ | .num _ | .str _ => 0
  | .arr items => itemsNesting items + 1
  | .obj members => membersNesting members + 1

/-- The number of containers that are nested in the items of an array. -/
def itemsNesting : List Json → Nat
  | [] => 0
  | v :: vs => max (nesting v) (itemsNesting vs)

/-- The number of containers that are nested in the members of an object. -/
def membersNesting : List (String × Json) → Nat
  | [] => 0
  | (_, v) :: ms => max (nesting v) (membersNesting ms)

end

mutual

/-- Whether the numbers of a value are neither infinite nor undefined. -/
def IsFinite : Json → Prop
  | .null | .bool _ | .str _ => True
  | .num n => n.IsFinite
  | .arr items => ItemsFinite items
  | .obj members => MembersFinite members

/-- Whether the items of an array are finite. -/
def ItemsFinite : List Json → Prop
  | [] => True
  | v :: vs => IsFinite v ∧ ItemsFinite vs

/-- Whether the members of an object are finite. -/
def MembersFinite : List (String × Json) → Prop
  | [] => True
  | (_, v) :: ms => IsFinite v ∧ MembersFinite ms

end

theorem membersNesting_le_iff {ms : List (String × Json)} {n : Nat} :
    membersNesting ms ≤ n ↔ ∀ m ∈ ms, nesting m.2 ≤ n := by
  induction ms with
  | nil => simp [membersNesting]
  | cons m ms ih => simp [membersNesting, ih]

theorem membersFinite_iff {ms : List (String × Json)} :
    MembersFinite ms ↔ ∀ m ∈ ms, IsFinite m.2 := by
  induction ms with
  | nil => simp [MembersFinite]
  | cons m ms ih => simp [MembersFinite, ih]

/-! ### Members -/

namespace Members

theorem mem_insert {key : String} {value : Json} {m : String × Json} : ∀ {ms : Members},
    m ∈ insert key value ms → m = (key, value) ∨ m ∈ ms
  | [], h => Or.inl (List.mem_singleton.mp h)
  | (k, v) :: ms, h => by
    rw [insert] at h
    split at h
    · rcases List.mem_cons.mp h with rfl | h
      · exact Or.inl rfl
      · exact Or.inr (.tail _ h)
    · split at h
      · exact List.mem_cons.mp h
      · rcases List.mem_cons.mp h with rfl | h
        · exact Or.inr (.head _)
        · exact (mem_insert h).imp_right (.tail _)

theorem mem_foldl_insert {m : String × Json} {ms : List (String × Json)} : ∀ {acc : Members},
    m ∈ ms.foldl (fun acc m => insert m.1 m.2 acc) acc → m ∈ ms ∨ m ∈ acc := by
  induction ms with
  | nil => exact Or.inr
  | cons p ms ih =>
    intro acc h
    rcases ih h with hms | hacc
    · exact Or.inl (.tail _ hms)
    · rcases mem_insert hacc with rfl | hacc
      · exact Or.inl (.head _)
      · exact Or.inr hacc

/-- Members that are put in order stem from the given ones. -/
theorem mem_of_mem_ofList {m : String × Json} {ms : List (String × Json)} (h : m ∈ ofList ms) :
    m ∈ ms :=
  (mem_foldl_insert h).resolve_right List.not_mem_nil

end Members

/-! ### Values of printed texts -/

section Printed

open Raw

mutual

/-- A printed value has a value at the levels that it nests. -/
theorem toJson?_raw_isSome : ∀ {v : Json}, v.IsFinite → ∀ levels : Nat,
    (toJson? levels (raw v)).isSome ↔ v.nesting ≤ levels
  | .null, _, _ | .bool _, _, _ => by simp [raw, toJson?, nesting]
  | .num n, hv, _ => by
    simpa [raw, toJson?, nesting] using n.toNumber?_written_isSome hv
  | .str s, _, _ => by simp [raw, toJson?, nesting, pieceText?_pieces]
  | .arr items, hv, levels => by
    have ih := itemsToJson?_raw_isSome hv (levels - 1)
    rw [raw, toJson?, nesting]
    by_cases hlevels : levels = 0
    · rw [if_pos hlevels]
      simp
      omega
    · rw [if_neg hlevels, Option.isSome_map, ih]
      omega
  | .obj members, hv, levels => by
    have ih := membersToJson?_raw_isSome hv (levels - 1)
    rw [raw, toJson?, nesting]
    by_cases hlevels : levels = 0
    · rw [if_pos hlevels]
      simp
      omega
    · rw [if_neg hlevels, Option.isSome_map, ih]
      omega

theorem itemsToJson?_raw_isSome : ∀ {vs : List Json}, ItemsFinite vs → ∀ levels : Nat,
    (itemsToJson? levels (rawItems vs)).isSome ↔ itemsNesting vs ≤ levels
  | [], _, _ => by simp [rawItems, itemsToJson?, itemsNesting]
  | v :: vs, hvs, levels => by
    have hv := toJson?_raw_isSome hvs.1 levels
    have ih := itemsToJson?_raw_isSome hvs.2 levels
    rw [rawItems, itemsToJson?, itemsNesting, Nat.max_le, ← hv, ← ih]
    cases toJson? levels (raw v) <;> cases itemsToJson? levels (rawItems vs) <;> simp

theorem membersToJson?_raw_isSome : ∀ {ms : List (String × Json)}, MembersFinite ms →
    ∀ levels : Nat, (membersToJson? levels (rawMembers ms)).isSome ↔ membersNesting ms ≤ levels
  | [], _, _ => by simp [rawMembers, membersToJson?, membersNesting]
  | (k, v) :: ms, hms, levels => by
    have hv := toJson?_raw_isSome hms.1 levels
    have ih := membersToJson?_raw_isSome hms.2 levels
    rw [rawMembers, membersToJson?, membersNesting, Nat.max_le, ← hv, ← ih, pieceText?_pieces]
    cases toJson? levels (raw v) <;> cases membersToJson? levels (rawMembers ms) <;> simp

end

end Printed

/-- A file with a value is read if and only if the value does not nest too deep. -/
theorem read?_indented_isSome {v : Json} (hv : v.IsFinite) :
    (read? (v.indented ++ "\n")).isSome ↔ v.nesting ≤ nestingLimit := by
  rw [read?, rawRead?_indented, Option.bind_some]
  exact toJson?_raw_isSome hv nestingLimit

theorem fromUTF8?_toUTF8 (text : String) : String.fromUTF8? text.toUTF8 = some text :=
  dif_pos (c := ByteArray.IsValidUTF8 _) text.isValidUTF8

theorem readBytes?_toUTF8 (text : String) : readBytes? text.toUTF8 = read? text := by
  rw [readBytes?, fromUTF8?_toUTF8, Option.bind_some]

/-! ### Values that are read -/

section Finite

open Raw

mutual

/-- A value that is read at some levels is finite and nests at most as deep. -/
theorem finite_of_toJson? : ∀ {r : Raw} {levels : Nat} {v : Json},
    toJson? levels r = some v → v.IsFinite ∧ v.nesting ≤ levels
  | .null, _, _, h => by
    rw [toJson?] at h
    exact Option.some.inj h ▸ ⟨trivial, Nat.zero_le _⟩
  | .bool b, _, _, h => by
    rw [toJson?] at h
    exact Option.some.inj h ▸ ⟨trivial, Nat.zero_le _⟩
  | .num t, _, _, h => by
    rw [toJson?] at h
    obtain ⟨n, hn, rfl⟩ := Option.map_eq_some_iff.mp h
    exact ⟨NumberText.isFinite_of_toNumber? hn, Nat.zero_le _⟩
  | .str ps, _, _, h => by
    rw [toJson?] at h
    obtain ⟨s, -, rfl⟩ := Option.map_eq_some_iff.mp h
    exact ⟨trivial, Nat.zero_le _⟩
  | .arr items, levels, _, h => by
    rw [toJson?] at h
    by_cases hlevels : levels = 0
    · rw [if_pos hlevels] at h
      cases h
    · rw [if_neg hlevels] at h
      obtain ⟨vs, hvs, rfl⟩ := Option.map_eq_some_iff.mp h
      obtain ⟨hfinite, hnesting⟩ := finite_of_itemsToJson? hvs
      refine ⟨hfinite, ?_⟩
      rw [nesting]
      omega
  | .obj members, levels, _, h => by
    rw [toJson?] at h
    by_cases hlevels : levels = 0
    · rw [if_pos hlevels] at h
      cases h
    · rw [if_neg hlevels] at h
      obtain ⟨ms, hms, rfl⟩ := Option.map_eq_some_iff.mp h
      obtain ⟨hfinite, hnesting⟩ := finite_of_membersToJson? hms
      rw [membersFinite_iff] at hfinite
      rw [membersNesting_le_iff] at hnesting
      have hordered : membersNesting (Members.ofList ms) ≤ levels - 1 :=
        membersNesting_le_iff.mpr fun m hm => hnesting m (Members.mem_of_mem_ofList hm)
      refine ⟨membersFinite_iff.mpr fun m hm => hfinite m (Members.mem_of_mem_ofList hm), ?_⟩
      rw [nesting]
      omega

theorem finite_of_itemsToJson? : ∀ {rs : List Raw} {levels : Nat} {vs : List Json},
    itemsToJson? levels rs = some vs → ItemsFinite vs ∧ itemsNesting vs ≤ levels
  | [], _, _, h => by
    rw [itemsToJson?] at h
    exact Option.some.inj h ▸ ⟨trivial, Nat.zero_le _⟩
  | r :: rs, _, _, h => by
    rw [itemsToJson?] at h
    split at h
    · rename_i hr hrs
      obtain ⟨hfinite, hnesting⟩ := finite_of_toJson? hr
      obtain ⟨hfinites, hnestings⟩ := finite_of_itemsToJson? hrs
      exact Option.some.inj h ▸ ⟨⟨hfinite, hfinites⟩, Nat.max_le.mpr ⟨hnesting, hnestings⟩⟩
    · cases h

theorem finite_of_membersToJson? : ∀ {rs : List (List Piece × Raw)} {levels : Nat}
    {ms : List (String × Json)}, membersToJson? levels rs = some ms →
      MembersFinite ms ∧ membersNesting ms ≤ levels
  | [], _, _, h => by
    rw [membersToJson?] at h
    exact Option.some.inj h ▸ ⟨trivial, Nat.zero_le _⟩
  | (k, r) :: rs, _, _, h => by
    rw [membersToJson?] at h
    split at h
    · rename_i hr hrs
      obtain ⟨hfinite, hnesting⟩ := finite_of_toJson? hr
      obtain ⟨hfinites, hnestings⟩ := finite_of_membersToJson? hrs
      exact Option.some.inj h ▸ ⟨⟨hfinite, hfinites⟩, Nat.max_le.mpr ⟨hnesting, hnestings⟩⟩
    · cases h

end

end Finite

/-- A value that is read is finite and does not nest too deep. -/
theorem finite_of_read? {text : String} {v : Json} (h : read? text = some v) :
    v.IsFinite ∧ v.nesting ≤ nestingLimit := by
  obtain ⟨r, -, hr⟩ := Option.bind_eq_some_iff.mp h
  exact finite_of_toJson? hr

end CrowdTask.Json
