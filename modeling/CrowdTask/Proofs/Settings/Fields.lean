import CrowdTask.Proofs.Duration.Terms
import CrowdTask.Proofs.Json.Digits
import CrowdTask.Proofs.Text.Words
import CrowdTask.Settings.Draft

/-!
# What the fields of settings mean

A field of a settings file is given as a text, as a number or as another JSON value, or it is left
out. For each kind of field it is said here which values are given for it in which form, without
reference to the order in which a check looks at them, and each check is shown to find exactly these
values.

## Main definitions

* `CrowdTask.Text.IsUnsigned`: the numerals without a minus sign, with their values.
* `CrowdTask.SettingsDraft.IsText`, `CrowdTask.SettingsDraft.IsHeight`,
  `CrowdTask.SettingsDraft.IsReward`, `CrowdTask.SettingsDraft.IsSpan`: what is given for a text, a
  height, a reward and a span.
* `CrowdTask.SettingsDraft.IsPercentage`, `CrowdTask.SettingsDraft.IsApproval`: what is given for a
  percentage, and the percentage that is asked for, if any.

## Main results

* `CrowdTask.Text.unsigned?_eq_some_iff`: the numerals that are read.
* `CrowdTask.SettingsDraft.nonBlankText_eq_ok_iff`, `CrowdTask.SettingsDraft.checkedUrl_eq_ok_iff`,
  `CrowdTask.SettingsDraft.requiredValue_eq_ok_iff`,
  `CrowdTask.SettingsDraft.checkedQualifications_eq_ok_iff`: what the checks find.
-/

namespace CrowdTask

/-! ### Numerals -/

namespace Text

variable {cs ds : List Char} {n limit : Nat}

/-- Whether a text is a decimal numeral, optionally after a plus sign, of the given value. -/
inductive IsUnsigned : List Char → Nat → Prop where
  | digits {ds : List Char} (h : Duration.IsNumeral ds) :
      IsUnsigned ds (Nat.ofDigitChars 10 ds 0)
  | plus {ds : List Char} (h : Duration.IsNumeral ds) :
      IsUnsigned ('+' :: ds) (Nat.ofDigitChars 10 ds 0)

theorem ofDigits?_eq_some_iff :
    ofDigits? 10 cs = some n ↔ Duration.IsNumeral cs ∧ Nat.ofDigitChars 10 cs 0 = n := by
  rw [ofDigits?]
  split_ifs with hempty
  · exact iff_of_false (fun h => by cases h) fun h => h.1.1 (List.isEmpty_iff.mp hempty)
  · have hne : cs ≠ [] := fun h => hempty (List.isEmpty_iff.mpr h)
    rw [Json.ofDigitsFrom?_eq_some_iff, Duration.IsNumeral, and_iff_right hne]

theorem dropPlus_of_isNumeral (h : Duration.IsNumeral ds) : dropPlus ds = ds := by
  unfold dropPlus
  split
  · cases h.2 '+' (.head _)
  · rfl

/-- The numerals that are read are those whose value is below the limit. -/
theorem unsigned?_eq_some_iff : unsigned? 10 limit cs = some n ↔ IsUnsigned cs n ∧ n < limit := by
  rw [unsigned?, Option.filter_eq_some_iff, ofDigits?_eq_some_iff, decide_eq_true_iff]
  refine and_congr_left fun _ => ⟨?_, ?_⟩
  · rintro ⟨hdigits, rfl⟩
    unfold dropPlus at hdigits ⊢
    split at hdigits
    · exact .plus hdigits
    · exact .digits hdigits
  · rintro (h | h)
    · rw [dropPlus_of_isNumeral h]
      exact ⟨h, rfl⟩
    · exact ⟨h, rfl⟩

/-- The numerals of a type whose values are the numbers below the limit. -/
theorem map_unsigned?_eq_some_iff {α : Type} {ofNat : Nat → α} {toNat : α → Nat}
    (hlt : ∀ a, toNat a < limit) (hofNat : ∀ a, ofNat (toNat a) = a)
    (htoNat : ∀ m, m < limit → toNat (ofNat m) = m) {a : α} :
    (unsigned? 10 limit cs).map ofNat = some a ↔ IsUnsigned cs (toNat a) := by
  rw [Option.map_eq_some_iff]
  constructor
  · rintro ⟨m, hm, rfl⟩
    obtain ⟨hm, hfits⟩ := unsigned?_eq_some_iff.mp hm
    rwa [htoNat m hfits]
  · exact fun h => ⟨toNat a, unsigned?_eq_some_iff.mpr ⟨h, hlt a⟩, hofNat a⟩

/-- A numeral ends with a digit. -/
theorem IsUnsigned.exists_append (h : IsUnsigned cs n) :
    ∃ ds c, cs = ds ++ [c] ∧ c.isDigit = true := by
  rcases h with ⟨hne, hdigits⟩ | @⟨ds, hne, hdigits⟩
  · exact ⟨_, _, (List.dropLast_append_getLast hne).symm, hdigits _ (List.getLast_mem hne)⟩
  · refine ⟨'+' :: ds.dropLast, ds.getLast hne, ?_, hdigits _ (List.getLast_mem hne)⟩
    rw [List.cons_append, List.dropLast_append_getLast hne]

end Text

/-! ### Integers of a fixed width -/

theorem WideInt.toUInt64?_eq_some_iff {i : WideInt} {n : UInt64} :
    i.toUInt64? = some n ↔ i.val = n.toNat := by
  have hlt : i.val.toNat < UInt64.size := by have := i.upper; change _ < 18446744073709551616; omega
  rw [toUInt64?]
  split_ifs with h
  · rw [Option.some.injEq, ← UInt64.toNat_inj, UInt64.toNat_ofNat_of_lt' hlt]
    omega
  · exact iff_of_false nofun (by omega)

theorem WideInt.toUInt32?_eq_some_iff {i : WideInt} {n : UInt32} :
    i.toUInt32? = some n ↔ i.val = n.toNat := by
  have hn := n.toNat_lt
  rw [toUInt32?]
  split_ifs with h
  · have hlt : i.val.toNat < UInt32.size := by change _ < 4294967296; omega
    rw [Option.some.injEq, ← UInt32.toNat_inj, UInt32.toNat_ofNat_of_lt' hlt]
    omega
  · exact iff_of_false nofun (by omega)

theorem Text.unsigned64?_eq_some_iff {cs : List Char} {n : UInt64} :
    (Text.unsigned64? cs).map UInt64.ofNat = some n ↔ Text.IsUnsigned cs n.toNat :=
  map_unsigned?_eq_some_iff UInt64.toNat_lt (fun _ => UInt64.ofNat_toNat)
    fun _ => UInt64.toNat_ofNat_of_lt'

theorem Text.unsigned32?_eq_some_iff {cs : List Char} {n : UInt32} :
    (Text.unsigned32? cs).map UInt32.ofNat = some n ↔ Text.IsUnsigned cs n.toNat :=
  map_unsigned?_eq_some_iff UInt32.toNat_lt (fun _ => UInt32.ofNat_toNat)
    fun _ => UInt32.toNat_ofNat_of_lt'

namespace SettingsDraft

open Json

/-! ### Texts and addresses -/

section Texts

variable {field s : String} {value : Option String}

/-- Whether a field holds the given text, which must not be blank. -/
def IsText (value : Option String) (s : String) : Prop :=
  value = some s ∧ Text.isBlankText s = false

theorem nonBlankText_eq_ok_iff : nonBlankText field value = .ok s ↔ IsText value s := by
  rw [nonBlankText]
  split
  · next t ht =>
    obtain ⟨rfl, ht⟩ := Option.filter_eq_some_iff.mp ht
    have ht : Text.isBlankText t = false := by simpa using ht
    constructor
    · rintro ⟨⟩
      exact ⟨rfl, ht⟩
    · rintro ⟨⟨⟩, -⟩
      rfl
  · next hnone =>
    refine iff_of_false nofun ?_
    rintro ⟨rfl, hs⟩
    simp [Option.filter_some, hs] at hnone

/-- The text must begin like a secure address. -/
theorem checkedUrl_eq_ok_iff :
    checkedUrl value = .ok s ↔ IsText value s ∧ secureScheme <+: s.toList := by
  rw [checkedUrl, Duration.bind_eq_ok]
  constructor
  · rintro ⟨t, ht, h⟩
    split_ifs at h with hscheme
    obtain rfl := Except.ok.inj h
    exact ⟨nonBlankText_eq_ok_iff.mp ht, List.isPrefixOf_iff_prefix.mp hscheme⟩
  · rintro ⟨htext, hscheme⟩
    exact ⟨s, nonBlankText_eq_ok_iff.mpr htext, if_pos (List.isPrefixOf_iff_prefix.mpr hscheme)⟩

end Texts

/-! ### Numbers, rewards and spans -/

section Values

variable {α : Type} {field : String} {value : Option Json} {v : Json}

theorem requiredValue_eq_ok_iff {read : Json → Option α} {fault : Json → SettingsFault} {a : α} :
    requiredValue field value read fault = .ok a ↔ ∃ v, value = some v ∧ read v = some a := by
  rcases value with _ | v
  · exact iff_of_false nofun nofun
  · rw [requiredValue]
    rcases hread : read v with _ | b
    · exact iff_of_false nofun fun ⟨_, hv, ha⟩ => by cases hv; rw [hread] at ha; cases ha
    · exact ⟨fun h => ⟨v, rfl, by rw [hread, Except.ok.inj h]⟩,
        fun ⟨_, hv, ha⟩ => by cases hv; rw [hread] at ha; cases ha; rfl⟩

/-- Whether a value gives the number `n` of pixels, as a whole number or as a numeral with blanks
around it. -/
inductive IsHeight : Json → UInt32 → Prop where
  | number {i : WideInt} {n : UInt32} (h : i.val = n.toNat) : IsHeight (.num (.int i)) n
  | numeral {s : String} {n : UInt32} (h : Text.IsUnsigned (Text.trim s.toList) n.toNat) :
      IsHeight (.str s) n

theorem height?_eq_some_iff {n : UInt32} : height? v = some n ↔ IsHeight v n := by
  constructor
  · intro h
    unfold height? at h
    split at h
    · exact .number (WideInt.toUInt32?_eq_some_iff.mp h)
    · exact .numeral (Text.unsigned32?_eq_some_iff.mp h)
    · cases h
  · rintro (h | h)
    · exact WideInt.toUInt32?_eq_some_iff.mpr h
    · exact Text.unsigned32?_eq_some_iff.mpr h

/-- Whether a value gives a reward: as a text, or as a number that is taken for its text. -/
inductive IsReward : Json → Reward → Prop where
  | number {x : Number} {r : Reward} (h : Reward.parse (shown (.num x)) = .ok r) :
      IsReward (.num x) r
  | text {s : String} {r : Reward} (h : Reward.parse s = .ok r) : IsReward (.str s) r

theorem toOption_eq_some_iff {ε : Type} {x : Except ε α} {a : α} :
    x.toOption = some a ↔ x = .ok a := by
  rcases x with e | b
  · exact iff_of_false nofun nofun
  · exact ⟨fun h => congrArg Except.ok (Option.some.inj h),
      fun h => congrArg some (Except.ok.inj h)⟩

theorem reward?_eq_some_iff {r : Reward} : reward? v = some r ↔ IsReward v r := by
  constructor
  · intro h
    unfold reward? at h
    split at h
    · exact .number (toOption_eq_some_iff.mp h)
    · exact .text (toOption_eq_some_iff.mp h)
    · cases h
  · rintro (h | h)
    · exact toOption_eq_some_iff.mpr h
    · exact toOption_eq_some_iff.mpr h

/-- Whether a value gives a span of `n` seconds, as a positive whole number or as a phrase. -/
inductive IsSpan : Json → UInt64 → Prop where
  | number {i : WideInt} {n : UInt64} (h : i.val = n.toNat) (hpos : 1 ≤ n.toNat) :
      IsSpan (.num (.int i)) n
  | phrase {s : String} {n : UInt64} (h : Duration.parse s = .ok n) : IsSpan (.str s) n

theorem seconds?_eq_some_iff {n : UInt64} : seconds? v = some n ↔ IsSpan v n := by
  constructor
  · intro h
    unfold seconds? at h
    split at h
    · next x =>
      obtain ⟨h, hpos⟩ := Option.filter_eq_some_iff.mp h
      rcases x with i | x
      · exact .number (WideInt.toUInt64?_eq_some_iff.mp h)
          (UInt64.lt_iff_toNat_lt.mp (of_decide_eq_true hpos))
      · cases h
    · exact .phrase (toOption_eq_some_iff.mp h)
    · cases h
  · rintro (⟨h, hpos⟩ | h)
    · exact Option.filter_eq_some_iff.mpr
        ⟨WideInt.toUInt64?_eq_some_iff.mpr h, decide_eq_true (UInt64.lt_iff_toNat_lt.mpr hpos)⟩
    · exact toOption_eq_some_iff.mpr h

/-- A span is at least a second. -/
theorem IsSpan.pos {n : UInt64} (h : IsSpan v n) : 1 ≤ n.toNat := by
  cases h with
  | number _ hpos => exact hpos
  | phrase h => exact Duration.pos_of_parse h

end Values

/-! ### Demands on workers -/

/-- Whether a value gives a percentage: as a whole number, or as a numeral that percent signs may
follow, with blanks around it. -/
inductive IsPercentage : Json → Nat → Prop where
  | number {i : WideInt} {n : Nat} (h : i.val = n) : IsPercentage (.num (.int i)) n
  | numeral {s : String} {n : Nat} {ds : List Char} (signs : Nat) (h : Text.IsUnsigned ds n)
      (hs : Text.trim s.toList = ds ++ List.replicate signs '%') : IsPercentage (.str s) n

/-- What a draft asks for as the percentage of approved work: nothing if the field is left out, null
or blank, and otherwise a percentage up to one hundred. -/
inductive IsApproval : Option Json → Option UInt8 → Prop where
  | absent : IsApproval none none
  | null : IsApproval (some .null) none
  | blank {s : String} (h : Text.isBlankText s = true) : IsApproval (some (.str s)) none
  | given {v : Json} {p : UInt8} (h : IsPercentage v p.toNat) (hle : p.toNat ≤ 100) :
      IsApproval (some v) (some p)

theorem IsApproval.le {given : Option Json} {p : UInt8} (h : IsApproval given (some p)) :
    p.toNat ≤ 100 := by
  cases h with
  | given _ hle => exact hle

section Demands

variable {v : Json}

/-- Percent signs after a numeral are taken off, and nothing else. -/
theorem isUnsigned_dropEndWhile_iff {cs : List Char} {n : Nat} :
    Text.IsUnsigned (Text.dropEndWhile (· = '%') cs) n ↔
      ∃ ds signs, Text.IsUnsigned ds n ∧ cs = ds ++ List.replicate signs '%' := by
  constructor
  · intro h
    have hsigns : ∀ c ∈ cs.reverse.takeWhile (· = '%'), c = '%' := fun c hc =>
      of_decide_eq_true (List.mem_takeWhile_imp (p := (· = '%')) hc)
    refine ⟨_, (cs.reverse.takeWhile (· = '%')).length, h, ?_⟩
    rw [← List.reverse_replicate, ← List.eq_replicate_of_mem hsigns, Text.dropEndWhile,
      ← List.reverse_append, List.takeWhile_append_dropWhile, List.reverse_reverse]
  · rintro ⟨ds, signs, h, rfl⟩
    -- the last digit is no percent sign, so nothing but the signs is dropped
    obtain ⟨start, c, rfl, hc⟩ := h.exists_append
    have hdrop : Text.dropEndWhile (· = '%') ((start ++ [c]) ++ List.replicate signs '%') =
        start ++ [c] := by
      rw [Text.dropEndWhile, List.reverse_append, List.dropWhile_append_of_pos, List.reverse_concat,
        List.dropWhile_cons_of_neg, ← List.reverse_concat, List.reverse_reverse]
      · rw [decide_eq_true_iff]
        rintro rfl
        cases hc
      · simp
    rwa [hdrop]

theorem percentage?_eq_some_iff {p : UInt64} : percentage? v = some p ↔ IsPercentage v p.toNat := by
  constructor
  · intro h
    unfold percentage? at h
    split at h
    · next x =>
      rcases x with i | x
      · exact .number (WideInt.toUInt64?_eq_some_iff.mp h)
      · cases h
    · obtain ⟨ds, signs, hds, hs⟩ :=
        isUnsigned_dropEndWhile_iff.mp (Text.unsigned64?_eq_some_iff.mp h)
      exact .numeral signs hds hs
    · cases h
  · rintro (h | ⟨signs, h, hs⟩)
    · exact WideInt.toUInt64?_eq_some_iff.mpr h
    · exact Text.unsigned64?_eq_some_iff.mpr (isUnsigned_dropEndWhile_iff.mpr ⟨_, signs, h, hs⟩)

/-- What gives a percentage does not count as left out. -/
theorem IsPercentage.isAbsentApproval {n : Nat} (h : IsPercentage v n) :
    isAbsentApproval (some v) = false := by
  rcases h with h | ⟨signs, h, hs⟩
  · rfl
  · obtain ⟨start, c, rfl, -⟩ := h.exists_append
    by_contra hblank
    have hall := List.all_eq_true.mp (Bool.eq_true_of_not_eq_false hblank)
    rw [Text.trim_eq_nil_iff.mpr hall] at hs
    simp at hs

/-- Up to one hundred, a percentage is taken over as it is. -/
theorem bind_percentage?_eq_some_iff {base a : Qualifications} :
    (percentage? v).bind (fun p => (base.withApproval p).toOption) = some a ↔
      ∃ p : UInt8, IsPercentage v p.toNat ∧ p.toNat ≤ 100 ∧
        a = { base with approval := some p } := by
  rw [Option.bind_eq_some_iff]
  constructor
  · rintro ⟨p, hp, ha⟩
    rw [Qualifications.withApproval] at ha
    split_ifs at ha with hle
    · cases ha
      have hle : p.toNat ≤ 100 := UInt64.le_iff_toNat_le.mp hle
      have hbyte : p.toUInt8.toNat = p.toNat := by
        rw [UInt64.toNat_toUInt8]
        omega
      refine ⟨p.toUInt8, ?_, hbyte ▸ hle, rfl⟩
      rw [hbyte]
      exact percentage?_eq_some_iff.mp hp
    · cases ha
  · rintro ⟨p, hp, hle, rfl⟩
    refine ⟨p.toUInt64, percentage?_eq_some_iff.mpr ?_, ?_⟩
    · rwa [UInt8.toNat_toUInt64]
    · have hword : p.toUInt64 ≤ 100 := by
        rw [UInt64.le_iff_toNat_le, UInt8.toNat_toUInt64]
        exact hle
      rw [Qualifications.withApproval, if_pos hword, UInt8.toUInt8_toUInt64]
      rfl

/-- Nothing is asked for if the field is left out, null or blank. -/
theorem isApproval_none_iff {given : Option Json} :
    IsApproval given none ↔ isAbsentApproval given = true := by
  constructor
  · rintro (_ | _ | h)
    · rfl
    · rfl
    · exact h
  · intro h
    unfold isAbsentApproval at h
    split at h
    · exact .absent
    · exact .null
    · exact .blank h
    · cases h

/-- The demands that are found: the name of the country, and the percentage. -/
theorem checkedQualifications_eq_ok_iff {q : QualificationsDraft} {a : Qualifications} :
    checkedQualifications q = .ok a ↔
      a.country = q.location.bind Qualifications.countryName? ∧
        IsApproval q.approval a.approval := by
  obtain ⟨location, given⟩ := q
  obtain ⟨country, approval⟩ := a
  have hbase : (location.map Qualifications.none.withCountry).getD .none =
      ⟨location.bind Qualifications.countryName?, none⟩ := by
    cases location <;> rfl
  rw [checkedQualifications, hbase]
  dsimp only
  split_ifs with habsent
  · rw [Except.ok.injEq, Qualifications.mk.injEq, eq_comm (a := country)]
    refine and_congr_right fun _ => ⟨?_, fun h => ?_⟩
    · rintro rfl
      exact isApproval_none_iff.mpr habsent
    · rcases h with _ | _ | _ | ⟨h, -⟩
      · rfl
      · rfl
      · rfl
      · rw [h.isAbsentApproval] at habsent
        cases habsent
  · rcases given with _ | v
    · exact absurd rfl habsent
    · rw [Option.bind_some]
      constructor
      · intro h
        split at h
        · next checked hchecked =>
          obtain rfl := Except.ok.inj h
          obtain ⟨p, hp, hle, h⟩ := bind_percentage?_eq_some_iff.mp hchecked
          cases h
          exact ⟨rfl, .given hp hle⟩
        · cases h
      · rintro ⟨rfl, h⟩
        rcases approval with _ | p
        · exact absurd (isApproval_none_iff.mp h) habsent
        · cases h with
          | given hp hle =>
            rw [bind_percentage?_eq_some_iff.mpr ⟨p, hp, hle, rfl⟩]

end Demands

end SettingsDraft

end CrowdTask
