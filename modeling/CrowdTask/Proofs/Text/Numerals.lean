import CrowdTask.Text.Numeral
import Mathlib.Data.List.Induction
import Mathlib.Tactic.Common

/-!
# Numerals

A numeral of a base up to sixteen is a run of digits, of which each counts for a part of the one
before it. Where a number is read that may have a plus sign, the numerals and the numerals after a
plus sign are read, and nothing else is.

## Main definitions

* `CrowdTask.Text.IsDigit`, `CrowdTask.Text.IsNumeral`: the digits and the numerals of a base, with
  their values.

## Main results

* `CrowdTask.Text.ofDigits?_eq_some_iff_isNumeral`: the numerals of a base are read.
* `CrowdTask.Text.unsigned?_eq_some_iff_isNumeral`: and those after a plus sign.
-/

namespace CrowdTask.Text

/-- Whether a character is the digit `d` of a base, as a small or as a capital letter. -/
def IsDigit (base : Nat) (c : Char) (d : Nat) : Prop :=
  d < base ∧ (c = d.digitChar ∨ c = d.digitChar.toUpper)

/-- Whether a text is a numeral of a base with the value `n`: one digit or more. -/
inductive IsNumeral (base : Nat) : List Char → Nat → Prop where
  | digit {c : Char} {d : Nat} (hc : IsDigit base c d) : IsNumeral base [c] d
  | snoc {ds : List Char} {n : Nat} {c : Char} {d : Nat} (hds : IsNumeral base ds n)
      (hc : IsDigit base c d) : IsNumeral base (ds ++ [c]) (n * base + d)

variable {base limit n d : Nat} {c : Char} {cs ds : List Char}

/-! ### Digits -/

/-- Digits have small code points. -/
theorem toNat_lt_of_digitValue? (h : digitValue? c = some d) : c.toNat < 128 := by
  have hle : ∀ {a : Char}, a.toNat < 128 → c ≤ a → c.toNat < 128 := fun ha hca =>
    Nat.lt_of_le_of_lt (UInt32.le_iff_toNat_le.mp (Char.le_def.mp hca)) ha
  unfold digitValue? at h
  split_ifs at h with hdigit hsmall hcapital
  · exact hle (by decide) hdigit.2
  · exact hle (by decide) hsmall.2
  · exact hle (by decide) hcapital.2

theorem digitValue?_eq_some_iff : digitValue? c = some d ↔ IsDigit 16 c d := by
  constructor
  · intro h
    have hall : ∀ m < 128, ∀ v ∈ digitValue? (Char.ofNat m),
        v < 16 ∧ (Char.ofNat m = v.digitChar ∨ Char.ofNat m = v.digitChar.toUpper) := by
      decide +kernel
    have hc := hall c.toNat (toNat_lt_of_digitValue? h) d
    rw [Char.ofNat_toNat] at hc
    exact hc h
  · rintro ⟨hd, hc⟩
    have hall : ∀ v < 16, digitValue? v.digitChar = some v ∧
        digitValue? v.digitChar.toUpper = some v := by
      decide
    rcases hc with rfl | rfl
    · exact (hall d hd).1
    · exact (hall d hd).2

theorem digitIn?_eq_some_iff (hbase : base ≤ 16) : digitIn? base c = some d ↔ IsDigit base c d := by
  rw [digitIn?, Option.filter_eq_some_iff, digitValue?_eq_some_iff, decide_eq_true_iff, IsDigit,
    IsDigit]
  exact ⟨fun h => ⟨h.2, h.1.2⟩, fun h => ⟨⟨Nat.lt_of_lt_of_le h.1 hbase, h.2⟩, h.1⟩⟩

/-! ### Numerals -/

theorem ofDigitsFrom?_append (ds cs : List Char) :
    ofDigitsFrom? base n (ds ++ cs) =
      (ofDigitsFrom? base n ds).bind fun m => ofDigitsFrom? base m cs := by
  induction ds generalizing n with
  | nil => rfl
  | cons c ds ih =>
    rw [List.cons_append, ofDigitsFrom?, ofDigitsFrom?, Option.bind_assoc]
    exact congrArg _ (funext fun d => ih)

/-- The numerals of a base are read. -/
theorem ofDigits?_eq_some_iff_isNumeral (hbase : base ≤ 16) :
    ofDigits? base cs = some n ↔ IsNumeral base cs n := by
  constructor
  · induction cs using List.reverseRecOn generalizing n with
    | nil => exact nofun
    | append_singleton ds c ih =>
      intro h
      have hne : (ds ++ [c]).isEmpty = false := by simp
      rw [ofDigits?, hne, if_neg Bool.false_ne_true, ofDigitsFrom?_append] at h
      obtain ⟨m, hm, h⟩ := Option.bind_eq_some_iff.mp h
      obtain ⟨d, hd, h⟩ := Option.bind_eq_some_iff.mp h
      obtain rfl := Option.some.inj h
      have hc := (digitIn?_eq_some_iff hbase).mp hd
      rcases ds with _ | ⟨a, ds⟩
      · obtain rfl := Option.some.inj hm
        rw [Nat.zero_mul, Nat.zero_add]
        exact .digit hc
      · exact .snoc (ih hm) hc
  · intro h
    induction h with
    | @digit c d hc =>
      rw [ofDigits?, List.isEmpty_cons, if_neg Bool.false_ne_true, ofDigitsFrom?,
        (digitIn?_eq_some_iff hbase).mpr hc, Option.bind_some, Nat.zero_mul, Nat.zero_add]
      rfl
    | @snoc ds n c d hds hc ih =>
      have hne : (ds ++ [c]).isEmpty = false := by simp
      have hvalue : ofDigitsFrom? base 0 ds = some n := by
        rw [ofDigits?] at ih
        split_ifs at ih
        exact ih
      rw [ofDigits?, hne, if_neg Bool.false_ne_true, ofDigitsFrom?_append, hvalue, Option.bind_some,
        ofDigitsFrom?, (digitIn?_eq_some_iff hbase).mpr hc]
      rfl

/-- What no digit is does not occur in a numeral. -/
theorem IsNumeral.notMem (h : IsNumeral base cs n) (hbase : base ≤ 16)
    (hc : digitValue? c = none) : c ∉ cs := by
  have hdigit {a : Char} {d : Nat} (ha : IsDigit base a d) : c ≠ a := by
    rintro rfl
    rw [digitValue?_eq_some_iff.mpr ⟨Nat.lt_of_lt_of_le ha.1 hbase, ha.2⟩] at hc
    cases hc
  induction h with
  | digit ha => exact fun hmem => hdigit ha (List.mem_singleton.mp hmem)
  | snoc hds ha ih =>
    intro hmem
    rcases List.mem_append.mp hmem with hmem | hmem
    · exact ih hmem
    · exact hdigit ha (List.mem_singleton.mp hmem)

/-- The numerals of a base are read, with and without a plus sign. -/
theorem unsigned?_eq_some_iff_isNumeral (hbase : base ≤ 16) :
    unsigned? base limit cs = some n ↔
      n < limit ∧ ∃ ds, (cs = ds ∨ cs = '+' :: ds) ∧ IsNumeral base ds n := by
  rw [unsigned?, Option.filter_eq_some_iff, decide_eq_true_iff, and_comm,
    ofDigits?_eq_some_iff_isNumeral hbase, dropPlus.eq_def]
  refine and_congr_right fun _ => ⟨fun h => ?_, ?_⟩
  · split at h
    · exact ⟨_, Or.inr rfl, h⟩
    · exact ⟨_, Or.inl rfl, h⟩
  · rintro ⟨ds, rfl | rfl, h⟩
    · split
      · exact absurd (List.mem_cons_self ..) (h.notMem hbase (c := '+') rfl)
      · exact h
    · exact h

end CrowdTask.Text
