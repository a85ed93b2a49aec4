import CrowdTask.Proofs.Json.Numbers
import Mathlib.Data.Rat.Floor

/-!
# The decimal that a number is printed as

The text of a number is a decimal: digits, a point among them, and a power of ten. An integer is
printed as the decimal that it is, and a binary number as the shortest decimal that reads back. The
power of ten is only written where the first digit of the decimal stands below the fifth place after
the point, or for `10 ^ 16` and more.

## Main definitions

* `CrowdTask.Json.NumberText.value`, `CrowdTask.Json.NumberText.mantissa`: the value of a number as
  it is written, and the number without its power of ten.
* `CrowdTask.Json.Number.printed`: the decimal that a number is printed as.

## Main results

* `CrowdTask.Json.Number.abs_printed_double`: a binary number is printed as its shortest decimal.
* `CrowdTask.Json.Number.exponent_parts_eq_none_iff`: the numbers without a power of ten.
-/

namespace CrowdTask.Json

/-! ### Numbers as they are written -/

namespace NumberText

/-- The power of ten that is written. -/
def power (t : NumberText) : ℤ :=
  match t.exponent with
  | none => 0
  | some (down, ds) => if down then -(digitsValue ds : ℤ) else digitsValue ds

/-- The absolute value of a number as it is written. -/
def magnitude (t : NumberText) : ℚ :=
  digitsValue (t.whole ++ t.fraction) * 10 ^ (t.power - t.fraction.length)

/-- The value of a number as it is written. -/
def value (t : NumberText) : ℚ := if t.negative then -t.magnitude else t.magnitude

/-- A number as it is written, without its power of ten. -/
def mantissa (t : NumberText) : NumberText := { t with exponent := none }

end NumberText

/-- The decimal that a number is printed as. -/
def Number.printed (n : Number) : ℚ := n.written.value

namespace NumberParts

variable {p : NumberParts}

theorem magnitude_numberText (p : NumberParts) (negative : Bool) :
    (p.numberText negative).magnitude =
      p.significand * 10 ^ ((p.numberText negative).power - p.fraction.length) := by
  rw [NumberText.magnitude, significand, ← digitsValue_map, List.map_append]
  simp [numberText]

theorem power_of_exponent_eq_none (hp : p.exponent = none) (negative : Bool) :
    (p.numberText negative).power = 0 := by
  rw [NumberText.power, numberText, hp]
  rfl

/-- The parts of a decimal without a power of ten have the value of the decimal. -/
theorem magnitude_positional (n : Nat) (place : ℤ) (negative : Bool) :
    ((positional (Text.decimal n) place).numberText negative).magnitude =
      n * 10 ^ (place - (Text.decimal n).length) := by
  have hpower : ((positional (Text.decimal n) place).numberText negative).power = 0 :=
    power_of_exponent_eq_none (exponent_positional _ _) negative
  rw [magnitude_numberText, hpower, significand]
  unfold positional
  split_ifs with hsmall hlarge
  · have hlength : (0 : ℤ) - (List.replicate (-place).toNat '0' ++ Text.decimal n).length =
        place - (Text.decimal n).length := by
      rw [List.length_append, List.length_replicate]
      omega
    have hdigits : Nat.ofDigitChars 10
        (['0'] ++ (List.replicate (-place).toNat '0' ++ Text.decimal n)) 0 = n := by
      rw [List.singleton_append, Nat.ofDigitChars_cons, Nat.ofDigitChars_append,
        Nat.ofDigitChars_replicate_zero]
      exact ofDigitChars_decimal n
    rw [hlength, hdigits]
  · obtain ⟨k, hk⟩ := Int.eq_ofNat_of_zero_le (show 0 ≤ place - (Text.decimal n).length by omega)
    have hzeros : place.toNat - (Text.decimal n).length = k := by omega
    have hdigits : Nat.ofDigitChars 10
        (Text.decimal n ++ List.replicate (place.toNat - (Text.decimal n).length) '0' ++ ['0']) 0 =
          n * 10 ^ k * 10 := by
      rw [hzeros, Nat.ofDigitChars_append, Nat.ofDigitChars_append, Nat.ofDigitChars_replicate_zero,
        ofDigitChars_decimal, Nat.ofDigitChars_cons, Nat.ofDigitChars_nil, Nat.mul_comm n,
        Nat.mul_comm _ 10]
      rfl
    have hlength : (0 : ℤ) - ['0'].length = -1 := rfl
    rw [hdigits, hlength, hk, zpow_natCast, zpow_neg_one, Nat.cast_mul, Nat.cast_mul, Nat.cast_pow]
    exact mul_inv_cancel_right₀ (by decide) _
  · have hlength : (0 : ℤ) - ((Text.decimal n).drop place.toNat).length =
        place - (Text.decimal n).length := by
      rw [List.length_drop]
      omega
    rw [List.take_append_drop, ofDigitChars_decimal, hlength]

/-- The parts of a decimal with a power of ten have its value, too. -/
theorem magnitude_scientific (n : Nat) (order : ℤ) (negative : Bool) :
    ((scientific (Text.decimal n) order).numberText negative).magnitude =
      n * 10 ^ (order + 1 - (Text.decimal n).length) := by
  have hpower : ((scientific (Text.decimal n) order).numberText negative).power = order := by
    simp only [scientific, numberText, NumberText.power, Option.map_some, digitsValue_map,
      ofDigitChars_decimal]
    split_ifs with h
    · have := of_decide_eq_true h
      omega
    · have := of_decide_eq_false (Bool.eq_false_iff.mpr h)
      omega
  have hlength : order - ((Text.decimal n).drop 1).length =
      order + 1 - (Text.decimal n).length := by
    have := List.length_pos_iff.mpr (decimal_ne_nil n)
    rw [List.length_drop]
    omega
  rw [magnitude_numberText, hpower, significand, scientific, List.take_append_drop,
    ofDigitChars_decimal, hlength]

theorem magnitude_ofDecimal (l : Decimal.Layout) (d : Decimal) (negative : Bool) :
    ((ofDecimal l d).numberText negative).magnitude = d.value := by
  simp only [ofDecimal]
  split_ifs
  · rw [magnitude_positional, Decimal.value, add_sub_cancel_right]
  · rw [magnitude_scientific, Decimal.value, sub_add_cancel, add_sub_cancel_right]

theorem exponent_ofDecimal_eq_none_iff (l : Decimal.Layout) (d : Decimal) :
    (ofDecimal l d).exponent = none ↔ l.lowest ≤ d.exponent + Decimal.width d.digits - 1 ∧
      d.exponent + Decimal.width d.digits - 1 ≤ l.highest := by
  have hwidth : (Text.decimal d.digits).length = Decimal.width d.digits := rfl
  simp only [ofDecimal]
  split_ifs with horder
  · exact iff_of_true (exponent_positional _ _) horder
  · exact iff_of_false (by simp [scientific]) horder

end NumberParts

/-! ### Truncation -/

/-- The whole part of a number, which lies between the number and zero. -/
def truncated (q : ℚ) : ℤ := if 0 ≤ q then ⌊q⌋ else ⌈q⌉

theorem truncated_neg (q : ℚ) : truncated (-q) = -truncated q := by
  rcases lt_trichotomy q 0 with hneg | rfl | hpos
  · rw [truncated, truncated, if_pos (by linarith), if_neg hneg.not_ge, Int.floor_neg]
  · rfl
  · rw [truncated, truncated, if_neg (by linarith), if_pos hpos.le, Int.ceil_neg]

theorem truncated_intCast (i : ℤ) : truncated i = i := by
  rw [truncated, Int.floor_intCast, Int.ceil_intCast, ite_self]

/-- The whole part of a number without its power of ten is what stands before its point. -/
theorem truncated_mantissa {p : NumberParts} (hp : p.IsValid) (negative : Bool) :
    truncated (p.numberText negative).mantissa.value =
      if negative then -(Nat.ofDigitChars 10 p.whole 0 : ℤ) else Nat.ofDigitChars 10 p.whole 0 := by
  have hparts : (p.numberText negative).mantissa =
      NumberParts.numberText negative ⟨p.whole, p.fraction, none⟩ := rfl
  have hmagnitude : (p.numberText negative).mantissa.magnitude =
      (p.significand : ℚ) / (10 ^ p.fraction.length : ℕ) := by
    rw [hparts, NumberParts.magnitude_numberText, NumberParts.power_of_exponent_eq_none rfl,
      zero_sub, zpow_neg, zpow_natCast, Nat.cast_pow]
    rfl
  have hdiv : p.significand / 10 ^ p.fraction.length = Nat.ofDigitChars 10 p.whole 0 := by
    have hfraction := ofDigitChars_lt hp.fraction
    rw [NumberParts.significand, Nat.ofDigitChars_append, Nat.ofDigitChars_eq_ofDigitChars_zero,
      Nat.mul_add_div (Nat.pow_pos (by decide)), Nat.div_eq_of_lt hfraction, Nat.add_zero]
  have htruncated : truncated (p.numberText negative).mantissa.magnitude =
      (Nat.ofDigitChars 10 p.whole 0 : ℤ) := by
    rw [hmagnitude, truncated, if_pos (by positivity), ← hdiv]
    exact Rat.floor_natCast_div_natCast _ _
  have hsign : (p.numberText negative).mantissa.negative = negative := rfl
  rw [NumberText.value, hsign]
  split_ifs
  · rw [truncated_neg, htruncated]
  · exact htruncated

theorem truncated_eq_zero {q : ℚ} (h : |q| < 1) : truncated q = 0 := by
  obtain ⟨hlower, hupper⟩ := abs_lt.mp h
  rw [truncated]
  split_ifs with hq
  · exact Int.floor_eq_zero_iff.mpr ⟨hq, hupper⟩
  · exact Int.ceil_eq_zero_iff.mpr ⟨hlower, (not_le.mp hq).le⟩

theorem le_abs_truncated {q : ℚ} {n : ℕ} (h : (n : ℚ) ≤ |q|) : (n : ℤ) ≤ |truncated q| := by
  rw [truncated]
  split_ifs with hq
  · rw [abs_of_nonneg hq] at h
    exact (Int.le_floor.mpr h).trans (le_abs_self _)
  · rw [abs_of_neg (not_le.mp hq)] at h
    have hle : ⌈q⌉ ≤ -(n : ℤ) := Int.ceil_le.mpr (by push_cast; linarith)
    exact (le_neg.mp hle).trans (neg_le_abs _)

/-! ### The decimal of a binary number -/

/-- The first digit of a decimal tells its order. -/
theorem Decimal.value_bounds {d : Decimal} (hd : 0 < d.digits) :
    (10 : ℚ) ^ (d.exponent + Decimal.width d.digits - 1) ≤ d.value ∧
      d.value < 10 ^ (d.exponent + Decimal.width d.digits) := by
  have hwidth : 0 < Decimal.width d.digits := Nat.length_toDigits_pos
  have hpow : (0 : ℚ) < 10 ^ d.exponent := zpow_pos (by norm_num) _
  have hlower : (10 : ℚ) ^ (Decimal.width d.digits - 1) ≤ d.digits := by
    exact_mod_cast Decimal.tenPow_width_le hd
  have hupper : (d.digits : ℚ) < 10 ^ Decimal.width d.digits := by
    exact_mod_cast Decimal.lt_tenPow_width d.digits
  have horder : d.exponent + Decimal.width d.digits - 1 =
      ((Decimal.width d.digits - 1 : ℕ) : ℤ) + d.exponent := by omega
  constructor
  · rw [horder, zpow_add₀ (by norm_num), zpow_natCast, Decimal.value]
    exact mul_le_mul_of_nonneg_right hlower hpow.le
  · rw [add_comm d.exponent, zpow_add₀ (by norm_num), zpow_natCast, Decimal.value]
    exact mul_lt_mul_of_pos_right hupper hpow

theorem NumberText.abs_value (t : NumberText) : |t.value| = t.magnitude := by
  have hnonneg : 0 ≤ t.magnitude := by
    rw [NumberText.magnitude]
    positivity
  rw [NumberText.value]
  split_ifs
  · rw [abs_neg, abs_of_nonneg hnonneg]
  · exact abs_of_nonneg hnonneg

namespace Number

theorem printed_int (n : WideInt) : (int n).printed = n.val := by
  have hmagnitude : (int n).written.magnitude = n.val.natAbs := by
    rw [written, NumberParts.magnitude_numberText]
    simp [parts, NumberParts.significand, NumberParts.numberText, NumberText.power,
      NumberParts.ofDigitChars_decimal]
  have hnegative : (int n).written.negative = decide (n.val < 0) := rfl
  rw [printed, NumberText.value, hmagnitude, hnegative, Nat.cast_natAbs]
  split_ifs with h
  · rw [abs_of_neg (of_decide_eq_true h), Int.cast_neg, neg_neg]
  · rw [abs_of_nonneg (by simpa using h)]

/-- A binary number is printed as its shortest decimal. -/
theorem abs_printed_double (x : Binary64) :
    |(double x).printed| =
      if x.magnitude.mantissa = 0 then 0 else (Decimal.shortest x.magnitude).value := by
  rw [printed, NumberText.abs_value, written, parts]
  split_ifs
  · rw [NumberParts.magnitude_numberText]
    simp [NumberParts.significand, Nat.ofDigitChars]
  · exact NumberParts.magnitude_ofDecimal _ _ _

/-- A binary number is printed without a power of ten if it is zero, or between `10 ^ -5` and
`10 ^ 16`. -/
theorem exponent_parts_eq_none_iff (x : Binary64) :
    (double x).parts.exponent = none ↔ (double x).printed = 0 ∨
      (10 : ℚ) ^ (-5 : ℤ) ≤ |(double x).printed| ∧ |(double x).printed| < 10 ^ (16 : ℤ) := by
  rw [← abs_eq_zero, abs_printed_double, parts]
  split_ifs with hzero
  · simp
  generalize hd : Decimal.shortest x.magnitude = d
  rcases (Decimal.shortest_bounds (Nat.pos_of_ne_zero hzero)).1 with hnone | hpos
  · obtain rfl : d = ⟨0, 0⟩ := hd.symm.trans hnone
    exact iff_of_true rfl (Or.inl (by simp [Decimal.value]))
  rw [hd] at hpos
  obtain ⟨hlower, hupper⟩ := Decimal.value_bounds hpos
  have hone : (1 : ℚ) < 10 := by norm_num
  have hvalue : d.value ≠ 0 := ((zpow_pos (by norm_num) _).trans_le hlower).ne'
  have hlow : (10 : ℚ) ^ (-5 : ℤ) ≤ d.value ↔ -5 ≤ d.exponent + Decimal.width d.digits - 1 := by
    refine ⟨fun h => ?_, fun h => (zpow_le_zpow_right₀ hone.le h).trans hlower⟩
    have := (zpow_lt_zpow_iff_right₀ hone).mp (h.trans_lt hupper)
    omega
  have hhigh : d.value < (10 : ℚ) ^ (16 : ℤ) ↔ d.exponent + Decimal.width d.digits - 1 ≤ 15 := by
    refine ⟨fun h => ?_, fun h => hupper.trans_le (zpow_le_zpow_right₀ hone.le (by omega))⟩
    have := (zpow_lt_zpow_iff_right₀ hone).mp (hlower.trans_lt h)
    omega
  rw [or_iff_right hvalue, hlow, hhigh]
  exact NumberParts.exponent_ofDecimal_eq_none_iff numberLayout d

/-- A binary number without a power of ten has a fraction. -/
theorem fraction_parts_ne_nil {x : Binary64} (h : (double x).parts.exponent = none) :
    (double x).parts.fraction ≠ [] := by
  rw [parts] at h ⊢
  split_ifs at h ⊢
  · exact List.cons_ne_nil _ _
  simp only [NumberParts.ofDecimal] at h ⊢
  split_ifs at h ⊢
  · exact NumberParts.fraction_positional_ne_nil (NumberParts.decimal_ne_nil _) _
  · cases h

/-- Before the point of a number with a power of ten stands one digit, which is not zero. -/
theorem whole_parts_of_exponent_ne_none {x : Binary64} (h : (double x).parts.exponent ≠ none) :
    1 ≤ Nat.ofDigitChars 10 (double x).parts.whole 0 ∧
      Nat.ofDigitChars 10 (double x).parts.whole 0 ≤ 9 := by
  rw [parts] at h ⊢
  split_ifs at h ⊢ with hzero
  · exact absurd rfl h
  rcases (Decimal.shortest_bounds (Nat.pos_of_ne_zero hzero)).1 with hnone | hpos
  · rw [hnone] at h
    exact absurd rfl h
  generalize Decimal.shortest x.magnitude = d at h hpos ⊢
  simp only [NumberParts.ofDecimal] at h ⊢
  split_ifs at h ⊢ with horder
  · exact absurd (NumberParts.exponent_positional _ _) h
  · obtain ⟨c, cs, hcs⟩ := List.exists_cons_of_ne_nil (NumberParts.decimal_ne_nil d.digits)
    have hdigit : c.isDigit = true := isDigit_of_mem_decimal c (by rw [hcs]; exact .head _)
    have hhead : c ≠ '0' := fun hc => head_decimal_ne hpos (by rw [hcs, hc]; rfl)
    have hvalue : Nat.ofDigitChars 10 [c] 0 = digitOf c := by
      rw [Nat.ofDigitChars_cons, Nat.ofDigitChars_nil, Nat.mul_zero, Nat.zero_add]
      rfl
    have hlt := digitOf_lt hdigit
    have hne : digitOf c ≠ 0 := fun hc => hhead (eq_zero_of_digitOf hdigit hc)
    have hwhole : (NumberParts.scientific (Text.decimal d.digits)
        (d.exponent + (Text.decimal d.digits).length - 1)).whole = [c] := by
      rw [NumberParts.scientific, hcs]
      rfl
    rw [hwhole, hvalue]
    omega

end Number

end CrowdTask.Json
