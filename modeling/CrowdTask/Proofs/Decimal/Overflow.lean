import CrowdTask.Proofs.Decimal.Rounding

/-!
# Integers that are too large

Of an integer that does not fit 64 bits as many leading digits are read as do, and the number that
they form is scaled by a power of ten. The leading digits, the power, and their product are each
rounded to a binary number. Only with twenty leading digits of an integer of 309 digits does it
depend on these roundings whether the product is too large. All in all the integers that are too
large are those from some integer on.

## Main definitions

* `CrowdTask.Json.tooLarge`: the least integer that is too large.

## Main results

* `CrowdTask.Json.scaled?_isSome_iff_lt`: an integer is read if it is less.
-/

namespace CrowdTask.Json

open Binary64

/-- The least integer that is too large for the reader. -/
def tooLarge : Nat := 17976931348623156225 * 10 ^ 289

/-- The middle between the largest number and the power of two that follows it, as an integer. -/
def overflowInteger : Nat := (2 ^ 54 - 1) * 2 ^ 970

theorem overflow_eq : overflow = overflowInteger := by
  rw [overflow, overflowInteger, Nat.cast_mul, Nat.cast_pow, ← zpow_natCast]
  norm_num

theorem tenPow_le {j k : Nat} (h : j ≤ k) : 10 ^ j ≤ 10 ^ k := Nat.pow_le_pow_right (by decide) h

theorem tenPow_succ (k : Nat) : 10 ^ (k + 1) = 10 * 10 ^ k := Nat.pow_succ'

/-- Where the middle lies: beyond the largest power of ten that is scaled by, and between the
products of leading digits and a power that stay on one side of it in all roundings. -/
theorem overflowInteger_bounds : 10 ^ 308 < overflowInteger ∧
    2 ^ 63 * 10 ^ 289 * (2 ^ 53 + 1) ^ 2 < overflowInteger * 2 ^ 106 ∧
    overflowInteger * 2 ^ 106 ≤ 1844674407370955161 * 10 ^ 290 * (2 ^ 53 - 1) ^ 2 := by
  decide +kernel

theorem natCast_lt_overflow {n : Nat} (h : n ≤ 10 ^ 308) : (n : ℚ) < overflow := by
  rw [overflow_eq]
  exact Nat.cast_lt.mpr (Nat.lt_of_le_of_lt h overflowInteger_bounds.1)

theorem le_tenPow_of_lt {s : Nat} (hsize : s < 2 ^ 64) : s ≤ 10 ^ 308 :=
  calc s ≤ 10 ^ 20 := by omega
    _ ≤ 10 ^ 308 := tenPow_le (by decide)

/-! ### Bounds for products -/

/-- Leading digits and a power have a nearest number if they are small enough for all roundings. -/
theorem scaled?_isSome_of_le {s e : Nat} (h : s * 10 ^ e ≤ 2 ^ 63 * 10 ^ 289) :
    (scaled? s e).isSome := by
  have hsquare : ((1 : ℚ) + 1 / 2 ^ 53) ^ 2 = (2 ^ 53 + 1) ^ 2 / 2 ^ 106 := by norm_num
  have hroom := overflowInteger_bounds.2.1
  refine scaled?_isSome ?_
  rw [hsquare, ← mul_div_assoc, div_lt_iff₀ (by norm_num), overflow_eq]
  exact_mod_cast (Nat.mul_le_mul_right _ h).trans_lt hroom

/-- Leading digits and a power are too large if their product stays beyond the middle between the
largest number and the power of two that follows it when both are rounded down. -/
theorem scaled?_eq_none {s e : Nat} (hs : 0 < s) (hsize : s < 2 ^ 64)
    (h : overflow ≤ s * 10 ^ e * (1 - 1 / 2 ^ 53) ^ 2) : scaled? s e = none := by
  have hleading : (s : ℚ) * (1 - 1 / 2 ^ 53) ≤ (dyadicOfBits ((nearest? s 1).getD 0)).value :=
    le_value_nearest?_natCast (natCast_lt_overflow (le_tenPow_of_lt hsize))
  have hs' : (0 : ℚ) < s := by exact_mod_cast hs
  rcases Nat.lt_or_ge 308 e with he | he
  · have hne : (nearest? s 1).getD 0 ≠ 0 := by
      intro hzero
      rw [hzero, value_dyadicOfBits_zero] at hleading
      exact absurd hleading (not_le.mpr (mul_pos hs' (by norm_num)))
    simp only [scaled?]
    rw [if_pos (by omega), if_neg hne]
  · have hpower : (10 : ℚ) ^ e * (1 - 1 / 2 ^ 53) ≤ (dyadicOfBits (powerOfTen e)).value := by
      have hle := le_value_nearest?_natCast (natCast_lt_overflow (tenPow_le he))
      rwa [Nat.cast_pow, Nat.cast_ofNat] at hle
    rw [scaled?_natCast he, ← Option.not_isSome_iff_eq_none, timesMagnitude?_isSome_iff, not_lt]
    refine h.trans ?_
    calc (s : ℚ) * 10 ^ e * (1 - 1 / 2 ^ 53) ^ 2
        = (s * (1 - 1 / 2 ^ 53)) * (10 ^ e * (1 - 1 / 2 ^ 53)) := by ring
      _ ≤ _ := mul_le_mul hleading hpower (mul_nonneg (by positivity) (by norm_num))
          (Dyadic.value_nonneg _)

/-- With 290 or more digits after those that fit 64 bits an integer is too large. -/
theorem scaled?_eq_none_of_le {s e : Nat} (hs : 1844674407370955161 ≤ s) (hsize : s < 2 ^ 64)
    (he : 290 ≤ e) : scaled? s e = none := by
  refine scaled?_eq_none (by omega) hsize ?_
  have hsquare : ((1 : ℚ) - 1 / 2 ^ 53) ^ 2 = (2 ^ 53 - 1 : Nat) ^ 2 / 2 ^ 106 := by norm_num
  rw [hsquare, ← mul_div_assoc, le_div_iff₀ (by positivity), overflow_eq]
  have hle : overflowInteger * 2 ^ 106 ≤ s * 10 ^ e * (2 ^ 53 - 1) ^ 2 :=
    calc overflowInteger * 2 ^ 106
        ≤ 1844674407370955161 * 10 ^ 290 * (2 ^ 53 - 1) ^ 2 := overflowInteger_bounds.2.2
      _ ≤ s * 10 ^ e * (2 ^ 53 - 1) ^ 2 :=
        Nat.mul_le_mul_right _ (Nat.mul_le_mul hs (tenPow_le he))
  exact_mod_cast hle

/-! ### Twenty leading digits of 309 -/

theorem dyadicOfBits_powerOfTen : dyadicOfBits (powerOfTen 289) = ⟨4621297602213964, 908⟩ := by
  decide +kernel

theorem unitExponent_of_le {s : Nat} (hs : 2 ^ 63 ≤ s) (hsize : s < 2 ^ 64) :
    unitExponent s 1 = 11 := by
  have hpos : 0 < s := by omega
  have hs' : (2 : ℚ) ^ 63 ≤ (s : ℚ) / (1 : Nat) := by
    rw [Nat.cast_one, div_one]
    exact_mod_cast hs
  have hsize' : (s : ℚ) / (1 : Nat) < 2 ^ 53 * 2 ^ (11 : ℤ) := by
    rw [Nat.cast_one, div_one]
    refine lt_of_lt_of_eq (b := (2 : ℚ) ^ 64) (by exact_mod_cast hsize) (by norm_num)
  have hle := unitExponent_le hpos Nat.one_pos (by norm_num) hsize'
  refine le_antisymm hle (not_lt.mp fun hlt => ?_)
  have hratio := hs'.trans_lt (unitExponent_lt hpos Nat.one_pos)
  have hpow : (2 : ℚ) ^ unitExponent s 1 ≤ 2 ^ (10 : ℤ) :=
    zpow_le_zpow_right₀ one_le_two (by omega)
  norm_num at hratio hpow
  linarith

/-- Twenty leading digits, followed by 289 others, are read up to the largest binary number. -/
theorem scaled?_289_isSome_iff {s : Nat} (hsize : s < 2 ^ 64) :
    (scaled? s (289 : Nat)).isSome ↔ s < 17976931348623156225 := by
  rcases Nat.lt_or_ge s (2 ^ 63) with hsmall | hs
  · have hle := Nat.mul_le_mul_right (10 ^ 289) hsmall.le
    exact iff_of_true (scaled?_isSome_of_le hle) (by omega)
  have hpos : 0 < s := by omega
  have hmantissa : unitMantissa s 1 = roundHalfEven s 2048 := by
    rw [unitMantissa, unitExponent_of_le hs hsize]
    change roundHalfEven (s * 1) 2048 = _
    rw [Nat.mul_one]
  have hleading : (dyadicOfBits ((nearest? s 1).getD 0)).value = roundHalfEven s 2048 * 2 ^ 11 := by
    have hsome : (nearest? s 1).isSome := by
      refine nearest?_isSome Nat.one_pos ?_
      rw [Nat.cast_one, div_one]
      exact natCast_lt_overflow (le_tenPow_of_lt hsize)
    obtain ⟨bits, hbits⟩ := Option.isSome_iff_exists.mp hsome
    have hvalue := value_nearest? hpos Nat.one_pos (tiny_le_natCast hpos) hbits
    rw [hmantissa, unitExponent_of_le hs hsize] at hvalue
    rw [hbits]
    exact_mod_cast hvalue
  have hproduct : (roundHalfEven s 2048 : ℚ) * 2 ^ 11 * (4621297602213964 * 2 ^ (908 : ℤ)) <
      overflow ↔ roundHalfEven s 2048 * 4621297602213964 < 18014398509481983 * 2 ^ 51 := by
    have hunit : (0 : ℚ) < 2 ^ (919 : ℤ) := zpow_pos two_pos _
    have hleft : (roundHalfEven s 2048 : ℚ) * 2 ^ 11 * (4621297602213964 * 2 ^ (908 : ℤ)) =
        roundHalfEven s 2048 * 4621297602213964 * 2 ^ (919 : ℤ) := by
      rw [show (919 : ℤ) = 11 + 908 from rfl, zpow_add₀ two_ne_zero]
      generalize (2 : ℚ) ^ (908 : ℤ) = unit
      norm_num
      ring
    have hright : overflow = 18014398509481983 * 2 ^ 51 * 2 ^ (919 : ℤ) := by
      rw [overflow, show (970 : ℤ) = 51 + 919 from rfl, zpow_add₀ two_ne_zero, ← mul_assoc]
      norm_num
    rw [hleft, hright, mul_lt_mul_iff_left₀ hunit]
    exact_mod_cast Iff.rfl
  have hround : roundHalfEven s 2048 ≤ 8777798510069900 ↔ s < 17976931348623156225 := by
    rw [← not_lt, lt_roundHalfEven_iff (by decide)]
    omega
  rw [scaled?_natCast (by decide), timesMagnitude?_isSome_iff, hleading, dyadicOfBits_powerOfTen,
    Dyadic.value, ← hround]
  refine hproduct.trans ?_
  omega

/-- What is read of an integer that does not fit 64 bits has a nearest number if the integer is not
too large. -/
theorem scaled?_isSome_iff_lt {s e n : Nat} (hs : 1844674407370955161 ≤ s) (hsize : s < 2 ^ 64)
    (hlow : s * 10 ^ e ≤ n) (hhigh : n < (s + 1) * 10 ^ e) :
    (scaled? s e).isSome ↔ n < tooLarge := by
  rcases lt_trichotomy e 289 with hlt | rfl | hgt
  · have he : (s + 1) * 10 ^ e ≤ 2 ^ 64 * 10 ^ 288 := Nat.mul_le_mul hsize (tenPow_le (by omega))
    have hle : s * 10 ^ e ≤ 2 ^ 63 * 10 ^ 289 :=
      calc s * 10 ^ e ≤ (s + 1) * 10 ^ e := Nat.mul_le_mul_right _ (Nat.le_succ s)
        _ ≤ 2 ^ 64 * 10 ^ 288 := he
        _ ≤ 2 ^ 63 * 10 * 10 ^ 288 := Nat.mul_le_mul_right _ (by decide)
        _ = 2 ^ 63 * 10 ^ 289 := by rw [Nat.mul_assoc, ← tenPow_succ]
    refine iff_of_true (scaled?_isSome_of_le hle) (hhigh.trans_le ?_)
    calc (s + 1) * 10 ^ e ≤ 2 ^ 64 * 10 ^ 288 := he
      _ ≤ 17976931348623156225 * 10 * 10 ^ 288 := Nat.mul_le_mul_right _ (by decide)
      _ = tooLarge := by rw [Nat.mul_assoc, ← tenPow_succ, tooLarge]
  · rw [scaled?_289_isSome_iff hsize, tooLarge]
    constructor
    · intro h
      exact hhigh.trans_le (Nat.mul_le_mul_right _ h)
    · intro h
      exact Nat.lt_of_mul_lt_mul_right (hlow.trans_lt h)
  · have he : 290 ≤ e := by omega
    rw [scaled?_eq_none_of_le hs hsize he]
    refine iff_of_false nofun (Nat.not_lt.mpr (le_trans ?_ hlow))
    calc tooLarge ≤ 1844674407370955161 * 10 * 10 ^ 289 := Nat.mul_le_mul_right _ (by decide)
      _ = 1844674407370955161 * 10 ^ 290 := by rw [Nat.mul_assoc, ← tenPow_succ]
      _ ≤ s * 10 ^ e := Nat.mul_le_mul hs (tenPow_le he)

end CrowdTask.Json
