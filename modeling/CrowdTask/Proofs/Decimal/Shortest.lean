import CrowdTask.Decimal.Shortest
import CrowdTask.Proofs.Decimal.Rounding

/-!
# The size of shortest decimals

The shortest decimal of a binary number lies within the interval of the decimals that round to it,
so that it exceeds the number by at most half a unit of its last binary digit; and it has at most
seventeen digits.

## Main definitions

* `CrowdTask.Decimal.value`: the value of a decimal.

## Main results

* `CrowdTask.Decimal.shortest_bounds`: the digits and the value of a shortest decimal.
-/

namespace CrowdTask

namespace Decimal

/-- The value of a decimal. -/
def value (d : Decimal) : ℚ := d.digits * 10 ^ d.exponent

/-! ### The number of digits -/

theorem lt_tenPow_width (n : Nat) : n < 10 ^ width n :=
  (Nat.length_toDigits_le_iff (by decide) Nat.length_toDigits_pos).mp le_rfl

theorem tenPow_width_le {n : Nat} (hn : 0 < n) : 10 ^ (width n - 1) ≤ n := by
  by_contra hlt
  have hpos : 0 < width n := Nat.length_toDigits_pos
  rcases Nat.eq_zero_or_pos (width n - 1) with hzero | hlong
  · rw [hzero] at hlt
    omega
  · have hle : width n ≤ width n - 1 :=
      (Nat.length_toDigits_le_iff (by decide) hlong).mpr (Nat.not_le.mp hlt)
    omega

/-- A positive ratio lies below the power of ten of its leading place. -/
theorem lt_leadingPlace {num den : Nat} (hden : 0 < den) :
    (num : ℚ) / den < 10 ^ leadingPlace num den := by
  have hd : (0 : ℚ) < den := by exact_mod_cast hden
  unfold leadingPlace
  split_ifs with h
  · rw [div_lt_iff₀ hd, zpow_natCast]
    have hlt : num < 10 ^ width (num / den) * den :=
      (Nat.div_lt_iff_lt_mul hden).mp (lt_tenPow_width _)
    exact_mod_cast hlt
  · set q := (den - 1) / num with hq
    have hmul : num * 10 ^ (width q - 1) < den := by
      have hle : q * num ≤ den - 1 := Nat.div_mul_le_self _ _
      rcases Nat.eq_zero_or_pos q with hzero | hpos
      · rw [hzero]
        simpa [width] using Nat.not_le.mp h
      · have hpow := Nat.mul_le_mul_left num (tenPow_width_le hpos)
        rw [Nat.mul_comm num q] at hpow
        omega
    have hpos : 0 < width q := Nat.length_toDigits_pos
    have hexp : (1 : ℤ) - width q = -((width q - 1 : Nat) : ℤ) := by omega
    rw [hexp, zpow_neg, zpow_natCast, div_lt_iff₀ hd, ← div_eq_inv_mul, lt_div_iff₀ (by positivity)]
    exact_mod_cast hmul

/-! ### The decimals that round to a number -/

namespace Span

variable {s : Span} {e : ℤ} {n : Nat}

theorem onGrid?_eq_some (h : s.onGrid? e = some n) :
    n ≤ s.value * Nat.pow 10 (-e).toNat / (s.den * Nat.pow 10 e.toNat) + 1 ∧
      s.holds (n * Nat.pow 10 e.toNat) (Nat.pow 10 (-e).toNat) = true := by
  simp only [onGrid?] at h
  set floor := s.value * Nat.pow 10 (-e).toNat / (s.den * Nat.pow 10 e.toNat)
  split_ifs at h with hboth hround hbelow habove
  · obtain rfl := Option.some.inj h
    exact ⟨by omega, (Bool.and_eq_true_iff.mp hboth).1⟩
  · obtain rfl := Option.some.inj h
    exact ⟨le_rfl, (Bool.and_eq_true_iff.mp hboth).2⟩
  · obtain rfl := Option.some.inj h
    exact ⟨by omega, hbelow⟩
  · obtain rfl := Option.some.inj h
    exact ⟨le_rfl, habove⟩

theorem holds_imp {n d : Nat} (h : s.holds n d = true) :
    s.low * d ≤ n * s.den ∧ n * s.den ≤ s.high * d := by
  simp only [holds] at h
  split_ifs at h
  · exact ⟨of_decide_eq_true (Bool.and_eq_true_iff.mp h).1,
      of_decide_eq_true (Bool.and_eq_true_iff.mp h).2⟩
  · exact ⟨(of_decide_eq_true (Bool.and_eq_true_iff.mp h).1).le,
      (of_decide_eq_true (Bool.and_eq_true_iff.mp h).2).le⟩

/-- The decimals of a grid that are considered are positive and lie in the interval. -/
theorem onGrid?_bounds (hden : 0 < s.den) (hlow : 0 < s.low) (h : s.onGrid? e = some n) :
    0 < n ∧ (n : ℚ) * 10 ^ e ≤ s.high / s.den := by
  obtain ⟨hlower, hupper⟩ := holds_imp (onGrid?_eq_some h).2
  have hdown : 0 < Nat.pow 10 (-e).toNat := Nat.pow_pos (by decide)
  constructor
  · by_contra hzero
    obtain rfl : n = 0 := by omega
    have hpos := Nat.mul_pos hlow hdown
    omega
  · have hd : (0 : ℚ) < s.den := by exact_mod_cast hden
    have hpow : (0 : ℚ) < 10 ^ (-e).toNat := by positivity
    rw [← zpow_toNat_div, mul_div_assoc', div_le_div_iff₀ hpow hd]
    exact_mod_cast hupper

theorem onGrid?_lt {place : ℤ} {j : Nat} (hden : 0 < s.den)
    (hplace : (s.value : ℚ) / s.den < 10 ^ place) (h : s.onGrid? (place - j) = some n) :
    n ≤ 10 ^ j := by
  have hle := (onGrid?_eq_some h).1
  have hup : 0 < s.den * Nat.pow 10 (place - j).toNat := Nat.mul_pos hden (Nat.pow_pos (by decide))
  have hfloor : s.value * Nat.pow 10 (-(place - j)).toNat / (s.den * Nat.pow 10 (place - j).toNat) <
      10 ^ j := by
    rw [Nat.div_lt_iff_lt_mul hup]
    have hd : (0 : ℚ) < s.den := by exact_mod_cast hden
    have hdown : (0 : ℚ) < 10 ^ (-(place - j : ℤ)).toNat := by positivity
    have hpow : (10 : ℚ) ^ place =
        10 ^ j * (10 ^ (place - j : ℤ).toNat / 10 ^ (-(place - j : ℤ)).toNat) := by
      rw [zpow_toNat_div, ← zpow_natCast, ← zpow_add₀ (by norm_num)]
      congr 1
      ring
    rw [hpow, mul_div_assoc', div_lt_div_iff₀ hd hdown] at hplace
    have hcast : s.value * Nat.pow 10 (-(place - j : ℤ)).toNat <
        10 ^ j * Nat.pow 10 (place - j : ℤ).toNat * s.den := by
      exact_mod_cast hplace
    rwa [Nat.mul_comm s.den, ← Nat.mul_assoc]
  omega

theorem search_eq_some {place : ℤ} {d : Decimal} : ∀ {fuel k : Nat},
    s.search place fuel k = some d →
    ∃ j, j < k + fuel ∧ s.onGrid? (place - j) = some d.digits ∧ d.exponent = place - j
  | 0, _, h => nomatch h
  | fuel + 1, k, h => by
    rw [search] at h
    split at h
    · next n hn =>
      obtain rfl := Option.some.inj h
      exact ⟨k, by omega, hn, rfl⟩
    · obtain ⟨j, hj, hgrid⟩ := search_eq_some h
      exact ⟨j, by omega, hgrid⟩

variable {x : Dyadic}

theorem den_of_pos (x : Dyadic) : 0 < (Span.of x).den := Nat.mul_pos (by decide) x.den_pos

theorem low_of_pos (hx : 0 < x.mantissa) : 0 < (Span.of x).low := by
  have hhalf : 0 < Nat.pow 2 x.exponent.toNat := Nat.pow_pos (by decide)
  have hnum : Nat.pow 2 x.exponent.toNat ≤ x.num := Nat.le_mul_of_pos_left _ hx
  simp only [Span.of]
  split_ifs <;> omega

theorem value_div_of (x : Dyadic) : ((Span.of x).value : ℚ) / (Span.of x).den = x.num / x.den := by
  simp only [Span.of, Nat.cast_mul, Nat.cast_ofNat]
  exact mul_div_mul_left _ _ (by norm_num)

/-- The upper end of the interval lies half a unit of the last binary digit above the number. -/
theorem high_div_of (x : Dyadic) :
    ((Span.of x).high : ℚ) / (Span.of x).den = x.value + 2 ^ x.exponent / 2 := by
  have hd : (x.den : ℚ) ≠ 0 := by exact_mod_cast x.den_pos.ne'
  have hden : (x.den : ℚ) = 2 ^ (-x.exponent).toNat := by
    rw [Dyadic.den, Nat.pow_eq, Nat.cast_pow, Nat.cast_ofNat]
  rw [← zpow_toNat_div, ← hden, ← Dyadic.num_div_den]
  simp only [Span.of, Nat.pow_eq, Nat.cast_add, Nat.cast_mul, Nat.cast_pow, Nat.cast_ofNat]
  field_simp
  ring

end Span

/-! ### Trailing zeros -/

theorem value_dropZeros : ∀ (n : Nat) (d : Decimal), (dropZeros n d).value = d.value
  | 0, _ => rfl
  | n + 1, d => by
    rw [dropZeros]
    split_ifs with h
    · rw [value_dropZeros]
      have hdigits : d.digits = d.digits / 10 * 10 := by omega
      simp only [value]
      rw [zpow_add_one₀ (by norm_num)]
      conv_rhs => rw [hdigits]
      push_cast
      ring
    · rfl

theorem digits_dropZeros_le : ∀ (n : Nat) (d : Decimal), (dropZeros n d).digits ≤ d.digits
  | 0, _ => le_rfl
  | n + 1, d => by
    rw [dropZeros]
    split_ifs
    · exact (digits_dropZeros_le n _).trans (Nat.div_le_self _ _)
    · exact le_rfl

theorem digits_dropZeros_pos : ∀ (n : Nat) {d : Decimal}, 0 < d.digits → 0 < (dropZeros n d).digits
  | 0, _, h => h
  | n + 1, d, h => by
    rw [dropZeros]
    split_ifs
    · refine digits_dropZeros_pos n ?_
      dsimp only
      omega
    · exact h

/-! ### The shortest decimal -/

/-- The shortest decimal has at most seventeen digits, and exceeds the number by at most half a unit
of its last binary digit. -/
theorem shortest_bounds {x : Dyadic} (hx : 0 < x.mantissa) :
    (shortest x = ⟨0, 0⟩ ∨ 0 < (shortest x).digits) ∧ (shortest x).digits ≤ 10 ^ 17 ∧
      (shortest x).value ≤ x.value + 2 ^ x.exponent / 2 := by
  simp only [shortest]
  cases hsearch : (Span.of x).search (leadingPlace x.num x.den) 17 1 with
  | none =>
    refine ⟨Or.inl rfl, by decide, ?_⟩
    have hzero : (dropZeros 17 ⟨0, 0⟩).value = 0 := by
      rw [value_dropZeros]
      simp [value]
    have hnonneg := x.value_nonneg
    rw [Option.getD_none, hzero]
    positivity
  | some d =>
    obtain ⟨j, hj, hgrid, hexp⟩ := Span.search_eq_some hsearch
    obtain ⟨hpos, hle⟩ := Span.onGrid?_bounds (Span.den_of_pos x) (Span.low_of_pos hx) hgrid
    have hplace : ((Span.of x).value : ℚ) / (Span.of x).den < 10 ^ leadingPlace x.num x.den := by
      rw [Span.value_div_of]
      exact lt_leadingPlace x.den_pos
    have hdigits : d.digits ≤ 10 ^ 17 :=
      (Span.onGrid?_lt (Span.den_of_pos x) hplace hgrid).trans
        (Nat.pow_le_pow_right (by decide) (by omega))
    rw [Option.getD_some]
    refine ⟨Or.inr (digits_dropZeros_pos 17 hpos), (digits_dropZeros_le 17 d).trans hdigits, ?_⟩
    rw [value_dropZeros, value, hexp, ← Span.high_div_of]
    exact hle

end Decimal

end CrowdTask
