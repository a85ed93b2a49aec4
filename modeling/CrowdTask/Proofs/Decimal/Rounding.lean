import CrowdTask.Json.Number
import Mathlib.Algebra.Order.Field.Power
import Mathlib.Algebra.Order.Field.Rat
import Mathlib.Tactic.FieldSimp
import Mathlib.Tactic.Linarith
import Mathlib.Tactic.NormNum
import Mathlib.Tactic.Positivity
import Mathlib.Tactic.Ring

/-!
# Rounding to binary numbers

The binary number nearest to a ratio is found by bringing the ratio to the exponent at which its
quotient has 53 binary digits, and rounding the quotient. So the relative error is at most one half
of the last of these digits, and the only ratios that have no nearest number lie beyond the middle
between the largest number and the power of two that follows it.

## Main definitions

* `CrowdTask.Dyadic.value`: the value of a dyadic.

## Main results

* `CrowdTask.Binary64.unitExponent_lt`, `CrowdTask.Binary64.le_unitExponent`: the exponent of the
  last digit.
* `CrowdTask.Binary64.nearest?_isSome_iff`: the ratios that have a nearest number.
* `CrowdTask.Binary64.value_nearest?_le`, `CrowdTask.Binary64.le_value_nearest?`: how far the
  nearest number lies from a ratio.
* `CrowdTask.Json.scaled?_isSome`: the products with powers of ten that have a nearest number.
-/

namespace CrowdTask

/-- The value of a dyadic. -/
def Dyadic.value (x : Dyadic) : ℚ := x.mantissa * 2 ^ x.exponent

theorem zpow_toNat_div (b : ℚ) (q : ℤ) : b ^ q.toNat / b ^ (-q).toNat = b ^ q := by
  rcases le_total 0 q with h | h
  · have hneg : (-q).toNat = 0 := by omega
    rw [hneg, pow_zero, div_one, ← zpow_natCast, Int.toNat_of_nonneg h]
  · have hpos : q.toNat = 0 := by omega
    rw [hpos, pow_zero, ← zpow_natCast, Int.toNat_of_nonneg (by omega), one_div, ← zpow_neg,
      neg_neg]

namespace Dyadic

theorem value_nonneg (x : Dyadic) : 0 ≤ x.value := by
  unfold value
  positivity

theorem den_pos (x : Dyadic) : 0 < x.den := Nat.pow_pos Nat.two_pos

theorem num_div_den (x : Dyadic) : (x.num : ℚ) / x.den = x.value := by
  have h := zpow_toNat_div 2 x.exponent
  simp only [num, den, value, Nat.pow_eq, Nat.cast_mul, Nat.cast_pow, Nat.cast_ofNat]
  rw [← h, mul_div_assoc]

end Dyadic

namespace Binary64

/-! ### Rounding to integers -/

section Round

variable {n d k : Nat}

/-- What lies beyond the middle between `k` and `k + 1` is rounded up, and so is the middle itself
if `k` is odd. -/
theorem lt_roundHalfEven_iff (hd : 0 < d) :
    k < roundHalfEven n d ↔ d * (2 * k + 1) < 2 * n ∨ d * (2 * k + 1) = 2 * n ∧ k % 2 = 1 := by
  have hn : d * (n / d) + n % d = n := Nat.div_add_mod n d
  have hr : n % d < d := Nat.mod_lt n hd
  have hmiddle : d * (2 * k + 1) = 2 * (d * k) + d := by ring
  have hbetween : n / d ≤ roundHalfEven n d ∧ roundHalfEven n d ≤ n / d + 1 := by
    simp only [roundHalfEven]
    split_ifs <;> omega
  rcases lt_trichotomy k (n / d) with hlt | rfl | hgt
  · have hmul : d * (k + 1) ≤ d * (n / d) := Nat.mul_le_mul_left d hlt
    rw [Nat.mul_succ] at hmul
    exact iff_of_true (by omega) (Or.inl (by omega))
  · simp only [roundHalfEven]
    split_ifs <;> omega
  · have hmul : d * (n / d + 1) ≤ d * k := Nat.mul_le_mul_left d hgt
    rw [Nat.mul_succ] at hmul
    exact iff_of_false (by omega) (by omega)

theorem roundHalfEven_le (hd : 0 < d) (h : 2 * n < d * (2 * k + 1)) : roundHalfEven n d ≤ k := by
  refine Nat.not_lt.mp (mt (lt_roundHalfEven_iff hd).mp ?_)
  omega

theorem roundHalfEven_le_of_lt (hd : 0 < d) (h : n < d * k) : roundHalfEven n d ≤ k := by
  refine roundHalfEven_le hd ?_
  have : d * (2 * k + 1) = 2 * (d * k) + d := by ring
  omega

theorem le_roundHalfEven (hd : 0 < d) (h : d * k ≤ n) : k ≤ roundHalfEven n d := by
  have hk : k ≤ n / d := (Nat.le_div_iff_mul_le hd).mpr (by rwa [Nat.mul_comm])
  simp only [roundHalfEven]
  split_ifs <;> omega

theorem two_mul_roundHalfEven_le (n d : Nat) : 2 * (d * roundHalfEven n d) ≤ 2 * n + d := by
  have hn : d * (n / d) + n % d = n := Nat.div_add_mod n d
  simp only [roundHalfEven]
  split_ifs with hdown
  · omega
  · rw [Nat.mul_add]
    omega

theorem le_two_mul_roundHalfEven (hd : 0 < d) : 2 * n ≤ 2 * (d * roundHalfEven n d) + d := by
  have hn : d * (n / d) + n % d = n := Nat.div_add_mod n d
  have hr : n % d < d := Nat.mod_lt n hd
  simp only [roundHalfEven]
  split_ifs with hdown
  · omega
  · rw [Nat.mul_add]
    omega

end Round

/-! ### The exponent of the last digit -/

section UnitExponent

variable {num den : Nat}

/-- The quotient of a ratio at an exponent. -/
theorem scaled_div_scaled (num den : Nat) (q : ℤ) :
    ((num * Nat.pow 2 (-q).toNat : Nat) : ℚ) / (den * Nat.pow 2 q.toNat : Nat) =
      num / den / 2 ^ q := by
  have h := zpow_toNat_div 2 q
  simp only [Nat.pow_eq, Nat.cast_mul, Nat.cast_pow, Nat.cast_ofNat]
  rw [← h, div_div_div_eq, mul_div_mul_comm]

theorem scaled_pos (hden : 0 < den) (q : ℤ) : 0 < den * Nat.pow 2 q.toNat :=
  Nat.mul_pos hden (Nat.pow_pos Nat.two_pos)

theorem lt_scaled_iff (hden : 0 < den) (q : ℤ) (k : Nat) :
    num * Nat.pow 2 (-q).toNat < den * Nat.pow 2 q.toNat * k ↔ (num : ℚ) / den < k * 2 ^ q := by
  have hpos : (0 : ℚ) < (den * Nat.pow 2 q.toNat : Nat) := by
    exact_mod_cast scaled_pos hden q
  rw [← div_lt_iff₀ (zpow_pos two_pos q), ← scaled_div_scaled, div_lt_iff₀ hpos, mul_comm (k : ℚ)]
  exact_mod_cast Iff.rfl

/-- The powers of two around a ratio. -/
theorem log2_bounds (hnum : 0 < num) (hden : 0 < den) :
    (2 : ℚ) ^ ((num.log2 : ℤ) - den.log2 - 1) ≤ num / den ∧
      (num : ℚ) / den < 2 ^ ((num.log2 : ℤ) - den.log2 + 1) := by
  have hd : (0 : ℚ) < den := by exact_mod_cast hden
  have hn₁ : (2 : ℚ) ^ (num.log2 : ℤ) ≤ num := by
    rw [zpow_natCast]
    exact_mod_cast Nat.log2_self_le hnum.ne'
  have hn₂ : (num : ℚ) < 2 ^ ((num.log2 : ℤ) + 1) := by
    rw [← Nat.cast_succ, zpow_natCast]
    exact_mod_cast Nat.lt_log2_self
  have hd₁ : (2 : ℚ) ^ (den.log2 : ℤ) ≤ den := by
    rw [zpow_natCast]
    exact_mod_cast Nat.log2_self_le hden.ne'
  have hd₂ : (den : ℚ) < 2 ^ ((den.log2 : ℤ) + 1) := by
    rw [← Nat.cast_succ, zpow_natCast]
    exact_mod_cast Nat.lt_log2_self
  constructor
  · rw [le_div_iff₀ hd]
    calc (2 : ℚ) ^ ((num.log2 : ℤ) - den.log2 - 1) * den
        ≤ 2 ^ ((num.log2 : ℤ) - den.log2 - 1) * 2 ^ ((den.log2 : ℤ) + 1) := by gcongr
      _ = 2 ^ (num.log2 : ℤ) := by
        rw [← zpow_add₀ two_ne_zero]
        congr 1
        ring
      _ ≤ num := hn₁
  · rw [div_lt_iff₀ hd]
    calc (num : ℚ) < 2 ^ ((num.log2 : ℤ) + 1) := hn₂
      _ = 2 ^ ((num.log2 : ℤ) - den.log2 + 1) * 2 ^ (den.log2 : ℤ) := by
        rw [← zpow_add₀ two_ne_zero]
        congr 1
        ring
      _ ≤ 2 ^ ((num.log2 : ℤ) - den.log2 + 1) * den := by gcongr

/-- At its exponent a ratio has a quotient of at most 53 binary digits. -/
theorem unitExponent_lt (hnum : 0 < num) (hden : 0 < den) :
    (num : ℚ) / den < 2 ^ 53 * 2 ^ unitExponent num den := by
  obtain ⟨-, hhigh⟩ := log2_bounds hnum hden
  set q : ℤ := (num.log2 : ℤ) - den.log2 - 53 with hq
  set unit : ℤ := if num * Nat.pow 2 (-q).toNat < den * Nat.pow 2 q.toNat * (2 * fractionSize)
    then q else q + 1 with hunit
  have hle : (2 : ℚ) ^ unit ≤ 2 ^ unitExponent num den :=
    zpow_le_zpow_right₀ one_le_two (le_max_right _ _)
  refine lt_of_lt_of_le ?_ (mul_le_mul_of_nonneg_left hle (by positivity))
  by_cases h : num * Nat.pow 2 (-q).toNat < den * Nat.pow 2 q.toNat * (2 * fractionSize)
  · rw [hunit, if_pos h]
    have h' := (lt_scaled_iff hden q (2 * fractionSize)).mp h
    norm_num [fractionSize] at h'
    norm_num
    exact h'
  · rw [hunit, if_neg h]
    calc (num : ℚ) / den < 2 ^ ((num.log2 : ℤ) - den.log2 + 1) := hhigh
      _ = 2 ^ (53 : ℤ) * 2 ^ (q + 1) := by
        rw [← zpow_add₀ two_ne_zero]
        congr 1
        rw [hq]
        ring
      _ = 2 ^ 53 * 2 ^ (q + 1) := by norm_cast

/-- At its exponent a ratio has a quotient of at least 53 binary digits, unless that is the least
exponent. -/
theorem le_of_lt_unitExponent (hnum : 0 < num) (hden : 0 < den)
    (h : -1074 < unitExponent num den) :
    2 ^ 52 * 2 ^ unitExponent num den ≤ (num : ℚ) / den := by
  obtain ⟨hlow, -⟩ := log2_bounds hnum hden
  set q : ℤ := (num.log2 : ℤ) - den.log2 - 53 with hq
  set unit : ℤ := if num * Nat.pow 2 (-q).toNat < den * Nat.pow 2 q.toNat * (2 * fractionSize)
    then q else q + 1 with hunit
  have hexp : unitExponent num den = max (-1074) unit := rfl
  have hpow (e : ℤ) : (2 : ℚ) ^ 52 * 2 ^ e = 2 ^ (52 + e) := by
    rw [zpow_add₀ two_ne_zero]
    norm_cast
  rw [hexp] at h
  rw [hpow, hexp, max_eq_right ((lt_max_iff.mp h).resolve_left (lt_irrefl _)).le]
  by_cases hlt : num * Nat.pow 2 (-q).toNat < den * Nat.pow 2 q.toNat * (2 * fractionSize)
  · rw [hunit, if_pos hlt]
    exact le_of_eq_of_le (by congr 1; rw [hq]; ring) hlow
  · rw [hunit, if_neg hlt]
    have hge := not_lt.mp (mt (lt_scaled_iff hden q (2 * fractionSize)).mpr hlt)
    refine le_of_eq_of_le ?_ hge
    rw [show 52 + (q + 1) = 53 + q by ring, zpow_add₀ two_ne_zero]
    norm_num [fractionSize]

theorem neg_le_unitExponent (num den : Nat) : -1074 ≤ unitExponent num den := le_max_left _ _

theorem le_unitExponent (hnum : 0 < num) (hden : 0 < den) (h : (2 : ℚ) ^ (-1022 : ℤ) ≤ num / den) :
    2 ^ 52 * 2 ^ unitExponent num den ≤ (num : ℚ) / den := by
  rcases (neg_le_unitExponent num den).lt_or_eq with hlt | heq
  · exact le_of_lt_unitExponent hnum hden hlt
  · refine le_of_eq_of_le ?_ h
    rw [← heq, ← zpow_natCast, ← zpow_add₀ two_ne_zero]
    norm_num

theorem unitExponent_le {k : ℤ} (hnum : 0 < num) (hden : 0 < den) (hk : -1074 ≤ k)
    (h : (num : ℚ) / den < 2 ^ 53 * 2 ^ k) : unitExponent num den ≤ k := by
  by_contra hlt
  have hle := le_of_lt_unitExponent hnum hden (by omega)
  have hpow : (2 : ℚ) ^ (k + 1) ≤ 2 ^ unitExponent num den :=
    zpow_le_zpow_right₀ one_le_two (by omega)
  rw [zpow_add_one₀ two_ne_zero] at hpow
  linarith

end UnitExponent

/-! ### The nearest number -/

section Nearest

variable {num den : Nat}

/-- The integer to which the quotient of a ratio at its exponent is rounded. -/
def unitMantissa (num den : Nat) : Nat :=
  roundHalfEven (num * Nat.pow 2 (-unitExponent num den).toNat)
    (den * Nat.pow 2 (unitExponent num den).toNat)

theorem unitMantissa_le (hnum : 0 < num) (hden : 0 < den) :
    unitMantissa num den ≤ 2 * fractionSize := by
  refine roundHalfEven_le_of_lt (scaled_pos hden _) ((lt_scaled_iff hden _ _).mpr ?_)
  refine lt_of_lt_of_eq (unitExponent_lt hnum hden) ?_
  norm_num [fractionSize]

theorem fractionSize_le_unitMantissa (hden : 0 < den)
    (h : 2 ^ 52 * 2 ^ unitExponent num den ≤ (num : ℚ) / den) :
    fractionSize ≤ unitMantissa num den := by
  refine le_roundHalfEven (scaled_pos hden _)
    (Nat.not_lt.mp (mt (lt_scaled_iff hden _ fractionSize).mp ?_))
  rw [not_lt]
  refine le_of_eq_of_le ?_ h
  norm_num [fractionSize]

theorem unitMantissa_le_add (hden : 0 < den) :
    (unitMantissa num den : ℚ) ≤ num / den / 2 ^ unitExponent num den + 1 / 2 := by
  set q := unitExponent num den with hq
  have hpos : (0 : ℚ) < (den * Nat.pow 2 q.toNat : Nat) := by
    exact_mod_cast scaled_pos hden q
  rw [← scaled_div_scaled, div_add' _ _ _ hpos.ne', le_div_iff₀ hpos]
  have hle : (2 * (((den * Nat.pow 2 q.toNat : Nat) : ℚ) * (unitMantissa num den : Nat))) ≤
      2 * ((num * Nat.pow 2 (-q).toNat : Nat) : ℚ) + (den * Nat.pow 2 q.toNat : Nat) := by
    exact_mod_cast two_mul_roundHalfEven_le _ _
  linarith

theorem le_unitMantissa_add (hden : 0 < den) :
    (num : ℚ) / den / 2 ^ unitExponent num den ≤ unitMantissa num den + 1 / 2 := by
  set q := unitExponent num den with hq
  have hscale := scaled_pos hden q
  have hpos : (0 : ℚ) < (den * Nat.pow 2 q.toNat : Nat) := by exact_mod_cast hscale
  rw [← scaled_div_scaled, div_le_iff₀ hpos]
  have hle : 2 * ((num * Nat.pow 2 (-q).toNat : Nat) : ℚ) ≤
      2 * (((den * Nat.pow 2 q.toNat : Nat) : ℚ) * (unitMantissa num den : Nat)) +
        (den * Nat.pow 2 q.toNat : Nat) := by
    exact_mod_cast le_two_mul_roundHalfEven hscale
  linarith

/-- The bits of the number with the mantissa `m` at the exponent `q` of the last digit. -/
def bitsAt (m : Nat) (q : ℤ) : Nat :=
  if m < fractionSize then m else (q + 1075).toNat * fractionSize + (m - fractionSize)

theorem nearest?_eq (hnum : 0 < num) :
    nearest? num den =
      if bitsAt (unitMantissa num den) (unitExponent num den) < 2047 * fractionSize then
        some (bitsAt (unitMantissa num den) (unitExponent num den))
      else none := by
  rw [nearest?, if_neg hnum.ne']
  rfl

theorem nearest?_lt {bits : Nat} (h : nearest? num den = some bits) :
    bits < 2047 * fractionSize := by
  rcases Nat.eq_zero_or_pos num with rfl | hnum
  · obtain rfl := Option.some.inj h
    decide
  · rw [nearest?_eq hnum] at h
    split_ifs at h with hlt
    exact Option.some.inj h ▸ hlt

theorem getD_nearest?_lt (num den : Nat) : (nearest? num den).getD 0 < 2047 * fractionSize := by
  cases h : nearest? num den with
  | none => decide
  | some bits => exact nearest?_lt h

theorem magnitudeBits_ofMagnitudeBits (negative : Bool) {bits : Nat}
    (h : bits < 2047 * fractionSize) : (ofMagnitudeBits negative bits).magnitudeBits = bits := by
  simp only [fractionSize] at h
  simp only [magnitudeBits, ofMagnitudeBits, UInt64.toNat_ofNat', signBit]
  split_ifs <;> omega

theorem isFinite_ofMagnitudeBits (negative : Bool) {bits : Nat} (h : bits < 2047 * fractionSize) :
    (ofMagnitudeBits negative bits).isFinite = true := by
  rw [isFinite, exponentField, magnitudeBits_ofMagnitudeBits negative h]
  exact decide_eq_true (Nat.div_lt_of_lt_mul (by rwa [Nat.mul_comm]))

/-- The mantissa of a finite number has at most 53 binary digits. -/
theorem magnitude_bounds {x : Binary64} (h : x.isFinite = true) :
    x.magnitude.mantissa < 2 * fractionSize ∧ x.magnitude.exponent ≤ 971 := by
  have hfield : x.exponentField < 2047 := of_decide_eq_true h
  have hfraction : x.magnitudeBits % fractionSize < fractionSize := Nat.mod_lt _ (by decide)
  simp only [magnitude]
  split_ifs
  · exact ⟨show x.magnitudeBits % fractionSize < 2 * fractionSize by omega,
      show (-1074 : ℤ) ≤ 971 by decide⟩
  · exact ⟨show x.magnitudeBits % fractionSize + fractionSize < 2 * fractionSize by omega,
      show (x.exponentField : ℤ) - 1075 ≤ 971 by omega⟩

/-- The absolute value with bits below those of infinity. -/
theorem dyadicOfBits_eq {bits : Nat} (h : bits < 2047 * fractionSize) :
    dyadicOfBits bits =
      if bits / fractionSize = 0 then ⟨bits % fractionSize, -1074⟩
      else ⟨bits % fractionSize + fractionSize, (bits / fractionSize : Nat) - 1075⟩ := by
  rw [dyadicOfBits, magnitude, exponentField, magnitudeBits_ofMagnitudeBits false h]

theorem value_dyadicOfBits_bitsAt {m : Nat} {q : ℤ} (hm : m ≤ 2 * fractionSize) (hq : -1074 ≤ q)
    (hsmall : m < fractionSize → q = -1074) (h : bitsAt m q < 2047 * fractionSize) :
    (dyadicOfBits (bitsAt m q)).value = m * 2 ^ q := by
  rw [dyadicOfBits_eq h]
  unfold bitsAt
  have hfield : (q + 1075).toNat = q + 1075 := Int.toNat_of_nonneg (by omega)
  rcases Nat.lt_or_ge m fractionSize with hlt | hge
  · rw [if_pos hlt, Nat.div_eq_of_lt hlt, if_pos rfl, Nat.mod_eq_of_lt hlt, hsmall hlt]
    rfl
  · have hne : 0 < (q + 1075).toNat := by omega
    rw [if_neg (Nat.not_lt.mpr hge)]
    rcases hm.lt_or_eq with hlt | heq
    · have hrest : m - fractionSize < fractionSize := by omega
      rw [Nat.mul_comm, Nat.mul_add_div (by decide), Nat.div_eq_of_lt hrest, Nat.mul_add_mod,
        Nat.mod_eq_of_lt hrest, Nat.add_zero, if_neg hne.ne', Nat.sub_add_cancel hge]
      simp only [Dyadic.value, hfield, add_sub_cancel_right]
    · -- the mantissa has a digit too many, and the sum carries into the exponent
      have hcarry : (q + 1075).toNat * fractionSize + (m - fractionSize) =
          ((q + 1075).toNat + 1) * fractionSize := by
        rw [heq, Nat.add_mul]
        omega
      rw [hcarry, Nat.mul_div_cancel _ (by decide), Nat.mul_mod_left, if_neg (Nat.succ_ne_zero _),
        Nat.zero_add, heq]
      simp only [Dyadic.value, Nat.cast_add, hfield, Nat.cast_mul, Nat.cast_one]
      rw [show q + 1075 + 1 - 1075 = q + 1 by ring, zpow_add_one₀ two_ne_zero]
      push_cast
      ring

/-- The middle between the largest number and the power of two that follows it. -/
def overflow : ℚ := (2 ^ 54 - 1) * 2 ^ (970 : ℤ)

theorem two_mul_overflow : 2 * overflow = (2 ^ 54 - 1) * 2 ^ (971 : ℤ) := by
  rw [overflow, show (971 : ℤ) = 970 + 1 from rfl, zpow_add_one₀ two_ne_zero]
  ring

theorem overflow_pos : 0 < overflow :=
  mul_pos (by norm_num) (zpow_pos two_pos _)

theorem overflow_lt : overflow < 2 ^ 53 * 2 ^ (971 : ℤ) := by
  have h := two_mul_overflow
  have hpos : (0 : ℚ) < 2 ^ (971 : ℤ) := zpow_pos two_pos _
  generalize (2 : ℚ) ^ (971 : ℤ) = unit at h hpos ⊢
  linarith

/-- Every ratio below the middle between the largest number and the power of two that follows it has
a nearest number. -/
theorem nearest?_isSome (hden : 0 < den) (h : (num : ℚ) / den < overflow) :
    (nearest? num den).isSome := by
  rcases Nat.eq_zero_or_pos num with rfl | hnum
  · rfl
  have hexp := unitExponent_le hnum hden (by norm_num) (h.trans overflow_lt)
  have hmin := neg_le_unitExponent num den
  have hmax := unitMantissa_le hnum hden
  rw [nearest?_eq hnum, if_pos]
  · rfl
  unfold bitsAt
  split_ifs with hsmall
  · rw [fractionSize] at hsmall ⊢
    omega
  rcases hexp.lt_or_eq with hlt | heq
  · have hfield : (unitExponent num den + 1075).toNat ≤ 2045 := by omega
    have := Nat.mul_le_mul_right fractionSize hfield
    simp only [fractionSize] at this hmax ⊢
    omega
  · -- at the largest exponent the mantissa is not rounded up to a further digit
    have hmantissa : unitMantissa num den ≤ 2 * fractionSize - 1 := by
      refine roundHalfEven_le (scaled_pos hden _) ?_
      rw [← Nat.mul_assoc]
      refine (lt_scaled_iff hden _ _).mpr ?_
      rw [heq, Nat.cast_mul, mul_div_assoc]
      have hcast : ((2 * (2 * fractionSize - 1) + 1 : Nat) : ℚ) = 2 ^ 54 - 1 := by
        norm_num [fractionSize]
      rw [hcast, ← two_mul_overflow]
      exact mul_lt_mul_of_pos_left h two_pos
    rw [heq]
    simp only [fractionSize] at hmantissa ⊢
    omega

/-- The ratios from the middle between the largest number and the power of two that follows it have
no nearest number. -/
theorem nearest?_eq_none (hden : 0 < den) (h : overflow ≤ (num : ℚ) / den) :
    nearest? num den = none := by
  have hnum : 0 < num := by
    rw [Nat.pos_iff_ne_zero]
    rintro rfl
    rw [Nat.cast_zero, zero_div] at h
    exact absurd h (not_le.mpr overflow_pos)
  have hexp : 971 ≤ unitExponent num den := by
    by_contra hlt
    have hpow : (2 : ℚ) ^ unitExponent num den ≤ 2 ^ (970 : ℤ) :=
      zpow_le_zpow_right₀ one_le_two (by omega)
    have hunit : (0 : ℚ) < 2 ^ (970 : ℤ) := zpow_pos two_pos _
    have hratio := h.trans_lt (unitExponent_lt hnum hden)
    rw [overflow] at hratio
    generalize (2 : ℚ) ^ (970 : ℤ) = unit at hpow hunit hratio
    linarith
  have hpos := scaled_pos hden (unitExponent num den)
  rw [nearest?_eq hnum, if_neg]
  unfold bitsAt
  rw [Nat.not_lt]
  rcases hexp.lt_or_eq with hlt | heq
  · have hmantissa := fractionSize_le_unitMantissa hden (le_of_lt_unitExponent hnum hden (by omega))
    rw [if_neg (Nat.not_lt.mpr hmantissa)]
    have hfield : 2047 ≤ (unitExponent num den + 1075).toNat := by omega
    exact (Nat.mul_le_mul_right fractionSize hfield).trans (Nat.le_add_right _ _)
  · -- at the largest exponent the mantissa is rounded up to a further digit
    have hmantissa : 2 * fractionSize - 1 < unitMantissa num den := by
      have hmiddle : (2 * (2 * fractionSize - 1) + 1 : Nat) * 2 ^ unitExponent num den ≤
          ((2 * num : Nat) : ℚ) / den := by
        have hcast : ((2 * (2 * fractionSize - 1) + 1 : Nat) : ℚ) = 2 ^ 54 - 1 := by
          norm_num [fractionSize]
        rw [hcast, ← heq, ← two_mul_overflow, Nat.cast_mul, mul_div_assoc]
        exact mul_le_mul_of_nonneg_left h two_pos.le
      have hle := Nat.not_lt.mp (mt (lt_scaled_iff hden _ _).mp (not_lt.mpr hmiddle))
      rw [Nat.mul_assoc 2 num] at hle
      exact (lt_roundHalfEven_iff hpos).mpr (hle.lt_or_eq.imp_right fun heq => ⟨heq, by decide⟩)
    rw [← heq, if_neg (by simp only [fractionSize] at hmantissa ⊢; omega)]
    simp only [fractionSize] at hmantissa ⊢
    omega

/-- The ratios that have a nearest number are those below the middle between the largest number and
the power of two that follows it. -/
theorem nearest?_isSome_iff (hden : 0 < den) :
    (nearest? num den).isSome ↔ (num : ℚ) / den < overflow := by
  refine ⟨fun h => ?_, nearest?_isSome hden⟩
  by_contra hge
  rw [nearest?_eq_none hden (not_lt.mp hge)] at h
  cases h

/-- The nearest number to a ratio that is not too small has a mantissa of 53 binary digits. -/
theorem value_nearest? (hnum : 0 < num) (hden : 0 < den)
    (h : (2 : ℚ) ^ (-1022 : ℤ) ≤ num / den) {bits : Nat} (hbits : nearest? num den = some bits) :
    (dyadicOfBits bits).value = unitMantissa num den * 2 ^ unitExponent num den := by
  rw [nearest?_eq hnum, Option.ite_none_right_eq_some] at hbits
  obtain ⟨hfinite, heq⟩ := hbits
  obtain rfl := Option.some.inj heq
  have hmantissa := fractionSize_le_unitMantissa hden (le_unitExponent hnum hden h)
  exact value_dyadicOfBits_bitsAt (unitMantissa_le hnum hden) (neg_le_unitExponent num den)
    (fun hlt => absurd hlt (Nat.not_lt.mpr hmantissa)) hfinite

/-- The nearest number exceeds a ratio that is not too small by at most one part in `2 ^ 53`. -/
theorem value_nearest?_le (hnum : 0 < num) (hden : 0 < den)
    (h : (2 : ℚ) ^ (-1022 : ℤ) ≤ num / den) {bits : Nat} (hbits : nearest? num den = some bits) :
    (dyadicOfBits bits).value ≤ num / den * (1 + 1 / 2 ^ 53) := by
  rw [value_nearest? hnum hden h hbits]
  have hunit := le_unitExponent hnum hden h
  have hround : (unitMantissa num den : ℚ) ≤ num / den / 2 ^ unitExponent num den + 1 / 2 :=
    unitMantissa_le_add hden
  set q := unitExponent num den
  calc (unitMantissa num den : ℚ) * 2 ^ q
      ≤ (num / den / 2 ^ q + 1 / 2) * 2 ^ q := by gcongr
    _ = num / den + 2 ^ q / 2 := by field_simp
    _ ≤ num / den * (1 + 1 / 2 ^ 53) := by linarith

/-- A ratio that is not too small exceeds the nearest number by at most one part in `2 ^ 53`. -/
theorem le_value_nearest? (hnum : 0 < num) (hden : 0 < den)
    (h : (2 : ℚ) ^ (-1022 : ℤ) ≤ num / den) {bits : Nat} (hbits : nearest? num den = some bits) :
    num / den * (1 - 1 / 2 ^ 53) ≤ (dyadicOfBits bits).value := by
  rw [value_nearest? hnum hden h hbits]
  have hunit := le_unitExponent hnum hden h
  have hround : (num : ℚ) / den / 2 ^ unitExponent num den ≤ unitMantissa num den + 1 / 2 :=
    le_unitMantissa_add hden
  set q := unitExponent num den
  calc (num : ℚ) / den * (1 - 1 / 2 ^ 53) ≤ num / den - 2 ^ q / 2 := by linarith
    _ = (num / den / 2 ^ q - 1 / 2) * 2 ^ q := by field_simp
    _ ≤ unitMantissa num den * 2 ^ q := by
      gcongr
      linarith

end Nearest

end Binary64

namespace Json

open Binary64

/-! ### Scaling by powers of ten -/

theorem value_dyadicOfBits_zero : (dyadicOfBits 0).value = 0 := by
  rw [dyadicOfBits_eq (by decide)]
  simp [Dyadic.value]

theorem tiny_le_natCast {n : Nat} (hn : 0 < n) : (2 : ℚ) ^ (-1022 : ℤ) ≤ (n : ℚ) / (1 : Nat) := by
  rw [Nat.cast_one, div_one]
  refine le_trans (zpow_le_one_of_nonpos₀ one_le_two (by norm_num)) ?_
  exact_mod_cast hn

theorem value_nearest?_natCast_le (n : Nat) :
    (dyadicOfBits ((nearest? n 1).getD 0)).value ≤ n * (1 + 1 / 2 ^ 53) := by
  rcases Nat.eq_zero_or_pos n with rfl | hn
  · change (dyadicOfBits 0).value ≤ _
    rw [value_dyadicOfBits_zero]
    simp
  cases hbits : nearest? n 1 with
  | none =>
    rw [Option.getD_none, value_dyadicOfBits_zero]
    positivity
  | some bits =>
    simpa only [Nat.cast_one, div_one, Option.getD_some] using
      value_nearest?_le hn Nat.one_pos (tiny_le_natCast hn) hbits

theorem le_value_nearest?_natCast {n : Nat} (hn : (n : ℚ) < overflow) :
    n * (1 - 1 / 2 ^ 53) ≤ (dyadicOfBits ((nearest? n 1).getD 0)).value := by
  rcases Nat.eq_zero_or_pos n with rfl | hpos
  · rw [Nat.cast_zero, zero_mul]
    exact Dyadic.value_nonneg _
  have hsome : (nearest? n 1).isSome := nearest?_isSome Nat.one_pos (by rwa [Nat.cast_one, div_one])
  obtain ⟨bits, hbits⟩ := Option.isSome_iff_exists.mp hsome
  rw [hbits]
  simpa only [Nat.cast_one, div_one, Option.getD_some] using
    le_value_nearest? hpos Nat.one_pos (tiny_le_natCast hpos) hbits

theorem timesMagnitude?_isSome_iff {x y : Nat} :
    (timesMagnitude? x y).isSome ↔ (dyadicOfBits x).value * (dyadicOfBits y).value < overflow := by
  rw [timesMagnitude?, nearest?_isSome_iff (Nat.mul_pos (Dyadic.den_pos _) (Dyadic.den_pos _)),
    Nat.cast_mul, Nat.cast_mul, mul_div_mul_comm, Dyadic.num_div_den, Dyadic.num_div_den]

theorem scaled?_isSome_of_neg (n : Nat) {e : ℤ} (he : e < 0) : (scaled? n e).isSome := by
  simp only [scaled?]
  rw [if_neg (by omega), if_neg (by omega)]
  split_ifs <;> rfl

theorem overflow_lt_tenPow : overflow < 10 ^ 309 := by
  have hpow : (2 : ℚ) ^ 1024 < 10 ^ 309 := by
    exact_mod_cast (by decide +kernel : 2 ^ 1024 < 10 ^ 309)
  refine overflow_lt.trans (lt_of_eq_of_lt ?_ hpow)
  rw [← zpow_natCast, ← zpow_natCast, ← zpow_add₀ two_ne_zero]
  rfl

theorem scaled?_natCast {s e : Nat} (he : e ≤ 308) :
    scaled? s e = timesMagnitude? ((nearest? s 1).getD 0) (powerOfTen e) := by
  simp only [scaled?]
  rw [if_neg (by omega), if_pos (by omega), Int.toNat_natCast]

/-- A whole number times a power of ten has a nearest number if it stays below the middle between
the largest number and the power of two that follows it, even when both factors are rounded. -/
theorem scaled?_isSome {n e : Nat} (h : (n : ℚ) * 10 ^ e * (1 + 1 / 2 ^ 53) ^ 2 < overflow) :
    (scaled? n e).isSome := by
  have hround := value_nearest?_natCast_le n
  rcases Nat.lt_or_ge 308 e with he | he
  · -- the power alone is too large, so that there is nothing to scale
    have hn : n = 0 := by
      by_contra hne
      have hone : (1 : ℚ) ≤ n := by exact_mod_cast Nat.pos_of_ne_zero hne
      have hpow : (10 : ℚ) ^ 309 ≤ 10 ^ e := pow_le_pow_right₀ (by norm_num) he
      have hsquare : (1 : ℚ) ≤ (1 + 1 / 2 ^ 53) ^ 2 := by norm_num
      have hle : (10 : ℚ) ^ 309 ≤ n * 10 ^ e * (1 + 1 / 2 ^ 53) ^ 2 :=
        calc (10 : ℚ) ^ 309 ≤ 10 ^ e := hpow
          _ ≤ n * 10 ^ e := le_mul_of_one_le_left (by positivity) hone
          _ ≤ n * 10 ^ e * (1 + 1 / 2 ^ 53) ^ 2 := le_mul_of_one_le_right (by positivity) hsquare
      exact absurd (hle.trans_lt h) (not_lt.mpr overflow_lt_tenPow.le)
    subst hn
    have hzero : (nearest? 0 1).getD 0 = 0 := rfl
    simp only [scaled?]
    rw [if_pos (by omega), hzero, if_pos rfl]
    rfl
  · rw [scaled?_natCast he]
    refine timesMagnitude?_isSome_iff.mpr (lt_of_le_of_lt ?_ h)
    have hround' := value_nearest?_natCast_le (10 ^ e)
    rw [Nat.cast_pow, Nat.cast_ofNat] at hround'
    calc (dyadicOfBits ((nearest? n 1).getD 0)).value * (dyadicOfBits (powerOfTen e)).value
        ≤ (n * (1 + 1 / 2 ^ 53)) * (10 ^ e * (1 + 1 / 2 ^ 53)) := by
          gcongr
          · exact Dyadic.value_nonneg _
          · exact hround'
      _ = n * 10 ^ e * (1 + 1 / 2 ^ 53) ^ 2 := by ring

end Json

end CrowdTask
