import CrowdTask.Proofs.Decimal.Shortest
import CrowdTask.Proofs.Json.Digits

/-!
# Numbers are read as they are written

The text of a number follows the grammar, and the reader finds a value for it. That could only fail
for a number so large that its decimal, or the product by which the decimal is read, lies beyond the
largest binary number. It fails for none: below the three largest numbers there is room enough for
the roundings, and these three are checked.

## Main definitions

* `CrowdTask.Json.Number.parts`: the parts of the text of a number.
* `CrowdTask.Json.Number.written`: a number as it is written.
* `CrowdTask.Json.Number.IsFinite`: the numbers that are neither infinite nor undefined.

## Main results

* `CrowdTask.Json.Number.readNumber_render`: the text of a number is read as it is written.
* `CrowdTask.Json.Number.toNumber?_written_isSome`: the reader finds a value for it.
-/

namespace CrowdTask.Json

namespace NumberParts

/-- The parts of a number that is written without a power of ten. -/
def positional (ds : List Char) (place : Int) : NumberParts :=
  if place ≤ 0 then ⟨['0'], List.replicate (-place).toNat '0' ++ ds, none⟩
  else if ds.length ≤ place.toNat then
    ⟨ds ++ List.replicate (place.toNat - ds.length) '0', ['0'], none⟩
  else ⟨ds.take place.toNat, ds.drop place.toNat, none⟩

/-- The parts of a number that is written with a power of ten. -/
def scientific (ds : List Char) (order : Int) : NumberParts :=
  ⟨ds.take 1, ds.drop 1, some (order < 0, Text.decimal order.natAbs)⟩

/-- The parts of a decimal. -/
def ofDecimal (l : Decimal.Layout) (d : Decimal) : NumberParts :=
  let ds := Text.decimal d.digits
  let place : Int := d.exponent + ds.length
  if l.lowest ≤ place - 1 ∧ place - 1 ≤ l.highest then positional ds place
  else scientific ds (place - 1)

theorem chars_positional {ds : List Char} (hds : ds ≠ []) (place : Int) :
    (positional ds place).chars = Decimal.Layout.positional ds place := by
  unfold positional Decimal.Layout.positional
  split_ifs with hsmall hlarge
  · have hne : List.replicate (-place).toNat '0' ++ ds ≠ [] := by simp [hds]
    simp [chars, fractionChars, exponentChars, hne]
  · simp [chars, fractionChars, exponentChars]
  · have hne : ds.drop place.toNat ≠ [] := by simp; omega
    simp [chars, fractionChars, exponentChars, hne]

theorem chars_scientific {ds : List Char} (hds : ds ≠ []) (order : Int) :
    (scientific ds order).chars = Decimal.Layout.scientific ds order := by
  unfold scientific Decimal.Layout.scientific
  obtain ⟨d, rest, rfl⟩ := List.exists_cons_of_ne_nil hds
  cases rest with
  | nil => simp [chars, fractionChars, exponentChars]
  | cons e rest => simp [chars, fractionChars, exponentChars]

theorem decimal_ne_nil (n : Nat) : Text.decimal n ≠ [] := Nat.toDigits_ne_nil

theorem chars_ofDecimal (l : Decimal.Layout) (d : Decimal) :
    (ofDecimal l d).chars = l.renderDecimal d := by
  simp only [ofDecimal, Decimal.Layout.renderDecimal]
  split_ifs
  · exact chars_positional (decimal_ne_nil _) _
  · exact chars_scientific (decimal_ne_nil _) _

/-! ### The grammar -/

theorem isValid_positional {ds : List Char} (hds : ∀ c ∈ ds, c.isDigit = true) (hne : ds ≠ [])
    (hlead : ds.head? ≠ some '0') (place : Int) : (positional ds place).IsValid := by
  have hzero : ∀ n, ∀ c ∈ List.replicate n '0', c.isDigit = true := by
    intro n c hc
    rw [List.eq_of_mem_replicate hc]
    rfl
  unfold positional
  split_ifs with hsmall hlarge
  · exact ⟨by simp, by simp, fun _ => rfl, List.forall_mem_append.mpr ⟨hzero _, hds⟩, nofun⟩
  · refine ⟨List.forall_mem_append.mpr ⟨hds, hzero _⟩, by simp [hne], ?_, by simp, nofun⟩
    obtain ⟨d, rest, rfl⟩ := List.exists_cons_of_ne_nil hne
    exact fun h => absurd h hlead
  · refine ⟨fun c hc => hds c (List.mem_of_mem_take hc), ?_, ?_,
      fun c hc => hds c (List.mem_of_mem_drop hc), nofun⟩
    · simp [hne]
      omega
    · intro h
      rw [List.head?_take] at h
      split_ifs at h
      exact absurd h hlead

theorem isValid_scientific {ds : List Char} (hds : ∀ c ∈ ds, c.isDigit = true) (hne : ds ≠ [])
    (order : Int) : (scientific ds order).IsValid := by
  refine ⟨fun c hc => hds c (List.mem_of_mem_take hc), by simp [scientific, hne], fun _ => ?_,
    fun c hc => hds c (List.mem_of_mem_drop hc), ?_⟩
  · obtain ⟨d, rest, rfl⟩ := List.exists_cons_of_ne_nil hne
    simp [scientific]
  · rintro e he
    obtain rfl := Option.some.inj he
    exact ⟨decimal_ne_nil _, isDigit_of_mem_decimal⟩

theorem isValid_ofDecimal (l : Decimal.Layout) {d : Decimal} (hd : 0 < d.digits) :
    (ofDecimal l d).IsValid := by
  simp only [ofDecimal]
  split_ifs
  · exact isValid_positional isDigit_of_mem_decimal (decimal_ne_nil _) (head_decimal_ne hd) _
  · exact isValid_scientific isDigit_of_mem_decimal (decimal_ne_nil _) _

/-! ### The value -/

/-- The value of the digits of the whole part and of the fraction. -/
def significand (p : NumberParts) : Nat := Nat.ofDigitChars 10 (p.whole ++ p.fraction) 0

/-- The value of a number whose digits fit the significand, if it is not a whole number. -/
theorem toNumber?_numberText {p : NumberParts} (hfits : p.significand < UInt64.size)
    (hreal : p.fraction ≠ [] ∨ p.exponent ≠ none) (negative : Bool) :
    (p.numberText negative).toNumber? =
      match p.exponent with
      | none => (scaled? p.significand (-p.fraction.length)).map (p.numberText negative).double
      | some (down, ds) =>
        if Nat.ofDigitChars 10 ds 0 < exponentLimit then
          (scaled? p.significand (if down then -p.fraction.length - Nat.ofDigitChars 10 ds 0
            else -p.fraction.length + Nat.ofDigitChars 10 ds 0)).map
              (p.numberText negative).double
        else if p.significand = 0 ∨ down then some ((p.numberText negative).double 0)
        else none := by
  have hsig : p.significand = Nat.ofDigitChars 10 p.fraction (Nat.ofDigitChars 10 p.whole 0) :=
    Nat.ofDigitChars_append 0
  have hwhole : Nat.ofDigitChars 10 p.whole 0 < UInt64.size :=
    (le_ofDigitChars p.fraction _).trans_lt (hsig ▸ hfits)
  rw [hsig] at hfits
  simp only [NumberText.toNumber?, numberText, takeDigits_of_lt hwhole, takeDigits_of_lt hfits,
    ← hsig, List.isEmpty_nil, Bool.true_and, List.length_nil, Nat.sub_zero, List.length_map]
  rcases hexponent : p.exponent with _ | ⟨down, ds⟩
  · have hfraction : (p.fraction.map digitOf).isEmpty = false := by
      simpa using hreal.resolve_right (not_not.mpr hexponent)
    simp [hfraction]
  · simp [digitsValue_map]

theorem ofDigitChars_decimal (n : Nat) : Nat.ofDigitChars 10 (Text.decimal n) 0 = n :=
  Nat.ofDigitChars_ten_toDigits

/-- The digits of a number below `10 ^ 17` fit the significand, together with the zeros that are
written beside them. -/
theorem significand_positional_lt {n : Nat} (hn : n ≤ 10 ^ 17) {place : Int} (hplace : place ≤ 16) :
    (positional (Text.decimal n) place).significand < UInt64.size := by
  have hsize : 10 ^ 17 < UInt64.size := by decide
  unfold positional
  split_ifs with hsmall hlarge
  · rw [significand, List.singleton_append, Nat.ofDigitChars_cons, Nat.ofDigitChars_append]
    simpa [ofDigitChars_decimal] using hn.trans_lt hsize
  · have hlt : n < 10 ^ (Text.decimal n).length := Decimal.lt_tenPow_width n
    have hpow : 10 ^ (place.toNat - (Text.decimal n).length) * 10 ^ (Text.decimal n).length ≤
        10 ^ 16 := by
      rw [← Nat.pow_add]
      exact Nat.pow_le_pow_right (by decide) (by omega)
    have hmul := Nat.mul_lt_mul_of_pos_left hlt
      (Nat.pow_pos (n := place.toNat - (Text.decimal n).length) (by decide : 0 < 10))
    rw [significand, Nat.ofDigitChars_append, Nat.ofDigitChars_append, ofDigitChars_decimal,
      Nat.ofDigitChars_replicate_zero, Nat.ofDigitChars_cons, Nat.ofDigitChars_nil]
    have hzero : '0'.toNat - '0'.toNat = 0 := rfl
    omega
  · rw [significand, List.take_append_drop, ofDigitChars_decimal]
    exact hn.trans_lt hsize

theorem fraction_positional_ne_nil {ds : List Char} (hds : ds ≠ []) (place : Int) :
    (positional ds place).fraction ≠ [] := by
  unfold positional
  split_ifs
  · simp [hds]
  · simp
  · simp
    omega

theorem exponent_positional (ds : List Char) (place : Int) :
    (positional ds place).exponent = none := by
  unfold positional
  split_ifs <;> rfl

theorem toNumber?_positional_isSome {n : Nat} (hn : n ≤ 10 ^ 17) {place : Int} (hplace : place ≤ 16)
    (negative : Bool) :
    ((positional (Text.decimal n) place).numberText negative).toNumber?.isSome := by
  have hfraction := fraction_positional_ne_nil (decimal_ne_nil n) place
  have hlength := List.length_pos_iff.mpr hfraction
  rw [toNumber?_numberText (significand_positional_lt hn hplace) (Or.inl hfraction),
    exponent_positional]
  simpa using scaled?_isSome_of_neg _ (by omega)

theorem toNumber?_scientific_isSome {d : Decimal} (hdigits : d.digits ≤ 10 ^ 17)
    (hlimit : d.exponent < 309) (hscaled : 0 ≤ d.exponent → (scaled? d.digits d.exponent).isSome)
    (negative : Bool) :
    ((scientific (Text.decimal d.digits)
      (d.exponent + (Text.decimal d.digits).length - 1)).numberText negative).toNumber?.isSome := by
  have hne := decimal_ne_nil d.digits
  have hpos : 0 < (Text.decimal d.digits).length := List.length_pos_iff.mpr hne
  set order : Int := d.exponent + (Text.decimal d.digits).length - 1 with horder
  have hsig : (scientific (Text.decimal d.digits) order).significand = d.digits := by
    rw [significand, scientific, List.take_append_drop, ofDigitChars_decimal]
  have hlength : (Text.decimal d.digits).length ≤ 18 :=
    (Nat.length_toDigits_le_iff (by decide) (by decide)).mpr
      (hdigits.trans_lt (by decide : 10 ^ 17 < 10 ^ 18))
  have hfits : (scientific (Text.decimal d.digits) order).significand < UInt64.size :=
    hsig.trans_lt (hdigits.trans_lt (by decide : 10 ^ 17 < UInt64.size))
  have hfraction : ((scientific (Text.decimal d.digits) order).fraction.length : Int) =
      (Text.decimal d.digits).length - 1 := by
    simp only [scientific, List.length_drop]
    omega
  rw [toNumber?_numberText hfits (Or.inr (by simp [scientific])), hsig, hfraction]
  simp only [scientific, ofDigitChars_decimal]
  by_cases hneg : order < 0
  · rw [decide_eq_true hneg, if_pos rfl, if_pos (Or.inr rfl)]
    split_ifs
    · rw [Option.isSome_map]
      exact scaled?_isSome_of_neg _ (by omega)
    · rfl
  · have hexp : order.natAbs < exponentLimit := by
      rw [exponentLimit]
      omega
    have hshift : -((Text.decimal d.digits).length - 1 : Int) + order.natAbs = d.exponent := by
      omega
    rw [decide_eq_false hneg, if_pos hexp, if_neg Bool.false_ne_true, hshift, Option.isSome_map]
    rcases lt_or_ge d.exponent 0 with hlt | hge
    · exact scaled?_isSome_of_neg _ hlt
    · exact hscaled hge

end NumberParts

/-! ### Binary numbers -/

section Shortest

open Binary64 Decimal

variable {x : Dyadic}

/-- The exponent of the largest binary numbers. -/
theorem value_shortest_le_overflow (hm : 0 < x.mantissa) (hlt : x.mantissa < 2 * fractionSize)
    (hexp : x.exponent ≤ 971) : (shortest x).value ≤ overflow := by
  obtain ⟨-, -, hle⟩ := shortest_bounds hm
  have hmantissa : (x.mantissa : ℚ) ≤ 2 ^ 53 - 1 := by
    have h : x.mantissa + 1 ≤ 2 ^ 53 := hlt
    have h' : (x.mantissa : ℚ) + 1 ≤ 2 ^ 53 := by exact_mod_cast h
    linarith
  have hpow : (2 : ℚ) ^ x.exponent ≤ 2 ^ (971 : ℤ) := zpow_le_zpow_right₀ one_le_two hexp
  have htwo := two_mul_overflow
  calc (shortest x).value ≤ x.value + 2 ^ x.exponent / 2 := hle
    _ = (x.mantissa + 1 / 2) * 2 ^ x.exponent := by rw [Dyadic.value]; ring
    _ ≤ (2 ^ 53 - 1 + 1 / 2) * 2 ^ (971 : ℤ) :=
      mul_le_mul (by linarith) hpow (zpow_pos two_pos _).le (by norm_num)
    _ = overflow := by
      generalize (2 : ℚ) ^ (971 : ℤ) = unit at htwo ⊢
      linarith

theorem exponent_shortest_lt (hm : 0 < x.mantissa) (hlt : x.mantissa < 2 * fractionSize)
    (hexp : x.exponent ≤ 971) : (shortest x).exponent < 309 := by
  rcases (shortest_bounds hm).1 with hzero | hpos
  · rw [hzero]
    decide
  · by_contra hge
    have hone : (1 : ℚ) ≤ (shortest x).digits := by exact_mod_cast hpos
    have hpow : (10 : ℚ) ^ (309 : ℤ) ≤ 10 ^ (shortest x).exponent :=
      zpow_le_zpow_right₀ (by norm_num) (by omega)
    have hle : (10 : ℚ) ^ (309 : ℤ) ≤ (shortest x).value :=
      hpow.trans (le_mul_of_one_le_left (by positivity) hone)
    have := (hle.trans (value_shortest_le_overflow hm hlt hexp)).trans_lt overflow_lt_tenPow
    rw [← zpow_natCast] at this
    exact lt_irrefl _ this

/-- The decimal of every binary number can be scaled. Only for the three largest numbers is there
not enough room for a rounding of the digits, of the power of ten, and of their product. -/
theorem scaled?_shortest_isSome (hm : 0 < x.mantissa) (hlt : x.mantissa < 2 * fractionSize)
    (hexp : x.exponent ≤ 971) (hnonneg : 0 ≤ (shortest x).exponent) :
    (scaled? (shortest x).digits (shortest x).exponent).isSome := by
  by_cases htop : x.exponent = 971 ∧ 2 * fractionSize - 4 < x.mantissa
  · obtain ⟨m, e⟩ := x
    obtain ⟨rfl, hlarge⟩ := htop
    simp only [fractionSize] at hlarge hlt
    have hcases : m = 9007199254740989 ∨ m = 9007199254740990 ∨ m = 9007199254740991 := by
      omega
    rcases hcases with rfl | rfl | rfl
    · decide +kernel
    · decide +kernel
    · decide +kernel
  · obtain ⟨E, hE⟩ := Int.eq_ofNat_of_zero_le hnonneg
    have hle := (shortest_bounds hm).2.2
    rw [value, hE, zpow_natCast] at hle
    rw [hE]
    refine scaled?_isSome (lt_of_le_of_lt (mul_le_mul_of_nonneg_right hle (by positivity)) ?_)
    -- in units of the last digit but one of the largest numbers
    have hunit : (0 : ℚ) < 2 ^ (970 : ℤ) := zpow_pos two_pos _
    have hroom : x.value + 2 ^ x.exponent / 2 ≤ (2 ^ 54 - 7) * 2 ^ (970 : ℤ) := by
      have hvalue : x.value + 2 ^ x.exponent / 2 = (x.mantissa + 1 / 2) * 2 ^ x.exponent := by
        rw [Dyadic.value]
        ring
      rw [hvalue]
      rcases hexp.lt_or_eq with hlower | htop'
      · have hmantissa : (x.mantissa : ℚ) ≤ 2 ^ 53 := by exact_mod_cast hlt.le
        have hpow : (2 : ℚ) ^ x.exponent ≤ 2 ^ (970 : ℤ) :=
          zpow_le_zpow_right₀ one_le_two (by omega)
        exact mul_le_mul (by linarith) hpow (zpow_pos two_pos _).le (by norm_num)
      · have hmantissa : (x.mantissa : ℚ) ≤ 2 ^ 53 - 4 := by
          have h : x.mantissa + 4 ≤ 2 ^ 53 := by
            have := not_and.mp htop htop'
            simp only [fractionSize] at this
            omega
          have h' : (x.mantissa : ℚ) + 4 ≤ 2 ^ 53 := by exact_mod_cast h
          linarith
        rw [htop', show (971 : ℤ) = 970 + 1 from rfl, zpow_add_one₀ two_ne_zero]
        generalize (2 : ℚ) ^ (970 : ℤ) = unit at hunit ⊢
        calc ((x.mantissa : ℚ) + 1 / 2) * (unit * 2)
            ≤ (2 ^ 53 - 4 + 1 / 2) * (unit * 2) := by gcongr
          _ = (2 ^ 54 - 7) * unit := by ring
    rw [overflow]
    generalize (2 : ℚ) ^ (970 : ℤ) = unit at hroom hunit ⊢
    calc (x.value + 2 ^ x.exponent / 2) * (1 + 1 / 2 ^ 53) ^ 2
        ≤ (2 ^ 54 - 7) * unit * (1 + 1 / 2 ^ 53) ^ 2 := by gcongr
      _ < (2 ^ 54 - 1) * unit := by
        have : ((2 : ℚ) ^ 54 - 7) * (1 + 1 / 2 ^ 53) ^ 2 < 2 ^ 54 - 1 := by norm_num
        nlinarith

end Shortest

/-! ### Numbers -/

namespace Number

/-- Whether a number is neither infinite nor undefined. -/
def IsFinite : Number → Prop
  | .int _ => True
  | .double x => x.isFinite = true

/-- Whether the text of a number begins with a minus sign. -/
def isNegative : Number → Bool
  | .int n => n.val < 0
  | .double x => x.isNegative

/-- The parts of the text of a number. -/
def parts : Number → NumberParts
  | .int n => ⟨Text.decimal n.val.natAbs, [], none⟩
  | .double x =>
    if x.magnitude.mantissa = 0 then ⟨['0'], ['0'], none⟩
    else .ofDecimal numberLayout (Decimal.shortest x.magnitude)

/-- A number as it is written. -/
def written (n : Number) : NumberText := n.parts.numberText n.isNegative

theorem render_eq (n : Number) :
    n.render = (if n.isNegative then ['-'] else []) ++ n.parts.chars := by
  cases n with
  | int n =>
    obtain ⟨k | k, hlower, hupper⟩ := n
    · have hneg : ¬(Int.ofNat k < 0) := by simp
      simp [render, isNegative, parts, Text.decimalInt, NumberParts.chars,
        NumberParts.fractionChars, NumberParts.exponentChars]
    · have hneg : Int.negSucc k < 0 := Int.negSucc_lt_zero k
      simp [render, isNegative, parts, Text.decimalInt, NumberParts.chars,
        NumberParts.fractionChars, NumberParts.exponentChars, hneg]
  | double x =>
    have hbody : (if x.magnitude.mantissa = 0 then ['0', '.', '0']
        else numberLayout.renderDecimal (Decimal.shortest x.magnitude)) =
          (double x).parts.chars := by
      rw [parts]
      split_ifs
      · rfl
      · rw [NumberParts.chars_ofDecimal]
    have hrender : (double x).render =
        if x.isNegative then '-' :: (double x).parts.chars else (double x).parts.chars := by
      rw [← hbody]
      rfl
    rw [hrender]
    by_cases hneg : x.isNegative = true
    · have hsign : (double x).isNegative = true := hneg
      rw [if_pos hneg, if_pos hsign, List.singleton_append]
    · have hsign : ¬(double x).isNegative = true := hneg
      rw [if_neg hneg, if_neg hsign, List.nil_append]

theorem isValid_parts (n : Number) : n.parts.IsValid := by
  cases n with
  | int n =>
    refine ⟨isDigit_of_mem_decimal, NumberParts.decimal_ne_nil _, fun h => ?_, nofun, nofun⟩
    rcases Nat.eq_zero_or_pos n.val.natAbs with hzero | hpos
    · simp only [parts, hzero]
      rfl
    · exact absurd h (head_decimal_ne hpos)
  | double x =>
    rw [parts]
    split_ifs with hzero
    · exact ⟨by simp, by simp, fun _ => rfl, by simp, nofun⟩
    · rcases (Decimal.shortest_bounds (Nat.pos_of_ne_zero hzero)).1 with hnone | hpos
      · have hparts : NumberParts.ofDecimal numberLayout ⟨0, 0⟩ = ⟨['0'], ['0'], none⟩ := rfl
        rw [hnone, hparts]
        exact ⟨by simp, by simp, fun _ => rfl, by simp, nofun⟩
      · exact NumberParts.isValid_ofDecimal _ hpos

/-- The text of a number is read as it is written. -/
theorem readNumber_render (n : Number) {rest : List Char} (hrest : EndsNumber rest) :
    readNumber (n.render ++ rest) = some (n.written, rest) := by
  rw [render_eq, written]
  exact readNumber_chars n.isValid_parts n.isNegative hrest

/-- An integer has the value that it was written for. -/
theorem toNumber?_written_int (n : WideInt) : (int n).written.toNumber? = some (int n) := by
  obtain ⟨v, hlower, hupper⟩ := n
  have hvalue : Nat.ofDigitChars 10 (Text.decimal v.natAbs) 0 < UInt64.size := by
    rw [NumberParts.ofDigitChars_decimal]
    simp only [UInt64.size]
    omega
  simp only [written, parts, NumberParts.numberText, NumberText.toNumber?, takeDigits_of_lt hvalue,
    List.map_nil, List.isEmpty_nil, Option.map_none, Option.isNone_none, Bool.and_self, if_pos,
    NumberParts.ofDigitChars_decimal, NumberText.toInteger, isNegative]
  by_cases hneg : v < 0
  · have habs : -(v.natAbs : Int) = v := by omega
    rw [if_pos (decide_eq_true hneg), if_neg (by omega), habs, WideInt.ofInt?,
      dif_pos ⟨hlower, hupper⟩]
  · have habs : (v.natAbs : Int) = v := by omega
    rw [if_neg (by simpa using hneg), habs, WideInt.ofInt?, dif_pos ⟨hlower, hupper⟩]

theorem toNumber?_zero_isSome (negative : Bool) :
    (NumberParts.numberText negative ⟨['0'], ['0'], none⟩).toNumber?.isSome := by
  cases negative <;> decide

/-- The reader finds a value for the text of a number. -/
theorem toNumber?_written_isSome {n : Number} (hn : n.IsFinite) : n.written.toNumber?.isSome := by
  cases n with
  | int n => rw [toNumber?_written_int, Option.isSome_some]
  | double x =>
    obtain ⟨hlt, hexp⟩ := Binary64.magnitude_bounds hn
    rw [written, parts]
    split_ifs with hzero
    · exact toNumber?_zero_isSome _
    · have hm : 0 < x.magnitude.mantissa := Nat.pos_of_ne_zero hzero
      obtain ⟨hdigits, hlimit, -⟩ := Decimal.shortest_bounds hm
      rcases hdigits with hnone | -
      · rw [hnone]
        exact toNumber?_zero_isSome _
      · simp only [NumberParts.ofDecimal]
        split_ifs with horder
        · refine NumberParts.toNumber?_positional_isSome hlimit ?_ _
          have := horder.2
          simp only [numberLayout] at this
          omega
        · exact NumberParts.toNumber?_scientific_isSome hlimit (exponent_shortest_lt hm hlt hexp)
            (scaled?_shortest_isSome hm hlt hexp) _

end Number

/-! ### Numbers that are read -/

theorem scaled?_lt {n bits : Nat} {e : Int} (h : scaled? n e = some bits) :
    bits < 2047 * Binary64.fractionSize := by
  simp only [scaled?, timesMagnitude?, overMagnitude] at h
  split_ifs at h
  · exact Option.some.inj h ▸ by decide
  · exact Binary64.nearest?_lt h
  · exact Option.some.inj h ▸ Binary64.getD_nearest?_lt _ _
  · exact Option.some.inj h ▸ Binary64.getD_nearest?_lt _ _
  · exact Option.some.inj h ▸ by decide

namespace NumberText

theorem isFinite_double (t : NumberText) {bits : Nat} (h : bits < 2047 * Binary64.fractionSize) :
    (t.double bits).IsFinite :=
  Binary64.isFinite_ofMagnitudeBits t.negative h

theorem isFinite_toInteger (t : NumberText) (n : Nat) : (t.toInteger n).IsFinite := by
  have hnearest := Binary64.getD_nearest?_lt n 1
  unfold toInteger
  split_ifs
  · exact t.isFinite_double (by decide)
  · split
    · trivial
    · exact t.isFinite_double hnearest
  · split
    · trivial
    · exact t.isFinite_double hnearest

/-- A number that is read is neither infinite nor undefined. -/
theorem isFinite_of_toNumber? {t : NumberText} {n : Number} (h : t.toNumber? = some n) :
    n.IsFinite := by
  have hscaled : ∀ {m : Nat} {e : Int}, (scaled? m e).map t.double = some n → n.IsFinite := by
    intro m e hmap
    obtain ⟨bits, hbits, rfl⟩ := Option.map_eq_some_iff.mp hmap
    exact t.isFinite_double (scaled?_lt hbits)
  simp only [toNumber?] at h
  split_ifs at h
  · exact Option.some.inj h ▸ t.isFinite_toInteger _
  · split at h
    · exact hscaled h
    · split_ifs at h
      · exact hscaled h
      · exact hscaled h
      · exact Option.some.inj h ▸ t.isFinite_double (by decide)

end NumberText

end CrowdTask.Json
