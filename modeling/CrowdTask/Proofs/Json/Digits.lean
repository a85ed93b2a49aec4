import CrowdTask.Json.Reader
import Mathlib.Tactic.Common
import Mathlib.Tactic.Ring

/-!
# Digits in JSON texts

The reader takes the longest run of digits and turns it into a value, as long as the value stays
below a limit. The decimal digits of a number have that number as their value, and only zero begins
with a zero.

## Main definitions

* `CrowdTask.Json.digitOf`: the value of a digit.
* `CrowdTask.Json.NumberParts`: the parts of a number without its sign.

## Main results

* `CrowdTask.Json.ofDigitsFrom?_decimal`: the value of the digits of a number.
* `CrowdTask.Json.readUnsigned_chars`: the parts of a number are read as they are written.
* `CrowdTask.Text.unsigned32?_decimal`: a numeral of 32 bits is read as it is written.
-/

namespace CrowdTask.Json

/-- The value of a digit. -/
def digitOf (c : Char) : Nat := c.toNat - '0'.toNat

/-- Whether a text does not go on with a digit. -/
def EndsDigits (rest : List Char) : Prop := ∀ c, rest.head? = some c → c.isDigit = false

theorem isDigit_iff (c : Char) : c.isDigit = true ↔ '0' ≤ c ∧ c ≤ '9' := by
  simp [Char.isDigit, Char.le_def]

theorem digitOf_lt {c : Char} (h : c.isDigit = true) : digitOf c < 10 := by
  have h' := ((isDigit_iff c).mp h).2
  rw [Char.le_def, UInt32.le_iff_toNat_le] at h'
  have : '9'.val.toNat = 57 := rfl
  have : '0'.toNat = 48 := rfl
  unfold digitOf
  change c.val.toNat - _ < 10
  omega

theorem digitIn?_of_isDigit {c : Char} (h : c.isDigit = true) :
    Text.digitIn? 10 c = some (digitOf c) := by
  have hvalue : Text.digitValue? c = some (digitOf c) := by
    rw [Text.digitValue?, if_pos ((isDigit_iff c).mp h)]
    rfl
  rw [Text.digitIn?, hvalue, Option.filter_some, if_pos (by simpa using digitOf_lt h)]

theorem digitIn?_of_not_isDigit {c : Char} (h : c.isDigit = false) :
    Text.digitIn? 10 c = none := by
  have hnot : ¬('0' ≤ c ∧ c ≤ '9') := by rw [← isDigit_iff, h]; decide
  rw [Text.digitIn?, Text.digitValue?, if_neg hnot]
  split_ifs with hlower hupper
  · rw [Option.filter_some, if_neg]
    simp
  · rw [Option.filter_some, if_neg]
    simp
  · rfl

theorem ne_point_of_isDigit {ds : List Char} (hds : ∀ c ∈ ds, c.isDigit = true) :
    ∀ c ∈ ds, c ≠ '.' := by
  rintro c hc rfl
  exact absurd (hds '.' hc) (by decide)

theorem readDigits_append {ds rest : List Char} (hds : ∀ c ∈ ds, c.isDigit = true)
    (hrest : EndsDigits rest) : readDigits (ds ++ rest) = (ds.map digitOf, rest) := by
  induction ds with
  | nil =>
    cases rest with
    | nil => rfl
    | cons c rest =>
      rw [List.nil_append, readDigits, digitIn?_of_not_isDigit (hrest c rfl)]
      rfl
  | cons c ds ih =>
    obtain ⟨hc, hds⟩ := List.forall_mem_cons.mp hds
    rw [List.cons_append, readDigits, digitIn?_of_isDigit hc]
    simp only [ih hds, List.map_cons]

/-! ### Values -/

theorem digitsValue_map (ds : List Char) :
    digitsValue (ds.map digitOf) = Nat.ofDigitChars 10 ds 0 := by
  rw [digitsValue, List.foldl_map, Nat.ofDigitChars]
  simp only [Nat.mul_comm _ 10]
  rfl

theorem le_ofDigitChars (ds : List Char) (n : Nat) : n ≤ Nat.ofDigitChars 10 ds n := by
  have hpow : 0 < 10 ^ ds.length := Nat.pow_pos (by decide)
  rw [Nat.ofDigitChars_eq_ofDigitChars_zero]
  exact (Nat.le_mul_of_pos_left n hpow).trans (Nat.le_add_right _ _)

/-- Digits are taken into a significand as long as their value stays below the limit. -/
theorem takeDigits_of_lt {limit : Nat} {ds : List Char} {n : Nat}
    (h : Nat.ofDigitChars 10 ds n < limit) :
    takeDigits limit n (ds.map digitOf) = (Nat.ofDigitChars 10 ds n, []) := by
  induction ds generalizing n with
  | nil => rfl
  | cons c ds ih =>
    have hstep : Nat.ofDigitChars 10 (c :: ds) n = Nat.ofDigitChars 10 ds (n * 10 + digitOf c) := by
      rw [Nat.ofDigitChars_cons, Nat.mul_comm]
      rfl
    rw [hstep] at h
    rw [List.map_cons, takeDigits, if_pos ((le_ofDigitChars ds _).trans_lt h), ih h, hstep]

/-- Digits are worth less than one unit of the place in front of them. -/
theorem ofDigitChars_lt {ds : List Char} (hds : ∀ c ∈ ds, c.isDigit = true) :
    Nat.ofDigitChars 10 ds 0 < 10 ^ ds.length := by
  induction ds with
  | nil => decide
  | cons c ds ih =>
    obtain ⟨hc, hds⟩ := List.forall_mem_cons.mp hds
    calc Nat.ofDigitChars 10 (c :: ds) 0
        = 10 ^ ds.length * digitOf c + Nat.ofDigitChars 10 ds 0 := by
          rw [Nat.ofDigitChars_cons, Nat.ofDigitChars_eq_ofDigitChars_zero, Nat.mul_zero,
            Nat.zero_add]
          rfl
      _ < 10 ^ ds.length * digitOf c + 10 ^ ds.length := Nat.add_lt_add_left (ih hds) _
      _ = 10 ^ ds.length * (digitOf c + 1) := (Nat.mul_succ _ _).symm
      _ ≤ 10 ^ ds.length * 10 := Nat.mul_le_mul_left _ (digitOf_lt hc)
      _ = 10 ^ (c :: ds).length := (Nat.pow_succ ..).symm

theorem isDigit_of_mem_decimal {n : Nat} : ∀ c ∈ Text.decimal n, c.isDigit = true :=
  fun _ h => Nat.isDigit_of_mem_toDigits (by decide) (by decide) h

theorem ofDigitsFrom?_of_isDigit {ds : List Char} (hds : ∀ c ∈ ds, c.isDigit = true) (n : Nat) :
    Text.ofDigitsFrom? 10 n ds = some (Nat.ofDigitChars 10 ds n) := by
  induction ds generalizing n with
  | nil => rfl
  | cons c ds ih =>
    obtain ⟨hc, hds⟩ := List.forall_mem_cons.mp hds
    rw [Text.ofDigitsFrom?, digitIn?_of_isDigit hc, Option.bind_some, ih hds, Nat.ofDigitChars_cons,
      Nat.mul_comm n 10]
    rfl

/-- Digits are read, and nothing else is. -/
theorem ofDigitsFrom?_eq_some_iff {ds : List Char} {m n : Nat} :
    Text.ofDigitsFrom? 10 m ds = some n ↔
      (∀ c ∈ ds, c.isDigit = true) ∧ Nat.ofDigitChars 10 ds m = n := by
  constructor
  · intro h
    have hds : ∀ c ∈ ds, c.isDigit = true := by
      induction ds generalizing m with
      | nil => exact List.forall_mem_nil _
      | cons c ds ih =>
        obtain ⟨d, hd, hrest⟩ := Option.bind_eq_some_iff.mp h
        refine List.forall_mem_cons.mpr ⟨?_, ih hrest⟩
        by_contra hc
        rw [digitIn?_of_not_isDigit (Bool.eq_false_iff.mpr hc)] at hd
        cases hd
    rw [ofDigitsFrom?_of_isDigit hds] at h
    exact ⟨hds, Option.some.inj h⟩
  · rintro ⟨hds, rfl⟩
    exact ofDigitsFrom?_of_isDigit hds m

/-- A number is read from its digits. -/
theorem ofDigitsFrom?_decimal (n : Nat) : Text.ofDigitsFrom? 10 0 (Text.decimal n) = some n :=
  (ofDigitsFrom?_of_isDigit isDigit_of_mem_decimal 0).trans
    (congrArg some Nat.ofDigitChars_ten_toDigits)

/-- Only zero begins with a zero. -/
theorem head_decimal_ne {n : Nat} (hn : 0 < n) : (Text.decimal n).head? ≠ some '0' := by
  induction n using Nat.strong_induction_on with
  | h n ih =>
    rw [Text.decimal, Nat.toDigits_eq_if (by decide)]
    split_ifs with hlt
    · intro h
      have hvalue := Nat.toNat_digitChar_sub_48_of_lt_ten hlt
      rw [Option.some.inj h] at hvalue
      exact hn.ne hvalue
    · have hdiv : 0 < n / 10 := by omega
      have hhead := ih (n / 10) (by omega) hdiv
      rw [Text.decimal] at hhead
      obtain ⟨c, cs, hcs⟩ :=
        List.exists_cons_of_ne_nil (Nat.toDigits_ne_nil (n := n / 10) (b := 10))
      rw [hcs] at hhead ⊢
      exact hhead

/-! ### The parts of a number -/

/-- The parts of a number without its sign: the digits of its whole part and of its fraction, and
the sign and the digits of its power of ten. -/
structure NumberParts where
  whole : List Char
  fraction : List Char
  exponent : Option (Bool × List Char)

namespace NumberParts

/-- The text of a fraction. -/
def fractionChars (ds : List Char) : List Char := if ds = [] then [] else '.' :: ds

/-- The text of a power of ten. -/
def exponentChars : Option (Bool × List Char) → List Char
  | none => []
  | some (negative, ds) => 'e' :: (if negative then '-' else '+') :: ds

/-- The text of the parts. -/
def chars (p : NumberParts) : List Char :=
  p.whole ++ fractionChars p.fraction ++ exponentChars p.exponent

/-- The number with the given sign and parts. -/
def numberText (negative : Bool) (p : NumberParts) : NumberText :=
  ⟨negative, p.whole.map digitOf, p.fraction.map digitOf,
    p.exponent.map fun e => (e.1, e.2.map digitOf)⟩

/-- Whether the parts follow the grammar. -/
structure IsValid (p : NumberParts) : Prop where
  whole : ∀ c ∈ p.whole, c.isDigit = true
  whole_ne : p.whole ≠ []
  leading : p.whole.head? = some '0' → p.whole.length = 1
  fraction : ∀ c ∈ p.fraction, c.isDigit = true
  exponent : ∀ e, p.exponent = some e → e.2 ≠ [] ∧ ∀ c ∈ e.2, c.isDigit = true

end NumberParts

/-- Whether a text does not go on with a character of a number. -/
def EndsNumber (rest : List Char) : Prop :=
  ∀ c, rest.head? = some c → c.isDigit = false ∧ c ≠ '.' ∧ c ≠ 'e' ∧ c ≠ 'E'

theorem eq_zero_of_digitOf {c : Char} (h : c.isDigit = true) (hc : digitOf c = 0) : c = '0' := by
  have h' := ((isDigit_iff c).mp h).1
  rw [Char.le_def, UInt32.le_iff_toNat_le] at h'
  refine Char.toNat_inj.mp ?_
  unfold digitOf at hc
  change '0'.toNat ≤ c.toNat at h'
  omega

theorem readWhole_append {p : NumberParts} (hp : p.IsValid) {rest : List Char}
    (hrest : EndsDigits rest) :
    readWhole (p.whole ++ rest) = some (p.whole.map digitOf, rest) := by
  rw [readWhole, readDigits_append hp.whole hrest]
  have hdigits := hp.whole
  have hlead := hp.leading
  rcases hwhole : p.whole with _ | ⟨c, _ | ⟨c', cs⟩⟩
  · exact absurd hwhole hp.whole_ne
  · rw [List.map_singleton]
    rcases digitOf c with _ | d <;> rfl
  · rw [hwhole] at hlead hdigits
    have hne : digitOf c ≠ 0 := fun hzero => by
      obtain rfl := eq_zero_of_digitOf (hdigits c (.head _)) hzero
      exact absurd (hlead rfl) (by simp)
    obtain ⟨d, hd⟩ := Nat.exists_eq_succ_of_ne_zero hne
    rw [List.map_cons, hd]
    rfl

theorem readFraction_append {p : NumberParts} (hp : p.IsValid) {rest : List Char}
    (hrest : EndsDigits rest) (hpoint : rest.head? ≠ some '.') :
    readFraction (NumberParts.fractionChars p.fraction ++ rest) =
      some (p.fraction.map digitOf, rest) := by
  rcases hfraction : p.fraction with _ | ⟨c, cs⟩
  · rw [NumberParts.fractionChars, if_pos rfl, List.nil_append, readFraction.eq_def]
    split
    · next cs => exact absurd rfl hpoint
    · rfl
  · rw [NumberParts.fractionChars, if_neg (List.cons_ne_nil c cs), List.cons_append, readFraction,
      ← hfraction, readDigits_append hp.fraction hrest, hfraction]
    rfl

theorem readPower_append (negative : Bool) {ds rest : List Char} (hne : ds ≠ [])
    (hds : ∀ c ∈ ds, c.isDigit = true) (hrest : EndsDigits rest) :
    readPower negative (ds ++ rest) = some (some (negative, ds.map digitOf), rest) := by
  rw [readPower, readDigits_append hds hrest]
  obtain ⟨c, cs, rfl⟩ := List.exists_cons_of_ne_nil hne
  rfl

theorem readExponent_append {p : NumberParts} (hp : p.IsValid) {rest : List Char}
    (hrest : EndsNumber rest) :
    readExponent (NumberParts.exponentChars p.exponent ++ rest) =
      some (p.exponent.map fun e => (e.1, e.2.map digitOf), rest) := by
  have hdigits : EndsDigits rest := fun c hc => (hrest c hc).1
  rcases hexponent : p.exponent with _ | ⟨negative, ds⟩
  · cases rest with
    | nil => rfl
    | cons c rest =>
      obtain ⟨-, -, hlower, hupper⟩ := hrest c rfl
      simp only [NumberParts.exponentChars, List.nil_append, readExponent,
        if_neg (not_or.mpr ⟨hlower, hupper⟩)]
      rfl
  · obtain ⟨hne, hds⟩ := hp.exponent _ hexponent
    cases negative
    · exact readPower_append false hne hds hdigits
    · exact readPower_append true hne hds hdigits

theorem endsNumber_exponent {e : Option (Bool × List Char)} {rest : List Char}
    (hrest : EndsNumber rest) (c : Char)
    (hc : (NumberParts.exponentChars e ++ rest).head? = some c) : c.isDigit = false ∧ c ≠ '.' := by
  rcases e with _ | ⟨negative, ds⟩
  · exact ⟨(hrest c hc).1, (hrest c hc).2.1⟩
  · obtain rfl := Option.some.inj hc
    decide

theorem endsDigits_fraction {ds rest : List Char} (hrest : EndsDigits rest) :
    EndsDigits (NumberParts.fractionChars ds ++ rest) := by
  unfold NumberParts.fractionChars
  split_ifs
  · exact hrest
  · rintro c hc
    obtain rfl := Option.some.inj hc
    decide

/-- The parts of a number are read as they are written. -/
theorem readUnsigned_chars {p : NumberParts} (hp : p.IsValid) (negative : Bool) {rest : List Char}
    (hrest : EndsNumber rest) :
    readUnsigned negative (p.chars ++ rest) = some (p.numberText negative, rest) := by
  have hends := endsNumber_exponent (e := p.exponent) hrest
  have hdigits : EndsDigits (NumberParts.exponentChars p.exponent ++ rest) :=
    fun c hc => (hends c hc).1
  rw [NumberParts.chars, List.append_assoc, List.append_assoc]
  simp only [readUnsigned, readWhole_append hp (endsDigits_fraction hdigits),
    readFraction_append hp hdigits (fun h => (hends _ h).2 rfl), readExponent_append hp hrest,
    Option.bind_eq_bind, Option.bind_some]
  rfl

/-- A number begins with a sign or with a digit. -/
theorem NumberParts.exists_cons_chars {p : NumberParts} (hp : p.IsValid) (negative : Bool) :
    ∃ c cs, (if negative then ['-'] else []) ++ p.chars = c :: cs ∧
      (c = '-' ∨ c.isDigit = true) := by
  obtain ⟨c, cs, hwhole⟩ := List.exists_cons_of_ne_nil hp.whole_ne
  have hdigit : c.isDigit = true := hp.whole c (by rw [hwhole]; exact .head _)
  rw [NumberParts.chars, hwhole]
  cases negative with
  | true => exact ⟨'-', _, rfl, Or.inl rfl⟩
  | false => exact ⟨c, _, rfl, Or.inr hdigit⟩

/-- A number is read as it is written, with its sign. -/
theorem readNumber_chars {p : NumberParts} (hp : p.IsValid) (negative : Bool) {rest : List Char}
    (hrest : EndsNumber rest) :
    readNumber ((if negative then ['-'] else []) ++ p.chars ++ rest) =
      some (p.numberText negative, rest) := by
  have hread := readUnsigned_chars hp negative hrest
  cases negative with
  | true => exact hread
  | false =>
    rw [if_neg Bool.false_ne_true, List.nil_append, readNumber]
    · exact hread
    · obtain ⟨c, cs, hwhole⟩ := List.exists_cons_of_ne_nil hp.whole_ne
      have hdigit : c.isDigit = true := hp.whole c (by rw [hwhole]; exact .head _)
      rw [NumberParts.chars, hwhole]
      rintro cs' h
      obtain rfl := (List.cons.inj h).1
      exact absurd hdigit (by decide)

end CrowdTask.Json

namespace CrowdTask.Text

/-- Leading zeros do not count. -/
theorem ofDigitsFrom?_padded (width n : Nat) : ofDigitsFrom? 10 0 (padded width n) = some n := by
  rw [padded]
  induction width - (decimal n).length with
  | zero => exact Json.ofDigitsFrom?_decimal n
  | succ k ih => exact ih

theorem isDigit_of_mem_padded {width n : Nat} {c : Char} (hc : c ∈ padded width n) :
    c.isDigit = true := by
  rcases List.mem_append.mp hc with hc | hc
  · rw [List.eq_of_mem_replicate hc]
    rfl
  · exact Json.isDigit_of_mem_decimal c hc

/-- A numeral of 32 bits is read as it is written. -/
theorem unsigned32?_decimal (n : UInt32) : unsigned32? (decimal n.toNat) = some n.toNat := by
  have hplus : dropPlus (decimal n.toNat) = decimal n.toNat := by
    unfold dropPlus
    split
    · next cs heq =>
      have hdigit := Json.isDigit_of_mem_decimal '+' (heq ▸ List.mem_cons_self ..)
      cases hdigit
    · rfl
  have hne : (decimal n.toNat).isEmpty = false :=
    List.isEmpty_eq_false_iff.mpr Nat.toDigits_ne_nil
  have hfits : n.toNat < UInt32.size := n.toNat_lt
  rw [unsigned32?, unsigned?, hplus, ofDigits?, hne, if_neg Bool.false_ne_true,
    Json.ofDigitsFrom?_decimal, Option.filter_some, decide_eq_true hfits, if_pos rfl]

end CrowdTask.Text
