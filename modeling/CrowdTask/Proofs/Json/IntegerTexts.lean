import CrowdTask.Proofs.Decimal.Overflow
import CrowdTask.Proofs.Json.DecimalValue
import CrowdTask.Proofs.Json.Printed

/-!
# Integers that are read and printed

An integer is a number without fraction and power of ten. If it fits 64 bits, it is read as it is
and printed with the digits that were read; only minus zero is not. A larger one is read as a binary
number, which is printed with a point or with a power of ten, so that its text is another one. If
even the largest binary number is less, the integer is no value at all, and where a text without a
value stands for itself, nothing is lost of it.

## Main definitions

* `CrowdTask.Json.IsInteger`: the texts of integers, with their values.
* `CrowdTask.Json.IsReadAs`: what the text of an integer is read as, or kept as.
* `CrowdTask.Json.IsShown`: the characters of a text, as a number or as a string.

## Main results

* `CrowdTask.Json.isReadAs_of_isInteger`: every integer is read or kept in one of three ways.
* `CrowdTask.Json.isShown_iff`: the integers that are printed as they are written.
-/

namespace CrowdTask.Json

/-- Whether digits are the numeral of a natural number: one digit or more, and no leading zero. -/
structure IsNatural (ds : List Char) : Prop where
  ne_nil : ds ≠ []
  isDigit : ∀ c ∈ ds, c.isDigit = true
  leading : ds.head? = some '0' → ds = ['0']

/-- The texts of integers, and their values: a numeral, optionally after a minus sign. -/
inductive IsInteger : List Char → Int → Prop where
  | nonneg {ds : List Char} (hds : IsNatural ds) : IsInteger ds (Nat.ofDigitChars 10 ds 0)
  | neg {ds : List Char} (hds : IsNatural ds) : IsInteger ('-' :: ds) (-Nat.ofDigitChars 10 ds 0)

/-- What becomes of the text `cs` of the integer `n`. -/
inductive IsReadAs (cs : List Char) (n : Int) : Json → Prop where
  /-- An integer that fits 64 bits, and is not minus zero, is kept as it is. -/
  | exact (w : WideInt) (hw : w.val = n) (hzero : cs ≠ "-0".toList) : IsReadAs cs n (.num (.int w))
  /-- Any other becomes a binary number, unless it is too large. -/
  | rounded (x : Binary64)
      (hn : cs = "-0".toList ∨ n < -9223372036854775808 ∨ 18446744073709551616 ≤ n)
      (hsmall : n.natAbs < tooLarge) : IsReadAs cs n (.num (.double x))
  /-- If it is too large, its text is kept. -/
  | kept (hlarge : tooLarge ≤ n.natAbs) : IsReadAs cs n (.str (String.ofList cs))

/-- Whether a text shows the characters `cs`, as they are or in quotes. -/
def IsShown (cs shown : List Char) : Prop := shown = cs ∨ shown = '"' :: cs ++ ['"']

variable {cs ds : List Char} {n : Int} {v : Json}

/-! ### Numerals without leading zeros -/

theorem digitChar_digitOf {c : Char} (hc : c.isDigit = true) : (digitOf c).digitChar = c := by
  have hlt := digitOf_lt hc
  have h := ((isDigit_iff c).mp hc).1
  rw [Char.le_def, UInt32.le_iff_toNat_le] at h
  refine Char.toNat_inj.mp ?_
  rw [Nat.toNat_digitChar_of_lt_ten hlt]
  change '0'.toNat ≤ c.toNat at h
  unfold digitOf
  have hzero : '0'.toNat = 48 := rfl
  omega

theorem decimal_append (hds : ∀ c ∈ ds, c.isDigit = true) {m : Nat} (hm : 0 < m) :
    Text.decimal m ++ ds = Text.decimal (Nat.ofDigitChars 10 ds m) := by
  induction ds generalizing m with
  | nil => rw [List.append_nil, Nat.ofDigitChars_nil]
  | cons c ds ih =>
    obtain ⟨hc, hds⟩ := List.forall_mem_cons.mp hds
    have hstep : Text.decimal m ++ [c] = Text.decimal (10 * m + digitOf c) := by
      have happ := Nat.toDigits_append_toDigits (by decide) hm (digitOf_lt hc)
      rwa [Nat.toDigits_of_lt_base (digitOf_lt hc), digitChar_digitOf hc] at happ
    rw [← List.singleton_append, ← List.append_assoc, hstep, ih hds (by omega),
      List.singleton_append, Nat.ofDigitChars_cons]
    rfl

namespace IsNatural

/-- A numeral without leading zeros is the one that is written for its value. -/
theorem eq_decimal (h : IsNatural ds) : ds = Text.decimal (Nat.ofDigitChars 10 ds 0) := by
  obtain ⟨c, rest, rfl⟩ := List.exists_cons_of_ne_nil h.ne_nil
  obtain ⟨hc, hrest⟩ := List.forall_mem_cons.mp h.isDigit
  by_cases hzero : c = '0'
  · subst hzero
    rw [h.leading rfl]
    rfl
  · have hpos : 0 < digitOf c := Nat.pos_of_ne_zero fun h => hzero (eq_zero_of_digitOf hc h)
    have hfirst : Text.decimal (digitOf c) = [c] := by
      rw [Text.decimal, Nat.toDigits_of_lt_base (digitOf_lt hc), digitChar_digitOf hc]
    have happ := decimal_append hrest hpos
    rw [hfirst, List.singleton_append] at happ
    rw [Nat.ofDigitChars_cons, Nat.mul_zero, Nat.zero_add]
    exact happ

theorem isValid (h : IsNatural ds) : NumberParts.IsValid ⟨ds, [], none⟩ where
  whole := h.isDigit
  whole_ne := h.ne_nil
  leading := fun hhead => by
    have hds := h.leading hhead
    rw [hds]
    rfl
  fraction := nofun
  exponent := nofun

end IsNatural

namespace IsInteger

theorem exists_sign (h : IsInteger cs n) : ∃ (negative : Bool) (ds : List Char), IsNatural ds ∧
    cs = (if negative then ['-'] else []) ++ ds ∧
      n = if negative then -(Nat.ofDigitChars 10 ds 0 : Int) else Nat.ofDigitChars 10 ds 0 := by
  cases h with
  | nonneg hds => exact ⟨false, _, hds, rfl, rfl⟩
  | neg hds => exact ⟨true, _, hds, rfl, rfl⟩

theorem isDigit_or_eq (h : IsInteger cs n) : ∀ c ∈ cs, c.isDigit = true ∨ c = '-' := by
  cases h with
  | nonneg hds => exact fun c hc => Or.inl (hds.isDigit c hc)
  | neg hds =>
    exact List.forall_mem_cons.mpr ⟨Or.inr rfl, fun c hc => Or.inl (hds.isDigit c hc)⟩

/-- An integer other than minus zero is written as its value. -/
theorem eq_decimalInt (h : IsInteger cs n) (hzero : cs ≠ "-0".toList) : cs = Text.decimalInt n := by
  cases h with
  | nonneg hds => exact hds.eq_decimal
  | @neg ds hds =>
    have hne : Nat.ofDigitChars 10 ds 0 ≠ 0 := by
      intro hvalue
      have hds' := hds.eq_decimal
      rw [hvalue] at hds'
      exact hzero (congrArg _ hds')
    obtain ⟨m, hm⟩ := Nat.exists_eq_succ_of_ne_zero hne
    have hds' := hds.eq_decimal
    rw [hm] at hds' ⊢
    exact congrArg _ hds'

end IsInteger

theorem isInteger_decimal (m : Nat) : IsInteger (Text.decimal m) m := by
  have hds : IsNatural (Text.decimal m) := by
    refine ⟨NumberParts.decimal_ne_nil m, isDigit_of_mem_decimal, fun hhead => ?_⟩
    rcases Nat.eq_zero_or_pos m with rfl | hm
    · rfl
    · exact absurd hhead (head_decimal_ne hm)
  have hvalue := IsInteger.nonneg hds
  rwa [NumberParts.ofDigitChars_decimal] at hvalue

/-! ### Integers that are read -/

/-- As many leading digits are taken as stay below the limit. -/
theorem exists_takeDigits (limit m : Nat) (ds : List Char) :
    ∃ taken rest, ds = taken ++ rest ∧
      takeDigits limit m (ds.map digitOf) = (Nat.ofDigitChars 10 taken m, rest.map digitOf) ∧
      (m < limit → Nat.ofDigitChars 10 taken m < limit) ∧
      ∀ c ∈ rest.head?, limit ≤ Nat.ofDigitChars 10 taken m * 10 + digitOf c := by
  induction ds generalizing m with
  | nil => exact ⟨[], [], rfl, rfl, id, nofun⟩
  | cons c ds ih =>
    rw [List.map_cons, takeDigits]
    split_ifs with hlt
    · obtain ⟨taken, rest, rfl, htake, hfits, hnext⟩ := ih (m * 10 + digitOf c)
      have hstep : Nat.ofDigitChars 10 (c :: taken) m =
          Nat.ofDigitChars 10 taken (m * 10 + digitOf c) := by
        rw [Nat.ofDigitChars_cons, Nat.mul_comm]
        rfl
      refine ⟨c :: taken, rest, rfl, ?_⟩
      rw [hstep]
      exact ⟨htake, fun _ => hfits hlt, hnext⟩
    · refine ⟨[], c :: ds, rfl, rfl, id, ?_⟩
      rintro _ ⟨⟩
      exact Nat.not_lt.mp hlt

/-- An integer that does not fit 64 bits becomes a binary number unless it is too large. -/
theorem toNumber?_of_size_le (hds : ∀ c ∈ ds, c.isDigit = true) (negative : Bool)
    (hsize : UInt64.size ≤ Nat.ofDigitChars 10 ds 0) :
    ∃ bits? : Option Nat, (NumberParts.numberText negative ⟨ds, [], none⟩).toNumber? =
        bits?.map (NumberParts.numberText negative ⟨ds, [], none⟩).double ∧
      (bits?.isSome ↔ Nat.ofDigitChars 10 ds 0 < tooLarge) := by
  obtain ⟨taken, rest, rfl, htake, hfits, hnext⟩ := exists_takeDigits UInt64.size 0 ds
  generalize hs : Nat.ofDigitChars 10 taken 0 = s at htake hfits hnext
  have hvalue : Nat.ofDigitChars 10 (taken ++ rest) 0 =
      10 ^ rest.length * s + Nat.ofDigitChars 10 rest 0 := by
    rw [Nat.ofDigitChars_append, hs, Nat.ofDigitChars_eq_ofDigitChars_zero]
  have hrest := ofDigitChars_lt (List.forall_mem_append.mp hds).2
  rcases rest with _ | ⟨c, rest⟩
  · rw [List.append_nil, hs] at hsize
    exact absurd (hfits (by decide)) (Nat.not_lt.mpr hsize)
  have hleading : 1844674407370955161 ≤ s := by
    have hc := digitOf_lt ((List.forall_mem_append.mp hds).2 c (.head _))
    have := hnext c rfl
    simp only [UInt64.size] at this
    omega
  refine ⟨scaled? s (c :: rest).length, ?_, ?_⟩
  · simp only [NumberText.toNumber?, NumberParts.numberText, htake]
    simp [takeDigits]
  · refine scaled?_isSome_iff_lt hleading (hfits (by decide)) ?_ ?_
    · rw [hvalue, Nat.mul_comm]
      exact Nat.le_add_right _ _
    · rw [hvalue, Nat.mul_comm, Nat.succ_mul]
      exact Nat.add_lt_add_left hrest _

/-- The text of a number is read as the number that it is. -/
theorem read?_chars {p : NumberParts} (hp : p.IsValid) (negative : Bool) :
    read? (String.ofList ((if negative then ['-'] else []) ++ p.chars)) =
      (p.numberText negative).toNumber?.map .num := by
  obtain ⟨c, rest, hchars, hc⟩ := NumberParts.exists_cons_chars hp negative
  have hend : EndsNumber [] := nofun
  have hnumber := readNumber_chars hp negative hend
  rw [List.append_nil, hchars] at hnumber
  have hraw : Raw.readChars? (c :: rest) = some (.num (p.numberText negative)) := by
    rw [Raw.readChars?, Raw.readValue_number hc, hnumber]
    rfl
  rw [read?, Raw.read?, String.toList_ofList, hchars, hraw, Option.bind_some, Raw.toJson?]

theorem size_lt_tooLarge : UInt64.size < tooLarge := by
  have hpow : 10 ^ 1 ≤ 10 ^ 289 := tenPow_le (by decide)
  calc UInt64.size < 17976931348623156225 * 10 ^ 1 := by decide
    _ ≤ 17976931348623156225 * 10 ^ 289 := Nat.mul_le_mul_left _ hpow

/-- An integer whose digits fit 64 bits is kept unless its sign makes a difference. -/
theorem isReadAs_toInteger (hds : IsNatural ds) (negative : Bool)
    (hsize : Nat.ofDigitChars 10 ds 0 < UInt64.size) :
    IsReadAs ((if negative then ['-'] else []) ++ ds)
      (if negative then -(Nat.ofDigitChars 10 ds 0 : Int) else Nat.ofDigitChars 10 ds 0)
      (.num ((NumberParts.numberText negative ⟨ds, [], none⟩).toInteger
        (Nat.ofDigitChars 10 ds 0))) := by
  have hdecimal := hds.eq_decimal
  have hlarge := size_lt_tooLarge
  generalize Nat.ofDigitChars 10 ds 0 = m at hsize hdecimal ⊢
  simp only [UInt64.size] at hsize hlarge
  unfold NumberText.toInteger
  cases negative with
  | false =>
    have hint : WideInt.ofInt? m = some ⟨m, by omega, by omega⟩ :=
      dif_pos ⟨by omega, by omega⟩
    have hsign : ds ≠ "-0".toList := fun h => absurd (hds.isDigit '-' (by simp [h])) (by decide)
    simp only [NumberParts.numberText, if_neg Bool.false_ne_true, hint]
    exact .exact _ rfl hsign
  | true =>
    simp only [NumberParts.numberText, if_pos]
    split_ifs with hzero
    · subst hzero
      exact .rounded _ (Or.inl (congrArg _ hdecimal)) (by simp only [Int.natAbs_neg]; omega)
    · have hsign : '-' :: ds ≠ "-0".toList := by
        intro h
        have hds' : ds = Text.decimal 0 := (List.cons.inj h).2
        have hvalue := congrArg (Nat.ofDigitChars 10 · 0) (hdecimal.symm.trans hds')
        rw [NumberParts.ofDigitChars_decimal, NumberParts.ofDigitChars_decimal] at hvalue
        exact hzero hvalue
      by_cases hlower : -9223372036854775808 ≤ -(m : Int)
      · have hint : WideInt.ofInt? (-(m : Int)) = some ⟨-m, hlower, by omega⟩ :=
          dif_pos ⟨hlower, by omega⟩
        simp only [hint]
        exact .exact _ rfl hsign
      · have hint : WideInt.ofInt? (-(m : Int)) = none := dif_neg fun h => hlower h.1
        simp only [hint]
        exact .rounded _ (Or.inr (by omega)) (by simp only [Int.natAbs_neg]; omega)

/-- Every integer is kept as it is, becomes a binary number, or is too large and stays a text. -/
theorem isReadAs_of_isInteger (h : IsInteger cs n) :
    IsReadAs cs n ((read? (String.ofList cs)).getD (.str (String.ofList cs))) := by
  obtain ⟨negative, ds, hds, rfl, rfl⟩ := h.exists_sign
  have hchars : NumberParts.chars ⟨ds, [], none⟩ = ds := by
    simp [NumberParts.chars, NumberParts.fractionChars, NumberParts.exponentChars]
  have hread := read?_chars hds.isValid negative
  rw [hchars] at hread
  rw [hread]
  rcases Nat.lt_or_ge (Nat.ofDigitChars 10 ds 0) UInt64.size with hsize | hsize
  · have hnumber : (NumberParts.numberText negative ⟨ds, [], none⟩).toNumber? =
        some ((NumberParts.numberText negative ⟨ds, [], none⟩).toInteger
          (Nat.ofDigitChars 10 ds 0)) := by
      simp only [NumberText.toNumber?, NumberParts.numberText, takeDigits_of_lt hsize]
      rfl
    rw [hnumber]
    exact isReadAs_toInteger hds negative hsize
  · have habs : (if negative then -(Nat.ofDigitChars 10 ds 0 : Int)
        else Nat.ofDigitChars 10 ds 0).natAbs = Nat.ofDigitChars 10 ds 0 := by
      split_ifs
      · exact Int.natAbs_neg _
      · rfl
    obtain ⟨bits?, hbits, hsome⟩ := toNumber?_of_size_le hds.isDigit negative hsize
    rw [hbits]
    cases bits? with
    | none =>
      refine .kept ?_
      rw [habs]
      exact Nat.not_lt.mp fun hlt => Bool.false_ne_true (hsome.mpr hlt)
    | some bits =>
      refine .rounded _ (Or.inr ?_) (by rw [habs]; exact hsome.mp rfl)
      simp only [UInt64.size] at hsize
      split_ifs <;> omega

/-! ### Integers that are printed -/

theorem stringChars_of_isInteger (h : IsInteger cs n) :
    stringChars (String.ofList cs) = '"' :: cs ++ ['"'] := by
  have hdigit : ∀ d < 10, escapeChar d.digitChar = [d.digitChar] := by decide
  have hchar : ∀ c ∈ cs, escapeChar c = [c] := by
    intro c hc
    rcases h.isDigit_or_eq c hc with hc | rfl
    · rw [← digitChar_digitOf hc]
      exact hdigit _ (digitOf_lt hc)
    · rfl
  rw [stringChars, String.toList_ofList, List.flatMap_congr hchar, List.flatMap_singleton']

/-- A binary number is printed with a point or with a power of ten. -/
theorem Number.exists_mem_render_double (x : Binary64) :
    ∃ c ∈ (double x).render, c = '.' ∨ c = 'e' := by
  rw [render_eq, NumberParts.chars]
  rcases hexponent : (double x).parts.exponent with _ | e
  · have hfraction := fraction_parts_ne_nil hexponent
    exact ⟨'.', by simp [NumberParts.fractionChars, hfraction], Or.inl rfl⟩
  · exact ⟨'e', by simp [NumberParts.exponentChars], Or.inr rfl⟩

/-- The text of a binary number is that of no integer. -/
theorem not_isShown_double (h : IsInteger cs n) (x : Binary64) :
    ¬IsShown cs (Number.double x).render := by
  rintro (hshown | hshown)
  · obtain ⟨c, hc, hmark⟩ := Number.exists_mem_render_double x
    rw [hshown] at hc
    have hc' := h.isDigit_or_eq c hc
    rcases hmark with rfl | rfl
    · exact absurd hc' (by decide)
    · exact absurd hc' (by decide)
  · obtain ⟨c, rest, hrender, hc⟩ := (Number.double x).exists_cons_render
    obtain rfl := (List.cons.inj (hrender.symm.trans hshown)).1
    exact absurd hc (by decide)

/-- The integers that are printed with the characters of their text, as a number or in quotes: those
that fit 64 bits, except minus zero, and those that are too large. -/
theorem isShown_iff (h : IsInteger cs n) (hv : IsReadAs cs n v) (depth : Nat) :
    IsShown cs (v.indentedChars depth) ↔
      cs ≠ "-0".toList ∧ -9223372036854775808 ≤ n ∧ n < 18446744073709551616 ∨
        tooLarge ≤ n.natAbs := by
  cases hv with
  | exact w hw hzero =>
    refine iff_of_true (Or.inl ?_) (Or.inl ⟨hzero, hw ▸ w.lower, hw ▸ w.upper⟩)
    rw [h.eq_decimalInt hzero, ← hw]
    rfl
  | rounded x hn hsmall =>
    refine iff_of_false (not_isShown_double h x) ?_
    rintro (⟨hzero, hlower, hupper⟩ | hlarge)
    · rcases hn with hn | hn
      · exact hzero hn
      · omega
    · exact absurd hsmall (Nat.not_lt.mpr hlarge)
  | kept hlarge => exact iff_of_true (Or.inr (stringChars_of_isInteger h)) (Or.inr hlarge)

end CrowdTask.Json
