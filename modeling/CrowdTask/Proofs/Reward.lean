import CrowdTask.Proofs.Identifier
import CrowdTask.Proofs.Json.Digits
import CrowdTask.Reward

/-!
# Rewards are read exactly

A price is an amount of dollars with any blanks around it, and optionally a dollar sign in front. An
amount has digits for the dollars, or a point with at most two digits for the cents, or both. The
prices of at most `2 ^ 64 - 1` cents are read, with all their digits, and no other text is. Among
them are the two ways in which a reward is written: an amount of dollars with exactly two digits of
cents, with and without the sign.

## Main definitions

* `CrowdTask.Reward.IsAmount`, `CrowdTask.Reward.IsPrice`: the texts that stand for a number of
  cents.

## Main results

* `CrowdTask.Reward.parse_eq_ok_iff`: the texts from which a reward is read.
* `CrowdTask.Reward.parse_dollars`, `CrowdTask.Reward.parse_display`: a reward is read from its
  amount.
* `CrowdTask.Reward.prices_read`: prices are read, and nothing else is.
-/

namespace CrowdTask.Reward

/-- Whether a text is an amount of `n` cents: digits for the dollars, or a point with at most two
digits for the cents, or both. A single digit of cents counts tens. -/
inductive IsAmount : List Char → Nat → Prop where
  | whole {ds : List Char} (hds : ∀ c ∈ ds, c.isDigit = true) (hne : ds ≠ []) :
      IsAmount ds (100 * Nat.ofDigitChars 10 ds 0)
  | point {ds fs : List Char} (hds : ∀ c ∈ ds, c.isDigit = true) (hfs : ∀ c ∈ fs, c.isDigit = true)
      (hlength : fs.length ≤ 2) (hne : ds ≠ [] ∨ fs ≠ []) :
      IsAmount (ds ++ '.' :: fs) (100 * Nat.ofDigitChars 10 ds 0 +
        Nat.ofDigitChars 10 (fs ++ List.replicate (2 - fs.length) '0') 0)

/-- Whether a text is empty, or a dollar sign with blanks after it. -/
inductive IsSign : List Char → Prop where
  | none : IsSign []
  | dollar {blanks : List Char} (hblanks : ∀ c ∈ blanks, Text.isBlank c = true) :
      IsSign ('$' :: blanks)

/-- Whether a text is a price of `n` cents: an amount of them, optionally after a dollar sign, with
any blanks around. -/
inductive IsPrice : List Char → Nat → Prop where
  | intro {before sign amount after : List Char} {n : Nat}
      (hbefore : ∀ c ∈ before, Text.isBlank c = true) (hsign : IsSign sign)
      (hamount : IsAmount amount n) (hafter : ∀ c ∈ after, Text.isBlank c = true) :
      IsPrice (before ++ (sign ++ amount) ++ after) n

variable {raw : String} {r : Reward} {cs ds fs : List Char} {n : Nat}

theorem isBlank_of_isDigit {c : Char} (h : c.isDigit = true) : Text.isBlank c = false :=
  isBlank_of_isIdChar (by simp [isIdChar, Char.isAlphanum, h])

/-! ### The value of an amount -/

theorem amount?_eq_some_iff :
    amount? ds = some n ↔
      (∀ c ∈ ds, c.isDigit = true) ∧ Nat.ofDigitChars 10 ds 0 = n ∧ n < UInt64.size := by
  rw [amount?, Option.filter_eq_some_iff, decide_eq_true_iff, Json.ofDigitsFrom?_eq_some_iff,
    and_assoc]

/-- The digits of the cents have room in 64 bits. -/
theorem amount?_cents_eq_some_iff (hlength : fs.length ≤ 2) :
    amount? (fs ++ List.replicate (2 - fs.length) '0') = some n ↔
      (∀ c ∈ fs, c.isDigit = true) ∧
        Nat.ofDigitChars 10 (fs ++ List.replicate (2 - fs.length) '0') 0 = n := by
  have hzeros : ∀ c ∈ List.replicate (2 - fs.length) '0', c.isDigit = true := fun c hc => by
    rw [List.eq_of_mem_replicate hc]
    rfl
  have htwo : (fs ++ List.replicate (2 - fs.length) '0').length = 2 := by
    rw [List.length_append, List.length_replicate]
    omega
  rw [amount?_eq_some_iff, List.forall_mem_append, and_iff_left hzeros]
  refine ⟨fun ⟨hfs, hvalue, _⟩ => ⟨hfs, hvalue⟩, fun ⟨hfs, hvalue⟩ => ⟨hfs, hvalue, ?_⟩⟩
  have hlt := Json.ofDigitChars_lt (List.forall_mem_append.mpr ⟨hfs, hzeros⟩)
  rw [htwo, hvalue] at hlt
  exact hlt.trans (by decide)

/-- The parts of an amount, of which not both are empty, and its cents. -/
theorem cents?_eq_some_iff :
    cents? ds fs = some n ↔
      (ds ≠ [] ∨ fs ≠ []) ∧ fs.length ≤ 2 ∧ (∀ c ∈ ds, c.isDigit = true) ∧
        (∀ c ∈ fs, c.isDigit = true) ∧ Nat.ofDigitChars 10 ds 0 < UInt64.size ∧
          n = 100 * Nat.ofDigitChars 10 ds 0 +
            Nat.ofDigitChars 10 (fs ++ List.replicate (2 - fs.length) '0') 0 := by
  have hempty : (ds.isEmpty && fs.isEmpty) = true ↔ ¬(ds ≠ [] ∨ fs ≠ []) := by
    rw [Bool.and_eq_true, List.isEmpty_iff, List.isEmpty_iff, not_or, not_not, not_not]
  rw [cents?]
  split_ifs with hnone hlong
  · exact iff_of_false nofun fun h => hempty.mp hnone h.1
  · exact iff_of_false nofun fun h => absurd h.2.1 (by omega)
  · have hlength : fs.length ≤ 2 := by omega
    rw [and_iff_right (not_not.mp (mt hempty.mpr hnone)), and_iff_right hlength]
    simp only [Option.bind_eq_bind, Option.bind_eq_some_iff, amount?_eq_some_iff,
      amount?_cents_eq_some_iff hlength, Option.some.injEq]
    constructor
    · rintro ⟨_, ⟨hds, rfl, hlt⟩, _, ⟨hfs, rfl⟩, rfl⟩
      exact ⟨hds, hfs, hlt, by rw [Nat.mul_comm]⟩
    · rintro ⟨hds, hfs, hlt, rfl⟩
      exact ⟨_, ⟨hds, rfl, hlt⟩, _, ⟨hfs, rfl⟩, by rw [Nat.mul_comm]⟩

/-- A text without a point, or what stands before and after its first point. -/
theorem eq_or_eq_append_point (cs : List Char) :
    (cs = cs.takeWhile (· ≠ '.') ∧ (cs.dropWhile (· ≠ '.')).drop 1 = []) ∨
      cs = cs.takeWhile (· ≠ '.') ++ '.' :: (cs.dropWhile (· ≠ '.')).drop 1 := by
  have hcs : cs = cs.takeWhile (· ≠ '.') ++ cs.dropWhile (· ≠ '.') :=
    List.takeWhile_append_dropWhile.symm
  have hhead := List.head?_dropWhile_not (fun c => decide (c ≠ '.')) cs
  rcases hrest : cs.dropWhile (· ≠ '.') with _ | ⟨c, rest⟩
  · rw [hrest, List.append_nil] at hcs
    exact Or.inl ⟨hcs, rfl⟩
  · rw [hrest] at hcs hhead
    obtain rfl : c = '.' := by simpa using hhead
    exact Or.inr hcs

/-- Digits and what stands after them are split at the point between them. -/
theorem split_append_point (hds : ∀ c ∈ ds, c.isDigit = true) (rest : List Char)
    (hrest : rest.takeWhile (· ≠ '.') = []) :
    (ds ++ rest).takeWhile (· ≠ '.') = ds ∧ (ds ++ rest).dropWhile (· ≠ '.') = rest := by
  have hpoint : ∀ c ∈ ds, decide (c ≠ '.') = true := fun c hc =>
    decide_eq_true (Json.ne_point_of_isDigit hds c hc)
  have hdrop : rest.dropWhile (· ≠ '.') = rest := by
    conv_rhs => rw [← List.takeWhile_append_dropWhile (p := (· ≠ '.')) (l := rest), hrest]
    rfl
  rw [List.takeWhile_append_of_pos hpoint, List.dropWhile_append_of_pos hpoint, hrest, hdrop,
    List.append_nil]
  exact ⟨rfl, rfl⟩

/-- The cents of the digits before and after the point of a text. -/
theorem cents?_split_eq_some_iff (h : n < UInt64.size) :
    cents? (cs.takeWhile (· ≠ '.')) ((cs.dropWhile (· ≠ '.')).drop 1) = some n ↔
      IsAmount cs n := by
  rw [cents?_eq_some_iff]
  constructor
  · have hcs := eq_or_eq_append_point cs
    generalize cs.takeWhile (· ≠ '.') = ds, (cs.dropWhile (· ≠ '.')).drop 1 = fs at hcs
    rintro ⟨hne, hlength, hds, hfs, -, rfl⟩
    rcases hcs with ⟨rfl, rfl⟩ | rfl
    · exact .whole hds (hne.resolve_right (not_not.mpr rfl))
    · exact .point hds hfs hlength hne
  · intro hamount
    cases hamount with
    | whole hds hne =>
      obtain ⟨htake, hdrop⟩ := split_append_point hds [] rfl
      rw [List.append_nil] at htake hdrop
      rw [htake, hdrop]
      exact ⟨Or.inl hne, by decide, hds, List.forall_mem_nil _, by omega, rfl⟩
    | point hds hfs hlength hne =>
      obtain ⟨htake, hdrop⟩ := split_append_point hds ('.' :: _) rfl
      rw [htake, hdrop]
      exact ⟨hne, hlength, hds, hfs, by omega, rfl⟩

/-! ### The ends of a price -/

theorem IsAmount.isDigit_or_of_mem (h : IsAmount cs n) :
    ∀ c ∈ cs, c.isDigit = true ∨ c = '.' := by
  cases h with
  | whole hds hne => exact fun c hc => Or.inl (hds c hc)
  | point hds hfs hlength hne =>
    exact List.forall_mem_append.mpr ⟨fun c hc => Or.inl (hds c hc),
      List.forall_mem_cons.mpr ⟨Or.inr rfl, fun c hc => Or.inl (hfs c hc)⟩⟩

theorem IsAmount.ne_nil (h : IsAmount cs n) : cs ≠ [] := by
  cases h with
  | whole hds hne => exact hne
  | point hds hfs hlength hne => simp

/-- An amount holds no blanks. -/
theorem IsAmount.isBlank_eq_false (h : IsAmount cs n) : ∀ c ∈ cs, Text.isBlank c = false := by
  intro c hc
  rcases h.isDigit_or_of_mem c hc with hdigit | rfl
  · exact isBlank_of_isDigit hdigit
  · rfl

/-- The blanks around a price, and its sign, are dropped. -/
theorem dropSign_trim_of_isAmount {before sign after : List Char}
    (hbefore : ∀ c ∈ before, Text.isBlank c = true) (hsign : IsSign sign) (hamount : IsAmount cs n)
    (hafter : ∀ c ∈ after, Text.isBlank c = true) :
    dropSign (Text.trim (before ++ (sign ++ cs) ++ after)) = cs := by
  have hblank := hamount.isBlank_eq_false
  obtain ⟨c, rest, rfl⟩ := List.exists_cons_of_ne_nil hamount.ne_nil
  have hstart : Text.trimStart (c :: rest) = c :: rest :=
    List.dropWhile_cons_of_neg (by simp [hblank c (.head _)])
  have hlast : ∀ d, (sign ++ c :: rest).getLast? = some d → Text.isBlank d = false := by
    intro d hd
    rw [List.getLast?_append_of_ne_nil _ (List.cons_ne_nil c rest)] at hd
    exact hblank d (List.mem_of_getLast? hd)
  rw [Text.trim, Text.strip_append hbefore hafter]
  cases hsign with
  | none =>
    rw [List.nil_append, Text.strip_eq_self (fun d hd => hblank d (List.mem_of_mem_head? hd)) hlast]
    have hdollar : c ≠ '$' := by
      rintro rfl
      rcases hamount.isDigit_or_of_mem '$' (.head _) with h | h
      · cases h
      · cases h
    rw [dropSign, hstart]
    exact fun _ h => hdollar (List.cons.inj h).1
  | dollar hblanks =>
    rw [Text.strip_eq_self (fun d hd => Option.some.inj hd ▸ rfl) hlast, List.cons_append, dropSign,
      Text.trimStart, List.dropWhile_append_of_pos hblanks]
    exact hstart

/-- What is dropped from a text are blanks, and a sign. -/
theorem exists_append_dropSign_trim (cs : List Char) :
    ∃ before sign after, (∀ c ∈ before, Text.isBlank c = true) ∧ IsSign sign ∧
      (∀ c ∈ after, Text.isBlank c = true) ∧
      cs = before ++ (sign ++ dropSign (Text.trim cs)) ++ after := by
  obtain ⟨before, after, hbefore, hafter, hcs⟩ := Text.exists_append_strip Text.isBlank cs
  have hblanks (ds : List Char) : ∀ c ∈ ds.takeWhile Text.isBlank, Text.isBlank c = true :=
    fun c hc => List.mem_takeWhile_imp hc
  have hstart (ds : List Char) : ds = ds.takeWhile Text.isBlank ++ Text.trimStart ds :=
    List.takeWhile_append_dropWhile.symm
  rw [← Text.trim] at hcs
  generalize Text.trim cs = ds at hcs
  subst hcs
  rw [dropSign.eq_def]
  split
  · next rest =>
    refine ⟨before, _, after, hbefore, .dollar (hblanks rest), hafter, ?_⟩
    rw [List.cons_append, ← hstart]
  · refine ⟨before ++ ds.takeWhile Text.isBlank, [], after,
      List.forall_mem_append.mpr ⟨hbefore, hblanks ds⟩, .none, hafter, ?_⟩
    rw [List.nil_append, List.append_assoc before _ (Text.trimStart ds), ← hstart ds]

/-! ### Prices -/

/-- A reward is read from the prices of its cents. -/
theorem parse_eq_ok_iff : parse raw = .ok r ↔ IsPrice raw.toList r.cents.toNat := by
  have hread : parse raw = .ok r ↔
      IsAmount (dropSign (Text.trim raw.toList)) r.cents.toNat := by
    rw [← cents?_split_eq_some_iff r.cents.toNat_lt, parse]
    split
    · next n hn =>
      obtain ⟨hcents, hlt⟩ := Option.filter_eq_some_iff.mp hn
      rw [hcents, Option.some.injEq, Except.ok.injEq]
      have hn : (UInt64.ofNat n).toNat = n := UInt64.toNat_ofNat_of_lt' (of_decide_eq_true hlt)
      constructor
      · rintro rfl
        exact hn.symm
      · rintro rfl
        rw [UInt64.ofNat_toNat]
    · next hnone =>
      refine iff_of_false nofun fun hcents => ?_
      rw [hcents, Option.filter_some, if_pos (decide_eq_true r.cents.toNat_lt)] at hnone
      cases hnone
  rw [hread]
  constructor
  · intro hamount
    obtain ⟨before, sign, after, hbefore, hsign, hafter, hcs⟩ :=
      exists_append_dropSign_trim raw.toList
    rw [hcs]
    exact .intro hbefore hsign hamount hafter
  · intro hprice
    generalize raw.toList = cs at hprice ⊢
    obtain ⟨hbefore, hsign, hamount, hafter⟩ := hprice
    rwa [dropSign_trim_of_isAmount hbefore hsign hamount hafter]

/-- What is refused is named. -/
theorem parse_eq_error_iff {e : RewardError} :
    parse raw = .error e ↔ e = ⟨raw⟩ ∧ ∀ r : Reward, ¬IsPrice raw.toList r.cents.toNat := by
  simp only [← parse_eq_ok_iff]
  have hcases : (∃ r, parse raw = .ok r) ∨ parse raw = .error ⟨raw⟩ := by
    rw [parse]
    split
    · exact Or.inl ⟨_, rfl⟩
    · exact Or.inr rfl
  rcases hcases with ⟨r, hr⟩ | herror
  · rw [hr]
    exact iff_of_false nofun fun h => h.2 r rfl
  · rw [herror, Except.error.injEq, eq_comm]
    exact (and_iff_left fun r => nofun).symm

/-! ### Rewards as they are written -/

theorem length_padded_two {n : Nat} (h : n < 100) : (Text.padded 2 n).length = 2 := by
  have hle : (Text.decimal n).length ≤ 2 :=
    (Nat.length_toDigits_le_iff (by decide) (by decide)).mpr h
  rw [Text.padded, List.length_append, List.length_replicate]
  omega

/-- An amount is written with two digits of cents. -/
theorem isAmount_dollarChars (r : Reward) : IsAmount r.dollarChars r.cents.toNat := by
  have hlength := length_padded_two (Nat.mod_lt r.cents.toNat (by decide : 0 < 100))
  have hcents := (Json.ofDigitsFrom?_eq_some_iff.mp
    (Text.ofDigitsFrom?_padded 2 (r.cents.toNat % 100))).2
  have hwhole : Nat.ofDigitChars 10 (Text.decimal (r.cents.toNat / 100)) 0 =
      r.cents.toNat / 100 := Nat.ofDigitChars_ten_toDigits
  have hdigits : ∀ c ∈ Text.decimal (r.cents.toNat / 100), c.isDigit = true :=
    Json.isDigit_of_mem_decimal
  have hamount := IsAmount.point hdigits (fun _ hc => Text.isDigit_of_mem_padded hc) hlength.le
    (Or.inl Nat.toDigits_ne_nil)
  rwa [hlength, Nat.sub_self, List.replicate_zero, List.append_nil, hcents, hwhole,
    Nat.div_add_mod] at hamount

/-- A reward is read from its amount after a sign. -/
theorem parse_signed (r : Reward) {sign : List Char} (hsign : IsSign sign) :
    parse (String.ofList (sign ++ r.dollarChars)) = .ok r := by
  have hblank : ∀ c ∈ [], Text.isBlank c = true := List.forall_mem_nil _
  have hprice := IsPrice.intro hblank hsign r.isAmount_dollarChars hblank
  rw [List.append_nil] at hprice
  rw [parse_eq_ok_iff, String.toList_ofList]
  exact hprice

/-- A reward is read from its amount. -/
theorem parse_dollars (r : Reward) : parse r.dollars = .ok r := by
  rw [dollars, ← List.nil_append r.dollarChars, r.parse_signed .none]

/-- A reward is read from its amount after a dollar sign. -/
theorem parse_display (r : Reward) : parse r.display = .ok r := by
  rw [display, ← List.singleton_append, r.parse_signed (.dollar (List.forall_mem_nil _))]

/-- **Prices are read exactly, and nothing else is.** A reward is read from the prices of its cents
and from no other text. A text that is the price of no reward, be it no price or too large for 64
bits, is refused by its name. Both ways in which a reward is written are read back. -/
theorem prices_read :
    (∀ (raw : String) (r : Reward), parse raw = .ok r ↔ IsPrice raw.toList r.cents.toNat) ∧
    (∀ (raw : String) (e : RewardError), parse raw = .error e ↔
      e = ⟨raw⟩ ∧ ∀ r : Reward, ¬IsPrice raw.toList r.cents.toNat) ∧
    ∀ r : Reward, parse r.dollars = .ok r ∧ parse r.display = .ok r :=
  ⟨fun _ _ => parse_eq_ok_iff, fun _ _ => parse_eq_error_iff,
    fun r => ⟨r.parse_dollars, r.parse_display⟩⟩

end CrowdTask.Reward
