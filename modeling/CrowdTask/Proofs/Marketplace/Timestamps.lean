import CrowdTask.Marketplace.Reply
import CrowdTask.Proofs.Json.DecimalValue

/-!
# Points in time in replies

A reply gives a point in time as a number of seconds, of which the whole ones count. They are taken
from the text of the number: what stands before its point. So a power of ten in the text is lost.
Numbers of seconds are written with one if they are tiny, or too large for the calendar; then the
first digit is taken for the seconds, unless it is the only one, and the number is refused. All
other numbers are read as they should be.

## Main definitions

* `CrowdTask.TaskReply.instantAt`: the point in time that a number of seconds stands for.
* `CrowdTask.TaskReply.IsLegible`: the numbers whose whole part stands before a point.

## Main results

* `CrowdTask.TaskReply.instant_double`: a power of ten is lost.
* `CrowdTask.TaskReply.instant_eq_iff`: which numbers are read as they should be.
* `CrowdTask.TaskReply.status_misread`: a reply whose points in time are misread.
-/

namespace CrowdTask

open Json

/-! ### Seconds that the calendar covers -/

theorem Instant.checked?_ofSeconds (s : ℤ) :
    (Instant.ofSeconds s).checked? =
      if firstSecond ≤ s ∧ s ≤ lastSecond then some (.ofSeconds s) else none := by
  have hseconds : (Instant.ofSeconds s).seconds = s := Int.mul_ediv_cancel s (by decide)
  simp only [checked?, Representable, hseconds]

/-- Seconds that need 63 bits are beyond the calendar. -/
theorem Instant.checked?_ofSeconds_of_le {s : ℤ} (h : (Text.signedLimit : ℤ) ≤ |s|) :
    (Instant.ofSeconds s).checked? = none := by
  rw [checked?_ofSeconds, if_neg]
  rintro ⟨hlower, hupper⟩
  rw [firstSecond] at hlower
  rw [lastSecond] at hupper
  rw [Text.signedLimit, le_abs] at h
  omega

/-! ### Numerals with a sign -/

section Signed

variable {ds : List Char} (hds : ∀ c ∈ ds, c.isDigit = true) (hne : ds ≠ [])

include hds hne

theorem Text.ofDigits?_of_isDigit : ofDigits? 10 ds = some (Nat.ofDigitChars 10 ds 0) := by
  rw [ofDigits?, List.isEmpty_eq_false_iff.mpr hne, ofDigitsFrom?_of_isDigit hds]
  rfl

theorem Text.signed64?_minus :
    signed64? ('-' :: ds) = if Nat.ofDigitChars 10 ds 0 ≤ signedLimit then
      some (-(Nat.ofDigitChars 10 ds 0 : ℤ)) else none := by
  rw [signed64?, ofDigits?_of_isDigit hds hne, Option.filter_some]
  by_cases h : Nat.ofDigitChars 10 ds 0 ≤ signedLimit <;> simp [h]

theorem Text.signed64?_of_isDigit :
    signed64? ds = if Nat.ofDigitChars 10 ds 0 < signedLimit then
      some (Nat.ofDigitChars 10 ds 0 : ℤ) else none := by
  have hsign {c : Char} {cs : List Char} (h : ds = c :: cs) : c.isDigit = true :=
    hds c (by rw [h]; exact .head _)
  have hplus : dropPlus ds = ds := by
    rw [dropPlus.eq_def]
    split
    · exact absurd (hsign rfl) (by decide)
    · rfl
  rw [signed64?.eq_def]
  split
  · exact absurd (hsign rfl) (by decide)
  · rw [hplus, ofDigits?_of_isDigit hds hne, Option.filter_some]
    by_cases h : Nat.ofDigitChars 10 ds 0 < signedLimit <;> simp [h]

/-- A numeral stands for its seconds, as far as the calendar goes. -/
theorem checked?_signed64? (negative : Bool) :
    ((Text.signed64? ((if negative then ['-'] else []) ++ ds)).bind
        fun s => (Instant.ofSeconds s).checked?) =
      (Instant.ofSeconds (if negative then -(Nat.ofDigitChars 10 ds 0 : ℤ)
        else Nat.ofDigitChars 10 ds 0)).checked? := by
  cases negative with
  | true =>
    rw [if_pos rfl, if_pos rfl, List.singleton_append, Text.signed64?_minus hds hne]
    split_ifs with h
    · rw [Option.bind_some]
    · refine (Instant.checked?_ofSeconds_of_le ?_).symm
      rw [abs_neg, Nat.abs_cast]
      omega
  | false =>
    rw [if_neg Bool.false_ne_true, if_neg Bool.false_ne_true, List.nil_append,
      Text.signed64?_of_isDigit hds hne]
    split_ifs with h
    · rw [Option.bind_some]
    · refine (Instant.checked?_ofSeconds_of_le ?_).symm
      rw [Nat.abs_cast]
      omega

end Signed

namespace TaskReply

/-- The point in time that a number of seconds stands for: that of its whole seconds. -/
def instantAt (field : String) (q : ℚ) : Except ResponseFault Instant :=
  match (Instant.ofSeconds (truncated q)).checked? with
  | some t => .ok t
  | none => .error (.invalidTimestamp field)

theorem instant_some (field : String) (n : Json.Number) :
    instant field (some n) =
      match (wholeSeconds? n).bind fun s => (Instant.ofSeconds s).checked? with
      | some t => .ok t
      | none => .error (.invalidTimestamp field) := rfl

/-! ### Binary numbers -/

section Text

variable {n : Json.Number}

/-- No point stands in the sign and the whole part of a number. -/
theorem ne_point_of_mem_whole (n : Json.Number) :
    ∀ c ∈ (if n.isNegative then ['-'] else []) ++ n.parts.whole, c ≠ '.' := by
  refine List.forall_mem_append.mpr ⟨fun c hc => ?_, ne_point_of_isDigit n.isValid_parts.whole⟩
  split_ifs at hc
  · obtain rfl := List.mem_singleton.mp hc
    decide
  · cases hc

/-- A number without a fraction has no point. -/
theorem contains_point_eq_false (h : n.parts.fraction = []) :
    n.render.contains '.' = false := by
  have hexponent : ∀ c ∈ NumberParts.exponentChars n.parts.exponent, c ≠ '.' := by
    rcases hpower : n.parts.exponent with _ | ⟨down, ds⟩
    · exact List.forall_mem_nil _
    · refine List.forall_mem_cons.mpr ⟨by decide, List.forall_mem_cons.mpr ⟨?_, ?_⟩⟩
      · cases down <;> decide
      · exact ne_point_of_isDigit (n.isValid_parts.exponent _ hpower).2
  rw [Number.render_eq, NumberParts.chars, h, NumberParts.fractionChars, if_pos rfl,
    List.append_nil, ← List.append_assoc, List.contains_eq_mem, decide_eq_false_iff_not]
  exact fun hmem =>
    (List.forall_mem_append.mpr ⟨ne_point_of_mem_whole n, hexponent⟩) '.' hmem rfl

/-- The point of a number with a fraction stands behind its sign and its whole part. -/
theorem render_of_fraction_ne_nil (h : n.parts.fraction ≠ []) :
    ∃ rest, n.render =
      ((if n.isNegative then ['-'] else []) ++ n.parts.whole) ++ '.' :: rest := by
  refine ⟨n.parts.fraction ++ NumberParts.exponentChars n.parts.exponent, ?_⟩
  rw [Number.render_eq, NumberParts.chars, NumberParts.fractionChars, if_neg h]
  simp only [List.append_assoc, List.cons_append]

end Text

/-- A power of ten is lost. -/
theorem instant_double (field : String) (x : Binary64) :
    instant field (some (.double x)) =
      if (Number.double x).parts.fraction = [] then .error (.invalidTimestamp field)
      else instantAt field (Number.double x).written.mantissa.value := by
  have hseconds : wholeSeconds? (.double x) =
      if (Number.double x).render.contains '.' then
        Text.signed64? ((Number.double x).render.takeWhile (· ≠ '.')) else none := rfl
  generalize Number.double x = n at hseconds ⊢
  have hvalid := n.isValid_parts
  rw [instant_some, hseconds]
  by_cases hempty : n.parts.fraction = []
  · rw [if_pos hempty, contains_point_eq_false hempty, if_neg Bool.false_ne_true]
    rfl
  · obtain ⟨rest, hrest⟩ := render_of_fraction_ne_nil hempty
    have hbefore := ne_point_of_mem_whole n
    rw [if_neg hempty, hrest, List.contains_eq_mem, if_pos (by simp),
      List.takeWhile_append_of_pos fun c hc => decide_eq_true (hbefore c hc),
      List.takeWhile_cons_of_neg (by decide), List.append_nil,
      checked?_signed64? hvalid.whole hvalid.whole_ne, instantAt, Number.written,
      truncated_mantissa hvalid]

/-! ### All numbers -/

theorem instant_int (field : String) (n : WideInt) :
    instant field (some (.int n)) = instantAt field n.val := by
  have hseconds : wholeSeconds? (.int n) = if n.val < Text.signedLimit then some n.val else none :=
    rfl
  rw [instant_some, hseconds, instantAt, truncated_intCast]
  split_ifs with h
  · rw [Option.bind_some]
  · rw [Instant.checked?_ofSeconds_of_le ((not_lt.mp h).trans (le_abs_self _)), Option.bind_none]

theorem instantAt_of_abs_lt_one (field : String) {q : ℚ} (h : |q| < 1) :
    instantAt field q = .ok (.ofSeconds 0) := by
  rw [instantAt, truncated_eq_zero h]
  rfl

theorem instantAt_of_le_abs (field : String) {q : ℚ} (h : (10 : ℚ) ^ (16 : ℤ) ≤ |q|) :
    instantAt field q = .error (.invalidTimestamp field) := by
  have hle : ((10 ^ 16 : ℕ) : ℤ) ≤ |truncated q| := le_abs_truncated (by exact_mod_cast h)
  rw [instantAt, Instant.checked?_ofSeconds, if_neg]
  rintro ⟨hlower, hupper⟩
  rw [Instant.firstSecond] at hlower
  rw [Instant.lastSecond] at hupper
  rw [le_abs] at hle
  omega

/-- Whether the whole part of a number stands before the point of its text, or the text has no point
and the number is beyond the calendar. -/
def IsLegible : Json.Number → Prop
  | .int _ => True
  | .double x =>
    let q := |(Number.double x).printed|
    q = 0 ∨ (10 : ℚ) ^ (-5 : ℤ) ≤ q ∧ q < 10 ^ (16 : ℤ) ∨
      (10 : ℚ) ^ (16 : ℤ) ≤ q ∧ (Number.double x).parts.fraction = []

/-- What becomes of a number with a power of ten. -/
theorem instant_of_exponent_ne_none (field : String) {x : Binary64}
    (h : (Number.double x).parts.exponent ≠ none) :
    if (Number.double x).parts.fraction = [] then
      instant field (some (.double x)) = .error (.invalidTimestamp field)
    else ∃ d : ℤ, d = truncated (Number.double x).written.mantissa.value ∧ 1 ≤ |d| ∧ |d| ≤ 9 ∧
      instant field (some (.double x)) = .ok (.ofSeconds d) := by
  have hinstant := instant_double field x
  obtain ⟨hlower, hupper⟩ := Number.whole_parts_of_exponent_ne_none h
  have htruncated : truncated (Number.double x).written.mantissa.value = _ :=
    truncated_mantissa (Number.double x).isValid_parts _
  generalize Nat.ofDigitChars 10 (Number.double x).parts.whole 0 = w at hlower hupper htruncated
  split_ifs at hinstant ⊢ with hempty
  · exact hinstant
  · have hd : 1 ≤ |truncated (Number.double x).written.mantissa.value| ∧
        |truncated (Number.double x).written.mantissa.value| ≤ 9 := by
      rw [htruncated]
      split_ifs
      · rw [abs_neg, Nat.abs_cast]
        omega
      · rw [Nat.abs_cast]
        omega
    refine ⟨_, rfl, hd.1, hd.2, ?_⟩
    rw [hinstant, instantAt, Instant.checked?_ofSeconds, if_pos]
    obtain ⟨-, hle⟩ := hd
    rw [abs_le] at hle
    rw [Instant.firstSecond, Instant.lastSecond]
    omega

theorem instant_of_exponent_eq_none (field : String) {x : Binary64}
    (h : (Number.double x).parts.exponent = none) :
    instant field (some (.double x)) = instantAt field (Number.double x).printed := by
  have hmantissa : (Number.double x).written.mantissa = (Number.double x).written := by
    rw [Number.written, NumberText.mantissa, NumberParts.numberText, h]
    rfl
  rw [instant_double, if_neg (Number.fraction_parts_ne_nil h), hmantissa, Number.printed]

/-- A number with a power of ten is read as it should be only if it has no fraction and is beyond
the calendar. -/
theorem instant_eq_iff_of_exponent_ne_none (field : String) {x : Binary64}
    (h : (Number.double x).parts.exponent ≠ none) :
    instant field (some (.double x)) = instantAt field (Number.double x).printed ↔
      IsLegible (.double x) := by
  have houtside := mt (Number.exponent_parts_eq_none_iff x).mpr h
  rw [not_or, ← abs_eq_zero, not_and_or, not_le, not_lt] at houtside
  obtain ⟨hne, houtside⟩ := houtside
  have hmisread := instant_of_exponent_ne_none field h
  rcases houtside with htiny | hhuge
  · have hone : |(Number.double x).printed| < 1 := htiny.trans (by norm_num)
    have hlarge : |(Number.double x).printed| < 10 ^ (16 : ℤ) := hone.trans (by norm_num)
    refine iff_of_false (fun heq => ?_) ?_
    · rw [instantAt_of_abs_lt_one field hone] at heq
      split_ifs at hmisread
      · rw [hmisread] at heq
        cases heq
      · obtain ⟨d, -, hd, -, hinstant⟩ := hmisread
        have hzero : d * Instant.second = 0 * Instant.second :=
          congrArg Instant.nanos (Except.ok.inj (hinstant.symm.trans heq))
        rw [Int.eq_of_mul_eq_mul_right (by decide) hzero] at hd
        exact absurd hd (by decide)
    · rintro (hzero | ⟨hlower, -⟩ | ⟨hupper, -⟩)
      · exact hne hzero
      · exact hlower.not_gt htiny
      · exact hupper.not_gt hlarge
  · have hlegible : IsLegible (.double x) ↔ (Number.double x).parts.fraction = [] := by
      refine ⟨?_, fun hempty => Or.inr (Or.inr ⟨hhuge, hempty⟩)⟩
      rintro (hzero | ⟨-, hupper⟩ | ⟨-, hempty⟩)
      · exact absurd hzero hne
      · exact absurd hupper hhuge.not_gt
      · exact hempty
    rw [hlegible, instantAt_of_le_abs field hhuge]
    split_ifs at hmisread with hempty
    · exact iff_of_true hmisread hempty
    · obtain ⟨d, -, -, -, hinstant⟩ := hmisread
      exact iff_of_false (by rw [hinstant]; exact nofun) hempty

theorem isLegible_of_exponent_eq_none {x : Binary64}
    (h : (Number.double x).parts.exponent = none) : IsLegible (.double x) := by
  rcases (Number.exponent_parts_eq_none_iff x).mp h with hzero | hbetween
  · exact Or.inl (by rw [hzero, abs_zero])
  · exact Or.inr (Or.inl hbetween)

/-- **The whole seconds of a number are what stands before the point of its text.** That is the
point in time of the number unless a power of ten is written: then a single digit is refused, and
otherwise the first digit is taken for the seconds. -/
theorem instant_eq_iff (field : String) (n : Json.Number) :
    (instant field (some n) = instantAt field n.printed ↔ IsLegible n) ∧
      (¬IsLegible n →
        if n.parts.fraction = [] then instant field (some n) = .error (.invalidTimestamp field)
        else ∃ d : ℤ, d = truncated n.written.mantissa.value ∧ 1 ≤ |d| ∧ |d| ≤ 9 ∧
          instant field (some n) = .ok (.ofSeconds d)) := by
  cases n with
  | int n =>
    refine ⟨iff_of_true ?_ trivial, fun h => absurd trivial h⟩
    rw [instant_int, Number.printed_int]
  | double x =>
    refine ⟨?_, fun h => instant_of_exponent_ne_none field (mt isLegible_of_exponent_eq_none h)⟩
    by_cases hpower : (Number.double x).parts.exponent = none
    · exact iff_of_true (instant_of_exponent_eq_none field hpower)
        (isLegible_of_exponent_eq_none hpower)
    · exact instant_eq_iff_of_exponent_ne_none field hpower

/-- A reply with points in time that are written with powers of ten. -/
def oddReply : String :=
  "\x7b\"HIT\": \x7b\"HITId\": \"H\", \"HITTypeId\": \"T\", \"CreationTime\": 1.5e-7, " ++
    "\"Expiration\": 1.7092908e18\x7d\x7d"

/-- What is read of the points in time in a reply: the numbers, and what they are taken for. -/
def timesOf (text : String) :
    Option (Option Json.Number × Option Json.Number × Except ResponseFault (Instant × Instant)) :=
  ((Json.Raw.read? text).bind ofReply?).map fun r =>
    (r.createdAt, r.expiresAt, r.status.map fun s => (s.createdAt, s.expiresAt))

theorem printed_tiny : (Number.double ⟨4504762867522569078⟩).printed = 15 / 10 ^ 8 := by
  have hwritten : (Number.double ⟨4504762867522569078⟩).written =
      ⟨false, [1], [5], some (true, [7])⟩ := by decide +kernel
  rw [Number.printed, hwritten]
  norm_num [NumberText.value, NumberText.magnitude, NumberText.power, digitsValue]

theorem printed_huge :
    (Number.double ⟨4879571714002376672⟩).printed = 1709290800000000000 := by
  have hwritten : (Number.double ⟨4879571714002376672⟩).written =
      ⟨false, [1], [7, 0, 9, 2, 9, 0, 8], some (false, [1, 8])⟩ := by decide +kernel
  rw [Number.printed, hwritten]
  norm_num [NumberText.value, NumberText.magnitude, NumberText.power, digitsValue]

/-- A tiny number of seconds is taken for one second, and so is a number beyond the calendar. -/
theorem status_misread :
    timesOf oddReply = some (some (.double ⟨4504762867522569078⟩),
        some (.double ⟨4879571714002376672⟩), .ok (.ofSeconds 1, .ofSeconds 1)) ∧
      instantAt "CreationTime" (Number.double ⟨4504762867522569078⟩).printed =
        .ok (.ofSeconds 0) ∧
      instantAt "Expiration" (Number.double ⟨4879571714002376672⟩).printed =
        .error (.invalidTimestamp "Expiration") := by
  refine ⟨by decide +kernel, instantAt_of_abs_lt_one _ ?_, instantAt_of_le_abs _ ?_⟩
  · rw [printed_tiny]
    norm_num
  · rw [printed_huge]
    norm_num

end TaskReply

end CrowdTask
