import CrowdTask.Duration.Phrase
import CrowdTask.Proofs.Identifier
import CrowdTask.Proofs.Json.Digits
import CrowdTask.Proofs.Text.Words

/-!
# Terms of duration phrases

A term is written as a number and the word of a unit, with a blank between them or none. Blanks
among the digits of a number do not count. The sum of a phrase of such terms is formed term by term,
from left to right. Every partial sum has to fit a word, which it does if the whole sum fits.

## Main definitions

* `CrowdTask.Duration.IsNumeral`: the decimal numerals.
* `CrowdTask.Duration.Term`: a term as it is written.
* `CrowdTask.Duration.addWritten`: the sum after one more term.
* `CrowdTask.Duration.Term.Adds`: the terms that add whole seconds.
* `CrowdTask.Duration.verdict`: what becomes of a phrase.

## Main results

* `CrowdTask.Duration.readWhole_append`: the value of a number.
* `CrowdTask.Duration.sum_compact`, `CrowdTask.Duration.sum_phrase`: the sum of a phrase.
* `CrowdTask.Duration.foldlM_addWritten`: a sum of whole seconds is checked as a whole.
* `CrowdTask.Duration.pos_of_parse`: no duration is empty.
-/

namespace CrowdTask.Duration

/-! ### Classes of characters -/

section Classes

variable {c : Char}

theorem toNat_of_isUnitLetter (h : isUnitLetter c = true) :
    (65 ≤ c.toNat ∧ c.toNat ≤ 122) ∨ c = 'µ' := by
  simp only [isUnitLetter, Bool.or_eq_true, Bool.and_eq_true, decide_eq_true_eq, Char.le_def,
    UInt32.le_iff_toNat_le] at h
  rcases h with (⟨hlow, hhigh⟩ | ⟨hlow, hhigh⟩) | hmicro
  · exact Or.inl ⟨Nat.le_trans (by decide) hlow, hhigh⟩
  · exact Or.inl ⟨hlow, Nat.le_trans hhigh (by decide)⟩
  · exact Or.inr hmicro

/-- The letters of a unit are neither digits nor blanks nor marks. -/
theorem class_of_isUnitLetter (h : isUnitLetter c = true) :
    c.isDigit = false ∧ Text.isBlank c = false ∧ c ≠ '.' ∧ c ≠ ',' := by
  rcases toNat_of_isUnitLetter h with ⟨hlow, hhigh⟩ | rfl
  · refine ⟨?_, ?_, ?_, ?_⟩
    · rw [Bool.eq_false_iff, Ne, Json.isDigit_iff, Char.le_def, Char.le_def,
        UInt32.le_iff_toNat_le, UInt32.le_iff_toNat_le]
      rintro ⟨-, h⟩
      exact absurd (Nat.le_trans hlow h) (by decide)
    · simp only [Text.isBlank, Bool.or_eq_false_iff, Bool.and_eq_false_iff,
        decide_eq_false_iff_not, beq_eq_false_iff_ne]
      omega
    · rintro rfl
      exact absurd hlow (by decide)
    · rintro rfl
      exact absurd hlow (by decide)
  · decide

/-- Digits are no capitals, and neither blanks nor marks. -/
theorem class_of_isDigit (h : c.isDigit = true) :
    (c.toNat < 128 ∧ c.isUpper = false) ∧ Text.isBlank c = false ∧ c ≠ ',' ∧ c ≠ 'a' := by
  obtain ⟨hlow, hhigh⟩ := (Json.isDigit_iff c).mp h
  rw [Char.le_def, UInt32.le_iff_toNat_le] at hlow hhigh
  refine ⟨⟨Nat.lt_of_le_of_lt hhigh (by decide), decide_eq_false fun ⟨hA, _⟩ => ?_⟩,
    isBlank_of_isIdChar (by simp [isIdChar, Char.isAlphanum, h]), ?_, ?_⟩
  · exact absurd (Nat.le_trans (UInt32.le_iff_toNat_le.mp hA) hhigh) (by decide)
  · rintro rfl
    exact absurd h (by decide)
  · rintro rfl
    exact absurd h (by decide)

end Classes

/-! ### Words of units -/

theorem words_spec (u : TimeUnit) : ∀ w ∈ u.words,
    w.toList ≠ [] ∧ (∀ c ∈ w.toList, isUnitLetter c = true) ∧ w.toList ≠ joiner ∧
      Text.lowercase w.toList = w.toList := by
  cases u <;> decide +kernel

/-- A word that stands for a unit consists of the letters of units, in small letters. -/
theorem spec_of_ofWord? {word : List Char} {u : TimeUnit} (h : TimeUnit.ofWord? word = some u) :
    word ≠ [] ∧ (∀ c ∈ word, isUnitLetter c = true) ∧ word ≠ joiner ∧
      Text.lowercase word = word := by
  have hany : u.words.any (fun w => w.toList == word) = true :=
    List.find?_some (p := fun v : TimeUnit => v.words.any fun w => w.toList == word) h
  obtain ⟨w, hw, hword⟩ := List.any_eq_true.mp hany
  rw [← beq_iff_eq.mp hword]
  exact words_spec u w hw

/-- The characters of a word that stands for a unit in any letter case. -/
theorem spec_of_ofWord?_lowercase {word : List Char} {u : TimeUnit}
    (h : TimeUnit.ofWord? (Text.lowercase word) = some u) :
    ∀ c ∈ word, c.toNat ≠ 0x3A3 ∧ Text.isBlank c = false := by
  obtain ⟨-, hletters, -⟩ := spec_of_ofWord? h
  have hsigma : ∀ c ∈ word, c.toNat ≠ 0x3A3 := by
    refine Text.ne_capitalSigma_of_lowercase (fun c hc => ?_) [] hletters
    rcases toNat_of_isUnitLetter hc with ⟨-, hhigh⟩ | rfl
    · omega
    · decide
  rw [Text.lowercase, Text.lowercaseAfter_eq_flatMap [] hsigma] at hletters
  refine fun c hc => ⟨hsigma c hc, Bool.eq_false_iff.mpr fun hblank => ?_⟩
  -- a blank would be found again among the small letters
  have hmem : c ∈ word.flatMap Text.lowerLetter :=
    List.mem_flatMap.mpr ⟨c, hc, by rw [Text.lowerLetter_of_isBlank hblank]; exact .head _⟩
  rw [(class_of_isUnitLetter (hletters c hmem)).2.1] at hblank
  cases hblank

/-! ### Numbers -/

/-- Whether a text is a decimal numeral. -/
def IsNumeral (cs : List Char) : Prop := cs ≠ [] ∧ ∀ c ∈ cs, c.isDigit = true

theorem isSmall_of_isNumeral {cs : List Char} (h : IsNumeral cs) : Text.IsSmall cs :=
  fun c hc => (class_of_isDigit (h.2 c hc)).1

theorem ne_joiner_of_isNumeral {cs : List Char} (h : IsNumeral cs) : cs ≠ joiner := by
  rintro rfl
  exact absurd (h.2 'a' (.head _)) (by decide)

/-- The value of digits that follow digits of value `n`, up to a character that is neither a digit
nor a blank. -/
theorem readWhole_append {n : Nat} (hn : n < wordLimit) {ds rest : List Char}
    (hds : ∀ c ∈ ds, c.isDigit = true ∨ Text.isBlank c = true)
    (hrest : ∀ c, rest.head? = some c → c.isDigit = false ∧ Text.isBlank c = false) :
    readWhole n (ds ++ rest) =
      (fit (Nat.ofDigitChars 10 (ds.filter Char.isDigit) n)).map fun m => (m, rest) := by
  induction ds generalizing n with
  | nil =>
    rw [List.nil_append, List.filter_nil, Nat.ofDigitChars_nil, fit, if_pos hn]
    cases rest with
    | nil => rfl
    | cons c rest =>
      obtain ⟨hdigit, hblank⟩ := hrest c rfl
      rw [readWhole, hdigit, hblank]
      rfl
  | cons c ds ih =>
    obtain ⟨hc, hds⟩ := List.forall_mem_cons.mp hds
    rw [List.cons_append, readWhole]
    by_cases hdigit : c.isDigit = true
    · have hvalue : Nat.ofDigitChars 10 ((c :: ds).filter Char.isDigit) n =
          Nat.ofDigitChars 10 (ds.filter Char.isDigit) (n * 10 + digitValue c) := by
        rw [List.filter_cons_of_pos hdigit, Nat.ofDigitChars_cons, Nat.mul_comm]
        rfl
      rw [if_pos hdigit, hvalue]
      split_ifs with hfits
      · exact ih hfits hds
      · have hle := Json.le_ofDigitChars (ds.filter Char.isDigit) (n * 10 + digitValue c)
        rw [fit, if_neg (by omega)]
        rfl
    · rw [if_neg hdigit, if_pos (hc.resolve_left hdigit), List.filter_cons_of_neg hdigit]
      exact ih hn hds

/-! ### Terms -/

/-- A term as it is written: a number, and the word of a unit. -/
structure Term where
  number : List Char
  word : List Char

namespace Term

/-- The characters of a term. -/
def chars (t : Term) : List Char := t.number ++ ' ' :: t.word

/-- The characters of a term without the blank between its number and its word. -/
def tight (t : Term) : List Char := t.number ++ t.word

/-- The term whose number has a blank at its end. -/
def spaced (t : Term) : Term := ⟨t.number ++ [' '], t.word⟩

theorem tight_spaced (t : Term) : t.spaced.tight = t.chars := by
  rw [tight, spaced, chars, List.append_assoc, List.singleton_append]

/-- The value of the number of a term, in which blanks do not count. -/
def value (t : Term) : Nat := Nat.ofDigitChars 10 (t.number.filter Char.isDigit) 0

/-- Whether a term has a number, which begins with a digit, and a word. -/
structure IsReadable (t : Term) : Prop where
  first : ∃ c cs, t.number = c :: cs ∧ c.isDigit = true
  number : ∀ c ∈ t.number, c.isDigit = true ∨ Text.isBlank c = true
  word_ne : t.word ≠ []
  word : ∀ c ∈ t.word, isUnitLetter c = true

theorem value_spaced (t : Term) : t.spaced.value = t.value := by
  rw [value, value, spaced, List.filter_append, List.filter_cons_of_neg (by decide),
    List.filter_nil, List.append_nil]

theorem IsReadable.spaced {t : Term} (h : t.IsReadable) : t.spaced.IsReadable where
  first := by
    obtain ⟨c, cs, hnumber, hc⟩ := h.first
    exact ⟨c, cs ++ [' '], congrArg (· ++ [' ']) hnumber, hc⟩
  number := List.forall_mem_append.mpr ⟨h.number, List.forall_mem_singleton.mpr (Or.inr rfl)⟩
  word_ne := h.word_ne
  word := h.word

end Term

/-- The sum after one more term. -/
def addWritten (e : Elapsed) (t : Term) : Except Fault Elapsed := do
  addTerm e (← fit t.value) none t.word

/-- A phrase of terms with a blank between neighbours. -/
def phrase (ts : List Term) : List Char := Text.joined [' '] (ts.map Term.chars)

/-- A phrase of terms without blanks between their numbers and their words. -/
def compact (ts : List Term) : List Char := Text.joined [' '] (ts.map Term.tight)

/-- What follows the first term of a compact phrase. -/
def following (ts : List Term) : List Char := if ts = [] then [] else ' ' :: compact ts

theorem phrase_eq_compact (ts : List Term) : phrase ts = compact (ts.map Term.spaced) := by
  rw [phrase, compact, List.map_map]
  exact congrArg _ (List.map_congr_left fun t _ => t.tight_spaced.symm)

theorem compact_cons (t : Term) (ts : List Term) : compact (t :: ts) = t.tight ++ following ts := by
  rcases eq_or_ne ts [] with rfl | hne
  · exact (List.append_nil _).symm
  · rw [following, if_neg hne, compact, List.map_cons, Text.joined_cons _ _ (by simpa using hne)]
    rfl

theorem length_le_compact {ts : List Term} (hts : ∀ t ∈ ts, t.IsReadable) :
    ts.length ≤ (compact ts).length := by
  induction ts with
  | nil => exact Nat.zero_le _
  | cons t ts ih =>
    obtain ⟨ht, hts⟩ := List.forall_mem_cons.mp hts
    have hfollowing : ts.length ≤ (following ts).length := by
      unfold following
      split_ifs with h
      · rw [h]
        rfl
      · exact Nat.le_succ_of_le (ih hts)
    have hword := List.length_pos_of_ne_nil ht.word_ne
    rw [compact_cons, List.length_append, Term.tight, List.length_append, List.length_cons]
    omega

theorem readOptionalFraction_of_ne {cs : List Char} (h : cs.head? ≠ some '.') :
    readOptionalFraction cs = .ok (none, cs) := by
  rw [readOptionalFraction.eq_def]
  split
  · exact absurd rfl h
  · rfl

section Sum

variable {t : Term} {ts : List Term} {e : Elapsed}

/-- What follows a term neither goes on with its word nor hides the next term. -/
theorem following_ends (ts : List Term) :
    (following ts).takeWhile isUnitLetter = [] ∧ (following ts).dropWhile isUnitLetter =
      following ts ∧ endsWord (following ts) = true := by
  unfold following
  split_ifs
  · exact ⟨rfl, rfl, rfl⟩
  · exact ⟨rfl, rfl, rfl⟩

/-- A phrase of terms begins with a digit. -/
theorem exists_compact_eq_cons (ts : List Term) (ht : t.IsReadable) :
    ∃ c ds, t.number = c :: ds ∧ c.isDigit = true ∧
      compact (t :: ts) = c :: (ds ++ (t.word ++ following ts)) := by
  obtain ⟨c, ds, hnumber, hc⟩ := ht.first
  refine ⟨c, ds, hnumber, hc, ?_⟩
  rw [compact_cons, Term.tight, hnumber, List.append_assoc]
  rfl

/-- One term is added, its first digit having been read. -/
theorem sumFrom_term (bound : Nat) (ht : t.IsReadable) {c : Char} {ds : List Char}
    (hnumber : t.number = c :: ds) :
    sumFrom (bound + 1) e (digitValue c) (ds ++ (t.word ++ following ts)) =
      addWritten e t >>= fun e =>
        match Text.trimStart (following ts) with
        | [] => .ok e
        | d :: rest =>
          if d.isDigit then sumFrom bound e (digitValue d) rest else .error .malformed := by
  obtain ⟨c', ds', hnumber', hc⟩ := ht.first
  obtain ⟨rfl, rfl⟩ := List.cons.inj (hnumber.symm.trans hnumber')
  obtain ⟨-, hds⟩ := List.forall_mem_cons.mp (hnumber ▸ ht.number)
  obtain ⟨l, letters, hword⟩ := List.exists_cons_of_ne_nil ht.word_ne
  obtain ⟨hdigit, hblank, hpoint, -⟩ := class_of_isUnitLetter (ht.word l (by simp [hword]))
  have hvalue : Nat.ofDigitChars 10 (ds.filter Char.isDigit) (digitValue c) = t.value := by
    rw [Term.value, hnumber, List.filter_cons_of_pos hc, Nat.ofDigitChars_cons]
    simp [digitValue]
  have hread : readWhole (digitValue c) (ds ++ (t.word ++ following ts)) =
      (fit t.value).map fun m => (m, t.word ++ following ts) := by
    rw [← hvalue]
    refine readWhole_append ((Json.digitOf_lt hc).trans (by decide)) hds ?_
    rw [hword]
    rintro d hd
    obtain rfl := Option.some.inj hd
    exact ⟨hdigit, hblank⟩
  have hfraction : readOptionalFraction (t.word ++ following ts) =
      .ok (none, t.word ++ following ts) := by
    refine readOptionalFraction_of_ne ?_
    rw [hword]
    exact fun h => hpoint (Option.some.inj h)
  obtain ⟨htake, hdrop, hends⟩ := following_ends ts
  rw [sumFrom, hread, addWritten]
  cases fit t.value with
  | error fault => rfl
  | ok m =>
    change (readOptionalFraction (t.word ++ following ts) >>= _) = _
    rw [hfraction]
    change (if endsWord ((t.word ++ following ts).dropWhile isUnitLetter) then _ else _) = _
    rw [List.dropWhile_append_of_pos ht.word, hdrop, if_pos hends,
      List.takeWhile_append_of_pos ht.word, htake, List.append_nil]
    rfl

/-- The terms of a phrase are added one after the other. -/
theorem sumFrom_compact (ts : List Term) : ∀ (t : Term) (bound : Nat) (e : Elapsed) (c : Char)
    (cs : List Char), (∀ t' ∈ t :: ts, t'.IsReadable) → compact (t :: ts) = c :: cs →
    ts.length < bound → sumFrom bound e (digitValue c) cs = (t :: ts).foldlM addWritten e := by
  induction ts with
  | nil =>
    intro t bound e c cs hts hphrase hbound
    obtain ⟨bound, rfl⟩ := Nat.exists_eq_succ_of_ne_zero (Nat.ne_of_gt hbound)
    obtain ⟨c', ds, hnumber, -, hchars⟩ := exists_compact_eq_cons [] (hts t (.head _))
    obtain ⟨rfl, rfl⟩ := List.cons.inj (hphrase.symm.trans hchars)
    rw [sumFrom_term bound (hts t (.head _)) hnumber]
    rfl
  | cons t' ts ih =>
    intro t bound e c cs hts hphrase hbound
    obtain ⟨bound, rfl⟩ := Nat.exists_eq_succ_of_ne_zero (Nat.ne_zero_of_lt hbound)
    obtain ⟨ht, hts⟩ := List.forall_mem_cons.mp hts
    obtain ⟨c', ds, hnumber, -, hchars⟩ := exists_compact_eq_cons (t' :: ts) ht
    obtain ⟨rfl, rfl⟩ := List.cons.inj (hphrase.symm.trans hchars)
    obtain ⟨d, ds', -, hd, hnext⟩ := exists_compact_eq_cons ts (hts t' (.head _))
    have htrim : Text.trimStart (following (t' :: ts)) =
        d :: (ds' ++ (t'.word ++ following ts)) := by
      rw [following, if_neg (List.cons_ne_nil _ _), hnext, Text.trimStart,
        List.dropWhile_cons_of_pos rfl,
        List.dropWhile_cons_of_neg (by simp [(class_of_isDigit hd).2.1])]
    rw [sumFrom_term bound ht hnumber, List.foldlM_cons, htrim]
    refine bind_congr fun e => ?_
    dsimp only
    rw [if_pos hd]
    exact ih t' bound e d _ hts hnext (Nat.lt_of_succ_lt_succ hbound)

/-- The sum of a compact phrase of terms. -/
theorem sum_compact (hne : ts ≠ []) (hts : ∀ t ∈ ts, t.IsReadable) :
    sum (compact ts) = ts.foldlM addWritten ⟨0, 0⟩ := by
  obtain ⟨t, ts, rfl⟩ := List.exists_cons_of_ne_nil hne
  obtain ⟨c, ds, -, hc, hphrase⟩ := exists_compact_eq_cons ts (hts t (.head _))
  have hlength := length_le_compact hts
  have htrim : Text.trimStart (compact (t :: ts)) = compact (t :: ts) := by
    rw [hphrase, Text.trimStart, List.dropWhile_cons_of_neg (by simp [(class_of_isDigit hc).2.1])]
  rw [sum, htrim, ← sumFrom_compact ts t (compact (t :: ts)).length ⟨0, 0⟩ c _ hts hphrase hlength,
    hphrase]
  exact if_pos hc

/-- The sum of a phrase of terms. -/
theorem sum_phrase (hne : ts ≠ []) (hts : ∀ t ∈ ts, t.IsReadable) :
    sum (phrase ts) = ts.foldlM addWritten ⟨0, 0⟩ := by
  have hadd (e : Elapsed) (t : Term) : addWritten e t.spaced = addWritten e t := by
    rw [addWritten, t.value_spaced]
    rfl
  rw [phrase_eq_compact, sum_compact (by simpa using hne) (List.forall_mem_map.mpr fun t ht =>
    (hts t ht).spaced), List.foldlM_map]
  simp only [hadd]

theorem fit_of_lt {n : Nat} (h : n < wordLimit) : fit n = .ok n := if_pos h

theorem fit_of_le {n : Nat} (h : wordLimit ≤ n) : fit n = .error .overflow := if_neg h.not_gt

/-- No unit has an empty amount. -/
theorem le_mul_of_amount {u : TimeUnit} {k : Nat} (n : Nat)
    (h : u.amount = .seconds k ∨ u.amount = .nanos k) : n ≤ n * k := by
  have hpos : 0 < k := by
    rcases h with h | h <;> cases u <;> cases h <;> decide
  exact Nat.le_mul_of_pos_right n hpos

/-- A term adds the amount of its unit, in the grain of the unit, as often as its number says. -/
theorem addWritten_of_amount {u : TimeUnit} (h : TimeUnit.ofWord? t.word = some u)
    {grain : Nat → Amount} (hgrain : grain = .seconds ∨ grain = .nanos) {k : Nat}
    (hamount : u.amount = grain k) :
    addWritten e t = fit (t.value * k) >>= fun n => e.add (grain n) := by
  have hle : t.value ≤ t.value * k := le_mul_of_amount t.value (by
    rcases hgrain with rfl | rfl
    · exact Or.inl hamount
    · exact Or.inr hamount)
  have htimes (n : Nat) : times n (grain k) = (fit (n * k)).map grain := by
    rcases hgrain with rfl | rfl <;> rfl
  have hadd : addWritten e t = fit t.value >>= fun n => times n (grain k) >>= e.add := by
    refine bind_congr fun n => ?_
    rw [addTerm, h, ← hamount]
    exact bind_congr fun amount => bind_pure (e.add amount)
  rw [hadd]
  rcases lt_or_ge t.value wordLimit with hlt | hge
  · rw [fit_of_lt hlt]
    change times t.value (grain k) >>= e.add = _
    rw [htimes]
    rcases fit (t.value * k) with fault | n <;> rfl
  · rw [fit_of_le hge, fit_of_le (hge.trans hle)]
    rfl

end Sum

/-! ### Whole seconds -/

/-- Whether a term adds so many whole seconds. -/
def Term.Adds (t : Term) (n : Nat) : Prop :=
  ∃ u k, TimeUnit.ofWord? t.word = some u ∧ u.amount = .seconds k ∧ n = t.value * k

theorem addWritten_of_adds {t : Term} {n : Nat} (h : t.Adds n) (e : Elapsed) :
    addWritten e t = (fit (e.seconds + n)).map fun s => ⟨s, e.nanos⟩ := by
  obtain ⟨u, k, hu, hamount, rfl⟩ := h
  rw [addWritten_of_amount hu (Or.inl rfl) hamount]
  rcases lt_or_ge (t.value * k) wordLimit with hlt | hge
  · rw [fit_of_lt hlt]
    change Elapsed.add e (.seconds (t.value * k)) = _
    rw [Elapsed.add]
    rcases fit (e.seconds + t.value * k) <;> rfl
  · rw [fit_of_le hge, fit_of_le (hge.trans (Nat.le_add_left _ _))]
    rfl

/-- A sum of terms in whole seconds fits if and only if the exact sum does. -/
theorem foldlM_addWritten {ts : List Term} {ns : List Nat} (h : List.Forall₂ Term.Adds ts ns)
    {e : Elapsed} (he : e.seconds < wordLimit) :
    ts.foldlM addWritten e = (fit (e.seconds + ns.sum)).map fun s => ⟨s, e.nanos⟩ := by
  induction h generalizing e with
  | nil =>
    rw [List.sum_nil, Nat.add_zero, fit_of_lt he]
    rfl
  | @cons t n ts ns ht hts ih =>
    rw [List.foldlM_cons, addWritten_of_adds ht, List.sum_cons, ← Nat.add_assoc]
    rcases lt_or_ge (e.seconds + n) wordLimit with hlt | hge
    · rw [fit_of_lt hlt]
      exact ih hlt
    · rw [fit_of_le hge, fit_of_le (hge.trans (Nat.le_add_right _ _))]
      rfl

/-! ### Whole phrases -/

/-- What becomes of a phrase whose terms amount to so many whole seconds, or to more than fit. -/
def verdict (text : String) : Option Nat → Except DurationError UInt64
  | none => .error (.overflow text)
  | some s => if s = 0 then .error (.malformed text) else .ok (.ofNat s)

theorem parse_of_sum {cs : List Char} (htrim : Text.trim cs = cs) {seconds : Option Nat}
    (hsum : (sum (termsOf cs)).map Elapsed.seconds = seconds.elim (.error .overflow) .ok) :
    parse (String.ofList cs) = verdict (String.ofList cs) seconds := by
  rw [parse, String.toList_ofList, htrim]
  rcases hterms : sum (termsOf cs) with fault | e
  · rw [hterms] at hsum
    rcases seconds with _ | s <;> cases hsum
    rfl
  · rw [hterms] at hsum
    rcases seconds with _ | s <;> cases hsum
    rfl

/-! ### Sums fit a word -/

theorem lt_of_fit {n m : Nat} (h : fit n = .ok m) : m < wordLimit := by
  rw [fit] at h
  split_ifs at h with hlt
  obtain rfl := Except.ok.inj h
  exact hlt

theorem bind_eq_ok {ε α β : Type} {x : Except ε α} {f : α → Except ε β} {b : β} :
    (x >>= f) = .ok b ↔ ∃ a, x = .ok a ∧ f a = .ok b := by
  rcases x with fault | a
  · exact iff_of_false nofun nofun
  · exact ⟨fun h => ⟨a, rfl, h⟩, fun ⟨a', ha, h⟩ => Except.ok.inj ha ▸ h⟩

section Bounds

variable {e e' : Elapsed}

/-- Whatever is added, the seconds fit a word. -/
theorem seconds_lt_of_add {a : Amount} (h : e.add a = .ok e') : e'.seconds < wordLimit := by
  rcases a with n | n
  · obtain ⟨s, hs, h⟩ := bind_eq_ok.mp h
    obtain rfl := Except.ok.inj h
    exact lt_of_fit hs
  · obtain ⟨nanos, -, h⟩ := bind_eq_ok.mp h
    split_ifs at h with hfull
    · rw [Elapsed.next] at h
      split_ifs at h with hlt
      obtain rfl := Except.ok.inj h
      exact hlt
    · obtain ⟨s, hs, h⟩ := bind_eq_ok.mp h
      obtain rfl := Except.ok.inj h
      exact lt_of_fit hs

theorem seconds_lt_of_addTerm {n : Nat} {fraction : Option Fraction} {word : List Char}
    (h : addTerm e n fraction word = .ok e') : e'.seconds < wordLimit := by
  rw [addTerm] at h
  split at h
  · cases h
  · obtain ⟨amount, -, h⟩ := bind_eq_ok.mp h
    obtain ⟨e₁, hadd, h⟩ := bind_eq_ok.mp h
    rcases fraction with _ | f
    · obtain rfl := Except.ok.inj h
      exact seconds_lt_of_add hadd
    · dsimp only at h
      split at h
      · cases h
      · obtain ⟨part, -, h⟩ := bind_eq_ok.mp h
        exact seconds_lt_of_add h

theorem seconds_lt_of_sumFrom {bound n : Nat} {cs : List Char}
    (h : sumFrom bound e n cs = .ok e') : e'.seconds < wordLimit := by
  induction bound generalizing e n cs with
  | zero => cases h
  | succ bound ih =>
    rw [sumFrom] at h
    obtain ⟨⟨n, cs⟩, -, h⟩ := bind_eq_ok.mp h
    obtain ⟨⟨fraction, cs⟩, -, h⟩ := bind_eq_ok.mp h
    dsimp only at h
    split_ifs at h with hends
    obtain ⟨e₁, hterm, h⟩ := bind_eq_ok.mp h
    split at h
    · obtain rfl := Except.ok.inj h
      exact seconds_lt_of_addTerm hterm
    · split_ifs at h with hdigit
      exact ih h

theorem seconds_lt_of_sum {cs : List Char} (h : sum cs = .ok e) : e.seconds < wordLimit := by
  rw [sum] at h
  split at h
  · cases h
  · split_ifs at h
    exact seconds_lt_of_sumFrom h

/-- No duration is empty. -/
theorem pos_of_parse {text : String} {s : UInt64} (h : parse text = .ok s) : 1 ≤ s.toNat := by
  unfold parse at h
  dsimp only at h
  split at h
  · cases h
  · cases h
  · cases h
  · next e hsum =>
    split_ifs at h with hzero
    obtain rfl := Except.ok.inj h
    rw [UInt64.toNat_ofNat_of_lt' (seconds_lt_of_sum hsum)]
    exact Nat.one_le_iff_ne_zero.mpr hzero

end Bounds

end CrowdTask.Duration
