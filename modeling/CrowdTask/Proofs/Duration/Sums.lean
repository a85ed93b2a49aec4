import CrowdTask.Proofs.Duration.Terms

/-!
# Phrases mean their sum

A phrase counts units from seconds to weeks, in any order and as often as one likes. Blanks and
commas separate its terms, with any number of connectors among them. Such a phrase is read as the
sum of its terms. Since no term takes anything away, no partial sum is too large if the whole sum
fits, so neither the order of the terms nor what separates them makes a difference.

## Main definitions

* `CrowdTask.Duration.unitWords`: the words for units from a second to a week.
* `CrowdTask.Duration.Quantity`: a number of units.
* `CrowdTask.Duration.IsTerm`, `CrowdTask.Duration.IsGap`, `CrowdTask.Duration.IsPhrase`: how terms,
  what separates them, and whole phrases are written.
* `CrowdTask.Duration.IsReadAs`: the terms that are found in a phrase.

## Main results

* `CrowdTask.Duration.isReadAs_of_isPhrase`: the terms of a phrase are found again.
* `CrowdTask.Duration.parse_phrase`: a phrase is read as its sum.
* `CrowdTask.Duration.phrases_mean_their_sum`: this, and that the order of terms does not matter.
-/

namespace CrowdTask

/-- Why the sum of a refused phrase cannot be formed. -/
def DurationError.fault : DurationError → Duration.Fault
  | .malformed _ => .malformed
  | .overflow _ => .overflow
  | .beyondCount _ => .beyondCount

namespace Duration

/-! ### How phrases are written -/

/-- A number of units of `size` seconds. -/
structure Quantity where
  number : Nat
  size : Nat

/-- The seconds in a number of units. -/
def Quantity.seconds (q : Quantity) : Nat := q.number * q.size

/-- The seconds in several quantities. -/
def total (qs : List Quantity) : Nat := (qs.map Quantity.seconds).sum

/-- The words for the units from a second to a week, and the seconds in one of them. -/
def unitWords : List (String × Nat) :=
  [("seconds", 1), ("second", 1), ("secs", 1), ("sec", 1), ("s", 1), ("minutes", 60),
    ("minute", 60), ("mins", 60), ("min", 60), ("m", 60), ("hours", 3600), ("hour", 3600),
    ("hrs", 3600), ("hr", 3600), ("h", 3600), ("days", 86400), ("day", 86400), ("d", 86400),
    ("weeks", 604800), ("week", 604800), ("wks", 604800), ("wk", 604800), ("w", 604800)]

/-- Whether a word, in any letter case, stands for a unit of `size` seconds. -/
def IsUnitWord (word : List Char) (size : Nat) : Prop :=
  ∃ w, (w, size) ∈ unitWords ∧ Text.lowercase word = w.toList

/-- How a quantity is written: a numeral and the word of a unit, with any blanks between them. -/
inductive IsTerm : Quantity → List Char → Prop where
  | intro {numeral blanks word : List Char} {size : Nat} (hnumeral : IsNumeral numeral)
      (hblanks : ∀ c ∈ blanks, Text.isBlank c = true) (hword : IsUnitWord word size) :
      IsTerm ⟨Nat.ofDigitChars 10 numeral 0, size⟩ (numeral ++ (blanks ++ word))

/-- What separates two terms: blanks and commas, and among them the connector in any letter case, as
a word of its own. -/
inductive IsGap : List Char → Prop where
  | single {c : Char} (hc : Text.isBlank c = true ∨ c = ',') : IsGap [c]
  | cons {c : Char} {gap : List Char} (hc : Text.isBlank c = true ∨ c = ',') (hgap : IsGap gap) :
      IsGap (c :: gap)
  | connector {c : Char} {word gap : List Char} (hc : Text.isBlank c = true ∨ c = ',')
      (hword : Text.lowercase word = "and".toList) (hgap : IsGap gap) : IsGap (c :: (word ++ gap))

/-- How several quantities are written one after the other. -/
inductive IsPhrase : List Quantity → List Char → Prop where
  | single {q : Quantity} {cs : List Char} (hterm : IsTerm q cs) : IsPhrase [q] cs
  | cons {q : Quantity} {qs : List Quantity} {cs gap rest : List Char} (hterm : IsTerm q cs)
      (hgap : IsGap gap) (hrest : IsPhrase qs rest) : IsPhrase (q :: qs) (cs ++ (gap ++ rest))

/-! ### Words of units -/

theorem unitWords_spec : ∀ p ∈ unitWords,
    (TimeUnit.ofWord? p.1.toList).map TimeUnit.amount = some (.seconds p.2) := by
  decide +kernel

theorem IsUnitWord.exists_unit {word : List Char} {size : Nat} (h : IsUnitWord word size) :
    ∃ u, TimeUnit.ofWord? (Text.lowercase word) = some u ∧ u.amount = .seconds size := by
  obtain ⟨w, hw, hword⟩ := h
  have hunit : (TimeUnit.ofWord? w.toList).map TimeUnit.amount = some (.seconds size) :=
    unitWords_spec (w, size) hw
  rw [hword]
  exact Option.map_eq_some_iff.mp hunit

/-! ### Words of phrases -/

/-- The words of a phrase, in small letters and without connectors. -/
def kept (cs : List Char) : List (List Char) :=
  (Text.fields isSeparator (Text.lowercase cs)).filter fun w => w ≠ joiner

section Kept

variable {c : Char} {cs rest : List Char}

theorem isSeparator_iff : isSeparator c = true ↔ Text.isBlank c = true ∨ c = ',' := by
  rw [isSeparator, Bool.or_eq_true, decide_eq_true_eq]

/-- Separators have no case. -/
theorem case_of_isSeparator (h : isSeparator c = true) :
    c.toNat ≠ 0x3A3 ∧ Text.lowerLetter c = [c] := by
  rcases isSeparator_iff.mp h with hblank | rfl
  · exact Text.case_of_isBlank hblank
  · decide

/-- A separator cuts a phrase in two. -/
theorem kept_append_cons (hc : isSeparator c = true) (hcs : ∀ c ∈ cs, c.toNat ≠ 0x3A3)
    (hrest : ∀ c ∈ rest, c.toNat ≠ 0x3A3) : kept (cs ++ c :: rest) = kept cs ++ kept rest := by
  obtain ⟨hsigma, -⟩ := case_of_isSeparator hc
  have hlower : Text.lowercase [c] = [c] :=
    Text.lowercase_of_forall (List.forall_mem_singleton.mpr (case_of_isSeparator hc))
  rw [kept, Text.lowercase_append_of_forall hcs (List.forall_mem_cons.mpr ⟨hsigma, hrest⟩),
    ← List.singleton_append, Text.lowercase_append_of_forall (by simpa using hsigma) hrest, hlower,
    List.singleton_append, Text.fields_append_cons _ hc, List.filter_append]
  rfl

/-- A word other than the connector is kept. -/
theorem kept_of_forall (hne : Text.lowercase cs ≠ [])
    (h : ∀ c ∈ Text.lowercase cs, isSeparator c = false) (hjoiner : Text.lowercase cs ≠ joiner) :
    kept cs = [Text.lowercase cs] := by
  rw [kept, Text.fields_of_forall hne h, List.filter_cons_of_pos (by simpa using hjoiner),
    List.filter_nil]

theorem kept_joiner (h : Text.lowercase cs = "and".toList) : kept cs = [] := by
  rw [kept, h]
  decide

theorem isSeparator_of_isDigit (h : c.isDigit = true) : isSeparator c = false := by
  obtain ⟨-, hblank, hcomma, -⟩ := class_of_isDigit h
  simp [isSeparator, hblank, hcomma]

theorem isSeparator_of_isUnitLetter (h : isUnitLetter c = true) : isSeparator c = false := by
  obtain ⟨-, hblank, -, hcomma⟩ := class_of_isUnitLetter h
  simp [isSeparator, hblank, hcomma]

end Kept

/-! ### What separates terms -/

section Gap

variable {gap : List Char}

theorem ne_capitalSigma_of_isGap (h : IsGap gap) : ∀ c ∈ gap, c.toNat ≠ 0x3A3 := by
  have hplain {c : Char} (hc : Text.isBlank c = true ∨ c = ',') : c.toNat ≠ 0x3A3 :=
    (case_of_isSeparator (isSeparator_iff.mpr hc)).1
  induction h with
  | single hc => exact List.forall_mem_singleton.mpr (hplain hc)
  | cons hc _ ih => exact List.forall_mem_cons.mpr ⟨hplain hc, ih⟩
  | @connector c word gap hc hword _ ih =>
    have hsigma : ∀ c ∈ word, c.toNat ≠ 0x3A3 := by
      refine Text.ne_capitalSigma_of_lowercase (p := fun c => c.toNat < 0x3A3) (fun _ h => h) [] ?_
      change ∀ c ∈ Text.lowercase word, c.toNat < 0x3A3
      rw [hword]
      decide
    exact List.forall_mem_cons.mpr ⟨hplain hc, List.forall_mem_append.mpr ⟨hsigma, ih⟩⟩

/-- What separates two terms is lost. -/
theorem kept_append_gap (h : IsGap gap) {rest : List Char} (hrest : ∀ c ∈ rest, c.toNat ≠ 0x3A3)
    {cs : List Char} (hcs : ∀ c ∈ cs, c.toNat ≠ 0x3A3) :
    kept (cs ++ (gap ++ rest)) = kept cs ++ kept rest := by
  induction h generalizing cs with
  | single hc => exact kept_append_cons (isSeparator_iff.mpr hc) hcs hrest
  | @cons c gap hc hgap ih =>
    have hafter := List.forall_mem_append.mpr ⟨ne_capitalSigma_of_isGap hgap, hrest⟩
    rw [List.cons_append, kept_append_cons (isSeparator_iff.mpr hc) hcs hafter]
    exact congrArg _ (ih (List.forall_mem_nil _))
  | @connector c word gap hc hword hgap ih =>
    obtain ⟨-, hwords⟩ := List.forall_mem_cons.mp
      (ne_capitalSigma_of_isGap (.connector hc hword hgap))
    have hafter := List.forall_mem_append.mpr ⟨hwords, hrest⟩
    rw [List.cons_append, kept_append_cons (isSeparator_iff.mpr hc) hcs hafter, List.append_assoc,
      ih (List.forall_mem_append.mp hwords).1, kept_joiner hword, List.nil_append]

end Gap

/-! ### What is read -/

section Term

variable {numeral blanks word : List Char} {u : TimeUnit} (hnumeral : IsNumeral numeral)
  (hword : TimeUnit.ofWord? (Text.lowercase word) = some u)

include hnumeral

theorem kept_numeral : kept numeral = [numeral] := by
  have hlower := Text.lowercase_eq_self (isSmall_of_isNumeral hnumeral)
  have hkept := @kept_of_forall numeral
  rw [hlower] at hkept
  exact hkept hnumeral.1 (fun c hc => isSeparator_of_isDigit (hnumeral.2 c hc))
    (ne_joiner_of_isNumeral hnumeral)

include hword

theorem isReadable_numeral : (Term.mk numeral (Text.lowercase word)).IsReadable := by
  obtain ⟨hne, hletters, -⟩ := spec_of_ofWord? hword
  obtain ⟨c, ds, rfl⟩ := List.exists_cons_of_ne_nil hnumeral.1
  exact ⟨⟨c, ds, rfl, hnumeral.2 c (.head _)⟩, fun c hc => Or.inl (hnumeral.2 c hc), hne, hletters⟩

/-- A numeral and the word of a unit without a blank between them are one word. -/
theorem kept_tight : kept (numeral ++ word) = [numeral ++ Text.lowercase word] := by
  obtain ⟨-, hletters, -⟩ := spec_of_ofWord? hword
  have hlower : Text.lowercase (numeral ++ word) = numeral ++ Text.lowercase word :=
    Text.lowercase_append (isSmall_of_isNumeral hnumeral) fun c hc =>
      (spec_of_ofWord?_lowercase hword c hc).1
  have hkept := @kept_of_forall (numeral ++ word)
  rw [hlower] at hkept
  refine hkept (List.append_ne_nil_of_left_ne_nil hnumeral.1 _) ?_ ?_
  · exact List.forall_mem_append.mpr ⟨fun c hc => isSeparator_of_isDigit (hnumeral.2 c hc),
      fun c hc => isSeparator_of_isUnitLetter (hletters c hc)⟩
  · -- a connector does not begin with a digit
    obtain ⟨c, ds, rfl⟩ := List.exists_cons_of_ne_nil hnumeral.1
    intro h
    have hdigit := hnumeral.2 c (.head _)
    rw [(List.cons.inj h).1] at hdigit
    cases hdigit

/-- With blanks between them they are two words. -/
theorem kept_spaced {b : Char} (hb : Text.isBlank b = true)
    (hblanks : ∀ c ∈ blanks, Text.isBlank c = true) :
    kept (numeral ++ b :: (blanks ++ word)) = [numeral, Text.lowercase word] := by
  obtain ⟨hne, hletters, hjoiner, -⟩ := spec_of_ofWord? hword
  have hplain : ∀ c ∈ word, c.toNat ≠ 0x3A3 := fun c hc =>
    (spec_of_ofWord?_lowercase hword c hc).1
  have hbefore : ∀ c ∈ blanks, c.toNat ≠ 0x3A3 := fun c hc =>
    (Text.case_of_isBlank (hblanks c hc)).1
  have hskip : kept (blanks ++ word) = kept word := by
    rw [kept, Text.lowercase_append_of_forall hbefore hplain,
      Text.lowercase_of_forall fun c hc => Text.case_of_isBlank (hblanks c hc),
      Text.fields_append_left fun c hc => isSeparator_iff.mpr (.inl (hblanks c hc))]
    rfl
  have hunit : kept word = [Text.lowercase word] :=
    kept_of_forall hne (fun c hc => isSeparator_of_isUnitLetter (hletters c hc)) hjoiner
  rw [kept_append_cons (isSeparator_iff.mpr (.inl hb))
    (isSmall_of_isNumeral hnumeral).ne_capitalSigma
    (List.forall_mem_append.mpr ⟨hbefore, hplain⟩), hskip, hunit, kept_numeral hnumeral]
  rfl

end Term

/-- Whether some terms are found in a phrase and add so many seconds. -/
structure IsReadAs (cs : List Char) (ts : List Term) (ns : List Nat) : Prop where
  plain : ∀ c ∈ cs, c.toNat ≠ 0x3A3
  kept_ne : kept cs ≠ []
  /-- Every word begins with a digit or stands for a unit. -/
  words : ∀ w ∈ kept cs, (∃ c ∈ w.head?, c.isDigit = true) ∨ (TimeUnit.ofWord? w).isSome = true
  terms : termsOf cs = compact ts
  readable : ∀ t ∈ ts, t.IsReadable
  adds : List.Forall₂ Term.Adds ts ns

/-- A term is found, whether blanks stand between its number and its word or not. -/
theorem isReadAs_of_isTerm {q : Quantity} {cs : List Char} (h : IsTerm q cs) :
    ∃ t, IsReadAs cs [t] [q.seconds] := by
  obtain @⟨numeral, blanks, word, size, hnumeral, hblanks, hword⟩ := h
  obtain ⟨u, hu, hamount⟩ := hword.exists_unit
  have hreadable := isReadable_numeral hnumeral hu
  have hvalue : (Term.mk numeral (Text.lowercase word)).value = Nat.ofDigitChars 10 numeral 0 := by
    rw [Term.value, List.filter_eq_self.mpr hnumeral.2]
  have hfirst (rest : List Char) : ∃ c ∈ (numeral ++ rest).head?, c.isDigit = true := by
    obtain ⟨c, ds, hcs⟩ := List.exists_cons_of_ne_nil hnumeral.1
    exact ⟨c, by rw [hcs]; rfl, hnumeral.2 c (by rw [hcs]; exact .head _)⟩
  have hplain : ∀ c ∈ numeral ++ (blanks ++ word), c.toNat ≠ 0x3A3 := by
    refine List.forall_mem_append.mpr ⟨(isSmall_of_isNumeral hnumeral).ne_capitalSigma,
      List.forall_mem_append.mpr ⟨fun c hc => ?_, fun c hc => ?_⟩⟩
    · exact (Text.case_of_isBlank (hblanks c hc)).1
    · exact (spec_of_ofWord?_lowercase hu c hc).1
  cases blanks with
  | nil =>
    have hkept : kept (numeral ++ ([] ++ word)) = [numeral ++ Text.lowercase word] :=
      kept_tight hnumeral hu
    refine ⟨⟨numeral, Text.lowercase word⟩, hplain, ?_, ?_, ?_,
      List.forall_mem_singleton.mpr hreadable,
      .cons ⟨u, size, hu, hamount, by rw [hvalue]; rfl⟩ .nil⟩
    · rw [hkept]
      exact List.cons_ne_nil _ _
    · rw [hkept]
      exact List.forall_mem_singleton.mpr (.inl (hfirst _))
    · exact congrArg (Text.joined [' ']) hkept
  | cons b blanks =>
    obtain ⟨hb, hblanks⟩ := List.forall_mem_cons.mp hblanks
    have hkept : kept (numeral ++ (b :: blanks ++ word)) = [numeral, Text.lowercase word] :=
      kept_spaced hnumeral hu hb hblanks
    refine ⟨(Term.mk numeral (Text.lowercase word)).spaced, hplain, ?_, ?_, ?_,
      List.forall_mem_singleton.mpr hreadable.spaced,
      .cons ⟨u, size, hu, hamount, by rw [Term.value_spaced, hvalue]; rfl⟩ .nil⟩
    · rw [hkept]
      exact List.cons_ne_nil _ _
    · have hnumber := hfirst []
      rw [List.append_nil] at hnumber
      rw [hkept]
      exact List.forall_mem_cons.mpr ⟨.inl hnumber, List.forall_mem_singleton.mpr
        (.inr (by rw [hu]; rfl))⟩
    · rw [compact, List.map_singleton, Term.tight_spaced]
      refine (congrArg (Text.joined [' ']) hkept).trans ?_
      simp [Text.joined, Term.chars]

/-- The terms of a phrase are found again. -/
theorem isReadAs_of_isPhrase {qs : List Quantity} {cs : List Char} (h : IsPhrase qs cs) :
    ∃ t ts, IsReadAs cs (t :: ts) (qs.map Quantity.seconds) := by
  induction h with
  | single hterm =>
    obtain ⟨t, ht⟩ := isReadAs_of_isTerm hterm
    exact ⟨t, [], ht⟩
  | @cons q qs cs gap rest hterm hgap hrest ih =>
    obtain ⟨t, ht⟩ := isReadAs_of_isTerm hterm
    obtain ⟨t', ts, hts⟩ := ih
    have hkept : kept (cs ++ (gap ++ rest)) = kept cs ++ kept rest :=
      kept_append_gap hgap hts.plain ht.plain
    obtain _ | ⟨hadds, -⟩ := ht.adds
    refine ⟨t, t' :: ts, ?_, ?_, ?_, ?_, ?_, .cons hadds hts.adds⟩
    · exact List.forall_mem_append.mpr ⟨ht.plain,
        List.forall_mem_append.mpr ⟨ne_capitalSigma_of_isGap hgap, hts.plain⟩⟩
    · rw [hkept]
      exact List.append_ne_nil_of_left_ne_nil ht.kept_ne _
    · rw [hkept]
      exact List.forall_mem_append.mpr ⟨ht.words, hts.words⟩
    · have hterm : Text.joined [' '] (kept cs) = t.tight := ht.terms
      have hterms : Text.joined [' '] (kept rest) = compact (t' :: ts) := hts.terms
      calc termsOf (cs ++ (gap ++ rest))
          = Text.joined [' '] (kept cs ++ kept rest) := congrArg _ hkept
        _ = Text.joined [' '] (kept cs) ++ ([' '] ++ Text.joined [' '] (kept rest)) :=
            Text.joined_append _ ht.kept_ne hts.kept_ne
        _ = t.tight ++ ' ' :: compact (t' :: ts) := by rw [hterm, hterms, List.singleton_append]
        _ = compact (t :: t' :: ts) := (compact_cons t (t' :: ts)).symm
    · exact List.forall_mem_cons.mpr ⟨ht.readable t (.head _), hts.readable⟩

/-! ### The ends of a phrase -/

/-- A term begins with a digit and ends with a letter. -/
theorem ends_of_isTerm {q : Quantity} {cs : List Char} (h : IsTerm q cs) :
    cs ≠ [] ∧ (∀ c, cs.head? = some c → Text.isBlank c = false) ∧
      ∀ c, cs.getLast? = some c → Text.isBlank c = false := by
  obtain @⟨numeral, blanks, word, size, hnumeral, hblanks, hword⟩ := h
  obtain ⟨u, hu, -⟩ := hword.exists_unit
  have hne : word ≠ [] := by
    rintro rfl
    exact (spec_of_ofWord? hu).1 rfl
  refine ⟨List.append_ne_nil_of_left_ne_nil hnumeral.1 _, fun c hc => ?_, fun c hc => ?_⟩
  · rw [List.head?_append_of_ne_nil _ hnumeral.1] at hc
    exact (class_of_isDigit (hnumeral.2 c (List.mem_of_mem_head? hc))).2.1
  · rw [← List.append_assoc, List.getLast?_append_of_ne_nil _ hne] at hc
    exact (spec_of_ofWord?_lowercase hu c (List.mem_of_getLast? hc)).2

theorem ends_of_isPhrase {qs : List Quantity} {cs : List Char} (h : IsPhrase qs cs) :
    cs ≠ [] ∧ (∀ c, cs.head? = some c → Text.isBlank c = false) ∧
      ∀ c, cs.getLast? = some c → Text.isBlank c = false := by
  induction h with
  | single hterm => exact ends_of_isTerm hterm
  | cons hterm hgap hrest ih =>
    obtain ⟨hne, hhead, -⟩ := ends_of_isTerm hterm
    obtain ⟨hrest, -, hlast⟩ := ih
    refine ⟨List.append_ne_nil_of_left_ne_nil hne _, fun c hc => hhead c ?_, fun c hc => hlast c ?_⟩
    · rwa [List.head?_append_of_ne_nil _ hne] at hc
    · rwa [← List.append_assoc, List.getLast?_append_of_ne_nil _ hrest] at hc

/-! ### Whole phrases -/

theorem sum_of_isPhrase {qs : List Quantity} {cs : List Char} (h : IsPhrase qs cs) :
    sum (termsOf cs) = (fit (total qs)).map fun s => ⟨s, 0⟩ := by
  obtain ⟨t, ts, hread⟩ := isReadAs_of_isPhrase h
  rw [hread.terms, sum_compact (List.cons_ne_nil _ _) hread.readable,
    foldlM_addWritten hread.adds (by decide), Nat.zero_add, total]

/-- A phrase is read as its sum, if this is not empty and fits. -/
theorem parse_phrase {qs : List Quantity} {cs : List Char} (h : IsPhrase qs cs) :
    parse (String.ofList cs) =
      if total qs = 0 then .error (.malformed (String.ofList cs))
      else if total qs < wordLimit then .ok (.ofNat (total qs))
      else .error (.overflow (String.ofList cs)) := by
  obtain ⟨-, hhead, hlast⟩ := ends_of_isPhrase h
  have htrim : Text.trim cs = cs := Text.strip_eq_self hhead hlast
  rcases lt_or_ge (total qs) wordLimit with hlt | hge
  · have hparse := @parse_of_sum cs htrim (some (total qs)) (by
      rw [sum_of_isPhrase h, fit_of_lt hlt]
      rfl)
    rw [hparse, verdict, if_pos hlt]
  · have hne : total qs ≠ 0 := (Nat.lt_of_lt_of_le (by decide) hge).ne'
    have hparse := @parse_of_sum cs htrim none (by
      rw [sum_of_isPhrase h, fit_of_le hge]
      rfl)
    rw [hparse, verdict, if_neg hne, if_neg hge.not_gt]

/-- **Phrases mean their sum.** A phrase that counts units from seconds to weeks is read as the sum
of its terms: it is refused as malformed if there is nothing in it, and as too large if the sum does
not fit. Another order of the terms, written in any way, makes no difference. -/
theorem phrases_mean_their_sum {qs : List Quantity} {cs : List Char} (h : IsPhrase qs cs) :
    (parse (String.ofList cs) =
        if total qs = 0 then .error (.malformed (String.ofList cs))
        else if total qs < 2 ^ 64 then .ok (.ofNat (total qs))
        else .error (.overflow (String.ofList cs))) ∧
      ∀ qs' cs', qs'.Perm qs → IsPhrase qs' cs' →
        (parse (String.ofList cs')).mapError DurationError.fault =
          (parse (String.ofList cs)).mapError DurationError.fault := by
  have hlimit : wordLimit = 2 ^ 64 := rfl
  refine ⟨hlimit ▸ parse_phrase h, fun qs' cs' hperm h' => ?_⟩
  have htotal : total qs' = total qs := (hperm.map Quantity.seconds).sum_nat
  rw [parse_phrase h, parse_phrase h', htotal]
  split_ifs <;> rfl

/-- One hour and thirty minutes, in both orders. -/
theorem phrases_mean_their_sum_of_two :
    parse "1Hour, AND 030 min" = .ok 5400 ∧
      (parse "30 MINUTES,1h").mapError DurationError.fault = .ok 5400 := by
  have hours : IsTerm ⟨1, 3600⟩ "1Hour".toList :=
    @IsTerm.intro ['1'] [] "Hour".toList 3600 (by unfold IsNumeral; decide) (by decide)
      ⟨"hour", by decide, by decide +kernel⟩
  have minutes : IsTerm ⟨30, 60⟩ "030 min".toList :=
    @IsTerm.intro ['0', '3', '0'] [' '] "min".toList 60 (by unfold IsNumeral; decide) (by decide)
      ⟨"min", by decide, by decide +kernel⟩
  have minutes' : IsTerm ⟨30, 60⟩ "30 MINUTES".toList :=
    @IsTerm.intro ['3', '0'] [' '] "MINUTES".toList 60 (by unfold IsNumeral; decide) (by decide)
      ⟨"minutes", by decide, by decide +kernel⟩
  have hours' : IsTerm ⟨1, 3600⟩ "1h".toList :=
    @IsTerm.intro ['1'] [] ['h'] 3600 (by unfold IsNumeral; decide) (by decide)
      ⟨"h", by decide, by decide +kernel⟩
  have hgap : IsGap ", AND ".toList :=
    .cons (.inr rfl) (@IsGap.connector ' ' "AND".toList [' '] (.inl rfl) (by decide +kernel)
      (.single (.inl rfl)))
  have hphrase : IsPhrase [⟨1, 3600⟩, ⟨30, 60⟩] "1Hour, AND 030 min".toList :=
    .cons hours hgap (.single minutes)
  have hphrase' : IsPhrase [⟨30, 60⟩, ⟨1, 3600⟩] "30 MINUTES,1h".toList :=
    .cons minutes' (.single (.inr rfl)) (.single hours')
  obtain ⟨hparse, hsame⟩ := phrases_mean_their_sum hphrase
  have hparse' := hsame _ _ (List.Perm.swap _ _ _) hphrase'
  rw [String.ofList_toList] at hparse hparse'
  rw [String.ofList_toList, hparse] at hparse'
  exact ⟨hparse, hparse'⟩

end Duration

end CrowdTask
