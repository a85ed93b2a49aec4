import CrowdTask.Duration.Canonical
import CrowdTask.Proofs.Duration.Sums
import Mathlib.Data.List.Basic

/-!
# Canonical phrases are read as they are written

The canonical phrase of a number of seconds counts weeks, days, hours, minutes and seconds, each of
them at most once and in this order. Its terms are read one by one, the separators between them
being dropped, and they add up to the number of seconds again. So different numbers of seconds have
different canonical phrases.

## Main definitions

* `CrowdTask.Duration.Rung`, `CrowdTask.Duration.scale`: the nouns of canonical phrases.
* `CrowdTask.Duration.Count`: a term of a canonical phrase.
* `CrowdTask.Duration.IsCanonical`: what a canonical phrase is.

## Main results

* `CrowdTask.Duration.isCanonical_format`: the phrase that is written is canonical.
* `CrowdTask.Duration.parse_format`: it is read as it is written.
* `CrowdTask.Duration.format_is_faithful`: both, and that no two numbers have one phrase.
-/

namespace CrowdTask.Duration

/-! ### What a canonical phrase is -/

/-- A noun of canonical phrases, the seconds that it stands for, and how many of it make up the noun
before it, if there is one. -/
structure Rung where
  noun : String
  seconds : Nat
  limit : Option Nat

/-- The nouns of canonical phrases in order. -/
def scale : List Rung :=
  [⟨"week", 604800, none⟩, ⟨"day", 86400, some 7⟩, ⟨"hour", 3600, some 24⟩,
    ⟨"minute", 60, some 60⟩, ⟨"second", 1, some 60⟩]

/-- A term of a canonical phrase. -/
structure Count where
  value : Nat
  rung : Rung

/-- The text of a term: the number, a blank and the noun, in the plural unless the number is one. -/
def Count.text (t : Count) : String :=
  toString t.value ++ " " ++ t.rung.noun ++ if t.value = 1 then "" else "s"

/-- Texts as an enumeration: a comma and a blank between neighbours, and the word `and` before the
last one. -/
inductive IsEnumeration : List String → String → Prop where
  | none : IsEnumeration [] ""
  | one (t : String) : IsEnumeration [t] t
  | more (ts : List String) (t : String) (h : ts ≠ []) :
    IsEnumeration (ts ++ [t]) (", ".intercalate ts ++ " and " ++ t)

/-- Whether a text is the canonical phrase of `s` seconds, with the given terms. -/
structure IsCanonical (s : Nat) (ts : List Count) (text : String) : Prop where
  /-- Each noun is used at most once, and in the order of the scale. -/
  ordered : (ts.map Count.rung).Sublist scale
  /-- No term counts nothing. -/
  positive : ∀ t ∈ ts, 1 ≤ t.value
  /-- No term counts so many that the noun before it could be used. -/
  bounded : ∀ t ∈ ts, ∀ n, t.rung.limit = some n → t.value < n
  total : (ts.map fun t => t.value * t.rung.seconds).sum = s
  reads : IsEnumeration (ts.map Count.text) text

/-! ### What is written -/

/-- The terms for `s` seconds, those that count nothing among them. -/
def allCounts (s : Nat) : List Count :=
  List.zipWith Count.mk [s / 604800, s / 86400 % 7, s / 3600 % 24, s / 60 % 60, s % 60] scale

/-- The terms for `s` seconds. -/
def counts (s : Nat) : List Count := (allCounts s).filter fun t => t.value ≠ 0

theorem parts_eq (s : Nat) : parts s = (counts s).map fun t => (t.value, t.rung.noun) := by
  have hall : parts s =
      ((allCounts s).map fun t => (t.value, t.rung.noun)).filter fun p => p.1 ≠ 0 := rfl
  rw [hall, List.filter_map]
  rfl

theorem counted_eq (t : Count) : String.ofList (counted t.value t.rung.noun) = t.text := by
  have hplural : String.ofList (if t.value = 1 then [] else ['s']) =
      if t.value = 1 then "" else "s" := by
    split_ifs <;> rfl
  rw [counted, Count.text, Text.decimal, String.ofList_append, String.ofList_append, hplural,
    Nat.toString_eq_ofList_toDigits, ← List.singleton_append, String.ofList_append,
    String.ofList_toList, ← String.append_assoc]

/-- The terms of a phrase, with their separators, are an enumeration of them. -/
theorem isEnumeration_enumerated (ts : List (List Char)) :
    IsEnumeration (ts.map String.ofList) (String.ofList (enumerated ts)) := by
  induction ts with
  | nil => exact .none
  | cons t ts ih =>
    match ts, ih with
    | [], _ => exact .one _
    | [u], _ =>
      rw [enumerated, String.ofList_append, String.ofList_append, String.ofList_toList]
      exact .more [String.ofList t] (String.ofList u) (List.cons_ne_nil _ _)
    | u :: v :: ts, ih =>
      rw [enumerated, String.ofList_append, String.ofList_append, String.ofList_toList]
      generalize htexts : (u :: v :: ts).map String.ofList = texts at ih
      generalize String.ofList (enumerated (u :: v :: ts)) = text at ih ⊢
      rw [List.map_cons, htexts]
      cases ih with
      | none => cases htexts
      | one w => cases htexts
      | more init last hinit =>
        simpa only [List.cons_append, String.intercalate_cons_of_ne_nil hinit,
          String.append_assoc] using
          IsEnumeration.more (String.ofList t :: init) last (List.cons_ne_nil _ _)

/-- Terms that count nothing do not matter for the number of seconds. -/
theorem sum_filter_value (ts : List Count) :
    ((ts.filter fun t => t.value ≠ 0).map fun t => t.value * t.rung.seconds).sum =
      (ts.map fun t => t.value * t.rung.seconds).sum := by
  induction ts with
  | nil => rfl
  | cons t ts ih =>
    by_cases ht : t.value = 0
    · rw [List.filter_cons_of_neg (by simp [ht]), List.map_cons, List.sum_cons, ht, Nat.zero_mul,
        Nat.zero_add, ih]
    · rw [List.filter_cons_of_pos (by simp [ht]), List.map_cons, List.map_cons, List.sum_cons,
        List.sum_cons, ih]

theorem sum_five (a b c d e : Nat) : [a, b, c, d, e].sum = a + (b + (c + (d + e))) := by
  simp only [List.sum_cons, List.sum_nil, Nat.add_zero]

theorem total_counts (s : Nat) : ((counts s).map fun t => t.value * t.rung.seconds).sum = s := by
  have hall : (allCounts s).map (fun t => t.value * t.rung.seconds) =
      [s / 604800 * 604800, s / 86400 % 7 * 86400, s / 3600 % 24 * 3600, s / 60 % 60 * 60,
        s % 60 * 1] := rfl
  -- the sum is taken of arbitrary numbers, so that no product is ever computed
  rw [counts, sum_filter_value, hall, sum_five]
  omega

theorem isCanonical_format (s : UInt64) : IsCanonical s.toNat (counts s.toNat) (format s) where
  ordered := (List.filter_sublist.map Count.rung)
  positive t ht := Nat.one_le_iff_ne_zero.mpr (by simpa using (List.mem_filter.mp ht).2)
  bounded t ht := by
    have hall : ∀ t ∈ allCounts s.toNat, ∀ n, t.rung.limit = some n → t.value < n := by
      simp [allCounts, scale]
      omega
    exact hall t (List.mem_filter.mp ht).1
  total := total_counts s.toNat
  reads := by
    have htexts : (counts s.toNat).map Count.text =
        (((parts s.toNat).map fun p => counted p.1 p.2)).map String.ofList := by
      rw [parts_eq, List.map_map, List.map_map]
      exact List.map_congr_left fun t _ => (counted_eq t).symm
    rw [htexts]
    exact isEnumeration_enumerated _

/-! ### What is read -/

/-- What a term counts. -/
def Count.quantity (t : Count) : Quantity := ⟨t.value, t.rung.seconds⟩

/-- The nouns of canonical phrases, in both numbers, are words for units. -/
theorem scale_spec : ∀ r ∈ scale, ∀ plural ∈ [[], ['s']], ∃ p ∈ unitWords,
    p.2 = r.seconds ∧ Text.lowercase (r.noun.toList ++ plural) = p.1.toList := by
  decide +kernel

theorem isTerm_counted {t : Count} (ht : t.rung ∈ scale) :
    IsTerm t.quantity (counted t.value t.rung.noun) := by
  have hnumeral : IsNumeral (Text.decimal t.value) :=
    ⟨Nat.toDigits_ne_nil, Json.isDigit_of_mem_decimal⟩
  have hvalue : Nat.ofDigitChars 10 (Text.decimal t.value) 0 = t.value :=
    Nat.ofDigitChars_ten_toDigits
  obtain ⟨p, hp, hsize, hword⟩ := scale_spec t.rung ht (if t.value = 1 then [] else ['s']) (by
    split_ifs
    · exact .head _
    · exact .tail _ (.head _))
  have hblank : ∀ c ∈ [' '], Text.isBlank c = true := by decide
  have hterm := IsTerm.intro hnumeral hblank ⟨p.1, hp, hword⟩
  rw [hvalue, hsize] at hterm
  rw [counted, List.append_assoc]
  exact hterm

/-- A separator stands between the first text of an enumeration and the others. -/
theorem exists_separator (t : List Char) {ts : List (List Char)} (hne : ts ≠ []) :
    ∃ sep ∈ [", ".toList, " and ".toList], enumerated (t :: ts) = t ++ (sep ++ enumerated ts) := by
  match ts, hne with
  | [u], _ => exact ⟨_, .tail _ (.head _), List.append_assoc _ _ _⟩
  | u :: v :: ts, _ => exact ⟨_, .head _, List.append_assoc _ _ _⟩

theorem isGap_separator : ∀ sep ∈ [", ".toList, " and ".toList], IsGap sep := by
  have hcomma : IsGap ", ".toList := .cons (.inr rfl) (.single (.inl rfl))
  have hand : IsGap " and ".toList :=
    @IsGap.connector ' ' "and".toList [' '] (.inl rfl) (by decide +kernel) (.single (.inl rfl))
  simpa using ⟨hcomma, hand⟩

theorem isSmall_enumerated {ts : List (List Char)} (h : ∀ t ∈ ts, Text.IsSmall t) :
    Text.IsSmall (enumerated ts) := by
  have hseparator : ∀ sep ∈ [", ".toList, " and ".toList], Text.IsSmall sep := by
    unfold Text.IsSmall
    decide
  induction ts with
  | nil => exact List.forall_mem_nil _
  | cons t ts ih =>
    obtain ⟨ht, hts⟩ := List.forall_mem_cons.mp h
    rcases eq_or_ne ts [] with rfl | hne
    · exact ht
    · obtain ⟨sep, hsep, henumerated⟩ := exists_separator t hne
      rw [henumerated]
      exact List.forall_mem_append.mpr
        ⟨ht, List.forall_mem_append.mpr ⟨hseparator sep hsep, ih hts⟩⟩

/-- An enumeration of terms is a phrase. -/
theorem isPhrase_enumerated {ts : List Count} (hne : ts ≠ []) (hts : ∀ t ∈ ts, t.rung ∈ scale) :
    IsPhrase (ts.map Count.quantity)
      (enumerated (ts.map fun t => counted t.value t.rung.noun)) := by
  induction ts with
  | nil => exact absurd rfl hne
  | cons t ts ih =>
    obtain ⟨ht, hts⟩ := List.forall_mem_cons.mp hts
    rcases eq_or_ne ts [] with rfl | hrest
    · exact .single (isTerm_counted ht)
    · have hterms : ts.map (fun t => counted t.value t.rung.noun) ≠ [] := by simpa using hrest
      obtain ⟨sep, hsep, henumerated⟩ := exists_separator (counted t.value t.rung.noun) hterms
      rw [List.map_cons, List.map_cons, henumerated]
      exact .cons (isTerm_counted ht) (isGap_separator sep hsep) (ih hrest hts)

/-! ### Canonical phrases -/

theorem rung_mem_scale {s : Nat} : ∀ t ∈ counts s, t.rung ∈ scale := fun _ ht =>
  (List.filter_sublist.map Count.rung).subset (List.mem_map_of_mem ht)

/-- A canonical phrase is a phrase. -/
theorem isPhrase_formatChars {s : Nat} (hs : s ≠ 0) :
    IsPhrase ((counts s).map Count.quantity) (formatChars s) := by
  have hne : counts s ≠ [] := by
    intro h
    have htotal := total_counts s
    rw [h] at htotal
    exact hs htotal.symm
  have hterms : (parts s).map (fun p => counted p.1 p.2) =
      (counts s).map fun t => counted t.value t.rung.noun := by
    rw [parts_eq, List.map_map]
    rfl
  rw [formatChars, hterms]
  exact isPhrase_enumerated hne rung_mem_scale

/-- There are no capitals in a canonical phrase. -/
theorem isSmall_formatChars (s : Nat) : Text.IsSmall (formatChars s) := by
  have hplural (n : Nat) : Text.IsSmall (if n = 1 then [] else ['s']) := by
    unfold Text.IsSmall
    split_ifs <;> decide
  have hnoun : ∀ r ∈ scale, Text.IsSmall (' ' :: r.noun.toList) := by
    unfold Text.IsSmall
    decide
  rw [formatChars, parts_eq, List.map_map]
  refine isSmall_enumerated (List.forall_mem_map.mpr fun t ht => ?_)
  refine List.forall_mem_append.mpr ⟨List.forall_mem_append.mpr ⟨fun c hc => ?_,
    hnoun t.rung (rung_mem_scale t ht)⟩, hplural t.value⟩
  exact (class_of_isDigit (Json.isDigit_of_mem_decimal c hc)).1

theorem total_quantities (s : Nat) : total ((counts s).map Count.quantity) = s := by
  rw [total, List.map_map]
  exact total_counts s

/-- The canonical phrase is read as it is written; there is none for no time at all. -/
theorem parse_format (s : UInt64) :
    parse (format s) = if s = 0 then .error (.malformed "") else .ok s := by
  split_ifs with hs
  · rw [hs]
    rfl
  have hseconds : s.toNat ≠ 0 := fun h => hs (UInt64.toNat_inj.mp h)
  have hfits : s.toNat < wordLimit := s.toNat_lt
  rw [format, parse_phrase (isPhrase_formatChars hseconds), total_quantities, if_neg hseconds,
    if_pos hfits, UInt64.ofNat_toNat]

/-- **Canonical phrases are faithful.** The canonical phrase of a number of seconds is read as that
number, it is canonical, and no other number has it. -/
theorem format_is_faithful :
    (∀ s : UInt64, 1 ≤ s → parse (format s) = .ok s) ∧
      (∀ s : UInt64, ∃ ts, IsCanonical s.toNat ts (format s)) ∧ Function.Injective format := by
  refine ⟨fun s hs => ?_, fun s => ⟨_, isCanonical_format s⟩, fun s t hst => ?_⟩
  · rw [parse_format, if_neg]
    rintro rfl
    exact absurd hs (by decide)
  · have hparse := parse_format s
    rw [hst, parse_format] at hparse
    split_ifs at hparse with ht hs hs
    · rw [hs, ht]
    · exact (Except.ok.inj hparse).symm

/-- The longest duration is read back from its phrase. -/
theorem parse_format_longest : parse (format 18446744073709551615) = .ok 18446744073709551615 :=
  format_is_faithful.1 _ (by decide)

end CrowdTask.Duration
