import CrowdTask.Command
import CrowdTask.Proofs.Duration.Terms
import Mathlib.Data.List.Basic

/-!
# Numerals around a connector

The connectors of a phrase are dropped before its terms are read, and blanks among the digits of a
number do not count. So two numerals with a connector between them are read as one number, whose
digits are those of both: `5 and 2 hours` is a duration of 52 hours.

## Main definitions

* `CrowdTask.Duration.connected`: two numerals, a connector between them, and the word of a unit.
* `CrowdTask.TimeUnit.wholeSeconds?`: the whole seconds in a number of units.

## Main results

* `CrowdTask.Duration.termsOf_connected`: the connector is lost.
* `CrowdTask.Duration.parse_connected`: both numerals are read as one number.
* `CrowdTask.Duration.parse_five_and_two_hours`: five and two hours.
-/

namespace CrowdTask

/-- The whole seconds in `n` units, if the amount of so many fits a word. -/
def TimeUnit.wholeSeconds? (u : TimeUnit) (n : Nat) : Option Nat :=
  match u.amount with
  | .seconds k => if n * k < Duration.wordLimit then some (n * k) else none
  | .nanos k => if n * k < Duration.wordLimit then some (n * k / Duration.fullSecond) else none

namespace Duration

/-- Two numerals with a connector between them, and the word of a unit. -/
def connected (a b word : List Char) : List Char := a ++ " and ".toList ++ b ++ ' ' :: word

/-! ### Phrases with a connector -/

section Connected

variable {a b word : List Char} {u : TimeUnit}

theorem connected_eq_joined (a b word : List Char) :
    connected a b word = Text.joined [' '] [a, joiner, b, word] := by
  simp [connected, joiner, Text.joined]

variable (ha : IsNumeral a) (hb : IsNumeral b)
  (hword : TimeUnit.ofWord? (Text.lowercase word) = some u)

include ha hb hword

theorem lowercase_connected (cs : List Char) (hcs : Text.IsSmall cs) :
    Text.lowercase (cs ++ connected a b word) = cs ++ connected a b (Text.lowercase word) := by
  have hbegin : Text.IsSmall (cs ++ (a ++ " and ".toList ++ b ++ [' '])) := by
    refine List.forall_mem_append.mpr ⟨hcs, List.forall_mem_append.mpr
      ⟨List.forall_mem_append.mpr ⟨List.forall_mem_append.mpr
        ⟨isSmall_of_isNumeral ha, by simp⟩, isSmall_of_isNumeral hb⟩, by simp⟩⟩
  have hsplit (w : List Char) :
      cs ++ connected a b w = (cs ++ (a ++ " and ".toList ++ b ++ [' '])) ++ w := by
    rw [connected, List.append_assoc cs, List.append_assoc _ [' '], List.singleton_append]
  rw [hsplit, Text.lowercase_append hbegin fun c hc => (spec_of_ofWord?_lowercase hword c hc).1,
    hsplit]

theorem fields_connected {sep : Char → Bool} (hsep : sep ' ' = true)
    (hclass : ∀ c, sep c = true → Text.isBlank c = true ∨ c = ',') :
    Text.fields sep (connected a b (Text.lowercase word)) =
      [a, joiner, b, Text.lowercase word] := by
  obtain ⟨hne, hletters, -⟩ := spec_of_ofWord? hword
  have hnot {c : Char} (hblank : Text.isBlank c = false) (hcomma : c ≠ ',') : sep c = false := by
    refine Bool.eq_false_iff.mpr fun h => ?_
    rcases hclass c h with h | h
    · rw [hblank] at h
      cases h
    · exact hcomma h
  have hdigits {ds : List Char} (hds : IsNumeral ds) : ∀ c ∈ ds, sep c = false := fun c hc =>
    hnot (class_of_isDigit (hds.2 c hc)).2.1 (class_of_isDigit (hds.2 c hc)).2.2.1
  rw [connected_eq_joined]
  refine Text.fields_joined hsep ?_ ?_
  · simpa [joiner] using ⟨ha.1, hb.1, hne⟩
  · have hjoiner : ∀ c ∈ joiner, sep c = false := by
      simp only [joiner, List.forall_mem_cons]
      exact ⟨hnot rfl (by decide), hnot rfl (by decide), hnot rfl (by decide),
        List.forall_mem_nil _⟩
    simp only [List.forall_mem_cons]
    refine ⟨hdigits ha, hjoiner, hdigits hb, fun c hc => ?_, List.forall_mem_nil _⟩
    obtain ⟨-, hblank, -, hcomma⟩ := class_of_isUnitLetter (hletters c hc)
    exact hnot hblank hcomma

/-- The connector is lost, and the numerals stand next to each other. -/
theorem termsOf_connected :
    termsOf (connected a b word) = phrase [⟨a ++ ' ' :: b, Text.lowercase word⟩] := by
  obtain ⟨-, -, hjoiner, -⟩ := spec_of_ofWord? hword
  have hlower : Text.lowercase (connected a b word) = connected a b (Text.lowercase word) :=
    lowercase_connected ha hb hword [] (List.forall_mem_nil _)
  rw [termsOf, hlower, fields_connected ha hb hword rfl fun c hc => by
    simpa [isSeparator] using hc]
  have hfilter : [a, joiner, b, Text.lowercase word].filter (fun w => w ≠ joiner) =
      [a, b, Text.lowercase word] := by
    simp [ne_joiner_of_isNumeral ha, ne_joiner_of_isNumeral hb, hjoiner]
  rw [hfilter]
  simp [Text.joined, phrase, Term.chars]

end Connected

/-! ### The duration of a single term -/

/-- The sum of a single term is the number of its whole seconds. -/
theorem seconds_sum_term {t : Term} (ht : t.IsReadable) {u : TimeUnit}
    (hu : TimeUnit.ofWord? t.word = some u) :
    (sum (phrase [t])).map Elapsed.seconds =
      (u.wholeSeconds? t.value).elim (.error .overflow) .ok := by
  have hsum : sum (phrase [t]) = addWritten ⟨0, 0⟩ t := by
    rw [sum_phrase (List.cons_ne_nil _ _) (List.forall_mem_singleton.mpr ht), List.foldlM_cons]
    exact bind_pure _
  rw [hsum, TimeUnit.wholeSeconds?]
  generalize hn : t.value = n
  rcases hamount : u.amount with k | k
  · rw [addWritten_of_amount hu (Or.inl rfl) hamount, hn]
    dsimp only
    rcases lt_or_ge (n * k) wordLimit with hlt | hge
    · rw [if_pos hlt, fit_of_lt hlt]
      change Except.map _ (Elapsed.add ⟨0, 0⟩ (.seconds (n * k))) = _
      rw [Elapsed.add, Nat.zero_add, fit_of_lt hlt]
      rfl
    · rw [if_neg hge.not_gt, fit_of_le hge]
      rfl
  · rw [addWritten_of_amount hu (Or.inr rfl) hamount, hn]
    dsimp only
    rcases lt_or_ge (n * k) wordLimit with hlt | hge
    · rw [if_pos hlt, fit_of_lt hlt]
      have hshare : n * k / fullSecond < wordLimit := (Nat.div_le_self _ _).trans_lt hlt
      change Except.map _ (Elapsed.add ⟨0, 0⟩ (.nanos (n * k))) = _
      rw [Elapsed.add, Nat.zero_add, fit_of_lt hlt]
      change Except.map _ (if n * k = fullSecond then _ else _) = _
      split_ifs with hfull
      · rw [hfull]
        rfl
      · rw [Nat.zero_add, fit_of_lt hshare]
        rfl
    · rw [if_neg hge.not_gt, fit_of_le hge]
      rfl

section Connected

variable {a b word : List Char} {u : TimeUnit} (ha : IsNumeral a) (hb : IsNumeral b)
  (hword : TimeUnit.ofWord? (Text.lowercase word) = some u)

include ha hword

/-- No blank stands at the ends of a phrase with a connector, nor of a line that ends with one. -/
theorem trim_connected (cs : List Char) (hcs : ∀ c, cs.head? = some c → Text.isBlank c = false) :
    Text.trim (cs ++ connected a b word) = cs ++ connected a b word := by
  have hne : word ≠ [] := by
    rintro rfl
    exact (spec_of_ofWord? hword).1 rfl
  refine Text.strip_eq_self (fun d hd => ?_) fun d hd => ?_
  · obtain ⟨c, a, rfl⟩ := List.exists_cons_of_ne_nil ha.1
    cases cs with
    | nil =>
      obtain rfl := Option.some.inj hd
      exact (class_of_isDigit (ha.2 c (.head _))).2.1
    | cons c' cs => exact hcs d hd
  · rw [connected, ← List.append_assoc, ← List.singleton_append, ← List.append_assoc,
      List.getLast?_append_of_ne_nil _ hne] at hd
    exact (spec_of_ofWord?_lowercase hword d (List.mem_of_getLast? hd)).2

include hb

theorem isReadable_connected : (Term.mk (a ++ ' ' :: b) (Text.lowercase word)).IsReadable := by
  obtain ⟨hne, hletters, -⟩ := spec_of_ofWord? hword
  obtain ⟨c, cs, rfl⟩ := List.exists_cons_of_ne_nil ha.1
  refine ⟨⟨c, cs ++ ' ' :: b, rfl, ha.2 c (.head _)⟩, ?_, hne, hletters⟩
  refine List.forall_mem_append.mpr ⟨fun d hd => Or.inl (ha.2 d hd), ?_⟩
  exact List.forall_mem_cons.mpr ⟨Or.inr rfl, fun d hd => Or.inl (hb.2 d hd)⟩

/-- Both numerals are read as one number, whose digits are those of both. -/
theorem parse_connected :
    parse (String.ofList (connected a b word)) = verdict (String.ofList (connected a b word))
      (u.wholeSeconds? (Nat.ofDigitChars 10 (a ++ b) 0)) := by
  have hvalue : (Term.mk (a ++ ' ' :: b) (Text.lowercase word)).value =
      Nat.ofDigitChars 10 (a ++ b) 0 := by
    rw [Term.value, List.filter_append, List.filter_cons_of_neg (by decide),
      List.filter_eq_self.mpr ha.2, List.filter_eq_self.mpr hb.2]
  have htrim : Text.trim (connected a b word) = connected a b word :=
    trim_connected ha hword [] (by simp)
  refine parse_of_sum htrim ?_
  rw [termsOf_connected ha hb hword, ← hvalue]
  exact seconds_sum_term (isReadable_connected ha hb hword) hword

/-- The words of an addition of time with a connector among its words. -/
theorem addition_connected :
    Command.addition [a, joiner, b, Text.lowercase word] =
      ((parse (String.ofList (connected a b (Text.lowercase word)))).map Addition.time).mapError
        CommandError.duration := by
  obtain ⟨hne, hletters, -⟩ := spec_of_ofWord? hword
  have hstrip {cs : List Char} (hcs : ∀ c ∈ cs, c ≠ ',') : Text.strip (· = ',') cs = cs := by
    refine Text.strip_eq_self (fun c hc => ?_) fun c hc => ?_
    · exact decide_eq_false (hcs c (List.mem_of_mem_head? hc))
    · exact decide_eq_false (hcs c (List.mem_of_getLast? hc))
  have hdigits {ds : List Char} (hds : IsNumeral ds) : Text.strip (· = ',') ds = ds :=
    hstrip fun c hc => (class_of_isDigit (hds.2 c hc)).2.2.1
  have hclean : Command.withoutCommas [a, joiner, b, Text.lowercase word] =
      [a, joiner, b, Text.lowercase word] := by
    have hunit := hstrip fun c hc => (class_of_isUnitLetter (hletters c hc)).2.2.2
    have hand : Text.strip (· = ',') joiner = joiner := by decide
    simp only [Command.withoutCommas, List.map_cons, List.map_nil, hdigits ha, hdigits hb, hunit,
      hand]
    simp [ha.1, hb.1, hne, joiner]
  have hlead : Command.leadingCount [a, joiner, b, Text.lowercase word] =
      .ok (none, [a, joiner, b, Text.lowercase word]) := by
    rw [Command.leadingCount, if_neg (by simp [joiner])]
  have htime : Command.trailingTime [a, joiner, b, Text.lowercase word] =
      ((parse (String.ofList (connected a b (Text.lowercase word)))).map some).mapError
        CommandError.duration := by
    rw [Command.trailingTime, List.dropWhile_cons_of_neg (by simpa using ne_joiner_of_isNumeral ha),
      connected_eq_joined]
    rcases parse (String.ofList (Text.joined [' '] [a, joiner, b, Text.lowercase word])) <;> rfl
  rw [Command.addition, hclean, hlead]
  change (Command.trailingTime [a, joiner, b, Text.lowercase word] >>= _) = _
  rw [htime]
  rcases parse (String.ofList (connected a b (Text.lowercase word))) <;> rfl

/-- A line that adds time, with a connector among its words. -/
theorem parse_add_connected :
    Command.parse (String.ofList ("add ".toList ++ connected a b word)) =
      ((parse (String.ofList (connected a b (Text.lowercase word)))).map
        fun s => Command.add (.time s)).mapError CommandError.duration := by
  have htrim : Text.trim ("add ".toList ++ connected a b word) =
      "add ".toList ++ connected a b word :=
    trim_connected ha hword _ fun c hc => by
      obtain rfl := Option.some.inj hc
      rfl
  have hlower : Text.lowercase ("add ".toList ++ connected a b word) =
      "add".toList ++ ' ' :: connected a b (Text.lowercase word) :=
    lowercase_connected ha hb hword _ (by simp [Text.IsSmall])
  have hwords : Text.words ("add".toList ++ ' ' :: connected a b (Text.lowercase word)) =
      ["add".toList, a, joiner, b, Text.lowercase word] := by
    rw [Text.words, Text.fields_append_cons _ rfl, fields_connected ha hb hword rfl fun c => Or.inl,
      Text.fields_of_forall (by decide) (by decide)]
    rfl
  rw [Command.parse, String.toList_ofList, htrim, hlower, hwords]
  dsimp only
  rw [if_pos rfl, addition_connected ha hb hword]
  rcases parse (String.ofList (connected a b (Text.lowercase word))) <;> rfl

end Connected

/-- **Numerals around a connector are read as one number.** Two numerals with a connector between
them and the word of a unit after the second one, in any letter case, are refused as malformed only
if the number whose digits are those of both makes no whole second. Otherwise they are a duration of
so many units, and a line that adds them adds so much time, unless that does not fit. -/
theorem connector_joins_numerals {a b word : List Char} {u : TimeUnit} (ha : IsNumeral a)
    (hb : IsNumeral b) (hword : TimeUnit.ofWord? (Text.lowercase word) = some u) :
    parse (String.ofList (connected a b word)) = verdict (String.ofList (connected a b word))
        (u.wholeSeconds? (Nat.ofDigitChars 10 (a ++ b) 0)) ∧
      Command.parse (String.ofList ("add ".toList ++ connected a b word)) =
        ((verdict (String.ofList (connected a b (Text.lowercase word)))
          (u.wholeSeconds? (Nat.ofDigitChars 10 (a ++ b) 0))).map
            fun s => Command.add (.time s)).mapError CommandError.duration := by
  refine ⟨parse_connected ha hb hword, ?_⟩
  rw [parse_add_connected ha hb hword, parse_connected ha hb]
  rwa [(spec_of_ofWord? hword).2.2.2]

/-- Twelve and thirty minutes, the unit in capitals, are 1230 minutes. -/
theorem connector_joins_twelve_and_thirty :
    parse "12 and 30 MINUTES" = .ok 73800 ∧
      Command.parse "add 12 and 30 MINUTES" = .ok (.add (.time 73800)) :=
  @connector_joins_numerals ['1', '2'] ['3', '0'] "MINUTES".toList .minute
    (by unfold IsNumeral; decide) (by unfold IsNumeral; decide) (by decide +kernel)

/-- Five and two hours are accepted, as a duration of 52 hours. -/
theorem parse_five_and_two_hours :
    parse "5 and 2 hours" = .ok 187200 ∧ parse "52 hours" = .ok 187200 ∧
      Command.parse "add 5 and 2 hours" = .ok (.add (.time 187200)) := by
  decide +kernel

end Duration

end CrowdTask
