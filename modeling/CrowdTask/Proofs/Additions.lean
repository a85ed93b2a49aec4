import CrowdTask.Command
import CrowdTask.Proofs.Duration.Canonical

/-!
# Additions are read back

A line that adds assignments, time or both is read as it is meant, in any letter case, with any
blanks between its words and any commas after those that follow the verb. The time is meant by the
words of its canonical phrase, as a report shows it, and any number of connectors may stand before
it. No line adds nothing, or an empty amount.

## Main definitions

* `CrowdTask.Addition.IsProper`: the additions that are not empty.
* `CrowdTask.Command.Asks`: the words that ask for an addition.
* `CrowdTask.Command.IsWritten`, `CrowdTask.Command.IsAddLine`: how words are written in a line.

## Main results

* `CrowdTask.Command.words_of_isWritten`: the words of a line are found again.
* `CrowdTask.Command.addition_of_asks`: words that ask for an addition are understood.
* `CrowdTask.Command.isProper_of_parse`: no addition is empty.
* `CrowdTask.Command.additions_read_back`: all of it, for whole lines.
-/

namespace CrowdTask

open Duration (isSeparator joiner)

/-- Whether an addition has a part, and no part of it is empty. -/
structure Addition.IsProper (a : Addition) : Prop where
  part : a.count?.isSome = true ∨ a.seconds?.isSome = true
  count : ∀ n, a.count? = some n → 1 ≤ n.toNat ∧ n.toNat ≤ 2 ^ 32 - 1
  seconds : ∀ s, a.seconds? = some s → 1 ≤ s.toNat

namespace Command

/-! ### How additions are written -/

/-- The words of the canonical phrase for a number of seconds, without its commas. -/
def durationWords (s : UInt64) : List (List Char) :=
  Text.fields isSeparator (Duration.format s).toList

/-- The words after the verb that ask for an addition. -/
inductive Asks : Addition → List (List Char) → Prop where
  | assignments (n : UInt32) {noun : String} (hnoun : noun ∈ ["assignment", "assignments"]) :
      Asks (.assignments n) [Text.decimal n.toNat, noun.toList]
  | time (s : UInt64) : Asks (.time s) (durationWords s)
  | both (n : UInt32) (s : UInt64) {noun : String} (connectors : Nat)
      (hnoun : noun ∈ ["assignment", "assignments"]) :
      Asks (.both n s) (Text.decimal n.toNat :: noun.toList ::
        (List.replicate connectors "and".toList ++ durationWords s))

/-- How words are written one after the other: each in any letter case, after blanks and with any
commas behind it. -/
inductive IsWritten : List (List Char) → List Char → Prop where
  | nil {blanks : List Char} (hblanks : ∀ c ∈ blanks, Text.isBlank c = true) : IsWritten [] blanks
  | cons {w blanks word commas rest : List Char} {ws : List (List Char)} (hne : blanks ≠ [])
      (hblanks : ∀ c ∈ blanks, Text.isBlank c = true) (hword : Text.lowerAscii word = w)
      (hcommas : ∀ c ∈ commas, c = ',') (hrest : IsWritten ws rest) :
      IsWritten (w :: ws) (blanks ++ ((word ++ commas) ++ rest))

/-- Whether a line consists of the verb and some words after it. -/
inductive IsAddLine (ws : List (List Char)) : List Char → Prop where
  | intro {blanks verb rest : List Char} (hblanks : ∀ c ∈ blanks, Text.isBlank c = true)
      (hverb : Text.lowerAscii verb = "add".toList) (hrest : IsWritten ws rest) :
      IsAddLine ws (blanks ++ (verb ++ rest))

/-! ### Words of a line -/

/-- A word that may ask for something: small ASCII characters other than blanks and commas. -/
structure IsArgument (w : List Char) : Prop where
  ne : w ≠ []
  small : Text.IsSmall w
  solid : ∀ c ∈ w, isSeparator c = false

/-- What stands behind the words of a line that have been read: blanks and further words. -/
structure IsTail (ws : List (List Char)) (rest : List Char) : Prop where
  plain : ∀ c ∈ rest, c.toNat ≠ 0x3A3
  blank : ∀ c, (Text.lowercase rest).head? = some c → Text.isBlank c = true
  words : withoutCommas (Text.words (Text.lowercase rest)) = ws

section Words

variable {blanks word rest w : List Char} {ws : List (List Char)}

/-- A word is read off a line. -/
theorem words_append (hblanks : ∀ c ∈ blanks, Text.isBlank c = true)
    (hword : Text.lowerAscii word = w) (hne : w ≠ [])
    (hw : ∀ c ∈ w, c.toNat < 128 ∧ Text.isBlank c = false) (hrest : IsTail ws rest) :
    (∀ c ∈ blanks ++ (word ++ rest), c.toNat ≠ 0x3A3) ∧
      Text.lowercase (blanks ++ (word ++ rest)) = blanks ++ (w ++ Text.lowercase rest) ∧
      Text.words (Text.lowercase (blanks ++ (word ++ rest))) =
        w :: Text.words (Text.lowercase rest) := by
  have hascii : ∀ c ∈ word, c.toNat < 128 :=
    Text.lt_of_lowerAscii (hword ▸ fun c hc => (hw c hc).1)
  have hplain : ∀ c ∈ word, c.toNat ≠ 0x3A3 := fun c hc =>
    Nat.ne_of_lt (Nat.lt_trans (hascii c hc) (by decide))
  have hafter := List.forall_mem_append.mpr ⟨hplain, hrest.plain⟩
  have hbefore : ∀ c ∈ blanks, c.toNat ≠ 0x3A3 := fun c hc =>
    (Text.case_of_isBlank (hblanks c hc)).1
  have hlower : Text.lowercase (blanks ++ (word ++ rest)) =
      blanks ++ (w ++ Text.lowercase rest) := by
    rw [Text.lowercase_append_of_forall hbefore hafter,
      Text.lowercase_append_of_forall hplain hrest.plain, Text.lowercase_eq_lowerAscii hascii,
      hword, Text.lowercase_of_forall fun c hc => Text.case_of_isBlank (hblanks c hc)]
  refine ⟨List.forall_mem_append.mpr ⟨hbefore, hafter⟩, hlower, ?_⟩
  rw [hlower, Text.words, Text.fields_append_left hblanks,
    Text.fields_append_of_head hne (fun c hc => (hw c hc).2) hrest.blank]
  rfl

/-- Commas behind a word do not count. -/
theorem withoutCommas_cons (hw : IsArgument w) {commas : List Char}
    (hcommas : ∀ c ∈ commas, c = ',') (ws : List (List Char)) :
    withoutCommas ((w ++ commas) :: ws) = w :: withoutCommas ws := by
  have hcomma : ∀ c ∈ w, decide (c = ',') = false := fun c hc =>
    (Bool.or_eq_false_iff.mp (hw.solid c hc)).2
  have hstrip : Text.strip (· = ',') (w ++ commas) = w := by
    have hdrop := @Text.strip_append (· = ',') [] w commas (List.forall_mem_nil _)
      fun c hc => decide_eq_true (hcommas c hc)
    rw [List.nil_append] at hdrop
    rw [hdrop]
    exact Text.strip_eq_self (fun c hc => hcomma c (List.mem_of_mem_head? hc))
      fun c hc => hcomma c (List.mem_of_getLast? hc)
  rw [withoutCommas, List.map_cons, hstrip, List.filter_cons_of_pos (by simpa using hw.ne)]
  rfl

/-- The words of a line are found again. -/
theorem words_of_isWritten (h : IsWritten ws rest) (hws : ∀ w ∈ ws, IsArgument w) :
    IsTail ws rest := by
  induction h with
  | @nil blanks hblanks =>
    have hlower : Text.lowercase blanks = blanks :=
      Text.lowercase_of_forall fun c hc => Text.case_of_isBlank (hblanks c hc)
    refine ⟨fun c hc => (Text.case_of_isBlank (hblanks c hc)).1, fun c hc => ?_, ?_⟩
    · rw [hlower] at hc
      exact hblanks c (List.mem_of_mem_head? hc)
    · have hnone : Text.fields Text.isBlank (blanks ++ []) = [] :=
        Text.fields_append_left hblanks []
      rw [hlower, Text.words, ← List.append_nil blanks, hnone]
      rfl
  | @cons w blanks word commas rest ws hne hblanks hword hcommas hrest ih =>
    obtain ⟨hw, hws⟩ := List.forall_mem_cons.mp hws
    have hlower : Text.lowerAscii (word ++ commas) = w ++ commas := by
      rw [Text.lowerAscii, List.map_append]
      refine congrArg₂ _ hword ((List.map_congr_left fun c hc => ?_).trans (List.map_id _))
      rw [hcommas c hc]
      rfl
    have hchars : ∀ c ∈ w ++ commas, c.toNat < 128 ∧ Text.isBlank c = false := by
      refine List.forall_mem_append.mpr ⟨fun c hc => ?_, fun c hc => ?_⟩
      · exact ⟨(hw.small c hc).1, (Bool.or_eq_false_iff.mp (hw.solid c hc)).1⟩
      · rw [hcommas c hc]
        decide
    obtain ⟨hplain, hline, hwords⟩ := words_append hblanks hlower
      (List.append_ne_nil_of_left_ne_nil hw.ne commas) hchars (ih hws)
    refine ⟨hplain, fun c hc => ?_, ?_⟩
    · rw [hline, List.head?_append_of_ne_nil _ hne] at hc
      exact hblanks c (List.mem_of_mem_head? hc)
    · rw [hwords, withoutCommas_cons hw hcommas, (ih hws).words]

/-- A line is read as the words that it consists of. -/
theorem parse_of_isAddLine {line : List Char} (h : IsAddLine ws line)
    (hws : ∀ w ∈ ws, IsArgument w) :
    ∃ arguments, withoutCommas arguments = ws ∧
      parse (String.ofList line) = (addition arguments).map .add := by
  obtain @⟨blanks, verb, rest, hblanks, hverb, hrest⟩ := h
  have htail := words_of_isWritten hrest hws
  obtain ⟨hplain, -, hwords⟩ := words_append hblanks hverb (by decide) (by decide) htail
  refine ⟨_, htail.words, ?_⟩
  have hlowered : Text.words (Text.lowercase (Text.trim (blanks ++ (verb ++ rest)))) =
      "add".toList :: Text.words (Text.lowercase rest) := by
    rw [← hwords]
    exact Text.fields_lowercase_trim (fun _ h => h) hplain
  rw [parse, String.toList_ofList, hlowered]
  exact if_pos rfl

end Words

/-! ### Words that ask for something -/

theorem isArgument_decimal (n : UInt32) : IsArgument (Text.decimal n.toNat) where
  ne := Nat.toDigits_ne_nil
  small c hc := (Duration.class_of_isDigit (Json.isDigit_of_mem_decimal c hc)).1
  solid c hc := Duration.isSeparator_of_isDigit (Json.isDigit_of_mem_decimal c hc)

/-- The fixed words. -/
theorem isArgument_fixed : ∀ w ∈ ["assignment", "assignments", "and"], IsArgument w.toList := by
  have hsmall : ∀ w ∈ ["assignment", "assignments", "and"], w.toList ≠ [] ∧
      (∀ c ∈ w.toList, c.toNat < 128 ∧ c.isUpper = false) ∧
        ∀ c ∈ w.toList, isSeparator c = false := by
    decide
  exact fun w hw => ⟨(hsmall w hw).1, (hsmall w hw).2.1, (hsmall w hw).2.2⟩

theorem isArgument_durationWords {s : UInt64} : ∀ w ∈ durationWords s, IsArgument w := by
  intro w hw
  obtain ⟨hne, hchars⟩ := Text.mem_fields hw
  refine ⟨hne, fun c hc => ?_, fun c hc => (hchars c hc).2⟩
  have hmem := (hchars c hc).1
  rw [Duration.format, String.toList_ofList] at hmem
  exact Duration.isSmall_formatChars s.toNat c hmem

theorem isArgument_of_asks {a : Addition} {ws : List (List Char)} (h : Asks a ws) :
    ∀ w ∈ ws, IsArgument w := by
  have hnoun {noun : String} (hnoun : noun ∈ ["assignment", "assignments"]) :
      IsArgument noun.toList :=
    isArgument_fixed noun (List.mem_append_left ["and"] hnoun)
  cases h with
  | assignments n hmem =>
    exact List.forall_mem_cons.mpr
      ⟨isArgument_decimal n, List.forall_mem_singleton.mpr (hnoun hmem)⟩
  | time s => exact isArgument_durationWords
  | both n s k hmem =>
    refine List.forall_mem_cons.mpr ⟨isArgument_decimal n, List.forall_mem_cons.mpr
      ⟨hnoun hmem, List.forall_mem_append.mpr ⟨fun w hw => ?_, isArgument_durationWords⟩⟩⟩
    rw [List.eq_of_mem_replicate hw]
    exact isArgument_fixed "and" (by decide)

/-! ### Time -/

section Time

variable {s : UInt64}

/-- Without connectors, the words of a canonical phrase are those that are read. -/
theorem filter_durationWords (s : UInt64) :
    (durationWords s).filter (fun w => w ≠ joiner) =
      Duration.kept (Duration.formatChars s.toNat) := by
  rw [durationWords, Duration.format, String.toList_ofList, Duration.kept,
    Text.lowercase_eq_self (Duration.isSmall_formatChars s.toNat)]

/-- Connectors at the beginning do not count. -/
theorem filter_dropWhile_joiner (ws : List (List Char)) :
    (ws.dropWhile (· = joiner)).filter (fun w => w ≠ joiner) =
      ws.filter fun w => w ≠ joiner := by
  induction ws with
  | nil => rfl
  | cons w ws ih =>
    by_cases hw : w = joiner
    · rw [List.dropWhile_cons_of_pos (by simpa using hw), ih,
        List.filter_cons_of_neg (by simpa using hw)]
    · rw [List.dropWhile_cons_of_neg (by simpa using hw)]

/-- Words that are joined by blanks are kept, apart from connectors. -/
theorem kept_joined {ws : List (List Char)} (hws : ∀ w ∈ ws, IsArgument w) :
    (∀ c ∈ Text.joined [' '] ws, c.toNat ≠ 0x3A3) ∧
      Duration.kept (Text.joined [' '] ws) = ws.filter fun w => w ≠ joiner := by
  have hsmall : Text.IsSmall (Text.joined [' '] ws) :=
    Text.forall_mem_joined (by decide) fun w hw => (hws w hw).small
  refine ⟨hsmall.ne_capitalSigma, ?_⟩
  rw [Duration.kept, Text.lowercase_eq_self hsmall, Text.fields_joined rfl
    (fun w hw => (hws w hw).ne) fun w hw => (hws w hw).solid]

/-- Words with those of a canonical phrase among them, apart from connectors, are read as the
duration of the phrase. -/
theorem parse_joined (hs : 1 ≤ s.toNat) {ws : List (List Char)} (hws : ∀ w ∈ ws, IsArgument w)
    (hfilter : ws.filter (fun w => w ≠ joiner) = Duration.kept (Duration.formatChars s.toNat)) :
    Duration.parse (String.ofList (Text.joined [' '] ws)) = .ok s := by
  obtain ⟨hplain, hkept⟩ := kept_joined hws
  have hterms : Duration.termsOf (Text.trim (Text.joined [' '] ws)) =
      Duration.termsOf (Duration.formatChars s.toNat) := by
    have htrim : Duration.kept (Text.trim (Text.joined [' '] ws)) =
        Duration.kept (Text.joined [' '] ws) := by
      rw [Duration.kept, Text.fields_lowercase_trim (fun c hc =>
        Duration.isSeparator_iff.mpr (.inl hc)) hplain]
      rfl
    exact congrArg (Text.joined [' ']) (htrim.trans (hkept.trans hfilter))
  have hphrase := Duration.isPhrase_formatChars (Nat.one_le_iff_ne_zero.mp hs)
  have hsum : Duration.sum (Duration.termsOf (Duration.formatChars s.toNat)) =
      .ok ⟨s.toNat, 0⟩ := by
    rw [Duration.sum_of_isPhrase hphrase, Duration.total_quantities,
      Duration.fit_of_lt s.toNat_lt]
    rfl
  rw [Duration.parse, String.toList_ofList, hterms, hsum]
  exact (if_neg (Nat.one_le_iff_ne_zero.mp hs)).trans (by rw [UInt64.ofNat_toNat])

/-- The words of a canonical phrase, after any number of connectors, are read as its duration. -/
theorem trailingTime_durationWords (hs : 1 ≤ s.toNat) (connectors : Nat) :
    trailingTime (List.replicate connectors "and".toList ++ durationWords s) = .ok (some s) := by
  have hjoiner : "and".toList = joiner := rfl
  have hphrase := Duration.isPhrase_formatChars (Nat.one_le_iff_ne_zero.mp hs)
  obtain ⟨t, ts, hread⟩ := Duration.isReadAs_of_isPhrase hphrase
  rw [hjoiner]
  generalize hall : List.replicate connectors joiner ++ durationWords s = ws
  have hws : ∀ w ∈ ws.dropWhile (· = joiner), IsArgument w := by
    intro w hw
    have hmem := (List.dropWhile_sublist _).subset hw
    rw [← hall] at hmem
    rcases List.mem_append.mp hmem with hmem | hmem
    · rw [List.eq_of_mem_replicate hmem]
      exact isArgument_fixed "and" (by decide)
    · exact isArgument_durationWords w hmem
  have hfilter : (ws.dropWhile (· = joiner)).filter (fun w => w ≠ joiner) =
      Duration.kept (Duration.formatChars s.toNat) := by
    have hjoiners : (List.replicate connectors joiner).filter (fun w => w ≠ joiner) = [] := by
      simp
    rw [filter_dropWhile_joiner, ← hall, List.filter_append, hjoiners, List.nil_append,
      filter_durationWords]
  have hne : (ws.dropWhile (· = joiner)).isEmpty = false := by
    rw [List.isEmpty_eq_false_iff]
    intro h
    rw [h] at hfilter
    exact hread.kept_ne hfilter.symm
  rw [trailingTime, hne, if_neg Bool.false_ne_true, parse_joined hs hws hfilter]

end Time

/-! ### Additions -/

theorem count_decimal {n : UInt32} (hn : 1 ≤ n.toNat) : count (Text.decimal n.toNat) = .ok n := by
  have hpos : decide (0 < n.toNat) = true := decide_eq_true hn
  rw [count, Text.unsigned32?_decimal, Option.filter_some, hpos, if_pos rfl]
  exact congrArg Except.ok (UInt32.ofNat_toNat)

theorem leadingCount_decimal {n : UInt32} (hn : 1 ≤ n.toNat) {noun : String}
    (hnoun : noun ∈ ["assignment", "assignments"]) (rest : List (List Char)) :
    leadingCount (Text.decimal n.toNat :: noun.toList :: rest) = .ok (some n, rest) := by
  have hword : noun.toList = "assignment".toList ∨ noun.toList = "assignments".toList := by
    simp only [List.mem_cons, List.not_mem_nil, or_false] at hnoun
    exact hnoun.imp (congrArg _) (congrArg _)
  rw [leadingCount, if_pos hword, count_decimal hn]
  rfl

/-- Words that count no assignments are left to the time. -/
theorem leadingCount_of_forall {ws : List (List Char)}
    (h : ∀ w ∈ ws, w ≠ "assignment".toList ∧ w ≠ "assignments".toList) :
    leadingCount ws = .ok (none, ws) := by
  unfold leadingCount
  split
  · next n noun rest =>
    have hnoun := h noun (.tail _ (.head _))
    rw [if_neg (not_or.mpr hnoun)]
  · rfl

/-- The words of a canonical phrase count no assignments. -/
theorem ne_noun_of_mem_durationWords {s : UInt64} (hs : 1 ≤ s.toNat) :
    ∀ w ∈ durationWords s, w ≠ "assignment".toList ∧ w ≠ "assignments".toList := by
  have hphrase := Duration.isPhrase_formatChars (Nat.one_le_iff_ne_zero.mp hs)
  obtain ⟨t, ts, hread⟩ := Duration.isReadAs_of_isPhrase hphrase
  have hnoun : ∀ noun ∈ ["assignment", "assignments"], noun.toList ∉ durationWords s := by
    intro noun hnoun hmem
    have hspec : noun.toList ≠ joiner ∧ noun.toList.head? = some 'a' ∧
        TimeUnit.ofWord? noun.toList = none := by
      simp only [List.mem_cons, List.not_mem_nil, or_false] at hnoun
      rcases hnoun with rfl | rfl <;> decide +kernel
    obtain ⟨hjoiner, hhead, hunit⟩ := hspec
    have hkept : noun.toList ∈ Duration.kept (Duration.formatChars s.toNat) := by
      rw [← filter_durationWords]
      exact List.mem_filter.mpr ⟨hmem, by simpa using hjoiner⟩
    rcases hread.words _ hkept with ⟨c, hc, hdigit⟩ | hword
    · rw [hhead] at hc
      obtain rfl := Option.some.inj hc
      cases hdigit
    · rw [hunit] at hword
      cases hword
  exact fun w hw => ⟨fun h => hnoun "assignment" (by decide) (h ▸ hw),
    fun h => hnoun "assignments" (by decide) (h ▸ hw)⟩

/-- Words that ask for an addition are understood. -/
theorem addition_of_asks {a : Addition} {ws arguments : List (List Char)} (h : Asks a ws)
    (ha : a.IsProper) (harguments : withoutCommas arguments = ws) :
    addition arguments = .ok a := by
  cases h with
  | assignments n hnoun =>
    have hcount := leadingCount_decimal (ha.count n rfl).1 hnoun []
    simp only [addition, harguments, hcount, bind, Except.bind]
    rfl
  | time s =>
    have hcount := leadingCount_of_forall (ne_noun_of_mem_durationWords (ha.seconds s rfl))
    have htime := trailingTime_durationWords (ha.seconds s rfl) 0
    rw [List.replicate_zero, List.nil_append] at htime
    simp only [addition, harguments, hcount, htime, bind, Except.bind]
    rfl
  | both n s connectors hnoun =>
    have hcount := leadingCount_decimal (ha.count n rfl).1 hnoun
      (List.replicate connectors "and".toList ++ durationWords s)
    have htime := trailingTime_durationWords (ha.seconds s rfl) connectors
    simp only [addition, harguments, hcount, htime, bind, Except.bind]
    rfl

/-! ### Empty additions -/

theorem pos_of_count {word : List Char} {n : UInt32} (h : count word = .ok n) : 1 ≤ n.toNat := by
  rw [count] at h
  split at h
  · next m hm =>
    obtain ⟨hvalue, hpos⟩ := Option.filter_eq_some_iff.mp hm
    rw [Text.unsigned32?, Text.unsigned?] at hvalue
    have hfits := (Option.filter_eq_some_iff.mp hvalue).2
    obtain rfl := Except.ok.inj h
    rw [UInt32.toNat_ofNat_of_lt' (of_decide_eq_true hfits)]
    exact of_decide_eq_true hpos
  · cases h

theorem pos_of_leadingCount {ws rest : List (List Char)} {n : UInt32}
    (h : leadingCount ws = .ok (some n, rest)) : 1 ≤ n.toNat := by
  unfold leadingCount at h
  split at h
  · split_ifs at h
    · obtain ⟨m, hm, h⟩ := Duration.bind_eq_ok.mp h
      cases h
      exact pos_of_count hm
    · cases h
  · cases h

theorem pos_of_trailingTime {ws : List (List Char)} {s : UInt64}
    (h : trailingTime ws = .ok (some s)) : 1 ≤ s.toNat := by
  unfold trailingTime at h
  dsimp only at h
  split_ifs at h
  · cases h
  · split at h
    · next hparse =>
      cases h
      exact Duration.pos_of_parse hparse
    · cases h

/-- What is added is not empty. -/
theorem isProper_of_addition {arguments : List (List Char)} {a : Addition}
    (h : addition arguments = .ok a) : a.IsProper := by
  rw [addition] at h
  obtain ⟨⟨n?, rest⟩, hcount, h⟩ := Duration.bind_eq_ok.mp h
  obtain ⟨s?, htime, h⟩ := Duration.bind_eq_ok.mp h
  have hn {n : UInt32} (hn? : n? = some n) : 1 ≤ n.toNat ∧ n.toNat ≤ 2 ^ 32 - 1 :=
    ⟨pos_of_leadingCount (hn? ▸ hcount), Nat.le_of_lt_succ n.toNat_lt⟩
  have hs {s : UInt64} (hs? : s? = some s) : 1 ≤ s.toNat := pos_of_trailingTime (hs? ▸ htime)
  rcases n? with _ | n <;> rcases s? with _ | s <;> cases h
  · exact ⟨.inr rfl, fun n hn => absurd hn (Option.some_ne_none n).symm,
      fun s' hs' => Option.some.inj hs' ▸ hs rfl⟩
  · exact ⟨.inl rfl, fun n' hn' => Option.some.inj hn' ▸ hn rfl,
      fun s hs => absurd hs (Option.some_ne_none s).symm⟩
  · exact ⟨.inl rfl, fun n' hn' => Option.some.inj hn' ▸ hn rfl,
      fun s' hs' => Option.some.inj hs' ▸ hs rfl⟩

/-- No addition is empty. -/
theorem isProper_of_parse {text : String} {a : Addition} (h : parse text = .ok (.add a)) :
    a.IsProper := by
  unfold parse at h
  dsimp only at h
  split at h
  · cases h
  · next verb arguments hwords =>
    split_ifs at h with hverb
    · rcases hadd : addition arguments with e | b
      · rw [hadd] at h
        cases h
      · rw [hadd] at h
        cases h
        exact isProper_of_addition hadd
    · -- every other command has words of its own
      split at h
      · next p hp =>
        have hother : ∀ p ∈ phrases, p.2 ≠ .add a := by simp [phrases]
        exact absurd (Except.ok.inj h) (hother p (List.mem_of_find?_eq_some hp))
      · split at h
        · cases h
        · next command words hp =>
          have hother : ∀ p ∈ plain, p.1 ≠ .add a := by simp [plain]
          split_ifs at h
          exact absurd (Except.ok.inj h) (hother _ (List.mem_of_find?_eq_some hp))

/-- **Additions are read back.** A line with the words that ask for some assignments, for the time
of a canonical phrase, or for both, is read as just that addition, in any letter case and with any
blanks and commas. No line is read as an addition of nothing, of no assignments or of no time, so
that no report of an addition shows an empty phrase. -/
theorem additions_read_back :
    (∀ (a : Addition) (ws : List (List Char)) (line : List Char), a.IsProper → Asks a ws →
        IsAddLine ws line → parse (String.ofList line) = .ok (.add a)) ∧
      ∀ (text : String) (a : Addition), parse text = .ok (.add a) →
        a.IsProper ∧ ∀ s, a.seconds? = some s → Duration.format s ≠ "" := by
  refine ⟨fun a ws line ha hasks hline => ?_, fun text a h => ⟨isProper_of_parse h, fun s hs => ?_⟩⟩
  · obtain ⟨arguments, hwords, hparse⟩ := parse_of_isAddLine hline (isArgument_of_asks hasks)
    rw [hparse, addition_of_asks hasks ha hwords]
    rfl
  · intro hempty
    have hread := Duration.parse_format s
    have hnot : s ≠ 0 := by
      rintro rfl
      exact absurd ((isProper_of_parse h).seconds 0 hs) (by decide)
    rw [if_neg hnot, hempty] at hread
    cases hread

/-- Five assignments and an hour, in letters of both cases, with blanks and commas. -/
theorem additions_read_back_of_both :
    parse " ADD 5,, Assignments,\tAND 1 Hour" = .ok (.add (.both 5 3600)) ∧
      (Addition.both 5 3600).IsProper := by
  have hproper : (Addition.both 5 3600).IsProper :=
    ⟨.inl rfl, fun n hn => Option.some.inj hn ▸ by decide,
      fun s hs => Option.some.inj hs ▸ by decide⟩
  have hasks : Asks (.both 5 3600) ["5".toList, "assignments".toList, "and".toList, "1".toList,
      "hour".toList] := by
    have hwords : durationWords 3600 = ["1".toList, "hour".toList] := by decide +kernel
    have h := @Asks.both 5 3600 "assignments" 1 (by decide)
    rw [hwords] at h
    exact h
  have hend : IsWritten [] [] := .nil (List.forall_mem_nil _)
  have htime : IsWritten ["1".toList, "hour".toList] " 1 Hour".toList :=
    @IsWritten.cons _ [' '] "1".toList [] _ _ (by decide) (by decide) (by decide) (by decide)
      (@IsWritten.cons _ [' '] "Hour".toList [] _ _ (by decide) (by decide) (by decide) (by decide)
        hend)
  have hcount : IsWritten ["5".toList, "assignments".toList, "and".toList, "1".toList,
      "hour".toList] " 5,, Assignments,\tAND 1 Hour".toList :=
    @IsWritten.cons _ [' '] "5".toList [',', ','] _ _ (by decide) (by decide) (by decide)
      (by decide)
      (@IsWritten.cons _ [' '] "Assignments".toList [','] _ _ (by decide) (by decide) (by decide)
        (by decide)
        (@IsWritten.cons _ ['\t'] "AND".toList [] _ _ (by decide) (by decide) (by decide)
          (by decide)
          htime))
  have hline : IsAddLine ["5".toList, "assignments".toList, "and".toList, "1".toList,
      "hour".toList] " ADD 5,, Assignments,\tAND 1 Hour".toList :=
    @IsAddLine.intro _ [' '] "ADD".toList _ (by decide) (by decide) hcount
  have hparse := additions_read_back.1 _ _ _ hproper hasks hline
  rw [String.ofList_toList] at hparse
  exact ⟨hparse, (additions_read_back.2 _ _ hparse).1⟩

end Command

end CrowdTask
