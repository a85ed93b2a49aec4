import CrowdTask.Text.Blank
import CrowdTask.Text.Lowercase
import Mathlib.Data.List.Basic
import Mathlib.Data.List.TakeWhile
import Mathlib.Tactic.Common

/-!
# Words and letter case

A text falls apart into its fields wherever a separator stands, and fields that are joined by a
separator are found again. Small letters are found letter by letter, the capital sigma apart, and a
text without capitals is its own lower-case form.

## Main results

* `CrowdTask.Text.fields_append_cons`: a separator cuts a text in two.
* `CrowdTask.Text.fields_joined`: joined fields are found again.
* `CrowdTask.Text.takeWhile_ne_append_cons`: what stands before a separator.
* `CrowdTask.Text.lowercaseAfter_eq_flatMap`: the lower-case form, letter by letter.
* `CrowdTask.Text.strip_eq_self`: a text with nothing to strip at its ends.
* `CrowdTask.Text.strip_append`, `CrowdTask.Text.exists_append_strip`: what is stripped off.
* `CrowdTask.Text.trim_upperAscii`: letter case does not matter for what is stripped off.
-/

namespace CrowdTask.Text

/-- What is said of all characters of a text is decided for one after the other, and not for every
character there is. -/
instance decidableForallMem (p : Char → Prop) [DecidablePred p] (cs : List Char) :
    Decidable (∀ c ∈ cs, p c) := List.decidableBAll p cs

/-! ### Fields -/

section Fields

variable {sep : Char → Bool} {c : Char} {cs : List Char}

@[simp]
theorem fields_nil : fields sep [] = [] := rfl

theorem fields_cons_of_sep (h : sep c = true) (cs : List Char) :
    fields sep (c :: cs) = fields sep cs := by
  rw [fields.eq_def]
  exact if_pos h

theorem fields_singleton (h : sep c = false) : fields sep [c] = [[c]] :=
  if_neg (Bool.eq_false_iff.mp h)

theorem fields_cons_cons (h : sep c = false) (d : Char) (cs : List Char) :
    fields sep (c :: d :: cs) =
      if sep d then [c] :: fields sep (d :: cs) else pushFirst c (fields sep (d :: cs)) := by
  rw [fields.eq_def]
  exact if_neg (Bool.eq_false_iff.mp h)

theorem fields_cons_ne_nil (h : sep c = false) (cs : List Char) : fields sep (c :: cs) ≠ [] := by
  cases cs with
  | nil => simp [fields_singleton h]
  | cons d cs =>
    rw [fields_cons_cons h]
    split_ifs with hd
    · exact List.cons_ne_nil _ _
    · rcases fields sep (d :: cs) with _ | ⟨f, fs⟩ <;> exact List.cons_ne_nil _ _

/-- A separator cuts a text in two. -/
theorem fields_append_cons (cs : List Char) (h : sep c = true) (rest : List Char) :
    fields sep (cs ++ c :: rest) = fields sep cs ++ fields sep rest := by
  induction cs with
  | nil => exact fields_cons_of_sep h rest
  | cons d cs ih =>
    rcases Bool.eq_false_or_eq_true (sep d) with hd | hd
    · rw [List.cons_append, fields_cons_of_sep hd, fields_cons_of_sep hd, ih]
    cases cs with
    | nil =>
      rw [List.singleton_append, fields_cons_cons hd, if_pos h, fields_cons_of_sep h,
        fields_singleton hd, List.singleton_append]
    | cons e cs =>
      rw [List.cons_append] at ih
      rw [List.cons_append, List.cons_append, fields_cons_cons hd, fields_cons_cons hd, ih]
      split_ifs with he
      · rw [List.cons_append]
      · -- the first field goes on, and it is not empty
        obtain ⟨f, fs, hfs⟩ := List.exists_cons_of_ne_nil
          (fields_cons_ne_nil (Bool.eq_false_iff.mpr he) cs)
        rw [hfs]
        rfl

theorem fields_of_forall (hne : cs ≠ []) (h : ∀ c ∈ cs, sep c = false) : fields sep cs = [cs] := by
  induction cs with
  | nil => exact absurd rfl hne
  | cons c cs ih =>
    obtain ⟨hc, hcs⟩ := List.forall_mem_cons.mp h
    cases cs with
    | nil => exact fields_singleton hc
    | cons d cs =>
      rw [fields_cons_cons hc, if_neg (by simp [hcs d (.head _)]), ih (List.cons_ne_nil _ _) hcs]
      rfl

/-- A field that is followed by a separator, or by nothing. -/
theorem fields_append_of_head (hne : cs ≠ []) (h : ∀ c ∈ cs, sep c = false) {rest : List Char}
    (hrest : ∀ c, rest.head? = some c → sep c = true) :
    fields sep (cs ++ rest) = cs :: fields sep rest := by
  cases rest with
  | nil => rw [List.append_nil, fields_of_forall hne h, fields_nil]
  | cons c rest =>
    have hc := hrest c rfl
    rw [fields_append_cons cs hc, fields_of_forall hne h, fields_cons_of_sep hc,
      List.singleton_append]

/-- Separators at the beginning do not count. -/
theorem fields_append_left {before : List Char} (h : ∀ c ∈ before, sep c = true)
    (cs : List Char) : fields sep (before ++ cs) = fields sep cs := by
  induction before with
  | nil => rfl
  | cons c before ih =>
    obtain ⟨hc, hbefore⟩ := List.forall_mem_cons.mp h
    rw [List.cons_append, fields_cons_of_sep hc, ih hbefore]

/-- Separators at the end do not count. -/
theorem fields_append_right {after : List Char} (h : ∀ c ∈ after, sep c = true)
    (cs : List Char) : fields sep (cs ++ after) = fields sep cs := by
  cases after with
  | nil => rw [List.append_nil]
  | cons c after =>
    obtain ⟨hc, hafter⟩ := List.forall_mem_cons.mp h
    have hnone : fields sep (after ++ []) = [] := fields_append_left hafter []
    rw [List.append_nil] at hnone
    rw [fields_append_cons cs hc, hnone, List.append_nil]

/-- A field is a piece of the text without separators. -/
theorem mem_fields {f : List Char} (h : f ∈ fields sep cs) :
    f ≠ [] ∧ ∀ c ∈ f, c ∈ cs ∧ sep c = false := by
  induction cs generalizing f with
  | nil => cases h
  | cons c cs ih =>
    have hlater {f : List Char} (h : f ∈ fields sep cs) :
        f ≠ [] ∧ ∀ d ∈ f, d ∈ c :: cs ∧ sep d = false :=
      ⟨(ih h).1, fun d hd => ⟨.tail _ ((ih h).2 d hd).1, ((ih h).2 d hd).2⟩⟩
    rcases Bool.eq_false_or_eq_true (sep c) with hc | hc
    · rw [fields_cons_of_sep hc] at h
      exact hlater h
    have hsingle : [c] ≠ [] ∧ ∀ d ∈ [c], d ∈ c :: cs ∧ sep d = false :=
      ⟨List.cons_ne_nil _ _, by simpa using hc⟩
    cases cs with
    | nil =>
      rw [fields_singleton hc] at h
      exact List.mem_singleton.mp h ▸ hsingle
    | cons d cs =>
      rw [fields_cons_cons hc] at h
      split_ifs at h with hd
      · rcases List.mem_cons.mp h with rfl | h
        · exact hsingle
        · exact hlater h
      · -- the first field goes on
        obtain ⟨g, gs, hgs⟩ := List.exists_cons_of_ne_nil
          (fields_cons_ne_nil (Bool.eq_false_iff.mpr hd) cs)
        rw [hgs, pushFirst] at h
        rcases List.mem_cons.mp h with rfl | h
        · have hg := hlater (hgs ▸ List.mem_cons_self : g ∈ fields sep (d :: cs))
          exact ⟨List.cons_ne_nil _ _, List.forall_mem_cons.mpr ⟨⟨.head _, hc⟩, hg.2⟩⟩
        · exact hlater (hgs ▸ List.mem_cons_of_mem g h)

theorem joined_cons (s f : List Char) {fs : List (List Char)} (hne : fs ≠ []) :
    joined s (f :: fs) = f ++ (s ++ joined s fs) := by
  obtain ⟨g, gs, rfl⟩ := List.exists_cons_of_ne_nil hne
  rw [joined, List.append_assoc]

theorem joined_append (s : List Char) {fs gs : List (List Char)} (hfs : fs ≠ []) (hgs : gs ≠ []) :
    joined s (fs ++ gs) = joined s fs ++ (s ++ joined s gs) := by
  induction fs with
  | nil => exact absurd rfl hfs
  | cons f fs ih =>
    rcases eq_or_ne fs [] with rfl | hne
    · exact joined_cons s f hgs
    · rw [List.cons_append, joined_cons s f (List.append_ne_nil_of_left_ne_nil hne gs), ih hne,
        joined_cons s f hne, List.append_assoc, List.append_assoc]

/-- What is said of all characters of the pieces and of the separator holds for the whole. -/
theorem forall_mem_joined {p : Char → Prop} {s : List Char} (hs : ∀ c ∈ s, p c)
    {fs : List (List Char)} (hfs : ∀ f ∈ fs, ∀ c ∈ f, p c) : ∀ c ∈ joined s fs, p c := by
  induction fs with
  | nil => exact List.forall_mem_nil _
  | cons f fs ih =>
    obtain ⟨hf, hfs⟩ := List.forall_mem_cons.mp hfs
    rcases eq_or_ne fs [] with rfl | hne
    · exact hf
    · rw [joined_cons s f hne]
      exact List.forall_mem_append.mpr ⟨hf, List.forall_mem_append.mpr ⟨hs, ih hfs⟩⟩

/-- Fields that are joined by a separator are found again. -/
theorem fields_joined (h : sep c = true) {fs : List (List Char)} (hne : ∀ f ∈ fs, f ≠ [])
    (hfs : ∀ f ∈ fs, ∀ c ∈ f, sep c = false) : fields sep (joined [c] fs) = fs := by
  induction fs with
  | nil => rfl
  | cons f fs ih =>
    obtain ⟨hf, hne⟩ := List.forall_mem_cons.mp hne
    obtain ⟨hf', hfs⟩ := List.forall_mem_cons.mp hfs
    cases fs with
    | nil => exact fields_of_forall hf hf'
    | cons g fs =>
      rw [joined, List.append_assoc, List.singleton_append, fields_append_cons _ h,
        fields_of_forall hf hf', ih hne hfs, List.singleton_append]

/-- What stands before the first separator of one kind. -/
theorem takeWhile_ne_append_cons (h : c ∉ cs) (rest : List Char) :
    (cs ++ c :: rest).takeWhile (· ≠ c) = cs := by
  rw [List.takeWhile_append_of_pos fun d hd => decide_eq_true (ne_of_mem_of_not_mem hd h),
    List.takeWhile_cons_of_neg (by simp), List.append_nil]

end Fields

/-! ### Letter case -/

section Case

variable {c : Char} {cs : List Char}

/-- Without a capital sigma, whose small letter depends on its neighbours, the lower-case form is
found letter by letter. -/
theorem lowercaseAfter_eq_flatMap (before : List Char) (h : ∀ c ∈ cs, c.toNat ≠ 0x3A3) :
    lowercaseAfter before cs = cs.flatMap lowerLetter := by
  induction cs generalizing before with
  | nil => rfl
  | cons c cs ih =>
    obtain ⟨hc, hcs⟩ := List.forall_mem_cons.mp h
    rw [lowercaseAfter, List.flatMap_cons, ih _ hcs, if_neg hc]

theorem lowerLetter_of_not_isUpper (h : c.toNat < 128) (hc : c.isUpper = false) :
    lowerLetter c = [c] := by
  have hrange : ¬(c.val ≥ 'A'.val ∧ c.val ≤ 'Z'.val) := of_decide_eq_false hc
  rw [lowerLetter, if_pos h]
  exact congrArg (fun d => [d]) (dif_neg hrange)

/-- Blanks have no case. -/
theorem lowerLetter_of_isBlank (h : isBlank c = true) : lowerLetter c = [c] := by
  have hall : ∀ n ∈ List.range' 9 5 ++ [0x20, 0x85, 0xA0, 0x1680] ++ List.range' 0x2000 11 ++
      [0x2028, 0x2029, 0x202F, 0x205F, 0x3000], lowerLetter (Char.ofNat n) = [Char.ofNat n] := by
    decide +kernel
  have hmem := hall c.toNat (by
    simp only [isBlank, Bool.or_eq_true, Bool.and_eq_true, decide_eq_true_eq, beq_iff_eq] at h
    simp only [List.mem_append, List.mem_range'_1, List.mem_cons, List.not_mem_nil]
    omega)
  rwa [Char.ofNat_toNat] at hmem

theorem case_of_isBlank (h : isBlank c = true) : c.toNat ≠ 0x3A3 ∧ lowerLetter c = [c] := by
  refine ⟨fun hc => ?_, lowerLetter_of_isBlank h⟩
  rw [isBlank, hc] at h
  exact absurd h (by decide)

/-- A text with a capital sigma has a small sigma in its lower-case form. -/
theorem ne_capitalSigma_of_lowercase {p : Char → Prop} (hp : ∀ c, p c → c.toNat < 0x3A3)
    (before : List Char) (h : ∀ c ∈ lowercaseAfter before cs, p c) :
    ∀ c ∈ cs, c.toNat ≠ 0x3A3 := by
  induction cs generalizing before with
  | nil => exact nofun
  | cons c cs ih =>
    rw [lowercaseAfter] at h
    obtain ⟨hsmall, hcs⟩ := List.forall_mem_append.mp h
    refine List.forall_mem_cons.mpr ⟨fun hc => ?_, ih _ hcs⟩
    rw [if_pos hc] at hsmall
    split_ifs at hsmall
    · exact absurd (hp _ (hsmall _ (.head _))) (by decide)
    · exact absurd (hp _ (hsmall _ (.head _))) (by decide)

/-- Whether a text consists of ASCII characters other than capitals. -/
def IsSmall (cs : List Char) : Prop := ∀ c ∈ cs, c.toNat < 128 ∧ c.isUpper = false

/-- The lower-case form of one text after another. -/
theorem lowercase_append_of_forall {ds : List Char} (hcs : ∀ c ∈ cs, c.toNat ≠ 0x3A3)
    (hds : ∀ c ∈ ds, c.toNat ≠ 0x3A3) : lowercase (cs ++ ds) = lowercase cs ++ lowercase ds := by
  rw [lowercase, lowercase, lowercase, lowercaseAfter_eq_flatMap [] hcs,
    lowercaseAfter_eq_flatMap [] hds,
    lowercaseAfter_eq_flatMap [] (List.forall_mem_append.mpr ⟨hcs, hds⟩), List.flatMap_append]

theorem IsSmall.ne_capitalSigma (h : IsSmall cs) : ∀ c ∈ cs, c.toNat ≠ 0x3A3 := fun c hc =>
  Nat.ne_of_lt (Nat.lt_trans (h c hc).1 (by decide))

/-- A text whose characters are their own small letters is its own lower-case form. -/
theorem lowercase_of_forall (h : ∀ c ∈ cs, c.toNat ≠ 0x3A3 ∧ lowerLetter c = [c]) :
    lowercase cs = cs := by
  rw [lowercase, lowercaseAfter_eq_flatMap [] fun c hc => (h c hc).1]
  exact (List.flatMap_congr fun c hc => (h c hc).2).trans (List.flatMap_singleton' cs)

/-- A text without capitals is its own lower-case form. -/
theorem lowercase_eq_self (h : IsSmall cs) : lowercase cs = cs :=
  lowercase_of_forall fun c hc =>
    ⟨h.ne_capitalSigma c hc, lowerLetter_of_not_isUpper (h c hc).1 (h c hc).2⟩

/-- In ASCII only the letters A to Z are capitals. -/
theorem lowercase_eq_lowerAscii (h : ∀ c ∈ cs, c.toNat < 128) : lowercase cs = lowerAscii cs := by
  have hplain : ∀ c ∈ cs, c.toNat ≠ 0x3A3 := fun c hc =>
    Nat.ne_of_lt (Nat.lt_trans (h c hc) (by decide))
  rw [lowercase, lowercaseAfter_eq_flatMap [] hplain, lowerAscii, List.map_eq_flatMap]
  exact List.flatMap_congr fun c hc => if_pos (h c hc)

/-- The small letters of A to Z are in ASCII, and no other letter becomes one of theirs. -/
theorem lt_of_lowerAscii (h : ∀ c ∈ lowerAscii cs, c.toNat < 128) : ∀ c ∈ cs, c.toNat < 128 := by
  intro c hc
  have hlower := h c.toLower (List.mem_map_of_mem hc)
  by_contra hge
  have hrange : ¬(c.val ≥ 'A'.val ∧ c.val ≤ 'Z'.val) := fun ⟨_, hz⟩ =>
    hge (Nat.lt_of_le_of_lt (UInt32.le_iff_toNat_le.mp hz) (by decide))
  have hself : c.toLower = c := dif_neg hrange
  rw [hself] at hlower
  exact hge hlower

/-- A beginning without capitals stays as it is. -/
theorem lowercase_append {ds : List Char} (hcs : IsSmall cs)
    (hds : ∀ c ∈ ds, c.toNat ≠ 0x3A3) : lowercase (cs ++ ds) = cs ++ lowercase ds := by
  rw [lowercase_append_of_forall hcs.ne_capitalSigma hds, lowercase_eq_self hcs]

end Case

/-! ### Ends of a text -/

theorem dropWhile_eq_self {p : Char → Bool} {cs : List Char}
    (h : ∀ c, cs.head? = some c → p c = false) : cs.dropWhile p = cs := by
  cases cs with
  | nil => rfl
  | cons c cs => rw [List.dropWhile_cons_of_neg (by simp [h c rfl])]

/-- A text that neither begins nor ends with a character of the class. -/
theorem strip_eq_self {p : Char → Bool} {cs : List Char}
    (hhead : ∀ c, cs.head? = some c → p c = false)
    (hlast : ∀ c, cs.getLast? = some c → p c = false) : strip p cs = cs := by
  rw [strip, dropEndWhile, dropWhile_eq_self hhead, dropWhile_eq_self, List.reverse_reverse]
  rwa [List.head?_reverse]

/-- Characters of the class around a text are stripped off. -/
theorem strip_append {p : Char → Bool} {before cs after : List Char}
    (hbefore : ∀ c ∈ before, p c = true) (hafter : ∀ c ∈ after, p c = true) :
    strip p (before ++ cs ++ after) = strip p cs := by
  have hend (ds : List Char) : dropEndWhile p (ds ++ after) = dropEndWhile p ds := by
    rw [dropEndWhile, dropEndWhile, List.reverse_append, List.dropWhile_append_of_pos fun c hc =>
      hafter c (List.mem_reverse.mp hc)]
  rw [strip, strip, List.append_assoc, List.dropWhile_append_of_pos hbefore]
  by_cases hcs : cs.dropWhile p = []
  · have hall : ∀ c ∈ cs ++ after, p c = true :=
      List.forall_mem_append.mpr ⟨List.dropWhile_eq_nil_iff.mp hcs, hafter⟩
    rw [hcs, List.dropWhile_eq_nil_iff.mpr hall]
  · rw [List.dropWhile_append, List.isEmpty_eq_false_iff.mpr hcs, if_neg Bool.false_ne_true, hend]

/-- What is stripped off stands around what remains. -/
theorem exists_append_strip (p : Char → Bool) (cs : List Char) :
    ∃ before after, (∀ c ∈ before, p c = true) ∧ (∀ c ∈ after, p c = true) ∧
      cs = before ++ strip p cs ++ after := by
  have hstart : cs = cs.takeWhile p ++ cs.dropWhile p := List.takeWhile_append_dropWhile.symm
  have hend : cs.dropWhile p =
      strip p cs ++ ((cs.dropWhile p).reverse.takeWhile p).reverse := by
    rw [strip, dropEndWhile, ← List.reverse_append, List.takeWhile_append_dropWhile,
      List.reverse_reverse]
  refine ⟨cs.takeWhile p, ((cs.dropWhile p).reverse.takeWhile p).reverse,
    fun c hc => List.mem_takeWhile_imp hc,
    fun c hc => List.mem_takeWhile_imp (List.mem_reverse.mp hc), ?_⟩
  rw [List.append_assoc, ← hend, ← hstart]

/-- Blanks at the ends of a text do not count among its fields. -/
theorem fields_lowercase_trim {sep : Char → Bool} (hsep : ∀ c, isBlank c = true → sep c = true)
    {cs : List Char} (h : ∀ c ∈ cs, c.toNat ≠ 0x3A3) :
    fields sep (lowercase (trim cs)) = fields sep (lowercase cs) := by
  obtain ⟨before, after, hbefore, hafter, hcs⟩ := exists_append_strip isBlank cs
  have hblanks {bs : List Char} (hbs : ∀ c ∈ bs, isBlank c = true) : lowercase bs = bs :=
    lowercase_of_forall fun c hc => case_of_isBlank (hbs c hc)
  have hplain : ∀ c ∈ before ++ trim cs ++ after, c.toNat ≠ 0x3A3 := fun c hc => h c (hcs ▸ hc)
  obtain ⟨hfirst, hlast⟩ := List.forall_mem_append.mp hplain
  obtain ⟨hstart, hmiddle⟩ := List.forall_mem_append.mp hfirst
  have hlower : lowercase cs = before ++ lowercase (trim cs) ++ after := by
    conv_lhs => rw [hcs]
    change lowercase (before ++ trim cs ++ after) = _
    rw [lowercase_append_of_forall hfirst hlast, lowercase_append_of_forall hstart hmiddle,
      hblanks hbefore, hblanks hafter]
  rw [hlower, fields_append_right fun c hc => hsep c (hafter c hc),
    fields_append_left fun c hc => hsep c (hbefore c hc)]

theorem trim_of_forall {cs : List Char} (h : ∀ c ∈ cs, isBlank c = false) : trim cs = cs :=
  strip_eq_self (fun c hc => h c (List.mem_of_mem_head? hc))
    fun c hc => h c (List.mem_of_getLast? hc)

/-- What remains has nothing left to strip off. -/
theorem strip_strip (p : Char → Bool) (cs : List Char) : strip p (strip p cs) = strip p cs := by
  obtain ⟨before, after, hbefore, hafter, hcs⟩ := exists_append_strip p cs
  calc strip p (strip p cs) = strip p (before ++ strip p cs ++ after) :=
        (strip_append hbefore hafter).symm
    _ = strip p cs := by rw [← hcs]

/-- Nothing remains of blanks, and only of them. -/
theorem trim_eq_nil_iff {cs : List Char} : trim cs = [] ↔ ∀ c ∈ cs, isBlank c = true := by
  constructor
  · intro h
    obtain ⟨before, after, hbefore, hafter, hcs⟩ := exists_append_strip isBlank cs
    rw [← trim, h, List.append_nil] at hcs
    rw [hcs]
    exact List.forall_mem_append.mpr ⟨hbefore, hafter⟩
  · intro h
    rw [trim, strip, List.dropWhile_eq_nil_iff.mpr h]
    rfl

/-- Letters are no blanks, whether they are small or capital. -/
theorem isBlank_toUpper (c : Char) : isBlank c.toUpper = isBlank c := by
  have hsmall : ∀ n ∈ List.range' 97 26,
      isBlank (Char.ofNat n).toUpper = isBlank (Char.ofNat n) := by
    decide +kernel
  by_cases h : c.toNat ∈ List.range' 97 26
  · rw [← Char.ofNat_toNat c]
    exact hsmall _ h
  · have hrange : ¬ ('a'.val ≤ c.val ∧ c.val ≤ 'z'.val) := by
      rw [List.mem_range'_1] at h
      rw [UInt32.le_iff_toNat_le, UInt32.le_iff_toNat_le]
      change ¬ (97 ≤ c.toNat ∧ c.toNat ≤ 122)
      omega
    exact congrArg isBlank (dif_neg hrange)

theorem trim_upperAscii (cs : List Char) : trim (upperAscii cs) = upperAscii (trim cs) := by
  have hblank : isBlank ∘ Char.toUpper = isBlank := funext isBlank_toUpper
  rw [trim, strip, dropEndWhile, upperAscii, List.dropWhile_map, hblank, ← List.map_reverse,
    List.dropWhile_map, hblank, ← List.map_reverse]
  rfl

end CrowdTask.Text
