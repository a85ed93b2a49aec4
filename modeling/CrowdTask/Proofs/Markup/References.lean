import CrowdTask.Proofs.Markup.Escaping
import CrowdTask.Proofs.Text.Numerals

/-!
# Which references are replaced

A reference names one of five characters, or gives the number of a character in decimal or
hexadecimal digits. Reading a text from left to right, each reference is replaced by its character,
and every other character stands for itself, also an ampersand that begins no reference. This is
what happens to every text, with one exception: a plus sign in front of the digits of a number is
passed over, so that a text with such a sign, which is no reference, is replaced like one.

## Main definitions

* `CrowdTask.Markup.IsReference`: the references, with their characters.
* `CrowdTask.Markup.IsSigned`: the texts that are replaced without being references.
* `CrowdTask.Markup.Replaces`: what becomes of a text when its references are replaced.

## Main results

* `CrowdTask.Markup.replaces_unescape`: references are replaced, with and without a plus sign.
* `CrowdTask.Markup.replaces_unescape_iff`: the texts in which only references are replaced.
* `CrowdTask.Markup.references_replaced`: both, and that there is one way to replace references.
* `CrowdTask.Markup.signed_replaced`: a plus sign that is passed over.
-/

namespace CrowdTask.Markup

/-- The references by name. -/
inductive IsNamed : List Char → Char → Prop where
  | lt : IsNamed "&lt;".toList '<'
  | gt : IsNamed "&gt;".toList '>'
  | amp : IsNamed "&amp;".toList '&'
  | quot : IsNamed "&quot;".toList '"'
  | apos : IsNamed "&apos;".toList '\''

/-- The numbers in references: a decimal numeral, or a hexadecimal one after a letter. In both a
sign may stand in front of the digits. -/
inductive IsNumber (sign : List Char) : List Char → Nat → Prop where
  | decimal {ds : List Char} {n : Nat} (hds : Text.IsNumeral 10 ds n) : IsNumber sign (sign ++ ds) n
  | hexadecimal {x : Char} {ds : List Char} {n : Nat} (hx : x = 'x' ∨ x = 'X')
      (hds : Text.IsNumeral 16 ds n) : IsNumber sign (x :: (sign ++ ds)) n

/-- The references by number: the number is that of a character. -/
inductive IsNumbered (sign : List Char) : List Char → Char → Prop where
  | intro {ds : List Char} {n : Nat} (hds : IsNumber sign ds n) (hn : n.isValidChar) :
      IsNumbered sign ('&' :: ('#' :: ds ++ [';'])) (Char.ofNat n)

/-- Whether a text is a reference to a character. -/
def IsReference (w : List Char) (c : Char) : Prop := IsNamed w c ∨ IsNumbered [] w c

/-- Whether a text would be a reference to a character without the plus sign in front of its
digits. -/
def IsSigned (w : List Char) (c : Char) : Prop := IsNumbered ['+'] w c

/-- What becomes of a text when, from left to right, each of the given references is replaced by its
character, and all other characters are kept. -/
inductive Replaces (ref : List Char → Char → Prop) : List Char → List Char → Prop where
  | nil : Replaces ref [] []
  | reference {w rest out : List Char} {c : Char} (h : ref w c) (hrest : Replaces ref rest out) :
      Replaces ref (w ++ rest) (c :: out)
  | char {rest out : List Char} {c : Char} (h : ∀ w d, ref w d → ¬w <+: c :: rest)
      (hrest : Replaces ref rest out) : Replaces ref (c :: rest) (c :: out)

variable {ref : List Char → Char → Prop} {w w' name rest cs out out' : List Char} {c d : Char}

/-! ### References that are read -/

/-- Whether a text is read as a reference: what stands between an ampersand and the next semicolon
has a character, and holds no further ampersand. -/
def IsRead (w : List Char) (c : Char) : Prop :=
  ∃ name, w = '&' :: (name ++ [';']) ∧ '&' ∉ name ∧ ';' ∉ name ∧ entity? name = some c

theorem scalar?_eq_some_iff {n : Nat} : scalar? n = some c ↔ n.isValidChar ∧ Char.ofNat n = c := by
  rw [scalar?]
  split_ifs with h
  · rw [Option.some.injEq, and_iff_right h]
  · exact iff_of_false nofun fun h' => h h'.1

/-- A number holds its sign, its letter and digits. -/
theorem IsNumber.notMem {sign : List Char} {n : Nat} (h : IsNumber sign cs n)
    (hdigit : Text.digitValue? c = none) (hsign : c ∉ sign) (hc : c ≠ 'x' ∧ c ≠ 'X') : c ∉ cs := by
  cases h with
  | decimal hds => exact mt List.mem_append.mp (not_or.mpr ⟨hsign, hds.notMem (by decide) hdigit⟩)
  | hexadecimal hx hds =>
    have hne : c ≠ _ := fun hcx => hx.elim (fun h => hc.1 (hcx.trans h)) fun h => hc.2 (hcx.trans h)
    exact mt List.mem_cons.mp (not_or.mpr ⟨hne,
      mt List.mem_append.mp (not_or.mpr ⟨hsign, hds.notMem (by decide) hdigit⟩)⟩)

theorem number?_of_notMem (hsmall : 'x' ∉ cs) (hcapital : 'X' ∉ cs) :
    number? cs = Text.unsigned? 10 UInt32.size cs := by
  unfold number?
  split
  · exact absurd (List.mem_cons_self ..) hsmall
  · exact absurd (List.mem_cons_self ..) hcapital
  · rfl

theorem isNumber_of_number? {n : Nat} (h : number? cs = some n) :
    n < UInt32.size ∧ ∃ sign ∈ [[], ['+']], IsNumber sign cs n := by
  have hread {base : Nat} {ds : List Char} (hbase : base ≤ 16)
      (h : Text.unsigned? base UInt32.size ds = some n) :
      n < UInt32.size ∧ ∃ sign ∈ [[], ['+']], ∃ ds', ds = sign ++ ds' ∧
        Text.IsNumeral base ds' n := by
    obtain ⟨hlt, ds', hds | hds, hnumeral⟩ := (Text.unsigned?_eq_some_iff_isNumeral hbase).mp h
    · exact ⟨hlt, [], by decide, ds', hds, hnumeral⟩
    · exact ⟨hlt, ['+'], by decide, ds', hds, hnumeral⟩
  have hhex {x : Char} {ds : List Char} (hx : x = 'x' ∨ x = 'X')
      (h : Text.unsigned? 16 UInt32.size ds = some n) :
      n < UInt32.size ∧ ∃ sign ∈ [[], ['+']], IsNumber sign (x :: ds) n := by
    obtain ⟨hlt, sign, hsign, ds', rfl, hds⟩ := hread (by decide) h
    exact ⟨hlt, sign, hsign, .hexadecimal hx hds⟩
  unfold number? at h
  split at h
  · exact hhex (Or.inl rfl) h
  · exact hhex (Or.inr rfl) h
  · obtain ⟨hlt, sign, hsign, ds', rfl, hds⟩ := hread (by decide) h
    exact ⟨hlt, sign, hsign, .decimal hds⟩

/-- The numbers that are read have no sign, or a plus sign. -/
theorem number?_eq_some_iff {n : Nat} :
    number? cs = some n ↔ n < UInt32.size ∧ ∃ sign ∈ [[], ['+']], IsNumber sign cs n := by
  refine ⟨isNumber_of_number?, ?_⟩
  rintro ⟨hlt, sign, hsign, h⟩
  have hplus : sign = [] ∨ sign = ['+'] := List.mem_pair.mp hsign
  have hread {base : Nat} {ds : List Char} (hbase : base ≤ 16) (hds : Text.IsNumeral base ds n) :
      Text.unsigned? base UInt32.size (sign ++ ds) = some n :=
    (Text.unsigned?_eq_some_iff_isNumeral hbase).mpr
      ⟨hlt, ds, hplus.imp (fun h => by rw [h]; rfl) (fun h => by rw [h]; rfl), hds⟩
  cases h with
  | @decimal ds n hds =>
    have hletter {x : Char} (hx : Text.digitValue? x = none) (hsign : ∀ s ∈ [[], ['+']], x ∉ s) :
        x ∉ sign ++ ds :=
      mt List.mem_append.mp (not_or.mpr ⟨hsign _ ‹_›, hds.notMem (by decide) hx⟩)
    rw [number?_of_notMem (hletter rfl (by decide)) (hletter rfl (by decide))]
    exact hread (by decide) hds
  | hexadecimal hx hds =>
    rcases hx with rfl | rfl
    · exact hread (by decide) hds
    · exact hread (by decide) hds

theorem isRead_of_isNamed (h : IsNamed w c) : IsRead w c := by
  cases h with
  | lt => exact ⟨"lt".toList, rfl, by decide, by decide, by decide⟩
  | gt => exact ⟨"gt".toList, rfl, by decide, by decide, by decide⟩
  | amp => exact ⟨"amp".toList, rfl, by decide, by decide, by decide⟩
  | quot => exact ⟨"quot".toList, rfl, by decide, by decide, by decide⟩
  | apos => exact ⟨"apos".toList, rfl, by decide, by decide, by decide⟩

theorem isRead_of_isNumbered {sign : List Char} (hsign : sign ∈ [[], ['+']])
    (h : IsNumbered sign w c) : IsRead w c := by
  obtain @⟨ds, n, hds, hn⟩ := h
  have hlt : n < UInt32.size := by
    rcases hn with hn | ⟨-, hn⟩
    · exact hn.trans (by decide)
    · exact hn.trans (by decide)
  have hmark {a : Char} (hdigit : Text.digitValue? a = none) (hsign' : ∀ s ∈ [[], ['+']], a ∉ s)
      (ha : a ≠ '#' ∧ a ≠ 'x' ∧ a ≠ 'X') : a ∉ '#' :: ds :=
    mt List.mem_cons.mp (not_or.mpr ⟨ha.1, hds.notMem hdigit (hsign' _ hsign) ha.2⟩)
  refine ⟨'#' :: ds, rfl, hmark rfl (by decide) (by decide), hmark rfl (by decide) (by decide), ?_⟩
  rw [entity?, number?_eq_some_iff.mpr ⟨hlt, sign, hsign, hds⟩, Option.bind_some]
  exact scalar?_eq_some_iff.mpr ⟨hn, rfl⟩

/-- What has a character is a reference, or would be without a plus sign. -/
theorem isReference_or_isSigned (h : entity? name = some c) :
    IsReference ('&' :: (name ++ [';'])) c ∨ IsSigned ('&' :: (name ++ [';'])) c := by
  unfold entity? at h
  split at h
  · obtain ⟨n, hn, hc⟩ := Option.bind_eq_some_iff.mp h
    obtain ⟨-, sign, hsign, hds⟩ := number?_eq_some_iff.mp hn
    obtain ⟨hvalid, rfl⟩ := scalar?_eq_some_iff.mp hc
    rcases List.mem_pair.mp hsign with rfl | rfl
    · exact Or.inl (Or.inr (.intro hds hvalid))
    · exact Or.inr (.intro hds hvalid)
  · obtain ⟨p, hp, rfl⟩ := Option.map_eq_some_iff.mp h
    obtain rfl : p.1.toList = name := by simpa using List.find?_some hp
    have hmem := List.mem_of_find?_eq_some hp
    simp only [named, List.mem_cons, List.not_mem_nil, or_false] at hmem
    rcases hmem with rfl | rfl | rfl | rfl | rfl
    · exact Or.inl (Or.inl .lt)
    · exact Or.inl (Or.inl .gt)
    · exact Or.inl (Or.inl .amp)
    · exact Or.inl (Or.inl .quot)
    · exact Or.inl (Or.inl .apos)

/-- What is read as a reference is one, or would be without a plus sign. -/
theorem isRead_iff : IsRead w c ↔ IsReference w c ∨ IsSigned w c := by
  constructor
  · rintro ⟨name, rfl, -, -, hc⟩
    exact isReference_or_isSigned hc
  · rintro ((h | h) | h)
    · exact isRead_of_isNamed h
    · exact isRead_of_isNumbered (by decide) h
    · exact isRead_of_isNumbered (by decide) h

/-- A plus sign makes the difference. -/
theorem not_isSigned_of_isReference (h : IsReference w c) (d : Char) : ¬IsSigned w d := by
  have hplus {d : Char} (h : IsSigned w d) : '+' ∈ w := by
    obtain ⟨hds, -⟩ := h
    cases hds with
    | decimal hds => simp
    | hexadecimal hx hds => simp
  refine fun hsigned => absurd (hplus hsigned) ?_
  rcases h with h | ⟨hds, -⟩
  · cases h <;> decide
  · have hnumber := hds.notMem (c := '+') rfl (by decide) (by decide)
    simpa using hnumber

/-! ### References in a text -/

theorem IsRead.exists_cons (h : IsRead w c) : ∃ tail, w = '&' :: tail := by
  obtain ⟨name, rfl, -⟩ := h
  exact ⟨_, rfl⟩

/-- Where a reference begins, it ends at the next semicolon. -/
theorem IsRead.eq_of_isPrefix (h : IsRead w c) (h' : IsRead w' d) (hw : w <+: cs)
    (hw' : w' <+: cs) : w = w' ∧ c = d := by
  obtain ⟨name, rfl, -, hname, hc⟩ := h
  obtain ⟨name', rfl, -, hname', hd⟩ := h'
  obtain ⟨rest, rfl⟩ := hw
  obtain ⟨rest', heq⟩ := hw'
  have hrest : name' ++ ';' :: rest' = name ++ ';' :: rest := by simpa using heq
  obtain rfl : name' = name := by
    rw [← Text.takeWhile_ne_append_cons hname' rest', hrest,
      Text.takeWhile_ne_append_cons hname rest]
  exact ⟨rfl, Option.some.inj (hc.symm.trans hd)⟩

/-- A reference begins at no character of another one but its first. -/
theorem IsRead.infix_append (h : IsRead w c) (h' : IsRead w' d) (hpart : w' <:+: w ++ rest) :
    w' = w ∨ w' <:+: rest := by
  obtain ⟨before, after, heq⟩ := hpart
  rw [List.append_assoc] at heq
  rcases List.append_eq_append_iff.mp heq with ⟨tail, htail, hrest⟩ | ⟨tail, rfl, hrest⟩
  · rcases before with _ | ⟨b, before⟩
    · have hstart : w' <+: w ++ rest := ⟨after, heq⟩
      exact Or.inl (h'.eq_of_isPrefix h hstart ⟨rest, rfl⟩).1
    · obtain ⟨name, hname, hamp, -⟩ := h
      rcases tail with _ | ⟨t, tail⟩
      · exact Or.inr ⟨[], after, hrest⟩
      · -- the ampersand of the one would stand behind that of the other
        obtain ⟨_, rfl⟩ := h'.exists_cons
        obtain rfl := (List.cons.inj hrest).1
        rw [hname] at htail
        have hmem : '&' ∈ name ++ [';'] := by
          rw [(List.cons.inj htail).2]
          exact List.mem_append_right _ (List.mem_cons_self ..)
        rcases List.mem_append.mp hmem with hmem | hmem
        · exact absurd hmem hamp
        · exact absurd hmem (by decide)
  · exact Or.inr ⟨tail, after, by rw [List.append_assoc, ← hrest]⟩

/-! ### Replacing references -/

namespace Replaces

theorem of_char (hnone : ∀ w d, ref w d → ¬w <+: c :: rest) (h : Replaces ref (c :: rest) out) :
    ∃ out', out = c :: out' ∧ Replaces ref rest out' := by
  generalize hcs : c :: rest = cs at h hnone
  cases h with
  | nil => cases hcs
  | reference hw hrest => exact absurd ⟨_, rfl⟩ (hnone _ _ hw)
  | char _ hrest =>
    obtain ⟨rfl, rfl⟩ := List.cons.inj hcs
    exact ⟨_, rfl, hrest⟩

variable (href : ∀ w c, ref w c → IsRead w c)

include href

theorem of_reference (hw : ref w c) (h : Replaces ref (w ++ rest) out) :
    ∃ out', out = c :: out' ∧ Replaces ref rest out' := by
  generalize hcs : w ++ rest = cs at h
  cases h with
  | nil =>
    obtain ⟨tail, rfl⟩ := (href _ _ hw).exists_cons
    cases hcs
  | reference hw' hrest =>
    obtain ⟨rfl, rfl⟩ := (href _ _ hw).eq_of_isPrefix (href _ _ hw') ⟨rest, hcs⟩ ⟨_, rfl⟩
    obtain rfl := List.append_cancel_left hcs
    exact ⟨_, rfl, hrest⟩
  | char hnone _ => exact absurd ⟨rest, hcs⟩ (hnone _ _ hw)

/-- Where there is no ampersand, nothing is replaced. -/
theorem of_append (hname : '&' ∉ name) (h : Replaces ref (name ++ rest) out) :
    ∃ out', out = name ++ out' ∧ Replaces ref rest out' := by
  induction name generalizing out with
  | nil => exact ⟨out, rfl, h⟩
  | cons c name ih =>
    obtain ⟨hc, hname⟩ := not_or.mp (mt List.mem_cons.mpr hname)
    have hnone : ∀ w d, ref w d → ¬w <+: c :: (name ++ rest) := by
      rintro w d hw ⟨after, heq⟩
      obtain ⟨tail, rfl⟩ := (href w d hw).exists_cons
      exact hc (List.cons.inj heq).1
    obtain ⟨tail, rfl, htail⟩ := of_char hnone h
    obtain ⟨kept, rfl, hkept⟩ := ih hname htail
    exact ⟨kept, rfl, hkept⟩

/-- There is one way to replace references. -/
theorem unique (h : Replaces ref cs out) (h' : Replaces ref cs out') : out = out' := by
  induction h generalizing out' with
  | nil =>
    generalize hcs : ([] : List Char) = cs at h'
    cases h' with
    | nil => rfl
    | reference hw hrest =>
      obtain ⟨tail, rfl⟩ := (href _ _ hw).exists_cons
      cases hcs
    | char _ _ => cases hcs
  | reference hw hrest ih =>
    obtain ⟨tail, rfl, htail⟩ := of_reference href hw h'
    exact congrArg _ (ih htail)
  | char hnone hrest ih =>
    obtain ⟨tail, rfl, htail⟩ := of_char hnone h'
    exact congrArg _ (ih htail)

theorem exists_out (cs : List Char) : ∃ out, Replaces ref cs out := by
  induction hn : cs.length using Nat.strong_induction_on generalizing cs with
  | _ n ih =>
    by_cases h : ∃ w d, ref w d ∧ w <+: cs
    · obtain ⟨w, d, hw, rest, rfl⟩ := h
      obtain ⟨tail, htail⟩ := (href w d hw).exists_cons
      have hlt : rest.length < n := by
        rw [← hn, htail, List.length_append, List.length_cons]
        omega
      obtain ⟨out, hout⟩ := ih rest.length hlt rest rfl
      exact ⟨_, .reference hw hout⟩
    · rcases cs with _ | ⟨c, rest⟩
      · exact ⟨[], .nil⟩
      · obtain ⟨out, hout⟩ := ih rest.length (by rw [← hn]; exact Nat.lt_succ_self _) rest rfl
        exact ⟨_, .char (fun w d hw hstart => h ⟨w, d, hw, hstart⟩) hout⟩

end Replaces

/-! ### What is replaced in a text -/

theorem exists_of_reference? {n : Nat} (h : reference? cs = some (c, n)) :
    ∃ name rest, cs = name ++ ';' :: rest ∧ ';' ∉ name ∧ entity? name = some c := by
  rw [reference?] at h
  split_ifs at h with hlt
  obtain ⟨d, hd, hdc⟩ := Option.map_eq_some_iff.mp h
  obtain rfl := (Prod.mk.inj hdc).1
  have hcut := List.takeWhile_append_dropWhile (p := (· ≠ ';')) (l := cs)
  have hhead := List.head?_dropWhile_not (· ≠ ';') cs
  rcases hdrop : cs.dropWhile (· ≠ ';') with _ | ⟨s, rest⟩
  · rw [hdrop, List.append_nil] at hcut
    exact absurd (congrArg List.length hcut) (Nat.ne_of_lt hlt)
  · rw [hdrop] at hcut hhead
    obtain rfl : s = ';' := by simpa using hhead
    exact ⟨_, rest, hcut.symm, fun hmem => by simpa using List.mem_takeWhile_imp hmem, hd⟩

/-- What has a character is read as a reference. -/
theorem isRead_of_entity? (hname : entity? name = some c) : IsRead ('&' :: (name ++ [';'])) c :=
  isRead_iff.mpr (isReference_or_isSigned hname)

theorem replaces_isRead_unescape (cs : List Char) : Replaces IsRead cs (unescape cs) := by
  induction hn : cs.length using Nat.strong_induction_on generalizing cs with
  | _ n ih =>
    rcases cs with _ | ⟨c, rest⟩
    · exact .nil
    have htail : Replaces IsRead rest (unescape rest) :=
      ih rest.length (by rw [← hn]; exact Nat.lt_succ_self _) rest rfl
    by_cases hc : c = '&'
    · subst hc
      rcases hreference : reference? rest with _ | ⟨d, k⟩
      · rw [unescape_cons_of_reference? hreference]
        refine .char ?_ htail
        rintro _ d ⟨name, rfl, -, hname, hd⟩ ⟨after, hafter⟩
        have hrest : rest = name ++ ';' :: after := by simpa using (List.cons.inj hafter).2.symm
        rw [hrest, reference?_append hname hd] at hreference
        cases hreference
      · obtain ⟨name, after, rfl, hname, hd⟩ := exists_of_reference? hreference
        have hafter : Replaces IsRead after (unescape after) := by
          refine ih after.length ?_ after rfl
          rw [← hn, List.length_cons, List.length_append, List.length_cons]
          omega
        have h := Replaces.reference (isRead_of_entity? hd) hafter
        rw [← unescape_reference hname hd] at h
        simpa using h
    · rw [unescape_cons_of_ne hc]
      refine .char ?_ htail
      rintro w d hw ⟨after, hafter⟩
      obtain ⟨tail, rfl⟩ := hw.exists_cons
      exact hc (List.cons.inj hafter).1.symm

/-- References are replaced, with and without a plus sign. -/
theorem replaces_unescape (cs : List Char) :
    Replaces (fun w c => IsReference w c ∨ IsSigned w c) cs (unescape cs) := by
  have href : (fun w c => IsReference w c ∨ IsSigned w c) = IsRead :=
    funext fun w => funext fun c => propext isRead_iff.symm
  rw [href]
  exact replaces_isRead_unescape cs

theorem isRead_of_isReference (w : List Char) (c : Char) (h : IsReference w c) : IsRead w c :=
  isRead_iff.mpr (Or.inl h)

/-- Without a plus sign in front of digits, references are all that is replaced. -/
theorem Replaces.isReference (h : Replaces IsRead cs out)
    (hsigned : ∀ w c, IsSigned w c → ¬w <:+: cs) : Replaces IsReference cs out := by
  induction h with
  | nil => exact .nil
  | @reference w rest out c hw hrest ih =>
    have hstart : w <:+: w ++ rest := (List.prefix_append w rest).isInfix
    have hw' := (isRead_iff.mp hw).resolve_right fun h => hsigned w c h hstart
    refine .reference hw' (ih fun w' d hw' hpart => hsigned w' d hw' ?_)
    exact hpart.trans (List.suffix_append w rest).isInfix
  | @char rest out c hnone hrest ih =>
    refine .char (fun w d hw => hnone w d (isRead_of_isReference w d hw)) (ih ?_)
    intro w d hw hpart
    exact hsigned w d hw (hpart.trans (List.suffix_cons c rest).isInfix)

/-- With each plus sign that is passed over, characters are lost that would be kept. -/
theorem Replaces.length_le (h : Replaces IsRead cs out) (h' : Replaces IsReference cs out') :
    out.length ≤ out'.length ∧
      ((∃ w c, IsSigned w c ∧ w <:+: cs) → out.length < out'.length) := by
  induction h generalizing out' with
  | nil =>
    refine ⟨Nat.zero_le _, ?_⟩
    rintro ⟨w, c, hw, hpart⟩
    obtain ⟨tail, rfl⟩ := (isRead_iff.mpr (Or.inr hw)).exists_cons
    exact absurd (List.infix_nil.mp hpart) (List.cons_ne_nil _ _)
  | @reference w rest out c hw hrest ih =>
    rcases isRead_iff.mp hw with hreference | hsigned
    · obtain ⟨tail, rfl, htail⟩ := of_reference isRead_of_isReference hreference h'
      refine ⟨Nat.succ_le_succ (ih htail).1, ?_⟩
      rintro ⟨w', d, hw', hpart⟩
      rcases hw.infix_append (isRead_iff.mpr (Or.inr hw')) hpart with rfl | hpart
      · exact absurd hw' (not_isSigned_of_isReference hreference d)
      · exact Nat.succ_lt_succ ((ih htail).2 ⟨w', d, hw', hpart⟩)
    · -- no reference begins here, so that the text of the signed one is kept
      have hnone : ∀ w' d, IsReference w' d → ¬w' <+: w ++ rest := by
        intro w' d hw' hstart
        obtain ⟨rfl, -⟩ := hw.eq_of_isPrefix (isRead_of_isReference w' d hw') ⟨rest, rfl⟩ hstart
        exact not_isSigned_of_isReference hw' c hsigned
      obtain ⟨name, rfl, hname, -⟩ := hw
      obtain ⟨tail, rfl, htail⟩ := of_char hnone h'
      have hamp : '&' ∉ name ++ [';'] := by simpa using hname
      obtain ⟨kept, rfl, hkept⟩ := of_append isRead_of_isReference hamp htail
      have hlt : (c :: out).length < ('&' :: (name ++ [';'] ++ kept)).length := by
        have hle := (ih hkept).1
        simp only [List.length_cons, List.length_append, List.length_nil]
        omega
      exact ⟨Nat.le_of_lt hlt, fun _ => hlt⟩
  | @char rest out c hnone hrest ih =>
    obtain ⟨tail, rfl, htail⟩ :=
      of_char (fun w d hw => hnone w d (isRead_of_isReference w d hw)) h'
    refine ⟨Nat.succ_le_succ (ih htail).1, ?_⟩
    rintro ⟨w, d, hw, hpart⟩
    rcases List.infix_cons_iff.mp hpart with hstart | hpart
    · exact absurd hstart (hnone w d (isRead_iff.mpr (Or.inr hw)))
    · exact Nat.succ_lt_succ ((ih htail).2 ⟨w, d, hw, hpart⟩)

/-- Only references are replaced, unless a plus sign is passed over somewhere. -/
theorem replaces_unescape_iff (cs : List Char) :
    Replaces IsReference cs (unescape cs) ↔ ∀ w c, IsSigned w c → ¬w <:+: cs := by
  refine ⟨fun h w c hw hpart => ?_, (replaces_isRead_unescape cs).isReference⟩
  exact Nat.lt_irrefl _ (((replaces_isRead_unescape cs).length_le h).2 ⟨w, c, hw, hpart⟩)

/-- Every reference is replaced by its character and every other character is kept, in the one way
there is, where no plus sign stands in front of the digits of a number. Where one does, it is passed
over, and then more is replaced than the references. -/
theorem references_replaced (cs : List Char) :
    (∃! out, Replaces IsReference cs out) ∧
      Replaces (fun w c => IsReference w c ∨ IsSigned w c) cs (unescape cs) ∧
      (Replaces IsReference cs (unescape cs) ↔ ∀ w c, IsSigned w c → ¬w <:+: cs) := by
  refine ⟨?_, replaces_unescape cs, replaces_unescape_iff cs⟩
  obtain ⟨out, hout⟩ := Replaces.exists_out isRead_of_isReference cs
  exact ⟨out, hout, fun out' hout' => Replaces.unique isRead_of_isReference hout' hout⟩

/-- A plus sign is passed over. -/
theorem signed_replaced :
    unescape "&#+65;".toList = ['A'] ∧
      ¬Replaces IsReference "&#+65;".toList (unescape "&#+65;".toList) := by
  refine ⟨by decide, fun h => ?_⟩
  have htens : Text.IsDigit 10 '6' 6 := ⟨by decide, Or.inl rfl⟩
  have hones : Text.IsDigit 10 '5' 5 := ⟨by decide, Or.inl rfl⟩
  have hds : Text.IsNumeral 10 ['6', '5'] 65 := .snoc (.digit htens) hones
  have hsigned : IsSigned "&#+65;".toList 'A' := .intro (.decimal hds) (by decide)
  exact (replaces_unescape_iff _).mp h _ _ hsigned List.infix_rfl

end CrowdTask.Markup
