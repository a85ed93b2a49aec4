import CrowdTask.Proofs.Json.Digits

/-!
# Tokens of a text

The tokens of a JSON text are the marks between values, the strings, and words: numbers and the
three names. The readers of strings and words do not look behind the token that they take, except
to see that a word does not go on.

## Main definitions

* `CrowdTask.Json.isMark`, `CrowdTask.Json.isWordChar`: the characters of marks and of words.
* `CrowdTask.Json.Alike`: that two texts begin with the same word character, if with any.
* `CrowdTask.Json.TakesWord`: that a reader takes word characters alone.
* `CrowdTask.Json.IsStringBody`: what stands between the quotes of a string.

## Main results

* `CrowdTask.Json.takesWord_readNumber`: the reader of numbers takes word characters alone.
* `CrowdTask.Json.exists_body_of_readPieces`: the reader of strings takes a body and its closing
  quote.
* `CrowdTask.Json.IsStringBody.unique`: a text has one body before a closing quote.
-/

namespace CrowdTask.Json

/-! ### Words -/

/-- The marks between values. -/
def isMark (c : Char) : Bool :=
  c = '{' || c = '}' || c = '[' || c = ']' || c = ':' || c = ','

/-- The characters of words: all but blanks, marks, quotes and slashes. -/
def isWordChar (c : Char) : Bool := !(isSpace c || isMark c || c = '"' || c = '/')

/-- The word character with which a text begins, if it begins with one. -/
def wordHead? (cs : List Char) : Option Char := cs.head?.filter isWordChar

/-- Whether two texts begin with the same word character, if either begins with one. -/
def Alike (cs ds : List Char) : Prop := wordHead? cs = wordHead? ds

/-- Whether no word goes on in a text. -/
def EndsWord (cs : List Char) : Prop := wordHead? cs = none

variable {α β : Type} {c : Char} {cs ds p rest rest' : List Char}

theorem wordHead?_cons_of_isWordChar (hc : isWordChar c = true) (cs : List Char) :
    wordHead? (c :: cs) = some c := by
  rw [wordHead?, List.head?_cons, Option.filter_some, if_pos hc]

theorem endsWord_cons (hc : isWordChar c = false) (cs : List Char) : EndsWord (c :: cs) := by
  rw [EndsWord, wordHead?, List.head?_cons, Option.filter_some, if_neg (by simp [hc])]

theorem Alike.append (h : Alike rest rest') (p : List Char) : Alike (p ++ rest) (p ++ rest') := by
  cases p with
  | nil => exact h
  | cons c p => rfl

theorem Alike.head?_eq (h : Alike rest rest') (hc : isWordChar c = true)
    (hhead : rest'.head? = some c) : rest.head? = some c := by
  have hword : wordHead? rest' = some c := by
    rw [wordHead?, hhead, Option.filter_some, if_pos hc]
  rw [← h] at hword
  exact (Option.filter_eq_some_iff.mp hword).1

/-- Whether a reader takes word characters alone, and takes the same ones in front of any text that
begins like the one behind them. -/
def TakesWord (x : List Char → Option (α × List Char)) : Prop :=
  ∀ ⦃cs : List Char⦄ ⦃a : α⦄ ⦃rest : List Char⦄, x cs = some (a, rest) →
    ∃ p, cs = p ++ rest ∧ (∀ c ∈ p, isWordChar c = true) ∧
      ∀ rest', Alike rest rest' → x (p ++ rest') = some (a, rest')

/-- Two readers one after the other. -/
theorem TakesWord.bind {x : List Char → Option (α × List Char)}
    {y : α → List Char → Option (β × List Char)} (hx : TakesWord x) (hy : ∀ a, TakesWord (y a)) :
    TakesWord fun cs => (x cs).bind fun r => y r.1 r.2 := by
  intro cs b rest h
  obtain ⟨⟨a, middle⟩, hfirst, hsecond⟩ := Option.bind_eq_some_iff.mp h
  obtain ⟨p, rfl, hp, hx'⟩ := hx hfirst
  obtain ⟨q, rfl, hq, hy'⟩ := hy a hsecond
  refine ⟨p ++ q, (List.append_assoc ..).symm, List.forall_mem_append.mpr ⟨hp, hq⟩, ?_⟩
  intro rest' halike
  simp only [List.append_assoc, hx' _ (halike.append q), Option.bind_some, hy' rest' halike]

theorem TakesWord.of_eq {x y : List Char → Option (α × List Char)} (hx : TakesWord x)
    (h : ∀ cs, y cs = x cs) : TakesWord y := by
  obtain rfl : y = x := funext h
  exact hx

/-- A reader whose values are changed, or refused. -/
theorem TakesWord.filterMap {x : List Char → Option (α × List Char)} (hx : TakesWord x)
    (f : α → Option β) : TakesWord fun cs => (x cs).bind fun r => (f r.1).map (·, r.2) := by
  intro cs b rest h
  obtain ⟨⟨a, middle⟩, hfirst, hmap⟩ := Option.bind_eq_some_iff.mp h
  obtain ⟨b', hb, hpair⟩ := Option.map_eq_some_iff.mp hmap
  obtain ⟨rfl, rfl⟩ := Prod.mk.inj hpair
  obtain ⟨p, rfl, hp, hx'⟩ := hx hfirst
  refine ⟨p, rfl, hp, fun rest' halike => ?_⟩
  simp only [hx' rest' halike, Option.bind_some, hb, Option.map_some]

/-- A reader that takes nothing. -/
theorem TakesWord.pure (a : α) : TakesWord fun cs => some (a, cs) := by
  intro cs a' rest h
  obtain ⟨rfl, rfl⟩ := Prod.mk.inj (Option.some.inj h)
  exact ⟨[], rfl, nofun, fun _ _ => rfl⟩

/-- A reader that looks at the first character. -/
theorem TakesWord.of_heads {x y : List Char → Option (α × List Char)} (heads : List Char)
    (hheads : ∀ c ∈ heads, isWordChar c = true)
    (hlead : ∀ c ∈ heads, TakesWord fun cs => x (c :: cs)) (hy : TakesWord y)
    (hother : ∀ cs, (∀ c ∈ heads, cs.head? ≠ some c) → x cs = y cs) : TakesWord x := by
  intro cs a rest h
  by_cases hcs : ∃ c ∈ heads, cs.head? = some c
  · obtain ⟨c, hc, hhead⟩ := hcs
    obtain ⟨cs, rfl⟩ := List.head?_eq_some_iff.mp hhead
    obtain ⟨p, rfl, hp, hread⟩ := hlead c hc h
    exact ⟨c :: p, rfl, List.forall_mem_cons.mpr ⟨hheads c hc, hp⟩, hread⟩
  · have hnone : ∀ c ∈ heads, cs.head? ≠ some c := fun c hc hhead => hcs ⟨c, hc, hhead⟩
    rw [hother cs hnone] at h
    obtain ⟨p, rfl, hp, hread⟩ := hy h
    refine ⟨p, rfl, hp, fun rest' halike => ?_⟩
    rw [hother _ fun c hc hhead => hnone c hc ((halike.append p).head?_eq (hheads c hc) hhead)]
    exact hread rest' halike

theorem isWordChar_of_isDigit (hc : c.isDigit = true) : isWordChar c = true := by
  by_contra hne
  simp only [isWordChar, isSpace, isMark, Bool.not_eq_true, Bool.not_eq_false', Bool.or_eq_true,
    decide_eq_true_eq, or_assoc] at hne
  rcases hne with rfl | rfl | rfl | rfl | rfl | rfl | rfl | rfl | rfl | rfl | rfl | rfl <;>
    exact absurd hc (by decide)

theorem Alike.endsDigits (h : Alike rest rest') (hrest : EndsDigits rest) : EndsDigits rest' := by
  intro c hc
  by_contra hdigit
  rw [Bool.not_eq_false] at hdigit
  have hhead := h.head?_eq (isWordChar_of_isDigit hdigit) hc
  rw [hrest c hhead] at hdigit
  cases hdigit

/-! ### Readers of numbers -/

theorem takesWord_readDigits : TakesWord fun cs => some (readDigits cs) := by
  intro cs a rest h
  have hends : EndsDigits (cs.dropWhile Char.isDigit) := by
    intro c hc
    have hnot := List.head?_dropWhile_not Char.isDigit cs
    rwa [hc] at hnot
  have hdigits : ∀ c ∈ cs.takeWhile Char.isDigit, c.isDigit = true :=
    List.all_eq_true.mp List.all_takeWhile
  have hread := readDigits_append hdigits hends
  rw [List.takeWhile_append_dropWhile, Option.some.inj h] at hread
  obtain ⟨rfl, rfl⟩ := Prod.mk.inj hread
  refine ⟨_, List.takeWhile_append_dropWhile.symm, fun c hc => isWordChar_of_isDigit (hdigits c hc),
    fun rest' halike => ?_⟩
  simp only [readDigits_append hdigits (halike.endsDigits hends)]

/-- The digits of a whole part, if they are one. -/
def wholeDigits? : List Nat → Option (List Nat)
  | [] => none
  | 0 :: _ :: _ => none
  | ds => some ds

/-- Some digits, if there are any. -/
def anyDigits? : List Nat → Option (List Nat)
  | [] => none
  | ds => some ds

theorem takesWord_readWhole : TakesWord readWhole := by
  refine (takesWord_readDigits.filterMap wholeDigits?).of_eq fun cs => ?_
  rw [readWhole, Option.bind_some]
  rcases readDigits cs with ⟨_ | ⟨_ | d, _ | ⟨d', ds⟩⟩, rest⟩ <;> rfl

theorem takesWord_readPower (negative : Bool) : TakesWord (readPower negative) := by
  refine (takesWord_readDigits.filterMap fun ds =>
    (anyDigits? ds).map fun ds => some (negative, ds)).of_eq fun cs => ?_
  rw [readPower, Option.bind_some]
  rcases readDigits cs with ⟨_ | ⟨d, ds⟩, rest⟩ <;> rfl

theorem takesWord_readFraction : TakesWord readFraction := by
  refine .of_heads ['.'] (by decide) ?_ (.pure []) fun cs hcs => ?_
  · rintro c hc
    obtain rfl := List.mem_singleton.mp hc
    refine (takesWord_readDigits.filterMap anyDigits?).of_eq fun cs => ?_
    rw [readFraction, Option.bind_some]
    rcases readDigits cs with ⟨_ | ⟨d, ds⟩, rest⟩ <;> rfl
  · rw [readFraction]
    rintro ds rfl
    exact hcs '.' (.head _) rfl

theorem takesWord_readExponent : TakesWord readExponent := by
  refine .of_heads ['e', 'E'] (by decide) ?_ (.pure none) fun cs hcs => ?_
  · intro c hc
    have hletter : c = 'e' ∨ c = 'E' := by simpa using hc
    refine .of_heads ['-', '+'] (by decide) ?_ (takesWord_readPower false) fun cs hcs => ?_
    · intro c' hc'
      simp only [readExponent, if_pos hletter]
      rcases List.mem_cons.mp hc' with rfl | hc'
      · exact takesWord_readPower true
      · obtain rfl := List.mem_singleton.mp hc'
        exact takesWord_readPower false
    · rw [readExponent, if_pos hletter]
      · rintro ds rfl
        exact hcs '-' (.head _) rfl
      · rintro ds rfl
        exact hcs '+' (.tail _ (.head _)) rfl
  · cases cs with
    | nil => rfl
    | cons c cs =>
      rw [readExponent.eq_def]
      refine if_neg ?_
      rintro (rfl | rfl)
      · exact hcs 'e' (.head _) rfl
      · exact hcs 'E' (.tail _ (.head _)) rfl

theorem takesWord_readUnsigned (negative : Bool) : TakesWord (readUnsigned negative) :=
  takesWord_readWhole.bind fun whole => takesWord_readFraction.bind fun fraction =>
    takesWord_readExponent.filterMap fun exponent =>
      some (⟨negative, whole, fraction, exponent⟩ : NumberText)

/-- The reader of numbers takes word characters alone. -/
theorem takesWord_readNumber : TakesWord readNumber := by
  refine .of_heads ['-'] (by decide) ?_ (takesWord_readUnsigned false) fun cs hcs => ?_
  · rintro c hc
    obtain rfl := List.mem_singleton.mp hc
    exact takesWord_readUnsigned true
  · rw [readNumber]
    rintro ds rfl
    exact hcs '-' (.head _) rfl

/-! ### The beginning of a number -/

theorem TakesWord.length_le {x : List Char → Option (α × List Char)} {a : α} (hx : TakesWord x)
    (h : x cs = some (a, rest)) : rest.length ≤ cs.length := by
  obtain ⟨p, rfl, -, -⟩ := hx h
  simp

theorem readDigits_length (cs : List Char) :
    (readDigits cs).1.length + (readDigits cs).2.length = cs.length := by
  induction cs with
  | nil => rfl
  | cons c cs ih =>
    rw [readDigits]
    cases Text.digitIn? 10 c with
    | none => simp
    | some d =>
      simp only [List.length_cons]
      omega

theorem readWhole_head {ds : List Nat} (h : readWhole cs = some (ds, rest)) :
    ∃ c cs', cs = c :: cs' ∧ c.isDigit = true := by
  cases cs with
  | nil => cases h
  | cons c cs =>
    refine ⟨c, cs, rfl, by_contra fun hc => ?_⟩
    rw [readWhole, readDigits, digitIn?_of_not_isDigit (by simpa using hc)] at h
    cases h

theorem readWhole_length {ds : List Nat} (h : readWhole cs = some (ds, rest)) :
    rest.length < cs.length := by
  have hlength := readDigits_length cs
  rw [readWhole] at h
  split at h
  · cases h
  · cases h
  · rename_i hnil _
    rw [Option.some.inj h] at hlength
    have hpos : 0 < ds.length := by
      refine List.length_pos_iff.mpr ?_
      rintro rfl
      exact hnil rest (Option.some.inj h)
    change ds.length + rest.length = cs.length at hlength
    omega

theorem readUnsigned_head {negative : Bool} {t : NumberText}
    (h : readUnsigned negative cs = some (t, rest)) :
    (∃ c cs', cs = c :: cs' ∧ c.isDigit = true) ∧ rest.length < cs.length := by
  obtain ⟨⟨whole, cs₁⟩, hwhole, h⟩ := Option.bind_eq_some_iff.mp h
  obtain ⟨⟨fraction, cs₂⟩, hfraction, h⟩ := Option.bind_eq_some_iff.mp h
  obtain ⟨⟨exponent, cs₃⟩, hexponent, h⟩ := Option.bind_eq_some_iff.mp h
  obtain rfl : cs₃ = rest := (Prod.mk.inj (Option.some.inj h)).2
  have hfirst := readWhole_length hwhole
  have hsecond := takesWord_readFraction.length_le hfraction
  have hthird := takesWord_readExponent.length_le hexponent
  exact ⟨readWhole_head hwhole, by omega⟩

/-- A number begins with a sign or a digit, and is not empty. -/
theorem readNumber_head {t : NumberText} (h : readNumber cs = some (t, rest)) :
    (∃ c cs', cs = c :: cs' ∧ (c = '-' ∨ c.isDigit = true)) ∧ rest.length < cs.length := by
  rw [readNumber.eq_def] at h
  split at h
  · exact ⟨⟨_, _, rfl, Or.inl rfl⟩, Nat.lt_succ_of_lt (readUnsigned_head h).2⟩
  · obtain ⟨⟨c, cs', hcs, hc⟩, hlength⟩ := readUnsigned_head h
    exact ⟨⟨c, cs', hcs, Or.inr hc⟩, hlength⟩

/-! ### Strings -/

/-- What stands between the quotes of a string: a quote in it comes behind a backslash. -/
inductive IsStringBody : List Char → Prop where
  | nil : IsStringBody []
  | char {c : Char} {body : List Char} (hquote : c ≠ '"') (hslash : c ≠ '\\')
      (hbody : IsStringBody body) : IsStringBody (c :: body)
  | escape (c : Char) {body : List Char} (hbody : IsStringBody body) :
      IsStringBody ('\\' :: c :: body)

/-- A text has one body before a closing quote. -/
theorem IsStringBody.unique {body body' : List Char} (h : IsStringBody body)
    (h' : IsStringBody body') (heq : body ++ '"' :: cs = body' ++ '"' :: ds) :
    body = body' ∧ cs = ds := by
  induction h generalizing body' with
  | nil =>
    cases h' with
    | nil => exact ⟨rfl, (List.cons.inj heq).2⟩
    | char hquote => exact absurd (List.cons.inj heq).1.symm hquote
    | escape c => exact absurd (List.cons.inj heq).1 (by decide)
  | char hquote hslash hbody ih =>
    cases h' with
    | nil => exact absurd (List.cons.inj heq).1 hquote
    | char hquote' hslash' hbody' =>
      obtain ⟨rfl, htail⟩ := List.cons.inj heq
      obtain ⟨rfl, rfl⟩ := ih hbody' htail
      exact ⟨rfl, rfl⟩
    | escape c => exact absurd (List.cons.inj heq).1 hslash
  | escape c hbody ih =>
    cases h' with
    | nil => exact absurd (List.cons.inj heq).1 (by decide)
    | char hquote' hslash' => exact absurd (List.cons.inj heq).1.symm hslash'
    | escape c' hbody' =>
      obtain ⟨rfl, htail⟩ := List.cons.inj (List.cons.inj heq).2
      obtain ⟨rfl, rfl⟩ := ih hbody' htail
      exact ⟨rfl, rfl⟩

/-- The digits of an escaped unit are neither quotes nor backslashes. -/
theorem IsStringBody.digit {base d : Nat} {body : List Char} (hc : Text.digitIn? base c = some d)
    (hbody : IsStringBody body) : IsStringBody (c :: body) := by
  refine .char ?_ ?_ hbody
  · rintro rfl
    cases hc
  · rintro rfl
    cases hc

theorem IsStringBody.unit {a b c d : Char} {n : Nat} {body : List Char}
    (h : Text.ofDigits? 16 [a, b, c, d] = some n) (hbody : IsStringBody body) :
    IsStringBody ('\\' :: 'u' :: a :: b :: c :: d :: body) := by
  obtain ⟨_, ha, h⟩ := Option.bind_eq_some_iff.mp h
  obtain ⟨_, hb, h⟩ := Option.bind_eq_some_iff.mp h
  obtain ⟨_, hc, h⟩ := Option.bind_eq_some_iff.mp h
  obtain ⟨_, hd, -⟩ := Option.bind_eq_some_iff.mp h
  exact .escape 'u' (.digit ha (.digit hb (.digit hc (.digit hd hbody))))

/-- The reader of strings takes a body and its closing quote, and looks at nothing behind it. -/
theorem exists_body_of_readPieces {ps : List Piece} (h : readPieces cs = some (ps, rest)) :
    ∃ body, cs = body ++ '"' :: rest ∧ IsStringBody body ∧
      ∀ tail, readPieces (body ++ '"' :: tail) = some (ps, tail) := by
  fun_induction readPieces cs generalizing ps rest with
  | case1 => cases h
  | case2 cs =>
    obtain ⟨rfl, rfl⟩ := Prod.mk.inj (Option.some.inj h)
    exact ⟨[], rfl, .nil, fun _ => readPieces.eq_2 _⟩
  | case3 a b c d cs n ps' rest' hrest hunit ih =>
    obtain ⟨rfl, rfl⟩ := Prod.mk.inj (Option.some.inj h)
    obtain ⟨body, rfl, hbody, hread⟩ := ih hrest
    refine ⟨'\\' :: 'u' :: a :: b :: c :: d :: body, rfl, hbody.unit hunit, fun tail => ?_⟩
    simp only [List.cons_append, readPieces, hunit, hread tail]
  | case4 => cases h
  | case5 e cs hunit c ps' rest' hrest he ih =>
    obtain ⟨rfl, rfl⟩ := Prod.mk.inj (Option.some.inj h)
    obtain ⟨body, rfl, hbody, hread⟩ := ih hrest
    refine ⟨'\\' :: e :: body, rfl, .escape e hbody, fun tail => ?_⟩
    rw [List.cons_append, List.cons_append, readPieces, he, hread tail]
    rintro a b c d cs rfl
    cases he
  | case6 => cases h
  | case7 => cases h
  | case8 c cs hquote _ _ hplain ih =>
    obtain ⟨⟨ps', rest'⟩, hrest, hpair⟩ := Option.map_eq_some_iff.mp h
    obtain ⟨rfl, rfl⟩ := Prod.mk.inj hpair
    obtain ⟨body, rfl, hbody, hread⟩ := ih hrest
    have hslash : c ≠ '\\' := fun hc => hplain (.inl hc)
    refine ⟨c :: body, rfl, .char hquote hslash hbody, fun tail => ?_⟩
    rw [List.cons_append, readPieces, if_neg hplain, hread tail, Option.map_some]
    · exact hquote
    · exact fun _ _ _ _ _ hc => absurd hc hslash
    · exact fun _ _ hc => absurd hc hslash

end CrowdTask.Json
