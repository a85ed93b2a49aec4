import CrowdTask.Proofs.Json.Printed
import CrowdTask.Proofs.Json.Tokens

/-!
# What stands between tokens

A text is cut into tokens and blanks, and further characters, the gaps, may be put before, between
and behind them. A text that the reader accepts can be cut in this way, and the reader takes no
notice of gaps that are blank.

## Main definitions

* `CrowdTask.Json.Interspersed`: that a text arises from another one by putting in gaps.
* `CrowdTask.Json.Lexed`: that a text can be cut into tokens and blanks.
* `CrowdTask.Json.Spaced`: that a text arises from another one by putting in blanks.
* `CrowdTask.Json.Raw.Takes`: what the reader of values takes.

## Main results

* `CrowdTask.Json.Raw.lexed_of_readChars?`: a text that is read can be cut.
* `CrowdTask.Json.Raw.readChars?_of_spaced`: blanks between the tokens change nothing.
-/

namespace CrowdTask.Json

/-- Whether the second text arises from the first one by putting gaps before, between and behind its
tokens. Whether something is a gap may depend on what follows it. -/
inductive Interspersed (Gap : List Char → List Char → Prop) : List Char → List Char → Prop where
  | nil : Interspersed Gap [] []
  | blank {c : Char} {cs ds : List Char} (hc : isSpace c = true) (h : Interspersed Gap cs ds) :
      Interspersed Gap (c :: cs) (c :: ds)
  | mark {c : Char} {cs ds : List Char} (hc : isMark c = true) (h : Interspersed Gap cs ds) :
      Interspersed Gap (c :: cs) (c :: ds)
  | string {body cs ds : List Char} (hbody : IsStringBody body) (h : Interspersed Gap cs ds) :
      Interspersed Gap ('"' :: (body ++ '"' :: cs)) ('"' :: (body ++ '"' :: ds))
  | word {w cs ds : List Char} (hne : w ≠ []) (hw : ∀ c ∈ w, isWordChar c = true)
      (hend : EndsWord cs) (h : Interspersed Gap cs ds) : Interspersed Gap (w ++ cs) (w ++ ds)
  | gap {g cs ds : List Char} (hgap : Gap g ds) (h : Interspersed Gap cs ds) :
      Interspersed Gap cs (g ++ ds)

/-- Whether a text can be cut into tokens and blanks. -/
def Lexed (cs : List Char) : Prop := Interspersed (fun _ _ => False) cs cs

/-- Whether the second text arises from the first one by putting blanks before, between and behind
its tokens. -/
def Spaced (cs ds : List Char) : Prop :=
  Interspersed (fun g _ => ∀ c ∈ g, isSpace c = true) cs ds

variable {cs ds es p rest rest' : List Char} {c : Char}

theorem endsWord_of_isSpace (hc : isSpace c = true) (cs : List Char) : EndsWord (c :: cs) :=
  endsWord_cons (by simp [isWordChar, hc]) cs

theorem isWordChar_of_isMark (hc : isMark c = true) : isWordChar c = false := by
  simp [isWordChar, hc]

theorem endsWord_of_isMark (hc : isMark c = true) (cs : List Char) : EndsWord (c :: cs) :=
  endsWord_cons (isWordChar_of_isMark hc) cs

theorem isSpace_of_isMark (hc : isMark c = true) : isSpace c = false := by
  simp only [isMark, Bool.or_eq_true, decide_eq_true_eq, or_assoc] at hc
  rcases hc with rfl | rfl | rfl | rfl | rfl | rfl <;> rfl

theorem isSpace_of_isWordChar (hc : isWordChar c = true) : isSpace c = false := by
  by_contra hspace
  simp [isWordChar, hspace] at hc

/-! ### Cutting a text -/

namespace Lexed

theorem blank (hc : isSpace c = true) (h : Lexed cs) : Lexed (c :: cs) := Interspersed.blank hc h

theorem of_skipSpace (h : Lexed (skipSpace cs)) : Lexed cs := by
  induction cs with
  | nil => exact .nil
  | cons c cs ih =>
    by_cases hc : isSpace c = true
    · exact .blank hc (ih (by rwa [skipSpace, List.dropWhile_cons_of_pos hc] at h))
    · rwa [skipSpace_cons (by simpa using hc)] at h

end Lexed

theorem endsWord_of_skipSpace (h : EndsWord (skipSpace cs)) : EndsWord cs := by
  cases cs with
  | nil => rfl
  | cons c cs =>
    by_cases hc : isSpace c = true
    · exact endsWord_of_isSpace hc cs
    · rwa [skipSpace_cons (by simpa using hc)] at h

namespace Raw

/-- What the reader of values takes behind blanks: a word, a string, or a container. -/
inductive Takes (n : Nat) : List Char → Raw → List Char → Prop where
  | word {p rest : List Char} {r : Raw} (hne : p ≠ []) (hp : ∀ c ∈ p, isWordChar c = true)
      (h : ∀ g rest', Alike rest rest' → readValue (g + 1) (p ++ rest') = some (r, rest')) :
      Takes n (p ++ rest) r rest
  | string {body rest : List Char} {ps : List Piece} (hbody : IsStringBody body)
      (h : ∀ tail, readPieces (body ++ '"' :: tail) = some (ps, tail)) :
      Takes n ('"' :: (body ++ '"' :: rest)) (.str ps) rest
  | emptyArray {cs rest : List Char} (h : skipSpace cs = ']' :: rest) :
      Takes n ('[' :: cs) (.arr []) rest
  | array {cs rest : List Char} {rs : List Raw} (hcs : (skipSpace cs).head? ≠ some ']')
      (h : readItems n cs = some (rs, rest)) : Takes n ('[' :: cs) (.arr rs) rest
  | emptyObject {cs rest : List Char} (h : skipSpace cs = '}' :: rest) :
      Takes n ('{' :: cs) (.obj []) rest
  | object {cs rest : List Char} {ms : List (List Piece × Raw)}
      (hcs : (skipSpace cs).head? ≠ some '}') (h : readMembers n cs = some (ms, rest)) :
      Takes n ('{' :: cs) (.obj ms) rest

/-- A number is taken as a word. -/
theorem takes_of_readNumber {n : Nat} {t : NumberText} (h : readNumber cs = some (t, rest)) :
    Takes n cs (.num t) rest := by
  obtain ⟨⟨c, cs', rfl, hc⟩, hlength⟩ := readNumber_head h
  obtain ⟨p, hcs, hp, hread⟩ := takesWord_readNumber h
  cases p with
  | nil =>
    rw [hcs] at hlength
    exact absurd hlength (Nat.lt_irrefl _)
  | cons d p =>
    obtain rfl : c = d := (List.cons.inj hcs).1
    rw [hcs]
    refine .word (List.cons_ne_nil c p) hp fun g rest' halike => ?_
    rw [List.cons_append, readValue_number hc, ← List.cons_append, hread rest' halike]
    rfl

/-- A name is taken as a word. -/
theorem takes_name {n : Nat} {r : Raw} {p : List Char} (hne : p ≠ [])
    (hp : p.all isWordChar = true)
    (h : ∀ g rest', readValue (g + 1) (p ++ rest') = some (r, rest')) :
    Takes n (p ++ rest) r rest :=
  .word hne (List.all_eq_true.mp hp) fun g rest' _ => h g rest'

/-- The reader of values takes a word, a string or a container. -/
theorem takes_of_readValue {n : Nat} {r : Raw} (h : readValue (n + 1) cs = some (r, rest)) :
    Takes n (skipSpace cs) r rest := by
  rw [readValue] at h
  split at h
  case h_1 cs' heq =>
    obtain ⟨rfl, rfl⟩ := Prod.mk.inj (Option.some.inj h)
    rw [heq]
    exact takes_name (p := ['n', 'u', 'l', 'l']) (List.cons_ne_nil _ _) rfl fun _ _ => rfl
  case h_2 cs' heq =>
    obtain ⟨rfl, rfl⟩ := Prod.mk.inj (Option.some.inj h)
    rw [heq]
    exact takes_name (p := ['t', 'r', 'u', 'e']) (List.cons_ne_nil _ _) rfl fun _ _ => rfl
  case h_3 cs' heq =>
    obtain ⟨rfl, rfl⟩ := Prod.mk.inj (Option.some.inj h)
    rw [heq]
    exact takes_name (p := ['f', 'a', 'l', 's', 'e']) (List.cons_ne_nil _ _) rfl fun _ _ => rfl
  case h_4 cs' heq =>
    obtain ⟨⟨ps, rest'⟩, hpieces, hpair⟩ := Option.map_eq_some_iff.mp h
    obtain ⟨rfl, rfl⟩ := Prod.mk.inj hpair
    obtain ⟨body, rfl, hbody, hread⟩ := exists_body_of_readPieces hpieces
    rw [heq]
    exact .string hbody hread
  case h_5 cs' heq =>
    rw [heq]
    split at h
    · rename_i hclose
      obtain ⟨rfl, rfl⟩ := Prod.mk.inj (Option.some.inj h)
      exact .emptyArray hclose
    · rename_i hopen
      obtain ⟨⟨rs, rest'⟩, hitems, hpair⟩ := Option.map_eq_some_iff.mp h
      obtain ⟨rfl, rfl⟩ := Prod.mk.inj hpair
      rw [readItems_skipSpace] at hitems
      refine .array (fun hhead => ?_) hitems
      obtain ⟨tail, htail⟩ := List.head?_eq_some_iff.mp hhead
      exact hopen tail htail
  case h_6 cs' heq =>
    rw [heq]
    split at h
    · rename_i hclose
      obtain ⟨rfl, rfl⟩ := Prod.mk.inj (Option.some.inj h)
      exact .emptyObject hclose
    · rename_i hopen
      obtain ⟨⟨ms, rest'⟩, hmembers, hpair⟩ := Option.map_eq_some_iff.mp h
      obtain ⟨rfl, rfl⟩ := Prod.mk.inj hpair
      rw [readMembers_skipSpace] at hmembers
      refine .object (fun hhead => ?_) hmembers
      obtain ⟨tail, htail⟩ := List.head?_eq_some_iff.mp hhead
      exact hopen tail htail
  case h_7 =>
    obtain ⟨⟨t, rest'⟩, hnumber, hpair⟩ := Option.map_eq_some_iff.mp h
    obtain ⟨rfl, rfl⟩ := Prod.mk.inj hpair
    exact takes_of_readNumber hnumber

/-- The items of an array are a value and, behind a comma, further items. -/
theorem readItems_succ_iff {n : Nat} {rs : List Raw} :
    readItems (n + 1) cs = some (rs, rest) ↔
      ∃ r tail, readValue n cs = some (r, tail) ∧
        ((skipSpace tail = ']' :: rest ∧ rs = [r]) ∨
          ∃ tail' rs', skipSpace tail = ',' :: tail' ∧ readItems n tail' = some (rs', rest) ∧
            rs = r :: rs') := by
  rw [readItems]
  constructor
  · intro h
    split at h
    · cases h
    · rename_i r tail hvalue
      refine ⟨r, tail, hvalue, ?_⟩
      split at h
      · rename_i tail' hcomma
        obtain ⟨⟨rs', rest'⟩, hitems, hpair⟩ := Option.map_eq_some_iff.mp h
        obtain ⟨rfl, rfl⟩ := Prod.mk.inj hpair
        exact .inr ⟨tail', rs', hcomma, hitems, rfl⟩
      · rename_i hclose
        obtain ⟨rfl, rfl⟩ := Prod.mk.inj (Option.some.inj h)
        exact .inl ⟨hclose, rfl⟩
      · cases h
  · rintro ⟨r, tail, hvalue, ⟨hclose, rfl⟩ | ⟨tail', rs', hcomma, hitems, rfl⟩⟩
    · simp only [hvalue, hclose]
    · simp only [hvalue, hcomma, hitems, Option.map_some]

/-- The members of an object are a key, a colon and a value and, behind a comma, further members. -/
theorem readMembers_succ_iff {n : Nat} {ms : List (List Piece × Raw)} :
    readMembers (n + 1) cs = some (ms, rest) ↔
      ∃ ds key afterKey afterColon r tail, skipSpace cs = '"' :: ds ∧
        readPieces ds = some (key, afterKey) ∧ skipSpace afterKey = ':' :: afterColon ∧
        readValue n afterColon = some (r, tail) ∧
        ((skipSpace tail = '}' :: rest ∧ ms = [(key, r)]) ∨
          ∃ tail' ms', skipSpace tail = ',' :: tail' ∧ readMembers n tail' = some (ms', rest) ∧
            ms = (key, r) :: ms') := by
  rw [readMembers]
  constructor
  · intro h
    split at h
    · rename_i ds hquote
      split at h
      · cases h
      · rename_i key afterKey hkey
        split at h
        · rename_i afterColon hcolon
          split at h
          · cases h
          · rename_i r tail hvalue
            refine ⟨ds, key, afterKey, afterColon, r, tail, hquote, hkey, hcolon, hvalue, ?_⟩
            split at h
            · rename_i tail' hcomma
              obtain ⟨⟨ms', rest'⟩, hmembers, hpair⟩ := Option.map_eq_some_iff.mp h
              obtain ⟨rfl, rfl⟩ := Prod.mk.inj hpair
              exact .inr ⟨tail', ms', hcomma, hmembers, rfl⟩
            · rename_i hclose
              obtain ⟨rfl, rfl⟩ := Prod.mk.inj (Option.some.inj h)
              exact .inl ⟨hclose, rfl⟩
            · cases h
        · cases h
    · cases h
  · rintro ⟨ds, key, afterKey, afterColon, r, tail, hquote, hkey, hcolon, hvalue,
      ⟨hclose, rfl⟩ | ⟨tail', ms', hcomma, hmembers, rfl⟩⟩
    · simp only [hquote, hkey, hcolon, hvalue, hclose]
    · simp only [hquote, hkey, hcolon, hvalue, hcomma, hmembers, Option.map_some]

/-! ### What is read can be cut -/

theorem lexed_of_mark (hc : isMark c = true) (hcs : skipSpace cs = c :: rest)
    (hrest : Lexed rest) : EndsWord cs ∧ Lexed cs := by
  constructor
  · exact endsWord_of_skipSpace (hcs ▸ endsWord_of_isMark hc rest)
  · exact .of_skipSpace (hcs ▸ .mark hc hrest)

/-- What is read can be cut if what follows it can. The induction is on the bound on the steps of
the reader, for values, items and members at once. -/
theorem lexed_of_read (n : Nat) :
    (∀ {cs rest r}, readValue n cs = some (r, rest) → EndsWord rest → Lexed rest → Lexed cs) ∧
    (∀ {cs rest rs}, readItems n cs = some (rs, rest) → Lexed rest → Lexed cs) ∧
    (∀ {cs rest ms}, readMembers n cs = some (ms, rest) → Lexed rest → Lexed cs) := by
  induction n with
  | zero => exact ⟨nofun, nofun, nofun⟩
  | succ n ih =>
    obtain ⟨hvalues, hitems, hmembers⟩ := ih
    refine ⟨fun h hend hrest => .of_skipSpace ?_, fun h hrest => ?_, fun h hrest => ?_⟩
    · have htakes := takes_of_readValue h
      generalize skipSpace _ = front at htakes ⊢
      cases htakes with
      | word hne hp _ => exact .word hne hp hend hrest
      | string hbody _ => exact .string hbody hrest
      | emptyArray hclose => exact .mark rfl (lexed_of_mark rfl hclose hrest).2
      | array _ h => exact .mark rfl (hitems h hrest)
      | emptyObject hclose => exact .mark rfl (lexed_of_mark rfl hclose hrest).2
      | object _ h => exact .mark rfl (hmembers h hrest)
    · obtain ⟨r, tail, hvalue, ⟨hclose, -⟩ | ⟨tail', rs', hcomma, hmore, -⟩⟩ :=
        readItems_succ_iff.mp h
      · obtain ⟨hend, htail⟩ := lexed_of_mark rfl hclose hrest
        exact hvalues hvalue hend htail
      · obtain ⟨hend, htail⟩ := lexed_of_mark rfl hcomma (hitems hmore hrest)
        exact hvalues hvalue hend htail
    · obtain ⟨ds, key, afterKey, afterColon, r, tail, hquote, hkey, hcolon, hvalue, hend⟩ :=
        readMembers_succ_iff.mp h
      have htail : EndsWord tail ∧ Lexed tail := by
        obtain ⟨hclose, -⟩ | ⟨tail', ms', hcomma, hmore, -⟩ := hend
        · exact lexed_of_mark rfl hclose hrest
        · exact lexed_of_mark rfl hcomma (hmembers hmore hrest)
      have hafterKey := (lexed_of_mark rfl hcolon (hvalues hvalue htail.1 htail.2)).2
      obtain ⟨body, rfl, hbody, -⟩ := exists_body_of_readPieces hkey
      exact .of_skipSpace (hquote ▸ .string hbody hafterKey)

/-- A text that is read can be cut into tokens and blanks. -/
theorem lexed_of_readChars? {r : Raw} (h : readChars? cs = some r) : Lexed cs := by
  rw [readChars?] at h
  split at h
  · rename_i r' rest hvalue
    split_ifs at h with hempty
    have hskip : skipSpace rest = [] := List.isEmpty_iff.mp hempty
    have hrest : Lexed rest := .of_skipSpace (hskip ▸ .nil)
    exact (lexed_of_read _).1 hvalue (endsWord_of_skipSpace (hskip ▸ rfl)) hrest
  · cases h

end Raw

/-! ### Blanks between tokens -/

/-- Whether two texts have the same token in front, and the second one arises from the first one by
putting in blanks. -/
inductive Fronts : List Char → List Char → Prop where
  | nil : Fronts [] []
  | mark {c : Char} {cs ds : List Char} (hc : isMark c = true) (h : Spaced cs ds) :
      Fronts (c :: cs) (c :: ds)
  | string {body cs ds : List Char} (hbody : IsStringBody body) (h : Spaced cs ds) :
      Fronts ('"' :: (body ++ '"' :: cs)) ('"' :: (body ++ '"' :: ds))
  | word {w cs ds : List Char} (hne : w ≠ []) (hw : ∀ c ∈ w, isWordChar c = true)
      (hend : EndsWord cs) (h : Spaced cs ds) : Fronts (w ++ cs) (w ++ ds)

namespace Spaced

/-- Behind the blanks in front the same token stands. -/
theorem fronts (h : Spaced cs ds) : Fronts (skipSpace cs) (skipSpace ds) := by
  induction h with
  | nil => exact .nil
  | blank hc h ih =>
    rwa [skipSpace, skipSpace, List.dropWhile_cons_of_pos hc, List.dropWhile_cons_of_pos hc]
  | mark hc h ih =>
    rw [skipSpace_cons (isSpace_of_isMark hc), skipSpace_cons (isSpace_of_isMark hc)]
    exact .mark hc h
  | string hbody h ih =>
    rw [skipSpace_cons rfl, skipSpace_cons rfl]
    exact .string hbody h
  | @word w cs ds hne hw hend h ih =>
    obtain ⟨c, w, rfl⟩ := List.exists_cons_of_ne_nil hne
    have hc := isSpace_of_isWordChar (hw c (.head _))
    rw [List.cons_append, List.cons_append, skipSpace_cons hc, skipSpace_cons hc]
    exact .word hne hw hend h
  | gap hgap h ih => rwa [skipSpace_append hgap]

theorem endsWord (h : Spaced cs ds) (hend : EndsWord cs) : EndsWord ds := by
  induction h with
  | nil => exact hend
  | blank hc => exact endsWord_of_isSpace hc _
  | mark hc => exact endsWord_of_isMark hc _
  | string => rfl
  | @word w cs ds hne hw =>
    obtain ⟨c, w, rfl⟩ := List.exists_cons_of_ne_nil hne
    rw [EndsWord, List.cons_append, wordHead?_cons_of_isWordChar (hw c (.head _))] at hend
    cases hend
  | @gap g cs ds hgap h ih =>
    cases g with
    | nil => exact ih hend
    | cons c g => exact endsWord_of_isSpace (hgap c (.head _)) _

theorem length_le (h : Spaced cs ds) : cs.length ≤ ds.length := by
  induction h with
  | nil => exact Nat.le_refl _
  | blank _ _ ih => simpa using ih
  | mark _ _ ih => simpa using ih
  | string _ _ ih => simpa using ih
  | word _ _ _ _ ih => simpa using ih
  | gap _ _ ih =>
    rw [List.length_append]
    omega

/-- A word, which may be empty here, in front of both texts. -/
theorem append_word {w : List Char} (h : Spaced cs ds) (hw : ∀ c ∈ w, isWordChar c = true)
    (hend : EndsWord cs) : Spaced (w ++ cs) (w ++ ds) := by
  by_cases hne : w = []
  · rwa [hne]
  · exact .word hne hw hend h

end Spaced

namespace Fronts

theorem head?_eq (h : Fronts cs ds) : cs.head? = ds.head? := by
  cases h with
  | nil => rfl
  | mark => rfl
  | string => rfl
  | @word w cs ds hne =>
    obtain ⟨c, w, rfl⟩ := List.exists_cons_of_ne_nil hne
    rfl

theorem eq_nil (h : Fronts [] ds) : ds = [] :=
  List.head?_eq_none_iff.mp h.head?_eq.symm

theorem of_mark (h : Fronts (c :: cs) ds) (hc : isMark c = true) :
    ∃ ds', ds = c :: ds' ∧ Spaced cs ds' := by
  generalize hfront : c :: cs = front at h
  cases h with
  | nil => cases hfront
  | mark _ h =>
    obtain ⟨rfl, rfl⟩ := List.cons.inj hfront
    exact ⟨_, rfl, h⟩
  | string =>
    obtain rfl := (List.cons.inj hfront).1
    cases hc
  | @word w _ _ hne hw =>
    obtain ⟨d, w, rfl⟩ := List.exists_cons_of_ne_nil hne
    obtain rfl := (List.cons.inj hfront).1
    have hword := hw c (.head _)
    rw [isWordChar_of_isMark hc] at hword
    cases hword

theorem of_string {body : List Char} (h : Fronts ('"' :: (body ++ '"' :: cs)) ds)
    (hbody : IsStringBody body) : ∃ ds', ds = '"' :: (body ++ '"' :: ds') ∧ Spaced cs ds' := by
  generalize hfront : '"' :: (body ++ '"' :: cs) = front at h
  cases h with
  | nil => cases hfront
  | mark hc =>
    obtain rfl := (List.cons.inj hfront).1
    cases hc
  | string hbody' h =>
    obtain ⟨rfl, rfl⟩ := hbody.unique hbody' (List.cons.inj hfront).2
    exact ⟨_, rfl, h⟩
  | @word w _ _ hne hw =>
    obtain ⟨d, w, rfl⟩ := List.exists_cons_of_ne_nil hne
    obtain rfl := (List.cons.inj hfront).1
    cases hw '"' (.head _)

theorem of_word (h : Fronts (p ++ cs) ds) (hne : p ≠ []) (hp : ∀ c ∈ p, isWordChar c = true) :
    ∃ ds', ds = p ++ ds' ∧ Spaced cs ds' ∧ Alike cs ds' := by
  obtain ⟨c, p', rfl⟩ := List.exists_cons_of_ne_nil hne
  have hc := hp c (.head _)
  generalize hfront : c :: p' ++ cs = front at h
  cases h with
  | nil => cases hfront
  | mark hmark =>
    obtain rfl := (List.cons.inj hfront).1
    rw [isWordChar_of_isMark hmark] at hc
    cases hc
  | string =>
    obtain rfl := (List.cons.inj hfront).1
    cases hc
  | @word w cs' ds' hne' hw hend h =>
    have halike : Alike cs' ds' := hend.trans (h.endsWord hend).symm
    -- the word in front is the longest one, so it goes on behind `p` if `cs` does
    rcases List.append_eq_append_iff.mp hfront with ⟨w', rfl, rfl⟩ | ⟨p'', hsplit, rfl⟩
    · have hw' : ∀ c ∈ w', isWordChar c = true := fun c hmem =>
        hw c (List.mem_append_right _ hmem)
      exact ⟨w' ++ ds', List.append_assoc .., h.append_word hw' hend, halike.append w'⟩
    · cases p'' with
      | nil =>
        rw [List.append_nil] at hsplit
        exact ⟨ds', by rw [hsplit], h, halike⟩
      | cons d p'' =>
        have hd : isWordChar d = true := hp d (hsplit ▸ List.mem_append_right _ (.head _))
        rw [EndsWord, List.cons_append, wordHead?_cons_of_isWordChar hd] at hend
        cases hend

end Fronts

namespace Raw

/-- Whether a reader with the bound `n` on its steps reads the same from a text in which blanks are
put between the tokens, with any bound that is not smaller. -/
def ReadsSpaced {α : Type} (read : Nat → List Char → Option (α × List Char)) (n : Nat) : Prop :=
  ∀ ⦃g cs ds a rest⦄, n ≤ g → Spaced cs ds → read n cs = some (a, rest) →
    ∃ rest', read g ds = some (a, rest') ∧ Spaced rest rest'

/-- A mark behind blanks, when further blanks are put in. -/
theorem exists_mark (hc : isMark c = true) (hcs : skipSpace cs = c :: rest) (h : Spaced cs ds) :
    ∃ rest', skipSpace ds = c :: rest' ∧ Spaced rest rest' :=
  (hcs ▸ h.fronts).of_mark hc

theorem readsSpaced_value {n : Nat} (hitems : ReadsSpaced readItems n)
    (hmembers : ReadsSpaced readMembers n) : ReadsSpaced readValue (n + 1) := by
  intro g cs ds r rest hg hspaced h
  obtain ⟨g, rfl⟩ : ∃ g', g = g' + 1 := Nat.exists_eq_add_one.mpr (by omega)
  have hfronts := hspaced.fronts
  have htakes := takes_of_readValue h
  rw [← readValue_skipSpace (g + 1) ds]
  generalize skipSpace cs = front at htakes hfronts
  generalize skipSpace ds = front' at hfronts
  cases htakes with
  | word hne hp hread =>
    obtain ⟨rest', rfl, hrest, halike⟩ := hfronts.of_word hne hp
    exact ⟨rest', hread g rest' halike, hrest⟩
  | string hbody hread =>
    obtain ⟨rest', rfl, hrest⟩ := hfronts.of_string hbody
    refine ⟨rest', ?_, hrest⟩
    rw [readValue, skipSpace_cons rfl]
    simp only [hread, Option.map_some]
  | emptyArray hclose =>
    obtain ⟨ds', rfl, hds'⟩ := hfronts.of_mark rfl
    obtain ⟨rest', hclose', hrest⟩ := exists_mark rfl hclose hds'
    refine ⟨rest', ?_, hrest⟩
    rw [readValue, skipSpace_cons rfl]
    simp only [hclose']
  | array hopen h =>
    obtain ⟨ds', rfl, hds'⟩ := hfronts.of_mark rfl
    obtain ⟨rest', hread, hrest⟩ := hitems (Nat.le_of_succ_le_succ hg) hds' h
    refine ⟨rest', ?_, hrest⟩
    rw [readValue_array g (hds'.fronts.head?_eq ▸ hopen), hread, Option.map_some]
  | emptyObject hclose =>
    obtain ⟨ds', rfl, hds'⟩ := hfronts.of_mark rfl
    obtain ⟨rest', hclose', hrest⟩ := exists_mark rfl hclose hds'
    refine ⟨rest', ?_, hrest⟩
    rw [readValue, skipSpace_cons rfl]
    simp only [hclose']
  | object hopen h =>
    obtain ⟨ds', rfl, hds'⟩ := hfronts.of_mark rfl
    obtain ⟨rest', hread, hrest⟩ := hmembers (Nat.le_of_succ_le_succ hg) hds' h
    refine ⟨rest', ?_, hrest⟩
    rw [readValue_object g (hds'.fronts.head?_eq ▸ hopen), hread, Option.map_some]

theorem readsSpaced_items {n : Nat} (hvalue : ReadsSpaced readValue n)
    (hitems : ReadsSpaced readItems n) : ReadsSpaced readItems (n + 1) := by
  intro g cs ds rs rest hg hspaced h
  obtain ⟨g, rfl⟩ : ∃ g', g = g' + 1 := Nat.exists_eq_add_one.mpr (by omega)
  have hg : n ≤ g := Nat.le_of_succ_le_succ hg
  obtain ⟨r, tail, hfirst, hmore⟩ := readItems_succ_iff.mp h
  obtain ⟨es, hfirst', htail⟩ := hvalue hg hspaced hfirst
  obtain ⟨hclose, rfl⟩ | ⟨tail', rs', hcomma, hothers, rfl⟩ := hmore
  · obtain ⟨rest', hclose', hrest⟩ := exists_mark rfl hclose htail
    exact ⟨rest', readItems_succ_iff.mpr ⟨r, es, hfirst', .inl ⟨hclose', rfl⟩⟩, hrest⟩
  · obtain ⟨es', hcomma', htail'⟩ := exists_mark rfl hcomma htail
    obtain ⟨rest', hothers', hrest⟩ := hitems hg htail' hothers
    exact ⟨rest', readItems_succ_iff.mpr
      ⟨r, es, hfirst', .inr ⟨es', rs', hcomma', hothers', rfl⟩⟩, hrest⟩

theorem readsSpaced_members {n : Nat} (hvalue : ReadsSpaced readValue n)
    (hmembers : ReadsSpaced readMembers n) : ReadsSpaced readMembers (n + 1) := by
  intro g cs ds ms rest hg hspaced h
  obtain ⟨g, rfl⟩ : ∃ g', g = g' + 1 := Nat.exists_eq_add_one.mpr (by omega)
  have hg : n ≤ g := Nat.le_of_succ_le_succ hg
  obtain ⟨es, key, afterKey, afterColon, r, tail, hquote, hkey, hcolon, hfirst, hmore⟩ :=
    readMembers_succ_iff.mp h
  obtain ⟨body, rfl, hbody, hkey'⟩ := exists_body_of_readPieces hkey
  obtain ⟨afterKey', hquote', hafterKey⟩ := (hquote ▸ hspaced.fronts).of_string hbody
  obtain ⟨afterColon', hcolon', hafterColon⟩ := exists_mark rfl hcolon hafterKey
  obtain ⟨es', hfirst', htail⟩ := hvalue hg hafterColon hfirst
  obtain ⟨hclose, rfl⟩ | ⟨tail', ms', hcomma, hothers, rfl⟩ := hmore
  · obtain ⟨rest', hclose', hrest⟩ := exists_mark rfl hclose htail
    exact ⟨rest', readMembers_succ_iff.mpr ⟨_, key, afterKey', afterColon', r, es', hquote',
      hkey' afterKey', hcolon', hfirst', .inl ⟨hclose', rfl⟩⟩, hrest⟩
  · obtain ⟨tail'', hcomma', htail'⟩ := exists_mark rfl hcomma htail
    obtain ⟨rest', hothers', hrest⟩ := hmembers hg htail' hothers
    exact ⟨rest', readMembers_succ_iff.mpr ⟨_, key, afterKey', afterColon', r, es', hquote',
      hkey' afterKey', hcolon', hfirst', .inr ⟨tail'', ms', hcomma', hothers', rfl⟩⟩, hrest⟩

/-- Blanks between the tokens change nothing of what is read, by induction on the bound on the steps
of the reader. -/
theorem readsSpaced (n : Nat) :
    ReadsSpaced readValue n ∧ ReadsSpaced readItems n ∧ ReadsSpaced readMembers n := by
  induction n with
  | zero => exact ⟨nofun, nofun, nofun⟩
  | succ n ih =>
    obtain ⟨hvalue, hitems, hmembers⟩ := ih
    exact ⟨readsSpaced_value hitems hmembers, readsSpaced_items hvalue hitems,
      readsSpaced_members hvalue hmembers⟩

/-- Blanks between the tokens of a text change nothing of what is read. -/
theorem readChars?_of_spaced {r : Raw} (h : readChars? cs = some r) (hspaced : Spaced cs ds) :
    readChars? ds = some r := by
  have hlength := hspaced.length_le
  rw [readChars?] at h
  split at h
  · rename_i r' rest hvalue
    split_ifs at h with hempty
    obtain ⟨rest', hread, hrest⟩ :=
      (readsSpaced _).1 (show _ ≤ 2 * ds.length + 2 by omega) hspaced hvalue
    have hfronts := hrest.fronts
    rw [List.isEmpty_iff.mp hempty] at hfronts
    rw [readChars?, hread]
    simp only [hfronts.eq_nil, List.isEmpty_nil, if_pos, h]
  · cases h

end Raw

end CrowdTask.Json
