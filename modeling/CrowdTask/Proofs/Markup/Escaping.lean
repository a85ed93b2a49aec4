import CrowdTask.Markup.Entity
import CrowdTask.Proofs.Text.Words
import Mathlib.Data.List.Basic

/-!
# Escaped texts

A text in which the six special characters are written as references is read back character by
character: each reference ends at its own semicolon, and an ampersand of the text is never left
alone. An escaped text holds no angle bracket, so that no tag begins or ends in it, and it begins
and ends with a blank only if the text does.

## Main results

* `CrowdTask.Markup.unescape_reference`: a reference is replaced by its character.
* `CrowdTask.Markup.unescape_escape`: an escaped text is read back.
* `CrowdTask.Markup.notMem_escape`: no tag begins in an escaped text.
* `CrowdTask.Markup.trim_escape`: nothing is trimmed from an escaped text, unless from the text.
-/

namespace CrowdTask.Markup

variable {name rest cs : List Char} {c : Char}

theorem unescapeAfter_append (skipped rest : List Char) :
    unescapeAfter skipped.length (skipped ++ rest) = unescape rest := by
  induction skipped with
  | nil => rfl
  | cons c skipped ih => exact ih

theorem unescape_cons_of_ne (h : c ≠ '&') (rest : List Char) :
    unescape (c :: rest) = c :: unescape rest := by
  rw [unescape, unescapeAfter]
  exact if_neg h

/-- A reference ends at its semicolon. -/
theorem reference?_append (hname : ';' ∉ name) (hc : entity? name = some c) (rest : List Char) :
    reference? (name ++ ';' :: rest) = some (c, name.length + 1) := by
  rw [reference?, Text.takeWhile_ne_append_cons hname, if_pos (by simp), hc]
  rfl

/-- A reference is replaced by its character. -/
theorem unescape_reference (hname : ';' ∉ name) (hc : entity? name = some c) (rest : List Char) :
    unescape ('&' :: name ++ ';' :: rest) = c :: unescape rest := by
  have hrest := unescapeAfter_append (name ++ [';']) rest
  rw [List.append_assoc, List.singleton_append, List.length_append, List.length_singleton] at hrest
  rw [List.cons_append, unescape, unescapeAfter, if_pos rfl, reference?_append hname hc]
  exact congrArg (c :: ·) hrest

/-- An ampersand that begins no reference stands for itself. -/
theorem unescape_cons_of_reference? (h : reference? rest = none) :
    unescape ('&' :: rest) = '&' :: unescape rest := by
  rw [unescape, unescapeAfter, if_pos rfl, h]
  rfl

/-! ### Escaped characters -/

/-- The name of the reference that is written for a special character. -/
def referenceName? (c : Char) : Option (List Char) :=
  if c = '&' then some "amp".toList
  else if c = '<' then some "lt".toList
  else if c = '>' then some "gt".toList
  else if c = '"' then some "quot".toList
  else if c = '\'' then some "#x27".toList
  else if c = '/' then some "#x2f".toList
  else none

/-- A character is written as itself or as a reference. -/
theorem escapeChar_eq (c : Char) :
    escapeChar c = (referenceName? c).elim [c] fun name => '&' :: name ++ [';'] := by
  unfold escapeChar
  split
  · rfl
  · rfl
  · rfl
  · rfl
  · rfl
  · rfl
  · simp_all [referenceName?]

/-- The references that are written name their characters, and hold neither blanks nor markup. -/
theorem spec_of_referenceName? (h : referenceName? c = some name) :
    entity? name = some c ∧ (∀ d ∈ name, d ≠ ';' ∧ d ≠ '<') := by
  unfold referenceName? at h
  split_ifs at h with h₁ h₂ h₃ h₄ h₅ h₆
  all_goals
    obtain rfl := Option.some.inj h
    subst c
    decide +kernel

theorem ne_of_referenceName?_eq_none (h : referenceName? c = none) : c ≠ '&' ∧ c ≠ '<' := by
  constructor
  all_goals
    rintro rfl
    cases h

theorem escape_cons (c : Char) (cs : List Char) : escape (c :: cs) = escapeChar c ++ escape cs :=
  List.flatMap_cons

theorem unescape_escapeChar (c : Char) (rest : List Char) :
    unescape (escapeChar c ++ rest) = c :: unescape rest := by
  rw [escapeChar_eq]
  rcases hname : referenceName? c with _ | name
  · exact unescape_cons_of_ne (ne_of_referenceName?_eq_none hname).1 rest
  · obtain ⟨hentity, hchars⟩ := spec_of_referenceName? hname
    have h := unescape_reference (fun hmem => (hchars ';' hmem).1 rfl) hentity rest
    simpa using h

/-- An escaped text is read back. -/
theorem unescape_escape (cs : List Char) : unescape (escape cs) = cs := by
  induction cs with
  | nil => rfl
  | cons c cs ih => rw [escape_cons, unescape_escapeChar, ih]

/-- No tag begins in an escaped text. -/
theorem notMem_escape (cs : List Char) : '<' ∉ escape cs := by
  intro h
  obtain ⟨c, -, hc⟩ := List.mem_flatMap.mp h
  rw [escapeChar_eq] at hc
  rcases hname : referenceName? c with _ | name
  · rw [hname] at hc
    exact (ne_of_referenceName?_eq_none hname).2 (List.mem_singleton.mp hc).symm
  · rw [hname] at hc
    have hmem : '<' ∈ name := by simpa using hc
    exact ((spec_of_referenceName? hname).2 '<' hmem).2 rfl

/-! ### Ends of escaped texts -/

theorem escapeChar_ne_nil (c : Char) : escapeChar c ≠ [] := by
  rw [escapeChar_eq]
  cases referenceName? c with
  | none => exact List.cons_ne_nil _ _
  | some name => exact List.cons_ne_nil _ _

theorem head?_escapeChar (c : Char) :
    (escapeChar c).head? = some c ∨ (escapeChar c).head? = some '&' := by
  rw [escapeChar_eq]
  cases referenceName? c with
  | none => exact Or.inl rfl
  | some name => exact Or.inr rfl

theorem getLast?_escapeChar (c : Char) :
    (escapeChar c).getLast? = some c ∨ (escapeChar c).getLast? = some ';' := by
  rw [escapeChar_eq]
  cases referenceName? c with
  | none => exact Or.inl rfl
  | some name => exact Or.inr List.getLast?_concat

/-- An escaped text begins and ends with a blank only if the text does. -/
theorem trim_escape (hhead : ∀ c, cs.head? = some c → Text.isBlank c = false)
    (hlast : ∀ c, cs.getLast? = some c → Text.isBlank c = false) :
    Text.trim (escape cs) = escape cs := by
  refine Text.strip_eq_self (fun d hd => ?_) (fun d hd => ?_)
  · cases cs with
    | nil => cases hd
    | cons c cs =>
      rw [escape_cons, List.head?_append_of_ne_nil _ (escapeChar_ne_nil c)] at hd
      rcases head?_escapeChar c with hc | hc
      · exact Option.some.inj (hc.symm.trans hd) ▸ hhead c rfl
      · exact Option.some.inj (hc.symm.trans hd) ▸ rfl
  · obtain rfl | ⟨cs, c, rfl⟩ := cs.eq_nil_or_concat'
    · cases hd
    · rw [escape, List.flatMap_append, List.flatMap_singleton,
        List.getLast?_append_of_ne_nil _ (escapeChar_ne_nil c)] at hd
      rcases getLast?_escapeChar c with hc | hc
      · exact Option.some.inj (hc.symm.trans hd) ▸ hlast c List.getLast?_concat
      · exact Option.some.inj (hc.symm.trans hd) ▸ rfl

end CrowdTask.Markup
