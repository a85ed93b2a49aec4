import CrowdTask.Markup.Element
import CrowdTask.Proofs.Markup.Escaping
import Mathlib.Data.List.Basic
import Mathlib.Data.List.Infix

/-!
# Elements in a text

Every tag begins with an angle bracket and has no other, so that no tag lies across the place where
another begins. The elements of a name are therefore found one after the other, whatever stands
between them, as long as it holds no start tag of that name; and what stands in them is found, as
long as it holds no end tag.

## Main definitions

* `CrowdTask.Markup.tag`, `CrowdTask.Markup.element`: the texts of a tag and of an element.
* `CrowdTask.Markup.IsLabel`: what can stand in a tag.

## Main results

* `CrowdTask.Markup.not_infix_append_element_append_iff`: where a tag is missing around an element.
* `CrowdTask.Markup.splitAt?_eq_none_iff`: a pattern is found exactly if it occurs.
* `CrowdTask.Markup.splitAt?_append`: a text is split where a pattern occurs first.
* `CrowdTask.Markup.bodies_append`: an element is the first that is found.
* `CrowdTask.Markup.bodies_eq_nil`: without a start tag there are no elements.
-/

namespace CrowdTask.Markup

variable {c : Char} {ps cs gap body : List Char} {name : String}

/-- A tag with what stands in it. -/
def tag (label : List Char) : List Char := '<' :: label ++ ['>']

/-- The text of an element. -/
def element (name : String) (body : List Char) : List Char := startTag name ++ body ++ endTag name

theorem startTag_eq_tag (name : String) : startTag name = tag name.toList := rfl

theorem endTag_eq_tag (name : String) : endTag name = tag ('/' :: name.toList) := rfl

/-! ### Occurrences -/

section Occurrences

theorem prefix_append_cons_iff (h : c ∉ ps) {a : List Char} (ha : a ≠ []) (b : List Char) :
    c :: ps <+: a ++ c :: b ↔ c :: ps <+: a := by
  refine ⟨fun hprefix => ?_, fun hprefix => hprefix.trans (List.prefix_append _ _)⟩
  rcases List.prefix_or_prefix_of_prefix hprefix (List.prefix_append a (c :: b)) with hle | ⟨t, ht⟩
  · exact hle
  · rw [← ht, List.prefix_append_right_inj] at hprefix
    cases t with
    | nil => exact List.append_nil a ▸ ht ▸ List.prefix_rfl
    | cons d t =>
      -- the pattern would go on with the character that it begins with
      obtain ⟨rfl, -⟩ := List.cons_prefix_cons.mp hprefix
      obtain ⟨x, a, rfl⟩ := List.exists_cons_of_ne_nil ha
      obtain ⟨-, rfl⟩ := List.cons.inj ht
      exact absurd (List.mem_append_right a (List.mem_cons_self ..)) h

/-- A pattern that does not repeat its first character does not lie across another occurrence of
that character. -/
theorem infix_append_cons_iff (h : c ∉ ps) (a b : List Char) :
    c :: ps <:+: a ++ c :: b ↔ c :: ps <:+: a ∨ c :: ps <:+: c :: b := by
  induction a with
  | nil => simp
  | cons x a ih =>
    rw [List.cons_append, List.infix_cons_iff, ih, ← List.cons_append,
      prefix_append_cons_iff h (List.cons_ne_nil x a), ← or_assoc, ← List.infix_cons_iff]

theorem not_infix_of_notMem (h : c ∉ cs) (ps : List Char) : ¬c :: ps <:+: cs :=
  fun hoccurs => h (hoccurs.subset (List.mem_cons_self ..))

/-- No tag stands in an escaped text. -/
theorem not_infix_escape (label cs : List Char) : ¬tag label <:+: escape cs :=
  not_infix_of_notMem (notMem_escape cs) _

/-- A pattern does not begin where its first character is missing. -/
theorem infix_append_iff_of_notMem {a : List Char} (ha : c ∉ a) (ps b : List Char) :
    c :: ps <:+: a ++ b ↔ c :: ps <:+: b := by
  induction a with
  | nil => rfl
  | cons x a ih =>
    rw [List.mem_cons, not_or] at ha
    rw [List.cons_append, List.infix_cons_iff, ih ha.2, List.cons_prefix_cons, or_iff_right_iff_imp]
    exact fun hprefix => absurd hprefix.1 ha.1

/-- No angle brackets stand in a label. -/
def IsLabel (label : List Char) : Prop := '<' ∉ label ∧ '>' ∉ label

variable {p q : List Char}

instance : DecidablePred IsLabel := fun _ => inferInstanceAs (Decidable (_ ∧ _))

theorem IsLabel.endTag (h : IsLabel p) : IsLabel ('/' :: p) := by
  simpa [IsLabel] using h

theorem IsLabel.notMem_tail (h : IsLabel p) : '<' ∉ p ++ ['>'] := by
  simpa using h.1

theorem IsLabel.append_prefix_iff (hp : IsLabel p) (hq : IsLabel q) (rest : List Char) :
    p ++ ['>'] <+: q ++ '>' :: rest ↔ p = q := by
  refine ⟨fun ⟨t, ht⟩ => ?_, fun h => h ▸ ⟨rest, by simp⟩⟩
  rw [List.append_assoc, List.singleton_append] at ht
  rw [← Text.takeWhile_ne_append_cons hp.2, ht, Text.takeWhile_ne_append_cons hq.2]

/-- What is found from a tag on is that tag, or it stands after it. -/
theorem infix_tag_append_iff (hp : IsLabel p) (hq : IsLabel q) (rest : List Char) :
    tag p <:+: tag q ++ rest ↔ p = q ∨ tag p <:+: rest := by
  have hprefix := hp.append_prefix_iff hq rest
  have htail := infix_append_iff_of_notMem hq.notMem_tail (p ++ ['>']) rest
  rw [tag, tag, List.cons_append, List.cons_append, List.cons_append, List.infix_cons_iff,
    List.cons_prefix_cons, htail]
  simp only [List.append_assoc, List.singleton_append, hprefix, true_and]

/-- A tag is missing in a text with an element if it is missing before the element, at its ends, in
it and after it. -/
theorem not_infix_append_element_append_iff (hp : IsLabel p) (hname : IsLabel name.toList)
    (gap body rest : List Char) :
    ¬tag p <:+: gap ++ element name body ++ rest ↔
      ¬tag p <:+: gap ∧ p ≠ name.toList ∧ ¬tag p <:+: body ∧ p ≠ '/' :: name.toList ∧
        ¬tag p <:+: rest := by
  have htext : gap ++ element name body ++ rest =
      gap ++ tag name.toList ++ (body ++ tag ('/' :: name.toList) ++ rest) := by
    simp only [element, startTag_eq_tag, endTag_eq_tag, List.append_assoc]
  have hcut : ∀ (a : List Char) {q} (b : List Char), IsLabel q →
      (tag p <:+: a ++ tag q ++ b ↔ tag p <:+: a ∨ p = q ∨ tag p <:+: b) := fun a q b hq => by
    rw [List.append_assoc, ← infix_tag_append_iff hp hq]
    exact infix_append_cons_iff hp.notMem_tail a _
  rw [htext, hcut _ _ hname, hcut _ _ hname.endTag]
  simp only [not_or, ne_eq]

end Occurrences

/-! ### Splitting -/

theorem eq_of_splitAt? {pattern before after : List Char}
    (h : splitAt? pattern cs = some (before, after)) : cs = before ++ pattern ++ after := by
  induction cs generalizing before with
  | nil =>
    rw [splitAt?] at h
    split_ifs at h with hp
    cases h
    simpa using hp
  | cons c cs ih =>
    rw [splitAt?] at h
    split_ifs at h with hp
    · cases h
      obtain ⟨t, ht⟩ := List.isPrefixOf_iff_prefix.mp hp
      rw [← ht, List.drop_left, List.nil_append]
    · obtain ⟨⟨a, b⟩, hsplit, hr⟩ := Option.map_eq_some_iff.mp h
      cases hr
      rw [ih hsplit]
      rfl

/-- A pattern is found exactly if it occurs. -/
theorem splitAt?_eq_none_iff {pattern : List Char} :
    splitAt? pattern cs = none ↔ ¬pattern <:+: cs := by
  induction cs with
  | nil => simp [splitAt?]
  | cons c cs ih =>
    rw [splitAt?, List.infix_cons_iff, not_or, ← ih, ← List.isPrefixOf_iff_prefix]
    split_ifs with hp
    · simp [hp]
    · simp [hp]

/-- A text is split where a pattern occurs first. -/
theorem splitAt?_append (h : c ∉ ps) (hgap : ¬c :: ps <:+: gap) (after : List Char) :
    splitAt? (c :: ps) (gap ++ c :: ps ++ after) = some (gap, after) := by
  induction gap with
  | nil => simp [splitAt?]
  | cons d gap ih =>
    rw [List.infix_cons_iff, not_or] at hgap
    have hprefix : ¬c :: ps <+: (d :: gap) ++ c :: (ps ++ after) :=
      mt (prefix_append_cons_iff h (List.cons_ne_nil d gap) _).mp hgap.1
    rw [List.cons_append, List.cons_append, splitAt?, if_neg, ih hgap.2]
    · rfl
    · simpa using hprefix

/-! ### Elements -/

theorem element?_eq_none (h : ¬startTag name <:+: cs) : element? name cs = none := by
  rw [element?, splitAt?_eq_none_iff.mpr h]
  rfl

/-- The first element is found. -/
theorem element?_append (hname : IsLabel name.toList) (hgap : ¬startTag name <:+: gap)
    (hbody : ¬endTag name <:+: body) (rest : List Char) :
    element? name (gap ++ element name body ++ rest) = some (body, rest) := by
  have hstart := splitAt?_append hname.notMem_tail hgap (body ++ endTag name ++ rest)
  have hend := splitAt?_append hname.endTag.notMem_tail hbody rest
  have htext : gap ++ element name body ++ rest =
      gap ++ startTag name ++ (body ++ endTag name ++ rest) := by
    simp only [element, List.append_assoc]
  rw [htext, element?]
  exact (congrArg (Option.bind · _) hstart).trans hend

theorem body?_append (hname : IsLabel name.toList) (hgap : ¬startTag name <:+: gap)
    (hbody : ¬endTag name <:+: body) (rest : List Char) :
    body? name (gap ++ element name body ++ rest) = some body := by
  rw [body?, element?_append hname hgap hbody, Option.map_some]

theorem length_lt_of_element? {rest : List Char} (h : element? name cs = some (body, rest)) :
    rest.length < cs.length := by
  obtain ⟨⟨a, b⟩, hstart, hend⟩ := Option.bind_eq_some_iff.mp h
  have hb : b = body ++ endTag name ++ rest := eq_of_splitAt? hend
  rw [eq_of_splitAt? hstart, hb]
  simp only [startTag, List.length_append, List.length_cons]
  omega

/-- A bound on the number of elements that is no less than the length of the text is none. -/
theorem bodiesUpTo_eq_bodies {bound : Nat} (h : cs.length ≤ bound) :
    bodiesUpTo name bound cs = bodies name cs := by
  suffices hbounds : ∀ {m n cs}, List.length cs ≤ m → cs.length ≤ n →
      bodiesUpTo name m cs = bodiesUpTo name n cs from hbounds h le_rfl
  intro m
  induction m with
  | zero =>
    intro n cs hm hn
    obtain rfl := List.length_eq_zero_iff.mp (Nat.le_zero.mp hm)
    cases n with
    | zero => rfl
    | succ n => rw [bodiesUpTo, bodiesUpTo, element?_eq_none (by simp [startTag])]
  | succ m ih =>
    intro n cs hm hn
    rw [bodiesUpTo]
    cases n with
    | zero =>
      obtain rfl := List.length_eq_zero_iff.mp (Nat.le_zero.mp hn)
      rw [bodiesUpTo, element?_eq_none (by simp [startTag])]
    | succ n =>
      rw [bodiesUpTo]
      rcases helement : element? name cs with _ | ⟨body, rest⟩
      · rfl
      · have hlt := length_lt_of_element? helement
        exact congrArg (body :: ·) (ih (by omega) (by omega))

/-- Without a start tag there are no elements. -/
theorem bodies_eq_nil (h : ¬startTag name <:+: cs) : bodies name cs = [] := by
  rw [← bodiesUpTo_eq_bodies (Nat.le_succ _), bodiesUpTo, element?_eq_none h]

/-- An element is the first that is found, if no start tag stands before it and no end tag in
it. -/
theorem bodies_append (hname : IsLabel name.toList) (hgap : ¬startTag name <:+: gap)
    (hbody : ¬endTag name <:+: body) (rest : List Char) :
    bodies name (gap ++ element name body ++ rest) = body :: bodies name rest := by
  have helement := element?_append hname hgap hbody rest
  rw [← bodiesUpTo_eq_bodies (Nat.le_succ _), bodiesUpTo, helement]
  exact congrArg (body :: ·) (bodiesUpTo_eq_bodies (length_lt_of_element? helement).le)

end CrowdTask.Markup
