import CrowdTask.Proofs.Json.Values

/-!
# Values on one line

The compact form of a value has no control characters: strings escape them, and numbers are made of
digits, signs, points and the letter of a power of ten. So no line ends in it.

## Main definitions

* `CrowdTask.Json.IsPrintable`: whether there are no control characters in a text.

## Main results

* `CrowdTask.Json.isPrintable_compactChars`: the compact form of a value.
* `CrowdTask.Json.newline_notMem_compact`: no line ends in it.
-/

namespace CrowdTask.Json

/-- Whether there are no control characters of ASCII in a text. -/
def IsPrintable (cs : List Char) : Prop := ∀ c ∈ cs, 0x20 ≤ c.toNat

instance (cs : List Char) : Decidable (IsPrintable cs) :=
  inferInstanceAs (Decidable (∀ c ∈ cs, 0x20 ≤ c.toNat))

section IsPrintable

variable {c : Char} {cs ds : List Char}

theorem IsPrintable.append (h : IsPrintable cs) (h' : IsPrintable ds) : IsPrintable (cs ++ ds) :=
  List.forall_mem_append.mpr ⟨h, h'⟩

theorem IsPrintable.cons (hc : 0x20 ≤ c.toNat) (h : IsPrintable cs) : IsPrintable (c :: cs) :=
  List.forall_mem_cons.mpr ⟨hc, h⟩

theorem isPrintable_of_isDigit (h : ∀ c ∈ cs, c.isDigit = true) : IsPrintable cs := by
  intro c hc
  have hzero : '0'.toNat ≤ c.toNat := ((isDigit_iff c).mp (h c hc)).1
  exact le_trans (by decide) hzero

end IsPrintable

/-! ### Strings and numbers -/

theorem isPrintable_escapeChar (c : Char) : IsPrintable (escapeChar c) := by
  have hhex : ∀ n < 0x20, IsPrintable (['\\', 'u'] ++ Text.paddedHex 4 n) := by decide
  unfold escapeChar
  split_ifs with _ _ _ _ _ _ _ hcontrol
  · decide
  · decide
  · decide
  · decide
  · decide
  · decide
  · decide
  · exact hhex _ hcontrol
  · exact List.forall_mem_singleton.mpr (Nat.not_lt.mp hcontrol)

theorem isPrintable_stringChars (s : String) : IsPrintable (stringChars s) := by
  refine .append (.cons (by decide) fun c hc => ?_) (by decide)
  obtain ⟨d, -, hd⟩ := List.mem_flatMap.mp hc
  exact isPrintable_escapeChar d c hd

theorem isPrintable_chars {p : NumberParts} (hp : p.IsValid) : IsPrintable p.chars := by
  refine .append (.append (isPrintable_of_isDigit hp.whole) ?_) ?_
  · rw [NumberParts.fractionChars]
    split_ifs
    · decide
    · exact .cons (by decide) (isPrintable_of_isDigit hp.fraction)
  · rcases hexponent : p.exponent with _ | ⟨negative, ds⟩
    · decide
    · refine .cons (by decide) (.cons ?_ (isPrintable_of_isDigit (hp.exponent _ hexponent).2))
      split <;> decide

theorem isPrintable_render (n : Number) : IsPrintable n.render := by
  rw [Number.render_eq]
  refine .append ?_ (isPrintable_chars n.isValid_parts)
  split_ifs <;> decide

/-! ### Values -/

mutual

/-- There are no control characters in the compact form of a value. -/
theorem isPrintable_compactChars : ∀ v : Json, IsPrintable (compactChars v)
  | .null => by decide
  | .bool true => by decide
  | .bool false => by decide
  | .num n => isPrintable_render n
  | .str s => isPrintable_stringChars s
  | .arr items => .append (.cons (by decide) (isPrintable_compactItems items)) (by decide)
  | .obj members => .append (.cons (by decide) (isPrintable_compactMembers members)) (by decide)

theorem isPrintable_compactItems : ∀ vs : List Json, IsPrintable (compactItems vs)
  | [] => by decide
  | [v] => isPrintable_compactChars v
  | v :: w :: vs =>
    .append (isPrintable_compactChars v) (.cons (by decide) (isPrintable_compactItems (w :: vs)))

theorem isPrintable_compactMembers : ∀ ms : List (String × Json), IsPrintable (compactMembers ms)
  | [] => by decide
  | [(k, v)] =>
    .append (isPrintable_stringChars k) (.cons (by decide) (isPrintable_compactChars v))
  | (k, v) :: m :: ms =>
    .append (.append (isPrintable_stringChars k) (.cons (by decide) (isPrintable_compactChars v)))
      (.cons (by decide) (isPrintable_compactMembers (m :: ms)))

end

/-- No line ends in the compact form of a value. -/
theorem newline_notMem_compact (v : Json) : '\n' ∉ v.compact.toList := by
  rw [compact, String.toList_ofList]
  exact fun h => absurd (isPrintable_compactChars v _ h) (by decide)

end CrowdTask.Json
