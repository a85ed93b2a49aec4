import CrowdTask.Proofs.Json.Numbers
import CrowdTask.Proofs.Json.Strings
import Mathlib.Data.List.TakeWhile

/-!
# Texts are read as they are printed

The two ways to print a value differ in their blanks alone, and the reader skips blanks. Whatever
the blanks are, the grammatical form of a printed text is that of the value: its numbers as they are
written, the pieces of its strings, and its members in their order, also when a key occurs twice.
The bound on the steps of the reader is never met.

## Main definitions

* `CrowdTask.Json.Spacing`: the blanks of a printed text.
* `CrowdTask.Json.spacedChars`: the text of a value with these blanks.
* `CrowdTask.Json.raw`: the grammatical form of a value.

## Main results

* `CrowdTask.Json.readValue_spaced`: a printed value is read as it is printed.
* `CrowdTask.Json.rawRead?_compact`, `CrowdTask.Json.rawRead?_indented`: so are the two texts of a
  value.
-/

namespace CrowdTask.Json

/-! ### Blanks -/

/-- The blanks of a printed text: those in front of an item, of a member and of a closing bracket at
some depth, and those behind a colon. -/
structure Spacing where
  line : Nat → List Char
  colon : List Char

/-- Whether the reader skips the blanks. -/
structure Spacing.IsBlank (s : Spacing) : Prop where
  line : ∀ n, ∀ c ∈ s.line n, isSpace c = true
  colon : ∀ c ∈ s.colon, isSpace c = true

/-- No blanks at all. -/
def Spacing.compact : Spacing := ⟨fun _ => [], []⟩

/-- A line for each item and member. -/
def Spacing.indented : Spacing := ⟨newLine, [' ']⟩

theorem Spacing.isBlank_compact : Spacing.compact.IsBlank := ⟨nofun, nofun⟩

theorem Spacing.isBlank_indented : Spacing.indented.IsBlank where
  line := by
    intro n c hc
    rcases List.mem_cons.mp hc with rfl | hc
    · rfl
    · rw [List.eq_of_mem_replicate hc]
      rfl
  colon := by
    intro c hc
    rw [List.mem_singleton.mp hc]
    rfl

mutual

/-- The text of a value with the given blanks, its inner lines starting at depth `n + 1`. -/
def spacedChars (s : Spacing) (n : Nat) : Json → List Char
  | .null => nullChars
  | .bool b => boolChars b
  | .num x => x.render
  | .str t => stringChars t
  | .arr [] => ['[', ']']
  | .arr (v :: vs) => '[' :: spacedItems s (n + 1) (v :: vs) ++ s.line n ++ [']']
  | .obj [] => ['{', '}']
  | .obj (m :: ms) => '{' :: spacedMembers s (n + 1) (m :: ms) ++ s.line n ++ ['}']

/-- The items of an array with the given blanks, at depth `n`. -/
def spacedItems (s : Spacing) (n : Nat) : List Json → List Char
  | [] => []
  | [v] => s.line n ++ spacedChars s n v
  | v :: w :: vs => s.line n ++ spacedChars s n v ++ ',' :: spacedItems s n (w :: vs)

/-- The members of an object with the given blanks, at depth `n`. -/
def spacedMembers (s : Spacing) (n : Nat) : List (String × Json) → List Char
  | [] => []
  | [(k, v)] => s.line n ++ stringChars k ++ ':' :: s.colon ++ spacedChars s n v
  | (k, v) :: m :: ms =>
    s.line n ++ stringChars k ++ ':' :: s.colon ++ spacedChars s n v ++ ',' ::
      spacedMembers s n (m :: ms)

end

mutual

theorem spacedChars_indented (n : Nat) : ∀ v, spacedChars .indented n v = indentedChars n v
  | .null | .bool _ | .num _ | .str _ | .arr [] | .obj [] => rfl
  | .arr (v :: vs) => by
    rw [spacedChars, indentedChars, spacedItems_indented]
    rfl
  | .obj (m :: ms) => by
    rw [spacedChars, indentedChars, spacedMembers_indented]
    rfl

theorem spacedItems_indented (n : Nat) : ∀ vs, spacedItems .indented n vs = indentedItems n vs
  | [] => rfl
  | [v] => by
    rw [spacedItems, indentedItems, spacedChars_indented]
    rfl
  | v :: w :: vs => by
    rw [spacedItems, indentedItems, spacedChars_indented, spacedItems_indented]
    rfl

theorem spacedMembers_indented (n : Nat) :
    ∀ ms, spacedMembers .indented n ms = indentedMembers n ms
  | [] => rfl
  | [(k, v)] => by
    rw [spacedMembers, indentedMembers, spacedChars_indented]
    simp [Spacing.indented]
  | (k, v) :: m :: ms => by
    rw [spacedMembers, indentedMembers, spacedChars_indented, spacedMembers_indented]
    simp [Spacing.indented]

end

mutual

theorem spacedChars_compact (n : Nat) : ∀ v, spacedChars .compact n v = compactChars v
  | .null | .bool _ | .num _ | .str _ | .arr [] | .obj [] => rfl
  | .arr (v :: vs) => by
    rw [spacedChars, compactChars, spacedItems_compact]
    simp [Spacing.compact]
  | .obj (m :: ms) => by
    rw [spacedChars, compactChars, spacedMembers_compact]
    simp [Spacing.compact]

theorem spacedItems_compact (n : Nat) : ∀ vs, spacedItems .compact n vs = compactItems vs
  | [] => rfl
  | [v] => by
    rw [spacedItems, compactItems, spacedChars_compact]
    rfl
  | v :: w :: vs => by
    rw [spacedItems, compactItems, spacedChars_compact, spacedItems_compact]
    rfl

theorem spacedMembers_compact (n : Nat) : ∀ ms, spacedMembers .compact n ms = compactMembers ms
  | [] => rfl
  | [(k, v)] => by
    rw [spacedMembers, compactMembers, spacedChars_compact]
    simp [Spacing.compact]
  | (k, v) :: m :: ms => by
    rw [spacedMembers, compactMembers, spacedChars_compact, spacedMembers_compact]
    simp [Spacing.compact]

end

/-! ### Grammatical forms -/

mutual

/-- The grammatical form of a value. -/
def raw : Json → Raw
  | .null => .null
  | .bool b => .bool b
  | .num n => .num n.written
  | .str s => .str (pieces s)
  | .arr items => .arr (rawItems items)
  | .obj members => .obj (rawMembers members)

/-- The grammatical forms of the items of an array. -/
def rawItems : List Json → List Raw
  | [] => []
  | v :: vs => raw v :: rawItems vs

/-- The pieces of the keys, and the grammatical forms of the members, of an object. -/
def rawMembers : List (String × Json) → List (List Piece × Raw)
  | [] => []
  | (k, v) :: ms => (pieces k, raw v) :: rawMembers ms

end

/-! ### Single steps of the reader -/

section Steps

variable {cs blanks rest : List Char}

theorem skipSpace_append (hblanks : ∀ c ∈ blanks, isSpace c = true) (cs : List Char) :
    skipSpace (blanks ++ cs) = skipSpace cs := by
  rw [skipSpace, List.dropWhile_append_of_pos hblanks]
  rfl

theorem skipSpace_cons {c : Char} (hc : isSpace c = false) (cs : List Char) :
    skipSpace (c :: cs) = c :: cs := by
  rw [skipSpace, List.dropWhile_cons_of_neg (by simp [hc])]

/-- What passes over blanks can begin behind them. -/
theorem eq_of_skips {α : Type} {read : List Char → α}
    (hread : ∀ {blanks : List Char}, (∀ c ∈ blanks, isSpace c = true) →
      ∀ cs, read (blanks ++ cs) = read cs) (cs : List Char) : read (skipSpace cs) = read cs := by
  have happ := hread (List.all_eq_true.mp (List.all_takeWhile (l := cs))) (skipSpace cs)
  rw [skipSpace, List.takeWhile_append_dropWhile] at happ
  exact happ.symm

namespace Raw

theorem readValue_append (hblanks : ∀ c ∈ blanks, isSpace c = true) (f : Nat) (cs : List Char) :
    readValue f (blanks ++ cs) = readValue f cs := by
  cases f with
  | zero => rfl
  | succ f => rw [readValue, readValue, skipSpace_append hblanks]

theorem readItems_append (hblanks : ∀ c ∈ blanks, isSpace c = true) (f : Nat) (cs : List Char) :
    readItems f (blanks ++ cs) = readItems f cs := by
  cases f with
  | zero => rfl
  | succ f => rw [readItems, readItems, readValue_append hblanks]

theorem readMembers_append (hblanks : ∀ c ∈ blanks, isSpace c = true) (f : Nat) (cs : List Char) :
    readMembers f (blanks ++ cs) = readMembers f cs := by
  cases f with
  | zero => rfl
  | succ f => rw [readMembers, readMembers, skipSpace_append hblanks]

theorem readValue_skipSpace (f : Nat) (cs : List Char) :
    readValue f (skipSpace cs) = readValue f cs :=
  eq_of_skips (fun hblanks => readValue_append hblanks f) cs

theorem readItems_skipSpace (f : Nat) (cs : List Char) :
    readItems f (skipSpace cs) = readItems f cs :=
  eq_of_skips (fun hblanks => readItems_append hblanks f) cs

theorem readMembers_skipSpace (f : Nat) (cs : List Char) :
    readMembers f (skipSpace cs) = readMembers f cs :=
  eq_of_skips (fun hblanks => readMembers_append hblanks f) cs

theorem readValue_number {c : Char} (hc : c = '-' ∨ c.isDigit = true) (f : Nat) (cs : List Char) :
    readValue (f + 1) (c :: cs) = (readNumber (c :: cs)).map fun r => (.num r.1, r.2) := by
  have hspace : isSpace c = false := by
    rcases hc with rfl | hc
    · rfl
    · rw [isSpace]
      simp
      refine ⟨⟨⟨?_, ?_⟩, ?_⟩, ?_⟩ <;> rintro rfl <;> exact absurd hc (by decide)
  have hne : ∀ {d : Char} {ds : List Char}, d ≠ '-' → d.isDigit = false → c :: cs ≠ d :: ds := by
    intro d ds hminus hdigit h
    obtain rfl := (List.cons.inj h).1
    rcases hc with rfl | hc
    · exact hminus rfl
    · rw [hdigit] at hc
      exact Bool.false_ne_true hc
  rw [readValue, skipSpace_cons hspace]
  split
  case h_7 => rfl
  all_goals
    rename_i h
    exact absurd h (hne (by decide) (by decide))

theorem readValue_string (f : Nat) (t : String) (rest : List Char) :
    readValue (f + 1) (stringChars t ++ rest) = some (.str (pieces t), rest) := by
  have hchars : stringChars t ++ rest = '"' :: (t.toList.flatMap escapeChar ++ '"' :: rest) := by
    simp [stringChars]
  rw [hchars, readValue, skipSpace_cons rfl]
  simp only [readPieces_escaped, Option.map_some, pieces]

theorem readValue_array (f : Nat) (hcs : (skipSpace cs).head? ≠ some ']') :
    readValue (f + 1) ('[' :: cs) = (readItems f cs).map fun r => (.arr r.1, r.2) := by
  rw [readValue, skipSpace_cons rfl]
  simp only
  split
  · rename_i h
    rw [h] at hcs
    exact absurd rfl hcs
  · rw [readItems_skipSpace]

theorem readValue_object (f : Nat) (hcs : (skipSpace cs).head? ≠ some '}') :
    readValue (f + 1) ('{' :: cs) = (readMembers f cs).map fun r => (.obj r.1, r.2) := by
  rw [readValue, skipSpace_cons rfl]
  simp only
  split
  · rename_i h
    rw [h] at hcs
    exact absurd rfl hcs
  · rw [readMembers_skipSpace]

theorem readItems_last {f : Nat} {r : Raw} {tail : List Char}
    (hvalue : readValue f cs = some (r, tail)) (htail : skipSpace tail = ']' :: rest) :
    readItems (f + 1) cs = some ([r], rest) := by
  rw [readItems, hvalue]
  simp only [htail]

theorem readItems_more {f : Nat} {r : Raw} {tail : List Char}
    (hvalue : readValue f cs = some (r, ',' :: tail)) :
    readItems (f + 1) cs = (readItems f tail).map fun q => (r :: q.1, q.2) := by
  rw [readItems, hvalue]
  simp only [skipSpace_cons (show isSpace ',' = false from rfl)]

/-- A member up to what follows its value. -/
theorem readMembers_key {f : Nat} (key : String) (cs : List Char) :
    readMembers (f + 1) (stringChars key ++ ':' :: cs) =
      match readValue f cs with
      | none => none
      | some (r, rest) =>
        match skipSpace rest with
        | ',' :: rest => (readMembers f rest).map fun q => ((pieces key, r) :: q.1, q.2)
        | '}' :: rest => some ([(pieces key, r)], rest)
        | _ => none := by
  have hchars : stringChars key ++ ':' :: cs =
      '"' :: (key.toList.flatMap escapeChar ++ '"' :: ':' :: cs) := by
    simp [stringChars]
  have hcolon : skipSpace (':' :: cs) = ':' :: cs := skipSpace_cons rfl cs
  rw [hchars, readMembers, skipSpace_cons rfl]
  simp only [readPieces_escaped, hcolon]
  rfl

theorem readMembers_last {f : Nat} {key : String} {r : Raw} {tail : List Char}
    (hvalue : readValue f cs = some (r, tail)) (htail : skipSpace tail = '}' :: rest) :
    readMembers (f + 1) (stringChars key ++ ':' :: cs) = some ([(pieces key, r)], rest) := by
  rw [readMembers_key, hvalue]
  simp only [htail]

theorem readMembers_more {f : Nat} {key : String} {r : Raw} {tail : List Char}
    (hvalue : readValue f cs = some (r, ',' :: tail)) :
    readMembers (f + 1) (stringChars key ++ ':' :: cs) =
      (readMembers f tail).map fun q => ((pieces key, r) :: q.1, q.2) := by
  rw [readMembers_key, hvalue]
  simp only [skipSpace_cons (show isSpace ',' = false from rfl)]

end Raw

end Steps

/-! ### Printed values -/

section Printed

open Raw

variable {s : Spacing} {n : Nat}

theorem endsNumber_cons {c : Char} (hdigit : c.isDigit = false) (hne : c ∉ ['.', 'e', 'E'])
    (cs : List Char) : EndsNumber (c :: cs) := by
  intro d hd
  obtain rfl := Option.some.inj hd
  simp only [List.mem_cons, List.not_mem_nil, or_false, not_or] at hne
  exact ⟨hdigit, hne⟩

theorem endsNumber_append {blanks tail : List Char} (hblanks : ∀ c ∈ blanks, isSpace c = true)
    (htail : EndsNumber tail) : EndsNumber (blanks ++ tail) := by
  cases blanks with
  | nil => exact htail
  | cons c blanks =>
    have hc : isSpace c = true := hblanks c (.head _)
    simp only [isSpace, Bool.or_eq_true, decide_eq_true_eq] at hc
    rcases hc with ((rfl | rfl) | rfl) | rfl
    · exact endsNumber_cons (by decide) (by decide) _
    · exact endsNumber_cons (by decide) (by decide) _
    · exact endsNumber_cons (by decide) (by decide) _
    · exact endsNumber_cons (by decide) (by decide) _

theorem Number.exists_cons_render (x : Number) :
    ∃ c cs, x.render = c :: cs ∧ (c = '-' ∨ c.isDigit = true) := by
  rw [x.render_eq]
  exact NumberParts.exists_cons_chars x.isValid_parts x.isNegative

/-- A printed value begins with no blank and with no closing bracket. -/
theorem head_spacedChars (v : Json) :
    ∃ c cs, spacedChars s n v = c :: cs ∧ isSpace c = false ∧ c ≠ ']' := by
  cases v with
  | null => exact ⟨'n', _, by rw [spacedChars]; rfl, by decide, by decide⟩
  | bool b =>
    cases b with
    | true => exact ⟨'t', _, by rw [spacedChars]; rfl, by decide, by decide⟩
    | false => exact ⟨'f', _, by rw [spacedChars]; rfl, by decide, by decide⟩
  | num x =>
    obtain ⟨c, cs, hrender, hc⟩ := x.exists_cons_render
    refine ⟨c, cs, by rw [spacedChars, hrender], ?_, ?_⟩
    · by_contra hspace
      simp only [isSpace, Bool.not_eq_false, Bool.or_eq_true, decide_eq_true_eq] at hspace
      rcases hspace with ((rfl | rfl) | rfl) | rfl <;> revert hc <;> decide
    · rintro rfl
      revert hc
      decide
  | str t => exact ⟨'"', _, by rw [spacedChars, stringChars]; rfl, by decide, by decide⟩
  | arr items =>
    cases items with
    | nil => exact ⟨'[', _, by rw [spacedChars], by decide, by decide⟩
    | cons v vs => exact ⟨'[', _, by rw [spacedChars]; rfl, by decide, by decide⟩
  | obj members =>
    cases members with
    | nil => exact ⟨'{', _, by rw [spacedChars], by decide, by decide⟩
    | cons m ms => exact ⟨'{', _, by rw [spacedChars]; rfl, by decide, by decide⟩

theorem head_spacedItems (hs : s.IsBlank) (v : Json) (vs : List Json) (tail : List Char) :
    (skipSpace (spacedItems s n (v :: vs) ++ tail)).head? ≠ some ']' := by
  obtain ⟨c, cs, hchars, hspace, hne⟩ := head_spacedChars (s := s) (n := n) v
  cases vs with
  | nil =>
    rw [spacedItems, hchars, List.append_assoc, skipSpace_append (hs.line n), List.cons_append,
      skipSpace_cons hspace]
    simpa using hne
  | cons w vs =>
    rw [spacedItems, hchars, List.append_assoc, List.append_assoc, skipSpace_append (hs.line n),
      List.cons_append, skipSpace_cons hspace]
    simpa using hne

theorem head_spacedMembers (hs : s.IsBlank) (m : String × Json) (ms : List (String × Json))
    (tail : List Char) :
    (skipSpace (spacedMembers s n (m :: ms) ++ tail)).head? ≠ some '}' := by
  obtain ⟨key, v⟩ := m
  cases ms with
  | nil =>
    simp only [spacedMembers, List.append_assoc]
    rw [skipSpace_append (hs.line n), stringChars]
    simp [skipSpace_cons (show isSpace '"' = false from rfl)]
  | cons w ms =>
    simp only [spacedMembers, List.append_assoc]
    rw [skipSpace_append (hs.line n), stringChars]
    simp [skipSpace_cons (show isSpace '"' = false from rfl)]

/-- A printed value takes a step. -/
theorem exists_succ_of_le {f : Nat} {v : Json} (h : 2 * (spacedChars s n v).length ≤ f) :
    ∃ g, f = g + 1 := by
  obtain ⟨c, cs, hchars, -⟩ := head_spacedChars (s := s) (n := n) v
  rw [hchars, List.length_cons] at h
  exact ⟨f - 1, by omega⟩

mutual

/-- A printed value is read as it is printed. -/
theorem readValue_spaced (hs : s.IsBlank) (n : Nat) : ∀ (v : Json) {f : Nat} {rest : List Char},
    EndsNumber rest → 2 * (spacedChars s n v).length ≤ f →
      readValue f (spacedChars s n v ++ rest) = some (raw v, rest)
  | .null, f, rest, _, hf => by
    obtain ⟨f, rfl⟩ := exists_succ_of_le hf
    rw [spacedChars, nullChars, raw]
    rfl
  | .bool b, f, rest, _, hf => by
    obtain ⟨f, rfl⟩ := exists_succ_of_le hf
    rw [spacedChars, raw]
    cases b <;> rfl
  | .num x, f, rest, hrest, hf => by
    obtain ⟨f, rfl⟩ := exists_succ_of_le hf
    obtain ⟨c, cs, hrender, hc⟩ := x.exists_cons_render
    have hnumber := x.readNumber_render hrest
    rw [spacedChars, raw]
    rw [hrender, List.cons_append] at hnumber ⊢
    rw [readValue_number hc, hnumber, Option.map_some]
  | .str t, f, rest, _, hf => by
    obtain ⟨f, rfl⟩ := exists_succ_of_le hf
    rw [spacedChars, raw, readValue_string]
  | .arr [], f, rest, _, hf => by
    obtain ⟨f, rfl⟩ := exists_succ_of_le hf
    rw [spacedChars, raw, rawItems]
    rfl
  | .arr (v :: vs), f, rest, _, hf => by
    obtain ⟨f, rfl⟩ := exists_succ_of_le hf
    have hchars : spacedChars s n (.arr (v :: vs)) ++ rest =
        '[' :: (spacedItems s (n + 1) (v :: vs) ++ (s.line n ++ ']' :: rest)) := by
      simp [spacedChars]
    have hlength : 2 * (spacedItems s (n + 1) (v :: vs)).length + 1 ≤ f := by
      simp only [spacedChars, List.length_append, List.length_cons] at hf
      omega
    have hend : EndsNumber (s.line n ++ ']' :: rest) :=
      endsNumber_append (hs.line n) (endsNumber_cons (by decide) (by decide) _)
    rw [hchars, readValue_array f (head_spacedItems hs v vs _),
      readItems_spaced hs (n + 1) (v :: vs) nofun hend (skipSpace_append (hs.line n) _) hlength,
      raw]
    rfl
  | .obj [], f, rest, _, hf => by
    obtain ⟨f, rfl⟩ := exists_succ_of_le hf
    rw [spacedChars, raw, rawMembers]
    rfl
  | .obj (m :: ms), f, rest, _, hf => by
    obtain ⟨f, rfl⟩ := exists_succ_of_le hf
    have hchars : spacedChars s n (.obj (m :: ms)) ++ rest =
        '{' :: (spacedMembers s (n + 1) (m :: ms) ++ (s.line n ++ '}' :: rest)) := by
      simp [spacedChars]
    have hlength : 2 * (spacedMembers s (n + 1) (m :: ms)).length + 1 ≤ f := by
      simp only [spacedChars, List.length_append, List.length_cons] at hf
      omega
    have hend : EndsNumber (s.line n ++ '}' :: rest) :=
      endsNumber_append (hs.line n) (endsNumber_cons (by decide) (by decide) _)
    rw [hchars, readValue_object f (head_spacedMembers hs m ms _),
      readMembers_spaced hs (n + 1) (m :: ms) nofun hend (skipSpace_append (hs.line n) _) hlength,
      raw]
    rfl

/-- Printed items are read as they are printed, up to a closing bracket. -/
theorem readItems_spaced (hs : s.IsBlank) (n : Nat) : ∀ (vs : List Json), vs ≠ [] → ∀ {f : Nat}
    {tail rest : List Char}, EndsNumber tail → skipSpace tail = skipSpace (']' :: rest) →
      2 * (spacedItems s n vs).length + 1 ≤ f →
      readItems f (spacedItems s n vs ++ tail) = some (rawItems vs, rest)
  | [], hne, _, _, _, _, _, _ => absurd rfl hne
  | v :: _, _, 0, _, _, _, _, hf => absurd hf (by omega)
  | [v], _, f + 1, tail, rest, htail, hclose, hf => by
    rw [spacedItems, List.length_append] at hf
    rw [spacedItems, List.append_assoc, readItems_append (hs.line n),
      readItems_last (readValue_spaced hs n v htail (by omega)) hclose, rawItems, rawItems]
  | v :: w :: vs, _, f + 1, tail, rest, htail, hclose, hf => by
    have hcomma : EndsNumber (',' :: (spacedItems s n (w :: vs) ++ tail)) :=
      endsNumber_cons (by decide) (by decide) _
    simp only [spacedItems, List.length_append, List.length_cons] at hf
    rw [spacedItems, List.append_assoc, List.append_assoc, readItems_append (hs.line n),
      List.cons_append, readItems_more (readValue_spaced hs n v hcomma (by omega)),
      readItems_spaced hs n (w :: vs) nofun htail hclose (by omega), rawItems]
    rfl

/-- Printed members are read as they are printed, up to a closing brace. -/
theorem readMembers_spaced (hs : s.IsBlank) (n : Nat) : ∀ (ms : List (String × Json)), ms ≠ [] →
    ∀ {f : Nat} {tail rest : List Char}, EndsNumber tail →
      skipSpace tail = skipSpace ('}' :: rest) → 2 * (spacedMembers s n ms).length + 1 ≤ f →
      readMembers f (spacedMembers s n ms ++ tail) = some (rawMembers ms, rest)
  | [], hne, _, _, _, _, _, _ => absurd rfl hne
  | (_, _) :: _, _, 0, _, _, _, _, hf => absurd hf (by omega)
  | [(k, v)], _, f + 1, tail, rest, htail, hclose, hf => by
    have hvalue : readValue f (s.colon ++ (spacedChars s n v ++ tail)) = some (raw v, tail) := by
      simp only [spacedMembers, List.length_append, List.length_cons] at hf
      rw [readValue_append hs.colon, readValue_spaced hs n v htail (by omega)]
    simp only [spacedMembers, List.append_assoc, List.cons_append]
    rw [readMembers_append (hs.line n), readMembers_last hvalue hclose, rawMembers, rawMembers]
  | (k, v) :: w :: ms, _, f + 1, tail, rest, htail, hclose, hf => by
    have hcomma : EndsNumber (',' :: (spacedMembers s n (w :: ms) ++ tail)) :=
      endsNumber_cons (by decide) (by decide) _
    simp only [spacedMembers, List.length_append, List.length_cons] at hf
    have hvalue : readValue f (s.colon ++ (spacedChars s n v ++
        ',' :: (spacedMembers s n (w :: ms) ++ tail))) =
          some (raw v, ',' :: (spacedMembers s n (w :: ms) ++ tail)) := by
      rw [readValue_append hs.colon, readValue_spaced hs n v hcomma (by omega)]
    simp only [spacedMembers, List.append_assoc, List.cons_append]
    rw [readMembers_append (hs.line n), readMembers_more hvalue,
      readMembers_spaced hs n (w :: ms) nofun htail hclose (by omega), rawMembers]
    rfl

end

/-- The bound on the steps of the reader is met, also when blanks follow the value. -/
theorem readChars?_spaced (hs : s.IsBlank) (n : Nat) (v : Json) {blanks : List Char}
    (hblanks : ∀ c ∈ blanks, isSpace c = true) :
    readChars? (spacedChars s n v ++ blanks) = some (raw v) := by
  have hend : EndsNumber blanks := by
    have happ : EndsNumber (blanks ++ []) := endsNumber_append hblanks nofun
    rwa [List.append_nil] at happ
  have hskip : skipSpace blanks = [] := by
    exact List.dropWhile_eq_nil_iff.mpr hblanks
  rw [readChars?, readValue_spaced hs n v hend (by rw [List.length_append]; omega)]
  simp [hskip]

end Printed

/-- The text of a value on one line is read as it is printed. -/
theorem rawRead?_compact (v : Json) : Raw.read? v.compact = some (raw v) := by
  have h : Raw.readChars? (spacedChars .compact 0 v ++ []) = some (raw v) :=
    readChars?_spaced Spacing.isBlank_compact 0 v nofun
  rwa [spacedChars_compact, List.append_nil, ← String.toList_ofList (l := compactChars v)] at h

/-- The text of a value over several lines is read as it is printed, also when a line end
follows. -/
theorem rawRead?_indented (v : Json) : Raw.read? (v.indented ++ "\n") = some (raw v) := by
  have hline : ∀ c ∈ ['\n'], isSpace c = true := by
    intro c hc
    rw [List.mem_singleton.mp hc]
    rfl
  have h := readChars?_spaced Spacing.isBlank_indented 0 v hline
  rw [spacedChars_indented] at h
  rw [Raw.read?, indented, String.toList_append, String.toList_ofList]
  exact h

end CrowdTask.Json
