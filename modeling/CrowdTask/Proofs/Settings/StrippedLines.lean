import CrowdTask.Proofs.Settings.Comments

/-!
# Taking out comments line by line

Taking out comments keeps the lines of every text, whether or not it is JSON, and however its
strings, comments and escapes end. Within a line it takes out the parts of comments and nothing
else, and puts a blank where a block comment ends. Nothing that remains begins a comment: two
characters that did not stand together before are never a slash and another slash or an asterisk. So
taking out comments once more changes nothing.

## Main definitions

* `CrowdTask.Comments.lines`: the lines of a text.
* `CrowdTask.Comments.LineStripped`: how a line arises from another one by taking out comments.
* `CrowdTask.Comments.LinesStripped`: how the lines of a text arise so.

## Main results

* `CrowdTask.Comments.linesStripped_scan`: what remains of the lines of a text.
* `CrowdTask.Comments.scan_scan`: what remains of what remains.
* `CrowdTask.Comments.strip_keeps_lines`: taking out comments keeps lines, and is idempotent.
-/

namespace CrowdTask.Comments

/-- The lines of a text. -/
def lines (cs : List Char) : List (List Char) := cs.splitOn '\n'

/-- How a line becomes another one by taking out comments, given whether it begins and whether it
ends within a block comment. Characters are kept in their order, the rest of a line and the parts of
block comments are left out, and the end of a block comment becomes a blank. -/
inductive LineStripped : Bool → List Char → List Char → Bool → Prop where
  | done (inside : Bool) : LineStripped inside [] [] inside
  | keep {l k : List Char} {e : Bool} (c : Char) (h : LineStripped false l k e) :
      LineStripped false (c :: l) (c :: k) e
  | rest (l : List Char) : LineStripped false ('/' :: '/' :: l) [] false
  | opens {l k : List Char} {e : Bool} (h : LineStripped true l k e) :
      LineStripped false ('/' :: '*' :: l) k e
  | skip {l k : List Char} {e : Bool} (c : Char) (h : LineStripped true l k e) :
      LineStripped true (c :: l) k e
  | closes {l k : List Char} {e : Bool} (h : LineStripped false l k e) :
      LineStripped true ('*' :: '/' :: l) (' ' :: k) e

/-- How lines become others by taking out comments, one line of the same number from each, given
whether the first one begins within a block comment. A block comment that does not end leaves a
blank at the end of the text. -/
inductive LinesStripped : Bool → List (List Char) → List (List Char) → Prop where
  | nil : LinesStripped false [] []
  | cons {b e : Bool} {l k : List Char} {ls ks : List (List Char)} (h : LineStripped b l k e)
      (hs : LinesStripped e ls ks) : LinesStripped b (l :: ls) (k :: ks)
  | unclosed {b : Bool} {l k : List Char} (h : LineStripped b l k true) :
      LinesStripped b [l] [k ++ [' ']]

variable {b : Bool} {c : Char} {cs ds : List Char} {ls ks : List (List Char)}

/-! ### Lines of a text -/

theorem lines_line (cs : List Char) : lines ('\n' :: cs) = [] :: lines cs := by
  rw [lines, List.splitOn_cons_eq_if_modifyHead, if_pos (by decide)]
  rfl

theorem lines_cons (hc : c ≠ '\n') (cs : List Char) :
    lines (c :: cs) = (lines cs).modifyHead (c :: ·) := by
  rw [lines, List.splitOn_cons_eq_if_modifyHead, if_neg (by simpa using hc)]
  rfl

theorem exists_cons_lines (cs : List Char) : ∃ l ls, lines cs = l :: ls :=
  List.exists_cons_of_ne_nil (List.splitOn_ne_nil '\n' cs)

theorem length_lines (cs : List Char) : (lines cs).length = cs.count '\n' + 1 := by
  induction cs with
  | nil => rfl
  | cons c cs ih =>
    by_cases hc : c = '\n'
    · rw [hc, lines_line, List.length_cons, ih, List.count_cons_self]
    · rw [lines_cons hc, List.length_modifyHead, ih, List.count_cons_of_ne hc]

/-- There are as many lines as before. -/
theorem LinesStripped.length_eq (h : LinesStripped b ls ks) : ls.length = ks.length := by
  induction h with
  | nil => rfl
  | cons _ _ ih => rw [List.length_cons, List.length_cons, ih]
  | unclosed _ => rfl

/-! ### Texts that lose their comments character by character -/

/-- Whether the second text arises from the first one by taking out comments, line by line. -/
def Strips (b : Bool) (cs ds : List Char) : Prop := LinesStripped b (lines cs) (lines ds)

namespace Strips

theorem line (h : Strips b cs ds) : Strips b ('\n' :: cs) ('\n' :: ds) := by
  rw [Strips, lines_line, lines_line]
  exact .cons (.done b) h

/-- A rule for the first line, which goes on after it as before. -/
theorem head {p q : List Char → List Char} {b' : Bool} (h : Strips b cs ds)
    (hp : lines (p cs) = (lines cs).modifyHead p) (hq : lines (q ds) = (lines ds).modifyHead q)
    (happend : ∀ k, q (k ++ [' ']) = q k ++ [' '])
    (hline : ∀ {l k e}, LineStripped b l k e → LineStripped b' (p l) (q k) e) :
    Strips b' (p cs) (q ds) := by
  obtain ⟨l, ls, hls⟩ := exists_cons_lines cs
  rw [Strips, hls] at h
  rw [Strips, hp, hq, hls]
  generalize lines ds = ks at h ⊢
  cases h with
  | cons h hs => exact .cons (hline h) hs
  | unclosed h =>
    rw [List.modifyHead_cons, List.modifyHead_cons, happend]
    exact .unclosed (hline h)

theorem keep (c : Char) (h : Strips false cs ds) : Strips false (c :: cs) (c :: ds) := by
  by_cases hc : c = '\n'
  · exact hc ▸ h.line
  · exact h.head (lines_cons hc cs) (lines_cons hc ds) (fun _ => rfl) (.keep c)

theorem skip (hc : c ≠ '\n') (h : Strips true cs ds) : Strips true (c :: cs) ds :=
  h.head (q := id) (lines_cons hc cs) (congrFun List.modifyHead_id _).symm (fun _ => rfl) (.skip c)

theorem opens (h : Strips true cs ds) : Strips false ('/' :: '*' :: cs) ds := by
  refine h.head (p := fun l => '/' :: '*' :: l) (q := id) ?_ (congrFun List.modifyHead_id _).symm
    (fun _ => rfl) .opens
  rw [lines_cons (by decide), lines_cons (by decide), List.modifyHead_modifyHead]
  rfl

theorem closes (h : Strips false cs ds) : Strips true ('*' :: '/' :: cs) (' ' :: ds) := by
  refine h.head (p := fun l => '*' :: '/' :: l) ?_ (lines_cons (by decide) ds) (fun _ => rfl)
    .closes
  rw [lines_cons (by decide), lines_cons (by decide), List.modifyHead_modifyHead]
  rfl

end Strips

/-! ### What remains of the lines of a text -/

/-- What a zone means for the lines of a text and of what remains of it: outside of line comments
they are stripped, beginning within a block comment or not; within a line comment nothing remains of
the first line, and the others are stripped. -/
def Zone.Strips : Zone → List Char → List Char → Prop
  | .code, cs, ds | .string, cs, ds => Comments.Strips false cs ds
  | .block, cs, ds => Comments.Strips true cs ds
  | .line, cs, ds => ∃ l ls ks, lines cs = l :: ls ∧ lines ds = [] :: ks ∧ LinesStripped false ls ks

theorem strips_scan (z : Zone) (cs : List Char) : z.Strips cs (scan z cs) := by
  fun_induction scan z cs with
  | case1 => exact LinesStripped.unclosed (.done true)
  | case2 z hz =>
    cases z with
    | code | string => exact .cons (.done false) .nil
    | line => exact ⟨[], [], [], rfl, rfl, .nil⟩
    | block => exact absurd rfl hz
  | case3 cs ih => exact ih.keep '"'
  | case4 cs ih =>
    -- the first line ends with a line comment
    obtain ⟨l, ls, ks, hcs, hds, hs⟩ := ih
    rw [Zone.Strips, Comments.Strips, lines_cons (by decide), lines_cons (by decide), hcs, hds]
    exact .cons (.rest l) hs
  | case5 cs ih => exact ih.opens
  | case6 c cs _ _ _ ih => exact ih.keep c
  | case7 c cs ih => exact (ih.keep c).keep '\\'
  | case8 cs ih => exact ih.keep '"'
  | case9 c cs _ _ ih => exact ih.keep c
  | case10 cs ih => exact ⟨[], _, _, lines_line cs, lines_line _, ih⟩
  | case11 c cs hc ih =>
    obtain ⟨l, ls, ks, hcs, hds, hs⟩ := ih
    exact ⟨c :: l, ls, ks, by rw [lines_cons hc, hcs]; rfl, hds, hs⟩
  | case12 cs ih => exact ih.closes
  | case13 cs ih => exact ih.line
  | case14 c cs _ hc ih => exact ih.skip hc

/-- What remains of the lines of a text. -/
theorem linesStripped_scan (cs : List Char) :
    LinesStripped false (lines cs) (lines (scan .code cs)) :=
  strips_scan .code cs

/-! ### What remains of what remains -/

/-- The zone in which what remains of a text begins. -/
def Zone.outer : Zone → Zone
  | .string => .string
  | .code | .line | .block => .code

/-- A text that does not begin with a slash keeps its first character. -/
theorem head?_scan (hslash : cs.head? ≠ some '/') : (scan .code cs).head? = cs.head? := by
  cases cs with
  | nil => rfl
  | cons c cs =>
    by_cases hquote : c = '"'
    · rw [hquote, scan]
      rfl
    · rw [scan_cons (z := .code) ⟨hquote, fun hc => hslash (congrArg some hc)⟩]
      rfl

/-- A slash is kept, too, if no slash and no asterisk follows it. -/
theorem scan_code_cons (hquote : c ≠ '"')
    (hopens : c = '/' → cs.head? ≠ some '/' ∧ cs.head? ≠ some '*') :
    scan .code (c :: cs) = c :: scan .code cs := by
  rw [scan]
  · exact hquote
  · rintro tail hc rfl
    exact (hopens hc).1 rfl
  · rintro tail hc rfl
    exact (hopens hc).2 rfl

/-- What remains of a text has no comments. -/
theorem scan_scan (z : Zone) (cs : List Char) : scan z.outer (scan z cs) = scan z cs := by
  fun_induction scan z cs with
  | case1 => rfl
  | case2 z hz => cases z <;> rfl
  | case3 cs ih => exact congrArg ('"' :: ·) ih
  | case4 cs ih => exact ih
  | case5 cs ih => exact ih
  | case6 c cs hquote hline hblock ih =>
    have ih : scan .code (scan .code cs) = scan .code cs := ih
    -- a slash that was kept is followed by what followed it in the text
    refine (scan_code_cons hquote fun hc => ?_).trans (congrArg (c :: ·) ih)
    have hslash : cs.head? ≠ some '/' := fun h => by
      obtain ⟨tail, rfl⟩ := List.head?_eq_some_iff.mp h
      exact hline tail hc rfl
    refine ⟨by rwa [head?_scan hslash], fun h => ?_⟩
    rw [head?_scan hslash] at h
    obtain ⟨tail, rfl⟩ := List.head?_eq_some_iff.mp h
    exact hblock tail hc rfl
  | case7 c cs ih => exact congrArg (fun rest => '\\' :: c :: rest) ih
  | case8 cs ih => exact congrArg ('"' :: ·) ih
  | case9 c cs hescape hquote ih =>
    by_cases hc : c = '\\'
    · -- a backslash with nothing to escape
      have hcs : cs = [] := by
        by_contra hne
        obtain ⟨d, tail, hd⟩ := List.exists_cons_of_ne_nil hne
        exact hescape d tail hc hd
      rw [hcs, hc]
      rfl
    · exact (scan_cons (z := .string) ⟨hquote, hc⟩).trans (congrArg (c :: ·) ih)
  | case10 cs ih => exact (scan_blank rfl _).trans (congrArg ('\n' :: ·) ih)
  | case11 c cs hc ih => exact ih
  | case12 cs ih => exact (scan_blank rfl _).trans (congrArg (' ' :: ·) ih)
  | case13 cs ih => exact (scan_blank rfl _).trans (congrArg ('\n' :: ·) ih)
  | case14 c cs _ hc ih => exact ih

/-- **Taking out comments keeps lines, and is idempotent.** Every text has as many line ends as what
remains of it. Each of its lines loses the parts of comments in it and nothing else, and has a blank
for each block comment that ends in it. What remains is not changed by taking out comments once
more. -/
theorem strip_keeps_lines (text : String) :
    (strip text).toList.count '\n' = text.toList.count '\n' ∧
    LinesStripped false (lines text.toList) (lines (strip text).toList) ∧
    strip (strip text) = strip text := by
  have hlines := linesStripped_scan text.toList
  have hcount := hlines.length_eq
  rw [length_lines, length_lines, Nat.add_right_cancel_iff] at hcount
  rw [strip, strip, String.toList_ofList]
  exact ⟨hcount.symm, hlines, congrArg String.ofList (scan_scan .code text.toList)⟩

example : strip "a /* b\nc */ d // e\n/*" = "a \n  d \n " := by decide

end CrowdTask.Comments
