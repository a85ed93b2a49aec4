import CrowdTask.Json.Printer
import CrowdTask.Json.Reader
import Mathlib.Tactic.SplitIfs

/-!
# Strings are read as they are written

Every character of a string is written by itself, by a letter after a backslash, or by the four
hexadecimal digits of a control character. The reader takes each of the three for one piece, and the
pieces of a text stand for the text. No character is written by a surrogate pair.

## Main definitions

* `CrowdTask.Json.pieceOf`: the piece that the reader takes a written character for.
* `CrowdTask.Json.pieces`: the pieces of a text.

## Main results

* `CrowdTask.Json.readPieces_escaped`: the reader finds the pieces of a text between its quotes.
* `CrowdTask.Json.pieceText?_pieces`: the pieces of a text stand for the text.
-/

namespace CrowdTask.Json

/-- The piece that the reader takes a written character for. -/
def pieceOf (c : Char) : Piece :=
  if c.toNat < 0x20 ∧ c.toNat ∉ [8, 9, 10, 12, 13] then .unit c.toNat else .char c

/-- The pieces of a text. -/
def pieces (s : String) : List Piece := s.toList.map pieceOf

theorem paddedHex_of_lt : ∀ n < 0x20, ∃ a b c d, Text.paddedHex 4 n = [a, b, c, d] ∧
    Text.ofDigits? 16 [a, b, c, d] = some n := by
  intro n hn
  refine ⟨'0', '0', (Text.paddedHex 4 n).getD 2 '0', (Text.paddedHex 4 n).getD 3 '0', ?_⟩
  revert n
  decide

theorem readPieces_escapeChar (c : Char) (rest : List Char) :
    readPieces (escapeChar c ++ rest) = (readPieces rest).map fun r => (pieceOf c :: r.1, r.2) := by
  have hshort : ∀ {e : Char}, e ≠ 'u' → escaped? e = some c → pieceOf c = .char c →
      readPieces ('\\' :: e :: rest) =
        (readPieces rest).map fun r => (pieceOf c :: r.1, r.2) := by
    intro e hu he hc
    rw [readPieces, he, hc]
    · cases readPieces rest <;> rfl
    · rintro a b c d cs rfl
      exact absurd rfl hu
  have hchar : ∀ {n : Nat}, c.toNat = n → c = Char.ofNat n := by
    rintro n rfl
    exact (Char.ofNat_toNat c).symm
  unfold escapeChar
  split_ifs with hquote hslash hback hfeed hline hreturn htab hcontrol
  · subst hquote
    exact hshort (by decide) rfl rfl
  · subst hslash
    exact hshort (by decide) rfl rfl
  · obtain rfl := hchar hback
    exact hshort (by decide) rfl rfl
  · obtain rfl := hchar hfeed
    exact hshort (by decide) rfl rfl
  · subst hline
    exact hshort (by decide) rfl rfl
  · subst hreturn
    exact hshort (by decide) rfl rfl
  · subst htab
    exact hshort (by decide) rfl rfl
  · -- a control character without a letter of its own
    have hpiece : pieceOf c = .unit c.toNat := by
      rw [pieceOf, if_pos]
      refine ⟨hcontrol, fun hmem => ?_⟩
      simp only [List.mem_cons, List.not_mem_nil, or_false] at hmem
      rcases hmem with h | h | h | h | h
      · exact hback h
      · exact htab (hchar h)
      · exact hline (hchar h)
      · exact hfeed h
      · exact hreturn (hchar h)
    obtain ⟨a, b, d, e, hhex, hvalue⟩ := paddedHex_of_lt c.toNat hcontrol
    rw [hhex, hpiece]
    show readPieces ('\\' :: 'u' :: a :: b :: d :: e :: rest) = _
    rw [readPieces, hvalue]
    cases readPieces rest <;> rfl
  · have hpiece : pieceOf c = .char c := by
      rw [pieceOf, if_neg]
      exact fun h => hcontrol h.1
    rw [hpiece, List.singleton_append, readPieces, if_neg (not_or.mpr ⟨hslash, hcontrol⟩)]
    · exact hquote
    · exact fun _ _ _ _ _ h => absurd h hslash
    · exact fun _ _ h => absurd h hslash

/-- The reader finds the pieces of a text between its quotes. -/
theorem readPieces_escaped (cs rest : List Char) :
    readPieces (cs.flatMap escapeChar ++ '"' :: rest) = some (cs.map pieceOf, rest) := by
  induction cs with
  | nil => rw [List.flatMap_nil, List.nil_append, readPieces, List.map_nil]
  | cons c cs ih => rw [List.flatMap_cons, List.append_assoc, readPieces_escapeChar, ih]; rfl

theorem decodePieces_map (cs : List Char) : decodePieces (cs.map pieceOf) = some cs := by
  induction cs with
  | nil => rfl
  | cons c cs ih =>
    rw [List.map_cons, pieceOf]
    split_ifs with h
    · -- the code point of a control character is no half of a surrogate pair
      have hlow : isLowSurrogate c.toNat = false := by
        simp [isLowSurrogate]
        omega
      have hhigh : isHighSurrogate c.toNat = false := by
        simp [isHighSurrogate]
        omega
      unfold decodePieces
      simp [hlow, hhigh, ih]
    · rw [decodePieces, ih, Option.map_some]

/-- The pieces of a text stand for the text. -/
theorem pieceText?_pieces (s : String) : pieceText? (pieces s) = some s := by
  rw [pieceText?, pieces, decodePieces_map, Option.map_some, String.ofList_toList]

end CrowdTask.Json
