import CrowdTask.Digest.Sha256
import Mathlib.Data.List.Basic

/-!
# Lines of bytes

Bytes are cut into lines by those that end a line. As long as the last line is ended, what is put
behind it begins a line of its own. In the bytes of a text only the character for it ends a line.

## Main definitions

* `CrowdTask.Text.linesOf`: the lines of bytes.
* `CrowdTask.Text.IsLined`: whether bytes are made of lines alone.

## Main results

* `CrowdTask.Text.linesOf_append`: lines that are put behind other ones.
* `CrowdTask.Text.mem_of_lineEnd_mem_utf8`: what ends a line in a text.
-/

namespace CrowdTask.Text

open Digest

variable {bytes line : List UInt8} {lines : List (List UInt8)}

/-- The byte that ends a line. -/
def lineEnd : UInt8 := 10

/-- A line with its end. -/
def ended (line : List UInt8) : List UInt8 := line ++ [lineEnd]

/-- The lines of bytes without their ends. What stands behind the last end is no line. -/
def linesOf (bytes : List UInt8) : List (List UInt8) := (bytes.splitOn lineEnd).dropLast

/-- Whether bytes are made of lines alone: there are none, or the last one ends a line. -/
def IsLined (bytes : List UInt8) : Prop := bytes = [] ∨ ∃ before, bytes = ended before

theorem linesOf_ended (before : List UInt8) : linesOf (ended before) = before.splitOn lineEnd := by
  rw [linesOf, ended, List.splitOn_append_cons_self, List.splitOn_nil, List.dropLast_concat]

/-- A line that is put behind other ones. -/
theorem linesOf_append_ended (h : IsLined bytes) (hline : lineEnd ∉ line) :
    linesOf (bytes ++ ended line) = linesOf bytes ++ [line] := by
  rcases h with rfl | ⟨before, rfl⟩
  · rw [List.nil_append, linesOf_ended, List.splitOn_eq_singleton hline]
    rfl
  · have happend : ended before ++ ended line = ended (before ++ lineEnd :: line) := by
      simp [ended]
    rw [happend, linesOf_ended, linesOf_ended, List.splitOn_append_cons_self,
      List.splitOn_eq_singleton hline]

theorem isLined_append_ended (bytes line : List UInt8) : IsLined (bytes ++ ended line) :=
  .inr ⟨bytes ++ line, (List.append_assoc _ _ _).symm⟩

/-- Lines that are put behind other ones. -/
theorem linesOf_append (h : IsLined bytes) (hlines : ∀ line ∈ lines, lineEnd ∉ line) :
    linesOf (bytes ++ lines.flatMap ended) = linesOf bytes ++ lines := by
  induction lines generalizing bytes with
  | nil => rw [List.flatMap_nil, List.append_nil, List.append_nil]
  | cons line lines ih =>
    obtain ⟨hline, hlines⟩ := List.forall_mem_cons.mp hlines
    rw [List.flatMap_cons, ← List.append_assoc, ih (isLined_append_ended bytes line) hlines,
      linesOf_append_ended h hline, List.append_assoc, List.singleton_append]

theorem IsLined.append (h : IsLined bytes) (lines : List (List UInt8)) :
    IsLined (bytes ++ lines.flatMap ended) := by
  induction lines generalizing bytes with
  | nil => rwa [List.flatMap_nil, List.append_nil]
  | cons line lines ih =>
    rw [List.flatMap_cons, ← List.append_assoc]
    exact ih (isLined_append_ended bytes line)

/-! ### Texts -/

/-- The bytes of a text are those of its characters. -/
theorem utf8_eq_flatMap (s : String) : utf8 s = s.toList.flatMap String.utf8EncodeChar := by
  have hs : utf8 (String.ofList s.toList) = s.toList.flatMap String.utf8EncodeChar := by
    rw [utf8, String.toUTF8_eq_toByteArray]
    exact List.toList_data_toByteArray
  rwa [String.ofList_toList] at hs

theorem utf8_append (s t : String) : utf8 (s ++ t) = utf8 s ++ utf8 t := by
  rw [utf8_eq_flatMap, utf8_eq_flatMap, utf8_eq_flatMap, String.toList_append, List.flatMap_append]

theorem eq_of_lineEnd_mem_utf8EncodeChar {c : Char} (h : lineEnd ∈ String.utf8EncodeChar c) :
    c = '\n' := by
  have hbyte : ∀ {n : Nat}, lineEnd = UInt8.ofNat n → n % 256 = 10 := by
    intro n hn
    have htoNat := congrArg UInt8.toNat hn
    rw [UInt8.toNat_ofNat'] at htoNat
    exact htoNat.symm
  -- a character that takes several bytes has none below 128 among them
  have hval : c.val.toNat = 10 := by
    unfold String.utf8EncodeChar at h
    dsimp only at h
    split_ifs at h with hone htwo hthree
    · have hc := hbyte (List.mem_singleton.mp h)
      omega
    · simp only [List.mem_cons, List.not_mem_nil, or_false] at h
      rcases h with h | h <;> have hb := hbyte h <;> omega
    · simp only [List.mem_cons, List.not_mem_nil, or_false] at h
      rcases h with h | h | h <;> have hb := hbyte h <;> omega
    · simp only [List.mem_cons, List.not_mem_nil, or_false] at h
      rcases h with h | h | h | h <;> have hb := hbyte h <;> omega
  exact Char.ext (UInt32.toNat_inj.mp hval)

/-- Only the character for it ends a line of a text. -/
theorem mem_of_lineEnd_mem_utf8 {s : String} (h : lineEnd ∈ utf8 s) : '\n' ∈ s.toList := by
  rw [utf8_eq_flatMap] at h
  obtain ⟨c, hc, hbyte⟩ := List.mem_flatMap.mp h
  exact eq_of_lineEnd_mem_utf8EncodeChar hbyte ▸ hc

end CrowdTask.Text
