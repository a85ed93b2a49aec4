import CrowdTask.Digest.Sha256
import Mathlib.Data.List.Basic

/-!
# Digests and their texts

A digest has thirty-two bytes, whatever the message is. In a text each byte stands as two small
hexadecimal digits, so that the text of a digest has sixty-four of them and tells the digest.

## Main definitions

* `CrowdTask.Digest.IsDigestText`: the form of the text of a digest.
* `CrowdTask.Digest.Collide`: two messages that have the same digest.

## Main results

* `CrowdTask.Digest.isDigestText_hex`: the text of a digest has its form.
* `CrowdTask.Digest.eq_or_collide_of_hex`: a text stands for one message, or for two that collide.
-/

namespace CrowdTask.Digest

/-- The sixteen digits, with small letters. -/
def hexDigits : List Char := "0123456789abcdef".toList

/-- Whether a text has the form of a digest: sixty-four hexadecimal digits, with small letters. -/
structure IsDigestText (text : String) : Prop where
  length : text.toList.length = 64
  digits : ∀ c ∈ text.toList, c ∈ hexDigits

/-- Whether two messages are different and have the same digest. -/
def Collide (a b : List UInt8) : Prop := a ≠ b ∧ sha256 a = sha256 b

/-! ### Bytes in hexadecimal digits -/

theorem hexDigit_mem : ∀ n < 16, Text.hexDigit n ∈ hexDigits := by decide

theorem hexDigit_inj : ∀ m < 16, ∀ n < 16, Text.hexDigit m = Text.hexDigit n → m = n := by decide

theorem hexByte_mem {b : UInt8} : ∀ c ∈ hexByte b, c ∈ hexDigits := by
  have hb := b.toNat_lt
  intro c hc
  simp only [hexByte, List.mem_cons, List.not_mem_nil, or_false] at hc
  rcases hc with rfl | rfl
  · exact hexDigit_mem _ (by omega)
  · exact hexDigit_mem _ (Nat.mod_lt _ (by decide))

/-- A byte is told by its two digits. -/
theorem hexByte_inj {a b : UInt8} (h : hexByte a = hexByte b) : a = b := by
  have ha := a.toNat_lt
  have hb := b.toNat_lt
  obtain ⟨hhigh, hrest⟩ := List.cons.inj h
  have hquotient := hexDigit_inj _ (by omega) _ (by omega) hhigh
  have hremainder := hexDigit_inj _ (Nat.mod_lt _ (by decide)) _ (Nat.mod_lt _ (by decide))
    (List.cons.inj hrest).1
  exact UInt8.toNat_inj.mp (by omega)

theorem flatMap_hexByte_inj : ∀ {xs ys : List UInt8}, xs.flatMap hexByte = ys.flatMap hexByte →
    xs = ys
  | [], [], _ => rfl
  | [], _ :: _, h | _ :: _, [], h => nomatch h
  | x :: xs, y :: ys, h => by
    rw [List.flatMap_cons, List.flatMap_cons] at h
    obtain ⟨hfirst, hrest⟩ := List.append_inj h rfl
    rw [hexByte_inj hfirst, flatMap_hexByte_inj hrest]

/-- Bytes are told by their digits. -/
theorem hex_inj {xs ys : List UInt8} : hex xs = hex ys ↔ xs = ys :=
  ⟨fun h => flatMap_hexByte_inj (String.ofList_inj.mp h), congrArg hex⟩

theorem length_toList_hex (xs : List UInt8) : (hex xs).toList.length = 2 * xs.length := by
  rw [hex, String.toList_ofList]
  induction xs with
  | nil => rfl
  | cons x xs ih =>
    rw [List.flatMap_cons, List.length_append, ih, List.length_cons]
    have hbyte : (hexByte x).length = 2 := rfl
    omega

/-! ### Digests -/

/-- Every message has a digest of thirty-two bytes. -/
theorem length_sha256 (message : List UInt8) : (sha256 message).length = 32 := rfl

/-- The text of a digest has its form. -/
theorem isDigestText_hex (message : List UInt8) : IsDigestText (hex (sha256 message)) where
  length := by rw [length_toList_hex, length_sha256]
  digits c hc := by
    rw [hex, String.toList_ofList] at hc
    obtain ⟨b, -, hb⟩ := List.mem_flatMap.mp hc
    exact hexByte_mem c hb

/-- Two messages whose digests have one text are the same, or they collide. -/
theorem eq_or_collide_of_hex {a b : List UInt8} (h : hex (sha256 a) = hex (sha256 b)) :
    a = b ∨ Collide a b :=
  Classical.or_iff_not_imp_left.mpr fun hne => ⟨hne, hex_inj.mp h⟩

/-- The bytes of a text tell the text. -/
theorem utf8_inj {s t : String} : utf8 s = utf8 t ↔ s = t := by
  refine ⟨fun h => ?_, congrArg utf8⟩
  have hdata : s.toUTF8.data = t.toUTF8.data := Array.toList_inj.mp h
  rw [String.toUTF8_eq_toByteArray, String.toUTF8_eq_toByteArray] at hdata
  exact String.toByteArray_inj.mp (ByteArray.ext hdata)

end CrowdTask.Digest
