import CrowdTask.Identifier
import CrowdTask.Proofs.Text.Words

/-!
# Identifiers are read as they are written

No character of an identifier is a blank or a point, so the blanks that are dropped around an
identifier are never its own, and the name of a file tells where the identifier in it ends.

## Main results

* `CrowdTask.Identifier.eq_of_text`: the text makes the identifier.
* `CrowdTask.Identifier.parse_text`: an identifier is read from its text.
* `CrowdTask.Identifier.parse?_eq_some_iff`: the texts from which an identifier is read.
-/

namespace CrowdTask

/-- Letters and digits lie between the code points of the first digit and of the last letter. -/
theorem toNat_of_isAlphanum {c : Char} (h : c.isAlphanum = true) :
    48 ≤ c.toNat ∧ c.toNat ≤ 122 := by
  have hrange : ((decide (c.val ≥ 'A'.val ∧ c.val ≤ 'Z'.val) ||
      (c.val ≥ 'a'.val && c.val ≤ 'z'.val)) || (c.val ≥ '0'.val && c.val ≤ '9'.val)) = true := h
  simp only [Bool.or_eq_true, Bool.and_eq_true, decide_eq_true_eq, ge_iff_le,
    UInt32.le_iff_toNat_le] at hrange
  show 48 ≤ c.val.toNat ∧ c.val.toNat ≤ 122
  rcases hrange with (⟨hlow, hhigh⟩ | ⟨hlow, hhigh⟩) | ⟨hlow, hhigh⟩
  · exact ⟨Nat.le_trans (by decide) hlow, Nat.le_trans hhigh (by decide)⟩
  · exact ⟨Nat.le_trans (by decide) hlow, Nat.le_trans hhigh (by decide)⟩
  · exact ⟨Nat.le_trans (by decide) hlow, Nat.le_trans hhigh (by decide)⟩

theorem isBlank_of_isIdChar {c : Char} (h : isIdChar c = true) : Text.isBlank c = false := by
  simp only [isIdChar, Bool.or_eq_true, decide_eq_true_eq] at h
  rcases h with (h | rfl) | rfl
  · have hrange := toNat_of_isAlphanum h
    simp only [Text.isBlank, Bool.or_eq_false_iff, Bool.and_eq_false_iff, decide_eq_false_iff_not,
      beq_eq_false_iff_ne]
    omega
  · rfl
  · rfl

namespace Identifier

variable {kind : IdKind}

/-- The text makes the identifier. -/
theorem eq_of_text {a b : Identifier kind} (h : a.text = b.text) : a = b := by
  obtain ⟨_, _⟩ := a
  obtain ⟨_, _⟩ := b
  subst h
  rfl

theorem isIdChar_of_mem (id : Identifier kind) {c : Char} (hc : c ∈ id.text.toList) :
    isIdChar c = true := by
  have hvalid := id.valid
  rw [isIdText, Bool.and_eq_true, List.all_eq_true] at hvalid
  exact hvalid.2 c hc

theorem toList_text_ne_nil (id : Identifier kind) : id.text.toList ≠ [] := by
  intro h
  have hvalid := id.valid
  rw [h] at hvalid
  exact Bool.false_ne_true hvalid

theorem trimmed_text (id : Identifier kind) : Text.trimmed id.text = id.text := by
  rw [Text.trimmed, Text.trim_of_forall fun c hc => isBlank_of_isIdChar (id.isIdChar_of_mem hc),
    String.ofList_toList]

/-- An identifier is read from its text. -/
theorem parse_text (id : Identifier kind) : parse kind id.text = .ok id := by
  rw [parse, dif_pos (by rw [trimmed_text, id.valid])]
  exact congrArg Except.ok (eq_of_text id.trimmed_text)

theorem parse?_text (id : Identifier kind) : parse? kind id.text = some id := by
  rw [parse?, parse_text]
  rfl

/-- A text stands for the identifier that remains of it without the blanks around it. -/
theorem parse?_eq_some_iff {raw : String} {id : Identifier kind} :
    parse? kind raw = some id ↔ Text.trim raw.toList = id.text.toList := by
  have htrimmed : Text.trimmed raw = id.text ↔ Text.trim raw.toList = id.text.toList := by
    rw [Text.trimmed, ← String.toList_inj, String.toList_ofList]
  rw [← htrimmed, parse?, parse]
  constructor
  · intro h
    split at h
    · exact congrArg Identifier.text (Option.some.inj h)
    · cases h
  · intro h
    rw [dif_pos (by rw [h, id.valid])]
    exact congrArg some (eq_of_text h)

end Identifier

end CrowdTask
