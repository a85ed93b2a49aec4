import CrowdTask.Text.CaseTable
import CrowdTask.Text.HiddenTable
import CrowdTask.Text.Numeral

/-!
# Quoted texts in diagnostics

A text in double quotes in which every character can be seen: the quote, the backslash and the
usual control characters are written after a backslash, all other characters without a visible
form by their code point in hexadecimal.

## Main definitions

* `CrowdTask.Text.quoted`: the quoted form of a text.
-/

namespace CrowdTask.Text

/-- Whether a quoted text shows `c` by its code point. -/
def isHidden (c : Char) : Bool :=
  c.toNat < 0x20 || (0x7F ≤ c.toNat && inRanges hiddenRanges c.toNat)

/-- How a quoted text shows one character. -/
def quotedChar (c : Char) : List Char :=
  if c = '"' then ['\\', '"']
  else if c = '\\' then ['\\', '\\']
  else if c.toNat = 0 then ['\\', '0']
  else if c = '\t' then ['\\', 't']
  else if c = '\n' then ['\\', 'n']
  else if c = '\r' then ['\\', 'r']
  else if isHidden c then
    ['\\', 'u', Char.ofNat 0x7B] ++ Nat.toDigits 16 c.toNat ++ [Char.ofNat 0x7D]
  else [c]

/-- The text in double quotes, with every character visible. -/
def quoted (s : String) : String :=
  String.ofList ('"' :: s.toList.flatMap quotedChar ++ ['"'])

end CrowdTask.Text
