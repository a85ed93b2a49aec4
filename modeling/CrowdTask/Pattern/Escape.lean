import CrowdTask.Pattern.Mode
import CrowdTask.Text.Numeral

/-!
# Escapes

A backslash gives the characters after it another meaning: a sign stands for itself, a letter for a
control character, a class of characters or a place in the text, and a letter followed by
hexadecimal digits for the character with this code point.

## Main definitions

* `CrowdTask.Pattern.Atom`: what an escape stands for.
* `CrowdTask.Pattern.readEscape?`: the meaning of the characters after a backslash.
-/

namespace CrowdTask.Pattern

/-- The smallest parts of a pattern: one character, a class of characters, a place in the text. -/
inductive Atom where
  | char (c : Char)
  | category
  | place
  deriving DecidableEq, Repr

/-- Whether a sign after a backslash stands for itself: every character of ASCII that is no letter,
no digit and no angle bracket. -/
def isEscapable (c : Char) : Bool :=
  c.toNat < 128 && !c.isAlphanum && c ≠ '<' && c ≠ '>'

/-- The control characters that have letters. -/
def controlLetters : List (Char × Nat) :=
  [('a', 7), ('f', 12), ('t', 9), ('n', 10), ('r', 13), ('v', 11)]

/-- The letters of the general categories of characters. -/
def categoryLetters : List Char := ['c', 'l', 'm', 'n', 'p', 's', 'z']

/-- The value of a number of hexadecimal digits, read after digits of value `n`. -/
def readHex? (m : Mode) : Nat → Nat → List Char → Option (Nat × List Char)
  | 0, n, cs => some (n, m.skip cs)
  | k + 1, n, cs =>
    match m.skip cs with
    | [] => none
    | c :: rest => (Text.digitIn? 16 c).bind fun d => readHex? m k (n * 16 + d) rest

/-- The character whose code point has the given number of digits. One of two digits is a byte
where bytes are spoken of, and has to be a character by itself. -/
def readCodePoint? (m : Mode) (digits : Nat) (cs : List Char) : Option (Atom × List Char) := do
  let (n, rest) ← readHex? m digits 0 cs
  guard n.isValidChar
  guard (m.wide || digits ≠ 2 || n < 128)
  return (.char (Char.ofNat n), rest)

/-- The general category whose letter comes next. -/
def readCategory? (m : Mode) (cs : List Char) : Option (Atom × List Char) :=
  match m.skip cs with
  | [] => none
  | c :: rest => if m.wide && c.toLower ∈ categoryLetters then some (.category, m.skip rest) else none

/-- The meaning of the characters after a backslash, and what follows them. The complement of a
class holds characters of more than one byte, and the ends of words are those of wide words, which
are not looked for: so these are refused in one of the modes. -/
def readEscape? (m : Mode) : List Char → Option (Atom × List Char)
  | [] => none
  | c :: cs =>
    if c = 'x' then readCodePoint? m 2 cs
    else if c = 'u' then readCodePoint? m 4 cs
    else if c = 'U' then readCodePoint? m 8 cs
    else if c = 'p' ∨ c = 'P' then readCategory? m cs
    else if c ∈ ['d', 's', 'w'] then some (.category, cs)
    else if c ∈ ['D', 'S', 'W'] then if m.wide then some (.category, cs) else none
    else if isEscapable c then some (.char c, cs)
    else if c = 'A' ∨ c = 'z' then some (.place, cs)
    else if c ∈ ['b', 'B', '<', '>'] then if m.wide then none else some (.place, cs)
    else (controlLetters.lookup c).map fun n => (.char (Char.ofNat n), cs)

end CrowdTask.Pattern
