import CrowdTask.Text.Numeral

/-!
# Character references

In marked-up text six characters are written as references. Reading understands the five named
references and references by number; an ampersand that begins no reference stands for itself.

## Main definitions

* `CrowdTask.Markup.escape`: a text with references for its six special characters.
* `CrowdTask.Markup.unescape`: a text with its references replaced.
-/

namespace CrowdTask.Markup

/-- How one character is written. -/
def escapeChar : Char → List Char
  | '&' => "&amp;".toList
  | '<' => "&lt;".toList
  | '>' => "&gt;".toList
  | '"' => "&quot;".toList
  | '\'' => "&#x27;".toList
  | '/' => "&#x2f;".toList
  | c => [c]

/-- A text with references for its six special characters. -/
def escape (cs : List Char) : List Char := cs.flatMap escapeChar

/-- The named references. -/
def named : List (String × Char) :=
  [("lt", '<'), ("gt", '>'), ("amp", '&'), ("quot", '"'), ("apos", '\'')]

/-- The character of a code point. -/
def scalar? (n : Nat) : Option Char := if n.isValidChar then some (Char.ofNat n) else none

/-- The number of a reference: a decimal or hexadecimal numeral of 32 bits. -/
def number? : List Char → Option Nat
  | 'x' :: ds => Text.unsigned? 16 UInt32.size ds
  | 'X' :: ds => Text.unsigned? 16 UInt32.size ds
  | ds => Text.unsigned? 10 UInt32.size ds

/-- The character of a reference without its ampersand and semicolon. -/
def entity? : List Char → Option Char
  | '#' :: cs => (number? cs).bind scalar?
  | cs => (named.find? fun p => p.1.toList = cs).map (·.2)

/-- The character of the reference that begins after an ampersand, and the number of characters of
the reference. -/
def reference? (cs : List Char) : Option (Char × Nat) :=
  let name := cs.takeWhile (· ≠ ';')
  if name.length < cs.length then (entity? name).map fun c => (c, name.length + 1) else none

/-- Skips `skip` characters, then replaces the references in the rest of a text. -/
def unescapeAfter (skip : Nat) : List Char → List Char
  | [] => []
  | c :: cs =>
    match skip with
    | n + 1 => unescapeAfter n cs
    | 0 =>
      if c = '&' then
        match reference? cs with
        | some (d, n) => d :: unescapeAfter n cs
        | none => '&' :: unescapeAfter 0 cs
      else c :: unescapeAfter 0 cs

/-- A text with its references replaced. -/
def unescape (cs : List Char) : List Char := unescapeAfter 0 cs

end CrowdTask.Markup
