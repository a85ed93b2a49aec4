import CrowdTask.Json.Number

/-!
# Writing JSON texts

Strings escape the quote, the backslash and the control characters, and nothing else. The compact
form has no blanks; the indented form puts each item and member on a line of its own.

## Main definitions

* `CrowdTask.Json.compact`: the text of a value on one line.
* `CrowdTask.Json.indented`: the text of a value over several lines.
-/

namespace CrowdTask.Json

/-- How a string shows one character. -/
def escapeChar (c : Char) : List Char :=
  if c = '"' then ['\\', '"']
  else if c = '\\' then ['\\', '\\']
  else if c.toNat = 8 then ['\\', 'b']
  else if c.toNat = 12 then ['\\', 'f']
  else if c = '\n' then ['\\', 'n']
  else if c = '\r' then ['\\', 'r']
  else if c = '\t' then ['\\', 't']
  else if c.toNat < 0x20 then ['\\', 'u'] ++ Text.paddedHex 4 c.toNat
  else [c]

/-- A string in quotes. -/
def stringChars (s : String) : List Char := '"' :: s.toList.flatMap escapeChar ++ ['"']

/-- The words of the two truth values. -/
def boolChars (b : Bool) : List Char :=
  if b then ['t', 'r', 'u', 'e'] else ['f', 'a', 'l', 's', 'e']

/-- The word of the null value. -/
def nullChars : List Char := ['n', 'u', 'l', 'l']

mutual

/-- The characters of a value on one line. -/
def compactChars : Json → List Char
  | .null => nullChars
  | .bool b => boolChars b
  | .num n => n.render
  | .str s => stringChars s
  | .arr items => '[' :: compactItems items ++ [']']
  | .obj members => '{' :: compactMembers members ++ ['}']

/-- The items of an array, separated by commas. -/
def compactItems : List Json → List Char
  | [] => []
  | [v] => compactChars v
  | v :: w :: vs => compactChars v ++ ',' :: compactItems (w :: vs)

/-- The members of an object, separated by commas. -/
def compactMembers : List (String × Json) → List Char
  | [] => []
  | [(k, v)] => stringChars k ++ ':' :: compactChars v
  | (k, v) :: m :: ms => stringChars k ++ ':' :: compactChars v ++ ',' :: compactMembers (m :: ms)

end

/-- The start of a line at depth `n`, two blanks for each level. -/
def newLine (n : Nat) : List Char := '\n' :: List.replicate (2 * n) ' '

mutual

/-- The characters of a value over several lines, its inner lines starting at depth `n + 1`. -/
def indentedChars (n : Nat) : Json → List Char
  | .null => nullChars
  | .bool b => boolChars b
  | .num x => x.render
  | .str s => stringChars s
  | .arr [] => ['[', ']']
  | .arr (v :: vs) => '[' :: indentedItems (n + 1) (v :: vs) ++ newLine n ++ [']']
  | .obj [] => ['{', '}']
  | .obj (m :: ms) => '{' :: indentedMembers (n + 1) (m :: ms) ++ newLine n ++ ['}']

/-- The items of an array, each on a line of its own at depth `n`. -/
def indentedItems (n : Nat) : List Json → List Char
  | [] => []
  | [v] => newLine n ++ indentedChars n v
  | v :: w :: vs => newLine n ++ indentedChars n v ++ ',' :: indentedItems n (w :: vs)

/-- The members of an object, each on a line of its own at depth `n`. -/
def indentedMembers (n : Nat) : List (String × Json) → List Char
  | [] => []
  | [(k, v)] => newLine n ++ stringChars k ++ ':' :: ' ' :: indentedChars n v
  | (k, v) :: m :: ms =>
    newLine n ++ stringChars k ++ ':' :: ' ' :: indentedChars n v ++ ',' ::
      indentedMembers n (m :: ms)

end

/-- The text of a value on one line. -/
def compact (v : Json) : String := String.ofList v.compactChars

/-- The text of a value over several lines. -/
def indented (v : Json) : String := String.ofList (v.indentedChars 0)

end CrowdTask.Json
