/-!
# Blanks and words

Blank characters are those with the Unicode property `White_Space`. A text is cut into *fields* at
the characters of a class; its *words* are its fields at blanks.

## Main definitions

* `CrowdTask.Text.isBlank`: the class of blanks.
* `CrowdTask.Text.trim`: a text without the blanks at its two ends.
* `CrowdTask.Text.fields`, `CrowdTask.Text.words`: the non-empty pieces between separators.
* `CrowdTask.Text.joined`: pieces with one separator text between neighbours.
-/

namespace CrowdTask.Text

/-- The characters with the Unicode property `White_Space`. -/
def isBlank (c : Char) : Bool :=
  let n := c.toNat
  (9 ≤ n && n ≤ 13) || n == 0x20 || n == 0x85 || n == 0xA0 || n == 0x1680 ||
    (0x2000 ≤ n && n ≤ 0x200A) || n == 0x2028 || n == 0x2029 || n == 0x202F || n == 0x205F ||
    n == 0x3000

/-- Removes the leading blanks. -/
def trimStart (cs : List Char) : List Char := cs.dropWhile isBlank

/-- Removes the characters of the class `p` at the end. -/
def dropEndWhile (p : Char → Bool) (cs : List Char) : List Char :=
  (cs.reverse.dropWhile p).reverse

/-- Removes the characters of the class `p` at both ends. -/
def strip (p : Char → Bool) (cs : List Char) : List Char := dropEndWhile p (cs.dropWhile p)

/-- Removes the blanks at both ends. -/
def trim (cs : List Char) : List Char := strip isBlank cs

/-- Puts `c` in front of the first of the pieces. -/
def pushFirst (c : Char) : List (List Char) → List (List Char)
  | [] => [[c]]
  | f :: fs => (c :: f) :: fs

/-- The maximal runs of characters that are no separators. -/
def fields (sep : Char → Bool) : List Char → List (List Char)
  | [] => []
  | c :: cs =>
    if sep c then fields sep cs
    else
      match cs with
      | [] => [[c]]
      | d :: _ => if sep d then [c] :: fields sep cs else pushFirst c (fields sep cs)

/-- The maximal runs of characters that are no blanks. -/
def words (cs : List Char) : List (List Char) := fields isBlank cs

/-- The pieces in order, with `sep` between neighbours. -/
def joined (sep : List Char) : List (List Char) → List Char
  | [] => []
  | [f] => f
  | f :: g :: fs => f ++ sep ++ joined sep (g :: fs)

/-- The text of `s` without the blanks at its two ends. -/
def trimmed (s : String) : String := String.ofList (trim s.toList)

/-- Whether `s` has no character other than blanks. -/
def isBlankText (s : String) : Bool := s.toList.all isBlank

end CrowdTask.Text
