import CrowdTask.Text.Blank

/-!
# Modes of reading a pattern

Two of the flags of a pattern change how the characters after them are read. In spaced mode blanks
mean nothing, and a number sign begins a comment that ends with the line. In wide mode, which is the
mode at the beginning, a pattern speaks of characters; otherwise it speaks of bytes, and only of
those that are characters by themselves.

## Main definitions

* `CrowdTask.Pattern.Mode`: a mode.
* `CrowdTask.Pattern.Mode.skip`: what is left after blanks and comments.
* `CrowdTask.Pattern.Mode.flagged`: the mode after flags.
-/

namespace CrowdTask.Pattern

/-- How the characters of a pattern are read. -/
structure Mode where
  spaced : Bool
  wide : Bool
  deriving DecidableEq, Repr

namespace Mode

/-- The mode at the beginning of a pattern. -/
def initial : Mode := ⟨false, true⟩

/-- What is left after blanks and comments, inside of a comment or outside. -/
def skipFrom (inComment : Bool) : List Char → List Char
  | [] => []
  | c :: cs =>
    if inComment then skipFrom (c ≠ '\n') cs
    else if Text.isBlank c then skipFrom false cs
    else if c = '#' then skipFrom true cs
    else c :: cs

/-- What is left after the characters that mean nothing. -/
def skip (m : Mode) (cs : List Char) : List Char := if m.spaced then skipFrom false cs else cs

/-- The next character that decides what a hyphen in brackets means. In spaced mode blanks are
passed over, and one number sign with the blanks after it; if nothing else is left, the character
after the hyphen counts. -/
def peek? (m : Mode) (cs : List Char) : Option Char :=
  if m.spaced then ((afterSign (cs.dropWhile Text.isBlank)).head?).or cs.head? else cs.head?
where
  afterSign : List Char → List Char
    | '#' :: cs => cs.dropWhile Text.isBlank
    | cs => cs

/-- The letters of flags. Only two of them change how a pattern is read. -/
def flagLetters : List Char := ['i', 'm', 's', 'U', 'u', 'R', 'x']

/-- Whether characters are flags: each stands once, those after a hyphen are switched off, and the
hyphen is not the last. -/
def areFlags (cs : List Char) : Bool :=
  cs.all (fun c => c = '-' || c ∈ flagLetters) && decide cs.Nodup && cs.getLast? ≠ some '-'

/-- What flags say about one letter, if they name it. -/
def setting? (letter : Char) (flags : List Char) : Option Bool :=
  if letter ∈ flags then some (letter ∈ flags.takeWhile (· ≠ '-')) else none

/-- The mode after flags. -/
def flagged (m : Mode) (flags : List Char) : Mode :=
  ⟨(setting? 'x' flags).getD m.spaced, (setting? 'u' flags).getD m.wide⟩

end Mode

end CrowdTask.Pattern
