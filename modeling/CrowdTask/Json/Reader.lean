import CrowdTask.Json.Raw
import CrowdTask.Text.Numeral

/-!
# Reading JSON texts

The grammar of JSON: blanks are spaces, tabs and line ends; strings hold no raw control
characters; numbers have no leading zeros and no empty parts. After the value only blanks may
follow.

## Main definitions

* `CrowdTask.Json.Raw.read?`: the grammatical form of a text.
* `CrowdTask.Json.read?`: the value of a text.
* `CrowdTask.Json.readBytes?`: the value of a text given by its UTF-8 bytes.
-/

namespace CrowdTask.Json

/-- The blanks between the tokens of a text. -/
def isSpace (c : Char) : Bool := c = ' ' || c = '\n' || c = '\t' || c = '\r'

/-- Skips the blanks in front of a token. -/
def skipSpace (cs : List Char) : List Char := cs.dropWhile isSpace

/-- The character that a letter after a backslash stands for. -/
def escaped? : Char → Option Char
  | '"' => some '"'
  | '\\' => some '\\'
  | '/' => some '/'
  | 'b' => some (Char.ofNat 8)
  | 'f' => some (Char.ofNat 12)
  | 'n' => some '\n'
  | 'r' => some '\r'
  | 't' => some '\t'
  | _ => none

/-- The rest of a string after its opening quote, and what follows the closing one. -/
def readPieces : List Char → Option (List Piece × List Char)
  | [] => none
  | '"' :: cs => some ([], cs)
  | '\\' :: 'u' :: a :: b :: c :: d :: cs =>
    match Text.ofDigits? 16 [a, b, c, d], readPieces cs with
    | some n, some (ps, rest) => some (.unit n :: ps, rest)
    | _, _ => none
  | '\\' :: e :: cs =>
    match escaped? e, readPieces cs with
    | some c, some (ps, rest) => some (.char c :: ps, rest)
    | _, _ => none
  | c :: cs =>
    if c = '\\' ∨ c.toNat < 0x20 then none
    else (readPieces cs).map fun (ps, rest) => (.char c :: ps, rest)

/-- The longest run of digits, and what follows it. -/
def readDigits : List Char → List Nat × List Char
  | [] => ([], [])
  | c :: cs =>
    match Text.digitIn? 10 c with
    | some d => (d :: (readDigits cs).1, (readDigits cs).2)
    | none => ([], c :: cs)

/-- The digits of a whole part: a single zero, or digits that do not start with zero. -/
def readWhole (cs : List Char) : Option (List Nat × List Char) :=
  match readDigits cs with
  | ([], _) => none
  | (0 :: _ :: _, _) => none
  | r => some r

/-- An optional fraction: a point and at least one digit. -/
def readFraction : List Char → Option (List Nat × List Char)
  | '.' :: cs =>
    match readDigits cs with
    | ([], _) => none
    | r => some r
  | cs => some ([], cs)

/-- The digits of a power of ten after its sign. -/
def readPower (negative : Bool) (cs : List Char) : Option (Option (Bool × List Nat) × List Char) :=
  match readDigits cs with
  | ([], _) => none
  | (ds, rest) => some (some (negative, ds), rest)

/-- An optional power of ten: the letter e, an optional sign and at least one digit. -/
def readExponent : List Char → Option (Option (Bool × List Nat) × List Char)
  | c :: cs =>
    if c = 'e' ∨ c = 'E' then
      match cs with
      | '-' :: ds => readPower true ds
      | '+' :: ds => readPower false ds
      | ds => readPower false ds
    else some (none, c :: cs)
  | [] => some (none, [])

/-- A number without its sign. -/
def readUnsigned (negative : Bool) (cs : List Char) : Option (NumberText × List Char) := do
  let (whole, cs) ← readWhole cs
  let (fraction, cs) ← readFraction cs
  let (exponent, cs) ← readExponent cs
  some (⟨negative, whole, fraction, exponent⟩, cs)

/-- A number. -/
def readNumber : List Char → Option (NumberText × List Char)
  | '-' :: cs => readUnsigned true cs
  | cs => readUnsigned false cs

namespace Raw

mutual

/-- A value and what follows it. The first argument bounds the number of steps. -/
def readValue : Nat → List Char → Option (Raw × List Char)
  | 0, _ => none
  | n + 1, cs =>
    match skipSpace cs with
    | 'n' :: 'u' :: 'l' :: 'l' :: rest => some (.null, rest)
    | 't' :: 'r' :: 'u' :: 'e' :: rest => some (.bool true, rest)
    | 'f' :: 'a' :: 'l' :: 's' :: 'e' :: rest => some (.bool false, rest)
    | '"' :: rest => (readPieces rest).map fun (ps, rest) => (.str ps, rest)
    | '[' :: rest =>
      match skipSpace rest with
      | ']' :: rest => some (.arr [], rest)
      | rest => (readItems n rest).map fun (rs, rest) => (.arr rs, rest)
    | '{' :: rest =>
      match skipSpace rest with
      | '}' :: rest => some (.obj [], rest)
      | rest => (readMembers n rest).map fun (ms, rest) => (.obj ms, rest)
    | rest => (readNumber rest).map fun (t, rest) => (.num t, rest)

/-- The items of an array up to its closing bracket. -/
def readItems : Nat → List Char → Option (List Raw × List Char)
  | 0, _ => none
  | n + 1, cs =>
    match readValue n cs with
    | none => none
    | some (r, rest) =>
      match skipSpace rest with
      | ',' :: rest => (readItems n rest).map fun (rs, rest) => (r :: rs, rest)
      | ']' :: rest => some ([r], rest)
      | _ => none

/-- The members of an object up to its closing brace. -/
def readMembers : Nat → List Char → Option (List (List Piece × Raw) × List Char)
  | 0, _ => none
  | n + 1, cs =>
    match skipSpace cs with
    | '"' :: rest =>
      match readPieces rest with
      | none => none
      | some (key, rest) =>
        match skipSpace rest with
        | ':' :: rest =>
          match readValue n rest with
          | none => none
          | some (r, rest) =>
            match skipSpace rest with
            | ',' :: rest => (readMembers n rest).map fun (ms, rest) => ((key, r) :: ms, rest)
            | '}' :: rest => some ([(key, r)], rest)
            | _ => none
        | _ => none
    | _ => none

end

/-- The grammatical form of a text. Each step but the last reads a character, or is followed by
one that does, so twice the length of the text bounds their number. -/
def readChars? (cs : List Char) : Option Raw :=
  match readValue (2 * cs.length + 2) cs with
  | some (r, rest) => if (skipSpace rest).isEmpty then some r else none
  | none => none

/-- The grammatical form of a text. -/
def read? (text : String) : Option Raw := readChars? text.toList

end Raw

/-- The value of a text. -/
def read? (text : String) : Option Json := (Raw.read? text).bind (Raw.toJson? nestingLimit)

/-- The value of a text given by its UTF-8 bytes. -/
def readBytes? (bytes : ByteArray) : Option Json := (String.fromUTF8? bytes).bind read?

end CrowdTask.Json
