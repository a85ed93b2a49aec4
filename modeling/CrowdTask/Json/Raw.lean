import CrowdTask.Json.Number

/-!
# JSON texts before they are given values

A text that follows the grammar of JSON, with numbers and strings as they are written. Members
that a reader does not ask for stay in this form, so neither the size of their numbers nor their
nesting nor the pairing of their surrogates is looked at.

## Main definitions

* `CrowdTask.Json.Piece`: a character of a string, or an escaped unit of 16 bits.
* `CrowdTask.Json.Raw`: a text in grammatical form.
* `CrowdTask.Json.Raw.toJson?`: its value, up to a number of nested containers.
-/

namespace CrowdTask.Json

/-- A character of a string, or a unit of 16 bits given by four hexadecimal digits. -/
inductive Piece where
  | char (c : Char)
  | unit (n : Nat)
  deriving DecidableEq, Repr

/-- Whether `n` is the first half of a surrogate pair. -/
def isHighSurrogate (n : Nat) : Bool := 0xD800 ≤ n && n ≤ 0xDBFF

/-- Whether `n` is the second half of a surrogate pair. -/
def isLowSurrogate (n : Nat) : Bool := 0xDC00 ≤ n && n ≤ 0xDFFF

/-- The character of a surrogate pair. -/
def pairedChar (high low : Nat) : Char :=
  Char.ofNat (0x10000 + (high - 0xD800) * 0x400 + (low - 0xDC00))

/-- The characters of a string, none when half of a surrogate pair stands alone. -/
def decodePieces : List Piece → Option (List Char)
  | [] => some []
  | .char c :: ps => (decodePieces ps).map (c :: ·)
  | .unit n :: ps =>
    if isLowSurrogate n then none
    else if isHighSurrogate n then
      match ps with
      | .unit m :: rest =>
        if isLowSurrogate m then (decodePieces rest).map (pairedChar n m :: ·) else none
      | _ => none
    else (decodePieces ps).map (Char.ofNat n :: ·)

/-- The text of a string, none when half of a surrogate pair stands alone. -/
def pieceText? (ps : List Piece) : Option String := (decodePieces ps).map String.ofList

/-- A text in grammatical form. -/
inductive Raw where
  | null
  | bool (b : Bool)
  | num (t : NumberText)
  | str (ps : List Piece)
  | arr (items : List Raw)
  | obj (members : List (List Piece × Raw))

/-- The number of containers that may be nested in a text whose value is asked for. -/
def nestingLimit : Nat := 127

namespace Raw

mutual

/-- The value of a text with at most `levels` nested containers, none when it has more of them, a
number is too large or half of a surrogate pair stands alone. The members of an object are ordered
by key, and of several with one key the last one stays. -/
def toJson? (levels : Nat) : Raw → Option Json
  | .null => some .null
  | .bool b => some (.bool b)
  | .num t => t.toNumber?.map .num
  | .str ps => (pieceText? ps).map .str
  | .arr items => if levels = 0 then none else (itemsToJson? (levels - 1) items).map .arr
  | .obj members =>
    if levels = 0 then none
    else (membersToJson? (levels - 1) members).map fun ms => .obj (Members.ofList ms)

/-- The values of the items of an array. -/
def itemsToJson? (levels : Nat) : List Raw → Option (List Json)
  | [] => some []
  | r :: rs =>
    match toJson? levels r, itemsToJson? levels rs with
    | some v, some vs => some (v :: vs)
    | _, _ => none

/-- The keys and values of the members of an object, in the order of the text. -/
def membersToJson? (levels : Nat) : List (List Piece × Raw) → Option (List (String × Json))
  | [] => some []
  | (k, r) :: rs =>
    match pieceText? k, toJson? levels r, membersToJson? levels rs with
    | some key, some v, some vs => some ((key, v) :: vs)
    | _, _, _ => none

end

end Raw

end CrowdTask.Json
