import CrowdTask.Json.Basic
import CrowdTask.Decimal.Layout

/-!
# Numbers in JSON texts

A number is written as an optional minus sign, the digits of its whole part, and optionally a
fraction and a power of ten. Whole numbers that fit 64 bits are kept exactly. All others become
binary numbers: as many leading digits as fit 64 bits form a significand, and the significand is
scaled by a power of ten, each step being rounded to the nearest binary number.

## Main definitions

* `CrowdTask.Json.NumberText`: a number as it is written.
* `CrowdTask.Json.NumberText.toNumber?`: its value, none when it is too large.
* `CrowdTask.Json.Number.render`: the text of a number.
-/

namespace CrowdTask.Json

/-- A number as it is written: the digits of its parts, and the sign of the power of ten. -/
structure NumberText where
  negative : Bool
  whole : List Nat
  fraction : List Nat
  exponent : Option (Bool × List Nat)
  deriving DecidableEq, Repr

/-- Takes digits into the significand `n` while it stays below `limit`. Returns the significand and
the digits that are left. -/
def takeDigits (limit : Nat) : Nat → List Nat → Nat × List Nat
  | n, [] => (n, [])
  | n, d :: ds => if n * 10 + d < limit then takeDigits limit (n * 10 + d) ds else (n, d :: ds)

/-- The value of a run of digits. -/
def digitsValue (ds : List Nat) : Nat := ds.foldl (fun n d => n * 10 + d) 0

/-- The bits of the binary number nearest to `10 ^ k`, for `k` at most 308. -/
def powerOfTen (k : Nat) : Nat := (Binary64.nearest? (Nat.pow 10 k) 1).getD 0

/-- The bits of the product of two magnitudes, none when it is too large. -/
def timesMagnitude? (x y : Nat) : Option Nat :=
  let a := Binary64.dyadicOfBits x
  let b := Binary64.dyadicOfBits y
  Binary64.nearest? (a.num * b.num) (a.den * b.den)

/-- The bits of the quotient of two magnitudes, the second one not zero. -/
def overMagnitude (x y : Nat) : Nat :=
  let a := Binary64.dyadicOfBits x
  let b := Binary64.dyadicOfBits y
  (Binary64.nearest? (a.num * b.den) (a.den * b.num)).getD 0

/-- The bits of the significand times `10 ^ e`. The significand and the power are rounded first,
and a power below `10 ^ -308` is divided by in two steps. Below `10 ^ -616` nothing remains. -/
def scaled? (significand : Nat) (e : Int) : Option Nat :=
  let f := (Binary64.nearest? significand 1).getD 0
  if 308 < e then (if f = 0 then some 0 else none)
  else if 0 ≤ e then timesMagnitude? f (powerOfTen e.toNat)
  else if -308 ≤ e then some (overMagnitude f (powerOfTen (-e).toNat))
  else if -616 ≤ e then
    some (overMagnitude (overMagnitude f (powerOfTen 308)) (powerOfTen (-e - 308).toNat))
  else some 0

/-- The powers of ten that a number may state lie below this limit. -/
def exponentLimit : Nat := 2147483648

namespace NumberText

/-- The number with the sign of the text and the given bits of the absolute value. -/
def double (t : NumberText) (bits : Nat) : Number := .double (.ofMagnitudeBits t.negative bits)

/-- The value of a whole number that fits 64 bits. Minus zero, and negative numbers that need the
64th bit, are binary numbers. -/
def toInteger (t : NumberText) (n : Nat) : Number :=
  if t.negative then
    if n = 0 then t.double 0
    else
      match WideInt.ofInt? (-(n : Int)) with
      | some i => .int i
      | none => t.double ((Binary64.nearest? n 1).getD 0)
  else
    match WideInt.ofInt? n with
    | some i => .int i
    | none => t.double ((Binary64.nearest? n 1).getD 0)

/-- The value of the number, none when it is beyond the largest binary number. -/
def toNumber? (t : NumberText) : Option Number :=
  let (head, dropped) := takeDigits UInt64.size 0 t.whole
  if dropped.isEmpty && t.fraction.isEmpty && t.exponent.isNone then some (t.toInteger head)
  else
    let (significand, unread) := takeDigits UInt64.size head t.fraction
    let shift : Int := dropped.length - ((t.fraction.length - unread.length : Nat) : Int)
    match t.exponent with
    | none => (scaled? significand shift).map t.double
    | some (negative, ds) =>
      let e := digitsValue ds
      if e < exponentLimit then
        (scaled? significand (if negative then shift - e else shift + e)).map t.double
      else if significand = 0 ∨ negative then some (t.double 0)
      else none

end NumberText

/-- Binary numbers are written without a power of ten from `10 ^ -5` up to `10 ^ 16`. -/
def numberLayout : Decimal.Layout := ⟨-5, 15⟩

namespace Number

/-- The text of a number. -/
def render : Number → List Char
  | .int n => Text.decimalInt n.val
  | .double x => numberLayout.render x

/-- The number as a word of 64 bits without sign, if it is such an integer. -/
def toUInt64? : Number → Option UInt64
  | .int n => n.toUInt64?
  | .double _ => none

end Number

end CrowdTask.Json
