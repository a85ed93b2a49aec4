/-!
# Binary numbers of 64 bits

A number is kept by its bits: a sign, eleven bits of exponent and 52 bits of fraction. Rounding is
exact arithmetic on natural numbers: a ratio is brought to the exponent at which its quotient has
53 binary digits, and the quotient is rounded to the nearest integer, ties to the even one.

## Main definitions

* `CrowdTask.Binary64`: a number by its bits.
* `CrowdTask.Binary64.magnitude`: the integer and the power of two whose product is its absolute
  value.
* `CrowdTask.Binary64.nearest?`: the bits of the number nearest to a ratio.
-/

namespace CrowdTask

/-- The value `mantissa * 2 ^ exponent`. -/
structure Dyadic where
  mantissa : Nat
  exponent : Int
  deriving DecidableEq, Repr

namespace Dyadic

/-- The numerator of the value, as a ratio. -/
def num (x : Dyadic) : Nat := x.mantissa * Nat.pow 2 x.exponent.toNat

/-- The denominator of the value, as a ratio. -/
def den (x : Dyadic) : Nat := Nat.pow 2 (-x.exponent).toNat

end Dyadic

/-- A number in the binary format of 64 bits. -/
structure Binary64 where
  bits : UInt64
  deriving DecidableEq, Repr

namespace Binary64

/-- The value of the sign bit: two to the power 63. -/
def signBit : Nat := 9223372036854775808

/-- The number of fractions for one exponent: two to the power 52. -/
def fractionSize : Nat := 4503599627370496

/-- The bits of the absolute value. -/
def magnitudeBits (x : Binary64) : Nat := x.bits.toNat % signBit

/-- Whether the sign bit is set. -/
def isNegative (x : Binary64) : Bool := signBit ≤ x.bits.toNat

/-- The eleven bits of the exponent. -/
def exponentField (x : Binary64) : Nat := x.magnitudeBits / fractionSize

/-- Whether the number is neither infinite nor undefined. -/
def isFinite (x : Binary64) : Bool := x.exponentField < 2047

/-- The absolute value of a finite number. -/
def magnitude (x : Binary64) : Dyadic :=
  let fraction := x.magnitudeBits % fractionSize
  if x.exponentField = 0 then ⟨fraction, -1074⟩
  else ⟨fraction + fractionSize, (x.exponentField : Int) - 1075⟩

/-- The integer nearest to `num / den`, a tie going to the even one. -/
def roundHalfEven (num den : Nat) : Nat :=
  let q := num / den
  let r := num % den
  if 2 * r < den ∨ (2 * r = den ∧ q % 2 = 0) then q else q + 1

/-- The exponent of the last binary digit that is kept of the ratio `num / den`: the quotient then
has 53 binary digits, or fewer at the least exponent. -/
def unitExponent (num den : Nat) : Int :=
  let q : Int := (num.log2 : Int) - den.log2 - 53
  let unit :=
    if num * Nat.pow 2 (-q).toNat < den * Nat.pow 2 q.toNat * (2 * fractionSize) then q else q + 1
  max (-1074) unit

/-- The bits of the number nearest to `num / den`, none when it lies beyond the largest one. -/
def nearest? (num den : Nat) : Option Nat :=
  if num = 0 then some 0
  else
    let q := unitExponent num den
    let m := roundHalfEven (num * Nat.pow 2 (-q).toNat) (den * Nat.pow 2 q.toNat)
    let bits := if m < fractionSize then m else (q + 1075).toNat * fractionSize + (m - fractionSize)
    if bits < 2047 * fractionSize then some bits else none

/-- The number of the given sign whose absolute value has the given bits. -/
def ofMagnitudeBits (negative : Bool) (bits : Nat) : Binary64 :=
  ⟨UInt64.ofNat ((if negative then signBit else 0) + bits)⟩

/-- The absolute value with the given bits. -/
def dyadicOfBits (bits : Nat) : Dyadic := (ofMagnitudeBits false bits).magnitude

end Binary64

end CrowdTask
