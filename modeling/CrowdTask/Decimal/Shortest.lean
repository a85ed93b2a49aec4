import CrowdTask.Decimal.Binary64

/-!
# The shortest decimal that reads back

Among the decimals that round to a given binary number, one with the fewest digits is chosen, and
of those the nearest to the number. For each count of digits only the two neighbours of the number
on that decimal grid have to be tested.

## Main definitions

* `CrowdTask.Decimal`: an integer times a power of ten.
* `CrowdTask.Decimal.shortest`: the shortest decimal for a positive finite number.
-/

namespace CrowdTask

/-- The value `digits * 10 ^ exponent`. -/
structure Decimal where
  digits : Nat
  exponent : Int
  deriving DecidableEq, Repr

namespace Decimal

/-- The number of decimal digits of `n`. -/
def width (n : Nat) : Nat := (Nat.toDigits 10 n).length

/-- The least `p` with `num / den < 10 ^ p`, for a positive ratio. -/
def leadingPlace (num den : Nat) : Int :=
  if den ≤ num then width (num / den) else 1 - (width ((den - 1) / num) : Int)

/-- The decimals that round to a number, as an interval of ratios over one denominator. -/
structure Span where
  low : Nat
  value : Nat
  high : Nat
  den : Nat
  closed : Bool

/-- The decimals that round to the positive number of the given magnitude. The ends lie halfway to
the two neighbours and belong to the interval when the mantissa is even. -/
def Span.of (x : Dyadic) : Span :=
  let half := Nat.pow 2 x.exponent.toNat
  let belowIsNarrow := x.mantissa = Binary64.fractionSize ∧ -1074 < x.exponent
  { low := 4 * x.num - (if belowIsNarrow then half else 2 * half)
    value := 4 * x.num
    high := 4 * x.num + 2 * half
    den := 4 * x.den
    closed := x.mantissa % 2 = 0 }

/-- Whether `n / d` lies in the interval. -/
def Span.holds (s : Span) (n d : Nat) : Bool :=
  if s.closed then s.low * d ≤ n * s.den && n * s.den ≤ s.high * d
  else s.low * d < n * s.den && n * s.den < s.high * d

/-- The decimal of the grid with unit `10 ^ e` that rounds to the number and is nearest to it. -/
def Span.onGrid? (s : Span) (e : Int) : Option Nat :=
  let up := Nat.pow 10 e.toNat
  let down := Nat.pow 10 (-e).toNat
  let floor := s.value * down / (s.den * up)
  let below := s.holds (floor * up) down
  let above := s.holds ((floor + 1) * up) down
  let twice := 2 * s.value * down
  let middle := (2 * floor + 1) * s.den * up
  if below && above then
    if twice < middle || (twice = middle && floor % 2 = 0) then some floor else some (floor + 1)
  else if below then some floor
  else if above then some (floor + 1)
  else none

/-- The first hit on the grids of `k`, `k + 1`, … digits, at most `n` of them. -/
def Span.search (s : Span) (place : Int) : Nat → Nat → Option Decimal
  | 0, _ => none
  | n + 1, k =>
    match s.onGrid? (place - k) with
    | some d => some ⟨d, place - k⟩
    | none => Span.search s place n (k + 1)

/-- The same value without trailing zeros, at most `n` of them. -/
def dropZeros : Nat → Decimal → Decimal
  | 0, d => d
  | n + 1, d =>
    if d.digits % 10 = 0 ∧ d.digits ≠ 0 then dropZeros n ⟨d.digits / 10, d.exponent + 1⟩ else d

/-- The shortest decimal that reads back as the positive number of the given magnitude. Seventeen
digits always suffice. -/
def shortest (x : Dyadic) : Decimal :=
  let s := Span.of x
  dropZeros 17 ((s.search (leadingPlace x.num x.den) 17 1).getD ⟨0, 0⟩)

end Decimal

end CrowdTask
