import CrowdTask.Decimal.Shortest
import CrowdTask.Text.Numeral

/-!
# The layout of decimals

Which digits are written is settled by `CrowdTask.Decimal.shortest`; a layout says how: between
two orders of magnitude the point stands among the digits, outside of them a power of ten follows.

## Main definitions

* `CrowdTask.Decimal.Layout`: the range of orders written without a power of ten.
* `CrowdTask.Decimal.Layout.render`: the text of a binary number.
-/

namespace CrowdTask.Decimal

/-- A decimal whose first digit stands for `10 ^ k` is written without a power of ten when `k` is
at least `lowest` and at most `highest`. -/
structure Layout where
  lowest : Int
  highest : Int

namespace Layout

/-- Digits with a point after the first `place` of them. Missing digits on either side are zeros,
and at least one digit follows the point. -/
def positional (ds : List Char) (place : Int) : List Char :=
  if place ≤ 0 then ['0', '.'] ++ List.replicate (-place).toNat '0' ++ ds
  else if ds.length ≤ place.toNat then
    ds ++ List.replicate (place.toNat - ds.length) '0' ++ ['.', '0']
  else ds.take place.toNat ++ ['.'] ++ ds.drop place.toNat

/-- Digits with a point after the first one, and the power of ten of the first one with its sign. -/
def scientific (ds : List Char) (order : Int) : List Char :=
  let lead := match ds with
    | [] => []
    | [d] => [d]
    | d :: e :: rest => d :: '.' :: e :: rest
  lead ++ ['e', if order < 0 then '-' else '+'] ++ Text.decimal order.natAbs

/-- The text of a positive decimal. -/
def renderDecimal (l : Layout) (d : Decimal) : List Char :=
  let ds := Text.decimal d.digits
  let place : Int := d.exponent + ds.length
  if l.lowest ≤ place - 1 ∧ place - 1 ≤ l.highest then positional ds place
  else scientific ds (place - 1)

/-- The text of a finite number: the shortest digits that read back, after a minus sign when the
sign bit is set. -/
def render (l : Layout) (x : Binary64) : List Char :=
  let body :=
    if x.magnitude.mantissa = 0 then ['0', '.', '0'] else l.renderDecimal (shortest x.magnitude)
  if x.isNegative then '-' :: body else body

end Layout

end CrowdTask.Decimal
