import CrowdTask.Text.Blank
import CrowdTask.Text.Numeral

/-!
# Rewards

A reward is a whole number of cents. It is read from an amount of dollars, optionally after a
dollar sign, with at most two digits of cents.

## Main definitions

* `CrowdTask.Reward`: a reward.
* `CrowdTask.Reward.parse`: the reward in a text.
* `CrowdTask.Reward.dollars`, `CrowdTask.Reward.display`: the amount with two digits of cents.
-/

namespace CrowdTask

/-- What a worker is paid for an assignment. -/
structure Reward where
  cents : UInt64
  deriving DecidableEq, Repr

/-- A text that is no amount of dollars. -/
structure RewardError where
  raw : String
  deriving DecidableEq, Repr

/-- The message for a text that is no amount of dollars. -/
def RewardError.message (e : RewardError) : String :=
  "invalid reward '" ++ e.raw ++ "', expected a dollar amount such as 0.50"

namespace Reward

/-- The text without one leading dollar sign and the blanks after it. -/
def dropSign : List Char → List Char
  | '$' :: cs => Text.trimStart cs
  | cs => Text.trimStart cs

/-- The value of a run of digits, zero if there are none, if it fits 64 bits. -/
def amount? (ds : List Char) : Option Nat :=
  (Text.ofDigitsFrom? 10 0 ds).filter (· < UInt64.size)

/-- The cents of an amount whose dollars and cents are given by runs of digits. A single digit of
cents counts tens. -/
def cents? (whole fraction : List Char) : Option Nat :=
  if whole.isEmpty && fraction.isEmpty then none
  else if 2 < fraction.length then none
  else do
    let dollars ← amount? whole
    let cents ← amount? (fraction ++ List.replicate (2 - fraction.length) '0')
    some (dollars * 100 + cents)

/-- The reward in a text. -/
def parse (raw : String) : Except RewardError Reward :=
  let body := dropSign (Text.trim raw.toList)
  let whole := body.takeWhile (· ≠ '.')
  let fraction := (body.dropWhile (· ≠ '.')).drop 1
  match (cents? whole fraction).filter (· < UInt64.size) with
  | some c => .ok ⟨UInt64.ofNat c⟩
  | none => .error ⟨raw⟩

/-- The amount in dollars, with two digits of cents. -/
def dollarChars (r : Reward) : List Char :=
  Text.decimal (r.cents.toNat / 100) ++ '.' :: Text.padded 2 (r.cents.toNat % 100)

/-- The amount in dollars, with two digits of cents. -/
def dollars (r : Reward) : String := String.ofList r.dollarChars

/-- The amount in dollars after a dollar sign. -/
def display (r : Reward) : String := String.ofList ('$' :: r.dollarChars)

end Reward

end CrowdTask
