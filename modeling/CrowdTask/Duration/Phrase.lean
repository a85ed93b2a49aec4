import CrowdTask.Duration.Unit
import CrowdTask.Text.Blank
import CrowdTask.Text.Lowercase
import CrowdTask.Text.Numeral

/-!
# Duration phrases

A phrase such as `2 days and 3 hours` is a sum of terms. Commas and the word `and` only separate
terms: they are dropped, and the remaining words are joined by single blanks. A term is a number,
whose digits may be separated by blanks, an optional fraction, and the word of a unit. The sum is
formed from left to right in words of 64 bits, and the first fault decides. A fraction has to come
out even in its grain. The result is the number of whole seconds, which must not be zero.

Nanoseconds that add up to more than a second are carried with care, and a sum that does not fit is
refused as too large. Where they add up to one second exactly, the second is carried when the sum is
stored; if it does not fit then, no answer is given at all.

## Main definitions

* `CrowdTask.DurationError`: why a phrase is refused.
* `CrowdTask.Duration.termsOf`: a phrase without its connectors.
* `CrowdTask.Duration.sum`: the sum of the terms of a phrase without connectors.
* `CrowdTask.Duration.parse`: the seconds of a phrase.
-/

namespace CrowdTask

/-- Why a duration phrase is refused; each cause holds the phrase without the blanks around it. A sum
that cannot be stored is beyond count, which breaks a program off. -/
inductive DurationError where
  | malformed (text : String)
  | overflow (text : String)
  | beyondCount (text : String)
  deriving DecidableEq, Repr

/-- The message for a refused phrase. -/
def DurationError.message : DurationError → String
  | .malformed text =>
    "'" ++ text ++ "' is not a valid duration; use weeks, days, hours, minutes or seconds " ++
      "(for example \"2 days and 3 hours\")"
  | .overflow text => "duration '" ++ text ++ "' is too large"
  | .beyondCount text => "duration '" ++ text ++ "' is beyond count"

/-- Whether a phrase breaks a program off. -/
def DurationError.breaksOff : DurationError → Bool
  | .beyondCount _ => true
  | _ => false

namespace Duration

/-- Why a sum of terms cannot be formed. -/
inductive Fault where
  | malformed
  | overflow
  | beyondCount
  deriving DecidableEq, Repr

/-- The numbers of a word of 64 bits lie below this limit. -/
def wordLimit : Nat := UInt64.size

/-- The number itself, if it fits a word. -/
def fit (n : Nat) : Except Fault Nat := if n < wordLimit then .ok n else .error .overflow

/-- A sum of amounts: whole seconds, and nanoseconds of the next one. -/
structure Elapsed where
  seconds : Nat
  nanos : Nat
  deriving DecidableEq, Repr

/-- The nanoseconds of a second. -/
def fullSecond : Nat := 1000000000

/-- The whole second after `seconds`, which has to be counted. -/
def Elapsed.next (seconds : Nat) : Except Fault Elapsed :=
  if seconds + 1 < wordLimit then .ok ⟨seconds + 1, 0⟩ else .error .beyondCount

/-- Adds an amount, carrying full seconds. -/
def Elapsed.add (e : Elapsed) : Amount → Except Fault Elapsed
  | .seconds n => do return ⟨← fit (e.seconds + n), e.nanos⟩
  | .nanos n => do
    let nanos ← fit (e.nanos + n)
    if nanos = fullSecond then Elapsed.next e.seconds
    else return ⟨← fit (e.seconds + nanos / fullSecond), nanos % fullSecond⟩

/-- An amount taken `n` times. -/
def times (n : Nat) : Amount → Except Fault Amount
  | .seconds a => do return .seconds (← fit (n * a))
  | .nanos a => do return .nanos (← fit (n * a))

/-- A fraction of an amount, which has to come out even. -/
def portion (numerator denominator : Nat) : Amount → Except Fault Amount
  | .seconds a => do return .seconds (← share (← fit (numerator * a)))
  | .nanos a => do return .nanos (← share (← fit (numerator * a)))
where
  share (n : Nat) : Except Fault Nat :=
    if n % denominator = 0 then .ok (n / denominator) else .error .overflow

/-- A decimal fraction of a number. -/
structure Fraction where
  numerator : Nat
  denominator : Nat
  deriving DecidableEq, Repr

/-- Adds a term to a sum. -/
def addTerm (e : Elapsed) (n : Nat) (fraction : Option Fraction) (word : List Char) :
    Except Fault Elapsed :=
  match TimeUnit.ofWord? word with
  | none => .error .malformed
  | some u => do
    let e ← e.add (← times n u.amount)
    match fraction with
    | none => return e
    | some f =>
      match u.fractionAmount? with
      | none => .error .overflow
      | some a => e.add (← portion f.numerator f.denominator a)

/-- The letters of the words for units. -/
def isUnitLetter (c : Char) : Bool :=
  ('a' ≤ c && c ≤ 'z') || ('A' ≤ c && c ≤ 'Z') || c = 'µ'

/-- The value of a digit. -/
def digitValue (c : Char) : Nat := c.toNat - '0'.toNat

/-- The digits of a number after digits of value `n`, blanks between them being skipped, and what
follows. -/
def readWhole (n : Nat) : List Char → Except Fault (Nat × List Char)
  | [] => .ok (n, [])
  | c :: cs =>
    if c.isDigit then
      if n * 10 + digitValue c < wordLimit then readWhole (n * 10 + digitValue c) cs
      else .error .overflow
    else if Text.isBlank c then readWhole n cs
    else .ok (n, c :: cs)

/-- The digits of a fraction, blanks between them being skipped, up to a letter or the end. -/
def readFraction (f : Fraction) : List Char → Except Fault (Fraction × List Char)
  | [] => .ok (f, [])
  | c :: cs =>
    if c.isDigit then
      if f.denominator * 10 < wordLimit then
        readFraction ⟨f.numerator * 10 + digitValue c, f.denominator * 10⟩ cs
      else .error .overflow
    else if Text.isBlank c then readFraction f cs
    else if isUnitLetter c then .ok (f, c :: cs)
    else .error .malformed

/-- An optional fraction: a point and at least one digit. -/
def readOptionalFraction : List Char → Except Fault (Option Fraction × List Char)
  | '.' :: cs => do
    let (f, rest) ← readFraction ⟨0, 1⟩ cs
    if f.denominator = 1 then .error .malformed else return (some f, rest)
  | cs => .ok (none, cs)

/-- Whether the word of a unit may end before these characters. -/
def endsWord : List Char → Bool
  | [] => true
  | c :: _ => c.isDigit || Text.isBlank c

/-- Adds the terms of a phrase to a sum, the first digit of the first term, of value `n`, having
been read. The first argument bounds the number of terms. -/
def sumFrom : Nat → Elapsed → Nat → List Char → Except Fault Elapsed
  | 0, _, _, _ => .error .malformed
  | bound + 1, e, n, cs => do
    let (n, cs) ← readWhole n cs
    let (fraction, cs) ← readOptionalFraction cs
    let rest := cs.dropWhile isUnitLetter
    if endsWord rest then
      let e ← addTerm e n fraction (cs.takeWhile isUnitLetter)
      match Text.trimStart rest with
      | [] => return e
      | c :: rest => if c.isDigit then sumFrom bound e (digitValue c) rest else .error .malformed
    else .error .malformed

/-- The sum of the terms of a phrase without connectors. Each term has a digit, so the length of
the phrase bounds their number. -/
def sum (cs : List Char) : Except Fault Elapsed :=
  match Text.trimStart cs with
  | [] => .error .malformed
  | c :: rest =>
    if c.isDigit then sumFrom cs.length ⟨0, 0⟩ (digitValue c) rest else .error .malformed

/-- The characters between the words of a phrase. -/
def isSeparator (c : Char) : Bool := Text.isBlank c || c = ','

/-- The word that may stand between terms. -/
def joiner : List Char := ['a', 'n', 'd']

/-- The words of a phrase, in small letters and without connectors, joined by single blanks. -/
def termsOf (cs : List Char) : List Char :=
  Text.joined [' ']
    ((Text.fields isSeparator (Text.lowercase cs)).filter fun w => w ≠ joiner)

/-- The seconds of a phrase. -/
def parse (text : String) : Except DurationError UInt64 :=
  let trimmed := Text.trim text.toList
  match sum (termsOf trimmed) with
  | .error .overflow => .error (.overflow (String.ofList trimmed))
  | .error .malformed => .error (.malformed (String.ofList trimmed))
  | .error .beyondCount => .error (.beyondCount (String.ofList trimmed))
  | .ok e =>
    if e.seconds = 0 then .error (.malformed (String.ofList trimmed))
    else .ok (UInt64.ofNat e.seconds)

end Duration

end CrowdTask
