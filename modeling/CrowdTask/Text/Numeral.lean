/-!
# Numerals

Reading and writing of whole numbers in a base up to sixteen. A numeral that stands for a number
of a fixed width is refused when its value does not fit.

## Main definitions

* `CrowdTask.Text.ofDigits?`: the value of a non-empty run of digits.
* `CrowdTask.Text.unsigned?`: a run of digits, optionally after a plus sign, below a limit.
* `CrowdTask.Text.signed64?`: a signed numeral of 64 bits.
* `CrowdTask.Text.isReal`: the numerals of real numbers.
* `CrowdTask.Text.decimal`, `CrowdTask.Text.padded`: the digits of a number.
-/

namespace CrowdTask.Text

/-- The value of one digit, letters standing for ten to fifteen. -/
def digitValue? (c : Char) : Option Nat :=
  if '0' ≤ c ∧ c ≤ '9' then some (c.toNat - '0'.toNat)
  else if 'a' ≤ c ∧ c ≤ 'f' then some (c.toNat - 'a'.toNat + 10)
  else if 'A' ≤ c ∧ c ≤ 'F' then some (c.toNat - 'A'.toNat + 10)
  else none

/-- The value of one digit in base `base`. -/
def digitIn? (base : Nat) (c : Char) : Option Nat :=
  (digitValue? c).filter (· < base)

/-- The value of the digits `cs` read after digits of value `n`. -/
def ofDigitsFrom? (base : Nat) : Nat → List Char → Option Nat
  | n, [] => some n
  | n, c :: cs => (digitIn? base c).bind fun d => ofDigitsFrom? base (n * base + d) cs

/-- The value of a non-empty run of digits. -/
def ofDigits? (base : Nat) (cs : List Char) : Option Nat :=
  if cs.isEmpty then none else ofDigitsFrom? base 0 cs

/-- The text without one leading plus sign. -/
def dropPlus : List Char → List Char
  | '+' :: cs => cs
  | cs => cs

/-- A run of digits, optionally after a plus sign, whose value is below `limit`. -/
def unsigned? (base limit : Nat) (cs : List Char) : Option Nat :=
  (ofDigits? base (dropPlus cs)).filter (· < limit)

/-- A decimal numeral of 32 bits without sign. -/
def unsigned32? (cs : List Char) : Option Nat := unsigned? 10 UInt32.size cs

/-- A decimal numeral of 64 bits without sign. -/
def unsigned64? (cs : List Char) : Option Nat := unsigned? 10 UInt64.size cs

/-- The number of integers of 64 bits with a sign that are not negative. -/
def signedLimit : Nat := 9223372036854775808

/-- A decimal numeral of 64 bits, optionally after a plus or minus sign. -/
def signed64? : List Char → Option Int
  | '-' :: cs => ((ofDigits? 10 cs).filter (· ≤ signedLimit)).map fun n => -(n : Int)
  | cs => ((ofDigits? 10 (dropPlus cs)).filter (· < signedLimit)).map Int.ofNat

/-- Whether the text is an exponent of ten after the letter e, or empty. -/
def isExponent : List Char → Bool
  | [] => true
  | e :: cs =>
    let ds :=
      match cs with
      | '+' :: ds => ds
      | '-' :: ds => ds
      | ds => ds
    e.toLower = 'e' && !ds.isEmpty && ds.all Char.isDigit

/-- Whether the text is a decimal numeral without sign: digits with a point among them or at one of
their ends, and an exponent of ten. -/
def isMagnitude (cs : List Char) : Bool :=
  let whole := cs.takeWhile Char.isDigit
  match cs.dropWhile Char.isDigit with
  | '.' :: rest =>
    !(whole ++ rest.takeWhile Char.isDigit).isEmpty && isExponent (rest.dropWhile Char.isDigit)
  | rest => !whole.isEmpty && isExponent rest

/-- The words for what is beyond the real numbers. -/
def realWords : List String := ["inf", "infinity", "nan"]

/-- Whether the text is a numeral of a real number, optionally after a sign, or a word for what is
beyond the real numbers. -/
def isReal (cs : List Char) : Bool :=
  let magnitude :=
    match cs with
    | '+' :: rest => rest
    | '-' :: rest => rest
    | rest => rest
  isMagnitude magnitude || realWords.any fun w => w.toList = magnitude.map Char.toLower

/-- The decimal digits of `n`. -/
def decimal (n : Nat) : List Char := Nat.toDigits 10 n

/-- The decimal digits of `n`, with leading zeros up to `width` places. -/
def padded (width n : Nat) : List Char :=
  List.replicate (width - (decimal n).length) '0' ++ decimal n

/-- The decimal numeral of an integer, negative ones after a minus sign. -/
def decimalInt : Int → List Char
  | .ofNat n => decimal n
  | .negSucc n => '-' :: decimal (n + 1)

/-- The hexadecimal digit, in small letters, of a number below sixteen. -/
def hexDigit (n : Nat) : Char := Nat.digitChar n

/-- The number `n` in hexadecimal, with leading zeros up to `width` places. -/
def paddedHex (width n : Nat) : List Char :=
  let ds := Nat.toDigits 16 n
  List.replicate (width - ds.length) '0' ++ ds

end CrowdTask.Text
