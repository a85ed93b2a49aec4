import CrowdTask.Decimal.Binary64

/-!
# JSON values

A JSON value whose numbers are either integers of 64 bits, with or without sign, or binary numbers
of 64 bits. Objects keep their members in the order in which they are written; the objects that a
reader builds, and those whose keys come from outside, are ordered by key and have each key once.

## Main definitions

* `CrowdTask.WideInt`: an integer that fits 64 bits, with or without sign.
* `CrowdTask.Json`: a value.
* `CrowdTask.Json.Members`: the members of an object, with look-up, insertion and removal.
-/

namespace CrowdTask

/-- An integer that fits 64 bits, with or without sign. -/
structure WideInt where
  val : Int
  lower : -9223372036854775808 ≤ val
  upper : val < 18446744073709551616
  deriving DecidableEq, Repr

namespace WideInt

/-- The integer of a word without sign. -/
def ofUInt64 (n : UInt64) : WideInt :=
  ⟨n.toNat, by omega, by have := n.toNat_lt; omega⟩

/-- The integer of a word without sign. -/
def ofUInt32 (n : UInt32) : WideInt :=
  ⟨n.toNat, by omega, by have := n.toNat_lt; omega⟩

/-- The integer itself, if it fits. -/
def ofInt? (n : Int) : Option WideInt :=
  if h : -9223372036854775808 ≤ n ∧ n < 18446744073709551616 then some ⟨n, h.1, h.2⟩ else none

/-- The number as a word of 64 bits without sign, if it is not negative. -/
def toUInt64? (n : WideInt) : Option UInt64 :=
  if 0 ≤ n.val then some (UInt64.ofNat n.val.toNat) else none

/-- The number as a word of 32 bits without sign, if it fits. -/
def toUInt32? (n : WideInt) : Option UInt32 :=
  if 0 ≤ n.val ∧ n.val < 4294967296 then some (UInt32.ofNat n.val.toNat) else none

end WideInt

namespace Json

/-- A number: an integer of 64 bits, or a binary number of 64 bits. -/
inductive Number where
  | int (n : WideInt)
  | double (x : Binary64)
  deriving DecidableEq, Repr

end Json

/-- A JSON value. -/
inductive Json where
  | null
  | bool (b : Bool)
  | num (n : Json.Number)
  | str (s : String)
  | arr (items : List Json)
  | obj (members : List (String × Json))

namespace Json

/-- The members of an object. -/
abbrev Members := List (String × Json)

namespace Members

/-- The value of the member `key`. -/
def get? (key : String) : Members → Option Json
  | [] => none
  | (k, v) :: rest => if k = key then some v else get? key rest

/-- Adds the member `key` at its place in the order of keys, replacing a member of that key. -/
def insert (key : String) (value : Json) : Members → Members
  | [] => [(key, value)]
  | (k, v) :: rest =>
    if key = k then (key, value) :: rest
    else if key < k then (key, value) :: (k, v) :: rest
    else (k, v) :: insert key value rest

/-- Removes the members `key`. -/
def erase (key : String) (ms : Members) : Members := ms.filter fun m => m.1 ≠ key

/-- The members ordered by key. Of several members with one key the last one stays. -/
def ofList (ms : List (String × Json)) : Members :=
  ms.foldl (fun acc m => insert m.1 m.2 acc) []

end Members

/-- The number of a word of 64 bits. -/
def ofUInt64 (n : UInt64) : Json := .num (.int (.ofUInt64 n))

/-- The number of a word of 32 bits. -/
def ofUInt32 (n : UInt32) : Json := .num (.int (.ofUInt32 n))

/-- The text of a string value. -/
def asString? : Json → Option String
  | .str s => some s
  | _ => none

end Json

end CrowdTask
