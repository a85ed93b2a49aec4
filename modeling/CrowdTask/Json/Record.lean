import CrowdTask.Json.Reader

/-!
# Records in JSON texts

A record with named fields is written as an object, or as an array of the values of its fields in
their order. In an object unknown members are ignored and a field may be given only once; an array
has no more items than the record has fields.

## Main definitions

* `CrowdTask.Json.Fields`: the fields of a record as they are given in a text.
* `CrowdTask.Json.Fields.ofRaw?`: the fields of an object or array.
* `CrowdTask.Json.Fields.required?`, `optional?`, `orAbsent?`, `orElse?`: the value of one field, by
  what its absence means.
-/

namespace CrowdTask.Json

/-- The reason given for a text that is not of the expected form. -/
def mismatch : String := "the text is not JSON of the expected form"

/-- The fields of a record as they are given in a text: by position or by name. -/
structure Fields where
  positional : Bool
  slots : List (Option Raw)

namespace Fields

/-- The members with one of the given names. -/
def named (names : List String) (members : List (String × Raw)) : List Raw :=
  (members.filter fun m => names.contains m.1).map (·.2)

/-- The member with one of the given names, none when there is more than one. -/
def slot? (members : List (String × Raw)) (names : List String) : Option (Option Raw) :=
  match named names members with
  | [] => some none
  | [r] => some (some r)
  | _ => none

/-- The members with their keys, none when a key is no text. -/
def keyed? (members : List (List Piece × Raw)) : Option (List (String × Raw)) :=
  members.mapM fun m => (pieceText? m.1).map fun k => (k, m.2)

/-- The fields of a record in a text. Each field is given by its names, of which a text uses
one. -/
def ofRaw? (names : List (List String)) : Raw → Option Fields
  | .obj members => do
    let ms ← keyed? members
    let slots ← names.mapM (slot? ms)
    some ⟨false, slots⟩
  | .arr items =>
    if items.length ≤ names.length then
      some ⟨true, items.map some ++ List.replicate (names.length - items.length) none⟩
    else none
  | _ => none

/-- The text of the field number `i`. -/
def raw? (fs : Fields) (i : Nat) : Option Raw := (fs.slots[i]?).join

variable {α : Type}

/-- A field that has to be given. -/
def required? (fs : Fields) (i : Nat) (decode : Raw → Option α) : Option α :=
  (fs.raw? i).bind decode

/-- The value of a field that may be null. -/
def nullable? (decode : Raw → Option α) : Raw → Option (Option α)
  | .null => some none
  | r => (decode r).map some

/-- A field that may be null, and that an object may leave out. -/
def optional? (fs : Fields) (i : Nat) (decode : Raw → Option α) : Option (Option α) :=
  match fs.raw? i with
  | some r => nullable? decode r
  | none => if fs.positional then none else some none

/-- A field that may be null, and that any text may leave out. -/
def orAbsent? (fs : Fields) (i : Nat) (decode : Raw → Option α) : Option (Option α) :=
  match fs.raw? i with
  | some r => nullable? decode r
  | none => some none

/-- A field with a value for texts that leave it out. -/
def orElse? (fs : Fields) (i : Nat) (default : α) (decode : Raw → Option α) : Option α :=
  match fs.raw? i with
  | some r => decode r
  | none => some default

end Fields

namespace Raw

/-- The text of a string. -/
def string? : Raw → Option String
  | .str ps => pieceText? ps
  | _ => none

/-- The value of a number. -/
def number? : Raw → Option Number
  | .num t => t.toNumber?
  | _ => none

/-- The value of an integer of 32 bits without sign. -/
def uint32? (r : Raw) : Option UInt32 :=
  match r.number? with
  | some (.int n) => n.toUInt32?
  | _ => none

/-- The word of a choice: a string, or an object with that word as its only key and null as its
value. -/
def choice? : Raw → Option String
  | .str ps => pieceText? ps
  | .obj [(ps, .null)] => pieceText? ps
  | _ => none

/-- The items of an array. -/
def items? : Raw → Option (List Raw)
  | .arr items => some items
  | _ => none

end Raw

end CrowdTask.Json
