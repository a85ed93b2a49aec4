import CrowdTask.Json.Record
import CrowdTask.Text.Blank
import CrowdTask.Text.Lowercase

/-!
# Qualifications

A task may ask that workers live in a country, and that a percentage of their earlier work was
approved.

## Main definitions

* `CrowdTask.Qualifications`: what is asked of workers.
* `CrowdTask.Requirement`: one of the two demands.
* `CrowdTask.Qualifications.requirements`: the demands in order, the country first.
-/

namespace CrowdTask

/-- One demand on workers. -/
inductive Requirement where
  | localeEquals (country : String)
  | minApproval (percentage : UInt8)
  deriving DecidableEq, Repr

namespace Requirement

/-- The member that tells the two demands apart. -/
def tag : String := "type"

/-- The tag of a demand for a country. -/
def localeTag : String := "locale_equals"

/-- The tag of a demand for approved work. -/
def approvalTag : String := "min_approval_percentage"

/-- The JSON form of a demand. -/
def toJson : Requirement → Json
  | .localeEquals country => .obj [("country", .str country), (tag, .str localeTag)]
  | .minApproval percentage =>
    .obj [("percentage", .ofUInt32 percentage.toUInt32), (tag, .str approvalTag)]

/-- A percentage of eight bits. -/
def percentage? (r : Json.Raw) : Option UInt8 :=
  (r.uint32?.filter (· < 256)).map UInt32.toUInt8

/-- The demand with the given tag, its only other member being found by name. -/
def ofTag? (kind : String) (field? : String → Option Json.Raw) : Option Requirement :=
  if kind = localeTag then ((field? "country").bind Json.Raw.string?).map .localeEquals
  else if kind = approvalTag then ((field? "percentage").bind percentage?).map .minApproval
  else none

/-- The demand in a JSON text: an object whose tag may stand anywhere, or an array that begins with
the tag. All of the text is given a value, unknown members included. -/
def ofRaw? (r : Json.Raw) : Option Requirement := do
  let _ ← r.toJson? Json.nestingLimit
  match r with
  | .obj members => do
    let ms ← Json.Fields.keyed? members
    let kind ← (← Json.Fields.slot? ms [tag]).bind Json.Raw.string?
    ofTag? kind fun name => (Json.Fields.slot? ms [name]).join
  | .arr [kind, value] => do ofTag? (← kind.string?) fun _ => some value
  | _ => none

end Requirement

/-- A percentage above one hundred. -/
structure ApprovalError where
  percentage : UInt64
  deriving DecidableEq, Repr

/-- The message for a percentage above one hundred. -/
def ApprovalError.message (e : ApprovalError) : String :=
  "approval percentage must be between 0 and 100, got " ++ toString e.percentage.toNat

/-- What is asked of workers. -/
structure Qualifications where
  country : Option String
  approval : Option UInt8
  deriving DecidableEq, Repr

namespace Qualifications

/-- Nothing is asked. -/
def none : Qualifications := ⟨.none, .none⟩

/-- The name of a country in capitals without the blanks around it; a blank name is no name. -/
def countryName? (raw : String) : Option String :=
  let name := Text.trim raw.toList
  if name.isEmpty then .none else some (String.ofList (Text.upperAscii name))

/-- Asks for a country, or for none when the name is blank. -/
def withCountry (q : Qualifications) (raw : String) : Qualifications :=
  { q with country := countryName? raw }

/-- Asks for a percentage of approved work. -/
def withApproval (q : Qualifications) (percentage : UInt64) :
    Except ApprovalError Qualifications :=
  if percentage ≤ 100 then .ok { q with approval := some percentage.toUInt8 }
  else .error ⟨percentage⟩

/-- The demands in order, the country first. -/
def requirements (q : Qualifications) : List Requirement :=
  q.country.toList.map .localeEquals ++ q.approval.toList.map .minApproval

end Qualifications

end CrowdTask
