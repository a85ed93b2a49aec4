import CrowdTask.Json.Record
import CrowdTask.Text.Blank

/-!
# Identifiers

The marketplace names tasks, task types, task groups and assignments by identifiers: non-empty
texts of ASCII letters, digits, hyphens and underscores. Blanks around an identifier are dropped
when it is read.

## Main definitions

* `CrowdTask.IdKind`: what an identifier names.
* `CrowdTask.Identifier`: an identifier of one kind.
* `CrowdTask.Identifier.parse`: reading an identifier.
-/

namespace CrowdTask

/-- What an identifier names. -/
inductive IdKind where
  | task
  | taskType
  | taskGroup
  | assignment
  deriving DecidableEq, Repr

/-- The noun for a kind of identifier. -/
def IdKind.noun : IdKind → String
  | .task => "HIT"
  | .taskType => "HIT type"
  | .taskGroup => "HIT group"
  | .assignment => "assignment"

/-- The characters of identifiers. -/
def isIdChar (c : Char) : Bool := c.isAlphanum || c = '-' || c = '_'

/-- Whether a text is an identifier. -/
def isIdText (cs : List Char) : Bool := !cs.isEmpty && cs.all isIdChar

/-- An identifier of one kind. -/
structure Identifier (kind : IdKind) where
  text : String
  valid : isIdText text.toList = true
  deriving DecidableEq, Repr

/-- The identifier of a task. -/
abbrev TaskId := Identifier .task

/-- The identifier of a task type. -/
abbrev TaskTypeId := Identifier .taskType

/-- The identifier of a task group. -/
abbrev TaskGroupId := Identifier .taskGroup

/-- The identifier of an assignment. -/
abbrev AssignmentId := Identifier .assignment

/-- A text that is no identifier. -/
structure IdentifierError where
  kind : IdKind
  raw : String
  deriving DecidableEq, Repr

/-- The message for a text that is no identifier. -/
def IdentifierError.message (e : IdentifierError) : String :=
  "invalid " ++ e.kind.noun ++ " identifier '" ++ e.raw ++ "'"

namespace Identifier

variable {kind : IdKind}

/-- The identifier in a text, without the blanks around it. -/
def parse (kind : IdKind) (raw : String) : Except IdentifierError (Identifier kind) :=
  let text := Text.trimmed raw
  if h : isIdText text.toList = true then .ok ⟨text, h⟩ else .error ⟨kind, raw⟩

/-- The identifier in a text, if there is one. -/
def parse? (kind : IdKind) (raw : String) : Option (Identifier kind) :=
  (parse kind raw).toOption

/-- The identifier that a JSON string holds. -/
def ofRaw? (kind : IdKind) (r : Json.Raw) : Option (Identifier kind) :=
  r.string?.bind (parse? kind)

instance : ToString (Identifier kind) := ⟨Identifier.text⟩

end Identifier

end CrowdTask
