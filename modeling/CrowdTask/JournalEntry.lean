import CrowdTask.Calendar.Reading
import CrowdTask.Json.Printer
import CrowdTask.Json.Record

/-!
# Journal entries

Every change that the marketplace confirmed is recorded with its time, its kind and the data that
belongs to the kind.

## Main definitions

* `CrowdTask.Change`: the kinds of changes.
* `CrowdTask.JournalEntry`: a recorded change.
* `CrowdTask.JournalEntry.toJson`, `CrowdTask.JournalEntry.ofRaw?`: its form in a journal.
-/

namespace CrowdTask

/-- The kinds of changes. -/
inductive Change where
  | create
  | addAssignments
  | addTime
  | expire
  deriving DecidableEq, Repr

namespace Change

/-- All kinds. -/
def all : List Change := [.create, .addAssignments, .addTime, .expire]

/-- The word for a kind. -/
def word : Change → String
  | .create => "create"
  | .addAssignments => "add_assignments"
  | .addTime => "add_time"
  | .expire => "expire"

/-- The kind of a word. -/
def ofWord? (word : String) : Option Change := all.find? fun k => k.word = word

/-- The kind that a JSON text names. -/
def ofRaw? (r : Json.Raw) : Option Change := r.choice?.bind ofWord?

end Change

/-- A recorded change. -/
structure JournalEntry where
  time : Moment
  change : Change
  data : Json

namespace JournalEntry

/-- The form of an entry in a journal. -/
def toJson (r : JournalEntry) : Json :=
  .obj [("time", .str r.time.stamp), ("action", .str r.change.word), ("data", r.data)]

/-- The entry in a text. -/
def ofRaw? (levels : Nat) (r : Json.Raw) : Option JournalEntry := do
  let fs ← Json.Fields.ofRaw? [["time"], ["action"], ["data"]] r
  let stamp ← fs.required? 0 Json.Raw.string?
  let kind ← fs.required? 1 Change.ofRaw?
  let data ← fs.required? 2 (Json.Raw.toJson? (levels - 1))
  return ⟨← Moment.ofStamp? stamp, kind, data⟩

end JournalEntry

end CrowdTask
