import CrowdTask.Json.Printer
import CrowdTask.Store.Basic

/-!
# Record files

The registry is kept in a JSON file with one member for each environment that has a record. A
missing file stands for the empty registry. Saving replaces the file as a whole, so that it never
holds a part of the registry.

## Main definitions

* `CrowdTask.RecordFile.parse`, `CrowdTask.RecordFile.text`: the registry in the text of a file,
  and the text for a registry.
* `CrowdTask.RecordFile.saveOps`: the operations that save a registry.
* `CrowdTask.RecordFile.store`: the store over a file system.
-/

namespace CrowdTask.RecordFile

/-- The identifiers of a created task. -/
def entry? (r : Json.Raw) : Option TaskRecord := do
  let fs ← Json.Fields.ofRaw? [["id"], ["type_id"], ["group_id"]] r
  return {
    id := ← fs.required? 0 (Identifier.ofRaw? .task)
    typeId := ← fs.required? 1 (Identifier.ofRaw? .taskType)
    groupId := ← fs.orAbsent? 2 (Identifier.ofRaw? .taskGroup) }

/-- The records of both environments. -/
def registry? (r : Json.Raw) : Option Registry := do
  let fs ← Json.Fields.ofRaw? (Environment.all.map fun e => [e.name]) r
  return ⟨← fs.orAbsent? 0 entry?, ← fs.orAbsent? 1 entry?⟩

/-- The registry in the text of a file, which faults name by its path. -/
def parse (path text : String) : Except RecordError Registry :=
  match (Json.Raw.read? text).bind registry? with
  | some rs => .ok rs
  | none => .error (.corrupt path Json.mismatch)

/-- The members of a record. -/
def entryMembers (r : TaskRecord) : Json.Members :=
  [("id", .str r.id.text), ("type_id", .str r.typeId.text)] ++
    (r.groupId.map fun g => ("group_id", Json.str g.text)).toList

/-- The value that a file holds. -/
def document (rs : Registry) : Json :=
  .obj (rs.toList.map fun p => (p.1.name, .obj (entryMembers p.2)))

/-- The text that a file holds. -/
def text (rs : Registry) : String := (document rs).indented ++ "\n"

/-- The operations that save a registry in the file that a path names. -/
def saveOps (path : String) (rs : Registry) : Except FileFault (List FileOp) :=
  match Route.splitPath? path with
  | some (directory, name) => .ok (FileOp.replace directory name (text rs).toUTF8)
  | none => .error (.noFileName path)

variable {m : Type → Type} [Monad m]

/-- The registry in the file that a path names. -/
def load (fs : FileSystem m) (path : String) : m (Except RecordError Registry) := do
  match ← fs.readText path with
  | .ok text => return parse path text
  | .error .notFound => return .ok .empty
  | .error fault => return .error (.io fault)

/-- Saves a registry in the file that a path names. -/
def save (fs : FileSystem m) (path : String) (rs : Registry) : m (Except RecordError Unit) :=
  match saveOps path rs with
  | .ok ops => do return (← fs.performAll ops).mapError .io
  | .error fault => pure (.error (.io fault))

/-- The store that keeps the registry in the file that a path names. -/
def store (fs : FileSystem m) (path : String) : RecordStore m := ⟨load fs path, save fs path⟩

end CrowdTask.RecordFile
