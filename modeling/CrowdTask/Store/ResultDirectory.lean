import CrowdTask.Json.Printer
import CrowdTask.Store.Basic

/-!
# Result directories

Each result is a JSON file of its own, named for its assignment. A file that does not hold a whole
JSON text is what remains of an interrupted write and counts as missing. A complete result is never
replaced.

## Main definitions

* `CrowdTask.ResultDirectory.idOfName?`: the assignment that a file is named for.
* `CrowdTask.ResultDirectory.ids`, `CrowdTask.ResultDirectory.put`: the operations over a
  file system.
* `CrowdTask.ResultDirectory.store`: the store over a file system.
-/

namespace CrowdTask.ResultDirectory

/-- The ending of the names of results. -/
def ending : String := ".json"

/-- The name of the file for an assignment. -/
def fileName (id : AssignmentId) : String := id.text ++ ending

/-- The characters before an ending, none when they do not end in it. -/
def withoutEnding? (ending cs : List Char) : Option (List Char) :=
  if ending.isSuffixOf cs then some (cs.take (cs.length - ending.length)) else none

/-- The assignment that a file is named for. -/
def idOfName? (name : String) : Option AssignmentId :=
  (withoutEnding? ending.toList name.toList).bind fun stem =>
    Identifier.parse? .assignment (String.ofList stem)

/-- Whether the bytes of a file are a whole result. -/
def isWhole (bytes : ByteArray) : Bool := (Json.readBytes? bytes).isSome

/-- The text of a result. -/
def text (r : WorkResult) : String := r.document.indented ++ "\n"

/-- The path of the directory for the results of an environment. -/
def path (root : String) (e : Environment) : String := Route.join root e.resultsDirectory

variable {m : Type → Type} [Monad m]

/-- Whether a file exists and is a whole result. -/
def holdsResult (fs : FileSystem m) (directory : Route) (name : String) :
    m (Except FileFault Bool) := do
  match ← fs.read directory name with
  | .ok bytes => return .ok (isWhole bytes)
  | .error .notFound => return .ok false
  | .error fault => return .error fault

/-- The identifiers among the names of files, of complete results alone, added to `ids`. -/
def completeIds (fs : FileSystem m) (directory : Route) (ids : List AssignmentId) :
    List String → m (Except FileFault (List AssignmentId))
  | [] => pure (.ok ids)
  | name :: names =>
    match idOfName? name with
    | none => completeIds fs directory ids names
    | some id => do
      match ← holdsResult fs directory name with
      | .ok true => completeIds fs directory (insertId id ids) names
      | .ok false => completeIds fs directory ids names
      | .error fault => return .error fault

/-- The identifiers of the stored results. A missing directory holds none. -/
def ids (fs : FileSystem m) (directory : Route) :
    m (Except ResultError (List AssignmentId)) := do
  match ← fs.names directory with
  | .ok names => return (← completeIds fs directory [] names).mapError .io
  | .error .notFound => return .ok []
  | .error fault => return .error (.io fault)

/-- Gives the file of a result its text. What remains when that fails is removed. -/
def replace (fs : FileSystem m) (directory : Route) (name : String) (bytes : ByteArray) :
    m (Except ResultError Unit) := do
  match ← fs.performAll (FileOp.replace directory name bytes) with
  | .ok () => return .ok ()
  | .error fault => do
    let _ ← fs.perform (.remove directory (FileOp.draftName name))
    return .error (.io fault)

/-- Stores a result, unless it is stored completely. -/
def put (fs : FileSystem m) (directory : Route) (r : WorkResult) :
    m (Except ResultError Unit) := do
  match ← fs.perform (.makeDirectories directory) with
  | .error fault => return .error (.io fault)
  | .ok () =>
    match ← holdsResult fs directory (fileName r.id) with
    | .error fault => return .error (.io fault)
    | .ok true => return .error (.alreadyStored r.id)
    | .ok false => replace fs directory (fileName r.id) (text r).toUTF8

/-- The store without a directory, which holds nothing and cannot be given anything. -/
def nowhere : ResultStore m := ⟨pure (.ok []), fun _ => pure (.error (.io .notFound))⟩

/-- The store that keeps its results in the directory of a path. The empty path names no
directory. -/
def store (fs : FileSystem m) (path : String) : ResultStore m :=
  if path = "" then nowhere else ⟨ids fs ⟨path⟩, put fs ⟨path⟩⟩

end CrowdTask.ResultDirectory
