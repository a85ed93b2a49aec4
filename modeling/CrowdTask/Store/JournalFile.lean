import CrowdTask.Store.Basic

/-!
# Journal files

The journal is a file of lines, each of them the JSON text of one entry. Entries are only ever
appended.

## Main definitions

* `CrowdTask.JournalFile.line`: the line for an entry.
* `CrowdTask.JournalFile.appendOps`: the operations that append an entry.
* `CrowdTask.JournalFile.journal`: the journal over a file system.
-/

namespace CrowdTask.JournalFile

/-- The line for an entry. -/
def line (r : JournalEntry) : String := r.toJson.compact ++ "\n"

/-- The operations that append an entry to the file that a path names. -/
def appendOps (path : String) (r : JournalEntry) : Except FileFault (List FileOp) :=
  match Route.splitPath? path with
  | some (directory, name) =>
    .ok [.makeDirectories directory, .append directory name (line r).toUTF8]
  | none => .error (.noFileName path)

variable {m : Type → Type} [Monad m]

/-- Appends an entry to the file that a path names. -/
def append (fs : FileSystem m) (path : String) (r : JournalEntry) : m (Except JournalError Unit) :=
  match appendOps path r with
  | .ok ops => do return (← fs.performAll ops).mapError .io
  | .error fault => pure (.error (.io fault))

/-- The journal that is kept in the file that a path names. -/
def journal (fs : FileSystem m) (path : String) : Journal m := ⟨append fs path⟩

end CrowdTask.JournalFile
