import CrowdTask.Files.Route

/-!
# File systems

The program touches files in three ways: it performs one primitive operation, reads one file, or
lists one directory. Everything it writes is a list of primitive operations that are performed
one after the other until one fails.

## Main definitions

* `CrowdTask.FileFault`: why an operation fails.
* `CrowdTask.FileOp`: a primitive operation.
* `CrowdTask.FileOp.replace`: the operations that give a file new bytes.
* `CrowdTask.FileSystem`: the three ways, in any monad.
* `CrowdTask.FileSystem.performAll`: a list of operations.
-/

namespace CrowdTask

/-- Why a file operation fails. -/
inductive FileFault where
  | notFound
  | notADirectory
  | isADirectory
  | nameTooLong
  | invalidName
  | notText
  | noFileName (path : String)
  | other (text : String)
  deriving DecidableEq, Repr

/-- The message for a failed operation. -/
def FileFault.message : FileFault → String
  | .notFound => "no such file or directory"
  | .notADirectory => "not a directory"
  | .isADirectory => "is a directory"
  | .nameTooLong => "file name too long"
  | .invalidName => "file name contains an unexpected NUL byte"
  | .notText => "stream did not contain valid UTF-8"
  | .noFileName path => "path " ++ path ++ " must include a file name"
  | .other text => text

/-- A primitive operation on files. -/
inductive FileOp where
  | makeDirectories (directory : Route)
  | write (directory : Route) (name : String) (bytes : ByteArray)
  | append (directory : Route) (name : String) (bytes : ByteArray)
  | rename (directory : Route) (source target : String)
  | remove (directory : Route) (name : String)

namespace FileOp

/-- The name under which the new bytes of a file are written before they take its place. -/
def draftName (name : String) : String := "." ++ name ++ ".tmp"

/-- Gives a file new bytes: they are written under another name and then take the place of the
file, so that the file never holds a part of them. -/
def replace (directory : Route) (name : String) (bytes : ByteArray) : List FileOp :=
  [.makeDirectories directory, .write directory (draftName name) bytes,
    .rename directory (draftName name) name]

end FileOp

/-- Access to files. -/
structure FileSystem (m : Type → Type) where
  perform : FileOp → m (Except FileFault Unit)
  read : Route → String → m (Except FileFault ByteArray)
  names : Route → m (Except FileFault (List String))

namespace FileSystem

variable {m : Type → Type} [Monad m]

/-- Performs operations in order, up to the first one that fails. -/
def performAll (fs : FileSystem m) : List FileOp → m (Except FileFault Unit)
  | [] => pure (.ok ())
  | op :: ops => do
    match ← fs.perform op with
    | .ok () => fs.performAll ops
    | .error e => pure (.error e)

/-- Reads the file that a path names. -/
def readPath (fs : FileSystem m) (path : String) : m (Except FileFault ByteArray) :=
  match Route.splitPath? path with
  | some (directory, name) => fs.read directory name
  | none => pure (.error (.noFileName path))

/-- Reads the text of the file that a path names. -/
def readText (fs : FileSystem m) (path : String) : m (Except FileFault String) := do
  match ← fs.readPath path with
  | .error e => pure (.error e)
  | .ok bytes =>
    match String.fromUTF8? bytes with
    | some text => pure (.ok text)
    | none => pure (.error .notText)

end FileSystem

end CrowdTask
