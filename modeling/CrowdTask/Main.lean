import CrowdTask.Program
import Std.Time.DateTime

/-!
# The command line program

The program in its real surroundings: the files of the machine, the variables of the process and the
clock. There is no connection to the service, so that calls to the marketplace fail before anything
is changed.

## Main definitions

* `CrowdTask.Machine.surroundings`: the surroundings.
* `main`: the entry point.
-/

namespace CrowdTask.Machine

/-- Why an operation of the machine fails. -/
def faultOf : IO.Error → FileFault
  | .noFileOrDirectory _ _ _ => .notFound
  | e => .other (toString e)

/-- Runs an operation of the machine. -/
def attemptIO {α : Type} (action : IO α) : IO (Except FileFault α) := do
  match ← action.toBaseIO with
  | .ok a => return .ok a
  | .error e => return .error (faultOf e)

/-- The path of an entry in a directory. -/
def pathOf (directory : Route) (name : String) : String := Route.join directory.path name

/-- Performs one operation on files. -/
def perform : FileOp → IO Unit
  | .makeDirectories directory => IO.FS.createDirAll directory.path
  | .write directory name bytes => IO.FS.writeBinFile (pathOf directory name) bytes
  | .append directory name bytes =>
    IO.FS.withFile (pathOf directory name) .append fun h => h.write bytes
  | .rename directory source target =>
    IO.FS.rename (pathOf directory source) (pathOf directory target)
  | .remove directory name => IO.FS.removeFile (pathOf directory name)

/-- The names in a directory. -/
def names (directory : Route) : IO (List String) := do
  let here ← IO.currentDir
  return (← (here / directory.path).readDir).toList.map fun entry => entry.fileName

/-- The files of the machine. -/
def files : FileSystem IO where
  perform op := attemptIO (perform op)
  read directory name := attemptIO (IO.FS.readBinFile (pathOf directory name))
  names directory := attemptIO (names directory)

/-- The time of the machine. -/
def clock : IO Instant := do
  let now ← Std.Time.Timestamp.now
  return ⟨now.toNanosecondsSinceUnixEpoch.val⟩

/-- The variables of the process that the program asks for. -/
def variableNames : List String :=
  [Credentials.accessKeyVariable, Credentials.secretKeyVariable, Logging.filterVariable]

/-- The values of the variables of the process. -/
def lookup : IO (String → Option String) := do
  let pairs ← variableNames.mapM fun name => do return (name, ← IO.getEnv name)
  return fun name => (pairs.find? fun p => p.1 = name).bind (·.2)

/-- The surroundings of the program. -/
def surroundings : IO (Surroundings IO) := do
  let kept ← IO.mkRef ([] : List (TaskId × List Submission))
  return {
    files := files
    lookup := ← lookup
    send := fun _ => return .error "there is no connection to the service"
    clock := clock
    listing? := fun id => return ((← kept.get).find? fun p => p.1 = id).map (·.2)
    keepListing := fun id items => kept.modify ((id, items) :: ·) }

end CrowdTask.Machine

/-- Runs the program with the given arguments. -/
def main (arguments : List String) : IO UInt32 := do
  let outcome ← CrowdTask.Program.run (← CrowdTask.Machine.surroundings) arguments
  IO.print outcome.output
  IO.eprint outcome.diagnostics
  return outcome.status.toUInt32
