import CrowdTask.Files.Place
import CrowdTask.Files.System

/-!
# File trees

A file tree holds directories and files by their places. The root and the working directory always
exist. The operations answer as a file system does: a directory is not read or written as a file, a
file is not entered, a name has at most 255 bytes, and the path of a directory fewer than 4096.

## Main definitions

* `CrowdTask.FileTree`: a tree of directories and files.
* `CrowdTask.FileTree.perform`, `CrowdTask.FileTree.read`, `CrowdTask.FileTree.names`: what a file
  system offers.
* `CrowdTask.FileTree.listing`: what lies below the working directory.
-/

namespace CrowdTask

/-- What a name stands for. -/
inductive FileTree.Node where
  | directory
  | file (bytes : ByteArray)

/-- A tree of directories and files, by their places. -/
structure FileTree where
  entries : List (Place × FileTree.Node)

namespace FileTree

/-- The place of the working directory. -/
def workingDirectory : Place := Place.root.enter "work"

/-- The tree in which only the root and the working directory exist. -/
def empty : FileTree := ⟨[]⟩

/-- The entry at a place. -/
def node? (t : FileTree) (place : Place) : Option Node :=
  if place = .root ∨ place = workingDirectory then some .directory
  else (t.entries.find? fun e => e.1 = place).map (·.2)

/-- Removes the entry at a place. -/
def erase (t : FileTree) (place : Place) : FileTree :=
  ⟨t.entries.filter fun e => e.1 ≠ place⟩

/-- Puts an entry at a place. -/
def put (t : FileTree) (place : Place) (node : Node) : FileTree :=
  ⟨(place, node) :: (t.erase place).entries⟩

/-- Whether a text has the character with code point zero, which no name holds. -/
def hasNul (text : String) : Bool := text.toList.contains (Char.ofNat 0)

/-- Refuses names that no entry can have. -/
def checkName (name : String) : Except FileFault Unit :=
  if hasNul name then .error .invalidName
  else if 255 < name.utf8ByteSize then .error .nameTooLong
  else .ok ()

/-- The number of bytes from which on a path is not followed at all. -/
def pathLimit : Nat := 4096

/-- Refuses routes that are not followed at all. -/
def checkRoute (r : Route) : Except FileFault Unit :=
  if hasNul r.path then .error .invalidName
  else if pathLimit ≤ r.path.utf8ByteSize then .error .nameTooLong
  else .ok ()

/-- Where a route begins. -/
def origin (r : Route) : Place := if Route.isRooted r.path then .root else workingDirectory

/-- The place of a directory, from the directory `place` on. -/
def resolveFrom (t : FileTree) (place : Place) : List Route.Step → Except FileFault Place
  | [] => .ok place
  | .up :: steps => t.resolveFrom place.up steps
  | .enter name :: steps => do
    checkName name
    match t.node? (place.enter name) with
    | none => .error .notFound
    | some (.file _) => .error .notADirectory
    | some .directory => t.resolveFrom (place.enter name) steps

/-- The place of an existing directory. -/
def resolve (t : FileTree) (r : Route) : Except FileFault Place := do
  checkRoute r
  t.resolveFrom (origin r) r.steps

/-- The place of a name in an existing directory. -/
def locate (t : FileTree) (directory : Route) (name : String) : Except FileFault Place := do
  let place ← t.resolve directory
  checkName name
  return place.enter name

/-- Enters directories from the directory `place` on, making those that are missing. -/
def makeFrom (t : FileTree) (place : Place) : List Route.Step → Except FileFault Unit × FileTree
  | [] => (.ok (), t)
  | .up :: steps => t.makeFrom place.up steps
  | .enter name :: steps =>
    match checkName name with
    | .error e => (.error e, t)
    | .ok () =>
      match t.node? (place.enter name) with
      | some .directory => t.makeFrom (place.enter name) steps
      | some (.file _) => (.error .notADirectory, t)
      | none => (t.put (place.enter name) .directory).makeFrom (place.enter name) steps

/-- Makes the directories on a route that are missing. -/
def make (t : FileTree) (r : Route) : Except FileFault Unit × FileTree :=
  match checkRoute r with
  | .error e => (.error e, t)
  | .ok () => t.makeFrom (origin r) r.steps

/-- Puts the bytes that `change` makes of the bytes of a file into the file. A missing file counts
as an empty one. -/
def edit (t : FileTree) (directory : Route) (name : String) (change : ByteArray → ByteArray) :
    Except FileFault Unit × FileTree :=
  match t.locate directory name with
  | .error e => (.error e, t)
  | .ok place =>
    match t.node? place with
    | some .directory => (.error .isADirectory, t)
    | some (.file bytes) => (.ok (), t.put place (.file (change bytes)))
    | none => (.ok (), t.put place (.file (change ByteArray.empty)))

/-- Moves a file to another name in its directory, replacing a file of that name. -/
def move (t : FileTree) (directory : Route) (source target : String) :
    Except FileFault Unit × FileTree :=
  match t.locate directory source, t.locate directory target with
  | .ok here, .ok there =>
    match t.node? here, t.node? there with
    | none, _ => (.error .notFound, t)
    | some .directory, _ => (.error .isADirectory, t)
    | some (.file _), some .directory => (.error .isADirectory, t)
    | some (.file bytes), _ => (.ok (), (t.erase here).put there (.file bytes))
  | .error e, _ => (.error e, t)
  | _, .error e => (.error e, t)

/-- Removes a file. -/
def delete (t : FileTree) (directory : Route) (name : String) :
    Except FileFault Unit × FileTree :=
  match t.locate directory name with
  | .error e => (.error e, t)
  | .ok place =>
    match t.node? place with
    | none => (.error .notFound, t)
    | some .directory => (.error .isADirectory, t)
    | some (.file _) => (.ok (), t.erase place)

/-- Performs one operation. -/
def perform (t : FileTree) : FileOp → Except FileFault Unit × FileTree
  | .makeDirectories directory => t.make directory
  | .write directory name bytes => t.edit directory name fun _ => bytes
  | .append directory name bytes => t.edit directory name fun old => old ++ bytes
  | .rename directory source target => t.move directory source target
  | .remove directory name => t.delete directory name

/-- The bytes of a file. -/
def read (t : FileTree) (directory : Route) (name : String) : Except FileFault ByteArray := do
  let place ← t.locate directory name
  match t.node? place with
  | none => .error .notFound
  | some .directory => .error .isADirectory
  | some (.file bytes) => return bytes

/-- The names in the directory at a place. -/
def namesAt (t : FileTree) (place : Place) : List String :=
  t.entries.filterMap fun e => if e.1.up = place then e.1.names.head? else none

/-- The names in a directory. -/
def names (t : FileTree) (directory : Route) : Except FileFault (List String) := do
  return t.namesAt (← t.resolve directory)

/-- The file system of a tree that is kept as the state of a computation. -/
def system : FileSystem (StateM FileTree) where
  perform op := fun t => t.perform op
  read directory name := fun t => (t.read directory name, t)
  names directory := fun t => (t.names directory, t)

/-- Puts an entry at a path, making the directories on the way. -/
def plant (t : FileTree) (path : String) (node : Node) : FileTree :=
  match node, Route.splitPath? path with
  | .directory, _ => (t.perform (.makeDirectories ⟨path⟩)).2
  | .file bytes, some (directory, name) =>
    ((t.perform (.makeDirectories directory)).2.perform (.write directory name bytes)).2
  | .file _, none => t

/-- Removes a file, or a directory with all that lies below it. -/
def prune (t : FileTree) (path : String) : FileTree :=
  match Route.splitPath? path with
  | none => t
  | some (directory, name) =>
    match t.locate directory name with
    | .error _ => t
    | .ok place => ⟨t.entries.filter fun e => !e.1.isWithin place⟩

/-- What lies below the working directory, by paths from there. The path of a directory ends in a
slash. -/
def listing (t : FileTree) : List (String × Option ByteArray) :=
  t.entries.filterMap fun e =>
    if e.1.isWithin workingDirectory then
      let path := e.1.pathFrom workingDirectory
      match e.2 with
      | .directory => some (path ++ "/", none)
      | .file bytes => some (path, some bytes)
    else none

end FileTree

end CrowdTask
