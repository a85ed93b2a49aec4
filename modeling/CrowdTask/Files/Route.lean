/-!
# Routes to files

A path is a text whose parts are separated by slashes. Empty parts and single dots mean nothing,
two dots lead one directory up, and every other part is the name of an entry. A path that ends in a
name names a file in the directory of the parts before it.

## Main definitions

* `CrowdTask.Route`: the way to a directory.
* `CrowdTask.Route.steps`: the steps of the way.
* `CrowdTask.Route.splitPath?`: the directory and the name of the file that a path names.
-/

namespace CrowdTask

/-- One step on the way to a directory. -/
inductive Route.Step where
  | up
  | enter (name : String)
  deriving DecidableEq, Repr

/-- The way to a directory, from the root or from the working directory, as a path that describes
it. How long the path is decides whether it is followed. -/
structure Route where
  path : String
  deriving DecidableEq, Repr

namespace Route

/-- The parts of a path between its slashes. -/
def partsOf : List Char → List (List Char)
  | [] => [[]]
  | c :: cs =>
    if c = '/' then [] :: partsOf cs
    else
      match partsOf cs with
      | [] => [[c]]
      | p :: ps => (c :: p) :: ps

/-- The step that a part of a path stands for, none for parts that mean nothing. -/
def stepOf? (part : List Char) : Option Step :=
  if part = [] ∨ part = ['.'] then none
  else if part = ['.', '.'] then some .up
  else some (.enter (String.ofList part))

/-- Whether a path begins at the root. -/
def isRooted (path : String) : Bool := path.toList.head? = some '/'

/-- The steps of the way. -/
def steps (r : Route) : List Step := (partsOf r.path.toList).filterMap stepOf?

/-- The parts up to the last one that means something, last one first. -/
def endingIn (parts : List (List Char)) : List (List Char) :=
  parts.dropWhile fun p => (stepOf? p).isNone

/-- The way to the directory of the parts, last one first, of the beginning of a path. -/
def ofParts (rooted : Bool) (parts : List (List Char)) : Route :=
  match endingIn parts with
  | [] => ⟨if rooted then "/" else "."⟩
  | parts => ⟨String.ofList (List.intercalate ['/'] parts.reverse)⟩

/-- The directory and the name of the file that a path names, none when it ends in no name. -/
def splitPath? (path : String) : Option (Route × String) :=
  match endingIn (partsOf path.toList).reverse with
  | [] => none
  | last :: before =>
    match stepOf? last with
    | some (.enter name) => some (ofParts (isRooted path) before, name)
    | _ => none

/-- The path of the entry `name` in the directory of a path. -/
def join (path name : String) : String :=
  if path = "" then name
  else if path.toList.getLast? = some '/' then path ++ name
  else path ++ "/" ++ name

end Route

end CrowdTask
