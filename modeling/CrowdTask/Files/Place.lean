/-!
# Places in a file tree

A place is given by the names on the way to it from the root. Their number is kept with them, since
most places can be told apart by it.

## Main definitions

* `CrowdTask.Place`: a place.
* `CrowdTask.Place.enter`, `CrowdTask.Place.up`: one step down and one step up.

## Main results

* `CrowdTask.Place.ext_names`: the names make the place.
-/

namespace CrowdTask

/-- A place in a file tree: the names on the way from the root, last one first. -/
structure Place where
  names : List String
  depth : Nat
  depth_eq : depth = names.length

namespace Place

/-- The names make the place. -/
theorem ext_names {a b : Place} (h : a.names = b.names) : a = b := by
  obtain ⟨_, _, rfl⟩ := a
  obtain ⟨_, _, rfl⟩ := b
  subst h
  rfl

instance : DecidableEq Place := fun a b =>
  if h : a.depth = b.depth ∧ a.names = b.names then isTrue (ext_names h.2)
  else isFalse fun e => h ⟨e ▸ rfl, e ▸ rfl⟩

/-- The root. -/
def root : Place := ⟨[], 0, rfl⟩

/-- The place of a name in the directory at a place. -/
def enter (p : Place) (name : String) : Place := ⟨name :: p.names, p.depth + 1, by simp [p.depth_eq]⟩

/-- The place of the directory that a place lies in; the root lies in itself. -/
def up (p : Place) : Place := ⟨p.names.tail, p.depth - 1, by simp [p.depth_eq]⟩

/-- Whether a place is `p` or lies below it. -/
def isWithin (q p : Place) : Bool := p.names.isSuffixOf q.names

/-- The path to a place from the directory at `p` that it lies below. -/
def pathFrom (q p : Place) : String :=
  String.intercalate "/" (q.names.take (q.depth - p.depth)).reverse

end Place

end CrowdTask
