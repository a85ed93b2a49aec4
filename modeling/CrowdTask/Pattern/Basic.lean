import CrowdTask.Pattern.CharSet

/-!
# Patterns

A pattern describes texts. It is put together from single characters and sets of characters, which
may be repeated, grouped, put one after the other or offered as alternatives. Patterns are checked
here and not matched, so that only their structure is kept.

## Main definitions

* `CrowdTask.Pattern`: a pattern.
* `CrowdTask.Pattern.depth`: how deep its parts are nested.
* `CrowdTask.Pattern.names`: the names of its groups.
* `CrowdTask.Pattern.isSound`: whether it is nested no deeper than allowed and names its groups
  apart.
-/

namespace CrowdTask

/-- A pattern. Flags are a part of it that describes the empty text. -/
inductive Pattern where
  | empty
  | flags
  | atom
  | set (s : CharSet)
  | repeated (p : Pattern)
  | group (name : Option String) (p : Pattern)
  | row (parts : List Pattern)
  | choice (alternatives : List Pattern)

namespace Pattern

mutual

/-- How deep the parts of a pattern are nested. -/
def depth : Pattern → Nat
  | .empty | .flags | .atom => 0
  | .set s => s.depth
  | .repeated p => p.depth + 1
  | .group _ p => p.depth + 1
  | .row ps => depthOfAll ps + 1
  | .choice ps => depthOfAll ps + 1

/-- The depth of the deepest of several patterns. -/
def depthOfAll : List Pattern → Nat
  | [] => 0
  | p :: ps => max p.depth (depthOfAll ps)

end

mutual

/-- The names of the groups of a pattern. -/
def names : Pattern → List String
  | .empty | .flags | .atom | .set _ => []
  | .repeated p => p.names
  | .group name p => name.toList ++ p.names
  | .row ps => namesOfAll ps
  | .choice ps => namesOfAll ps

/-- The names of the groups of several patterns. -/
def namesOfAll : List Pattern → List String
  | [] => []
  | p :: ps => p.names ++ namesOfAll ps

end

/-- The parts one after the other; a single part is a pattern by itself. -/
def ofRow : List Pattern → Pattern
  | [] => .empty
  | [p] => p
  | ps => .row ps

/-- The alternatives; a single one is a pattern by itself. -/
def ofChoice : List Pattern → Pattern
  | [p] => p
  | ps => .choice ps

/-- How deep the parts of a pattern may be nested. -/
def depthLimit : Nat := 250

/-- Whether a pattern is nested no deeper than allowed, and no two of its groups have one name. -/
def isSound (p : Pattern) : Bool := p.depth ≤ depthLimit && decide p.names.Nodup

end Pattern

end CrowdTask
