import CrowdTask.Pattern.Escape

/-!
# Sets of characters

A set in brackets lists characters, ranges, classes and further sets, and may combine such lists by
operations. What is kept of a set is how it is put together, and of its items whether they hold
bytes that are no characters by themselves: those above ASCII, where a pattern speaks of bytes.

## Main definitions

* `CrowdTask.CharSet`: a set.
* `CrowdTask.CharSet.depth`: how deep its parts are nested.
* `CrowdTask.CharSet.isHigh`: whether it holds bytes above ASCII.
* `CrowdTask.CharSet.read?`: the set after an opening bracket.
-/

namespace CrowdTask

/-- The operations on two sets: what is in both, in the first only, or in one only. -/
inductive SetOperation where
  | both
  | firstOnly
  | oneOnly
  deriving DecidableEq, Repr

/-- A set of characters. -/
inductive CharSet where
  | item (high : Bool)
  | union (items : List CharSet)
  | combined (operation : SetOperation) (first second : CharSet)
  | bracketed (isNegated : Bool) (content : CharSet)

namespace CharSet

open Pattern

mutual

/-- How deep the parts of a set are nested. -/
def depth : CharSet → Nat
  | .item _ => 0
  | .union items => depthOfAll items + 1
  | .combined _ a b => max a.depth b.depth + 1
  | .bracketed _ s => s.depth + 1

/-- The depth of the deepest of several sets. -/
def depthOfAll : List CharSet → Nat
  | [] => 0
  | s :: rest => max s.depth (depthOfAll rest)

end

/-- Whether the result of an operation holds bytes above ASCII, of which each set holds all or
none. -/
def SetOperation.isHigh : SetOperation → Bool → Bool → Bool
  | .both, a, b => a && b
  | .firstOnly, a, b => a && !b
  | .oneOnly, a, b => a ≠ b

mutual

/-- Whether a set holds the bytes above ASCII. -/
def isHigh : CharSet → Bool
  | .item high => high
  | .union items => isAnyHigh items
  | .combined operation a b => SetOperation.isHigh operation a.isHigh b.isHigh
  | .bracketed isNegated s => isNegated ≠ s.isHigh

/-- Whether one of several sets holds the bytes above ASCII. -/
def isAnyHigh : List CharSet → Bool
  | [] => false
  | s :: rest => s.isHigh || isAnyHigh rest

end

/-- The set of several items; a single item is a set by itself. -/
def ofItems : List CharSet → CharSet
  | [] => .item false
  | [s] => s
  | items => .union items

/-- The names of classes. -/
def classNames : List String :=
  ["alnum", "alpha", "ascii", "blank", "cntrl", "digit", "graph", "lower", "print", "punct",
    "space", "upper", "word", "xdigit"]

/-- The named class after an opening bracket, which stands between colons and is negated by a caret:
whether it is negated, and what follows its closing bracket. -/
def readNamed? : List Char → Option (Bool × List Char)
  | ':' :: '^' :: cs => named true cs
  | ':' :: cs => named false cs
  | _ => none
where
  named (isNegated : Bool) (cs : List Char) : Option (Bool × List Char) :=
    match cs.dropWhile (· ≠ ':') with
    | ':' :: ']' :: rest =>
      if String.ofList (cs.takeWhile (· ≠ ':')) ∈ classNames then some (isNegated, rest) else none
    | _ => none

/-- One character or class in brackets. -/
def readMember? (m : Mode) : List Char → Option (Atom × List Char)
  | [] => none
  | '\\' :: cs => readEscape? m cs
  | c :: cs => some (.char c, cs)

/-- Whether a character may stand in brackets. -/
def admits (m : Mode) (c : Char) : Bool := m.wide || c.toNat < 128

/-- The item of one character or class. A place is none. -/
def itemOf? (m : Mode) : Atom → Option CharSet
  | .char c => if admits m c then some (.item false) else none
  | .category => some (.item false)
  | .place => none

/-- The item of two characters with a hyphen between them. -/
def rangeOf? (m : Mode) : Atom → Atom → Option CharSet
  | .char a, .char b =>
    if admits m a && admits m b && a ≤ b then some (.item false) else none
  | _, _ => none

/-- A character, a range or a class in brackets, and what follows it. A hyphen before a closing
bracket or another hyphen makes no range. -/
def readItem? (m : Mode) (cs : List Char) : Option (CharSet × List Char) := do
  let (a, cs) ← readMember? m cs
  match m.skip cs with
  | [] => none
  | '-' :: rest =>
    if m.peek? rest = some ']' ∨ m.peek? rest = some '-' then return (← itemOf? m a, '-' :: rest)
    else
      let (b, rest) ← readMember? m (m.skip rest)
      return (← rangeOf? m a b, rest)
  | rest => return (← itemOf? m a, rest)

/-- A set that has been read in part: whether it is negated, what stands before the last operation,
and the items after it, last one first. -/
structure Draft where
  isNegated : Bool
  before : Option (SetOperation × CharSet)
  items : List CharSet

namespace Draft

/-- One more item. -/
def push (d : Draft) (s : CharSet) : Draft := { d with items := s :: d.items }

/-- What has been read so far. -/
def content (d : Draft) : CharSet :=
  match d.before with
  | none => ofItems d.items.reverse
  | some (operation, s) => .combined operation s (ofItems d.items.reverse)

/-- One more operation. -/
def combine (d : Draft) (operation : SetOperation) : Draft :=
  { d with before := some (operation, d.content), items := [] }

/-- Reads the hyphens at the beginning, which stand for themselves. The first argument bounds their
number. -/
def readHyphens (m : Mode) : Nat → Draft → List Char → Draft × List Char
  | bound + 1, d, '-' :: cs => readHyphens m bound (d.push (.item false)) (m.skip cs)
  | _, d, cs => (d, cs)

/-- The beginning of a set after its opening bracket: a caret that negates it, and hyphens or a
closing bracket that stand for themselves. The number of hyphens is bounded. -/
def start (m : Mode) (bound : Nat) (cs : List Char) : Draft × List Char :=
  let (isNegated, cs) :=
    match m.skip cs with
    | '^' :: rest => (true, m.skip rest)
    | rest => (false, rest)
  match readHyphens m bound ⟨isNegated, none, []⟩ cs with
  | (⟨isNegated, before, []⟩, ']' :: rest) =>
    (⟨isNegated, before, [.item false]⟩, m.skip rest)
  | d => d

end Draft

/-- The rest of a set and what follows its closing bracket. Where bytes are spoken of, none of them
may be above ASCII. The first argument bounds the number of parts. -/
def readRest? (m : Mode) : Nat → Draft → List Char → Option (CharSet × List Char)
  | 0, _, _ => none
  | bound + 1, d, cs =>
    match m.skip cs with
    | [] => none
    | ']' :: rest =>
      let s := CharSet.bracketed d.isNegated d.content
      if m.wide || !s.isHigh then some (s, rest) else none
    | '&' :: '&' :: rest => readRest? m bound (d.combine .both) rest
    | '-' :: '-' :: rest => readRest? m bound (d.combine .firstOnly) rest
    | '~' :: '~' :: rest => readRest? m bound (d.combine .oneOnly) rest
    | '[' :: rest =>
      match readNamed? rest with
      | some (isNegated, rest) => readRest? m bound (d.push (.item isNegated)) rest
      | none => do
        let (inner, rest) := Draft.start m bound rest
        let (s, rest) ← readRest? m bound inner rest
        readRest? m bound (d.push s) rest
    | c :: rest => do
      let (s, rest) ← readItem? m (c :: rest)
      readRest? m bound (d.push s) rest

/-- The set after an opening bracket, and what follows it. -/
def read? (m : Mode) (cs : List Char) : Option (CharSet × List Char) :=
  let (d, rest) := Draft.start m cs.length cs
  readRest? m (cs.length + 1) d rest

end CharSet

end CrowdTask
