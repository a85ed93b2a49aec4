import CrowdTask.Pattern.Basic
import CrowdTask.Text.LetterTable

/-!
# Reading patterns

Alternatives are separated by bars. A question mark, an asterisk or a plus sign repeats the part
before it. Groups stand in parentheses; after a question mark a group has a name or flags, and flags
alone hold for the rest of the group around them. Numbers of repetitions in braces and conditions on
the text around a place are not known.

## Main definitions

* `CrowdTask.Pattern.read?`: the pattern that a text writes.
* `CrowdTask.Pattern.isPattern`: whether a text writes a sound pattern.
-/

namespace CrowdTask.Pattern

/-- Whether a character may stand in the name of a group. -/
def isNameChar (c : Char) : Bool :=
  c ∈ ['_', '.', '[', ']'] || Text.isLetterOrNumber c

/-- Whether characters are the name of a group. -/
def isName : List Char → Bool
  | [] => false
  | c :: cs => (c = '_' || Text.isLetter c) && cs.all isNameChar

/-- What an opening parenthesis begins. -/
inductive Opening where
  | group (name : Option String) (mode : Mode)
  | flags (mode : Mode)
  deriving DecidableEq, Repr

/-- A group whose name comes next. -/
def readName? (m : Mode) (cs : List Char) : Option (Opening × List Char) :=
  let name := cs.takeWhile (· ≠ '>')
  match cs.dropWhile (· ≠ '>') with
  | _ :: rest => if isName name then some (.group (some (String.ofList name)) m, rest) else none
  | [] => none

/-- A group with flags, or flags alone, which are not left out. -/
def readFlags? (m : Mode) (cs : List Char) : Option (Opening × List Char) :=
  let flags := cs.takeWhile fun c => c ≠ ':' && c ≠ ')'
  if Mode.areFlags flags then
    match cs.drop flags.length with
    | ':' :: rest => some (.group none (m.flagged flags), rest)
    | ')' :: rest => if flags.isEmpty then none else some (.flags (m.flagged flags), rest)
    | _ => none
  else none

/-- What begins after an opening parenthesis. -/
def readOpening? (m : Mode) (cs : List Char) : Option (Opening × List Char) :=
  match m.skip cs with
  | '?' :: '<' :: '=' :: _ => none
  | '?' :: '<' :: '!' :: _ => none
  | '?' :: 'P' :: '<' :: rest => readName? m rest
  | '?' :: '<' :: rest => readName? m rest
  | '?' :: rest => readFlags? m rest
  | rest => some (.group none m, rest)

/-- A part that is neither a group nor a set. -/
def readPart? (m : Mode) : List Char → Option (Pattern × List Char)
  | [] => none
  | '\\' :: cs => (readEscape? m cs).map fun r => (.atom, r.2)
  | '.' :: cs => if m.wide then some (.atom, cs) else none
  | _ :: cs => some (.atom, cs)

/-- What follows the sign of a repetition, which may be made reluctant by a question mark. -/
def dropReluctance : List Char → List Char
  | '?' :: cs => cs
  | cs => cs

/-- The parts that have been read, last one first, when the last of them is repeated. Nothing and
flags cannot be repeated. -/
def repeatLast? : List Pattern → Option (List Pattern)
  | [] => none
  | .flags :: _ => none
  | p :: ps => some (.repeated p :: ps)

/-- The pattern of alternatives and of the parts of one more alternative, last ones first. -/
def close (done parts : List Pattern) : Pattern := ofChoice ((ofRow parts.reverse :: done).reverse)

/-- The pattern up to the end of a group or of the text, and what follows. The alternatives and the
parts of the last alternative that have been read are given, last one first. The first argument
bounds the number of parts. -/
def readFrom? : Nat → Mode → List Pattern → List Pattern → List Char →
    Option (Pattern × List Char)
  | 0, _, _, _, _ => none
  | bound + 1, m, done, parts, cs =>
    match m.skip cs with
    | [] => some (close done parts, [])
    | ')' :: rest => some (close done parts, ')' :: rest)
    | '|' :: rest => readFrom? bound m (ofRow parts.reverse :: done) [] rest
    | '(' :: rest => do
      match ← readOpening? m rest with
      | (.flags inner, rest) => readFrom? bound inner done (.flags :: parts) rest
      | (.group name inner, rest) =>
        match ← readFrom? bound inner [] [] rest with
        | (_, []) => none
        | (p, _ :: rest) => readFrom? bound m done (.group name p :: parts) rest
    | '[' :: rest => do
      let (s, rest) ← CharSet.read? m rest
      readFrom? bound m done (.set s :: parts) rest
    | c :: rest => do
      if c ∈ ['?', '*', '+'] then
        readFrom? bound m done (← repeatLast? parts) (dropReluctance rest)
      else if c.toNat = 0x7B then none
      else
        let (p, rest) ← readPart? m (c :: rest)
        readFrom? bound m done (p :: parts) rest

/-- The pattern that a text writes. -/
def read? (cs : List Char) : Option Pattern :=
  match readFrom? (cs.length + 1) .initial [] [] cs with
  | some (p, []) => some p
  | _ => none

/-- Whether a text writes a sound pattern. -/
def isPattern (cs : List Char) : Bool := (read? cs).any isSound

end CrowdTask.Pattern
