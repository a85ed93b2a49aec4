import CrowdTask.Pattern.Reader
import CrowdTask.Text.Lowercase

/-!
# Filters of diagnostics

Which diagnostics are written is said by a filter: a list of directives with commas between them. A
directive is a level, or a target, a span in brackets, or both, with a level after an equals sign if
less than everything is wanted. In braces a span may name one of its fields, with a value or a
pattern of values after an equals sign.

The places of the parts of a directive are counted in bytes from its first character that is no
blank, but the parts are cut out of the directive with the blanks in front of it. A cut may hit the
middle of a character; the filter is then broken, which breaks a program off.

## Main definitions

* `CrowdTask.FilterFault`: why a text is no filter.
* `CrowdTask.LogFilter.checkDirective`: refuses a text that is no directive.
* `CrowdTask.LogFilter.check`: refuses a text that is no filter.
-/

namespace CrowdTask

/-- Why a text is no filter. -/
inductive FilterFault where
  | malformed
  | broken
  deriving DecidableEq, Repr

namespace LogFilter

/-! ### Parts of a directive -/

/-- The text after its first `n` bytes. -/
def afterBytes : Nat → List Char → Except FilterFault (List Char)
  | 0, cs => .ok cs
  | _ + 1, [] => .error .broken
  | n + 1, c :: cs =>
    if c.utf8Size ≤ n + 1 then afterBytes (n + 1 - c.utf8Size) cs else .error .broken

/-- The first `n` bytes of the text. -/
def firstBytes : Nat → List Char → Except FilterFault (List Char)
  | 0, _ => .ok []
  | _ + 1, [] => .error .broken
  | n + 1, c :: cs =>
    if c.utf8Size ≤ n + 1 then (firstBytes (n + 1 - c.utf8Size) cs).map (c :: ·)
    else .error .broken

/-- The part of the text from one place up to another. -/
def part (cs : List Char) (first last : Nat) : Except FilterFault (List Char) := do
  firstBytes (last - first) (← afterBytes first cs)

/-! ### Levels and fields -/

/-- The words for levels. -/
def levelWords : List String := ["error", "warn", "info", "debug", "trace", "off"]

/-- Whether a text is a level: a word, or a number up to five. -/
def isLevel (cs : List Char) : Bool :=
  match Text.unsigned64? cs with
  | some n => n ≤ 5
  | none => levelWords.any fun w => w.toList = Text.lowerAscii cs

/-- The text between the first two equals signs, none without such a sign. -/
def valueOf? (cs : List Char) : Option (List Char) :=
  match cs.dropWhile (· ≠ '=') with
  | [] => none
  | _ :: rest => some (rest.takeWhile (· ≠ '='))

/-- Whether a text is a field: it is not empty, and its value, if there is one, is a number or a
pattern. -/
def isField (cs : List Char) : Bool :=
  !cs.isEmpty && (valueOf? cs).all fun v => Text.isReal v || Pattern.isPattern v

/-! ### Directives -/

/-- Where a reader of a directive stands, with the places at which parts begin. -/
inductive Place where
  | start
  | name
  | span (first : Nat)
  | field (first : Nat)
  | fields
  | target
  | level (first : Nat)
  deriving DecidableEq, Repr

/-- The place after the character `c` at the place `n`. -/
def step (cs : List Char) (p : Place) (n : Nat) (c : Char) : Except FilterFault Place :=
  match p with
  | .start =>
    if c = '[' then .ok (.span (n + 1))
    else if c ∈ ['-', ':', '_'] || Text.isLetterOrNumber c then .ok .name
    else .error .malformed
  | .name =>
    if c = '=' then (part cs 0 n).map fun _ => .level (n + 1)
    else if c = '[' then (part cs 0 n).map fun _ => .span (n + 1)
    else .ok .name
  | .span first =>
    if c = ']' then (part cs first n).map fun _ => .target
    else if c.toNat = 0x7B then (part cs first n).map fun _ => .field (n + 1)
    else .ok (.span first)
  | .field first =>
    if c.toNat = 0x7D then do
      if isField (← part cs first n) then return .fields else .error .malformed
    else .ok (.field first)
  | .fields => if c = ']' then .ok .target else .error .malformed
  | .target => if c = '=' then .ok (.level (n + 1)) else .error .malformed
  | .level first => .ok (.level first)

/-- The place after the rest of a directive, which begins at the place `n`. -/
def walk (cs : List Char) : Place → Nat → List Char → Except FilterFault Place
  | p, _, [] => .ok p
  | p, n, c :: rest => do walk cs (← step cs p n c) (n + c.utf8Size) rest

/-- Refuses a text that is no directive. -/
def checkDirective (cs : List Char) : Except FilterFault Unit := do
  match ← walk cs .start 0 (Text.trim cs) with
  | .name => return
  | .target => return
  | .level first =>
    let level ← afterBytes first cs
    if level.isEmpty || isLevel level then return else .error .malformed
  | _ => .error .malformed

/-- Refuses a text that is no filter. Directives are looked at in order, and the first fault
decides. Empty directives mean nothing. -/
def check (text : String) : Except FilterFault Unit :=
  (Text.fields (· = ',') text.toList).forM checkDirective

end LogFilter

end CrowdTask
