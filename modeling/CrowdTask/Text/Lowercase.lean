import CrowdTask.Text.CaseTable

/-!
# Lower case

Every capital is replaced by its small letter. Two capitals need more than a table: the dotted
capital I becomes an i followed by a combining dot, and a capital sigma becomes a final sigma
exactly when a cased letter precedes it and none follows it, marks being skipped on both sides.

## Main definitions

* `CrowdTask.Text.lowercase`: the lower-case form of a text.
* `CrowdTask.Text.lowerAscii`, `CrowdTask.Text.upperAscii`: the forms that change only the Latin
  letters A to Z.
-/

namespace CrowdTask.Text

/-- Whether `c` has a case. -/
def isCased (c : Char) : Bool :=
  if c.toNat < 128 then c.isAlpha else inRanges casedRanges c.toNat

/-- Whether `c` is a mark that is skipped when the neighbour of a letter is looked for. -/
def isCaseIgnorable (c : Char) : Bool := inRanges caseIgnorableRanges c.toNat

/-- Whether the first character that is no mark has a case. -/
def startsCased (cs : List Char) : Bool :=
  match cs.dropWhile isCaseIgnorable with
  | [] => false
  | c :: _ => isCased c

/-- The small letters of one capital; any other character is kept. -/
def lowerLetter (c : Char) : List Char :=
  if c.toNat < 128 then [c.toLower]
  else if c.toNat = 0x130 then ['i', Char.ofNat 0x307]
  else
    match lowerRanges.findSome? (·.lower? c.toNat) with
    | some n => [Char.ofNat n]
    | none => [c]

/-- The lower-case form of the rest of a text whose earlier characters, last one first, are
`before`. -/
def lowercaseAfter (before : List Char) : List Char → List Char
  | [] => []
  | c :: cs =>
    let small :=
      if c.toNat = 0x3A3 then
        if startsCased before && !startsCased cs then [Char.ofNat 0x3C2] else [Char.ofNat 0x3C3]
      else lowerLetter c
    small ++ lowercaseAfter (c :: before) cs

/-- The lower-case form of a text. -/
def lowercase (cs : List Char) : List Char := lowercaseAfter [] cs

/-- Replaces the capitals A to Z by small letters. -/
def lowerAscii (cs : List Char) : List Char := cs.map Char.toLower

/-- Replaces the small letters a to z by capitals. -/
def upperAscii (cs : List Char) : List Char := cs.map Char.toUpper

end CrowdTask.Text
