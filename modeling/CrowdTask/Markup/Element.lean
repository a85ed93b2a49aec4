/-!
# Elements without attributes

The first occurrence of a start tag, written exactly, together with the nearest end tag after it
encloses the body of an element.

## Main definitions

* `CrowdTask.Markup.body?`: the body of the first element of a name.
* `CrowdTask.Markup.bodies`: the bodies of all elements of a name, one after the other.
-/

namespace CrowdTask.Markup

/-- The texts before and after the first occurrence of `pattern`. -/
def splitAt? (pattern : List Char) : List Char → Option (List Char × List Char)
  | [] => if pattern.isEmpty then some ([], []) else none
  | c :: cs =>
    if pattern.isPrefixOf (c :: cs) then some ([], (c :: cs).drop pattern.length)
    else (splitAt? pattern cs).map fun r => (c :: r.1, r.2)

/-- The start tag of an element. -/
def startTag (name : String) : List Char := '<' :: name.toList ++ ['>']

/-- The end tag of an element. -/
def endTag (name : String) : List Char := '<' :: '/' :: name.toList ++ ['>']

/-- The body of the first element of a name, and the text after it. -/
def element? (name : String) (cs : List Char) : Option (List Char × List Char) :=
  (splitAt? (startTag name) cs).bind fun r => splitAt? (endTag name) r.2

/-- The body of the first element of a name. -/
def body? (name : String) (cs : List Char) : Option (List Char) := (element? name cs).map (·.1)

/-- The bodies of at most `bound` elements of a name. -/
def bodiesUpTo (name : String) : Nat → List Char → List (List Char)
  | 0, _ => []
  | bound + 1, cs =>
    match element? name cs with
    | none => []
    | some (body, rest) => body :: bodiesUpTo name bound rest

/-- The bodies of all elements of a name, one after the other. An element has more than one
character, so the length of the text bounds their number. -/
def bodies (name : String) (cs : List Char) : List (List Char) := bodiesUpTo name cs.length cs

end CrowdTask.Markup
