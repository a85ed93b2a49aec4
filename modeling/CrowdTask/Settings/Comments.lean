/-!
# Comments in settings

Settings are JSON with comments. A line comment runs from two slashes to the end of its line, a
block comment from a slash and an asterisk to an asterisk and a slash. Inside strings neither
begins. Line ends are kept, and a block comment leaves one blank.

## Main definitions

* `CrowdTask.Comments.strip`: a text without its comments.
-/

namespace CrowdTask.Comments

/-- Where a reader of the text stands. -/
inductive Zone where
  | code
  | string
  | line
  | block
  deriving DecidableEq, Repr

/-- What remains of the rest of a text. -/
def scan : Zone → List Char → List Char
  | .block, [] => [' ']
  | _, [] => []
  | .code, '"' :: cs => '"' :: scan .string cs
  | .code, '/' :: '/' :: cs => scan .line cs
  | .code, '/' :: '*' :: cs => scan .block cs
  | .code, c :: cs => c :: scan .code cs
  | .string, '\\' :: c :: cs => '\\' :: c :: scan .string cs
  | .string, '"' :: cs => '"' :: scan .code cs
  | .string, c :: cs => c :: scan .string cs
  | .line, '\n' :: cs => '\n' :: scan .code cs
  | .line, _ :: cs => scan .line cs
  | .block, '*' :: '/' :: cs => ' ' :: scan .code cs
  | .block, '\n' :: cs => '\n' :: scan .block cs
  | .block, _ :: cs => scan .block cs

/-- The text without its comments. -/
def strip (text : String) : String := String.ofList (scan .code text.toList)

end CrowdTask.Comments
