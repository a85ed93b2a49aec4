import CrowdTask.Json.Reader
import CrowdTask.Markup.Element
import CrowdTask.Markup.Entity
import CrowdTask.Text.Blank

/-!
# Answers

A worker's answers come as marked-up text with one block for each question. A block without a
question is skipped, and of two blocks for one question the later one counts. A free text that is
JSON stands for its value, any other for itself; a block without a free text stands for the empty
text.

## Main definitions

* `CrowdTask.Answers.decode`: the answers in a text, by question.
-/

namespace CrowdTask.Answers

/-- The value of a free text. -/
def value (text : String) : Json := (Json.read? text).getD (.str text)

/-- The question of a block. -/
def question? (block : List Char) : Option String :=
  (Markup.body? "QuestionIdentifier" block).map fun body =>
    String.ofList (Markup.unescape (Text.trim body))

/-- The free text of a block. -/
def freeText (block : List Char) : String :=
  match Markup.body? "FreeText" block with
  | some body => String.ofList (Markup.unescape body)
  | none => ""

/-- The question and the answer of a block. -/
def ofBlock? (block : List Char) : Option (String × Json) :=
  (question? block).map fun q => (q, value (freeText block))

/-- The answers in a text, ordered by question. -/
def decode (xml : String) : Json.Members :=
  Json.Members.ofList ((Markup.bodies "Answer" xml.toList).filterMap ofBlock?)

end CrowdTask.Answers
