import CrowdTask.Markup.Entity
import CrowdTask.Text.Numeral

/-!
# External pages

A task shows its workers a page of the requester in a frame. The marketplace is told the address of
the page and the height of the frame in a document of marked-up text.

## Main definitions

* `CrowdTask.ExternalPage.document`: the document.
-/

namespace CrowdTask.ExternalPage

/-- The vocabulary of the document. -/
def vocabulary : String :=
  "http://mechanicalturk.amazonaws.com/AWSMechanicalTurkDataSchemas/2006-07-14/" ++
    "ExternalQuestion.xsd"

/-- The lines that begin the document. -/
def opening : String :=
  "<?xml version=\"1.0\" encoding=\"UTF-8\"?>\n<ExternalQuestion xmlns=\"" ++ vocabulary ++ "\">\n"

/-- A line with an element that holds a text. -/
def elementLine (name : String) (body : List Char) : String :=
  "  <" ++ name ++ ">" ++ String.ofList body ++ "</" ++ name ++ ">\n"

/-- The document for a page and the height of its frame. -/
def document (url : String) (frameHeight : UInt32) : String :=
  opening ++ elementLine "ExternalURL" (Markup.escape url.toList) ++
    elementLine "FrameHeight" (Text.decimal frameHeight.toNat) ++ "</ExternalQuestion>"

end CrowdTask.ExternalPage
