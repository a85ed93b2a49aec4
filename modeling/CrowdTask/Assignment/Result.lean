import CrowdTask.Assignment.Answers
import CrowdTask.Digest.Sha256
import CrowdTask.Identifier

/-!
# Assignments

An assignment is the work of one worker on a task. It comes from the marketplace as an object of
any shape with an identifier, together with the worker's answers in marked-up text. What is stored
of it is a document: the object, with the decoded answers added and the worker's identifier
replaced by a digest when a salt is given.

## Main definitions

* `CrowdTask.Submission`: an assignment as it comes from the marketplace.
* `CrowdTask.ListingPage`: a slice of the assignments of a task.
* `CrowdTask.WorkResult`: a decoded assignment.
* `CrowdTask.WorkResult.document`: what is stored of it.
-/

namespace CrowdTask

/-- An assignment as it comes from the marketplace. -/
structure Submission where
  id : AssignmentId
  fields : Json.Members
  answerXml : String

/-- A slice of the assignments of a task, and the number of all of them. -/
structure ListingPage where
  total : Nat
  items : List Submission

/-- A decoded assignment. -/
structure WorkResult where
  id : AssignmentId
  fields : Json.Members
  answers : Json.Members

/-- The field with the identifier of the worker. -/
def workerMember : String := "WorkerId"

/-- The field of a document with the answers. -/
def decodedMember : String := "answers"

/-- The digest that stands for a worker. -/
def anonymousWorker (salt worker : String) : String :=
  Digest.hex (Digest.sha256 (Digest.utf8 salt ++ Digest.utf8 worker))

/-- The fields of an assignment with the identifier of the worker, if it is a text, replaced. -/
def anonymizeWorker (salt : String) (fields : Json.Members) : Json.Members :=
  match fields.get? workerMember with
  | some (.str worker) => fields.insert workerMember (.str (anonymousWorker salt worker))
  | _ => fields

namespace WorkResult

/-- Decodes an assignment. With a salt the worker stays anonymous. -/
def decode (salt : Option String) (a : Submission) : WorkResult where
  id := a.id
  fields := match salt with
    | some s => anonymizeWorker s a.fields
    | none => a.fields
  answers := Answers.decode a.answerXml

/-- What is stored of an assignment. -/
def document (r : WorkResult) : Json :=
  .obj (r.fields.insert decodedMember (.obj r.answers))

end WorkResult

end CrowdTask
