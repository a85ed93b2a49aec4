import CrowdTask.Assignment.Result
import CrowdTask.Marketplace.Reply
import CrowdTask.Proofs.Digest
import CrowdTask.Proofs.Json.Values

/-!
# Documents with anonymous workers

What is stored of an entry of a listing has all members of the entry but the marked-up answers,
which it has decoded under a name of their own. With a salt, a digest stands for the identifier of
the worker if that is a text. An identifier that is no text is stored as it came.

## Main definitions

* `CrowdTask.pseudonym`: what is stored for the identifier of a worker.
* `CrowdTask.IsAnonymized`: what is stored of an entry, member by member.
* `CrowdTask.HidesWorker`: whether a digest is stored for the identifier of the worker.

## Main results

* `CrowdTask.eq_or_collide_of_anonymousWorker`: a digest stands for one worker, or for two whose
  messages collide.
* `CrowdTask.anonymous_documents`: what is stored of an entry, and when its worker is hidden.
* `CrowdTask.numbered_worker_shown`: a worker that is not hidden.
-/

namespace CrowdTask

open Json

variable {salt : String} {fields entry document : Members} {key : String}

/-! ### Workers -/

/-- What is stored for the identifier of a worker: a digest for a text, any other value itself. -/
def pseudonym (salt : String) : Json → Json
  | .str worker => .str (anonymousWorker salt worker)
  | value => value

/-- The text for a worker has the form of a digest. -/
theorem isDigestText_anonymousWorker (salt worker : String) :
    Digest.IsDigestText (anonymousWorker salt worker) :=
  Digest.isDigestText_hex _

/-- With one salt, two workers for whom one text stands are the same, or their messages collide. -/
theorem eq_or_collide_of_anonymousWorker {worker worker' : String}
    (h : anonymousWorker salt worker = anonymousWorker salt worker') :
    worker = worker' ∨ Digest.Collide (Digest.utf8 salt ++ Digest.utf8 worker)
      (Digest.utf8 salt ++ Digest.utf8 worker') :=
  (Digest.eq_or_collide_of_hex h).imp_left fun hbytes =>
    Digest.utf8_inj.mp (List.append_cancel_left hbytes)

theorem get?_anonymizeWorker_self (salt : String) (fields : Members) :
    (anonymizeWorker salt fields).get? workerMember =
      (fields.get? workerMember).map (pseudonym salt) := by
  rw [anonymizeWorker]
  split
  next worker hworker => rw [Members.get?_insert_self, hworker, Option.map_some, pseudonym]
  next hother =>
    rcases hget : fields.get? workerMember with _ | value
    · rfl
    · have hvalue : pseudonym salt value = value := by
        cases value with
        | str worker => exact absurd hget (hother worker)
        | _ => rfl
      rw [Option.map_some, hvalue]

theorem get?_anonymizeWorker_of_ne (h : key ≠ workerMember) (salt : String) (fields : Members) :
    (anonymizeWorker salt fields).get? key = fields.get? key := by
  rw [anonymizeWorker]
  split
  · exact Members.get?_insert_of_ne h _ _
  · rfl

/-! ### Documents -/

/-- The marked-up answers of an entry, or the empty text. -/
def markupOf (entry : Members) : String :=
  match entry.get? Submission.markupMember with
  | some (.str markup) => markup
  | _ => ""

/-- Whether a document is what is stored of an entry if there is a salt. -/
structure IsAnonymized (salt : String) (entry document : Members) : Prop where
  /-- A pseudonym stands for the identifier of the worker, if there is one. -/
  worker : document.get? "WorkerId" = (entry.get? "WorkerId").map (pseudonym salt)
  /-- The marked-up answers are gone. -/
  markup : document.get? "Answer" = none
  /-- The answers are there as they are decoded. -/
  answers : document.get? "answers" = some (.obj (Answers.decode (markupOf entry)))
  /-- The document has the other members of the entry, and no more. -/
  others : ∀ key, key ≠ "WorkerId" → key ≠ "Answer" → key ≠ "answers" →
    document.get? key = entry.get? key

/-- Whether the document has a digest for the identifier of the worker, if the entry has one. -/
def HidesWorker (salt : String) (entry document : Members) : Prop :=
  ∀ value, entry.get? "WorkerId" = some value →
    ∃ worker, document.get? "WorkerId" = some (.str (anonymousWorker salt worker)) ∧
      Digest.IsDigestText (anonymousWorker salt worker)

theorem ofMembers_eq_ok {raw : String} {id : AssignmentId}
    (hraw : entry.get? "AssignmentId" = some (.str raw))
    (hid : Identifier.parse .assignment raw = .ok id) :
    Submission.ofMembers entry = .ok ⟨id, entry.erase "Answer", markupOf entry⟩ := by
  have hmarkup : ((entry.get? Submission.markupMember).bind asString?).getD "" =
      markupOf entry := by
    rw [markupOf]
    rcases entry.get? Submission.markupMember with _ | value
    · rfl
    · cases value <;> rfl
  rw [Submission.ofMembers, Submission.idMember, hraw]
  dsimp only
  rw [hid, hmarkup]
  rfl

/-- What is stored of an entry with the given answers. -/
theorem isAnonymized_insert (salt : String) (entry : Members) :
    IsAnonymized salt entry ((anonymizeWorker salt (entry.erase "Answer")).insert decodedMember
      (.obj (Answers.decode (markupOf entry)))) where
  worker := by
    have hself : (anonymizeWorker salt (entry.erase "Answer")).get? "WorkerId" =
        ((entry.erase "Answer").get? "WorkerId").map (pseudonym salt) :=
      get?_anonymizeWorker_self _ _
    rw [Members.get?_insert_of_ne (by decide), hself, Members.get?_erase_of_ne (by decide)]
  markup := by
    rw [Members.get?_insert_of_ne (by decide), get?_anonymizeWorker_of_ne (by decide),
      Members.get?_erase_self]
  answers := Members.get?_insert_self _ _ _
  others key hworker hmarkup hanswers := by
    have hdecoded : key ≠ decodedMember := hanswers
    rw [Members.get?_insert_of_ne hdecoded, get?_anonymizeWorker_of_ne hworker,
      Members.get?_erase_of_ne hmarkup]

/-- A worker is hidden just if the identifier is a text. -/
theorem IsAnonymized.hidesWorker_iff (h : IsAnonymized salt entry document) :
    HidesWorker salt entry document ↔
      ∀ value, entry.get? "WorkerId" = some value → ∃ worker, value = .str worker := by
  refine forall₂_congr fun value hvalue => ?_
  have hworker := h.worker
  rw [hvalue, Option.map_some] at hworker
  constructor
  · rintro ⟨worker, hdigest, -⟩
    rw [hworker, Option.some.injEq] at hdigest
    cases value with
    | str worker => exact ⟨worker, rfl⟩
    | _ => exact nomatch hdigest
  · rintro ⟨worker, rfl⟩
    exact ⟨worker, hworker, isDigestText_anonymousWorker _ _⟩

/-- **Anonymized results carry no raw worker id and lose nothing else**, if the identifier of the
worker is a text. For every salt and every entry with a valid identifier, the document that is
stored has the decoded answers instead of the marked-up ones, a pseudonym for the worker, and all
other members of the entry. The pseudonym is a digest just if the entry has no identifier of the
worker, or one that is a text. -/
theorem anonymous_documents (salt : String) (entry : Members) {raw : String} {id : AssignmentId}
    (hraw : entry.get? "AssignmentId" = some (.str raw))
    (hid : Identifier.parse .assignment raw = .ok id) :
    ∃ a, ∃ document : Members, Submission.ofMembers entry = .ok a ∧ a.id = id ∧
      (WorkResult.decode (some salt) a).document = .obj document ∧
      IsAnonymized salt entry document ∧
      (HidesWorker salt entry document ↔
        ∀ value, entry.get? "WorkerId" = some value → ∃ worker, value = .str worker) :=
  ⟨_, _, ofMembers_eq_ok hraw hid, rfl, rfl, isAnonymized_insert salt entry,
    (isAnonymized_insert salt entry).hidesWorker_iff⟩

/-- An entry with a worker and an answer is stored with both of them changed. -/
theorem anonymous_documents_of_worker :
    Members.get? "AssignmentId" [("Answer", .str "<Answer></Answer>"),
        ("AssignmentId", .str " A1 "), ("WorkerId", .str "W1")] = some (.str " A1 ") ∧
      ∃ a, ∃ document : Members,
        Submission.ofMembers [("Answer", .str "<Answer></Answer>"), ("AssignmentId", .str " A1 "),
          ("WorkerId", .str "W1")] = .ok a ∧ a.id.text = "A1" ∧
        (WorkResult.decode (some "salt") a).document = .obj document ∧
        document.get? "WorkerId" = some (.str (anonymousWorker "salt" "W1")) := by
  have hid : Identifier.parse .assignment " A1 " = .ok ⟨"A1", by decide⟩ := by decide +kernel
  obtain ⟨a, document, ha, hid, hdocument, hstored, -⟩ :=
    anonymous_documents "salt" [("Answer", .str "<Answer></Answer>"), ("AssignmentId", .str " A1 "),
      ("WorkerId", .str "W1")] rfl hid
  exact ⟨rfl, a, document, ha, congrArg Identifier.text hid, hdocument, hstored.worker⟩

/-- A worker that the service names by a number is stored with that number. -/
theorem numbered_worker_shown :
    ∃ a, ∃ document : Members,
      Submission.ofMembers [("AssignmentId", .str "A1"), ("WorkerId", Json.ofUInt32 5)] = .ok a ∧
      (WorkResult.decode (some "salt") a).document = .obj document ∧
      document.get? "WorkerId" = some (Json.ofUInt32 5) ∧
      ¬ HidesWorker "salt" [("AssignmentId", .str "A1"), ("WorkerId", Json.ofUInt32 5)]
        document := by
  have hid : Identifier.parse .assignment "A1" = .ok ⟨"A1", by decide⟩ := by decide +kernel
  have hstored := isAnonymized_insert "salt"
    [("AssignmentId", .str "A1"), ("WorkerId", Json.ofUInt32 5)]
  refine ⟨_, _, ofMembers_eq_ok rfl hid, rfl, hstored.worker, fun hhides => ?_⟩
  obtain ⟨worker, hworker⟩ := hstored.hidesWorker_iff.mp hhides (Json.ofUInt32 5) rfl
  exact nomatch hworker

end CrowdTask
