import CrowdTask.Assignment.Answers
import CrowdTask.Proofs.Json.Values
import CrowdTask.Proofs.Markup.Elements

/-!
# Decoding answers

A document of answers is made of blocks, one for each answer, with free text between them. A block
holds the question and, unless nothing was entered, what was entered, both with references for the
special characters. Since an escaped text has no angle bracket, whatever a worker enters stays
inside its element, and the answers are read back as they were entered. Of several blocks with one
question the last counts.

## Main definitions

* `CrowdTask.Answers.Block`: an answer with the text around its elements.
* `CrowdTask.Answers.document`: the document with given blocks.
* `CrowdTask.Answers.IsFiller`: what can stand between the elements.

## Main results

* `CrowdTask.Answers.bodies_document`: the blocks of a document are found.
* `CrowdTask.Answers.decode_document`: the answers in a document are those of its blocks.
-/

namespace CrowdTask.Answers

open Markup

/-- An answer as it stands in a document, with the text before and between its elements. -/
structure Block where
  /-- What stands before the block. -/
  before : List Char
  /-- What stands between the start of the block and the question. -/
  opening : List Char
  question : String
  /-- What stands between the question and the free text, if there is a free text. -/
  middle : List Char
  text? : Option String
  /-- What stands between the last element and the end of the block. -/
  closing : List Char

namespace Block

/-- What stands between the tags of a block. -/
def body (b : Block) : List Char :=
  match b.text? with
  | none => b.opening ++ element "QuestionIdentifier" (escape b.question.toList) ++ b.closing
  | some text =>
    b.opening ++ element "QuestionIdentifier" (escape b.question.toList) ++
      (b.middle ++ element "FreeText" (escape text.toList) ++ b.closing)

/-- The answer of a block: the value of a free text that is JSON, any other free text itself, and
the empty text if there is none. -/
def answer (b : Block) : Json :=
  match b.text? with
  | none => .str ""
  | some text =>
    match Json.read? text with
    | some value => value
    | none => .str text

end Block

/-- A document with the given blocks. -/
def document (blocks : List Block) (after : List Char) : String :=
  String.ofList (blocks.flatMap (fun b => b.before ++ element "Answer" b.body) ++ after)

/-- The tags that have a meaning in a document. -/
def tags : List (List Char) :=
  ["Answer", "QuestionIdentifier", "FreeText"].flatMap fun name => [startTag name, endTag name]

/-- A text without the tags that have a meaning. -/
def IsFiller (cs : List Char) : Prop := ∀ t ∈ tags, ¬t <:+: cs

instance : DecidablePred IsFiller := fun _ => inferInstanceAs (Decidable (∀ t ∈ tags, _))

/-- A block with a question that is not blank at its ends, and with filler around its elements. -/
structure Block.IsPlain (b : Block) : Prop where
  head : ∀ c ∈ b.question.toList.head?, Text.isBlank c = false
  last : ∀ c ∈ b.question.toList.getLast?, Text.isBlank c = false
  before : IsFiller b.before
  opening : IsFiller b.opening
  middle : IsFiller b.middle
  closing : IsFiller b.closing

variable {b : Block} {blocks : List Block} {after : List Char}

/-! ### The elements of a block -/

/-- Of the tags of a block, those of the question are found around the question only. -/
theorem not_infix_question {p gap rest : List Char} (hp : IsLabel p)
    (hstart : p ≠ "QuestionIdentifier".toList) (hend : p ≠ "/QuestionIdentifier".toList)
    (hgap : ¬tag p <:+: gap) (hrest : ¬tag p <:+: rest) (question : String) :
    ¬tag p <:+: gap ++ element "QuestionIdentifier" (escape question.toList) ++ rest :=
  (not_infix_append_element_append_iff hp (by decide) _ _ _).mpr
    ⟨hgap, hstart, not_infix_escape _ _, hend, hrest⟩

namespace Block

/-- A block ends with its own end tag. -/
theorem not_endTag_infix_body (h : b.IsPlain) : ¬endTag "Answer" <:+: b.body := by
  have hfiller : ∀ {cs}, IsFiller cs → ¬endTag "Answer" <:+: cs := fun hcs => hcs _ (by decide)
  unfold body
  split
  · exact not_infix_question (by decide) (by decide) (by decide) (hfiller h.opening)
      (hfiller h.closing) _
  · refine not_infix_question (by decide) (by decide) (by decide) (hfiller h.opening) ?_ _
    exact (not_infix_append_element_append_iff (by decide) (by decide) _ _ _).mpr
      ⟨hfiller h.middle, by decide, not_infix_escape _ _, by decide, hfiller h.closing⟩

/-- The question of a block is read back. -/
theorem question?_body (h : b.IsPlain) : question? b.body = some b.question := by
  have hbody : body? "QuestionIdentifier" b.body = some (escape b.question.toList) := by
    unfold body
    split
    all_goals
      exact body?_append (by decide) (h.opening _ (by decide)) (not_infix_escape _ _) _
  rw [question?, hbody, Option.map_some, trim_escape h.head h.last, unescape_escape,
    String.ofList_toList]

/-- The free text of a block is read back. -/
theorem freeText_body (h : b.IsPlain) : freeText b.body = b.text?.getD "" := by
  have hquestion : ∀ {rest}, IsFiller rest → ¬startTag "FreeText" <:+:
      b.opening ++ element "QuestionIdentifier" (escape b.question.toList) ++ rest :=
    fun hrest => not_infix_question (by decide) (by decide) (by decide)
      (h.opening _ (by decide)) (hrest _ (by decide)) _
  unfold freeText body
  cases b.text? with
  | none =>
    have hnone := element?_eq_none (hquestion h.closing)
    simp only [body?, hnone, Option.map_none, Option.getD_none]
  | some text =>
    have hbody := body?_append (by decide) (hquestion h.middle)
      (not_infix_escape "/FreeText".toList text.toList) b.closing
    simp only [List.append_assoc] at hbody ⊢
    rw [hbody]
    exact congrArg String.ofList (unescape_escape _) |>.trans String.ofList_toList

theorem value_eq_answer (b : Block) : value (b.text?.getD "") = b.answer := by
  unfold answer
  cases b.text? with
  | none => rfl
  | some text =>
    simp only [value, Option.getD_some]
    cases Json.read? text with
    | none => rfl
    | some value => rfl

theorem ofBlock?_body (h : b.IsPlain) : ofBlock? b.body = some (b.question, b.answer) := by
  rw [ofBlock?, question?_body h, freeText_body h, value_eq_answer, Option.map_some]

end Block

/-! ### The blocks of a document -/

/-- The blocks of a document are found. -/
theorem bodies_document (hblocks : ∀ b ∈ blocks, b.IsPlain) (hafter : IsFiller after) :
    bodies "Answer" (document blocks after).toList = blocks.map Block.body := by
  rw [document, String.toList_ofList]
  induction blocks with
  | nil => exact bodies_eq_nil (hafter _ (by decide))
  | cons b blocks ih =>
    obtain ⟨hb, hblocks⟩ := List.forall_mem_cons.mp hblocks
    rw [List.flatMap_cons, List.append_assoc, List.map_cons, ← ih hblocks]
    exact bodies_append (by decide) (hb.before _ (by decide)) (Block.not_endTag_infix_body hb) _

theorem decode_eq_ofList (hblocks : ∀ b ∈ blocks, b.IsPlain) (hafter : IsFiller after) :
    decode (document blocks after) =
      Json.Members.ofList (blocks.map fun b => (b.question, b.answer)) := by
  have hanswers : ∀ {blocks : List Block}, (∀ b ∈ blocks, b.IsPlain) →
      (blocks.map Block.body).filterMap ofBlock? = blocks.map fun b => (b.question, b.answer) := by
    intro blocks hblocks
    rw [List.filterMap_map, ← List.filterMap_eq_map]
    exact List.filterMap_congr fun b hb => Block.ofBlock?_body (hblocks b hb)
  rw [decode, bodies_document hblocks hafter, hanswers hblocks]

theorem get?_map_answers (blocks : List Block) (question : String) :
    Json.Members.get? question (blocks.map fun b => (b.question, b.answer) : Json.Members) =
      (blocks.find? fun b => b.question = question).map Block.answer := by
  induction blocks with
  | nil => rfl
  | cons b blocks ih =>
    by_cases h : b.question = question
    · simp [Json.Members.get?, h]
    · rw [List.map_cons, Json.Members.get?, if_neg h, ih, List.find?_cons_of_neg (by simpa using h)]

/-- The answers in a document are those of its blocks: to each question the answer of its last
block, and to no other. They are ordered by question. -/
theorem decode_document (hblocks : ∀ b ∈ blocks, b.IsPlain) (hafter : IsFiller after) :
    (∀ question, (decode (document blocks after)).get? question =
      (blocks.reverse.find? fun b => b.question = question).map Block.answer) ∧
    (decode (document blocks after)).Pairwise fun m m' => m.1 < m'.1 := by
  rw [decode_eq_ofList hblocks hafter]
  refine ⟨fun question => ?_, Json.Members.pairwise_ofList _⟩
  rw [Json.Members.get?_ofList, ← List.map_reverse, get?_map_answers]

/-- Four blocks: for one question a word and later a number are entered, for another nothing, and
for a third a text that looks like the end of its own element. -/
def fourBlocks : List Block :=
  [⟨"<QuestionFormAnswers>\n".toList, "\n".toList, "mood", [], some "glad", []⟩,
    ⟨"\n".toList, [], "note", [], none, "\n".toList⟩,
    ⟨[], [], "mood", "\n".toList, some "17", []⟩,
    ⟨[], [], "why", [], some "</FreeText>&amp;", []⟩]

theorem decode_fourBlocks :
    let answers := decode (document fourBlocks "</QuestionFormAnswers>".toList)
    (∀ b ∈ fourBlocks, b.IsPlain) ∧ IsFiller "</QuestionFormAnswers>".toList ∧
      answers.get? "mood" = some (.num (.int (.ofUInt32 17))) ∧
      answers.get? "note" = some (.str "") ∧ answers.get? "why" = some (.str "</FreeText>&amp;") ∧
      answers.get? "FreeText" = none := by
  have hedge : ∀ {o : Option Char}, (o.all fun c => !Text.isBlank c) = true →
      ∀ c ∈ o, Text.isBlank c = false := by
    rintro _ h c rfl
    simpa using h
  have hplain : ∀ b ∈ fourBlocks, b.IsPlain := by
    intro b hb
    simp only [fourBlocks, List.mem_cons, List.not_mem_nil, or_false] at hb
    rcases hb with rfl | rfl | rfl | rfl
    all_goals
      exact ⟨hedge (by decide), hedge (by decide), by decide, by decide, by decide, by decide⟩
  have hafter : IsFiller "</QuestionFormAnswers>".toList := by decide
  obtain ⟨hall, -⟩ := decode_document hplain hafter
  have hnumber : value "17" = .num (.int (.ofUInt32 17)) :=
    congrArg (Option.getD · _) (Json.read?_compact (v := .num (.int (.ofUInt32 17))) trivial
      (by decide))
  refine ⟨hplain, hafter, (hall "mood").trans ?_, hall "note", hall "why", hall "FreeText"⟩
  exact congrArg some ((Block.value_eq_answer _).symm.trans hnumber)

end CrowdTask.Answers
