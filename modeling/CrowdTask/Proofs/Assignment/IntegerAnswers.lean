import CrowdTask.Proofs.Json.IntegerTexts
import CrowdTask.Proofs.Json.Values
import CrowdTask.Proofs.Store.Retention

/-!
# Integers that a worker enters

What is entered for a question is the free text of its last block, and its value is the answer. The
file of a result shows the answer on a line of its own. An integer stands there as it was entered if
it fits 64 bits, and in quotes if it is larger than all binary numbers. Any other integer, and minus
zero, is shown as a binary number, with other characters than those that were entered.

## Main definitions

* `CrowdTask.Answers.entered?`: what is entered for a question.
* `CrowdTask.ResultDirectory.answerLine`: the line of an answer in the file of a result.

## Main results

* `CrowdTask.Answers.get?_decode`: the answer to a question is the value of what is entered.
* `CrowdTask.ResultDirectory.integer_answers`: the integers that a file shows as they are entered.
* `CrowdTask.ResultDirectory.integer_changed`: an integer that is shown with other characters.
-/

namespace CrowdTask

open Json

/-! ### What is entered -/

namespace Answers

/-- What is entered for a question: the free text of the last block with the question, its
references replaced. -/
def entered? (question : String) (xml : String) : Option String :=
  ((Markup.bodies "Answer" xml.toList).reverse.find? fun b => question? b = some question).map
    freeText

theorem get?_filterMap_ofBlock? (question : String) (blocks : List (List Char)) :
    Members.get? question (blocks.filterMap ofBlock? : Members) =
      (blocks.find? fun b => question? b = some question).map fun b => value (freeText b) := by
  induction blocks with
  | nil => rfl
  | cons b blocks ih =>
    rw [List.filterMap_cons, ofBlock?]
    rcases hb : question? b with _ | q
    · rw [Option.map_none, ih, List.find?_cons_of_neg (by simp [hb])]
    · rw [Option.map_some, Members.get?]
      by_cases hq : q = question
      · rw [if_pos hq, List.find?_cons_of_pos (by simp [hb, hq]), Option.map_some]
      · rw [if_neg hq, List.find?_cons_of_neg (by simp [hb, hq])]
        exact ih

/-- The answer to a question is the value of what is entered. -/
theorem get?_decode (question : String) (xml : String) :
    (decode xml).get? question = (entered? question xml).map value := by
  rw [decode, Members.get?_ofList, ← List.filterMap_reverse, get?_filterMap_ofBlock?, entered?,
    Option.map_map]
  rfl

end Answers

/-! ### What is shown -/

namespace Json

/-- The line of a member of an object. -/
def memberLine (n : Nat) (key : String) (v : Json) : List Char :=
  newLine n ++ stringChars key ++ ':' :: ' ' :: v.indentedChars n

variable {n : Nat} {key : String} {v : Json}

theorem memberLine_isInfix {ms : List (String × Json)} (h : (key, v) ∈ ms) :
    memberLine n key v <:+: indentedMembers n ms := by
  induction ms with
  | nil => cases h
  | cons m ms ih =>
    obtain ⟨k, w⟩ := m
    rcases ms with _ | ⟨m, ms⟩
    · obtain ⟨rfl, rfl⟩ := Prod.mk.inj (List.mem_singleton.mp h)
      exact List.infix_rfl
    · have hline : indentedMembers n ((k, w) :: m :: ms) =
          memberLine n k w ++ ',' :: indentedMembers n (m :: ms) := by
        rw [indentedMembers, memberLine]
      rw [hline]
      rcases List.mem_cons.mp h with h | h
      · obtain ⟨rfl, rfl⟩ := Prod.mk.inj h
        exact (List.prefix_append _ _).isInfix
      · exact (ih h).trans ((List.suffix_cons ',' _).trans (List.suffix_append _ _)).isInfix

/-- An object is shown with a line for each of its members. -/
theorem memberLine_isInfix_obj {ms : Members} (h : ms.get? key = some v) :
    memberLine (n + 1) key v <:+: indentedChars n (.obj ms) := by
  have hmem := Members.mem_of_get? h
  obtain ⟨m, rest, rfl⟩ := List.exists_cons_of_ne_nil (List.ne_nil_of_mem hmem)
  rw [indentedChars, List.append_assoc, List.cons_append]
  exact (memberLine_isInfix hmem).trans ((List.prefix_append _ _).isInfix.trans
    (List.suffix_cons _ _).isInfix)

end Json

namespace ResultDirectory

/-- The line of an answer in the file of a result. -/
def answerLine (question : String) (answer : Json) : List Char := memberLine 2 question answer

theorem answerLine_isInfix_text {r : WorkResult} {question : String} {answer : Json}
    (h : r.answers.get? question = some answer) :
    answerLine question answer <:+: (text r).toList := by
  have hanswers : (r.fields.insert decodedMember (.obj r.answers)).get? decodedMember =
      some (.obj r.answers) := Members.get?_insert_self _ _ _
  have hdocument : memberLine 1 decodedMember (.obj r.answers) <:+: indentedChars 0 r.document :=
    memberLine_isInfix_obj hanswers
  rw [text, String.toList_append, indented, String.toList_ofList]
  refine List.IsInfix.trans ?_ (hdocument.trans (List.prefix_append _ _).isInfix)
  refine (memberLine_isInfix_obj h).trans (List.IsSuffix.isInfix ?_)
  exact (List.suffix_cons _ _).trans ((List.suffix_cons _ _).trans (List.suffix_append _ _))

variable {salt : Option String} {a : Submission} {question entered : String} {n : Int}

/-- An integer that is entered is answered, and is shown in the file of the result with the
characters that were entered in two cases: it fits 64 bits and is not minus zero, or it is larger
than all binary numbers. In the first case it is a number, in the second a string. -/
theorem integer_answers (hentered : Answers.entered? question a.answerXml = some entered)
    (hinteger : IsInteger entered.toList n) :
    ∃ answer, (WorkResult.decode salt a).answers.get? question = some answer ∧
      IsReadAs entered.toList n answer ∧
      (IsShown entered.toList (answer.indentedChars 2) ↔
        entered ≠ "-0" ∧ -9223372036854775808 ≤ n ∧ n < 18446744073709551616 ∨
          tooLarge ≤ n.natAbs) ∧
      ∀ {d : Route} {t t' : FileTree},
        put FileTree.system d (.decode salt a) t = (.ok (), t') →
          ∃ file : String, t'.read d (fileName a.id) = .ok file.toUTF8 ∧
            answerLine question answer <:+: file.toList := by
  have hanswer : (WorkResult.decode salt a).answers.get? question =
      some (Answers.value entered) := by
    have hanswers : (WorkResult.decode salt a).answers = Answers.decode a.answerXml := rfl
    rw [hanswers, Answers.get?_decode, hentered, Option.map_some]
  have hread := isReadAs_of_isInteger hinteger
  rw [String.ofList_toList] at hread
  have hzero : entered ≠ "-0" ↔ entered.toList ≠ "-0".toList := not_congr String.toList_inj.symm
  refine ⟨_, hanswer, hread, ?_, fun hput => ?_⟩
  · rw [hzero]
    exact isShown_iff hinteger hread 2
  · have hid : (WorkResult.decode salt a).id = a.id := rfl
    have hfile := read_of_put_ok hput
    rw [hid] at hfile
    exact ⟨_, hfile, answerLine_isInfix_text hanswer⟩

theorem integer_answers_of_word :
    let a := answered "18446744073709551615"
    let t := (firstPut "18446744073709551615").2
    Answers.entered? "q" a.answerXml = some "18446744073709551615" ∧
      IsInteger "18446744073709551615".toList 18446744073709551615 ∧
      ∃ answer, (WorkResult.decode none a).answers.get? "q" = some answer ∧
        IsShown "18446744073709551615".toList (answer.indentedChars 2) ∧
        ∃ file : String, t.read ⟨"results"⟩ (fileName a.id) = .ok file.toUTF8 ∧
          answerLine "q" answer <:+: file.toList := by
  intro a t
  have hentered : Answers.entered? "q" a.answerXml = some "18446744073709551615" := by
    decide +kernel
  have hinteger : IsInteger "18446744073709551615".toList 18446744073709551615 :=
    isInteger_decimal 18446744073709551615
  have hok : (firstPut "18446744073709551615").1 = .ok () := by decide +kernel
  have hput : put FileTree.system ⟨"results"⟩ (.decode none a) .empty = (.ok (), t) := by
    rw [← hok]
    exact (Prod.eta (firstPut "18446744073709551615")).symm
  obtain ⟨answer, hanswer, -, hshown, hfile⟩ := integer_answers hentered hinteger
  exact ⟨hentered, hinteger, answer, hanswer,
    hshown.mpr (Or.inl ⟨by decide, by decide, by decide⟩), hfile hput⟩

/-- The least integer above those of 64 bits is shown as the binary number that it is. -/
theorem integer_changed :
    let a := answered "18446744073709551616"
    Answers.entered? "q" a.answerXml = some "18446744073709551616" ∧
      IsInteger "18446744073709551616".toList 18446744073709551616 ∧
      ∃ answer, (WorkResult.decode none a).answers.get? "q" = some answer ∧
        answer.indentedChars 2 = "1.8446744073709552e+19".toList ∧
        ¬IsShown "18446744073709551616".toList (answer.indentedChars 2) := by
  intro a
  have hentered : Answers.entered? "q" a.answerXml = some "18446744073709551616" := by
    decide +kernel
  have hanswers : (WorkResult.decode none a).answers = Answers.decode a.answerXml := rfl
  have hshown : (Answers.value "18446744073709551616").indentedChars 2 =
      "1.8446744073709552e+19".toList := by
    decide +kernel
  refine ⟨hentered, isInteger_decimal 18446744073709551616,
    Answers.value "18446744073709551616", ?_, hshown, ?_⟩
  · rw [hanswers, Answers.get?_decode, hentered, Option.map_some]
  · rw [hshown, IsShown]
    decide

end ResultDirectory

end CrowdTask
