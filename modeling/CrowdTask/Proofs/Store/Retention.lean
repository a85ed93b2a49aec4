import CrowdTask.Proofs.Store.ResultFiles

/-!
# Written results are kept

A result that was written counts as stored if its file can be read as JSON again. The file holds the
fields of the assignment together with the decoded answers, and the text of an answer may itself be
JSON that nests almost as deep as can be read. Inside of a result it then nests too deep: the result
is written, but it is not listed, and it is written once more when it comes again. Every other
result is kept for good.

## Main definitions

* `CrowdTask.ResultDirectory.Call`, `CrowdTask.ResultDirectory.after`: calls of a store of results,
  and the files after them.
* `CrowdTask.ResultDirectory.IsKept`: the results that are kept from now on.

## Main results

* `CrowdTask.isFinite_document`: the numbers in a result can be written and read.
* `CrowdTask.ResultDirectory.isKept_iff_of_put`: a written result is kept if and only if it does not
  nest too deep.
* `CrowdTask.ResultDirectory.put_deepText_again`: a result that is written twice.
-/

namespace CrowdTask

open Json

/-! ### Documents -/

theorem membersFinite_insert {key : String} {value : Json} {ms : Members} (hvalue : value.IsFinite)
    (hms : MembersFinite ms) : MembersFinite (ms.insert key value) := by
  rw [membersFinite_iff] at hms ⊢
  intro m hm
  rcases Members.mem_insert hm with rfl | hm
  · exact hvalue
  · exact hms m hm

/-- What is stored of an assignment with finite numbers has finite numbers: those in the answers
were read. -/
theorem isFinite_document (salt : Option String) {a : Submission} (ha : MembersFinite a.fields) :
    (WorkResult.decode salt a).document.IsFinite := by
  have hfields : MembersFinite (WorkResult.decode salt a).fields := by
    cases salt with
    | none => exact ha
    | some s =>
      simp only [WorkResult.decode, anonymizeWorker]
      split
      · exact membersFinite_insert trivial ha
      · exact ha
  refine membersFinite_insert (membersFinite_iff.mpr fun m hm => ?_) hfields
  obtain ⟨block, -, hblock⟩ := List.mem_filterMap.mp (Members.mem_of_mem_ofList hm)
  obtain ⟨q, -, rfl⟩ := Option.map_eq_some_iff.mp hblock
  dsimp only
  rw [Answers.value]
  cases hread : Json.read? (Answers.freeText block) with
  | none => trivial
  | some v => exact (finite_of_read? hread).1

namespace ResultDirectory

open FileTree

/-- A result counts as complete once it is written, unless it nests too deep to be read. -/
theorem isWhole_text {r : WorkResult} (hr : r.document.IsFinite) :
    isWhole (text r).toUTF8 = true ↔ r.document.nesting ≤ nestingLimit := by
  rw [isWhole, readBytes?_toUTF8, text]
  exact read?_indented_isSome hr

/-! ### Calls -/

/-- A call of a store of results. -/
inductive Call where
  | ids
  | put (r : WorkResult)

/-- The files after some calls of the store at a path. -/
def after (path : String) (t : FileTree) (calls : List Call) : FileTree :=
  calls.foldl (fun t call =>
    match call with
    | .ids => ((store system path).ids t).2
    | .put r => ((store system path).put r t).2) t

/-- Whether a result is kept from now on: it is among those that are listed next, its file holds it
after all calls of the store, and it is refused whenever it is written again. -/
structure IsKept (path : String) (r : WorkResult) (t : FileTree) : Prop where
  listed : ∀ found, ((store system path).ids t).1 = .ok found → r.id ∈ found
  unchanged : ∀ calls, (after path t calls).read ⟨path⟩ (fileName r.id) = .ok (text r).toUTF8
  refused : ∀ calls r', r'.id = r.id →
    ((store system path).put r' (after path t calls)).1 = .error (.alreadyStored r.id)

variable {path : String} {t t' : FileTree} {r : WorkResult}

theorem store_of_ne (hpath : path ≠ "") :
    store system path = ⟨ids system ⟨path⟩, put system ⟨path⟩⟩ :=
  if_neg hpath

theorem ne_of_put_ok (h : (store system path).put r t = (.ok (), t')) : path ≠ "" := by
  rintro rfl
  have hnowhere : (store system "").put r t = (.error (.io .notFound), t) := rfl
  rw [hnowhere] at h
  cases h

/-- A complete file stays as it is. -/
theorem read_after (hpath : path ≠ "") {bytes : ByteArray}
    (hread : t.read ⟨path⟩ (fileName r.id) = .ok bytes) (hwhole : isWhole bytes = true)
    (calls : List Call) : (after path t calls).read ⟨path⟩ (fileName r.id) = .ok bytes := by
  induction calls generalizing t with
  | nil => exact hread
  | cons call calls ih =>
    refine ih ?_
    rw [store_of_ne hpath]
    cases call with
    | ids =>
      show (ids system ⟨path⟩ t).2.read ⟨path⟩ (fileName r.id) = .ok bytes
      rw [ids_snd]
      exact hread
    | put r' => exact read_put hread fun _ => hwhole

/-- A written result is kept if and only if it does not nest too deep. Whether the results are
listed at all is a matter of the other entries of the directory. -/
theorem isKept_iff_of_put (salt : Option String) (a : Submission) (ha : MembersFinite a.fields)
    (hput : (store system path).put (.decode salt a) t = (.ok (), t')) :
    (IsKept path (.decode salt a) t' ↔
        (WorkResult.decode salt a).document.nesting ≤ nestingLimit) ∧
      ((∃ found, ((store system path).ids t').1 = .ok found) ↔ IsListable ⟨path⟩ t') := by
  have hpath := ne_of_put_ok hput
  have hwhole := isWhole_text (isFinite_document salt ha)
  rw [store_of_ne hpath] at hput
  have hread := read_of_put_ok hput
  obtain ⟨q, hq, hnode⟩ := read_eq_ok.mp hread
  obtain ⟨p, hp, -, rfl⟩ := locate_eq_ok.mp hq
  have hnames : t'.names ⟨path⟩ = .ok (t'.namesAt p) := names_eq_ok.mpr ⟨p, hp, rfl⟩
  have hids : (∃ found, ((store system path).ids t').1 = .ok found) ↔ IsListable ⟨path⟩ t' := by
    rw [store_of_ne hpath]
    exact ids_isOk_iff hnames
  refine ⟨⟨fun hkept => ?_, fun hnesting => ?_⟩, hids⟩
  · by_contra hdeep
    have hpart : isWhole (text (.decode salt a)).toUTF8 = false :=
      Bool.eq_false_iff.mpr fun h => hdeep (hwhole.mp h)
    have hrefused := hkept.refused [] _ rfl
    rw [store_of_ne hpath] at hrefused
    exact put_ne_of_not_isWhole hread hpart hrefused
  · have hcomplete := hwhole.mpr hnesting
    have hmem : fileName (WorkResult.decode salt a).id ∈ t'.namesAt p :=
      mem_namesAt (not_isFixed_of_ne (t := t') (by simp [hnode])) hnode
    refine ⟨fun found hfound => ?_, read_after hpath hread hcomplete, fun calls r' hid => ?_⟩
    · rw [store_of_ne hpath] at hfound
      exact (mem_ids hnames hfound _).mpr ⟨_, hmem, idOfName?_fileName _, _, hread, hcomplete⟩
    · have hlater := read_after hpath hread hcomplete calls
      rw [← hid] at hlater
      rw [store_of_ne hpath, ← hid]
      exact congrArg Prod.fst (put_of_isWhole hlater hcomplete)

/-- A directory that holds nothing but a written result can be listed. -/
theorem isListable_of_put (hput : (store system path).put r t = (.ok (), t'))
    (hnames : t'.names ⟨path⟩ = .ok [fileName r.id]) : IsListable ⟨path⟩ t' := by
  intro names hnames' name hname _
  rw [store_of_ne (ne_of_put_ok hput)] at hput
  obtain rfl := Except.ok.inj (hnames.symm.trans hnames')
  obtain rfl := List.mem_singleton.mp hname
  exact ⟨_, read_of_put_ok hput⟩

/-- A result with the answer to one question. -/
def answered (text : String) : Submission where
  id := ⟨"A1", by decide⟩
  fields := [("AssignmentId", .str "A1")]
  answerXml := "<Answer><QuestionIdentifier>q</QuestionIdentifier><FreeText>" ++ text ++
    "</FreeText></Answer>"

/-- What becomes of writing the result to an empty directory. -/
def firstPut (text : String) : Except ResultError Unit × FileTree :=
  (store system "results").put (.decode none (answered text)) .empty

theorem isKept_answered :
    MembersFinite (answered "[1]").fields ∧ (firstPut "[1]").1 = .ok () ∧
      IsKept "results" (.decode none (answered "[1]")) (firstPut "[1]").2 ∧
      ∃ found, ((store system "results").ids (firstPut "[1]").2).1 = .ok found := by
  have hfinite : MembersFinite (answered "[1]").fields := ⟨trivial, trivial⟩
  have hok : (firstPut "[1]").1 = .ok () := by decide +kernel
  have hput : (store system "results").put (.decode none (answered "[1]")) .empty =
      (.ok (), (firstPut "[1]").2) := by
    rw [← hok]
    exact (Prod.eta _).symm
  have hnesting : (WorkResult.decode none (answered "[1]")).document.nesting ≤ nestingLimit := by
    decide +kernel
  have hnames : (firstPut "[1]").2.names ⟨"results"⟩ =
      .ok [fileName (WorkResult.decode none (answered "[1]")).id] := by
    decide +kernel
  obtain ⟨hkept, hlist⟩ := isKept_iff_of_put none _ hfinite hput
  exact ⟨hfinite, hok, hkept.mpr hnesting, hlist.mpr (isListable_of_put hput hnames)⟩

/-- Arrays that are nested in one another. -/
def nestedArray : Nat → Json
  | 0 => .arr []
  | n + 1 => .arr [nestedArray n]

theorem nesting_nestedArray (n : Nat) : (nestedArray n).nesting = n + 1 := by
  induction n with
  | zero => rfl
  | succ n ih => simp [nestedArray, nesting, itemsNesting, ih]

theorem compactChars_nestedArray (n : Nat) :
    compactChars (nestedArray n) = List.replicate (n + 1) '[' ++ List.replicate (n + 1) ']' := by
  induction n with
  | zero => rfl
  | succ n ih =>
    rw [nestedArray, compactChars, compactItems, ih, List.replicate_succ (n := n + 1),
      List.replicate_succ' (n := n + 1) (a := ']')]
    simp

theorem toJson?_nestedArray (n : Nat) {levels : Nat} (h : n < levels) :
    Raw.toJson? levels (raw (nestedArray n)) = some (nestedArray n) := by
  induction n generalizing levels with
  | zero => simp [nestedArray, raw, rawItems, Raw.toJson?, Raw.itemsToJson?, Nat.ne_of_gt h]
  | succ n ih =>
    have hlevels : levels ≠ 0 := by omega
    simp [nestedArray, raw, rawItems, Raw.toJson?, Raw.itemsToJson?, hlevels,
      ih (show n < levels - 1 by omega)]

/-- An answer that can be read, but not as a part of a result. -/
def deepText : String := (nestedArray 125).compact

theorem value_deepText : Answers.value deepText = nestedArray 125 := by
  have hread : Json.read? deepText = some (nestedArray 125) := by
    rw [Json.read?, deepText, rawRead?_compact, Option.bind_some,
      toJson?_nestedArray 125 (by decide)]
  rw [Answers.value, hread, Option.getD_some]

theorem decode_deepText :
    Answers.decode (answered deepText).answerXml = [("q", nestedArray 125)] := by
  have hdeep : deepText = String.ofList (List.replicate 126 '[' ++ List.replicate 126 ']') := by
    rw [deepText, compact, compactChars_nestedArray]
  have hchars : (answered deepText).answerXml.toList =
      "<Answer><QuestionIdentifier>q</QuestionIdentifier><FreeText>".toList ++
        (List.replicate 126 '[' ++ List.replicate 126 ']') ++ "</FreeText></Answer>".toList := by
    rw [answered, String.toList_append, String.toList_append, hdeep,
      String.toList_ofList (l := List.replicate 126 '[' ++ List.replicate 126 ']')]
  have hblocks : (Markup.bodies "Answer" (answered deepText).answerXml.toList).map
      (fun block =>
        (Answers.question? block, (Markup.body? "FreeText" block).map Markup.unescape)) =
        [(some "q", some (List.replicate 126 '[' ++ List.replicate 126 ']'))] := by
    rw [hchars]
    decide +kernel
  obtain ⟨block, hbodies, hblock⟩ := List.map_eq_singleton_iff.mp hblocks
  obtain ⟨hquestion, htext⟩ := Prod.mk.inj hblock
  obtain ⟨body, hbody, hunescape⟩ := Option.map_eq_some_iff.mp htext
  have hfree : Answers.freeText block = deepText := by
    rw [Answers.freeText, hbody, hdeep, ← hunescape]
  have hanswer : Answers.ofBlock? block = some ("q", nestedArray 125) := by
    rw [Answers.ofBlock?, hquestion, hfree, value_deepText, Option.map_some]
  rw [Answers.decode, hbodies, List.filterMap_cons, hanswer]
  rfl

theorem nesting_deepText : (WorkResult.decode none (answered deepText)).document.nesting = 128 := by
  have hanswers : (WorkResult.decode none (answered deepText)).answers =
      [("q", nestedArray 125)] := by
    rw [WorkResult.decode, decode_deepText]
  have hfields : (WorkResult.decode none (answered deepText)).fields =
      [("AssignmentId", .str "A1")] := rfl
  rw [WorkResult.document, hanswers, hfields, Members.insert, if_neg (by decide),
    if_neg (by decide), Members.insert]
  simp only [nesting, membersNesting, nesting_nestedArray]
  rfl

/-- A result that is written, but neither listed nor refused when it is written again. -/
theorem put_deepText_again :
    MembersFinite (answered deepText).fields ∧ (firstPut deepText).1 = .ok () ∧
      ((store system "results").ids (firstPut deepText).2).1 = .ok [] ∧
      ((store system "results").put (.decode none (answered deepText))
        (firstPut deepText).2).1 = .ok () := by
  have hfinite : MembersFinite (answered deepText).fields := ⟨trivial, trivial⟩
  have hok : (firstPut deepText).1 = .ok () := by decide +kernel
  have hput : (store system "results").put (.decode none (answered deepText)) .empty =
      (.ok (), (firstPut deepText).2) := by
    rw [← hok]
    exact (Prod.eta _).symm
  have hpart : isWhole (text (.decode none (answered deepText))).toUTF8 = false := by
    rw [Bool.eq_false_iff, ne_eq, isWhole_text (isFinite_document none hfinite), nesting_deepText]
    decide
  have hnames : (firstPut deepText).2.names ⟨"results"⟩ =
      .ok [fileName (WorkResult.decode none (answered deepText)).id] := by
    decide +kernel
  rw [store_of_ne (by decide)] at hput ⊢
  have hread := read_of_put_ok hput
  refine ⟨hfinite, hok, ?_, ?_⟩
  · show (ids system ⟨"results"⟩ (firstPut deepText).2).1 = .ok []
    rw [run_ids, hnames]
    simp only [run_completeIds_cons, idOfName?_fileName, hread, hpart]
    rfl
  · show (put system ⟨"results"⟩ (.decode none (answered deepText)) (firstPut deepText).2).1 =
      .ok ()
    rw [run_put_of_read hread, hpart, if_neg Bool.false_ne_true]
    decide +kernel

end ResultDirectory

end CrowdTask
