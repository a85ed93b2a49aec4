import CrowdTask.Proofs.Run.Trail
import CrowdTask.Proofs.Store.OrderedIds
import Mathlib.Tactic.Common

/-!
# The entries of a download

A download puts the entries that it receives, unless their identifiers are known to be stored. What
some entries make of the stored documents, and of the report, does not depend on the calls that
brought them: `shelveAll documents items` is stored after the entries `items`.

## Main definitions

* `CrowdTask.Download.received`, `CrowdTask.Download.fetched`: the entries that a trail brought, and
  the pages.
* `CrowdTask.Download.shelveAll`: what some entries make of the stored documents.
* `CrowdTask.Download.Progress.settle`: what one entry makes of the report.

## Main results

* `CrowdTask.Download.mem_storedIds_shelveAll`: what is stored after some entries.
* `CrowdTask.Download.observes_steps`: a download makes no calls but its own.
-/

namespace CrowdTask

/-- The entries that a call brought. A page of another size than the usual one is asked for only to
learn the number of assignments. -/
def DeskEvent.received : DeskEvent → List Submission
  | .page _ _ size (.ok listed) => if size = Download.pageSize then listed.items else []
  | _ => []

theorem DeskEvent.received_page (task : TaskId) (number : Nat) (listed : ListingPage) :
    (page task number Download.pageSize (.ok listed)).received = listed.items := by
  rw [received, if_pos rfl]

/-- The number of the page that a call brought, if it is of the usual size. -/
def DeskEvent.fetched : DeskEvent → List Nat
  | .page _ number size (.ok _) => if size = Download.pageSize then [number] else []
  | _ => []

/-- The document that a call stored. -/
def DeskEvent.written : DeskEvent → List (AssignmentId × Json)
  | .put r (.ok ()) => [(r.id, r.document)]
  | _ => []

namespace Download

variable {w : Type}

/-- The entries that the steps brought. -/
def received (steps : List (DeskStep w)) : List Submission :=
  steps.flatMap fun step => step.event.received

@[simp]
theorem received_nil : received ([] : List (DeskStep w)) = [] := rfl

theorem received_cons (step : DeskStep w) (steps : List (DeskStep w)) :
    received (step :: steps) = step.event.received ++ received steps :=
  List.flatMap_cons

@[simp]
theorem received_append (steps steps' : List (DeskStep w)) :
    received (steps ++ steps') = received steps ++ received steps' :=
  List.flatMap_append

theorem received_eq_nil {steps : List (DeskStep w)}
    (h : ∀ step ∈ steps, step.event.received = []) : received steps = [] :=
  List.flatMap_eq_nil_iff.mpr h

/-- The numbers of the pages that the steps brought. -/
def fetched (steps : List (DeskStep w)) : List Nat := steps.flatMap fun step => step.event.fetched

theorem fetched_cons (step : DeskStep w) (steps : List (DeskStep w)) :
    fetched (step :: steps) = step.event.fetched ++ fetched steps :=
  List.flatMap_cons

@[simp]
theorem fetched_append (steps steps' : List (DeskStep w)) :
    fetched (steps ++ steps') = fetched steps ++ fetched steps' :=
  List.flatMap_append

theorem fetched_eq_nil {steps : List (DeskStep w)}
    (h : ∀ step ∈ steps, step.event.fetched = []) : fetched steps = [] :=
  List.flatMap_eq_nil_iff.mpr h

/-- The identifiers of stored documents. -/
def storedIds (documents : List (AssignmentId × Json)) : List AssignmentId := documents.map (·.1)

/-- The stored documents after one entry: its own is put in front, unless there is one for it. -/
def shelve (salt : Option String) (documents : List (AssignmentId × Json)) (x : Submission) :
    List (AssignmentId × Json) :=
  if (storedIds documents).contains x.id then documents
  else (x.id, (WorkResult.decode salt x).document) :: documents

/-- The stored documents after some entries. -/
def shelveAll (salt : Option String) (documents : List (AssignmentId × Json))
    (items : List Submission) : List (AssignmentId × Json) :=
  items.foldl (shelve salt) documents

/-- The report after one entry. -/
def Progress.settle (p : Progress) (x : Submission) : Progress :=
  if p.known.contains x.id then { p with skipped := p.skipped ++ [x.id] }
  else { p with known := x.id :: p.known, written := p.written ++ [x.id] }

/-! ### Stored documents -/

section Shelve

variable {salt : Option String} {documents : List (AssignmentId × Json)} {id : AssignmentId}

theorem shelve_of_mem {x : Submission} (h : x.id ∈ storedIds documents) :
    shelve salt documents x = documents := by
  rw [shelve, if_pos (List.contains_iff_mem.mpr h)]

theorem shelve_of_notMem {x : Submission} (h : x.id ∉ storedIds documents) :
    shelve salt documents x = (x.id, (WorkResult.decode salt x).document) :: documents := by
  rw [shelve, if_neg fun h' => h (List.contains_iff_mem.mp h')]

theorem storedIds_shelve_of_notMem {x : Submission} (h : x.id ∉ storedIds documents) :
    storedIds (shelve salt documents x) = x.id :: storedIds documents := by
  rw [shelve_of_notMem h]
  rfl

@[simp]
theorem mem_storedIds_shelve {x : Submission} :
    id ∈ storedIds (shelve salt documents x) ↔ id = x.id ∨ id ∈ storedIds documents := by
  by_cases h : x.id ∈ storedIds documents
  · rw [shelve_of_mem h]
    refine ⟨Or.inr, ?_⟩
    rintro (rfl | h')
    · exact h
    · exact h'
  · rw [storedIds_shelve_of_notMem h, List.mem_cons]

@[simp]
theorem shelveAll_nil : shelveAll salt documents [] = documents := rfl

@[simp]
theorem shelveAll_append (items items' : List Submission) :
    shelveAll salt documents (items ++ items') =
      shelveAll salt (shelveAll salt documents items) items' :=
  List.foldl_append

theorem shelveAll_concat (items : List Submission) (x : Submission) :
    shelveAll salt documents (items ++ [x]) = shelve salt (shelveAll salt documents items) x :=
  shelveAll_append items [x]

@[simp]
theorem mem_storedIds_shelveAll {items : List Submission} :
    id ∈ storedIds (shelveAll salt documents items) ↔
      id ∈ storedIds documents ∨ id ∈ items.map Submission.id := by
  induction items generalizing documents with
  | nil => simp
  | cons x rest ih =>
    rw [← List.singleton_append, shelveAll_append, ih, List.map_append, List.mem_append]
    change id ∈ storedIds (shelve salt documents x) ∨ _ ↔ _
    rw [mem_storedIds_shelve, List.map_singleton, List.mem_singleton]
    tauto

theorem shelveAll_of_forall_mem {items : List Submission}
    (h : ∀ x ∈ items, x.id ∈ storedIds documents) : shelveAll salt documents items = documents := by
  induction items with
  | nil => rfl
  | cons x rest ih =>
    obtain ⟨hx, hrest⟩ := List.forall_mem_cons.mp h
    change shelveAll salt (shelve salt documents x) rest = documents
    rw [shelve_of_mem hx, ih hrest]

theorem storedIds_shelveAll_of_forall_notMem {items : List Submission}
    (hnodup : (items.map Submission.id).Nodup) (h : ∀ x ∈ items, x.id ∉ storedIds documents) :
    storedIds (shelveAll salt documents items) =
      (items.map Submission.id).reverse ++ storedIds documents := by
  induction items generalizing documents with
  | nil => rfl
  | cons x rest ih =>
    obtain ⟨hx, hrest⟩ := List.forall_mem_cons.mp h
    obtain ⟨hxrest, hnodup⟩ := List.nodup_cons.mp hnodup
    change storedIds (shelveAll salt (shelve salt documents x) rest) = _
    rw [ih hnodup, storedIds_shelve_of_notMem hx, List.map_cons, List.reverse_cons,
      List.append_assoc]
    · rfl
    · intro y hy hmem
      rcases mem_storedIds_shelve.mp hmem with heq | hmem
      · exact hxrest (heq ▸ List.mem_map_of_mem hy)
      · exact hrest y hy hmem

/-- Adjacent slices of a list. -/
theorem slice_append {β : Type} (xs : List β) {i j k : Nat} (hij : i ≤ j) (hjk : j ≤ k) :
    (xs.take j).drop i ++ (xs.take k).drop j = (xs.take k).drop i := by
  have hj : (xs.take j).drop i = ((xs.take k).drop i).take (j - i) := by
    rw [← min_eq_left hjk, ← List.take_take, List.drop_take, min_eq_left hjk]
  have hk : (xs.take k).drop j = ((xs.take k).drop i).drop (j - i) := by
    rw [List.drop_drop, Nat.add_sub_cancel' hij]
  rw [hj, hk, List.take_append_drop]

/-- The first items of a slice are a slice. -/
theorem eq_slice_of_prefix {β : Type} {xs ys : List β} {j k : Nat}
    (h : ys <+: (xs.take j).drop k) : ∃ j', ys = (xs.take j').drop k := by
  refine ⟨min (k + ys.length) j, ?_⟩
  rw [← List.take_take, ← List.take_drop]
  exact List.prefix_iff_eq_take.mp h

/-- If the first `n` of some entries are stored, in order, then with a slice of them that begins
among the stored ones the first entries remain stored, in order. -/
theorem storedIds_shelveAll_slice {all : List Submission} (hall : (all.map Submission.id).Nodup)
    {n j k : Nat} (hstored : storedIds documents = ((all.take n).map Submission.id).reverse)
    (hk : k ≤ n) :
    storedIds (shelveAll salt documents ((all.take j).drop k)) =
      ((all.take (max n j)).map Submission.id).reverse := by
  have hold {x : Submission} (hx : x ∈ all.take n) : x.id ∈ storedIds documents := by
    rw [hstored, List.mem_reverse]
    exact List.mem_map_of_mem hx
  rcases le_total j n with hj | hj
  · rw [max_eq_left hj, ← hstored, shelveAll_of_forall_mem]
    exact fun x hx => hold (List.take_subset_take_left _ hj (List.drop_subset _ _ hx))
  · have hsplit : all.take n ++ (all.take j).drop n = all.take j := by
      simpa only [List.drop_zero] using slice_append all (Nat.zero_le n) hj
    have hnodup : ((all.take n ++ (all.take j).drop n).map Submission.id).Nodup := by
      rw [hsplit]
      exact hall.sublist ((List.take_sublist _ _).map _)
    rw [List.map_append, List.nodup_append] at hnodup
    have hfirst : shelveAll salt documents ((all.take n).drop k) = documents :=
      shelveAll_of_forall_mem fun x hx => hold (List.drop_subset _ _ hx)
    have hnew : ∀ x ∈ (all.take j).drop n, x.id ∉ storedIds documents := by
      intro x hx hmem
      rw [hstored, List.mem_reverse] at hmem
      exact hnodup.2.2 _ hmem _ (List.mem_map_of_mem hx) rfl
    rw [max_eq_right hj, ← slice_append all hk hj, shelveAll_append, hfirst,
      storedIds_shelveAll_of_forall_notMem hnodup.2.1 hnew, hstored, ← List.reverse_append,
      ← List.map_append, hsplit]

end Shelve

section Settle

variable (p : Progress)

theorem Progress.settle_of_mem {x : Submission} (h : x.id ∈ p.known) :
    p.settle x = { p with skipped := p.skipped ++ [x.id] } := by
  rw [settle, if_pos (List.contains_iff_mem.mpr h)]

theorem Progress.settle_of_notMem {x : Submission} (h : x.id ∉ p.known) :
    p.settle x = { p with known := x.id :: p.known, written := p.written ++ [x.id] } := by
  rw [settle, if_neg fun h' => h (List.contains_iff_mem.mp h')]

/-- The pages that were fetched have no part in what becomes of the entries. -/
theorem Progress.foldl_settle_pages (pages : List Nat) (items : List Submission) :
    items.foldl settle { p with pages := pages } =
      { items.foldl settle p with pages := pages } := by
  induction items generalizing p with
  | nil => rfl
  | cons x rest ih =>
    rw [List.foldl_cons, List.foldl_cons, ← ih]
    unfold settle
    split_ifs <;> rfl

@[simp]
theorem Progress.mem_known_settle {x : Submission} {id : AssignmentId} :
    id ∈ (p.settle x).known ↔ id = x.id ∨ id ∈ p.known := by
  by_cases h : x.id ∈ p.known
  · rw [settle_of_mem p h]
    refine ⟨Or.inr, ?_⟩
    rintro (rfl | h')
    · exact h
    · exact h'
  · rw [settle_of_notMem p h]
    exact List.mem_cons

end Settle

/-! ### The calls of a download -/

section Calls

variable {market : Marketplace (StateM w)} {results : ResultStore (StateM w)}
  {salt : Option String} {task : TaskId} {C : DeskStep w → Prop}

theorem observes_takeEntry
    (hput : ∀ r a, C ⟨a, .put r ((results.put r).run a).1, ((results.put r).run a).2⟩)
    (p : Progress) (x : Submission) :
    Observes C (takeEntry results.observed salt p x) (takeEntry results salt p x) := by
  unfold takeEntry
  split_ifs
  · exact .pure _
  · refine .bind (.lift (.put (.decode salt x)) (results.put (.decode salt x)) (hput _)) ?_
    rintro ((_ | _) | ⟨⟨⟩⟩)
    · exact .pure _
    · exact .throw _
    · exact .pure _

theorem observes_takePage
    (hput : ∀ r a, C ⟨a, .put r ((results.put r).run a).1, ((results.put r).run a).2⟩)
    (hpage : ∀ page a, C ⟨a, .page task page pageSize ((market.page task page pageSize).run a).1,
      ((market.page task page pageSize).run a).2⟩)
    (p : Progress) (page : Nat) :
    Observes C (takePage market.observed results.observed salt task p page)
      (takePage market results salt task p page) := by
  refine .bind (.attempt DownloadError.marketplace (.page task page pageSize) _ (hpage page)) ?_
  intro fetched
  exact .foldlM _ (observes_takeEntry hput) _

theorem observes_takePages
    (hpage : ∀ p page, Observes C (takePage market.observed results.observed salt task p page)
      (takePage market results salt task p page)) :
    ∀ n page p, Observes C (takePages market.observed results.observed salt task n page p)
      (takePages market results salt task n page p)
  | 0, _, p => .pure p
  | n + 1, page, p => .bind (hpage p page) (observes_takePages hpage n (page + 1))

/-- The calls of a download: the stored identifiers, the first page of size one, and what is called
for each page. -/
theorem observes_steps (hids : ∀ a, C ⟨a, .ids (results.ids.run a).1, (results.ids.run a).2⟩)
    (hcount : ∀ a, C ⟨a, .page task 1 1 ((market.page task 1 1).run a).1,
      ((market.page task 1 1).run a).2⟩)
    (hpage : ∀ p page, Observes C (takePage market.observed results.observed salt task p page)
      (takePage market results salt task p page)) :
    Observes C (steps market.observed results.observed salt task)
      (steps market results salt task) := by
  refine .bind (.attempt DownloadError.results .ids results.ids hids) fun known => ?_
  refine .bind (.attempt DownloadError.marketplace (.page task 1 1) _ hcount) fun first => ?_
  dsimp only
  split_ifs
  · exact .pure _
  · exact .bind (observes_takePages hpage _ _ _) fun p => .pure _

end Calls

end Download

end CrowdTask
