import CrowdTask.Proofs.Download.AnyMarket
import CrowdTask.Proofs.Marketplace.Hosting
import CrowdTask.Proofs.Marketplace.Pages

/-!
# What a download does when nothing fails

A local marketplace lists the assignments of a task, and some results are in memory. When no call
fails, the calls of a download, its report and the stored documents follow from the stored
identifiers and the listing alone: as many whole pages are left out as the stored identifiers fill,
and of the other entries those are written whose identifiers are met for the first time.

## Main definitions

* `CrowdTask.Download.firsts`, `CrowdTask.Download.repeats`: the entries of a list that are met for
  the first time, and the other ones.
* `CrowdTask.Download.pending`, `CrowdTask.Download.pagesToFetch`: the entries and the pages that a
  download does not leave out.

## Main results

* `CrowdTask.Download.outcome_takePages`: some pages, one after the other.
* `CrowdTask.Download.run_eq_reference`: a download as a whole.
-/

namespace CrowdTask

namespace Download

/-! ### First and further occurrences -/

/-- Whether the entry at a place of the list is of a known identifier: one of the given ones, or one
of an earlier entry. -/
def isKnownAt (known : List AssignmentId) (items : List Submission) (p : Submission × Nat) : Bool :=
  (known ++ (items.take p.2).map Submission.id).contains p.1.id

/-- The entries that are met with their identifiers known, or those that are met with them
unknown. -/
def met (isKnown : Bool) (known : List AssignmentId) (items : List Submission) : List Submission :=
  (items.zipIdx.filter fun p => isKnownAt known items p = isKnown).map (·.1)

/-- The entries that are the first ones with their identifiers, none of which is known. -/
def firsts (known : List AssignmentId) (items : List Submission) : List Submission :=
  met false known items

/-- All other entries. -/
def repeats (known : List AssignmentId) (items : List Submission) : List Submission :=
  met true known items

section Met

variable {isKnown : Bool} {known known' : List AssignmentId}

theorem met_congr (h : ∀ id, id ∈ known ↔ id ∈ known') (items : List Submission) :
    met isKnown known items = met isKnown known' items := by
  have hsame (p : Submission × Nat) : isKnownAt known items p = isKnownAt known' items p := by
    rw [isKnownAt, isKnownAt, Bool.eq_iff_iff, List.contains_iff_mem, List.contains_iff_mem,
      List.mem_append, List.mem_append, h]
  simp only [met, hsame]

theorem met_cons (x : Submission) (items : List Submission) :
    met isKnown known (x :: items) =
      (if known.contains x.id = isKnown then [x] else []) ++ met isKnown (x.id :: known) items := by
  have hfirst : isKnownAt known (x :: items) (x, 0) = known.contains x.id := by
    rw [isKnownAt, List.take_zero, List.map_nil, List.append_nil]
  have hrest (p : Submission × Nat) :
      isKnownAt known (x :: items) (p.1, p.2 + 1) = isKnownAt (x.id :: known) items p := by
    rw [isKnownAt, isKnownAt, Bool.eq_iff_iff, List.contains_iff_mem, List.contains_iff_mem,
      List.take_succ_cons, List.map_cons, List.cons_append, List.perm_middle.mem_iff]
  have hlater : ((items.zipIdx 1).filter fun p => isKnownAt known (x :: items) p = isKnown).map
      (·.1) = met isKnown (x.id :: known) items := by
    rw [List.zipIdx_succ, List.filter_map, List.map_map, met]
    exact congrArg _ (List.filter_congr fun p _ => by rw [Function.comp_apply, hrest])
  rw [met, List.zipIdx_cons, List.filter_cons, hfirst, ← hlater]
  split_ifs <;> simp_all

theorem met_cons_of_mem {x : Submission} (h : x.id ∈ known) (items : List Submission) :
    met isKnown known (x :: items) = (if isKnown then [x] else []) ++ met isKnown known items := by
  have hsame (id : AssignmentId) : id ∈ x.id :: known ↔ id ∈ known := by
    rw [List.mem_cons, or_iff_right_of_imp]
    rintro rfl
    exact h
  rw [met_cons, met_congr hsame, List.contains_iff_mem.mpr h]
  cases isKnown <;> rfl

theorem met_cons_of_notMem {x : Submission} (h : x.id ∉ known) (items : List Submission) :
    met isKnown known (x :: items) =
      (if isKnown then [] else [x]) ++ met isKnown (x.id :: known) items := by
  have hunknown : known.contains x.id = false := by
    rw [Bool.eq_false_iff, ne_eq, List.contains_iff_mem]
    exact h
  rw [met_cons, hunknown]
  cases isKnown <;> rfl

theorem newcomers_eq_firsts (known : List AssignmentId) (items : List Submission) :
    newcomers known items = firsts known items := by
  induction items generalizing known with
  | nil => rfl
  | cons x items ih =>
    by_cases hx : x.id ∈ known
    · rw [newcomers_cons_of_mem hx, ih, firsts, firsts, met_cons_of_mem hx]
      rfl
    · rw [newcomers_cons_of_notMem hx, ih, firsts, firsts, met_cons_of_notMem hx]
      rfl

/-- The entries that are not written are skipped. -/
theorem skipped_foldl_settle (p : Progress) (items : List Submission) :
    (items.foldl Progress.settle p).skipped =
      p.skipped ++ (repeats p.known items).map Submission.id := by
  induction items generalizing p with
  | nil => exact (List.append_nil _).symm
  | cons x items ih =>
    rw [List.foldl_cons, ih]
    by_cases hx : x.id ∈ p.known
    · rw [Progress.settle_of_mem p hx, repeats, repeats, met_cons_of_mem hx, List.append_assoc]
      rfl
    · rw [Progress.settle_of_notMem p hx, repeats, repeats, met_cons_of_notMem hx]
      rfl

end Met

end Download

/-! ### Results in memory -/

/-- The results after one entry: its own is stored, unless there is one for it. -/
def MemoryResults.shelve (salt : Option String) (s : MemoryResults) (x : Submission) :
    MemoryResults :=
  if (Download.storedIds s.documents).contains x.id then s
  else ⟨Download.entry salt x :: s.documents, s.writes + 1⟩

namespace MemoryResults

variable {salt : Option String} {s : MemoryResults}

theorem shelve_of_mem {x : Submission} (h : x.id ∈ Download.storedIds s.documents) :
    s.shelve salt x = s := by
  rw [shelve, if_pos (List.contains_iff_mem.mpr h)]

theorem shelve_of_notMem {x : Submission} (h : x.id ∉ Download.storedIds s.documents) :
    s.shelve salt x = ⟨Download.entry salt x :: s.documents, s.writes + 1⟩ := by
  rw [shelve, if_neg (mt List.contains_iff_mem.mp h)]

theorem documents_shelve (x : Submission) :
    (s.shelve salt x).documents = Download.shelve salt s.documents x := by
  rw [shelve, Download.shelve]
  split_ifs <;> rfl

theorem mem_storedIds_shelve {x : Submission} {id : AssignmentId} :
    id ∈ Download.storedIds (s.shelve salt x).documents ↔
      id = x.id ∨ id ∈ Download.storedIds s.documents := by
  rw [documents_shelve, Download.mem_storedIds_shelve]

/-- The results after some documents were written, the last one in front. -/
def writing (s : MemoryResults) (documents : List (AssignmentId × Json)) : MemoryResults :=
  ⟨documents.reverse ++ s.documents, s.writes + documents.length⟩

theorem writing_cons (s : MemoryResults) (d : AssignmentId × Json)
    (documents : List (AssignmentId × Json)) :
    s.writing (d :: documents) = (s.writing [d]).writing documents := by
  rw [writing, writing, writing, List.reverse_cons, List.append_assoc, List.length_cons,
    Nat.add_comm documents.length, ← Nat.add_assoc]
  rfl

theorem foldl_shelve (items : List Submission) :
    items.foldl (shelve salt) s =
      s.writing ((Download.newcomers (Download.storedIds s.documents) items).map
        (Download.entry salt)) := by
  induction items generalizing s with
  | nil => rfl
  | cons x items ih =>
    rw [List.foldl_cons, ih]
    by_cases hx : x.id ∈ Download.storedIds s.documents
    · rw [shelve_of_mem hx, Download.newcomers_cons_of_mem hx]
    · rw [shelve_of_notMem hx, Download.newcomers_cons_of_notMem hx, List.map_cons, writing_cons]
      rfl

/-- Some entries add the documents of the first ones among them. -/
theorem foldl_shelve_eq (items : List Submission) :
    items.foldl (shelve salt) s =
      s.writing ((Download.firsts s.stored items).map (Download.entry salt)) := by
  rw [foldl_shelve, ← Download.newcomers_eq_firsts,
    Download.newcomers_congr items fun id => (mem_orderedIds).symm]
  rfl

end MemoryResults

/-! ### Pages of a local marketplace -/

namespace Scene

variable {ρ : Type}

/-- Whether the marketplace refuses nothing and lists the given assignments of a task. -/
structure Lists (a : Scene ρ) (task : TaskId) (items : List Submission) : Prop where
  answers : a.market.failure = none
  listed : ∃ h, a.market.task? task = some h ∧ h.submissions = items

/-- The scene after some calls that were noted. -/
def noting (a : Scene ρ) (calls : List MarketCall) : Scene ρ :=
  { a with market := { a.market with calls := a.market.calls ++ calls } }

/-- The scene after some entries were dealt with. -/
def storing (a : Scene MemoryResults) (salt : Option String) (items : List Submission) :
    Scene MemoryResults :=
  { a with rest := items.foldl (MemoryResults.shelve salt) a.rest }

theorem noting_nil (a : Scene ρ) : a.noting [] = a := by
  rw [noting, List.append_nil]

theorem noting_noting (a : Scene ρ) (calls calls' : List MarketCall) :
    (a.noting calls).noting calls' = a.noting (calls ++ calls') := by
  rw [noting, noting, noting, ← List.append_assoc]

theorem storing_noting (a : Scene MemoryResults) (salt : Option String) (items : List Submission)
    (calls : List MarketCall) :
    (a.noting calls).storing salt items = (a.storing salt items).noting calls := rfl

theorem storing_storing (a : Scene MemoryResults) (salt : Option String)
    (items items' : List Submission) :
    (a.storing salt items).storing salt items' = a.storing salt (items ++ items') := by
  rw [storing, storing, storing, List.foldl_append]

theorem Lists.noting {a : Scene ρ} {task : TaskId} {items : List Submission}
    (h : a.Lists task items) (calls : List MarketCall) : (a.noting calls).Lists task items :=
  ⟨h.answers, h.listed⟩

theorem Lists.storing {a : Scene MemoryResults} {task : TaskId} {items : List Submission}
    (h : a.Lists task items) (salt : Option String) (dealt : List Submission) :
    (a.storing salt dealt).Lists task items :=
  ⟨h.answers, h.listed⟩

theorem Lists.run_page {a : Scene ρ} {task : TaskId} {items : List Submission}
    (h : a.Lists task items) (cause : LocalFault → MarketError) {i size : Nat}
    (hplace : i * size < UInt64.size) :
    (onMarket cause (LocalMarket.page task (i + 1) size)).run a =
      (.ok ⟨items.length, (items.drop (i * size)).take size⟩,
        a.noting [.page task (i + 1) size]) := by
  obtain ⟨task, htask, rfl⟩ := h.listed
  change ((outcome (LocalMarket.page _ (i + 1) size) a.market).1.mapError cause, _) = _
  rw [LocalMarket.outcome_page h.answers htask, pageOf?_succ hplace]
  rfl

end Scene

namespace Download

/-! ### The parts of a download -/

/-- The local marketplace of a scene. -/
def sceneMarket (clock : StateM (Scene MemoryResults) Instant) (halt : MarketError) :
    Marketplace (StateM (Scene MemoryResults)) :=
  LocalMarket.marketplace clock (Scene.onMarket (LocalFault.cause halt))

/-- The results in memory of a scene. -/
def sceneResults : ResultStore (StateM (Scene MemoryResults)) := MemoryResults.store Scene.onRest

/-- Whether a download knows what is stored. -/
def Knows (p : Progress) (a : Scene MemoryResults) : Prop :=
  ∀ id, id ∈ p.known ↔ id ∈ storedIds a.rest.documents

section Parts

variable {clock : StateM (Scene MemoryResults) Instant} {halt : MarketError}
  {salt : Option String} {task : TaskId} {items : List Submission} {a : Scene MemoryResults}
  {p : Progress}

theorem Knows.settle (h : Knows p a) (x : Submission) :
    Knows (p.settle x) (a.storing salt [x]) := by
  intro id
  change _ ↔ id ∈ storedIds (a.rest.shelve salt x).documents
  rw [Progress.mem_known_settle, MemoryResults.mem_storedIds_shelve, h]

theorem Knows.foldl_settle (h : Knows p a) (items : List Submission) :
    Knows (items.foldl Progress.settle p) (a.storing salt items) := by
  induction items generalizing p a with
  | nil => exact h
  | cons x items ih => exact ih (h.settle x)

theorem outcome_takeEntry (h : Knows p a) (x : Submission) :
    outcome (takeEntry sceneResults salt p x) a = (.ok (p.settle x), a.storing salt [x]) := by
  have hshelved : a.storing salt [x] = { a with rest := a.rest.shelve salt x } := rfl
  rw [takeEntry, hshelved]
  by_cases hx : x.id ∈ p.known
  · rw [if_pos hx, MemoryResults.shelve_of_mem ((h x.id).mp hx), Progress.settle_of_mem p hx]
    rfl
  · have hx' : x.id ∉ storedIds a.rest.documents := fun hid => hx ((h x.id).mpr hid)
    have hput :=
      Scene.run_onRest ((MemoryResults.run_put a.rest (.decode salt x)).trans (if_neg hx'))
    rw [if_neg hx, MemoryResults.shelve_of_notMem hx', Progress.settle_of_notMem p hx]
    exact outcome_bind_of_ok _ (outcome_lift hput)

/-- The entries of a page are dealt with, one after the other. -/
theorem outcome_takeEntries (h : Knows p a) (items : List Submission) :
    outcome (items.foldlM (takeEntry sceneResults salt) p) a =
      (.ok (items.foldl Progress.settle p), a.storing salt items) := by
  induction items generalizing p a with
  | nil => rfl
  | cons x items ih =>
    rw [List.foldlM_cons, outcome_bind_of_ok _ (outcome_takeEntry h x), ih (h.settle x)]
    rfl

/-- A page is fetched, and its entries are dealt with. -/
theorem outcome_takePage (hlists : a.Lists task items) (h : Knows p a) {i : Nat}
    (hplace : i * pageSize < UInt64.size) :
    outcome (takePage (sceneMarket clock halt) sceneResults salt task p (i + 1)) a =
      (.ok { ((items.drop (i * pageSize)).take pageSize).foldl Progress.settle p with
          pages := p.pages ++ [i + 1] },
        (a.storing salt ((items.drop (i * pageSize)).take pageSize)).noting
          [.page task (i + 1) pageSize]) := by
  have hpage := outcome_attempt DownloadError.marketplace
    (hlists.run_page (LocalFault.cause halt) hplace)
  rw [takePage, ← Progress.foldl_settle_pages]
  refine (outcome_bind_of_ok _ hpage).trans ?_
  exact outcome_takeEntries (p := { p with pages := p.pages ++ [i + 1] })
    (a := a.noting [.page task (i + 1) pageSize]) h _

/-- Pages are fetched one after the other. What becomes of their entries does not depend on where
one page ends and the next one begins. -/
theorem outcome_takePages (hlists : a.Lists task items) (h : Knows p a) (n i : Nat)
    (hplace : ∀ j, i ≤ j → j < i + n → j * pageSize < UInt64.size) :
    outcome (takePages (sceneMarket clock halt) sceneResults salt task n (i + 1) p) a =
      (.ok { ((items.drop (i * pageSize)).take (n * pageSize)).foldl Progress.settle p with
          pages := p.pages ++ List.range' (i + 1) n },
        (a.storing salt ((items.drop (i * pageSize)).take (n * pageSize))).noting
          ((List.range' (i + 1) n).map (.page task · pageSize))) := by
  induction n generalizing i p a with
  | zero =>
    rw [Nat.zero_mul, List.take_zero, List.range'_zero, List.append_nil, List.map_nil,
      Scene.noting_nil]
    rfl
  | succ n ih =>
    have hsplit : (items.drop (i * pageSize)).take ((n + 1) * pageSize) =
        (items.drop (i * pageSize)).take pageSize ++
          (items.drop ((i + 1) * pageSize)).take (n * pageSize) := by
      rw [Nat.succ_mul, Nat.add_comm, List.take_add, List.drop_drop, ← Nat.succ_mul]
    have hpage :
        outcome (takePage (sceneMarket clock halt) sceneResults salt task p (i + 1)) a = _ :=
      outcome_takePage hlists h (hplace i le_rfl (by omega))
    -- Of the entries of this page only matters that those of the further pages follow them.
    generalize (items.drop (i * pageSize)).take pageSize = first at hsplit hpage
    have hknows : Knows { first.foldl Progress.settle p with pages := p.pages ++ [i + 1] }
        ((a.storing salt first).noting [.page task (i + 1) pageSize]) := h.foldl_settle first
    have hrest := ih ((hlists.storing salt first).noting _) hknows (i + 1) fun j hij hj =>
      hplace j (by omega) (by omega)
    rw [takePages, outcome_bind_of_ok _ hpage, hrest, hsplit, List.foldl_append,
      Progress.foldl_settle_pages, List.append_assoc, Scene.storing_noting, Scene.storing_storing,
      Scene.noting_noting, List.range'_succ]
    rfl

end Parts

/-! ### A download as a whole -/

/-- The entries of a listing without those of the whole pages that the stored identifiers fill. -/
def pending (known : List AssignmentId) (items : List Submission) : List Submission :=
  items.drop (pageSize * (known.length / pageSize))

/-- The pages behind those that `stored` results fill, up to the last one of `total` assignments. -/
def pagesToFetch (stored total : Nat) : List Nat :=
  List.range' (stored / pageSize + 1) (pageCount total - stored / pageSize)

/-- Every page that is fetched begins before the end of the listing. -/
theorem mul_pageSize_lt {stored total j : Nat} (hj : stored / pageSize ≤ j)
    (hj' : j < stored / pageSize + (pageCount total - stored / pageSize)) :
    j * pageSize < total := by
  rw [pageCount, pageSize] at *
  omega

/-- The pages that are fetched reach to the end of the listing. -/
theorem take_pending (known : List AssignmentId) (items : List Submission) :
    (items.drop (known.length / pageSize * pageSize)).take
        ((pageCount items.length - known.length / pageSize) * pageSize) =
      pending known items := by
  rw [pending, Nat.mul_comm pageSize, List.take_of_length_le]
  rw [List.length_drop, pageCount, pageSize]
  omega

/-- **A download when nothing fails.** If as many identifiers are stored as assignments are listed,
the number of assignments is asked for and nothing else happens. Otherwise the pages are fetched
that the stored identifiers do not fill, in order; of their entries the first ones with unknown
identifiers are written, in order, and the others are skipped, in order. -/
theorem run_eq_reference (clock : StateM (Scene MemoryResults) Instant) (halt : MarketError)
    (salt : Option String) (task : TaskId) (items : List Submission) (a : Scene MemoryResults)
    (hlists : a.Lists task items) (hlength : items.length ≤ UInt64.size) :
    (run (sceneMarket clock halt) sceneResults salt task).run a =
      let known := a.rest.stored
      if known.length = items.length then
        (.ok ⟨known.length, items.length, [], [], []⟩, a.noting [.page task 1 1])
      else
        let pages := pagesToFetch known.length items.length
        let new := firsts known (pending known items)
        let old := repeats known (pending known items)
        (.ok ⟨known.length, items.length, pages, new.map Submission.id, old.map Submission.id⟩,
          { a.noting (.page task 1 1 :: pages.map (.page task · pageSize)) with
            rest := a.rest.writing (new.map (entry salt)) }) := by
  have hids : (sceneResults.ids).run a = (.ok a.rest.stored, a) := rfl
  have hcount : ((sceneMarket clock halt).page task 1 1).run a = _ :=
    hlists.run_page (LocalFault.cause halt) (by decide)
  change outcome (steps (sceneMarket clock halt) sceneResults salt task) a = _
  refine (outcome_bind_of_ok _ (outcome_attempt DownloadError.results hids)).trans ?_
  refine (outcome_bind_of_ok _ (outcome_attempt DownloadError.marketplace hcount)).trans ?_
  dsimp only
  split_ifs with htotal
  · rfl
  · have hknows : Knows ⟨a.rest.stored, [], [], []⟩ (a.noting [.page task 1 1]) :=
      fun id => mem_orderedIds
    have hfetch : pageCount items.length + 1 - firstPage a.rest.stored.length =
        pageCount items.length - a.rest.stored.length / pageSize := Nat.add_sub_add_right _ 1 _
    have hpages : outcome (takePages (sceneMarket clock halt) sceneResults salt task _ _ _) _ = _ :=
      outcome_takePages (hlists.noting [.page task 1 1]) hknows
        (pageCount items.length - a.rest.stored.length / pageSize)
        (a.rest.stored.length / pageSize) fun j hj hj' => (mul_pageSize_lt hj hj').trans_le hlength
    rw [take_pending, Scene.storing_noting, Scene.noting_noting, Scene.storing,
      MemoryResults.foldl_shelve_eq] at hpages
    rw [hfetch]
    refine (outcome_bind_of_ok _ hpages).trans ?_
    dsimp only
    rw [written_foldl_settle, skipped_foldl_settle, newcomers_eq_firsts]
    rfl

/-- Four assignments are listed, and the third one repeats the identifier of the first one. A result
of the second one is stored, and one that is not listed. -/
def repeatedListing : Scene MemoryResults where
  market :=
    { LocalMarket.empty with
      tasks := [(⟨"L", by decide⟩,
        { request := .ofSettings ⟨"T", "D", "K", "U", 600, ⟨50⟩, 60, 60, .none⟩ .sandbox
          maxAssignments := 4
          createdAt := ⟨0⟩
          expiresAt := ⟨0⟩
          submissions := [0, 1, 0, 2].map Submission.lettered })] }
  now := ⟨0⟩
  rest := ⟨[1, 9].map fun i => ((Submission.lettered i).id, .null), 0⟩

/-- The first occurrences of the first and the last identifier are written. -/
theorem run_repeatedListing :
    ((run (sceneMarket (pure ⟨0⟩) (.transport "")) sceneResults none ⟨"L", by decide⟩).run
      repeatedListing).1 =
      .ok ⟨2, 4, [1], [0, 2].map fun i => (Submission.lettered i).id,
        [1, 0].map fun i => (Submission.lettered i).id⟩ := by
  rw [run_eq_reference _ _ _ _ ([0, 1, 0, 2].map Submission.lettered) repeatedListing
    ⟨rfl, _, rfl, rfl⟩ (by decide)]
  decide +kernel

end Download

end CrowdTask
