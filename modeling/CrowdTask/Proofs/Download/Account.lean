import CrowdTask.Proofs.Download.Entries

/-!
# What a download stores

Whatever the marketplace answers, a download stores the entries that it receives and nothing else.
This holds after every single call, for the entries that were dealt with by then. A download that
stops does so at a call that fails, and has dealt with the entries that it received before: with all
of them, unless it is the call that stores one of them.

## Main definitions

* `CrowdTask.Download.KeepsResults`: what is required of the marketplace and of the place for
  results.
* `CrowdTask.Download.StopsAt`: how a download stops.
* `CrowdTask.Download.Settled`: the state of a download after some entries.
* `CrowdTask.Download.IsReported`: what the report of a download says of its calls.

## Main results

* `CrowdTask.Download.leads_takePages`: the stored documents while pages are fetched.
* `CrowdTask.Download.leads_account`, `CrowdTask.Download.leads_steps`: a download as a whole.
-/

namespace CrowdTask

namespace Download

variable {w : Type} {market : Marketplace (StateM w)} {results : ResultStore (StateM w)}
  {documents : w → List (AssignmentId × Json)} {salt : Option String} {task : TaskId}

/-- What the stored documents of a download rely on: the marketplace leaves them alone, and the
place for results lists and extends them, or fails and leaves them as they are. -/
structure KeepsResults (market : Marketplace (StateM w)) (results : ResultStore (StateM w))
    (documents : w → List (AssignmentId × Json)) : Prop where
  page : ∀ task number size a,
    documents ((market.page task number size).run a).2 = documents a
  ids : ∀ a, documents (results.ids.run a).2 = documents a ∧
    ∀ ids, (results.ids.run a).1 = .ok ids → ids = orderedIds (storedIds (documents a))
  put : ∀ r a,
    (documents ((results.put r).run a).2 = documents a ∧
      ∃ fault, ((results.put r).run a).1 = .error (.io fault)) ∨
    (r.id ∈ storedIds (documents a) ∧ documents ((results.put r).run a).2 = documents a ∧
      ((results.put r).run a).1 = .error (.alreadyStored r.id)) ∨
    (r.id ∉ storedIds (documents a) ∧ ((results.put r).run a).1 = .ok () ∧
      documents ((results.put r).run a).2 = (r.id, r.document) :: documents a)

/-- Calls that put results bring nothing. -/
theorem received_eq_nil_of_put {steps : List (DeskStep w)}
    (h : ∀ step ∈ steps, ∃ result answer, step.event = .put result answer) :
    received steps = [] ∧ fetched steps = [] := by
  refine ⟨received_eq_nil fun step hstep => ?_, fetched_eq_nil fun step hstep => ?_⟩
  · obtain ⟨_, _, hput⟩ := h step hstep
    rw [hput]
    rfl
  · obtain ⟨_, _, hput⟩ := h step hstep
    rw [hput]
    rfl

/-- How a download stops: the call that fails is the last one, and the entries `dealt` were dealt
with before it. The entries `got` were received earlier, and `base` was stored before them. -/
inductive StopsAt (task : TaskId) (salt : Option String) (base : List (AssignmentId × Json))
    (got : List Submission) : List (DeskStep w) → List Submission → DownloadError → Prop where
  | unlisted (earlier : List (DeskStep w)) (a b : w) (e : ResultError) :
    StopsAt task salt base got (earlier ++ [⟨a, .ids (.error e), b⟩]) (got ++ received earlier)
      (.results e)
  | unserved (earlier : List (DeskStep w)) (a b : w) (number size : Nat) (e : MarketError) :
    StopsAt task salt base got (earlier ++ [⟨a, .page task number size (.error e), b⟩])
      (got ++ received earlier) (.marketplace e)
  | unwritten (earlier : List (DeskStep w)) (a b : w) (dealt rest : List Submission)
    (x : Submission) (fault : FileFault) (hgot : got ++ received earlier = dealt ++ x :: rest)
    (hx : x.id ∉ storedIds (shelveAll salt base dealt)) :
    StopsAt task salt base got (earlier ++ [⟨a, .put (.decode salt x) (.error (.io fault)), b⟩])
      dealt (.results (.io fault))

/-- Whether the documents are, after each of the steps, those that some of the received entries make
of `base`, beginning with the first one. -/
def KeepsUp (salt : Option String) (documents : w → List (AssignmentId × Json))
    (base : List (AssignmentId × Json)) (got : List Submission)
    (steps : List (DeskStep w)) : Prop :=
  ∀ step ∈ steps, ∃ dealt, dealt <+: got ++ received steps ∧
    documents step.after = shelveAll salt base dealt

/-- The state of a download in which the entries `dealt` were dealt with, and `pages` were fetched:
what is known to be stored is stored, and the documents and the report are those that the entries
make of the earlier ones. -/
structure Settled (salt : Option String) (documents : w → List (AssignmentId × Json))
    (base : List (AssignmentId × Json)) (start : Progress) (dealt : List Submission)
    (pages : List Nat) (p : Progress) (b : w) : Prop where
  known : ∀ id, id ∈ p.known ↔ id ∈ storedIds (documents b)
  documents : documents b = shelveAll salt base dealt
  progress : p = { dealt.foldl Progress.settle start with pages := pages }

section Stopping

variable {base : List (AssignmentId × Json)} {got dealt : List Submission}
  {earlier steps : List (DeskStep w)} {e : DownloadError}

/-- A part of a download stops, after other parts of it. -/
theorem StopsAt.append (h : StopsAt task salt base (got ++ received earlier) steps dealt e) :
    StopsAt task salt base got (earlier ++ steps) dealt e := by
  cases h with
  | unlisted earlier' a b e =>
    rw [← List.append_assoc, List.append_assoc got, ← received_append]
    exact .unlisted _ a b e
  | unserved earlier' a b number size e =>
    rw [← List.append_assoc, List.append_assoc got, ← received_append]
    exact .unserved _ a b number size e
  | unwritten earlier' a b dealt rest x fault hgot hx =>
    rw [← List.append_assoc]
    rw [List.append_assoc got, ← received_append] at hgot
    exact .unwritten _ a b dealt rest x fault hgot hx

theorem StopsAt.cons {step : DeskStep w}
    (h : StopsAt task salt base (got ++ step.event.received) steps dealt e) :
    StopsAt task salt base got (step :: steps) dealt e := by
  have hstep : received [step] = step.event.received := List.flatMap_singleton _ _
  rw [← hstep] at h
  exact h.append

/-- What was dealt with was received. -/
theorem StopsAt.isPrefix (h : StopsAt task salt base got steps dealt e) :
    dealt <+: got ++ received steps := by
  cases h with
  | unlisted earlier a b e =>
    rw [received_append, ← List.append_assoc]
    exact List.prefix_append _ _
  | unserved earlier a b number size e =>
    rw [received_append, ← List.append_assoc]
    exact List.prefix_append _ _
  | unwritten earlier a b dealt rest x fault hgot hx =>
    rw [received_append, ← List.append_assoc, hgot, List.append_assoc]
    exact List.prefix_append _ _

theorem KeepsUp.append (h : KeepsUp salt documents base got earlier)
    (h' : KeepsUp salt documents base (got ++ received earlier) steps) :
    KeepsUp salt documents base got (earlier ++ steps) := by
  refine List.forall_mem_append.mpr ⟨fun step hstep => ?_, fun step hstep => ?_⟩
  · obtain ⟨dealt, hdealt, hafter⟩ := h step hstep
    refine ⟨dealt, hdealt.trans ?_, hafter⟩
    rw [received_append, ← List.append_assoc]
    exact List.prefix_append _ _
  · obtain ⟨dealt, hdealt, hafter⟩ := h' step hstep
    refine ⟨dealt, ?_, hafter⟩
    rwa [received_append, ← List.append_assoc]

/-- A step that leaves the documents as they are. -/
theorem keepsUp_singleton {step : DeskStep w}
    (h : documents step.after = shelveAll salt base got) :
    KeepsUp salt documents base got [step] :=
  List.forall_mem_singleton.mpr ⟨got, List.prefix_append _ _, h⟩

theorem KeepsUp.cons {step : DeskStep w} (h : documents step.after = shelveAll salt base got)
    (h' : KeepsUp salt documents base (got ++ step.event.received) steps) :
    KeepsUp salt documents base got (step :: steps) := by
  have hstep : received [step] = step.event.received := List.flatMap_singleton _ _
  rw [← hstep] at h'
  exact (keepsUp_singleton h).append h'

end Stopping

section Parts

variable (hkeeps : KeepsResults market results documents)

include hkeeps

theorem leads_takeEntry {a : w} {p : Progress}
    (hknown : ∀ id, id ∈ p.known ↔ id ∈ storedIds (documents a)) (x : Submission) :
    Leads a (takeEntry results.observed salt p x) fun steps b r =>
      (∀ step ∈ steps, step.after = b ∧ ∃ result answer, step.event = .put result answer) ∧
      match r with
      | .ok p' => p' = p.settle x ∧ documents b = shelve salt (documents a) x
      | .error e => x.id ∉ storedIds (documents a) ∧ documents b = documents a ∧
          ∃ fault, e = .results (.io fault) ∧
            steps = [⟨a, .put (.decode salt x) (.error (.io fault)), b⟩] := by
  unfold takeEntry
  by_cases hx : x.id ∈ p.known
  · rw [if_pos hx]
    refine .pure _ ⟨List.forall_mem_nil _, ?_, ?_⟩
    · rw [Progress.settle_of_mem p hx]
    · rw [shelve_of_mem ((hknown x.id).mp hx)]
  · rw [if_neg hx]
    have hx' : x.id ∉ storedIds (documents a) := fun h => hx ((hknown x.id).mpr h)
    refine .bind (.lift (.put (.decode salt x)) (results.put (.decode salt x)) ?_)
    rcases hkeeps.put (.decode salt x) a with ⟨hdoc, fault, he⟩ | ⟨hmem, -⟩ | ⟨-, hok, hdoc⟩
    · rw [he]
      exact .throw _ ⟨List.forall_mem_singleton.mpr ⟨rfl, _, _, rfl⟩, hx', hdoc, fault, rfl, rfl⟩
    · exact absurd hmem hx'
    · rw [hok]
      refine .pure _ ⟨List.forall_mem_singleton.mpr ⟨rfl, _, _, rfl⟩, ?_, ?_⟩
      · rw [Progress.settle_of_notMem p hx]
      · rw [shelve_of_notMem hx']
        exact hdoc

variable {base : List (AssignmentId × Json)} {start p : Progress} {got : List Submission}
  {pages : List Nat} {a : w}

/-- The entries of a page are dealt with, one after the other. -/
theorem leads_takeEntries (task : TaskId) (ha : Settled salt documents base start got pages p a)
    (items : List Submission) :
    Leads a (items.foldlM (takeEntry results.observed salt) p) fun steps b r =>
      (∀ step ∈ steps, (∃ dealt, dealt <+: got ++ items ∧
        documents step.after = shelveAll salt base dealt) ∧
        ∃ result answer, step.event = .put result answer) ∧
      match r with
      | .ok p' => Settled salt documents base start (got ++ items) pages p' b
      | .error e => ∃ dealt, StopsAt task salt base (got ++ items) steps dealt e ∧
          documents b = shelveAll salt base dealt := by
  let Good (steps : List (DeskStep w)) : Prop := ∀ step ∈ steps, (∃ dealt, dealt <+: got ++ items ∧
    documents step.after = shelveAll salt base dealt) ∧
    ∃ result answer, step.event = .put result answer
  refine (Leads.foldlM items
    (I := fun done p' steps b => Good steps ∧
      Settled salt documents base start (got ++ done) pages p' b)
    (E := fun steps b e => Good steps ∧ ∃ dealt,
      StopsAt task salt base (got ++ items) steps dealt e ∧
        documents b = shelveAll salt base dealt)
    ⟨List.forall_mem_nil _, by rwa [List.append_nil]⟩ ?_).mono ?_
  · intro done x rest p' steps c hitems ⟨hgood, hsettled⟩
    refine (leads_takeEntry hkeeps hsettled.known x).mono ?_
    have hsplit : got ++ items = (got ++ done) ++ x :: rest := by rw [hitems, List.append_assoc]
    have hdone : got ++ done <+: got ++ items := ⟨x :: rest, hsplit.symm⟩
    have hnext : got ++ (done ++ [x]) <+: got ++ items :=
      ⟨rest, by rw [hitems, List.append_assoc, List.append_assoc]; rfl⟩
    rintro steps' b (e | p'') - ⟨hsteps, h⟩
    · -- the call for `x` failed, so that only the entries before it were dealt with
      obtain ⟨hx, hdoc, fault, rfl, rfl⟩ := h
      have hb : documents b = shelveAll salt base (got ++ done) := hdoc.trans hsettled.documents
      refine ⟨List.forall_mem_append.mpr ⟨hgood, fun step hstep => ?_⟩, got ++ done, ?_, hb⟩
      · obtain ⟨hafter, hput⟩ := hsteps step hstep
        exact ⟨⟨got ++ done, hdone, by rw [hafter, hb]⟩, hput⟩
      · refine .unwritten steps c b (got ++ done) rest x fault ?_ ?_
        · rw [(received_eq_nil_of_put fun step hstep => (hgood step hstep).2).1, List.append_nil,
            hsplit]
        · rwa [← hsettled.documents]
    · obtain ⟨hp, hdoc⟩ := h
      have hb : documents b = shelveAll salt base (got ++ (done ++ [x])) := by
        rw [hdoc, hsettled.documents, ← shelveAll_concat, List.append_assoc]
      refine ⟨List.forall_mem_append.mpr ⟨hgood, fun step hstep => ?_⟩, ?_, hb, ?_⟩
      · obtain ⟨hafter, hput⟩ := hsteps step hstep
        exact ⟨⟨_, hnext, by rw [hafter, hb]⟩, hput⟩
      · intro id
        rw [hp, Progress.mem_known_settle, hsettled.known, hdoc, mem_storedIds_shelve]
      · rw [hp, hsettled.progress, ← List.append_assoc, List.foldl_concat]
        exact Progress.foldl_settle_pages _ pages [x]
  · rintro steps b (e | p') - h <;> exact h

/-- A page is fetched, and its entries are dealt with. -/
theorem leads_takePage (ha : Settled salt documents base start got pages p a) (page : Nat) :
    Leads a (takePage market.observed results.observed salt task p page) fun steps b r =>
      KeepsUp salt documents base got steps ∧
      match r with
      | .ok p' => fetched steps = [page] ∧
          Settled salt documents base start (got ++ received steps) (pages ++ [page]) p' b
      | .error e => ∃ dealt, StopsAt task salt base got steps dealt e ∧
          documents b = shelveAll salt base dealt := by
  refine .bind (.attempt DownloadError.marketplace (.page task page pageSize) _ ?_)
  have hsame := hkeeps.page task page pageSize a
  generalize (market.page task page pageSize).run a = answer at hsame ⊢
  obtain ⟨e | listed, c⟩ := answer
  · have hc : documents c = shelveAll salt base got := hsame.trans ha.documents
    have hstops : StopsAt task salt base got ([] ++ [⟨a, .page task page pageSize (.error e), c⟩])
        (got ++ received ([] : List (DeskStep w))) (.marketplace e) :=
      .unserved [] a c page pageSize e
    rw [received_nil, List.append_nil] at hstops
    exact ⟨keepsUp_singleton hc, got, hstops, hc⟩
  · have hc : Settled salt documents base start got (pages ++ [page])
        { p with pages := p.pages ++ [page] } c :=
      ⟨by simpa only [hsame] using ha.known, hsame.trans ha.documents, by rw [ha.progress]⟩
    refine (leads_takeEntries hkeeps task hc listed.items).mono ?_
    rintro steps b r - ⟨hsteps, h⟩
    have hsilent := received_eq_nil_of_put fun step hstep => (hsteps step hstep).2
    have hreceived : received (⟨a, .page task page pageSize (.ok listed), c⟩ :: steps) =
        listed.items := by
      rw [received_cons, hsilent.1, List.append_nil, DeskEvent.received_page]
    rw [List.singleton_append, hreceived]
    rw [← DeskEvent.received_page task page listed] at h hsteps
    refine ⟨.cons hc.documents fun step hstep => ?_, ?_⟩
    · rw [hsilent.1, List.append_nil]
      exact (hsteps step hstep).1
    · rcases r with e | p'
      · obtain ⟨dealt, hstops, hb⟩ := h
        exact ⟨dealt, hstops.cons, hb⟩
      · rw [fetched_cons, hsilent.2, ← DeskEvent.received_page task page listed]
        exact ⟨rfl, h⟩

/-- Pages are fetched one after the other. -/
theorem leads_takePages (n page : Nat) (ha : Settled salt documents base start got pages p a) :
    Leads a (takePages market.observed results.observed salt task n page p) fun steps b r =>
      KeepsUp salt documents base got steps ∧
      match r with
      | .ok p' => fetched steps = List.range' page n ∧
          Settled salt documents base start (got ++ received steps) (pages ++ List.range' page n)
            p' b
      | .error e => ∃ dealt, StopsAt task salt base got steps dealt e ∧
          documents b = shelveAll salt base dealt := by
  induction n generalizing page a p got pages with
  | zero =>
    refine .pure p ⟨List.forall_mem_nil _, rfl, ?_⟩
    rw [List.range'_zero, received_nil, List.append_nil, List.append_nil]
    exact ha
  | succ n ih =>
    refine .bind ((leads_takePage hkeeps ha page).mono ?_)
    rintro steps c (e | p₁) - ⟨hsteps, h⟩
    · exact ⟨hsteps, h⟩
    · obtain ⟨hfetched, hc⟩ := h
      refine (ih (page + 1) hc).mono ?_
      rintro steps' b r - ⟨hsteps', h'⟩
      refine ⟨hsteps.append hsteps', ?_⟩
      rcases r with e | p'
      · obtain ⟨dealt, hstops, hb⟩ := h'
        exact ⟨dealt, hstops.append, hb⟩
      · obtain ⟨hfetched', hb⟩ := h'
        rw [List.append_assoc, List.append_assoc, ← received_append] at hb
        exact ⟨by rw [fetched_append, hfetched, hfetched']; rfl, hb⟩

end Parts

/-- The rule for a download: it fails to list the stored identifiers, or to learn the number of
assignments, or it ends there since both counts are equal, or it goes on to fetch pages. -/
theorem leads_steps_of {a : w}
    {Q : List (DeskStep w) → w → Except DownloadError DownloadSummary → Prop}
    (hunlisted : ∀ e b, results.ids.run a = (.error e, b) →
      Q [⟨a, .ids (.error e), b⟩] b (.error (.results e)))
    (huncounted : ∀ ids c e b, results.ids.run a = (.ok ids, c) →
      (market.page task 1 1).run c = (.error e, b) →
      Q [⟨a, .ids (.ok ids), c⟩, ⟨c, .page task 1 1 (.error e), b⟩] b (.error (.marketplace e)))
    (hcomplete : ∀ ids c first b, results.ids.run a = (.ok ids, c) →
      (market.page task 1 1).run c = (.ok first, b) → ids.length = first.total →
      Q [⟨a, .ids (.ok ids), c⟩, ⟨c, .page task 1 1 (.ok first), b⟩] b
        (.ok ⟨ids.length, first.total, [], [], []⟩))
    (hfetch : ∀ ids c first d, results.ids.run a = (.ok ids, c) →
      (market.page task 1 1).run c = (.ok first, d) → ids.length ≠ first.total →
      Leads d (takePages market.observed results.observed salt task
        (pageCount first.total + 1 - firstPage ids.length) (firstPage ids.length) ⟨ids, [], [], []⟩)
        fun more b r =>
          Q (⟨a, .ids (.ok ids), c⟩ :: ⟨c, .page task 1 1 (.ok first), d⟩ :: more) b
            (r.map fun p => ⟨ids.length, first.total, p.pages, p.written, p.skipped⟩)) :
    Leads a (steps market.observed results.observed salt task) Q := by
  refine .bind (.attempt DownloadError.results .ids results.ids ?_)
  rcases hids : results.ids.run a with ⟨e | ids, c⟩
  · exact hunlisted e c hids
  refine .bind (.attempt DownloadError.marketplace (.page task 1 1) _ ?_)
  rcases hpage : (market.page task 1 1).run c with ⟨e | first, d⟩
  · exact huncounted ids c e d hids hpage
  change Leads d (if ids.length = first.total then _ else _) _
  split_ifs with htotal
  · exact .pure _ (hcomplete ids c first d hids hpage htotal)
  · refine .bind ((hfetch ids c first d hids hpage htotal).mono ?_)
    rintro more b (e | p) - h
    · exact h
    · exact .pure _ (by rw [List.append_nil]; exact h)

/-- What the report of a download says of its steps, where `base` was stored before. -/
structure IsReported (task : TaskId) (base : List (AssignmentId × Json))
    (steps : List (DeskStep w)) (r : DownloadSummary) : Prop where
  /-- The stored results are counted, then the listed assignments. -/
  counted : ∃ first rest, steps.map (·.event) =
      .ids (.ok (orderedIds (storedIds base))) :: .page task 1 1 (.ok first) :: rest ∧
    r.remoteTotal = first.total
  alreadyStored : r.alreadyStored = (orderedIds (storedIds base)).length
  pages : r.pages = if r.alreadyStored = r.remoteTotal then [] else
    List.range' (firstPage r.alreadyStored)
      (pageCount r.remoteTotal + 1 - firstPage r.alreadyStored)
  fetched : fetched steps = r.pages
  written : r.written = ((received steps).foldl Progress.settle
    ⟨orderedIds (storedIds base), [], [], []⟩).written
  skipped : r.skipped = ((received steps).foldl Progress.settle
    ⟨orderedIds (storedIds base), [], [], []⟩).skipped

section Whole

variable (hkeeps : KeepsResults market results documents)

include hkeeps

/-- A download as a whole: after each of its calls the documents are those that some of the received
entries make of the earlier ones. In the end it is all of them, unless the download stops. -/
theorem leads_account (salt : Option String) (task : TaskId) (a : w) :
    Leads a (steps market.observed results.observed salt task) fun steps b r =>
      KeepsUp salt documents (documents a) [] steps ∧
      match r with
      | .ok summary => documents b = shelveAll salt (documents a) (received steps) ∧
          IsReported task (documents a) steps summary
      | .error e => ∃ dealt, StopsAt task salt (documents a) [] steps dealt e ∧
          documents b = shelveAll salt (documents a) dealt := by
  have hids {ids : Except ResultError (List AssignmentId)} {c : w}
      (h : results.ids.run a = (ids, c)) :
      documents c = shelveAll salt (documents a) [] ∧
        ∀ known, ids = .ok known → known = orderedIds (storedIds (documents a)) := by
    have hkept := hkeeps.ids a
    rw [h] at hkept
    exact hkept
  have hpage {c d : w} {first : Except MarketError ListingPage}
      (h : (market.page task 1 1).run c = (first, d)) : documents d = documents c := by
    simpa only [h] using hkeeps.page task 1 1 c
  refine leads_steps_of (fun e b h => ?_) (fun ids c e b h h' => ?_)
    (fun ids c first b h h' htotal => ?_) (fun ids c first d h h' htotal => ?_)
  · exact ⟨keepsUp_singleton (hids h).1, [], .unlisted [] a b e, (hids h).1⟩
  · have hb := (hpage h').trans (hids h).1
    exact ⟨.cons (hids h).1 (keepsUp_singleton hb), [],
      .unserved [⟨a, .ids (.ok ids), c⟩] c b 1 1 e, hb⟩
  · have hb := (hpage h').trans (hids h).1
    obtain rfl := (hids h).2 ids rfl
    exact ⟨.cons (hids h).1 (keepsUp_singleton hb), hb,
      ⟨first, [], rfl, rfl⟩, rfl, (if_pos htotal).symm, rfl, rfl, rfl⟩
  · have hd := (hpage h').trans (hids h).1
    obtain rfl := (hids h).2 ids rfl
    have hstart : Settled salt documents (documents a)
        ⟨orderedIds (storedIds (documents a)), [], [], []⟩ [] []
        ⟨orderedIds (storedIds (documents a)), [], [], []⟩ d := by
      refine ⟨fun id => ?_, hd, rfl⟩
      rw [hd]
      exact mem_orderedIds
    refine (leads_takePages hkeeps _ _ hstart).mono ?_
    rintro more b r - ⟨hsteps, hend⟩
    refine ⟨.cons (hids h).1 (.cons hd hsteps), ?_⟩
    rcases r with e | p
    · obtain ⟨dealt, hstops, hb⟩ := hend
      exact ⟨dealt, .cons (.cons hstops), hb⟩
    · obtain ⟨hfetched, hsettled⟩ := hend
      rw [List.nil_append] at hsettled
      obtain rfl := hsettled.progress
      exact ⟨hsettled.documents, ⟨first, _, rfl, rfl⟩, rfl, (if_neg htotal).symm, hfetched, rfl,
        rfl⟩

/-- Whether it succeeds or stops, a download stores some of the received entries, beginning with
the first one, and all of them if it succeeds. -/
theorem leads_steps (salt : Option String) (task : TaskId) (a : w) :
    Leads a (steps market.observed results.observed salt task) fun steps b r =>
      (∀ step ∈ steps, ∃ done, done <+: received steps ∧
        documents step.after = shelveAll salt (documents a) done) ∧
      ∃ done, done <+: received steps ∧ documents b = shelveAll salt (documents a) done ∧
        ∀ summary, r = .ok summary → done = received steps := by
  refine (leads_account hkeeps salt task a).mono ?_
  rintro steps b (e | summary) - ⟨hsteps, h⟩
  · obtain ⟨dealt, hstops, hb⟩ := h
    exact ⟨hsteps, dealt, hstops.isPrefix, hb, nofun⟩
  · exact ⟨hsteps, _, List.prefix_refl _, h.1, fun _ _ => rfl⟩

end Whole

end Download

end CrowdTask
