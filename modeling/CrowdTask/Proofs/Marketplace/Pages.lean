import CrowdTask.Proofs.Marketplace.LocalCalls
import CrowdTask.Proofs.Marketplace.Traversal

/-!
# Pages of a listing

The service knows tokens only; the pages with numbers are slices of the listing that was fetched.
From the first page on the listing is kept, so further pages ask the service for nothing, and they
are the pages that a local marketplace gives for the same listing. When fetching a listing fails,
nothing of it is kept.

## Main definitions

* `CrowdTask.pageCount`: the number of pages of a list.
* `CrowdTask.IsPaged`: that numbered pages are those of a given listing.

## Main results

* `CrowdTask.flatMap_slices`: the first pages of a list are the beginning of the list.
* `CrowdTask.Service.isPaged_pageAnswer`: the slices of a listing are its pages.
* `CrowdTask.Service.pages_of_listing`: the pages after a first one.
-/

namespace CrowdTask

/-! ### Slices -/

/-- The number of pages of the given size that `length` items fill, the last one being filled
partly. -/
def pageCount (length size : Nat) : Nat := (length + size - 1) / size

variable {α : Type} {items : List α} {number size : Nat}

theorem pageOf?_eq_none_iff (items : List α) :
    pageOf? items number size = none ↔ number = 0 ∨ UInt64.size ≤ (number - 1) * size := by
  rw [pageOf?]
  split_ifs with h
  · simp [h]
  · simp [h]

theorem pageOf?_succ (h : number * size < UInt64.size) :
    pageOf? items (number + 1) size = some ((items.drop (number * size)).take size) := by
  rw [pageOf?, if_neg (by simpa using h), Nat.add_sub_cancel]

/-- The first pages of a list are the beginning of the list. -/
theorem flatMap_slices (items : List α) (size count : Nat) :
    (List.range count).flatMap (fun i => (items.drop (i * size)).take size) =
      items.take (count * size) := by
  induction count with
  | zero => simp
  | succ count ih =>
    rw [List.range_succ, List.flatMap_append, ih, List.flatMap_singleton, Nat.succ_mul,
      List.take_add]

/-- Every page begins before the end of the list. -/
theorem mul_size_lt_of_lt_pageCount {length i : Nat} (hsize : 0 < size)
    (hi : i < pageCount length size) : i * size < length := by
  have h := (Nat.le_div_iff_mul_le hsize).mp (Nat.succ_le_of_lt hi)
  rw [Nat.succ_mul] at h
  omega

/-- The pages reach to the end of the list. -/
theorem le_pageCount_mul_size {length : Nat} (hsize : 0 < size) :
    length ≤ pageCount length size * size := by
  have h : length + size - 1 < (length + size - 1) / size * size + size :=
    Nat.lt_div_mul_add hsize
  rw [pageCount]
  omega

/-! ### Numbered pages -/

/-- Whether the answers to calls for the numbered pages of a task are the pages of the listing
`items`: a call fails if and only if there is no page zero or the place of the page does not fit 64
bits, every page gives the length of the listing, a local marketplace with this listing gives the
same pages, the pages of one size make up the listing, and the ones behind them are empty. -/
structure IsPaged (id : TaskId) (items : List Submission)
    (answer : (number size : Nat) → Except MarketError ListingPage) : Prop where
  fails_iff : ∀ number size, (∃ e, answer number size = .error e) ↔
    number = 0 ∨ UInt64.size ≤ (number - 1) * size
  total : ∀ number size page, answer number size = .ok page → page.total = items.length
  local_page : ∀ (m : LocalMarket) (h : HostedTask), m.failure = none → m.task? id = some h →
    h.submissions = items → ∀ number size,
      (answer number size).toOption = (outcome (LocalMarket.page id number size) m).1.toOption
  covers : ∀ size, 0 < size → items.length ≤ UInt64.size → ∃ pages : List ListingPage,
    List.Forall₂ (fun i page => answer (i + 1) size = .ok page)
      (List.range (pageCount items.length size)) pages ∧ pages.flatMap (·.items) = items
  empty_behind : ∀ number size, 0 < size → pageCount items.length size < number →
    (number - 1) * size < UInt64.size → answer number size = .ok ⟨items.length, []⟩

/-- A page of a local marketplace that refuses nothing: the call is noted. -/
theorem LocalMarket.outcome_page {m : LocalMarket} {id : TaskId} {h : HostedTask}
    (hfailure : m.failure = none) (htask : m.task? id = some h) (number size : Nat) :
    outcome (page id number size) m =
      ((pageOf? h.submissions number size).elim
          (.error (.refused (invalid "page request out of range")))
          fun slice => .ok ⟨h.submissions.length, slice⟩,
        { m with calls := m.calls ++ [.page id number size] }) := by
  have htask' : ({ m with calls := m.calls ++ [.page id number size] } : LocalMarket).task? id =
      some h := htask
  rw [page, outcome_bind_of_ok _ (outcome_receive_of_none hfailure _),
    outcome_bind_of_ok _ (outcome_requireTask htask')]
  cases pageOf? h.submissions number size <;> rfl

namespace Service

variable {items : List Submission} {number size : Nat}

theorem pageAnswer_of_some {slice : List Submission} (h : pageOf? items number size = some slice) :
    pageAnswer items number size = .ok ⟨items.length, slice⟩ := by
  rw [pageAnswer, RemoteMarket.pageOfListing, h]
  rfl

theorem pageAnswer_of_none (h : pageOf? items number size = none) :
    pageAnswer items number size = .error (.response (.pageOutOfRange number size)) := by
  rw [pageAnswer, RemoteMarket.pageOfListing, h]
  rfl

/-- The slices of a listing are its pages. -/
theorem isPaged_pageAnswer (id : TaskId) (items : List Submission) :
    IsPaged id items (pageAnswer items) where
  fails_iff number size := by
    rw [← pageOf?_eq_none_iff items]
    cases h : pageOf? items number size with
    | none => exact iff_of_true ⟨_, pageAnswer_of_none h⟩ rfl
    | some slice => simp [pageAnswer_of_some h]
  total number size page hpage := by
    cases h : pageOf? items number size with
    | none =>
      rw [pageAnswer_of_none h] at hpage
      cases hpage
    | some slice =>
      rw [pageAnswer_of_some h] at hpage
      exact congrArg ListingPage.total (Except.ok.inj hpage).symm
  local_page m task hfailure htask hitems number size := by
    rw [LocalMarket.outcome_page hfailure htask, hitems]
    cases h : pageOf? items number size with
    | none =>
      rw [pageAnswer_of_none h]
      rfl
    | some slice =>
      rw [pageAnswer_of_some h]
      rfl
  covers size hsize hlength := by
    refine ⟨(List.range (pageCount items.length size)).map fun i =>
      ⟨items.length, (items.drop (i * size)).take size⟩, ?_, ?_⟩
    · rw [List.forall₂_map_right_iff, List.forall₂_same]
      intro i hi
      have hplace := mul_size_lt_of_lt_pageCount hsize (List.mem_range.mp hi)
      exact pageAnswer_of_some (pageOf?_succ (by omega))
    · rw [List.flatMap_map, flatMap_slices, List.take_of_length_le (le_pageCount_mul_size hsize)]
  empty_behind number size hsize hnumber hplace := by
    obtain ⟨i, rfl⟩ : ∃ i, number = i + 1 := Nat.exists_eq_add_one.mpr (by omega)
    have hbehind : items.length ≤ i * size :=
      (le_pageCount_mul_size hsize).trans (Nat.mul_le_mul_right size (by omega))
    rw [Nat.add_sub_cancel] at hplace
    rw [pageAnswer_of_some (pageOf?_succ hplace), List.drop_of_length_le hbehind, List.take_nil]

/-! ### Pages of the service -/

variable {σ : Type} {s : Service σ} {id : TaskId} {k k' : Connection σ}

/-- While a listing is kept, its pages are given without asking the service for anything. -/
theorem run_page_of_kept (h : k.listing? id = some items) (number size : Nat) :
    (s.market.marketplace.page id number size).run k = (pageAnswer items number size, k) := by
  change outcome (s.market.page id number size) k = _
  rw [outcome_page, outcome_listing, h]
  rfl

/-- While no listing is kept, a page begins with a request for the first part of it. -/
theorem run_page_sent (h : k.listing? id = none) (number size : Nat) :
    ∃ first more, ((s.market.marketplace.page id number size).run k).2.sent =
      k.sent ++ first :: more ∧ first.AsksPart id none := by
  have hsent : ((s.market.marketplace.page id number size).run k).2.sent =
      (outcome (s.market.wholeListing id) k).2.sent := by
    change (outcome (s.market.page id number size) k).2.sent = _
    rw [outcome_page, outcome_listing, h]
    rcases outcome (s.market.wholeListing id) k with ⟨e | items, k'⟩ <;> rfl
  obtain ⟨more, hmore⟩ := first_wholeListing (s := s) id k
  refine ⟨s.requestAt (.list id none) k.outside, more, ?_, s.asksPart_requestAt id none k.outside⟩
  rw [hsent, ← hmore, List.append_assoc, List.singleton_append]

/-- **Pages of a listing.** A page of a task of which nothing is kept is a slice of the listing that
is fetched. From then on, whatever is called in between, all pages of the task are given without
asking the service for anything, and they are the pages of that listing. When fetching the listing
fails, the call fails and nothing is kept, so the next page of the task begins again with a request
for the first part. -/
theorem pages_of_listing (s : Service σ) (id : TaskId) (number size : Nat) (k : Connection σ)
    (hk : k.listing? id = none) :
    (∀ items k', outcome (s.market.wholeListing id) k = (.ok items, k') →
      ∃ answer, IsPaged id items answer ∧
        (s.market.marketplace.page id number size).run k = (answer number size, k'.keep id items) ∧
        ∀ actions number size,
          (s.market.marketplace.page id number size).run
              (s.market.marketplace.afterAll (k'.keep id items) actions) =
            (answer number size, s.market.marketplace.afterAll (k'.keep id items) actions)) ∧
    (∀ e k', outcome (s.market.wholeListing id) k = (.error e, k') →
      (s.market.marketplace.page id number size).run k = (.error e, k') ∧ k'.kept = k.kept ∧
        ∀ actions, (∀ number size, .page id number size ∉ actions) → ∀ number size,
          ∃ first more, ((s.market.marketplace.page id number size).run
              (s.market.marketplace.afterAll k' actions)).2.sent =
            (s.market.marketplace.afterAll k' actions).sent ++ first :: more ∧
              first.AsksPart id none) := by
  constructor
  · intro items k' hfetch
    refine ⟨pageAnswer items, isPaged_pageAnswer id items, ?_, fun actions number size => ?_⟩
    · change outcome (s.market.page id number size) k = _
      rw [outcome_page, outcome_listing, hk, hfetch]
      rfl
    · exact run_page_of_kept (s.listing?_afterAll _ actions (k'.listing?_keep_self id items)) _ _
  · intro e k' hfetch
    have hkept : k'.kept = k.kept := kept_wholeListing hfetch
    refine ⟨?_, hkept, fun actions hactions number size => run_page_sent ?_ number size⟩
    · change outcome (s.market.page id number size) k = _
      rw [outcome_page, outcome_listing, hk, hfetch]
      rfl
    · rw [s.listing?_afterAll_of_notMem k' actions hactions, Connection.listing?_congr hkept, hk]

/-- A listing of two assignments: its second page is given after the first one without a further
request. When the service answers nothing, the next page asks for the first part again. -/
theorem pages_of_two :
    (∃ items k' answer, items.length = 2 ∧ IsPaged scriptTask items answer ∧
      (script.market.marketplace.page scriptTask 1 1).run (opened emptyAtEnd) = (answer 1 1, k') ∧
      (script.market.marketplace.page scriptTask 2 1).run k' = (answer 2 1, k')) ∧
    ∃ e k' first more,
      (script.market.marketplace.page scriptTask 1 1).run (opened []) = (.error e, k') ∧
      ((script.market.marketplace.page scriptTask 1 1).run k').2.sent = k'.sent ++ first :: more ∧
        first.AsksPart scriptTask none := by
  constructor
  · obtain ⟨items, k', hfetch, hitems, -⟩ := fetches_of_isChain isChain_emptyAtEnd
      RemoteMarket.partLimit (serves_script scriptTask none emptyAtEnd)
      (ListingReply.hasId_ofIds emptyAtEnd) (by decide)
    obtain ⟨answer, hpaged, hfirst, hfurther⟩ :=
      (pages_of_listing script scriptTask 1 1 (opened emptyAtEnd) rfl).1 items k' hfetch
    exact ⟨items, k'.keep scriptTask items, answer, hitems.length_eq.symm, hpaged, hfirst,
      hfurther [] 2 1⟩
  · have hfetch : outcome (script.market.wholeListing scriptTask) (opened []) =
        (.error (.transport "the script ends"),
          script.exchanged (.list scriptTask none) (opened [])) :=
      outcome_bind_of_error _ (script.outcome_call ..)
    obtain ⟨hfirst, -, hagain⟩ :=
      (pages_of_listing script scriptTask 1 1 (opened []) rfl).2 _ _ hfetch
    obtain ⟨first, more, hsent, hasks⟩ := hagain [] nofun 1 1
    exact ⟨_, _, first, more, hfirst, hsent, hasks⟩

end Service

end CrowdTask
