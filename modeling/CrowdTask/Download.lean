import CrowdTask.Marketplace.Basic
import CrowdTask.Store.Basic

/-!
# Downloads

A download brings the assignments of a task into the store of results, page by page. What is listed
there is not fetched again: the pages before the first one that can hold something new are left out,
and known entries of the other pages are skipped. An assignment counts as stored once it was put
there, so that a download that was cut short can be repeated.

## Main definitions

* `CrowdTask.Download.firstPage`, `CrowdTask.Download.pageCount`: the pages that are fetched.
* `CrowdTask.DownloadSummary`: what a download did.
* `CrowdTask.Download.run`: a download, in any monad.
-/

namespace CrowdTask

/-- What a download did: how much was stored and listed before, the pages that were fetched, and
the entries of those pages that were written or skipped, in order. -/
structure DownloadSummary where
  alreadyStored : Nat
  remoteTotal : Nat
  pages : List Nat
  written : List AssignmentId
  skipped : List AssignmentId
  deriving DecidableEq, Repr

namespace DownloadSummary

/-- Whether there was nothing to fetch. -/
def isUpToDate (r : DownloadSummary) : Bool := r.pages.isEmpty && r.alreadyStored = r.remoteTotal

/-- The largest count that a report can state. -/
def countLimit : Nat := UInt64.size - 1

/-- The number of results stored after the download. -/
def storedAfter (r : DownloadSummary) : Nat := min countLimit (r.alreadyStored + r.written.length)

end DownloadSummary

/-- Why a download stops. -/
inductive DownloadError where
  | marketplace (cause : MarketError)
  | results (cause : ResultError)
  deriving DecidableEq, Repr

/-- The message for a download that stops. -/
def DownloadError.message : DownloadError → String
  | .marketplace cause => cause.message
  | .results cause => cause.message

/-- A call as a step that may fail for a cause of another kind. -/
def attempt {m : Type → Type} [Monad m] {α ε ε' : Type} (cause : ε → ε')
    (call : m (Except ε α)) : ExceptT ε' m α :=
  ExceptT.mk do return (← call).mapError cause

namespace Download

/-- The number of assignments on a page. -/
def pageSize : Nat := 50

/-- The first page that can hold something new when `stored` results are stored. The page of the
last stored result is fetched again unless it is full. -/
def firstPage (stored : Nat) : Nat := stored / pageSize + 1

/-- The number of pages of `total` assignments. -/
def pageCount (total : Nat) : Nat := (total + (pageSize - 1)) / pageSize

/-- How far a download has come: the identifiers known to be stored, and the entries of the report
so far. -/
structure Progress where
  known : List AssignmentId
  pages : List Nat
  written : List AssignmentId
  skipped : List AssignmentId

variable {m : Type → Type} [Monad m]

/-- Stores one entry, unless it is known to be stored or turns out to be. -/
def takeEntry (results : ResultStore m) (salt : Option String) (p : Progress)
    (a : Submission) : ExceptT DownloadError m Progress :=
  if a.id ∈ p.known then pure { p with skipped := p.skipped ++ [a.id] }
  else do
    match ← (results.put (.decode salt a) : m (Except ResultError Unit)) with
    | .ok () => return { p with known := a.id :: p.known, written := p.written ++ [a.id] }
    | .error (.alreadyStored id) =>
      return { p with known := id :: p.known, skipped := p.skipped ++ [id] }
    | .error e => throw (.results e)

/-- Fetches a page and stores its entries. -/
def takePage (market : Marketplace m) (results : ResultStore m) (salt : Option String)
    (task : TaskId) (p : Progress) (page : Nat) : ExceptT DownloadError m Progress := do
  let fetched ← attempt .marketplace (market.page task page pageSize)
  fetched.items.foldlM (takeEntry results salt) { p with pages := p.pages ++ [page] }

/-- Fetches `n` pages, beginning with the page number `page`. -/
def takePages (market : Marketplace m) (results : ResultStore m) (salt : Option String)
    (task : TaskId) : Nat → Nat → Progress → ExceptT DownloadError m Progress
  | 0, _, p => pure p
  | n + 1, page, p => do
    let p ← takePage market results salt task p page
    takePages market results salt task n (page + 1) p

/-- The steps of a download. The counts of stored and of listed assignments are compared first;
when they are equal nothing is fetched. -/
def steps (market : Marketplace m) (results : ResultStore m) (salt : Option String)
    (task : TaskId) : ExceptT DownloadError m DownloadSummary := do
  let known ← attempt .results results.ids
  let stored := known.length
  let first ← attempt .marketplace (market.page task 1 1)
  if stored = first.total then return ⟨stored, first.total, [], [], []⟩
  else
    let start := firstPage stored
    let p ← takePages market results salt task (pageCount first.total + 1 - start) start
      ⟨known, [], [], []⟩
    return ⟨stored, first.total, p.pages, p.written, p.skipped⟩

/-- Downloads the assignments of a task. With a salt the workers stay anonymous. -/
def run (market : Marketplace m) (results : ResultStore m) (salt : Option String) (task : TaskId) :
    m (Except DownloadError DownloadSummary) :=
  (steps market results salt task).run

end Download

end CrowdTask
