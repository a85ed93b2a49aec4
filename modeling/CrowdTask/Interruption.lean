import CrowdTask.Execution

/-!
# Interruptions

Any call at a desk may be interrupted: it then fails for a given cause, and has no effect. A desk
with interruptions is a desk again, so that commands can be executed at it.

## Main definitions

* `CrowdTask.DeskCall`: the calls at a desk.
* `CrowdTask.Interruptions`: which calls are interrupted, and for which causes.
* `CrowdTask.Desk.interrupted`: a desk with interruptions.
-/

namespace CrowdTask

/-- The calls at a desk, except for reading the clock. -/
inductive DeskCall where
  | load
  | save
  | ids
  | put
  | append
  | create
  | addAssignments
  | extend
  | expire
  | status
  | page
  | balance
  deriving DecidableEq, Repr

/-- Which calls are interrupted, and for which causes. It is asked before every call. -/
structure Interruptions (m : Type → Type) where
  records : DeskCall → m (Option RecordError)
  results : DeskCall → m (Option ResultError)
  journal : DeskCall → m (Option JournalError)
  market : DeskCall → m (Option MarketError)

variable {m : Type → Type} [Monad m]

/-- A call that is made unless there is a cause against it. -/
def barring {α ε : Type} (cause : m (Option ε)) (call : m (Except ε α)) : m (Except ε α) := do
  match ← cause with
  | some e => return .error e
  | none => call

/-- A store of the registry with interruptions. -/
def RecordStore.interrupted (s : RecordStore m) (i : Interruptions m) : RecordStore m where
  load := barring (i.records .load) s.load
  save records := barring (i.records .save) (s.save records)

/-- A store of results with interruptions. -/
def ResultStore.interrupted (s : ResultStore m) (i : Interruptions m) : ResultStore m where
  ids := barring (i.results .ids) s.ids
  put r := barring (i.results .put) (s.put r)

/-- A journal with interruptions. -/
def Journal.interrupted (j : Journal m) (i : Interruptions m) : Journal m where
  append r := barring (i.journal .append) (j.append r)

/-- A marketplace with interruptions. -/
def Marketplace.interrupted (s : Marketplace m) (i : Interruptions m) : Marketplace m where
  create request := barring (i.market .create) (s.create request)
  addAssignments id count := barring (i.market .addAssignments) (s.addAssignments id count)
  extend id seconds := barring (i.market .extend) (s.extend id seconds)
  expire id := barring (i.market .expire) (s.expire id)
  status id := barring (i.market .status) (s.status id)
  page id page size := barring (i.market .page) (s.page id page size)
  balance := barring (i.market .balance) s.balance

/-- A desk with interruptions. -/
def Desk.interrupted (d : Desk m) (i : Interruptions m) : Desk m where
  records := d.records.interrupted i
  results := d.results.interrupted i
  journal := d.journal.interrupted i
  market := d.market.interrupted i
  clock := d.clock

end CrowdTask
