import CrowdTask.Store.Basic

/-!
# Stores in memory

The registry, the results and the journal as values. Each counts what was written to it or keeps all
of it, so that a run can be looked at afterwards.

## Main definitions

* `CrowdTask.MemoryRecords`, `CrowdTask.MemoryResults`, `CrowdTask.MemoryJournal`: the values.
* `CrowdTask.MemoryRecords.store`, `CrowdTask.MemoryResults.store`,
  `CrowdTask.MemoryJournal.journal`: the stores, in any monad that keeps the value.
-/

namespace CrowdTask

/-- The registry in memory, and how often it was saved. -/
structure MemoryRecords where
  records : Registry
  saves : Nat

namespace MemoryRecords

/-- The given registry, not saved yet. -/
def holding (records : Registry) : MemoryRecords := ⟨records, 0⟩

/-- Loads the registry. -/
def load : StateM MemoryRecords (Except RecordError Registry) := do return .ok (← get).records

/-- Saves a registry in place of the present one. -/
def save (records : Registry) : StateM MemoryRecords (Except RecordError Unit) := do
  modify fun s => ⟨records, s.saves + 1⟩
  return .ok ()

/-- The store, in any monad that keeps the value. -/
def store {m : Type → Type} (run : {α : Type} → StateM MemoryRecords α → m α) : RecordStore m :=
  ⟨run load, fun records => run (save records)⟩

end MemoryRecords

/-- Results in memory by their assignments, and how many were written. -/
structure MemoryResults where
  documents : List (AssignmentId × Json)
  writes : Nat

namespace MemoryResults

/-- The results of the given assignments, which hold nothing. -/
def holding (ids : List AssignmentId) : MemoryResults :=
  ⟨(orderedIds ids).map fun id => (id, .null), 0⟩

/-- What is stored of an assignment. -/
def document? (s : MemoryResults) (id : AssignmentId) : Option Json :=
  (s.documents.find? fun p => p.1 = id).map (·.2)

/-- The identifiers of the stored results. -/
def ids : StateM MemoryResults (Except ResultError (List AssignmentId)) := do
  return .ok (orderedIds ((← get).documents.map (·.1)))

/-- Stores a result, unless there is one for its assignment. -/
def put (r : WorkResult) : StateM MemoryResults (Except ResultError Unit) := do
  let s ← get
  if (s.document? r.id).isSome then return .error (.alreadyStored r.id)
  else
    set (⟨(r.id, r.document) :: s.documents, s.writes + 1⟩ : MemoryResults)
    return .ok ()

/-- The store, in any monad that keeps the value. -/
def store {m : Type → Type} (run : {α : Type} → StateM MemoryResults α → m α) : ResultStore m :=
  ⟨run ids, fun r => run (put r)⟩

end MemoryResults

/-- The entries of a journal in memory, in order. -/
structure MemoryJournal where
  entries : List JournalEntry

namespace MemoryJournal

/-- Nothing was entered. -/
def empty : MemoryJournal := ⟨[]⟩

/-- Enters a change. -/
def append (r : JournalEntry) : StateM MemoryJournal (Except JournalError Unit) := do
  modify fun s => ⟨s.entries ++ [r]⟩
  return .ok ()

/-- The journal, in any monad that keeps the value. -/
def journal {m : Type → Type} (run : {α : Type} → StateM MemoryJournal α → m α) : Journal m :=
  ⟨fun r => run (append r)⟩

end MemoryJournal

end CrowdTask
