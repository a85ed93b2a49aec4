import CrowdTask.Proofs.Desk.SingleRecord
import CrowdTask.Proofs.Store.DamagedFile

/-!
# Commands without a readable registry

A command that consults the registry loads it before it does anything else. If the registry cannot
be loaded, nothing else happens: no other call is made, so the damaged file keeps its bytes, and no
second task is created in place of one that cannot be read. The other commands have nothing to do
with the registry.

## Main definitions

* `CrowdTask.Command.consultsRegistry`: the commands that consult the registry.
* `CrowdTask.Desk.keptIn`: a desk whose registry is kept in a file.
* `CrowdTask.GuardsRegistry`: what the registry of a file means for a command.

## Main results

* `CrowdTask.Execution.outcome_steps_of_load_error`: a registry that cannot be loaded ends a
  command.
* `CrowdTask.guardsRegistry`: no command goes on without a registry that it consults.
-/

namespace CrowdTask

/-- Whether the command consults the registry. -/
def Command.consultsRegistry : Command → Bool
  | .create | .add _ | .status | .expire | .download | .manage | .view => true
  | .update | .history | .balance => false

namespace Execution

section Load

variable {s α : Type} {d : Desk (StateM s)} {job : Job} {a b : s} {cause : RecordError}

/-- Nothing follows a registry that cannot be loaded. -/
theorem outcome_steps_of_load_error (h : d.records.load.run a = (.error cause, b)) {c : Command}
    (hc : c.consultsRegistry = true) :
    outcome (steps d job c) a = (.error (.records cause), b) := by
  have hregistry : outcome (registry d) a = (.error (.records cause), b) :=
    outcome_attempt ExecutionError.records h
  have hrecorded : outcome (recorded d job) a = (.error (.records cause), b) :=
    outcome_bind_of_error _ hregistry
  cases c with
  | create => exact outcome_bind_of_error _ hregistry
  | status => exact outcome_bind_of_error _ hregistry
  | add | expire | download | manage | view => exact outcome_bind_of_error _ hrecorded
  | update | history | balance => cases hc

/-- The other commands are the same with every place of the registry. -/
theorem run_records_of_consultsRegistry {c : Command} (hc : c.consultsRegistry = false)
    (d : Desk (StateM s)) (job : Job) (records : RecordStore (StateM s)) :
    run { d with records := records } job c = run d job c := by
  cases c with
  | create | add | status | expire | download | manage | view => cases hc
  | update | history | balance => rfl

end Load

end Execution

open Workplace

variable {σ : Type} {path : String}

/-- The desk whose registry is kept in the file that a path names. Its other ports may use the same
files. -/
def Desk.keptIn (path : String) (d : Desk (StateM (Workplace (.file path) σ))) :
    Desk (StateM (Workplace (.file path) σ)) :=
  { d with
    records := ⟨onRecords (RecordPlace.file path).store.load,
      fun rs => onRecords ((RecordPlace.file path).store.save rs)⟩ }

theorem Desk.run_load_keptIn (d : Desk (StateM (Workplace (.file path) σ)))
    (a : Workplace (.file path) σ) : (d.keptIn path).records.load.run a = (a.stored, a) := by
  change (a.stored, { a with records := ((RecordPlace.file path).store.load.run a.records).2 }) = _
  rw [RecordPlace.load_snd]

/-- What the registry of a file means for a command. -/
structure GuardsRegistry (path : String) (d : Desk (StateM (Workplace (.file path) σ))) (job : Job)
    (c : Command) (a : Workplace (.file path) σ) : Prop where
  /-- The bytes of which no registry is loaded are the damaged ones. -/
  damaged : ∀ directory name bytes, Route.splitPath? path = some (directory, name) →
    FileTree.read a.records directory name = .ok bytes →
      ((∃ cause, a.stored = .error cause) ↔ RecordFile.IsDamaged bytes)
  /-- The registry is said to be corrupt if the bytes are a text, and else the storage fails. -/
  kind : ∀ directory name bytes, Route.splitPath? path = some (directory, name) →
    FileTree.read a.records directory name = .ok bytes → ∀ cause, a.stored = .error cause →
      (ExecutionError.records cause).kind =
        if (String.fromUTF8? bytes).isSome then .corruptState else .storage
  /-- A command that consults the registry fails when it is not loaded, and changes nothing. -/
  fails : c.consultsRegistry = true → ∀ cause, a.stored = .error cause →
    (Execution.run (d.keptIn path) job c).run a = (.error (.records cause), a)
  /-- The one call of that command is the one that loads the registry. -/
  stops : c.consultsRegistry = true → ∀ cause, a.stored = .error cause →
    episode (Execution.run (d.keptIn path).observed job c) a =
      ⟨a, .error (.records cause), [⟨a, .load (.error cause), a⟩], a⟩
  /-- Any other command does the same whatever the place of the registry does. -/
  ignores : c.consultsRegistry = false → ∀ records,
    Execution.run { d with records := records } job c = Execution.run d job c

/-- **An unreadable registry stops everything and is never destroyed.** Where the registry cannot be
loaded from its file, a command that consults it fails for that cause. Nothing is called but the
file, and nothing is changed, whatever the other ports are like. -/
theorem guardsRegistry (path : String) (d : Desk (StateM (Workplace (.file path) σ))) (job : Job)
    (c : Command) (a : Workplace (.file path) σ) : GuardsRegistry path d job c a where
  damaged directory name bytes hpath hbytes := RecordFile.load_error_iff hpath hbytes
  kind directory name bytes hpath hbytes cause hcause := by
    rw [RecordFile.eq_of_load_error hpath hbytes hcause]
    split_ifs <;> rfl
  fails hc cause hcause :=
    Execution.outcome_steps_of_load_error (by rw [d.run_load_keptIn, hcause]) hc
  stops hc cause hcause := by
    -- The run is observed from an empty trail, on which the load is the first and only step.
    have hload : (d.keptIn path).observed.records.load.run ⟨a, []⟩ =
        (.error cause, ⟨a, [⟨a, .load (.error cause), a⟩]⟩) := by
      change (((d.keptIn path).records.load.run a).1, (⟨((d.keptIn path).records.load.run a).2,
        [⟨a, .load ((d.keptIn path).records.load.run a).1,
          ((d.keptIn path).records.load.run a).2⟩]⟩ : Observed _)) = _
      rw [d.run_load_keptIn, hcause]
    have hrun : (Execution.run (d.keptIn path).observed job c).run ⟨a, []⟩ = _ :=
      Execution.outcome_steps_of_load_error hload hc
    rw [episode, hrun]
  ignores hc records := Execution.run_records_of_consultsRegistry hc d job records

/-- A desk whose marketplace refuses all calls, and whose other ports succeed. -/
def Desk.idle (w : Type) : Desk (StateM w) where
  records := ⟨pure (.ok .empty), fun _ => pure (.ok ())⟩
  results := ⟨pure (.ok []), fun _ => pure (.ok ())⟩
  journal := ⟨fun _ => pure (.ok ())⟩
  market := .refusing (.transport "")
  clock := pure ⟨0⟩

/-- The file of the registry holds a byte that is not a text. -/
def unreadableFile : Workplace (.file "tasks.json") Unit :=
  ⟨FileTree.empty.plant "tasks.json" (.file ⟨#[255]⟩), ()⟩

/-- No task is created while the file cannot be read. -/
theorem guardsRegistry_unreadableFile :
    RecordFile.IsDamaged ⟨#[255]⟩ ∧
      (Execution.run ((Desk.idle _).keptIn "tasks.json") ⟨.sandbox, none, none⟩ .create).run
        unreadableFile = (.error (.records (.io .notText)), unreadableFile) := by
  have hguards := guardsRegistry "tasks.json" (Desk.idle _) ⟨.sandbox, none, none⟩ .create
    unreadableFile
  have hstored : unreadableFile.stored = .error (.io .notText) := by decide +kernel
  have hpath : Route.splitPath? "tasks.json" = some (⟨"."⟩, "tasks.json") := by decide +kernel
  have hbytes : FileTree.read unreadableFile.records ⟨"."⟩ "tasks.json" = .ok ⟨#[255]⟩ := by
    decide +kernel
  exact ⟨(hguards.damaged _ _ _ hpath hbytes).mp ⟨_, hstored⟩, hguards.fails rfl _ hstored⟩

end CrowdTask
