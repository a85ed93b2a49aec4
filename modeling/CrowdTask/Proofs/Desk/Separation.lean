import CrowdTask.Proofs.Desk.SingleRecord
import CrowdTask.Proofs.Run.Lockstep
import CrowdTask.Proofs.Store.CrashSafety

/-!
# The environments are separate

A command is executed twice, in worlds that differ only in what the registry says of the other
environment. Both executions make the same calls, the registry apart, and end with the same answer
and in worlds that differ in nothing else again: of the registry a command uses the record of its
own environment alone, and what it enters there is the same.

## Main definitions

* `CrowdTask.RecordPlace.Alike`: two places of a registry that take and refuse the same saves.
* `CrowdTask.Workplace.Alike`: worlds that differ only in the records of other environments.
* `CrowdTask.Visit.IsSeparate`: what is common to two executions, and what each of them keeps.

## Main results

* `CrowdTask.Execution.lockstep_steps_of_ne`, `CrowdTask.Execution.lockstep_create`: a command at
  desks that are in step.
* `CrowdTask.Visit.isSeparate`: the record of another environment is neither used nor changed.
-/

namespace CrowdTask

/-! ### Commands at desks in step -/

namespace Execution

variable {s s' : Type} {R S : s → s' → Prop} {d : Desk (StateM s)} {d' : Desk (StateM s')}
  {job : Job}

/-- Whether two registries have the same record for an environment, or both none. -/
def Agree (e : Environment) (known known' : Registry) : Prop := known.get? e = known'.get? e

theorem lockstep_note (h : d.InStep R d') (change : Change) (data : Json) :
    Lockstep R R Eq (note d change data) (note d' change data) :=
  .bind_eq (.lift h.clock) fun _ => .attempt ExecutionError.journal (h.append _).lockstep

theorem lockstep_addAssignments (h : d.InStep R d') (id : TaskId) (count : UInt32) :
    Lockstep R R Eq (addAssignments d id count) (addAssignments d' id count) :=
  .bind_eq (.attempt ExecutionError.marketplace (h.addAssignments id count).lockstep) fun _ =>
    lockstep_note h _ _

theorem lockstep_addTime (h : d.InStep R d') (id : TaskId) (seconds : UInt64) :
    Lockstep R R Eq (addTime d id seconds) (addTime d' id seconds) := by
  refine .bind_eq (.attempt ExecutionError.marketplace (h.extend id seconds).lockstep) fun t => ?_
  exact .bind_eq (lockstep_note h _ _) fun _ => .pure rfl

section Registry

variable (h : d.InStep R d')
  (hload : Lockstep R R (Agree job.environment) (registry d) (registry d'))

include hload

theorem lockstep_recorded : Lockstep R R Eq (recorded d job) (recorded d' job) := by
  refine .bind hload (fun known known' hagree => ?_) fun _ _ => id
  rw [Agree] at hagree
  rw [hagree]
  cases known'.get? job.environment with
  | none => exact .throw _
  | some r => exact .pure rfl

include h

theorem lockstep_add (x : Addition) : Lockstep R R Eq (add d job x) (add d' job x) := by
  refine .bind_eq (lockstep_recorded hload) fun r => ?_
  cases x with
  | assignments n => exact .bind_eq (lockstep_addAssignments h r.id n) fun _ => .pure rfl
  | time n => exact .bind_eq (lockstep_addTime h r.id n) fun _ => .pure rfl
  | both n m =>
    refine .bind_eq (lockstep_addAssignments h r.id n) fun _ => ?_
    exact .bind_eq (lockstep_addTime h r.id m) fun _ => .pure rfl

theorem lockstep_status : Lockstep R R Eq (status d job) (status d' job) := by
  refine .bind hload (fun known known' hagree => ?_) fun _ _ => id
  rw [Agree] at hagree
  rw [hagree]
  cases known'.get? job.environment with
  | none => exact .pure rfl
  | some r =>
    refine .bind_eq (.attempt ExecutionError.marketplace (h.status r.id).lockstep) fun t => ?_
    exact .bind_eq (.lift h.clock) fun now => .pure rfl

theorem lockstep_expire : Lockstep R R Eq (expire d job) (expire d' job) := by
  refine .bind_eq (lockstep_recorded hload) fun r => ?_
  refine .bind_eq (.attempt ExecutionError.marketplace (h.expire r.id).lockstep) fun _ => ?_
  exact .bind_eq (lockstep_note h _ _) fun _ => .pure rfl

theorem lockstep_download : Lockstep R R Eq (download d job) (download d' job) := by
  refine .bind_eq (lockstep_recorded hload) fun r => ?_
  exact .bind_eq (.attempt ExecutionError.download (Download.lockstep_steps h)) fun _ => .pure rfl

/-- A command that creates no task uses the record of its environment alone. -/
theorem lockstep_steps_of_ne {c : Command} (hc : c ≠ .create) :
    Lockstep R R Eq (steps d job c) (steps d' job c) := by
  cases c with
  | create => exact absurd rfl hc
  | update => exact .pure rfl
  | add x => exact lockstep_add h hload x
  | status => exact lockstep_status h hload
  | expire => exact lockstep_expire h hload
  | download => exact lockstep_download h hload
  | history => exact .pure rfl
  | manage => exact .bind_eq (lockstep_recorded hload) fun r => .pure rfl
  | view => exact .bind_eq (lockstep_recorded hload) fun r => .pure rfl
  | balance =>
    exact .bind_eq (.attempt ExecutionError.marketplace h.balance.lockstep) fun _ => .pure rfl

/-- A command that creates a task saves the registry once, after which the places of the registry
need not go on to take and refuse the same saves. -/
theorem lockstep_create (hRS : ∀ a b, R a b → S a b) (hS : d.InStep S d')
    (hsave : ∀ known known' r, Agree job.environment known known' →
      Lockstep R S Eq (ExceptT.mk (d.records.save (known.insert job.environment r)))
        (ExceptT.mk (d'.records.save (known'.insert job.environment r)))) :
    Lockstep R S Eq (create d job) (create d' job) := by
  refine .bind hload (fun known known' hagree => ?_) hRS
  have hget := hagree
  rw [Agree] at hget
  dsimp only
  rw [hget]
  cases known'.get? job.environment with
  | some r => exact (Lockstep.throw _).mono hRS
  | none =>
    cases job.settings with
    | none => exact (Lockstep.throw _).mono hRS
    | some settings =>
      refine .bind (.attempt ExecutionError.marketplace (h.create _).lockstep) ?_ hRS
      rintro r _ rfl
      refine .bind (.attempt ExecutionError.records (hsave known known' r hagree)) ?_ fun _ _ => id
      rintro _ _ rfl
      exact .bind_eq (lockstep_note hS _ _) fun _ => .pure rfl

end Registry

end Execution

/-! ### Worlds that differ in the other environment -/

variable {σ α : Type} {p : RecordPlace}

/-- Whether two places of a registry take the same saves and refuse them for the same causes. The
directories of the files, where the registries are kept in files, exist. -/
structure RecordPlace.Alike (t t' : p.State) : Prop where
  directory : p.HasDirectory t
  directory' : p.HasDirectory t'
  answers : ∀ known known', ((p.store.save known).run t).1 = ((p.store.save known').run t').1

/-- Memory takes every save. -/
theorem RecordPlace.alike_memory (t t' : RecordPlace.memory.State) : Alike t t' :=
  ⟨trivial, trivial, fun _ _ => rfl⟩

/-- Files that can be replaced take every save. -/
theorem RecordPlace.alike_file {path : String} {t t' : FileTree}
    (hdirectory : RecordFile.HasDirectory path t) (hdirectory' : RecordFile.HasDirectory path t')
    (h : RecordFile.CanSave path t) (h' : RecordFile.CanSave path t') :
    Alike (p := .file path) t t' := by
  have hanswer : ∀ {u}, RecordFile.CanSave path u → ∀ known : Registry,
      (RecordFile.save FileTree.system path known u).1 = .ok () := fun {u} hu known => by
    obtain ⟨d, name, hsplit, hreplace⟩ := hu
    rw [RecordFile.run_save hsplit]
    exact congrArg (Except.mapError RecordError.io) (hreplace.performAll_replace _)
  exact ⟨hdirectory, hdirectory', fun known known' =>
    (hanswer h known).trans (hanswer h' known').symm⟩

/-- Whether two worlds differ only in what the registry says of environments other than `e`. The
places of the registry are related by `Q`. -/
structure Workplace.Alike (e : Environment) (Q : p.State → p.State → Prop)
    (a a' : Workplace p σ) : Prop where
  outside : a.outside = a'.outside
  records : ∃ known known', a.stored = .ok known ∧ a'.stored = .ok known' ∧
    Execution.Agree e known known'
  place : Q a.records a'.records

namespace Visit

open Workplace

variable (v : Visit σ) {e : Environment} {Q : p.State → p.State → Prop}

theorem callsAlike_outside (x : StateM σ α) :
    CallsAlike (Workplace.Alike (p := p) e Q) (onOutside x) (onOutside x) := by
  rintro ⟨t, o⟩ ⟨t', _⟩ ⟨rfl, hrecords, hplace⟩
  exact ⟨rfl, rfl, hrecords, hplace⟩

theorem inStep : (v.desk p).InStep (Workplace.Alike e Q) (v.desk p) where
  ids := callsAlike_outside _
  put _ := callsAlike_outside _
  append _ := callsAlike_outside _
  create _ := callsAlike_outside _
  addAssignments _ _ := callsAlike_outside _
  extend _ _ := callsAlike_outside _
  expire _ := callsAlike_outside _
  status _ := callsAlike_outside _
  page _ _ _ := callsAlike_outside _
  balance := callsAlike_outside _
  clock := callsAlike_outside _

/-- Both registries are loaded, or neither is. -/
theorem lockstep_load :
    Lockstep (Workplace.Alike e Q) (Workplace.Alike e Q) (Execution.Agree e)
      (ExceptT.mk (v.desk p).records.load) (ExceptT.mk (v.desk p).records.load) := by
  rintro ⟨t, o⟩ ⟨t', _⟩ ⟨rfl, ⟨known, known', hknown, hknown', hagree⟩, hplace⟩
  change Matches _ ((v.desk p).records.load.run ⟨t, o⟩).1 ((v.desk p).records.load.run ⟨t', o⟩).1 ∧
    Workplace.Alike e Q ((v.desk p).records.load.run ⟨t, o⟩).2
      ((v.desk p).records.load.run ⟨t', o⟩).2
  rcases hfault : (v.faults .load).run o with ⟨_ | cause, o'⟩
  · have hrun : ∀ {t k}, (⟨t, o⟩ : Workplace p σ).stored = .ok k →
        (v.desk p).records.load.run ⟨t, o⟩ = (.ok k, ⟨t, o'⟩) := fun {t k} hk => by
      have hanswer : (p.store.load.run t).1 = .ok k := hk
      have hload := v.run_records_of_none (a := ⟨t, o⟩) p.store.load hfault
      rw [p.load_snd, hanswer] at hload
      exact hload
    rw [hrun hknown, hrun hknown']
    exact ⟨hagree, rfl, ⟨known, known', hknown, hknown', hagree⟩, hplace⟩
  · have hrun : ∀ t, (v.desk p).records.load.run ⟨t, o⟩ = (.error cause, ⟨t, o'⟩) :=
      fun t => v.run_records_of_some (a := ⟨t, o⟩) p.store.load hfault
    rw [hrun, hrun]
    exact ⟨rfl, rfl, ⟨known, known', hknown, hknown', hagree⟩, hplace⟩

/-- The same record is saved in both registries, or in neither. -/
theorem lockstep_save (known known' : Registry) (r : TaskRecord) :
    Lockstep (Workplace.Alike e p.Alike) (Workplace.Alike e fun _ _ => True) Eq
      (ExceptT.mk ((v.desk p).records.save (known.insert e r)))
      (ExceptT.mk ((v.desk p).records.save (known'.insert e r))) := by
  rintro ⟨t, o⟩ ⟨t', _⟩ ⟨rfl, hrecords, hplace⟩
  change Matches _ (((v.desk p).records.save (known.insert e r)).run ⟨t, o⟩).1
      (((v.desk p).records.save (known'.insert e r)).run ⟨t', o⟩).1 ∧
    Workplace.Alike e (fun _ _ => True)
      (((v.desk p).records.save (known.insert e r)).run ⟨t, o⟩).2
      (((v.desk p).records.save (known'.insert e r)).run ⟨t', o⟩).2
  rcases hfault : (v.faults .save).run o with ⟨_ | cause, o'⟩
  · have hrun : ∀ t rs, ((v.desk p).records.save rs).run ⟨t, o⟩ =
        (((p.store.save rs).run t).1, ⟨((p.store.save rs).run t).2, o'⟩) :=
      fun t rs => v.run_records_of_none (a := ⟨t, o⟩) (p.store.save rs) hfault
    have hanswers := hplace.answers (known.insert e r) (known'.insert e r)
    rw [hrun, hrun]
    rcases hsave : (p.store.save (known.insert e r)).run t with ⟨answer, t₁⟩
    rcases hsave' : (p.store.save (known'.insert e r)).run t' with ⟨answer', t₁'⟩
    rw [hsave, hsave'] at hanswers
    obtain rfl : answer = answer' := hanswers
    refine ⟨matches_eq_iff.mpr rfl, rfl, ?_, trivial⟩
    cases answer with
    | ok =>
      exact ⟨_, _, RecordPlace.stored_of_save hsave, RecordPlace.stored_of_save hsave', by
        rw [Execution.Agree, Registry.get?_insert_self, Registry.get?_insert_self]⟩
    | error cause =>
      obtain ⟨k, k', hk, hk', hagree⟩ := hrecords
      exact ⟨k, k', (RecordPlace.stored_of_save_error hplace.directory hsave).trans hk,
        (RecordPlace.stored_of_save_error hplace.directory' hsave').trans hk', hagree⟩
  · have hrun : ∀ t rs, ((v.desk p).records.save rs).run ⟨t, o⟩ = (.error cause, ⟨t, o'⟩) :=
      fun t rs => v.run_records_of_some (a := ⟨t, o⟩) (p.store.save rs) hfault
    rw [hrun, hrun]
    exact ⟨rfl, rfl, hrecords, trivial⟩

/-- Executions in worlds that differ only in the other environment go in lockstep. -/
theorem lockstep_run :
    Lockstep (Observed.Alike (Workplace.Alike v.job.environment p.Alike))
      (Observed.Alike (Workplace.Alike v.job.environment fun _ _ => True)) Eq
      (Execution.steps (v.desk p).observed v.job v.command)
      (Execution.steps (v.desk p).observed v.job v.command) := by
  have hload : ∀ {Q : p.State → p.State → Prop},
      Lockstep (Observed.Alike (Workplace.Alike v.job.environment Q))
        (Observed.Alike (Workplace.Alike v.job.environment Q))
        (Execution.Agree v.job.environment) (Execution.registry (v.desk p).observed)
        (Execution.registry (v.desk p).observed) :=
    .attempt ExecutionError.records
      (v.lockstep_load.observe (fun _ => rfl) (fun _ => rfl))
  have hle : ∀ o o', Observed.Alike (Workplace.Alike (p := p) v.job.environment p.Alike) o o' →
      Observed.Alike (Workplace.Alike (σ := σ) v.job.environment fun _ _ => True) o o' :=
    fun o o' ho => ⟨⟨ho.world.outside, ho.world.records, trivial⟩, ho.calls⟩
  by_cases hc : v.command = .create
  · rw [hc]
    exact Execution.lockstep_create v.inStep.observed hload hle v.inStep.observed
      fun known known' r _ => (v.lockstep_save known known' r).observe (fun _ => rfl) fun _ => rfl
  · exact (Execution.lockstep_steps_of_ne v.inStep.observed hload hc).mono hle

end Visit

/-! ### Separation -/

/-- What two executions of a command have in common that begin with the registries `known` and
`known'`, and what each of them leaves as it was. -/
structure Visit.IsSeparate (v : Visit σ) (a a' : Workplace p σ) (known known' : Registry) :
    Prop where
  answer : (episode (v.run p) a).answer = (episode (v.run p) a').answer
  calls : outward (episode (v.run p) a).steps = outward (episode (v.run p) a').steps
  outside : (episode (v.run p) a).after.outside = (episode (v.run p) a').after.outside
  records : ∃ k k', (episode (v.run p) a).after.stored = .ok k ∧
    (episode (v.run p) a').after.stored = .ok k' ∧
      k.get? v.job.environment = k'.get? v.job.environment ∧
        ∀ e ≠ v.job.environment, k.get? e = known.get? e ∧ k'.get? e = known'.get? e

theorem Visit.Settles.get?_of_ne {v : Visit σ}
    {run : Episode (Workplace p σ) (Except ExecutionError Report)} {known known' : Registry}
    (h : v.Settles run known known') {e : Environment} (he : e ≠ v.job.environment) :
    known'.get? e = known.get? e := by
  rcases h.change with rfl | ⟨r, -, rfl⟩
  · rfl
  · rw [Registry.get?_insert_of_ne known r he]

/-- The record of another environment is neither used nor changed. -/
theorem Visit.isSeparate (v : Visit σ) {a a' : Workplace p σ} {known known' : Registry}
    (houtside : a.outside = a'.outside) (hplace : p.Alike a.records a'.records)
    (hknown : a.stored = .ok known) (hknown' : a'.stored = .ok known')
    (hagree : known.get? v.job.environment = known'.get? v.job.environment) :
    v.IsSeparate a a' known known' := by
  have hstart : Observed.Alike (Workplace.Alike v.job.environment p.Alike) (⟨a, []⟩ : Observed _)
      ⟨a', []⟩ := ⟨⟨houtside, ⟨known, known', hknown, hknown', hagree⟩, hplace⟩, rfl⟩
  obtain ⟨hanswer, ⟨hafter, ⟨k, k', hk, hk', hagree'⟩, -⟩, hcalls⟩ := v.lockstep_run _ _ hstart
  have hsettles : ∀ {b : Workplace p σ} {known k}, p.HasDirectory b.records →
      b.stored = .ok known → (episode (v.run p) b).after.stored = .ok k →
        v.Settles (episode (v.run p) b) known k := by
    intro b known k hdirectory hb hk
    have hharmless := isHarmless_of_hasDirectory [v] hdirectory (v, episode (v.run p) b) (.head _)
    obtain ⟨k', hsettles⟩ := exists_settles v hb hharmless
    obtain rfl := Except.ok.inj (hk.symm.trans hsettles.after)
    exact hsettles
  exact ⟨matches_eq_iff.mp hanswer, hcalls, hafter, k, k', hk, hk', hagree', fun e he =>
    ⟨(hsettles hplace.directory hknown hk).get?_of_ne he,
      (hsettles hplace.directory' hknown' hk').get?_of_ne he⟩⟩

/-- The record of a task in production. -/
def productionRecord : TaskRecord := ⟨⟨"P", by decide⟩, ⟨"Q", by decide⟩, none⟩

/-- Files among which there is a registry with the record of a task in production. -/
def productionTree : FileTree :=
  (RecordFile.save FileTree.system "records" ⟨none, some productionRecord⟩ .empty).2

/-- A task is created in the sandbox, whether or not there is a task in production. -/
theorem isSeparate_creating :
    (Visit.creating .sandbox ⟨"A", by decide⟩).IsSeparate
      (⟨.empty, ()⟩ : Workplace (.file "records") Unit) ⟨productionTree, ()⟩ .empty
      ⟨none, some productionRecord⟩ := by
  have hroute : Route.splitPath? "records" = some (⟨"."⟩, "records") := by decide +kernel
  have hdirectory : ∀ t : FileTree, t.resolve ⟨"."⟩ = .ok FileTree.workingDirectory →
      RecordFile.HasDirectory "records" t := by
    intro t ht d name hsplit
    obtain rfl := congrArg Prod.fst (Option.some.inj (hroute.symm.trans hsplit))
    exact ⟨_, ht⟩
  refine Visit.isSeparate _ rfl (RecordPlace.alike_file (hdirectory _ rfl)
    (hdirectory _ (by decide +kernel)) ⟨_, _, hroute, ?_⟩ ⟨_, _, hroute, ?_⟩) rfl
    (by decide +kernel) rfl
  · exact ⟨by decide +kernel, by decide +kernel, by decide +kernel, by decide +kernel⟩
  · exact ⟨by decide +kernel, by decide +kernel, by decide +kernel, by decide +kernel⟩

end CrowdTask
