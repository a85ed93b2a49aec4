import CrowdTask.CommandLine
import CrowdTask.Proofs.Desk.AuditTrail
import CrowdTask.Proofs.Desk.Ports
import CrowdTask.Proofs.Store.JournalLines
import CrowdTask.Proofs.Store.ResultFiles

/-!
# Journals that are kept in files

Commands are executed one after the other at desks whose journal is a file of a tree. The other
ports may answer anything, and may use the same files, as long as they leave the bytes of the
journal alone. Then the file only ever grows: each entry that is appended is one more line at its
end, which is read by itself. A registry and results that are kept in files leave the journal alone
unless they are given its place.

## Main definitions

* `CrowdTask.Filing`: a file tree, and whatever else settles what the calls of a desk answer.
* `CrowdTask.Desk.logsTo`: a desk whose journal is kept in a file.
* `CrowdTask.Desk.SparesLog`: that the other ports of a desk leave the file of the journal alone.
* `CrowdTask.Errand`: one execution of a command, at a desk of its own.
* `CrowdTask.ExtendsLog`: what a sequence of executions means for the file of the journal.
* `CrowdTask.Desk.filed`: a desk that keeps everything in files.
* `CrowdTask.IsApart`: whether the place of the journal is that of no other file.

## Main results

* `CrowdTask.Desk.SparesLog.keeps_isLogged`: what each call does to the file.
* `CrowdTask.log_append_only`: what a sequence of executions does to the file.
* `CrowdTask.Desk.sparesLog_filed`, `CrowdTask.isApart_default`: files in other places are no harm
  to the journal, and by default they are in other places.
-/

namespace CrowdTask

open JournalFile Text

/-! ### Desks with a journal file -/

/-- The world of a desk: a file tree, and whatever else settles what its calls answer. -/
structure Filing (σ : Type) where
  files : FileTree
  outside : σ

variable {σ α : Type} {path : String}

namespace Filing

/-- A computation on the files. -/
def onFiles (x : StateM FileTree α) : StateM (Filing σ) α := fun a =>
  let r := x.run a.files
  (r.1, { a with files := r.2 })

/-- A computation on everything else. -/
def onOutside (x : StateM σ α) : StateM (Filing σ) α := fun a =>
  let r := x.run a.outside
  (r.1, { a with outside := r.2 })

/-- The bytes of the journal that is kept in the file that a path names. -/
def log (path : String) (a : Filing σ) : List UInt8 := logged path a.files

end Filing

open Filing

/-- The journal that is kept in the file that a path names. -/
def Filing.journal (σ : Type) (path : String) : Journal (StateM (Filing σ)) :=
  ⟨fun r => onFiles ((JournalFile.journal FileTree.system path).append r)⟩

/-- The desk whose journal is kept in the file that a path names. Its other ports may use the same
files. -/
def Desk.logsTo (path : String) (d : Desk (StateM (Filing σ))) : Desk (StateM (Filing σ)) :=
  { d with journal := Filing.journal σ path }

/-- Whether a step is a call of the journal, or leaves the bytes of the log as they are. -/
def LeavesLog (path : String) (step : DeskStep (Filing σ)) : Prop :=
  step.event.port = .journal ∨ step.after.log path = step.before.log path

/-- Whether no port of a desk but the journal changes the bytes of the log. -/
structure Desk.SparesLog (path : String) (d : Desk (StateM (Filing σ))) : Prop where
  keeps : d.Keeps (LeavesLog path)
  save : ∀ records a, LeavesLog path ⟨a, .save records ((d.records.save records).run a).1,
    ((d.records.save records).run a).2⟩

/-! ### Single calls -/

/-- What a call does to the log: it puts a line for each entry that it appended behind the bytes
that are there, and the file can be read after that. -/
structure IsLogged (path : String) (step : DeskStep (Filing σ)) : Prop where
  bytes : step.after.log path =
    step.before.log path ++ (step.event.appended.map lineOf).flatMap ended
  found : step.event.appended ≠ [] →
    ∃ bytes, (FileTree.system.readPath path step.after.files).1 = .ok bytes ∧
      bytes.data.toList = step.after.log path

theorem LeavesLog.isLogged {step : DeskStep (Filing σ)} (h : LeavesLog path step)
    (hport : step.event.port ≠ .journal) : IsLogged path step := by
  have happended : step.event.appended = [] := by
    rcases step with ⟨a, event, b⟩
    cases event with
    | append r answer => exact absurd rfl hport
    | _ => rfl
  refine ⟨?_, fun hne => absurd happended hne⟩
  rw [happended, h.resolve_left hport]
  exact (List.append_nil _).symm

theorem isLogged_append (path : String) (r : JournalEntry) (a : Filing σ) :
    IsLogged path ⟨a, .append r (((Filing.journal σ path).append r).run a).1,
      (((Filing.journal σ path).append r).run a).2⟩ := by
  have hrun : ((Filing.journal σ path).append r).run a =
      ((append FileTree.system path r a.files).1,
        { a with files := (append FileTree.system path r a.files).2 }) := rfl
  have hlogged := logged_append path r a.files
  rw [hrun]
  rcases happend : append FileTree.system path r a.files with ⟨fault | ⟨⟩, t⟩
  · rw [happend] at hlogged
    exact ⟨hlogged.trans (List.append_nil _).symm, fun hne => absurd rfl hne⟩
  · rw [happend] at hlogged
    obtain ⟨hbytes, bytes, hread⟩ := hlogged
    refine ⟨?_, fun _ => ⟨bytes, hread, (logged_of_readPath hread).symm⟩⟩
    exact hbytes.trans (by simp [DeskEvent.appended, log])

/-- What each call at a desk does to the log, except perhaps the saving of the registry. -/
theorem Desk.SparesLog.keeps_isLogged {d : Desk (StateM (Filing σ))} (h : d.SparesLog path) :
    (d.logsTo path).Keeps (IsLogged path) where
  load a := (h.keeps.load a).isLogged nofun
  ids a := (h.keeps.ids a).isLogged nofun
  put r a := (h.keeps.put r a).isLogged nofun
  append r a := isLogged_append path r a
  create request a := (h.keeps.create request a).isLogged nofun
  addAssignments id n a := (h.keeps.addAssignments id n a).isLogged nofun
  extend id n a := (h.keeps.extend id n a).isLogged nofun
  expire id a := (h.keeps.expire id a).isLogged nofun
  status id a := (h.keeps.status id a).isLogged nofun
  page id number size a := (h.keeps.page id number size a).isLogged nofun
  balance a := (h.keeps.balance a).isLogged nofun
  clock a := (h.keeps.clock a).isLogged nofun

/-! ### Executions -/

/-- The entries that are appended by steps, in order. -/
def appendedIn {w : Type} (steps : List (DeskStep w)) : List JournalEntry :=
  (steps.map (·.event)).flatMap DeskEvent.appended

/-- Steps put the lines of their entries behind the bytes of the log. -/
theorem IsTrail.log_eq {a b : Filing σ} {steps : List (DeskStep (Filing σ))}
    (h : IsTrail a steps b) (hsteps : ∀ step ∈ steps, IsLogged path step) :
    b.log path = a.log path ++ ((appendedIn steps).map lineOf).flatMap ended := by
  induction steps generalizing a with
  | nil =>
    obtain rfl : a = b := h
    exact (List.append_nil _).symm
  | cons step steps ih =>
    obtain ⟨rfl, h⟩ := h
    obtain ⟨hfirst, hrest⟩ := List.forall_mem_cons.mp hsteps
    have hcons : appendedIn (step :: steps) = step.event.appended ++ appendedIn steps := rfl
    rw [ih h hrest, hfirst.bytes, hcons, List.map_append, List.flatMap_append, List.append_assoc]

/-- The data of an entry that records a change is read as it was written. -/
theorem Records.isFlat {e : Environment} {r : JournalEntry} {x : DeskEvent} (h : Records e r x) :
    IsFlat r.data := by
  have hflat : ∀ {ms : List (String × Json)} (keys : List String), keys.Pairwise (· < ·) →
      ms.map (·.1) = keys → (∀ m ∈ ms, (∃ s, m.2 = .str s) ∨ ∃ n, m.2 = .num (.int n)) →
        IsFlat (.obj ms) := by
    rintro ms _ hkeys rfl hvalues
    exact .obj (List.pairwise_map.mp hkeys) hvalues
  cases h with
  | create time request r =>
    exact hflat ["environment", "hit_id", "hit_type_id", "lifetime", "max_assignments"] (by decide)
      rfl (by simp [Json.ofUInt64, Json.ofUInt32])
  | addAssignments time id count =>
    exact hflat ["assignments", "hit_id"] (by decide) rfl (by simp [Json.ofUInt32])
  | addTime time id seconds expiresAt =>
    exact hflat ["expires_at", "hit_id", "seconds"] (by decide) rfl (by simp [Json.ofUInt64])
  | expire time id => exact hflat ["hit_id"] (by decide) rfl (by simp)

/-- Every entry that is appended records a change. -/
theorem IsAudited.isFlat {e : Environment} {kinds : List Change} {events : List DeskEvent}
    {α : Type} {answer : Except ExecutionError α} (h : IsAudited e kinds events answer) :
    ∀ r ∈ events.flatMap DeskEvent.appended, IsFlat r.data := by
  have hall : ∀ {entries : List JournalEntry} {changes : List DeskEvent},
      List.Forall₂ (Records e) entries changes → ∀ r ∈ entries, IsFlat r.data := by
    intro entries changes hrecords
    induction hrecords with
    | nil => exact List.forall_mem_nil _
    | cons hfirst _ ih => exact List.forall_mem_cons.mpr ⟨hfirst.isFlat, ih⟩
  rcases h.mirrored with hrecords | ⟨_, _, _, hrecords, _⟩
  · exact hall hrecords
  · exact hall hrecords

/-- One execution of a command, at a desk of its own. -/
structure Errand (σ : Type) where
  desk : Desk (StateM (Filing σ))
  job : Job
  command : Command

/-- The execution, observed, with the journal in the file that a path names. -/
def Errand.run (path : String) (x : Errand σ) :
    StateM (Observed (Filing σ)) (Except ExecutionError Report) :=
  Execution.run (x.desk.logsTo path).observed x.job x.command

/-- What is known of the observed execution of a command. -/
structure Errand.IsExecution (path : String) (x : Errand σ)
    (run : Episode (Filing σ) (Except ExecutionError Report)) : Prop where
  /-- It does what the execution does. -/
  runs : (run.answer, run.after) =
    (Execution.run (x.desk.logsTo path) x.job x.command).run run.before
  follows : IsTrail run.before run.steps run.after
  logged : x.desk.SparesLog path → ∀ step ∈ run.steps, IsLogged path step
  flat : ∀ step ∈ run.steps, ∀ r ∈ step.event.appended, IsFlat r.data

theorem Errand.isExecution_episode (path : String) (x : Errand σ) (a : Filing σ) :
    x.IsExecution path (episode (x.run path) a) where
  runs := by
    have hrun : Observes (fun _ => True)
        (Execution.steps (x.desk.logsTo path).observed x.job x.command)
        (Execution.steps (x.desk.logsTo path) x.job x.command) :=
      Execution.observes_steps (by constructor <;> intros <;> trivial) (fun _ _ => trivial)
        x.command
    exact hrun.episode a
  follows := (Execution.audits_steps (x.desk.logsTo path) x.job x.command a).episode.1
  logged hspares := by
    have hlogged : Observes (IsLogged path)
        (Execution.steps (x.desk.logsTo path).observed x.job x.command)
        (Execution.steps (x.desk.logsTo path) x.job x.command) :=
      Execution.observes_steps hspares.keeps_isLogged
        (fun records b => (hspares.save records b).isLogged nofun) x.command
    exact (hlogged a).episode.2.2
  flat step hstep r hr := by
    have haudited := (Execution.audits_steps (x.desk.logsTo path) x.job x.command a).episode.2
    exact haudited.isFlat r
      (List.mem_flatMap.mpr ⟨step.event, List.mem_map_of_mem hstep, hr⟩)

/-- What the steps of executions mean for the file of the journal. -/
structure ExtendsLog (path : String) (a : Filing σ) (steps : List (DeskStep (Filing σ)))
    (b : Filing σ) : Prop where
  /-- Each call puts the lines of what it appended behind the bytes that are there. -/
  calls : ∀ step ∈ steps, IsLogged path step
  /-- In the end the bytes are those of the beginning and one line for each entry, in order. -/
  bytes : b.log path = a.log path ++ ((appendedIn steps).map lineOf).flatMap ended
  /-- No line ends within the line of an entry. -/
  oneLine : ∀ r ∈ appendedIn steps, lineEnd ∉ lineOf r
  /-- If the bytes of the beginning are made of lines alone, so are those of the end, whose lines
  are those of the beginning and one for each entry. -/
  lines : IsLined (a.log path) → IsLined (b.log path) ∧
    linesOf (b.log path) = linesOf (a.log path) ++ (appendedIn steps).map lineOf
  /-- The line of an entry is read by itself, and it holds the kind of the change and the data. -/
  decoded : ∀ r ∈ appendedIn steps, ∃ members : Json.Members,
    Json.readBytes? ⟨(lineOf r).toArray⟩ = some (.obj members) ∧
      members.get? "action" = some (.str r.change.word) ∧ members.get? "data" = some r.data

/-- The desk that keeps the registry, the results and the journal in files, and whose marketplace
and clock have nothing to do with these. -/
def Desk.filed (recordsPath resultsPath path : String) (market : Marketplace (StateM σ))
    (clock : StateM σ Instant) : Desk (StateM (Filing σ)) where
  records := ⟨onFiles (RecordFile.store FileTree.system recordsPath).load,
    fun rs => onFiles ((RecordFile.store FileTree.system recordsPath).save rs)⟩
  results := ⟨onFiles (ResultDirectory.store FileTree.system resultsPath).ids,
    fun r => onFiles ((ResultDirectory.store FileTree.system resultsPath).put r)⟩
  journal := Filing.journal σ path
  market :=
    { create := fun request => onOutside (market.create request)
      addAssignments := fun id n => onOutside (market.addAssignments id n)
      extend := fun id n => onOutside (market.extend id n)
      expire := fun id => onOutside (market.expire id)
      status := fun id => onOutside (market.status id)
      page := fun id number size => onOutside (market.page id number size)
      balance := onOutside market.balance }
  clock := onOutside clock

/-- Whether the path of a journal leads neither to the file of the registry, nor to that of a
result, nor to the draft of one of these. -/
structure IsApart (recordsPath resultsPath path : String) : Prop where
  records : ∀ p, place? path = some p → ∀ d name, Route.splitPath? recordsPath = some (d, name) →
    FileOp.IsElsewhere d name p
  results : ∀ p, place? path = some p → ∀ id : AssignmentId,
    FileOp.IsElsewhere ⟨resultsPath⟩ (ResultDirectory.fileName id) p

/-- Files in other places are no harm to the journal. -/
theorem Desk.sparesLog_filed {recordsPath resultsPath : String}
    (h : IsApart recordsPath resultsPath path) (market : Marketplace (StateM σ))
    (clock : StateM σ Instant) :
    (Desk.filed recordsPath resultsPath path market clock).SparesLog path where
  keeps :=
    { load := fun a =>
        .inr (congrArg (logged path) (RecordFile.load_snd recordsPath a.files))
      ids := fun a => .inr (congrArg (logged path) (by
        change ((ResultDirectory.store FileTree.system resultsPath).ids.run a.files).2 = a.files
        rw [ResultDirectory.store]
        split_ifs
        · rfl
        · exact ResultDirectory.ids_snd _ a.files))
      put := fun r a => .inr (logged_congr fun p hp => by
        change ((ResultDirectory.store FileTree.system resultsPath).put r a.files).2.bytesAt p = _
        rw [ResultDirectory.store]
        split_ifs
        · rfl
        · exact bytesAt_put (h.results p hp r.id) a.files)
      append := fun _ _ => .inl rfl
      create := fun _ _ => .inr rfl
      addAssignments := fun _ _ _ => .inr rfl
      extend := fun _ _ _ => .inr rfl
      expire := fun _ _ => .inr rfl
      status := fun _ _ => .inr rfl
      page := fun _ _ _ _ => .inr rfl
      balance := fun _ => .inr rfl
      clock := fun _ => .inr rfl }
  save rs a := .inr (logged_congr fun p hp => bytesAt_save (h.records p hp) rs a.files)

/-- By default the journal is apart from the registry, and from the results in any directory: its
name is that of no result, and no draft has a name like it. -/
theorem isApart_default (resultsPath : String) :
    IsApart CommandLine.default.recordsPath resultsPath CommandLine.default.journalPath := by
  have hplace : place? CommandLine.default.journalPath =
      some (FileTree.workingDirectory.enter "log.jsonl") := by decide +kernel
  have hroute : Route.splitPath? CommandLine.default.recordsPath =
      some (⟨"."⟩, "hit-ids.json") := by decide +kernel
  have hname : ∀ {d : Route} {name : String},
      FileTree.workingDirectory.enter "log.jsonl" = d.placeOf name → "log.jsonl" = name :=
    fun h => Option.some.inj (congrArg (fun p : Place => p.names.head?) h)
  have hdraft : ∀ name, "log.jsonl" ≠ FileOp.draftName name := by
    intro name h
    have hlist := congrArg String.toList h
    rw [FileOp.draftName, String.toList_append, String.toList_append] at hlist
    exact absurd (List.cons.inj hlist).1 (by decide)
  have hresult : ∀ id : AssignmentId, "log.jsonl" ≠ ResultDirectory.fileName id := by
    intro id h
    have hid := ResultDirectory.idOfName?_fileName id
    have hnone : ResultDirectory.idOfName? "log.jsonl" = none := by decide +kernel
    rw [← h, hnone] at hid
    exact nomatch hid
  refine ⟨fun p hp d name hpath => ?_, fun p hp id => ?_⟩
  · obtain rfl := Option.some.inj (hplace.symm.trans hp)
    obtain ⟨rfl, rfl⟩ := Prod.mk.inj (Option.some.inj (hroute.symm.trans hpath))
    exact ⟨fun h => absurd (hname h) (by decide), fun h => hdraft _ (hname h)⟩
  · obtain rfl := Option.some.inj (hplace.symm.trans hp)
    exact ⟨fun h => hresult id (hname h), fun h => hdraft _ (hname h)⟩

/-- The execution of a command in the sandbox, at a desk that keeps everything in files and whose
marketplace confirms whatever a recorded task is asked for. -/
def Errand.confirmed (c : Command) : Errand Unit where
  desk := .filed "hit-ids.json" "./sandbox-results" "log.jsonl"
    { Marketplace.refusing (.transport "") with
      addAssignments := fun _ _ => pure (.ok ())
      extend := fun _ seconds => pure (.ok ⟨seconds.toNat⟩)
      expire := fun _ => pure (.ok ()) }
    (pure ⟨0⟩)
  job := ⟨.sandbox, none, none⟩
  command := c

/-- Files with the record of a task and a journal of one line. -/
def usedFiling : Filing Unit :=
  ⟨((RecordFile.save FileTree.system "hit-ids.json"
      ⟨some ⟨⟨"T1", by decide⟩, ⟨"Y1", by decide⟩, none⟩, none⟩ .empty).2).plant "log.jsonl"
        (.file "\x7b\x7d\n".toUTF8), ()⟩

end CrowdTask
