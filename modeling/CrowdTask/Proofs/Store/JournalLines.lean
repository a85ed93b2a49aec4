import CrowdTask.Proofs.Files.Content
import CrowdTask.Proofs.Json.OneLine
import CrowdTask.Proofs.Store.RegistryFile
import CrowdTask.Proofs.Store.ResultFiles
import CrowdTask.Proofs.Text.Lines
import CrowdTask.Store.JournalFile

/-!
# The lines of a journal file

An entry that is appended adds one line behind the bytes of the file, and nothing else happens to
them. If it cannot be appended, the bytes stay as they are. The text of an entry is all on one line,
and its members are read from that line.

## Main definitions

* `CrowdTask.JournalFile.logged`: the bytes of the file that a path leads to.
* `CrowdTask.JournalFile.lineOf`: the line for an entry, in bytes.
* `CrowdTask.JournalFile.IsFlat`: the data that is read as it was written.

## Main results

* `CrowdTask.JournalFile.logged_of_readPath`: what is read of a journal file are its bytes.
* `CrowdTask.JournalFile.logged_append`: what appending does to the bytes.
* `CrowdTask.JournalFile.bytesAt_save`, `CrowdTask.JournalFile.bytesAt_put`: the registry and the
  results change other bytes than those of their own files in no way.
* `CrowdTask.JournalFile.readBytes?_lineOf`: what is read from the line of an entry.
-/

namespace CrowdTask.JournalFile

open Json Text

variable {path : String} {t t' : FileTree} {r : JournalEntry}

/-! ### Bytes -/

/-- Where a path leads to a file. -/
def place? (path : String) : Option Place :=
  (Route.splitPath? path).map fun x => x.1.placeOf x.2

/-- The bytes of the file that a path leads to, none if there is no file. -/
def logged (path : String) (t : FileTree) : List UInt8 := (place? path).elim [] t.bytesAt

/-- The line for an entry, in bytes and without its end. -/
def lineOf (r : JournalEntry) : List UInt8 := Digest.utf8 r.toJson.compact

theorem logged_of_splitPath? {directory : Route} {name : String}
    (hpath : Route.splitPath? path = some (directory, name)) (t : FileTree) :
    logged path t = t.bytesAt (directory.placeOf name) := by
  rw [logged, place?, hpath]
  rfl

theorem logged_congr (h : ∀ p, place? path = some p → t'.bytesAt p = t.bytesAt p) :
    logged path t' = logged path t := by
  rw [logged, logged]
  cases hplace : place? path with
  | none => rfl
  | some p => exact h p hplace

/-- What is read of a journal file are its bytes. -/
theorem logged_of_readPath {bytes : ByteArray}
    (h : (FileTree.system.readPath path t).1 = .ok bytes) : logged path t = bytes.data.toList := by
  rw [FileSystem.readPath] at h
  rcases hpath : Route.splitPath? path with _ | ⟨directory, name⟩
  · rw [hpath] at h
    cases h
  · rw [hpath] at h
    rw [logged_of_splitPath? hpath]
    exact FileTree.bytesAt_of_read h

theorem toList_toUTF8_line (r : JournalEntry) :
    (line r).toUTF8.data.toList = ended (lineOf r) :=
  utf8_append r.toJson.compact "\n"

/-- No line ends within the line of an entry. -/
theorem lineEnd_notMem_lineOf (r : JournalEntry) : lineEnd ∉ lineOf r :=
  fun h => newline_notMem_compact r.toJson (mem_of_lineEnd_mem_utf8 h)

/-! ### Appending -/

/-- How the bytes of a journal file change when an entry is appended: the line of the entry is put
behind them, and the file can be read, or the appending fails, and they stay. -/
theorem logged_append (path : String) (r : JournalEntry) (t : FileTree) :
    match append FileTree.system path r t with
    | (.ok (), t') => logged path t' = logged path t ++ ended (lineOf r) ∧
        ∃ bytes, (FileTree.system.readPath path t').1 = .ok bytes
    | (.error _, t') => logged path t' = logged path t := by
  rcases hpath : Route.splitPath? path with _ | ⟨directory, name⟩
  · have hrun : append FileTree.system path r t = (.error (.io (.noFileName path)), t) := by
      simp only [append, appendOps, hpath]
      rfl
    rw [hrun]
  · have hbytes := FileTree.bytesAt_performAll_append t directory name (line r).toUTF8
    rcases hresult : FileTree.system.performAll
      [.makeDirectories directory, .append directory name (line r).toUTF8] t with ⟨x, t'⟩
    have hrun : append FileTree.system path r t = (x.mapError .io, t') := by
      simp only [append, appendOps, hpath, bind, StateT.bind, hresult]
      rfl
    rw [hresult] at hbytes
    simp only [hrun, logged_of_splitPath? hpath, FileSystem.readPath, hpath, ← toList_toUTF8_line]
    cases x with
    | error fault => exact hbytes
    | ok => exact hbytes

/-! ### Other files -/

section Others

variable {p : Place} {d : Route} {name : String}

/-- Saving the registry changes the bytes of its own file and of the draft of that alone. -/
theorem bytesAt_save {recordsPath : String}
    (h : ∀ d name, Route.splitPath? recordsPath = some (d, name) → FileOp.IsElsewhere d name p)
    (rs : Registry) (t : FileTree) :
    (RecordFile.save FileTree.system recordsPath rs t).2.bytesAt p = t.bytesAt p := by
  rcases hpath : Route.splitPath? recordsPath with _ | ⟨d, name⟩
  · simp only [RecordFile.save, RecordFile.saveOps, hpath]
    rfl
  · rw [RecordFile.run_save hpath]
    exact FileTree.bytesAt_performAll ((h d name hpath).notMem_places _) t

theorem bytesAt_replace (h : FileOp.IsElsewhere d name p) (bytes : ByteArray) (t : FileTree) :
    (ResultDirectory.replace FileTree.system d name bytes t).2.bytesAt p = t.bytesAt p := by
  have hops := FileTree.bytesAt_performAll (h.notMem_places bytes) t
  rw [ResultDirectory.run_replace]
  rcases hresult : FileTree.system.performAll (FileOp.replace d name bytes) t with ⟨fault | ⟨⟩, u⟩
  · rw [hresult] at hops
    have hremove : p ∉ (FileOp.remove d (FileOp.draftName name)).places :=
      mt List.mem_singleton.mp h.draft
    exact (FileTree.bytesAt_perform hremove u).trans hops
  · rw [hresult] at hops
    exact hops

/-- Storing a result changes the bytes of its own file and of the draft of that alone. -/
theorem bytesAt_put {r : WorkResult}
    (h : FileOp.IsElsewhere d (ResultDirectory.fileName r.id) p) (t : FileTree) :
    (ResultDirectory.put FileTree.system d r t).2.bytesAt p = t.bytesAt p := by
  have hmade := FileTree.bytesAt_make t d p
  rw [ResultDirectory.run_put]
  rcases hmake : t.make d with ⟨fault | ⟨⟩, u⟩
  · rw [hmake] at hmade
    exact hmade
  · rw [hmake] at hmade
    dsimp only
    split
    · split_ifs
      · exact hmade
      · exact (bytesAt_replace h _ u).trans hmade
    · exact (bytesAt_replace h _ u).trans hmade
    · exact hmade

end Others

/-! ### Reading -/

/-- Whether a value is an object of texts and integers, with its members in the order of their
keys. -/
inductive IsFlat : Json → Prop where
  | obj {ms : List (String × Json)} (hkeys : ms.Pairwise fun a b => a.1 < b.1)
    (hvalues : ∀ m ∈ ms, (∃ s, m.2 = .str s) ∨ ∃ n, m.2 = .num (.int n)) : IsFlat (.obj ms)

namespace IsFlat

variable {v : Json}

theorem isWhole (h : IsFlat v) : v.IsWhole := by
  obtain ⟨-, hvalues⟩ := h
  refine membersWhole_iff.mpr fun m hm => ?_
  rcases hvalues m hm with ⟨s, hs⟩ | ⟨n, hn⟩
  · rw [hs]
    trivial
  · rw [hn]
    trivial

theorem nesting_le (h : IsFlat v) : v.nesting ≤ 1 := by
  obtain ⟨-, hvalues⟩ := h
  refine Nat.succ_le_succ (membersNesting_le_iff.mpr fun m hm => ?_)
  rcases hvalues m hm with ⟨s, hs⟩ | ⟨n, hn⟩
  · rw [hs, nesting]
  · rw [hn, nesting]

theorem ordered_eq (h : IsFlat v) : v.ordered = v := by
  obtain ⟨hkeys, hvalues⟩ := h
  rename_i ms
  have hmembers : orderedMembers ms = ms := by
    clear hkeys
    induction ms with
    | nil => rfl
    | cons m ms ih =>
      obtain ⟨hm, hms⟩ := List.forall_mem_cons.mp hvalues
      rw [orderedMembers, ih hms]
      rcases hm with ⟨s, hs⟩ | ⟨n, hn⟩
      · rw [hs, ordered, ← hs]
      · rw [hn, ordered, ← hn]
  rw [ordered, hmembers, Members.ofList_of_pairwise hkeys]

end IsFlat

/-- The line of an entry with flat data is read by itself as an object that holds the kind of the
change and the data. -/
theorem readBytes?_lineOf (h : IsFlat r.data) :
    ∃ members : Members, readBytes? ⟨(lineOf r).toArray⟩ = some (.obj members) ∧
      members.get? "action" = some (.str r.change.word) ∧ members.get? "data" = some r.data := by
  have hnesting : r.toJson.nesting ≤ nestingLimit := by
    have hdata := h.nesting_le
    have hentry : r.toJson.nesting ≤ 2 :=
      Nat.succ_le_succ (membersNesting_le_iff.mpr (by simpa [nesting] using hdata))
    exact hentry.trans (by decide)
  have hwhole : r.toJson.IsWhole := membersWhole_iff.mpr (by simp [h.isWhole, IsWhole])
  have hkeys : ([("time", .str r.time.stamp), ("action", .str r.change.word), ("data", r.data)].map
      fun m : String × Json => m.1).Nodup := by
    simp only [List.map_cons, List.map_nil]
    decide
  obtain ⟨members, hread, hget⟩ := read?_compact_obj hkeys hwhole hnesting
  have hbytes : (⟨(lineOf r).toArray⟩ : ByteArray) = r.toJson.compact.toUTF8 :=
    ByteArray.ext Array.toArray_toList
  refine ⟨members, ?_, hget _, (hget _).trans (congrArg some h.ordered_eq)⟩
  rw [hbytes, readBytes?_toUTF8]
  exact hread

end CrowdTask.JournalFile
