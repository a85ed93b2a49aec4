import CrowdTask.Proofs.Store.ResultFiles
import CrowdTask.Proofs.Store.Retention

/-!
# Listed results and refused results

Two things tell that a result is stored: it is listed, and it is refused when it is written again.
A result is listed for the name of a file, in which blanks around the identifier do not count. It
is refused for the one file that is named for it without blanks. So a complete file with blanks in
its name makes a result listed that is not refused, although it was never written. And a directory
that is missing lists nothing, while a result is refused if the way to the directory, once it is
made, turns out to lead to a complete file. In every other case the two agree.

## Main definitions

* `CrowdTask.ResultDirectory.IsNamedFor`: the names of files that count for an assignment.
* `CrowdTask.ResultDirectory.IsComplete`: the files that hold a whole result.
* `CrowdTask.ResultDirectory.IsConsistent`: the directories that tell the same in both ways.

## Main results

* `CrowdTask.ResultDirectory.idOfName?_eq_some_iff`: which names count for an assignment.
* `CrowdTask.ResultDirectory.mem_ids_iff`, `CrowdTask.ResultDirectory.put_eq_alreadyStored_iff`:
  what is listed, and what is refused.
* `CrowdTask.ResultDirectory.listed_iff_refused_iff`: when the two agree.
* `CrowdTask.ResultDirectory.listed_not_refused`: a result that is listed and not refused, and one
  that is refused and not listed.
-/

namespace CrowdTask.ResultDirectory

open FileTree

variable {d : Route} {t t' : FileTree} {id : AssignmentId} {name : String} {r : WorkResult}

/-! ### Names -/

/-- Whether a file is named for an assignment, with any blanks around the identifier. -/
def IsNamedFor (name : String) (id : AssignmentId) : Prop :=
  ∃ before after, (∀ c ∈ before, Text.isBlank c = true) ∧ (∀ c ∈ after, Text.isBlank c = true) ∧
    name.toList = before ++ id.text.toList ++ after ++ ending.toList

theorem withoutEnding?_eq_some_iff {ending cs stem : List Char} :
    withoutEnding? ending cs = some stem ↔ cs = stem ++ ending := by
  rw [withoutEnding?]
  split_ifs with h
  · obtain ⟨before, rfl⟩ := List.isSuffixOf_iff_suffix.mp h
    rw [List.length_append, Nat.add_sub_cancel, List.take_left, Option.some_inj,
      List.append_left_inj]
  · refine iff_of_false id ?_
    rintro rfl
    exact h (List.isSuffixOf_iff_suffix.mpr (List.suffix_append _ _))

/-- A file counts for an assignment if it is named for it, blanks around the identifier apart. -/
theorem idOfName?_eq_some_iff : idOfName? name = some id ↔ IsNamedFor name id := by
  have hblank : ∀ c ∈ id.text.toList, Text.isBlank c = false := fun c hc =>
    isBlank_of_isIdChar (id.isIdChar_of_mem hc)
  rw [idOfName?, Option.bind_eq_some_iff]
  simp only [withoutEnding?_eq_some_iff, Identifier.parse?_eq_some_iff, String.toList_ofList]
  constructor
  · rintro ⟨stem, hname, htrim⟩
    obtain ⟨before, after, hbefore, hafter, hstem⟩ := Text.exists_append_strip Text.isBlank stem
    refine ⟨before, after, hbefore, hafter, ?_⟩
    rw [hname, ← htrim, Text.trim, ← hstem]
  · rintro ⟨before, after, hbefore, hafter, hname⟩
    refine ⟨_, hname, ?_⟩
    rw [Text.trim, Text.strip_append hbefore hafter]
    exact Text.trim_of_forall hblank

theorem isNamedFor_fileName (id : AssignmentId) : IsNamedFor (fileName id) id :=
  idOfName?_eq_some_iff.mp (idOfName?_fileName id)

/-! ### Files -/

/-- Whether a file is there and holds a whole result. -/
def IsComplete (t : FileTree) (d : Route) (name : String) : Prop :=
  ∃ bytes, t.read d name = .ok bytes ∧ isWhole bytes = true

/-- What can be read in a directory is among its names. -/
theorem mem_names_of_isComplete {names : List String} (hnames : t.names d = .ok names)
    (h : IsComplete t d name) : name ∈ names := by
  obtain ⟨bytes, hread, -⟩ := h
  obtain ⟨q, hq, hnode⟩ := read_eq_ok.mp hread
  obtain ⟨p, hp, -, rfl⟩ := locate_eq_ok.mp hq
  obtain ⟨p', hp', rfl⟩ := names_eq_ok.mp hnames
  obtain rfl := Except.ok.inj (hp.symm.trans hp')
  exact mem_namesAt (not_isFixed_of_ne (t := t) (by simp [hnode])) hnode

/-- The listed results are those for which a complete file is named. -/
theorem mem_ids_iff {found : List AssignmentId} (h : (ids system d t).1 = .ok found) :
    id ∈ found ↔ ∃ names, t.names d = .ok names ∧ ∃ name ∈ names, IsNamedFor name id ∧
      IsComplete t d name := by
  rcases hnames : t.names d with fault | names
  · have hempty : found = [] := by
      rw [run_ids, hnames] at h
      cases fault <;> cases h
      rfl
    rw [hempty]
    exact iff_of_false List.not_mem_nil nofun
  · rw [mem_ids hnames h]
    simp only [idOfName?_eq_some_iff, IsComplete, Except.ok.injEq, exists_eq_left']

/-- A result is refused if its own file is complete once its directory is made. -/
theorem put_eq_alreadyStored_iff :
    (put system d r t).1 = .error (.alreadyStored r.id) ↔
      ∃ t', t.make d = (.ok (), t') ∧ IsComplete t' d (fileName r.id) := by
  rw [run_put]
  rcases hmake : t.make d with ⟨fault | ⟨⟩, u⟩
  · exact iff_of_false nofun nofun
  have hmade : (∃ t', ((.ok (), u) : Except FileFault Unit × FileTree) = (.ok (), t') ∧
      IsComplete t' d (fileName r.id)) ↔ IsComplete u d (fileName r.id) := by
    simp
  rw [hmade, IsComplete]
  rcases hread : u.read d (fileName r.id) with fault | bytes
  · refine iff_of_false ?_ nofun
    cases fault <;> simp [hread, replace_ne_alreadyStored]
  · cases hwhole : isWhole bytes with
    | true => simp [hread, hwhole]
    | false => simp [hread, hwhole, replace_ne_alreadyStored]

/-! ### Agreement -/

/-- Whether a directory tells the same of a result in both ways. -/
structure IsConsistent (t : FileTree) (d : Route) (id : AssignmentId) : Prop where
  /-- No complete file is named for the assignment unless its own file is complete. -/
  named : ∀ names, t.names d = .ok names → ∀ name ∈ names, IsNamedFor name id →
    IsComplete t d name → IsComplete t d (fileName id)
  /-- No missing directory turns out to hold the complete file when it is made. -/
  missing : t.names d = .error .notFound → ∀ t', t.make d = (.ok (), t') →
    ¬IsComplete t' d (fileName id)

theorem put_eq_alreadyStored_iff_of_names {names : List String} (hnames : t.names d = .ok names) :
    (put system d r t).1 = .error (.alreadyStored r.id) ↔ IsComplete t d (fileName r.id) := by
  obtain ⟨p, hp, -⟩ := names_eq_ok.mp hnames
  rw [put_eq_alreadyStored_iff, make_eq_of_resolve hp]
  simp

/-- A refused result is listed if its directory is there. -/
theorem mem_ids_of_put {names : List String} (hnames : t.names d = .ok names)
    {found : List AssignmentId} (h : (ids system d t).1 = .ok found)
    (hput : (put system d r t).1 = .error (.alreadyStored r.id)) : r.id ∈ found := by
  have hcomplete := (put_eq_alreadyStored_iff_of_names hnames).mp hput
  exact (mem_ids_iff h).mpr ⟨names, hnames, _, mem_names_of_isComplete hnames hcomplete,
    isNamedFor_fileName _, hcomplete⟩

theorem agrees_iff_isConsistent {found : List AssignmentId} (h : (ids system d t).1 = .ok found) :
    (r.id ∈ found ↔ (put system d r t).1 = .error (.alreadyStored r.id)) ↔
      IsConsistent t d r.id := by
  rcases hnames : t.names d with fault | names
  · have hmissing : fault = .notFound ∧ found = [] := by
      rw [run_ids, hnames] at h
      cases fault <;> cases h
      exact ⟨rfl, rfl⟩
    obtain ⟨rfl, rfl⟩ := hmissing
    have hlisted : (r.id ∈ [] ↔ (put system d r t).1 = .error (.alreadyStored r.id)) ↔
        ∀ t', t.make d = (.ok (), t') → ¬IsComplete t' d (fileName r.id) := by
      rw [put_eq_alreadyStored_iff]
      simp only [List.not_mem_nil, false_iff, not_exists, not_and]
    rw [hlisted]
    refine ⟨fun hmade => ⟨fun names hnames' => ?_, fun _ => hmade⟩, fun hc => hc.missing hnames⟩
    rw [hnames] at hnames'
    cases hnames'
  · rw [put_eq_alreadyStored_iff_of_names hnames]
    have hback : IsComplete t d (fileName r.id) → r.id ∈ found := fun hcomplete =>
      mem_ids_of_put hnames h ((put_eq_alreadyStored_iff_of_names hnames).mpr hcomplete)
    constructor
    · intro hagree
      refine ⟨fun names' hnames' name hname hfor hcomplete => hagree.mp ?_, fun hmissing => ?_⟩
      · exact (mem_ids_iff h).mpr ⟨names', hnames', name, hname, hfor, hcomplete⟩
      · rw [hnames] at hmissing
        cases hmissing
    · intro hconsistent
      refine ⟨fun hmem => ?_, hback⟩
      obtain ⟨names', hnames', name, hname, hfor, hcomplete⟩ := (mem_ids_iff h).mp hmem
      exact hconsistent.named names' hnames' name hname hfor hcomplete

/-- **A result is listed if and only if it is refused**, unless a complete file is named for it with
blanks while its own file is not complete, or a missing directory turns out to hold its complete
file when it is made. In a directory that is there a refused result is always listed. -/
theorem listed_iff_refused_iff {path : String} {found : List AssignmentId}
    (hids : ((store system path).ids t).1 = .ok found) :
    ((r.id ∈ found ↔ ((store system path).put r t).1 = .error (.alreadyStored r.id)) ↔
        path = "" ∨ IsConsistent t ⟨path⟩ r.id) ∧
      ((∃ names, t.names ⟨path⟩ = .ok names) →
        ((store system path).put r t).1 = .error (.alreadyStored r.id) → r.id ∈ found) := by
  by_cases hpath : path = ""
  · subst hpath
    have hput : ((store system "").put r t).1 = .error (.io .notFound) := rfl
    obtain rfl : found = [] := (Except.ok.inj hids).symm
    rw [hput]
    simp
  · rw [store_of_ne hpath] at hids ⊢
    refine ⟨?_, fun ⟨names, hnames⟩ hput => mem_ids_of_put hnames hids hput⟩
    rw [or_iff_right hpath]
    exact agrees_iff_isConsistent hids

/-- A directory with complete files of some names. -/
def filled (place : Place) (names : List String) : FileTree :=
  ⟨(place, .directory) :: names.map fun name => (place.enter name, .file "{}".toUTF8)⟩

/-- A result without fields and answers. -/
def blank (id : AssignmentId) : WorkResult := ⟨id, [], []⟩

/-- Of two results that are listed, the one whose file has a blank in its name is not refused. -/
theorem listed_iff_refused_of_two :
    let results := filled (workingDirectory.enter "results") ["A1.json", " A2.json"]
    ((store system "results").ids results).1 = .ok [⟨"A1", by decide⟩, ⟨"A2", by decide⟩] ∧
      IsConsistent results ⟨"results"⟩ ⟨"A1", by decide⟩ ∧
      ¬IsConsistent results ⟨"results"⟩ ⟨"A2", by decide⟩ := by
  intro results
  have hids : ((store system "results").ids results).1 =
      .ok [⟨"A1", by decide⟩, ⟨"A2", by decide⟩] := by
    decide +kernel
  have hrefused : ((store system "results").put (blank ⟨"A1", by decide⟩) results).1 =
      .error (.alreadyStored ⟨"A1", by decide⟩) := by
    decide +kernel
  have hstored : ((store system "results").put (blank ⟨"A2", by decide⟩) results).1 = .ok () := by
    decide +kernel
  refine ⟨hids, ?_, fun hconsistent => ?_⟩
  · have hagree := (listed_iff_refused_iff (r := blank ⟨"A1", by decide⟩) hids).1.mp
      (iff_of_true (by decide) hrefused)
    exact hagree.resolve_left (by decide)
  · have hagree := (listed_iff_refused_iff (r := blank ⟨"A2", by decide⟩) hids).1.mpr
      (.inr hconsistent)
    exact nomatch hstored.symm.trans (hagree.mp (by decide))

/-- A result that is listed for the name of a file with a blank, but not refused, and a result that
is refused in the directory that a path leads back to, but not listed before. -/
theorem listed_not_refused :
    let spaced := filled (workingDirectory.enter "results") [" A1.json"]
    let hidden := filled workingDirectory ["A1.json"]
    (((store system "results").ids spaced).1 = .ok [⟨"A1", by decide⟩] ∧
        ((store system "results").put (blank ⟨"A1", by decide⟩) spaced).1 = .ok ()) ∧
      ((store system "a/..").ids hidden).1 = .ok [] ∧
        ((store system "a/..").put (blank ⟨"A1", by decide⟩) hidden).1 =
          .error (.alreadyStored ⟨"A1", by decide⟩) := by
  decide +kernel

end CrowdTask.ResultDirectory
