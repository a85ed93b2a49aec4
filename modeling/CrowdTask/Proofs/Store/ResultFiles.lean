import CrowdTask.Proofs.Files.Replacement
import CrowdTask.Proofs.Json.Nesting
import CrowdTask.Proofs.Store.OrderedIds
import CrowdTask.Store.ResultDirectory

/-!
# The files of results

The store of results works on the file of one assignment at a time. Every other file of a result
stays as it is: the names of files differ when the assignments do, and no draft is named like a
result. What is listed are the files that can be read as JSON.

## Main definitions

* `CrowdTask.ResultDirectory.IsListable`: the directories that can be listed.

## Main results

* `CrowdTask.ResultDirectory.read_of_put_ok`: a result that was written is in its file.
* `CrowdTask.ResultDirectory.put_of_isWhole`, `CrowdTask.ResultDirectory.put_ne_of_not_isWhole`: a
  result is refused if and only if its file is complete.
* `CrowdTask.ResultDirectory.read_put`: complete results stay, whatever is written.
* `CrowdTask.ResultDirectory.mem_ids`, `CrowdTask.ResultDirectory.ids_isOk_iff`: what is listed, and
  when.
-/

namespace CrowdTask.ResultDirectory

open FileTree

variable {d : Route} {t t' : FileTree} {id : AssignmentId} {name : String} {bytes : ByteArray}

/-! ### Names -/

theorem fileName_inj {a b : AssignmentId} : fileName a = fileName b ↔ a = b := by
  constructor
  · intro h
    exact Identifier.eq_of_text (String.append_left_inj ending |>.mp h)
  · rintro rfl
    rfl

/-- The file of an assignment is named for it. -/
theorem idOfName?_fileName (id : AssignmentId) : idOfName? (fileName id) = some id := by
  have hstem : withoutEnding? ending.toList (fileName id).toList = some id.text.toList := by
    rw [withoutEnding?, fileName, String.toList_append, if_pos (by simp)]
    simp
  rw [idOfName?, hstem, Option.bind_some, String.ofList_toList, Identifier.parse?_text]

/-- No draft is the file of an assignment, since no identifier begins with a point. -/
theorem draftName_ne_fileName (name : String) (id : AssignmentId) :
    FileOp.draftName name ≠ fileName id := by
  intro h
  obtain ⟨c, cs, hc⟩ := List.exists_cons_of_ne_nil id.toList_text_ne_nil
  have hlist := congrArg String.toList h
  rw [FileOp.draftName, fileName, String.toList_append, String.toList_append, String.toList_append,
    hc] at hlist
  have hdot : '.' = c := (List.cons.inj hlist).1
  have hchar := id.isIdChar_of_mem (c := c) (by rw [hc]; exact .head _)
  rw [← hdot] at hchar
  exact absurd hchar (by decide)

/-! ### Single files -/

theorem run_holdsResult (d : Route) (name : String) (t : FileTree) :
    holdsResult system d name t =
      (match t.read d name with
        | .ok bytes => .ok (isWhole bytes)
        | .error .notFound => .ok false
        | .error fault => .error fault, t) := by
  have hread : system.read d name t = (t.read d name, t) := rfl
  simp only [holdsResult, bind, StateT.bind, hread]
  rcases t.read d name with fault | bytes
  · cases fault <;> rfl
  · rfl

/-! ### Writing -/

theorem run_replace {σ : Type} {fs : FileSystem (StateM σ)} (d : Route) (name : String)
    (bytes : ByteArray) (s : σ) :
    replace fs d name bytes s =
      match fs.performAll (FileOp.replace d name bytes) s with
      | (.ok (), u) => (.ok (), u)
      | (.error fault, u) =>
        (.error (.io fault), (fs.perform (.remove d (FileOp.draftName name)) u).2) := by
  simp only [replace, bind, StateT.bind]
  rcases fs.performAll (FileOp.replace d name bytes) s with ⟨fault | ⟨⟩, u⟩
  · rfl
  · rfl

theorem performAll_of_replace_ok {σ : Type} {fs : FileSystem (StateM σ)} {s s' : σ}
    (h : replace fs d name bytes s = (.ok (), s')) :
    fs.performAll (FileOp.replace d name bytes) s = (.ok (), s') := by
  rw [run_replace] at h
  rcases hops : fs.performAll (FileOp.replace d name bytes) s with ⟨fault | ⟨⟩, u⟩
  · rw [hops] at h
    cases h
  · rw [hops] at h
    exact congrArg _ (Prod.mk.inj h).2

/-- Storing a result on a file system whose states show a tree. -/
theorem run_put_on {σ : Type} (fs : FileSystem (StateM σ)) (tree : σ → FileTree)
    (hread : ∀ d name s, fs.read d name s = ((tree s).read d name, s)) (r : WorkResult) {s : σ}
    {made : Except FileFault Unit × σ} : fs.perform (.makeDirectories d) s = made →
      put fs d r s =
        match made with
        | (.error fault, u) => (.error (.io fault), u)
        | (.ok (), u) =>
          match (tree u).read d (fileName r.id) with
          | .ok bytes =>
            if isWhole bytes then (.error (.alreadyStored r.id), u)
            else replace fs d (fileName r.id) (text r).toUTF8 u
          | .error .notFound => replace fs d (fileName r.id) (text r).toUTF8 u
          | .error fault => (.error (.io fault), u) := by
  intro hmake
  simp only [put, bind, StateT.bind, hmake]
  obtain ⟨fault | ⟨⟩, u⟩ := made
  · rfl
  simp only [holdsResult, bind, StateT.bind, hread]
  rcases (tree u).read d (fileName r.id) with fault | bytes
  · cases fault <;> rfl
  · cases hwhole : isWhole bytes with
    | true =>
      simp only [hwhole]
      rfl
    | false =>
      simp only [hwhole]
      rfl

/-- A result is stored where its directory can be made and its file is replaced. -/
theorem replace_of_put_ok {σ : Type} {fs : FileSystem (StateM σ)} (tree : σ → FileTree)
    (hread : ∀ d name s, fs.read d name s = ((tree s).read d name, s)) {r : WorkResult} {s s' : σ}
    (h : put fs d r s = (.ok (), s')) :
    ∃ u, fs.perform (.makeDirectories d) s = (.ok (), u) ∧
      replace fs d (fileName r.id) (text r).toUTF8 u = (.ok (), s') := by
  rcases hmake : fs.perform (.makeDirectories d) s with ⟨fault | ⟨⟩, u⟩
  · rw [run_put_on fs tree hread r hmake] at h
    cases h
  · refine ⟨u, rfl, ?_⟩
    rw [run_put_on fs tree hread r hmake] at h
    simp only at h
    split at h
    · split at h
      · cases h
      · exact h
    · exact h
    · cases h

theorem run_put (d : Route) (r : WorkResult) (t : FileTree) :
    put system d r t =
      match t.make d with
      | (.error fault, u) => (.error (.io fault), u)
      | (.ok (), u) =>
        match u.read d (fileName r.id) with
        | .ok bytes =>
          if isWhole bytes then (.error (.alreadyStored r.id), u)
          else replace system d (fileName r.id) (text r).toUTF8 u
        | .error .notFound => replace system d (fileName r.id) (text r).toUTF8 u
        | .error fault => (.error (.io fault), u) := by
  rcases hmake : t.make d with ⟨fault | ⟨⟩, u⟩
  · exact run_put_on system id (fun _ _ _ => rfl) r hmake
  · rw [run_put_on system id (fun _ _ _ => rfl) r hmake]
    rcases hread : u.read d (fileName r.id) with fault | bytes
    · cases fault <;> simp [hread]
    · simp [hread]

/-- A result that was written is in its file. -/
theorem read_of_put_ok {r : WorkResult} (h : put system d r t = (.ok (), t')) :
    t'.read d (fileName r.id) = .ok (text r).toUTF8 := by
  obtain ⟨u, -, hreplace⟩ := replace_of_put_ok id (fun _ _ _ => rfl) h
  exact read_of_replace (performAll_of_replace_ok hreplace)

theorem read_replace_of_ne {other : AssignmentId} (hne : other ≠ id)
    (h : t.read d (fileName id) = .ok bytes) (new : ByteArray) :
    (replace system d (fileName other) new t).2.read d (fileName id) = .ok bytes := by
  have hops : ∀ op ∈ FileOp.replace d (fileName other) new, op.Spares d (fileName id) :=
    FileOp.spares_replace new (fun heq => hne (fileName_inj.mp heq)) (draftName_ne_fileName _ id)
  have hread := read_performAll hops h
  rw [run_replace]
  rcases hresult : system.performAll (FileOp.replace d (fileName other) new) t with
    ⟨fault | ⟨⟩, u⟩
  · rw [hresult] at hread
    exact read_perform ⟨rfl, draftName_ne_fileName _ id⟩ hread
  · rwa [hresult] at hread

theorem run_put_of_read {r : WorkResult} (h : t.read d (fileName r.id) = .ok bytes) :
    put system d r t =
      if isWhole bytes then (.error (.alreadyStored r.id), t)
      else replace system d (fileName r.id) (text r).toUTF8 t := by
  obtain ⟨q, hq, -⟩ := read_eq_ok.mp h
  obtain ⟨p, hp, -⟩ := locate_eq_ok.mp hq
  rw [run_put, make_eq_of_resolve hp]
  simp only [h]

/-- A complete result is refused, and nothing is changed. -/
theorem put_of_isWhole {r : WorkResult} (h : t.read d (fileName r.id) = .ok bytes)
    (hwhole : isWhole bytes = true) :
    put system d r t = (.error (.alreadyStored r.id), t) := by
  rw [run_put_of_read h, if_pos hwhole]

/-- A file that gets its bytes is not refused. -/
theorem replace_ne_alreadyStored (d : Route) (name : String) (bytes : ByteArray) (t : FileTree)
    (id : AssignmentId) : (replace system d name bytes t).1 ≠ .error (.alreadyStored id) := by
  rw [run_replace]
  rcases system.performAll (FileOp.replace d name bytes) t with ⟨fault | ⟨⟩, u⟩
  · exact fun h => nomatch Except.error.inj h
  · exact nofun

/-- A result that is not complete is not refused. -/
theorem put_ne_of_not_isWhole {r : WorkResult} (h : t.read d (fileName r.id) = .ok bytes)
    (hwhole : isWhole bytes = false) :
    (put system d r t).1 ≠ .error (.alreadyStored r.id) := by
  rw [run_put_of_read h, hwhole, if_neg Bool.false_ne_true]
  exact replace_ne_alreadyStored _ _ _ _ _

/-- Writing a result leaves the file of another assignment as it is, and that of its own one too
when it is complete. -/
theorem read_put {r : WorkResult} (h : t.read d (fileName id) = .ok bytes)
    (hspared : r.id = id → isWhole bytes = true) :
    (put system d r t).2.read d (fileName id) = .ok bytes := by
  by_cases hid : r.id = id
  · subst hid
    rw [put_of_isWhole h (hspared rfl)]
    exact h
  · obtain ⟨q, hq, -⟩ := read_eq_ok.mp h
    obtain ⟨p, hp, -⟩ := locate_eq_ok.mp hq
    have hreplace := read_replace_of_ne hid h (text r).toUTF8
    rw [run_put, make_eq_of_resolve hp]
    simp only
    split
    · split
      · exact h
      · exact hreplace
    · exact hreplace
    · exact h

/-! ### Listing -/

/-- Whether every entry that is named for an assignment can be read as a file. -/
def IsListable (d : Route) (t : FileTree) : Prop :=
  ∀ names, t.names d = .ok names → ∀ name ∈ names, (idOfName? name).isSome →
    ∃ bytes, t.read d name = .ok bytes

theorem run_completeIds_cons (d : Route) (acc : List AssignmentId) (name : String)
    (names : List String) (t : FileTree) :
    completeIds system d acc (name :: names) t =
      match idOfName? name with
      | none => completeIds system d acc names t
      | some id =>
        match t.read d name with
        | .ok bytes =>
          completeIds system d (if isWhole bytes then insertId id acc else acc) names t
        | .error .notFound => completeIds system d acc names t
        | .error fault => (.error fault, t) := by
  rw [completeIds]
  cases idOfName? name with
  | none => rfl
  | some id =>
    simp only [bind, StateT.bind, run_holdsResult]
    rcases t.read d name with fault | bytes
    · cases fault <;> rfl
    · cases hwhole : isWhole bytes with
      | true =>
        simp only [hwhole]
        rfl
      | false =>
        simp only [hwhole]
        rfl

theorem run_ids (d : Route) (t : FileTree) :
    ids system d t =
      match t.names d with
      | .ok names => ((completeIds system d [] names t).1.mapError .io,
          (completeIds system d [] names t).2)
      | .error .notFound => (.ok [], t)
      | .error fault => (.error (.io fault), t) := by
  have hnames : system.names d t = (t.names d, t) := rfl
  simp only [ids, bind, StateT.bind, hnames]
  rcases t.names d with fault | names
  · cases fault <;> rfl
  · rfl

theorem completeIds_snd (acc : List AssignmentId) (names : List String) :
    (completeIds system d acc names t).2 = t := by
  induction names generalizing acc with
  | nil => rfl
  | cons name names ih =>
    rw [run_completeIds_cons]
    split
    · exact ih acc
    · split
      · exact ih _
      · exact ih acc
      · rfl

/-- Listing changes no file. -/
theorem ids_snd (d : Route) (t : FileTree) : (ids system d t).2 = t := by
  rw [run_ids]
  split
  · exact completeIds_snd [] _
  · rfl
  · rfl

/-- What is listed of the names of a directory. -/
theorem completeIds_ok {names : List String} {acc ids : List AssignmentId}
    (h : (completeIds system d acc names t).1 = .ok ids) (x : AssignmentId) :
    x ∈ ids ↔ x ∈ acc ∨ ∃ name ∈ names, idOfName? name = some x ∧
      ∃ bytes, t.read d name = .ok bytes ∧ isWhole bytes = true := by
  induction names generalizing acc with
  | nil =>
    obtain rfl : acc = ids := Except.ok.inj h
    simp
  | cons name names ih =>
    rw [run_completeIds_cons] at h
    cases hid : idOfName? name with
    | none =>
      rw [hid] at h
      rw [ih h]
      simp [hid]
    | some id =>
      simp only [hid] at h
      rcases hread : t.read d name with fault | bytes
      · simp only [hread] at h
        split at h
        · contradiction
        · rw [ih h]
          simp [hread]
        · cases h
      · simp only [hread] at h
        rw [ih h]
        cases hwhole : isWhole bytes with
        | true =>
          have hhead : (some id = some x ∧ ∃ b, t.read d name = .ok b ∧ isWhole b = true) ↔
              x = id := by
            constructor
            · rintro ⟨hx, -⟩
              exact (Option.some.inj hx).symm
            · rintro rfl
              exact ⟨rfl, bytes, hread, hwhole⟩
          rw [if_pos rfl, mem_insertId, List.exists_mem_cons_iff, hid, hhead,
            or_assoc, or_left_comm]
        | false => simp [hread, hwhole]

/-- The names of a directory are listed as far as they can be read. -/
theorem completeIds_isOk {names : List String} {acc : List AssignmentId} :
    (∃ ids, (completeIds system d acc names t).1 = .ok ids) ↔
      ∀ name ∈ names, (idOfName? name).isSome →
        (∃ bytes, t.read d name = .ok bytes) ∨ t.read d name = .error .notFound := by
  induction names generalizing acc with
  | nil => exact ⟨nofun, fun _ => ⟨acc, rfl⟩⟩
  | cons name names ih =>
    rw [run_completeIds_cons, List.forall_mem_cons]
    cases hid : idOfName? name with
    | none => simp [ih]
    | some id =>
      rcases hread : t.read d name with fault | bytes
      · cases fault <;> simp [ih]
      · simp [ih]

/-- A directory that exists is listed if and only if its results can be read. -/
theorem ids_isOk_iff {names : List String} (hnames : t.names d = .ok names) :
    (∃ found, (ids system d t).1 = .ok found) ↔ IsListable d t := by
  have hids : (∃ found, (ids system d t).1 = .ok found) ↔
      ∃ found, (completeIds system d [] names t).1 = .ok found := by
    simp only [run_ids, hnames]
    rcases (completeIds system d [] names t).1 with fault | found
    · constructor
      · rintro ⟨_, h⟩
        cases h
      · rintro ⟨_, h⟩
        cases h
    · exact ⟨fun _ => ⟨found, rfl⟩, fun _ => ⟨found, rfl⟩⟩
  rw [hids, completeIds_isOk]
  constructor
  · intro h names' hnames' name hname hid
    obtain rfl := Except.ok.inj (hnames.symm.trans hnames')
    exact (h name hname hid).resolve_right (read_ne_notFound hnames hname)
  · exact fun h name hname hid => Or.inl (h names hnames name hname hid)

/-- The listed results are the complete ones. -/
theorem mem_ids {names : List String} (hnames : t.names d = .ok names) {found : List AssignmentId}
    (h : (ids system d t).1 = .ok found) (x : AssignmentId) :
    x ∈ found ↔ ∃ name ∈ names, idOfName? name = some x ∧
      ∃ bytes, t.read d name = .ok bytes ∧ isWhole bytes = true := by
  rw [run_ids, hnames] at h
  rcases hcomplete : (completeIds system d [] names t).1 with fault | complete
  · simp only [hcomplete] at h
    cases h
  · simp only [hcomplete] at h
    obtain rfl : complete = found := Except.ok.inj h
    rw [completeIds_ok hcomplete]
    simp

end CrowdTask.ResultDirectory
