import CrowdTask.Proofs.Settings.Fields
import CrowdTask.Settings.File

/-!
# Settings are checked field by field

A text that has the form of settings is read if and only if each of its fields is valid on its own.
If not, all fields that are not valid are reported at once, each of them once, in a fixed order and
by an entry that no other field has an influence on. There is one exception: a span whose phrase is
beyond count breaks the program off, and nothing is reported at all.

## Main definitions

* `CrowdTask.SettingsField`: the fields that are checked, in the order in which they are reported.
* `CrowdTask.SettingsDraft.Gives`: that settings are what a draft says.
* `CrowdTask.SettingsDraft.IsValid`, `CrowdTask.SettingsDraft.BreaksOff`: what a field may be, on
  its own.
* `CrowdTask.SettingsDraft.fault?`: the fault that a draft has in a field.
* `CrowdTask.Settings.IsSound`: what settings have in common once they are read.
* `CrowdTask.ChecksFieldwise`: what the reader makes of a draft.

## Main results

* `CrowdTask.SettingsDraft.settings_eq_ok_iff`: the settings of a draft.
* `CrowdTask.SettingsDraft.fault?_eq_none_iff`: the fields with a fault are those that are not
  valid.
* `CrowdTask.SettingsDraft.settings_eq_error`: the faults of a draft.
* `CrowdTask.SettingsDraft.Gives.isSound`: settings that are read are sound.
* `CrowdTask.fields_checked_alone`: what the reader makes of every text with the form of settings.
-/

namespace CrowdTask

/-! ### Fields -/

/-- The fields of settings that may be refused, in the order in which they are reported. -/
inductive SettingsField where
  | title
  | description
  | url
  | frameHeight
  | reward
  | autoApprovalDelay
  | assignmentDuration
  | qualifications
  deriving DecidableEq, Repr

namespace SettingsField

/-- The name of a field in a text. -/
def key : SettingsField → String
  | .title => "title"
  | .description => "description"
  | .url => "url"
  | .frameHeight => "frame_height"
  | .reward => "reward"
  | .autoApprovalDelay => "auto_approval_delay"
  | .assignmentDuration => "assignment_duration"
  | .qualifications => "qualifications"

/-- All fields in their order. -/
def all : List SettingsField :=
  [.title, .description, .url, .frameHeight, .reward, .autoApprovalDelay, .assignmentDuration,
    .qualifications]

theorem mem_all (f : SettingsField) : f ∈ all := by cases f <;> decide

/-- Each field has one place in the order. -/
theorem count_all (f : SettingsField) : all.count f = 1 := by cases f <;> decide

/-- Whether a field holds a span. -/
def HoldsSpan (f : SettingsField) : Prop := f = .autoApprovalDelay ∨ f = .assignmentDuration

end SettingsField

/-- What a draft gives for a field. -/
inductive FieldValue where
  | text (value : Option String)
  | json (value : Option Json)
  | demands (value : QualificationsDraft)

namespace SettingsDraft

variable {d d' : SettingsDraft} {f : SettingsField} {s : Settings}

/-- What a draft gives for a field. -/
def value (d : SettingsDraft) : SettingsField → FieldValue
  | .title => .text d.title
  | .description => .text d.description
  | .url => .text d.url
  | .frameHeight => .json d.frameHeight
  | .reward => .json d.reward
  | .autoApprovalDelay => .json d.autoApprovalDelay
  | .assignmentDuration => .json d.assignmentDuration
  | .qualifications => .demands d.qualifications

/-! ### Valid fields -/

/-- Whether the settings are what the fields of a draft say. -/
structure Gives (d : SettingsDraft) (s : Settings) : Prop where
  title : IsText d.title s.title
  description : IsText d.description s.description
  keywords : s.keywords = d.keywords.getD ""
  url : IsText d.url s.url ∧ secureScheme <+: s.url.toList
  frameHeight : ∃ v, d.frameHeight = some v ∧ IsHeight v s.frameHeight
  reward : ∃ v, d.reward = some v ∧ IsReward v s.reward
  autoApprovalDelay : ∃ v, d.autoApprovalDelay = some v ∧ IsSpan v s.autoApprovalDelay
  assignmentDuration : ∃ v, d.assignmentDuration = some v ∧ IsSpan v s.assignmentDuration
  country : s.qualifications.country = d.qualifications.location.bind Qualifications.countryName?
  approval : IsApproval d.qualifications.approval s.qualifications.approval

/-- Whether a field of a draft says something, on its own. -/
def IsValid (d : SettingsDraft) : SettingsField → Prop
  | .title => ∃ s, IsText d.title s
  | .description => ∃ s, IsText d.description s
  | .url => ∃ s, IsText d.url s ∧ secureScheme <+: s.toList
  | .frameHeight => ∃ n v, d.frameHeight = some v ∧ IsHeight v n
  | .reward => ∃ r v, d.reward = some v ∧ IsReward v r
  | .autoApprovalDelay => ∃ n v, d.autoApprovalDelay = some v ∧ IsSpan v n
  | .assignmentDuration => ∃ n v, d.assignmentDuration = some v ∧ IsSpan v n
  | .qualifications => ∃ p, IsApproval d.qualifications.approval p

/-- A draft gives settings if and only if each of its fields says something. -/
theorem exists_gives_iff : (∃ s, d.Gives s) ↔ ∀ f, d.IsValid f := by
  constructor
  · rintro ⟨s, h⟩ f
    cases f with
    | title => exact ⟨_, h.title⟩
    | description => exact ⟨_, h.description⟩
    | url => exact ⟨_, h.url⟩
    | frameHeight => exact ⟨_, h.frameHeight⟩
    | reward => exact ⟨_, h.reward⟩
    | autoApprovalDelay => exact ⟨_, h.autoApprovalDelay⟩
    | assignmentDuration => exact ⟨_, h.assignmentDuration⟩
    | qualifications => exact ⟨_, h.approval⟩
  · intro h
    obtain ⟨title, htitle⟩ := h .title
    obtain ⟨description, hdescription⟩ := h .description
    obtain ⟨url, hurl⟩ := h .url
    obtain ⟨height, hheight⟩ := h .frameHeight
    obtain ⟨reward, hreward⟩ := h .reward
    obtain ⟨delay, hdelay⟩ := h .autoApprovalDelay
    obtain ⟨duration, hduration⟩ := h .assignmentDuration
    obtain ⟨approval, happroval⟩ := h .qualifications
    exact ⟨⟨title, description, d.keywords.getD "", url, height, reward, delay, duration,
      ⟨d.qualifications.location.bind Qualifications.countryName?, approval⟩⟩,
      htitle, hdescription, rfl, hurl, hheight, hreward, hdelay, hduration, rfl, happroval⟩

theorem requiredSeconds_eq_ok_iff {field : String} {value : Option Json} {n : UInt64} :
    requiredSeconds field value = .ok n ↔ ∃ v, value = some v ∧ IsSpan v n := by
  simp only [requiredSeconds, requiredValue_eq_ok_iff, seconds?_eq_some_iff]

/-- The settings that are found are those that the draft gives. -/
theorem settings_eq_ok_iff : d.settings = .ok s ↔ d.Gives s := by
  constructor
  · intro h
    unfold settings at h
    dsimp only at h
    split at h
    · next title description url height reward delay duration qualifications htitle hdescription
        hurl hheight hreward hdelay hduration hqualifications =>
      obtain rfl := Except.ok.inj h
      obtain ⟨hcountry, happroval⟩ := checkedQualifications_eq_ok_iff.mp hqualifications
      simp only [requiredValue_eq_ok_iff, height?_eq_some_iff, reward?_eq_some_iff]
        at hheight hreward
      exact {
        title := nonBlankText_eq_ok_iff.mp htitle
        description := nonBlankText_eq_ok_iff.mp hdescription
        keywords := rfl
        url := checkedUrl_eq_ok_iff.mp hurl
        frameHeight := hheight
        reward := hreward
        autoApprovalDelay := requiredSeconds_eq_ok_iff.mp hdelay
        assignmentDuration := requiredSeconds_eq_ok_iff.mp hduration
        country := hcountry
        approval := happroval }
    · cases h
  · intro h
    simp only [settings, nonBlankText_eq_ok_iff.mpr h.title,
      nonBlankText_eq_ok_iff.mpr h.description, checkedUrl_eq_ok_iff.mpr h.url,
      requiredValue_eq_ok_iff.mpr (h.frameHeight.imp fun _ => .imp_right height?_eq_some_iff.mpr),
      requiredValue_eq_ok_iff.mpr (h.reward.imp fun _ => .imp_right reward?_eq_some_iff.mpr),
      requiredSeconds_eq_ok_iff.mpr h.autoApprovalDelay,
      requiredSeconds_eq_ok_iff.mpr h.assignmentDuration,
      checkedQualifications_eq_ok_iff.mpr ⟨h.country, h.approval⟩, ← h.keywords]

/-! ### Faults -/

/-- The fault that a draft has in a field, as the check of the field tells it. -/
def fault? (d : SettingsDraft) : SettingsField → Option SettingsFault
  | .title => (faults (nonBlankText "title" d.title)).head?
  | .description => (faults (nonBlankText "description" d.description)).head?
  | .url => (faults (checkedUrl d.url)).head?
  | .frameHeight =>
    (faults (requiredValue "frame_height" d.frameHeight height? fun v =>
      .badHeight (shown v))).head?
  | .reward =>
    (faults (requiredValue "reward" d.reward reward? fun v => .badReward (shown v))).head?
  | .autoApprovalDelay =>
    (faults (requiredSeconds "auto_approval_delay" d.autoApprovalDelay)).head?
  | .assignmentDuration =>
    (faults (requiredSeconds "assignment_duration" d.assignmentDuration)).head?
  | .qualifications => (faults (checkedQualifications d.qualifications)).head?

theorem toList_head?_faults {α : Type} (x : Except SettingsFault α) :
    (faults x).head?.toList = faults x := by
  cases x <;> rfl

theorem head?_faults_eq_none_iff {α : Type} {x : Except SettingsFault α} :
    (faults x).head? = none ↔ ∃ a, x = .ok a := by
  rcases x with e | a
  · exact iff_of_false nofun nofun
  · exact iff_of_true rfl ⟨a, rfl⟩

/-- A draft has a fault in the fields that are not valid. -/
theorem fault?_eq_none_iff : d.fault? f = none ↔ d.IsValid f := by
  cases f <;> refine head?_faults_eq_none_iff.trans ?_
  case title | description => exact exists_congr fun _ => nonBlankText_eq_ok_iff
  case url => exact exists_congr fun _ => checkedUrl_eq_ok_iff
  case frameHeight => simp only [requiredValue_eq_ok_iff, height?_eq_some_iff, IsValid]
  case reward => simp only [requiredValue_eq_ok_iff, reward?_eq_some_iff, IsValid]
  case autoApprovalDelay | assignmentDuration =>
    exact exists_congr fun _ => requiredSeconds_eq_ok_iff
  case qualifications =>
    simp only [checkedQualifications_eq_ok_iff]
    exact ⟨fun ⟨a, _, h⟩ => ⟨a.approval, h⟩, fun ⟨p, h⟩ => ⟨⟨_, p⟩, rfl, h⟩⟩

/-- The fault in a field is told from what the draft gives for this field. -/
theorem fault?_congr (h : d.value f = d'.value f) : d.fault? f = d'.fault? f := by
  cases f <;> simp only [value, FieldValue.text.injEq, FieldValue.json.injEq,
    FieldValue.demands.injEq] at h <;> simp only [fault?, h]

/-- If there are faults, they are all found. -/
theorem settings_eq_error (h : ¬ ∀ f, d.IsValid f) :
    d.settings = .error (SettingsField.all.filterMap d.fault?) := by
  rcases hd : d.settings with found | s
  · unfold settings at hd
    dsimp only at hd
    split at hd
    · cases hd
    · -- the faults are joined field by field, in the order of `SettingsField.all`
      refine congrArg Except.error ((Except.error.inj hd).symm.trans ?_)
      simp only [SettingsField.all, List.filterMap_eq_flatMap_toList, List.flatMap_cons,
        List.flatMap_nil, fault?, toList_head?_faults, List.append_nil, List.append_assoc]
  · exact absurd (exists_gives_iff.mp ⟨s, settings_eq_ok_iff.mp hd⟩) h

/-! ### What a fault tells -/

section Tells

variable {α : Type} {field : String} {e : SettingsFault}

theorem fault_of_nonBlankText {value : Option String}
    (h : (faults (nonBlankText field value)).head? = some e) : e = .required field := by
  rw [nonBlankText] at h
  split at h
  · cases h
  · exact (Option.some.inj h).symm

theorem fault_of_checkedUrl {value : Option String}
    (h : (faults (checkedUrl value)).head? = some e) :
    e = .required "url" ∨ ∃ url, e = .insecureUrl url := by
  rw [checkedUrl] at h
  rcases htext : nonBlankText "url" value with fault | url
  · rw [htext] at h
    obtain rfl := Option.some.inj h
    exact .inl (fault_of_nonBlankText (congrArg (List.head? ∘ faults) htext))
  · rw [htext] at h
    simp only [bind, Except.bind] at h
    split_ifs at h
    · cases h
    · exact .inr ⟨url, (Option.some.inj h).symm⟩

theorem fault_of_requiredValue {value : Option Json} {read : Json → Option α}
    {fault : Json → SettingsFault}
    (h : (faults (requiredValue field value read fault)).head? = some e) :
    e = .required field ∨ ∃ v, value = some v ∧ read v = none ∧ e = fault v := by
  rcases value with _ | v
  · exact .inl (Option.some.inj h).symm
  · rw [requiredValue] at h
    split at h
    · cases h
    · next hread => exact .inr ⟨v, rfl, hread, (Option.some.inj h).symm⟩

theorem fault_of_checkedQualifications {q : QualificationsDraft}
    (h : (faults (checkedQualifications q)).head? = some e) : ∃ shown, e = .badApproval shown := by
  rw [checkedQualifications] at h
  split_ifs at h
  · cases h
  · split at h
    · cases h
    · exact ⟨_, (Option.some.inj h).symm⟩

theorem exists_rest (key told shown : String) :
    ∃ rest, "- " ++ key ++ told ++ shown = "- " ++ key ++ rest :=
  ⟨told ++ shown, String.append_assoc ..⟩

/-- The entry for a field names the field. -/
theorem line_of_fault? (h : d.fault? f = some e) : ∃ rest, e.line = "- " ++ f.key ++ rest := by
  cases f
  case title | description =>
    obtain rfl := fault_of_nonBlankText h
    exact ⟨_, rfl⟩
  case url =>
    obtain rfl | ⟨url, rfl⟩ := fault_of_checkedUrl h
    · exact ⟨_, rfl⟩
    · exact exists_rest "url" " must be an https:// address but it is set to: " url
  case frameHeight =>
    obtain rfl | ⟨v, -, -, rfl⟩ := fault_of_requiredValue h
    · exact ⟨_, rfl⟩
    · exact exists_rest "frame_height" " must be a number but it is set to: " (shown v)
  case reward =>
    obtain rfl | ⟨v, -, -, rfl⟩ := fault_of_requiredValue h
    · exact ⟨_, rfl⟩
    · exact exists_rest "reward" " must be a price but it is set to: " (shown v)
  case autoApprovalDelay | assignmentDuration =>
    obtain rfl | ⟨v, -, -, rfl⟩ := fault_of_requiredValue h
    · exact ⟨_, rfl⟩
    · split_ifs
      · exact exists_rest _ " must be a duration but it is beyond count: " (shown v)
      · exact exists_rest _ " must be a duration but it is set to: " (shown v)
  case qualifications =>
    obtain ⟨shown, rfl⟩ := fault_of_checkedQualifications h
    exact exists_rest "qualifications"
      ".approval_percentage must be a number from 0 to 100 but it is set to: " shown

end Tells

/-! ### Spans that break the program off -/

/-- Whether a field breaks the program off: it holds a span, and its phrase is beyond count. -/
def BreaksOff (d : SettingsDraft) (f : SettingsField) : Prop :=
  f.HoldsSpan ∧ ∃ phrase reason, d.value f = .json (some (.str phrase)) ∧
    Duration.parse phrase = .error (.beyondCount reason)

theorem isBeyondCount_iff {v : Json} :
    isBeyondCount v = true ↔
      ∃ phrase reason, v = .str phrase ∧ Duration.parse phrase = .error (.beyondCount reason) := by
  constructor
  · intro h
    unfold isBeyondCount at h
    split at h
    · next phrase =>
      split at h
      · next e he =>
        cases e with
        | malformed => cases h
        | overflow => cases h
        | beyondCount reason => exact ⟨phrase, reason, rfl, he⟩
      · cases h
    · cases h
  · rintro ⟨phrase, reason, rfl, h⟩
    rw [isBeyondCount, h]
    rfl

theorem seconds?_of_isBeyondCount {v : Json} (h : isBeyondCount v = true) : seconds? v = none := by
  obtain ⟨phrase, reason, rfl, hparse⟩ := isBeyondCount_iff.mp h
  rw [seconds?, hparse]
  rfl

/-- The fault of a span breaks the program off if its phrase is beyond count, and only then. -/
theorem exists_breaksOff_requiredSeconds_iff {field : String} {value : Option Json} :
    (∃ e, (faults (requiredSeconds field value)).head? = some e ∧ e.breaksOff = true) ↔
      ∃ phrase reason, value = some (.str phrase) ∧
        Duration.parse phrase = .error (.beyondCount reason) := by
  constructor
  · rintro ⟨e, he, hbreaks⟩
    obtain rfl | ⟨v, rfl, -, rfl⟩ := fault_of_requiredValue he
    · cases hbreaks
    · split_ifs at hbreaks with hcount
      · obtain ⟨phrase, reason, rfl, hparse⟩ := isBeyondCount_iff.mp hcount
        exact ⟨phrase, reason, rfl, hparse⟩
      · cases hbreaks
  · rintro ⟨phrase, reason, rfl, hparse⟩
    have hcount : isBeyondCount (.str phrase) = true :=
      isBeyondCount_iff.mpr ⟨phrase, reason, rfl, hparse⟩
    refine ⟨.beyondCount field phrase, ?_, rfl⟩
    simp only [requiredSeconds, requiredValue, seconds?_of_isBeyondCount hcount, if_pos hcount]
    rfl

theorem exists_breaksOff_fault?_iff :
    (∃ e, d.fault? f = some e ∧ e.breaksOff = true) ↔ d.BreaksOff f := by
  by_cases hspan : f.HoldsSpan
  · rw [BreaksOff, and_iff_right hspan]
    obtain rfl | rfl := hspan <;>
      simpa only [fault?, value, FieldValue.json.injEq] using exists_breaksOff_requiredSeconds_iff
  · refine iff_of_false ?_ fun h => hspan h.1
    rintro ⟨e, he, hbreaks⟩
    cases f
    case title | description =>
      obtain rfl := fault_of_nonBlankText he
      cases hbreaks
    case url =>
      obtain rfl | ⟨url, rfl⟩ := fault_of_checkedUrl he <;> cases hbreaks
    case frameHeight | reward =>
      obtain rfl | ⟨v, -, -, rfl⟩ := fault_of_requiredValue he <;> cases hbreaks
    case autoApprovalDelay => exact hspan (.inl rfl)
    case assignmentDuration => exact hspan (.inr rfl)
    case qualifications =>
      obtain ⟨shown, rfl⟩ := fault_of_checkedQualifications he
      cases hbreaks

/-- The faults of a draft break the program off if one of its fields does. -/
theorem any_breaksOff_iff :
    (SettingsField.all.filterMap d.fault?).any SettingsFault.breaksOff = true ↔
      ∃ f, d.BreaksOff f := by
  simp only [List.any_eq_true, List.mem_filterMap, ← exists_breaksOff_fault?_iff]
  constructor
  · rintro ⟨e, ⟨f, -, he⟩, hbreaks⟩
    exact ⟨f, e, he, hbreaks⟩
  · rintro ⟨f, e, he, hbreaks⟩
    exact ⟨e, ⟨f, f.mem_all, he⟩, hbreaks⟩

/-- A field that breaks the program off is not valid. -/
theorem BreaksOff.not_isValid (h : d.BreaksOff f) : ¬ d.IsValid f := by
  obtain ⟨e, he, -⟩ := exists_breaksOff_fault?_iff.mpr h
  rw [← fault?_eq_none_iff, he]
  nofun

end SettingsDraft

/-! ### Settings that are read -/

/-- The country that a demand names. -/
def Requirement.country? : Requirement → Option String
  | .localeEquals country => some country
  | .minApproval _ => none

/-- What settings have in common once they are read. -/
structure Settings.IsSound (s : Settings) : Prop where
  title : Text.isBlankText s.title = false
  description : Text.isBlankText s.description = false
  url : SettingsDraft.secureScheme <+: s.url.toList
  frameHeight : s.frameHeight.toNat < 2 ^ 32
  autoApprovalDelay : 1 ≤ s.autoApprovalDelay.toNat
  assignmentDuration : 1 ≤ s.assignmentDuration.toNat
  /-- There is at most one demand for a country. -/
  oneCountry : (s.qualifications.requirements.filterMap Requirement.country?).length ≤ 1
  /-- The name of a country is not blank, and there are no blanks around it. -/
  country : ∀ c, .localeEquals c ∈ s.qualifications.requirements →
    Text.isBlankText c = false ∧ Text.trimmed c = c
  approval : ∀ p, .minApproval p ∈ s.qualifications.requirements → p.toNat ≤ 100

/-- The name of a country is not blank, and there are no blanks around it. -/
theorem Qualifications.countryName?_spec {raw c : String} (h : countryName? raw = some c) :
    Text.isBlankText c = false ∧ Text.trimmed c = c := by
  rw [countryName?] at h
  split_ifs at h with hempty
  obtain rfl := Option.some.inj h
  have htrim : Text.trim (Text.upperAscii (Text.trim raw.toList)) =
      Text.upperAscii (Text.trim raw.toList) := by
    rw [Text.trim_upperAscii]
    exact congrArg Text.upperAscii (Text.strip_strip Text.isBlank raw.toList)
  refine ⟨?_, ?_⟩
  · by_contra hblank
    have hall := List.all_eq_true.mp (Bool.eq_true_of_not_eq_false hblank)
    rw [String.toList_ofList, ← Text.trim_eq_nil_iff, htrim] at hall
    exact hempty (List.isEmpty_iff.mpr (List.map_eq_nil_iff.mp hall))
  · rw [Text.trimmed, String.toList_ofList, htrim]

theorem Qualifications.mem_requirements {q : Qualifications} {r : Requirement} :
    r ∈ q.requirements ↔ (∃ c, q.country = some c ∧ r = .localeEquals c) ∨
      ∃ p, q.approval = some p ∧ r = .minApproval p := by
  simp [requirements, eq_comm]

theorem Qualifications.countries_requirements (q : Qualifications) :
    q.requirements.filterMap Requirement.country? = q.country.toList := by
  obtain ⟨country, approval⟩ := q
  cases country <;> cases approval <;> rfl

/-- Settings that a draft gives are sound. -/
theorem SettingsDraft.Gives.isSound {d : SettingsDraft} {s : Settings} (h : d.Gives s) :
    s.IsSound where
  title := h.title.2
  description := h.description.2
  url := h.url.2
  frameHeight := s.frameHeight.toNat_lt
  autoApprovalDelay := by
    obtain ⟨v, -, hv⟩ := h.autoApprovalDelay
    exact hv.pos
  assignmentDuration := by
    obtain ⟨v, -, hv⟩ := h.assignmentDuration
    exact hv.pos
  oneCountry := by
    rw [Qualifications.countries_requirements, Option.length_toList]
    split_ifs <;> decide
  country c hc := by
    obtain ⟨_, hcountry, ⟨⟩⟩ | ⟨_, -, ⟨⟩⟩ := Qualifications.mem_requirements.mp hc
    rw [h.country] at hcountry
    obtain ⟨raw, -, hname⟩ := Option.bind_eq_some_iff.mp hcountry
    exact Qualifications.countryName?_spec hname
  approval p hp := by
    obtain ⟨_, -, ⟨⟩⟩ | ⟨_, happroval, ⟨⟩⟩ := Qualifications.mem_requirements.mp hp
    have hasked := h.approval
    rw [happroval] at hasked
    exact hasked.le

/-! ### Texts -/

/-- The draft in a text, once comments are taken out. -/
def SettingsDraft.inText? (text : String) : Option SettingsDraft :=
  (Json.Raw.read? (Comments.strip text)).bind (SettingsDraft.ofRaw? Json.nestingLimit)

/-- **Settings are checked field by field.** What the reader of settings makes of a text that holds
a draft. -/
structure ChecksFieldwise (text path : String) (d : SettingsDraft) : Prop where
  /-- The settings are read that the draft gives, and no others. -/
  ok_iff : ∀ s, Settings.parse text path = .ok s ↔ d.Gives s
  /-- Settings are read if and only if each field is valid on its own. -/
  exists_ok_iff : (∃ s, Settings.parse text path = .ok s) ↔ ∀ f, d.IsValid f
  /-- If a span breaks the program off, nothing is reported. -/
  beyondCount : (∃ f, d.BreaksOff f) → Settings.parse text path = .error (.beyondCount path)
  /-- If no span does and not all fields are valid, the faults of all fields are reported. -/
  invalid : (¬ ∃ f, d.BreaksOff f) → (¬ ∀ f, d.IsValid f) →
    Settings.parse text path =
      .error (.invalidSettings path (SettingsField.all.filterMap d.fault?))
  /-- Each field has one place among the faults. -/
  once : ∀ f, SettingsField.all.count f = 1
  /-- A field has a fault if and only if it is not valid. -/
  fault_iff : ∀ f, d.fault? f = none ↔ d.IsValid f
  /-- A draft that gives the same for a field has the same fault in it. -/
  fault_alone : ∀ f (d' : SettingsDraft), d'.value f = d.value f → d'.fault? f = d.fault? f
  /-- The entry for a field names the field. -/
  line : ∀ f e, d.fault? f = some e → ∃ rest, e.line = "- " ++ f.key ++ rest
  /-- All settings that are read are sound. -/
  sound : ∀ s, Settings.parse text path = .ok s → s.IsSound

theorem Settings.parse_of_inText? {text : String} {d : SettingsDraft}
    (h : SettingsDraft.inText? text = some d) (path : String) :
    parse text path = d.settings.mapError (.ofFaults path) := by
  rw [SettingsDraft.inText?] at h
  rw [parse, h]

/-- Every text with the form of settings is checked field by field. -/
theorem fields_checked_alone (text path : String) (d : SettingsDraft)
    (h : SettingsDraft.inText? text = some d) : ChecksFieldwise text path d := by
  have hparse := Settings.parse_of_inText? h path
  have hok (s : Settings) : Settings.parse text path = .ok s ↔ d.Gives s := by
    rw [← SettingsDraft.settings_eq_ok_iff, hparse]
    rcases d.settings with found | s'
    · exact iff_of_false nofun nofun
    · exact ⟨fun hs => congrArg Except.ok (Except.ok.inj hs),
        fun hs => congrArg Except.ok (Except.ok.inj hs)⟩
  have herror (hinvalid : ¬ ∀ f, d.IsValid f) : Settings.parse text path =
      .error (.ofFaults path (SettingsField.all.filterMap d.fault?)) := by
    rw [hparse, SettingsDraft.settings_eq_error hinvalid]
    rfl
  exact {
    ok_iff := hok
    exists_ok_iff := (exists_congr hok).trans SettingsDraft.exists_gives_iff
    beyondCount := fun hbreaks => by
      obtain ⟨f, hf⟩ := hbreaks
      rw [herror fun hvalid => hf.not_isValid (hvalid f), ConfigError.ofFaults,
        if_pos (SettingsDraft.any_breaksOff_iff.mpr ⟨f, hf⟩)]
    invalid := fun hbreaks hinvalid => by
      rw [herror hinvalid, ConfigError.ofFaults,
        if_neg (mt SettingsDraft.any_breaksOff_iff.mp hbreaks)]
    once := SettingsField.count_all
    fault_iff := fun _ => SettingsDraft.fault?_eq_none_iff
    fault_alone := fun _ _ => SettingsDraft.fault?_congr
    line := fun _ _ => SettingsDraft.line_of_fault?
    sound := fun s hs => ((hok s).mp hs).isSound }

/-- A text with the form of settings, in which five fields are not valid. -/
def Settings.faulty : String :=
  "\x7b\"title\": \"A\", \"url\": \"http://a\", \"frame_height\": \" 4 \"\x7d // a"

theorem fields_checked_alone_faulty :
    ∃ d, SettingsDraft.inText? Settings.faulty = some d ∧
      ChecksFieldwise Settings.faulty "settings.json" d := by
  obtain ⟨d, hd⟩ := Option.isSome_iff_exists.mp
    (by decide +kernel : (SettingsDraft.inText? Settings.faulty).isSome = true)
  exact ⟨d, hd, fields_checked_alone Settings.faulty "settings.json" d hd⟩

example : Settings.parse Settings.faulty "settings.json" = .error (.invalidSettings "settings.json"
    [.required "description", .insecureUrl "http://a", .required "reward",
      .required "auto_approval_delay", .required "assignment_duration"]) := by
  decide +kernel

/-- Settings in a text with a span whose sum gets one second beyond what can be counted, in
milliseconds. -/
def Settings.uncounted : String :=
  "\x7b\"auto_approval_delay\": \"18446744073709551615s 1000ms\"\x7d"

/-- No fault is reported, although no field but the qualifications is valid. -/
theorem uncounted_breaks_off :
    (SettingsDraft.inText? Settings.uncounted).isSome = true ∧
    Settings.parse Settings.uncounted "settings.json" = .error (.beyondCount "settings.json") := by
  decide +kernel

end CrowdTask
