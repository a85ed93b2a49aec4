import CrowdTask.Duration.Phrase
import CrowdTask.Json.Printer
import CrowdTask.Json.Record
import CrowdTask.Settings.Basic

/-!
# Drafts of settings

A draft holds the fields of a settings file as they are given. Every field is checked on its own,
and all faults are reported together in the order of the fields.

## Main definitions

* `CrowdTask.SettingsDraft`: the fields as they are given.
* `CrowdTask.SettingsFault`: why a field is refused.
* `CrowdTask.SettingsDraft.settings`: the settings of a draft, or all its faults.
-/

namespace CrowdTask

/-- Why a field of a draft is refused. -/
inductive SettingsFault where
  | required (field : String)
  | insecureUrl (url : String)
  | badHeight (shown : String)
  | badReward (shown : String)
  | badDuration (field shown : String)
  | beyondCount (field shown : String)
  | badApproval (shown : String)
  deriving DecidableEq, Repr

/-- The line that reports a fault. -/
def SettingsFault.line : SettingsFault → String
  | .required field => "- " ++ field ++ " is required"
  | .insecureUrl url => "- url must be an https:// address but it is set to: " ++ url
  | .badHeight shown => "- frame_height must be a number but it is set to: " ++ shown
  | .badReward shown => "- reward must be a price but it is set to: " ++ shown
  | .badDuration field shown => "- " ++ field ++ " must be a duration but it is set to: " ++ shown
  | .beyondCount field shown =>
    "- " ++ field ++ " must be a duration but it is beyond count: " ++ shown
  | .badApproval shown =>
    "- qualifications.approval_percentage must be a number from 0 to 100 but it is set to: " ++
      shown

/-- Whether a field breaks a program off. -/
def SettingsFault.breaksOff : SettingsFault → Bool
  | .beyondCount _ _ => true
  | _ => false

/-- What a draft asks of workers. -/
structure QualificationsDraft where
  location : Option String
  approval : Option Json

/-- The fields of a settings file as they are given. -/
structure SettingsDraft where
  title : Option String
  description : Option String
  keywords : Option String
  url : Option String
  frameHeight : Option Json
  reward : Option Json
  autoApprovalDelay : Option Json
  assignmentDuration : Option Json
  qualifications : QualificationsDraft

namespace SettingsDraft

open Json

/-- The qualifications of a draft in a text. -/
def qualificationsOfRaw? (levels : Nat) (r : Raw) : Option QualificationsDraft := do
  let fs ← Fields.ofRaw? [["location"], ["approval_percentage"]] r
  let location ← fs.orAbsent? 0 Raw.string?
  let approval ← fs.orAbsent? 1 (Raw.toJson? (levels - 1))
  return ⟨location, approval⟩

/-- The draft in a text. -/
def ofRaw? (levels : Nat) (r : Raw) : Option SettingsDraft := do
  let fs ← Fields.ofRaw?
    [["title"], ["description"], ["keywords"], ["url"], ["frame_height"], ["reward"],
      ["auto_approval_delay"], ["assignment_duration"], ["qualifications"]] r
  let value := Raw.toJson? (levels - 1)
  let title ← fs.optional? 0 Raw.string?
  let description ← fs.optional? 1 Raw.string?
  let keywords ← fs.optional? 2 Raw.string?
  let url ← fs.optional? 3 Raw.string?
  let frameHeight ← fs.optional? 4 value
  let reward ← fs.optional? 5 value
  let autoApprovalDelay ← fs.optional? 6 value
  let assignmentDuration ← fs.optional? 7 value
  let qualifications ← fs.orAbsent? 8 (qualificationsOfRaw? (levels - 1))
  return { title, description, keywords, url, frameHeight, reward, autoApprovalDelay,
           assignmentDuration, qualifications := qualifications.getD ⟨none, none⟩ }

/-- A value as a fault shows it: a text as it is, all else as JSON. -/
def shown : Json → String
  | .str s => s
  | v => v.compact

/-- A text that must not be blank. -/
def nonBlankText (field : String) (value : Option String) : Except SettingsFault String :=
  match value.filter fun s => !Text.isBlankText s with
  | some s => .ok s
  | none => .error (.required field)

/-- The beginning of a secure address. -/
def secureScheme : List Char := "https://".toList

/-- The address of the task page. -/
def checkedUrl (value : Option String) : Except SettingsFault String := do
  let url ← nonBlankText "url" value
  if secureScheme.isPrefixOf url.toList then return url else .error (.insecureUrl url)

/-- The value of a field that must be given and that `read` understands. -/
def requiredValue {α : Type} (field : String) (value : Option Json) (read : Json → Option α)
    (fault : Json → SettingsFault) : Except SettingsFault α :=
  match value with
  | none => .error (.required field)
  | some v =>
    match read v with
    | some a => .ok a
    | none => .error (fault v)

/-- A number of pixels, as a number or a numeral. -/
def height? : Json → Option UInt32
  | .num (.int n) => n.toUInt32?
  | .str s => (Text.unsigned32? (Text.trim s.toList)).map UInt32.ofNat
  | _ => none

/-- A price, as a number or a text. -/
def reward? : Json → Option Reward
  | .num n => (Reward.parse (shown (.num n))).toOption
  | .str s => (Reward.parse s).toOption
  | _ => none

/-- A span of at least a second, as a number of seconds or a phrase. -/
def seconds? : Json → Option UInt64
  | .num n => n.toUInt64?.filter fun s => 0 < s
  | .str s => (Duration.parse s).toOption
  | _ => none

/-- Whether a value is a phrase that breaks a program off. -/
def isBeyondCount : Json → Bool
  | .str s =>
    match Duration.parse s with
    | .error e => e.breaksOff
    | .ok _ => false
  | _ => false

/-- The span in a field that must be given. -/
def requiredSeconds (field : String) (value : Option Json) : Except SettingsFault UInt64 :=
  requiredValue field value seconds? fun v =>
    if isBeyondCount v then .beyondCount field (shown v) else .badDuration field (shown v)

/-- A percentage, as a number or a numeral with percent signs after it. -/
def percentage? : Json → Option UInt64
  | .num n => n.toUInt64?
  | .str s =>
    (Text.unsigned64? (Text.dropEndWhile (· = '%') (Text.trim s.toList))).map UInt64.ofNat
  | _ => none

/-- Whether no percentage is given: the field is absent, null or a blank text. -/
def isAbsentApproval : Option Json → Bool
  | none => true
  | some .null => true
  | some (.str s) => Text.isBlankText s
  | some _ => false

/-- The demands on workers. -/
def checkedQualifications (q : QualificationsDraft) : Except SettingsFault Qualifications :=
  let base := (q.location.map Qualifications.none.withCountry).getD .none
  if isAbsentApproval q.approval then .ok base
  else
    match (q.approval.bind percentage?).bind fun p => (base.withApproval p).toOption with
    | some checked => .ok checked
    | none => .error (.badApproval ((q.approval.map shown).getD ""))

/-- The fault of a field, if it has one. -/
def faults {α : Type} : Except SettingsFault α → List SettingsFault
  | .ok _ => []
  | .error e => [e]

/-- The settings of a draft, or all its faults in the order of the fields. -/
def settings (d : SettingsDraft) : Except (List SettingsFault) Settings :=
  let title := nonBlankText "title" d.title
  let description := nonBlankText "description" d.description
  let url := checkedUrl d.url
  let height := requiredValue "frame_height" d.frameHeight height? fun v =>
    .badHeight (shown v)
  let reward := requiredValue "reward" d.reward reward? fun v => .badReward (shown v)
  let delay := requiredSeconds "auto_approval_delay" d.autoApprovalDelay
  let duration := requiredSeconds "assignment_duration" d.assignmentDuration
  let qualifications := checkedQualifications d.qualifications
  match title, description, url, height, reward, delay, duration, qualifications with
  | .ok title, .ok description, .ok url, .ok height, .ok reward, .ok delay, .ok duration,
      .ok qualifications =>
    .ok { title, description, url, reward, qualifications, keywords := d.keywords.getD "",
          frameHeight := height, autoApprovalDelay := delay, assignmentDuration := duration }
  | _, _, _, _, _, _, _, _ =>
    .error (faults title ++ faults description ++ faults url ++ faults height ++ faults reward ++
      faults delay ++ faults duration ++ faults qualifications)

end SettingsDraft

end CrowdTask
