import CrowdTask.Settings.File
import CrowdTask.Text.Quoted

/-!
# Credentials

A requester is known by an access key, which has an identifier and a secret. The pair comes from
the variables of the process when both of them are set to more than blanks, and otherwise from a
file. The secret is never shown.

## Main definitions

* `CrowdTask.Credentials`: the pair.
* `CrowdTask.Credentials.load`: the pair from the variables or from a file.
* `CrowdTask.Credentials.redacted`: a text that shows the identifier alone.
-/

namespace CrowdTask

/-- The access key of a requester. -/
structure Credentials where
  accessKeyId : String
  secretAccessKey : String
  deriving DecidableEq

namespace Credentials

/-- A text that shows the identifier alone. -/
def redacted (c : Credentials) : String :=
  "MturkCredentials \x7b access_key_id: " ++ Text.quoted c.accessKeyId ++
    ", secret_access_key: \"<redacted>\" \x7d"

/-- The variable for the identifier. -/
def accessKeyVariable : String := "AWS_ACCESS_KEY_ID"

/-- The variable for the secret. -/
def secretKeyVariable : String := "AWS_SECRET_ACCESS_KEY"

/-- The pair in the variables of the process, if both are set to more than blanks. -/
def ofVariables? (lookup : String → Option String) : Option Credentials := do
  let filled (name : String) := (lookup name).filter fun s => !Text.isBlankText s
  return ⟨← filled accessKeyVariable, ← filled secretKeyVariable⟩

/-- The pair in a text. -/
def ofRaw? (r : Json.Raw) : Option Credentials := do
  let fs ← Json.Fields.ofRaw? [["access_id"], ["secret_key"]] r
  return ⟨← fs.required? 0 Json.Raw.string?, ← fs.required? 1 Json.Raw.string?⟩

/-- The pair in the text of a file. -/
def parse (text path : String) : Except ConfigError Credentials :=
  match (Json.Raw.read? text).bind ofRaw? with
  | some c => .ok c
  | none => .error (.malformed path Json.mismatch)

/-- The pair from the variables of the process, or from the file that a path names. -/
def load {m : Type → Type} [Monad m] (fs : FileSystem m) (lookup : String → Option String)
    (path : String) : m (Except ConfigError Credentials) := do
  match ofVariables? lookup with
  | some c => return .ok c
  | none => return (← ConfigFile.credentials.read fs path).bind (parse · path)

end Credentials

end CrowdTask
