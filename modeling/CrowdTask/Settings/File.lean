import CrowdTask.Files.System
import CrowdTask.Settings.Comments
import CrowdTask.Settings.Draft

/-!
# Configuration files

The settings are JSON with comments. A configuration file that is missing, that cannot be read, or
whose text is not of the expected form is told apart from one whose fields are refused. A field that
breaks a program off does so whatever else is wrong with the fields.

## Main definitions

* `CrowdTask.ConfigError`: why a configuration file is refused.
* `CrowdTask.Settings.parse`: the settings in a text.
* `CrowdTask.Settings.load`: the settings in a file.
-/

namespace CrowdTask

/-- What a configuration file holds. -/
inductive ConfigFile where
  | settings
  | credentials
  deriving DecidableEq, Repr

/-- The word for a configuration file. -/
def ConfigFile.noun : ConfigFile → String
  | .settings => "settings"
  | .credentials => "credentials"

/-- Why a configuration file is refused. -/
inductive ConfigError where
  | notFound (what : ConfigFile) (path : String)
  | noFileName (path : String)
  | unreadable (path : String) (fault : FileFault)
  | malformed (path reason : String)
  | invalidSettings (path : String) (faults : List SettingsFault)
  | beyondCount (path : String)
  deriving DecidableEq, Repr

/-- The message for a refused configuration file. -/
def ConfigError.message : ConfigError → String
  | .notFound what path => "couldn't find " ++ what.noun ++ " file " ++ path
  | .noFileName path => "could not read " ++ path ++ ": path must include a file name"
  | .unreadable path fault => "could not read " ++ path ++ ": " ++ fault.message
  | .malformed path reason => "could not parse " ++ path ++ ": " ++ reason
  | .invalidSettings path faults =>
    "invalid settings in " ++ path ++ ":\n" ++
      String.intercalate "\n" (faults.map SettingsFault.line)
  | .beyondCount path => "could not read " ++ path ++ ": a duration is beyond count"

/-- Whether a configuration file breaks a program off. -/
def ConfigError.breaksOff : ConfigError → Bool
  | .beyondCount _ => true
  | _ => false

/-- The error for the faults of a draft. They are reported unless one of them breaks a program
off. -/
def ConfigError.ofFaults (path : String) (faults : List SettingsFault) : ConfigError :=
  if faults.any SettingsFault.breaksOff then .beyondCount path else .invalidSettings path faults

/-- The text of a configuration file. -/
def ConfigFile.read {m : Type → Type} [Monad m] (what : ConfigFile) (fs : FileSystem m)
    (path : String) : m (Except ConfigError String) := do
  match ← fs.readText path with
  | .ok text => return .ok text
  | .error .notFound => return .error (.notFound what path)
  | .error (.noFileName _) => return .error (.noFileName path)
  | .error fault => return .error (.unreadable path fault)

namespace Settings

/-- The settings in a text, which faults name by its path. -/
def parse (text path : String) : Except ConfigError Settings :=
  match (Json.Raw.read? (Comments.strip text)).bind (SettingsDraft.ofRaw? Json.nestingLimit) with
  | none => .error (.malformed path Json.mismatch)
  | some draft => draft.settings.mapError (.ofFaults path)

/-- The settings in the file that a path names. -/
def load {m : Type → Type} [Monad m] (fs : FileSystem m) (path : String) :
    m (Except ConfigError Settings) := do
  return (← ConfigFile.settings.read fs path).bind (parse · path)

end Settings

end CrowdTask
