import CrowdTask.LogFilter

/-!
# Logging

Diagnostics are written as text or as JSON. Which of them are written is said by a filter.

## Main definitions

* `CrowdTask.LogFormat.parse`: the format that a word names.
* `CrowdTask.Logging`: how diagnostics are written.
* `CrowdTask.Logging.check`: refuses a filter that is none.
-/

namespace CrowdTask

/-- How diagnostics are written. -/
inductive LogFormat where
  | text
  | json
  deriving DecidableEq, Repr

/-- Why diagnostics cannot be written as asked. -/
inductive LoggingError where
  | invalidFormat (raw : String)
  | invalidLevel (raw : String)
  | brokenFilter
  deriving DecidableEq, Repr

/-- The message for diagnostics that cannot be written as asked. -/
def LoggingError.message : LoggingError → String
  | .invalidFormat raw => "invalid log format: " ++ raw ++ " (expected: text|json)"
  | .invalidLevel raw => "invalid log level: " ++ raw
  | .brokenFilter => "a log filter cannot be cut into its parts"

/-- Whether diagnostics that cannot be written as asked break a program off. -/
def LoggingError.breaksOff : LoggingError → Bool
  | .brokenFilter => true
  | _ => false

/-- The format that a word names, in any letter case and with blanks around it. -/
def LogFormat.parse (raw : String) : Except LoggingError LogFormat :=
  let word := String.ofList (Text.lowerAscii (Text.trim raw.toList))
  if word = "text" then .ok .text
  else if word = "json" then .ok .json
  else .error (.invalidFormat raw)

/-- How diagnostics are written, and which of them. -/
structure Logging where
  format : LogFormat
  level : String
  deriving DecidableEq, Repr

namespace Logging

/-- Warnings and errors are written as text, unless something else is asked for. -/
def default : Logging := ⟨.text, "warn"⟩

/-- The variable of the process whose filter goes before the level that is asked for. -/
def filterVariable : String := "RUST_LOG"

/-- Refuses a level that is no filter. -/
def checkLevel (level : String) : Except LoggingError Unit :=
  match LogFilter.check level with
  | .ok () => .ok ()
  | .error .malformed => .error (.invalidLevel level)
  | .error .broken => .error .brokenFilter

/-- Refuses a level that is no filter, unless the variable of the process is one. -/
def check (lookup : String → Option String) (level : String) : Except LoggingError Unit :=
  match (lookup filterVariable).map LogFilter.check with
  | some (.ok ()) => .ok ()
  | some (.error .broken) => .error .brokenFilter
  | _ => checkLevel level

end Logging

end CrowdTask
