import CrowdTask.Logging
import CrowdTask.Settings.Basic

/-!
# Command lines

The arguments of the program are options, followed by the words of a command. The first argument
that is no option begins the command, and all that follow belong to it. An option may be given
once.

## Main definitions

* `CrowdTask.CommandLine`: what is asked for.
* `CrowdTask.CommandLine.Wish`: a command line, or the wish to see the version or the usage.
* `CrowdTask.CommandLine.parse`: the arguments of the program.
-/

namespace CrowdTask

/-- What is asked for: the environment, the paths of files and directories, whether workers are
named in results, how diagnostics are written, and the words of a command. -/
structure CommandLine where
  environment : Environment
  settingsPath : String
  credentialsPath : String
  recordsPath : String
  journalPath : String
  resultsRoot : String
  deanonymize : Bool
  logging : Logging
  words : List String
  deriving DecidableEq, Repr

namespace CommandLine

/-- What is asked for when there are no arguments. -/
def default : CommandLine where
  environment := .sandbox
  settingsPath := "settings.json"
  credentialsPath := "auth.json"
  recordsPath := "hit-ids.json"
  journalPath := "log.jsonl"
  resultsRoot := "."
  deanonymize := false
  logging := Logging.default
  words := []

/-- The options without a value. -/
inductive Flag where
  | production
  | deanonymize
  | help
  | version
  deriving DecidableEq, Repr

/-- The options with a value. -/
inductive Field where
  | settings
  | credentials
  | records
  | journal
  | resultsRoot
  | logLevel
  | logFormat
  deriving DecidableEq, Repr

/-- An option. -/
inductive Opt where
  | flag (f : Flag)
  | field (f : Field)
  deriving DecidableEq, Repr

/-- The long names of options. -/
def longNames : List (String × Opt) :=
  [("production", .flag .production), ("settings", .field .settings), ("auth", .field .credentials),
    ("state", .field .records), ("log", .field .journal), ("results-root", .field .resultsRoot),
    ("deanonymize", .flag .deanonymize), ("log-level", .field .logLevel),
    ("log-format", .field .logFormat), ("help", .flag .help), ("version", .flag .version)]

/-- The option with a long name. -/
def long? (name : List Char) : Option Opt :=
  (longNames.find? fun p => p.1.toList = name).map (·.2)

/-- The option with a short name. -/
def short? : Char → Option Flag
  | 'p' => some .production
  | 'h' => some .help
  | 'V' => some .version
  | _ => none

/-- Why arguments are refused. -/
inductive Fault where
  | unknown (argument : String)
  | repeated (argument : String)
  | missingValue (argument : String)
  | unwantedValue (argument : String)
  | invalidFormat (cause : LoggingError)
  deriving DecidableEq, Repr

/-- The message for refused arguments. -/
def Fault.message : Fault → String
  | .unknown argument => "unexpected argument '" ++ argument ++ "' found"
  | .repeated argument => "the argument '" ++ argument ++ "' cannot be used multiple times"
  | .missingValue argument => "a value is required for '" ++ argument ++ "' but none was supplied"
  | .unwantedValue argument => "unexpected value for '" ++ argument ++ "' found"
  | .invalidFormat cause => cause.message

/-- What the arguments ask for. -/
inductive Wish where
  | run (line : CommandLine)
  | help
  | version
  deriving DecidableEq, Repr

/-- The options that were given, and what they ask for so far. -/
structure Progress where
  given : List Opt
  line : CommandLine

/-- Notes that an option was given, once. -/
def Progress.note (p : Progress) (o : Opt) (argument : String) : Except Fault Progress :=
  if o ∈ p.given then .error (.repeated argument) else .ok { p with given := o :: p.given }

/-- Follows the option without a value that changes the command line. -/
def setFlag (line : CommandLine) : Flag → CommandLine
  | .production => { line with environment := .production }
  | .deanonymize => { line with deanonymize := true }
  | .help => line
  | .version => line

/-- Follows an option with a value. -/
def setField (line : CommandLine) (value : String) : Field → Except Fault CommandLine
  | .settings => .ok { line with settingsPath := value }
  | .credentials => .ok { line with credentialsPath := value }
  | .records => .ok { line with recordsPath := value }
  | .journal => .ok { line with journalPath := value }
  | .resultsRoot => .ok { line with resultsRoot := value }
  | .logLevel => .ok { line with logging := { line.logging with level := value } }
  | .logFormat =>
    match LogFormat.parse value with
    | .ok format => .ok { line with logging := { line.logging with format := format } }
    | .error e => .error (.invalidFormat e)

/-- Notes an option with a value. -/
def Progress.giveField (p : Progress) (f : Field) (value argument : String) :
    Except Fault Progress := do
  let p ← p.note (.field f) argument
  return { p with line := ← setField p.line value f }

/-- Notes an option without a value, or ends with what it wishes to see. -/
def Progress.giveFlag (p : Progress) (f : Flag) (argument : String) :
    Except Fault (Progress ⊕ Wish) :=
  match f with
  | .help => .ok (.inr .help)
  | .version => .ok (.inr .version)
  | f => do
    let p ← p.note (.flag f) argument
    return .inl { p with line := setFlag p.line f }

/-- Notes options that are given by their short names. -/
def Progress.giveShort (p : Progress) (argument : String) :
    List Char → Except Fault (Progress ⊕ Wish)
  | [] => .ok (.inl p)
  | c :: cs =>
    match short? c with
    | none => .error (.unknown argument)
    | some f => do
      match ← p.giveFlag f argument with
      | .inl p => p.giveShort argument cs
      | .inr w => return .inr w

/-- What an argument is. -/
inductive Argument where
  | word
  | separator
  | short (letters : List Char)
  | long (name : List Char) (value : Option (List Char))

/-- What an argument is, before the command begins. -/
def Argument.ofChars : List Char → Argument
  | ['-', '-'] => .separator
  | '-' :: '-' :: cs =>
    if cs.contains '=' then
      .long (cs.takeWhile (· ≠ '=')) (some ((cs.dropWhile (· ≠ '=')).drop 1))
    else .long cs none
  | '-' :: c :: cs => .short (c :: cs)
  | _ => .word

/-- Whether an argument can be the value of the option before it. -/
def isValue (argument : String) : Bool :=
  match Argument.ofChars argument.toList with
  | .word => true
  | _ => false

/-- What the arguments ask for after the options that were given before. -/
def parseFrom (p : Progress) : List String → Except Fault Wish
  | [] => .ok (.run p.line)
  | a :: rest =>
    match Argument.ofChars a.toList with
    | .word => .ok (.run { p.line with words := a :: rest })
    | .separator => .ok (.run { p.line with words := rest })
    | .short letters => do
      match ← p.giveShort a letters with
      | .inl p => parseFrom p rest
      | .inr w => return w
    | .long name value =>
      match long? name, value, rest with
      | none, _, _ => .error (.unknown a)
      | some (.flag _), some _, _ => .error (.unwantedValue a)
      | some (.flag f), none, rest => do
        match ← p.giveFlag f a with
        | .inl p => parseFrom p rest
        | .inr w => return w
      | some (.field f), some v, rest => do
        parseFrom (← p.giveField f (String.ofList v) a) rest
      | some (.field _), none, [] => .error (.missingValue a)
      | some (.field f), none, v :: rest' =>
        if isValue v then do parseFrom (← p.giveField f v a) rest' else .error (.missingValue a)
  termination_by args => args.length
  decreasing_by all_goals grind

/-- The arguments of the program. -/
def parse (arguments : List String) : Except Fault Wish := parseFrom ⟨[], default⟩ arguments

/-- The name and the version of the program. -/
def version : String := "hitctl 0.1.0"

end CommandLine

end CrowdTask
