import CrowdTask.CommandLine
import CrowdTask.Execution
import CrowdTask.Marketplace.Remote
import CrowdTask.Store.JournalFile
import CrowdTask.Store.RecordFile
import CrowdTask.Store.ResultDirectory

/-!
# The program

The program carries out the command of its arguments over files and the service of the marketplace.
A command that does not call the marketplace needs no credentials; it is given a marketplace that
refuses every call. A report is written to the output, an error to the diagnostics.

## Main definitions

* `CrowdTask.Surroundings`: what the program runs in, in any monad.
* `CrowdTask.Program.Outcome`: how a run ends, with `Outcome.status`, `Outcome.output` and
  `Outcome.diagnostics`.
* `CrowdTask.Program.run`: a run of the program.
-/

namespace CrowdTask

/-- What the program runs in: files, the variables of the process, the service of the marketplace,
a clock, and a place to keep listings. -/
structure Surroundings (m : Type → Type) where
  files : FileSystem m
  lookup : String → Option String
  send : WebRequest → m (Except String WebReply)
  clock : m Instant
  listing? : TaskId → m (Option (List Submission))
  keepListing : TaskId → List Submission → m Unit

/-- Why a run fails. -/
inductive ProgramError where
  | logging (cause : LoggingError)
  | command (cause : CommandError)
  | config (cause : ConfigError)
  | execution (cause : ExecutionError)
  deriving DecidableEq, Repr

/-- The message for a failed run. -/
def ProgramError.message : ProgramError → String
  | .logging cause => cause.message
  | .command cause => cause.message
  | .config cause => cause.message
  | .execution cause => cause.message

/-- Whether a failed run was broken off, instead of being ended in order. -/
def ProgramError.breaksOff : ProgramError → Bool
  | .logging cause => cause.breaksOff
  | .command cause => cause.breaksOff
  | .config cause => cause.breaksOff
  | .execution _ => false

namespace Program

/-- How a run ends. -/
inductive Outcome where
  | report (r : Report)
  | usage
  | version
  | misuse (fault : CommandLine.Fault)
  | failure (error : ProgramError)

namespace Outcome

/-- The exit status of a run: one after an error, 101 when it was broken off, two when the arguments
were refused. -/
def status : Outcome → UInt8
  | .failure e => if e.breaksOff then 101 else 1
  | .misuse _ => 2
  | _ => 0

/-- What a run writes to the output. -/
def output : Outcome → String
  | .report r => r.text ++ "\n"
  | .usage => Command.usage ++ "\n"
  | .version => CommandLine.version ++ "\n"
  | _ => ""

/-- A line with an error. -/
def errorLine (message : String) : String := "error: " ++ message ++ "\n"

/-- What a run writes to the diagnostics. -/
def diagnostics : Outcome → String
  | .misuse fault => errorLine fault.message
  | .failure error => errorLine error.message
  | _ => ""

end Outcome

variable {m : Type → Type} [Monad m]

/-- The marketplace for commands that do not call it. -/
def offline (c : Command) : Marketplace m :=
  .refusing (.remote "Offline" ("'" ++ c.verb ++ "' does not contact the marketplace"))

/-- The marketplace of an environment. -/
def online (s : Surroundings m) (e : Environment) (credentials : Credentials) : Marketplace m :=
  RemoteMarket.marketplace
    ⟨e.endpoint, credentials, s.send, s.clock, s.listing?, s.keepListing⟩

/-- The desk for a command line. -/
def desk (s : Surroundings m) (line : CommandLine) (market : Marketplace m) : Desk m where
  records := RecordFile.store s.files line.recordsPath
  results :=
    ResultDirectory.store s.files (ResultDirectory.path line.resultsRoot line.environment)
  journal := JournalFile.journal s.files line.journalPath
  market := market
  clock := s.clock

/-- The salt that keeps workers anonymous. -/
def saltOf (line : CommandLine) (credentials : Credentials) : Option String :=
  if line.deanonymize then none else some credentials.accessKeyId

/-- The settings, for the command that needs them. -/
def settingsFor (s : Surroundings m) (line : CommandLine) (c : Command) :
    ExceptT ProgramError m (Option Settings) :=
  if c = .create then
    some <$> attempt .config (Settings.load s.files line.settingsPath)
  else pure none

/-- Carries out a command. -/
def perform (s : Surroundings m) (line : CommandLine) (c : Command) :
    ExceptT ProgramError m Report := do
  let settings ← settingsFor s line c
  if c.callsMarketplace then
    let credentials ←
      attempt .config (Credentials.load s.files s.lookup line.credentialsPath)
    let market := online s line.environment credentials
    let job : Job := ⟨line.environment, settings, saltOf line credentials⟩
    attempt .execution (Execution.run (desk s line market) job c)
  else
    let job : Job := ⟨line.environment, settings, none⟩
    attempt .execution (Execution.run (desk s line (offline c)) job c)

/-- Carries out the command of a command line. A line of words that names no command asks for the
usage. -/
def obey (s : Surroundings m) (line : CommandLine) : m Outcome :=
  match Logging.check s.lookup line.logging.level with
  | .error e => pure (.failure (.logging e))
  | .ok () =>
    match Command.parse (" ".intercalate line.words) with
    | .error .empty => pure .usage
    | .error (.unrecognized _) => pure .usage
    | .error e => pure (.failure (.command e))
    | .ok c => do
      match ← (perform s line c).run with
      | .ok r => return .report r
      | .error e => return .failure e

/-- A run of the program with the given arguments. -/
def run (s : Surroundings m) (arguments : List String) : m Outcome :=
  match CommandLine.parse arguments with
  | .error fault => pure (.misuse fault)
  | .ok .help => pure .usage
  | .ok .version => pure .version
  | .ok (.run line) => obey s line

end Program

end CrowdTask
