import CrowdTask.Duration.Phrase

/-!
# Commands

A command is a line of words. Its first word is the verb; letter case and the number of blanks
between words do not matter.

## Main definitions

* `CrowdTask.Command`: the commands.
* `CrowdTask.Addition`: what `add` adds to a task, which is never nothing.
* `CrowdTask.CommandError`: why a line is refused.
* `CrowdTask.Command.parse`: the command of a line.
-/

namespace CrowdTask

/-- What is added to a task: assignments, seconds, or both. -/
inductive Addition where
  | assignments (count : UInt32)
  | time (seconds : UInt64)
  | both (count : UInt32) (seconds : UInt64)
  deriving DecidableEq, Repr

namespace Addition

/-- The number of assignments that are added. -/
def count? : Addition → Option UInt32
  | .assignments n => some n
  | .time _ => none
  | .both n _ => some n

/-- The number of seconds that are added. -/
def seconds? : Addition → Option UInt64
  | .assignments _ => none
  | .time s => some s
  | .both _ s => some s

end Addition

/-- The commands. -/
inductive Command where
  | create
  | update
  | add (addition : Addition)
  | status
  | expire
  | download
  | history
  | manage
  | view
  | balance
  deriving DecidableEq, Repr

/-- Why a line is refused. -/
inductive CommandError where
  | empty
  | unrecognized (text : String)
  | unexpectedArguments (command arguments : String)
  | nothingToAdd
  | invalidCount (word : String)
  | duration (cause : DurationError)
  deriving DecidableEq, Repr

/-- The message for a refused line. -/
def CommandError.message : CommandError → String
  | .empty => "no command given"
  | .unrecognized text => "unknown command '" ++ text ++ "'"
  | .unexpectedArguments command arguments =>
    "unexpected arguments for '" ++ command ++ "': " ++ arguments
  | .nothingToAdd => "nothing to add; use 'add <N> assignments' and/or 'add <duration>'"
  | .invalidCount word =>
    "invalid assignment count '" ++ word ++ "', expected a positive whole number"
  | .duration cause => cause.message

/-- Whether a line breaks a program off. -/
def CommandError.breaksOff : CommandError → Bool
  | .duration cause => cause.breaksOff
  | _ => false

namespace Command

/-- The verb of a command. -/
def verb : Command → String
  | .create => "create"
  | .update => "update"
  | .add _ => "add"
  | .status => "status"
  | .expire => "expire"
  | .download => "download"
  | .history => "history"
  | .manage => "manage"
  | .view => "view"
  | .balance => "balance"

/-- Whether the command calls the marketplace. -/
def callsMarketplace : Command → Bool
  | .create | .add _ | .status | .expire | .download | .balance => true
  | .update | .history | .manage | .view => false

/-- The commands without arguments, and the words that may follow their verbs. -/
def plain : List (Command × List String) :=
  [(.create, ["hit"]), (.update, ["hit"]), (.status, []), (.expire, ["hit"]),
    (.download, ["results"]), (.history, []), (.manage, ["hit"]), (.view, ["hit"]), (.balance, [])]

/-- The lines of words that mean a command without its verb. -/
def phrases : List (List String × Command) :=
  [(["show", "status"], .status), (["get", "results"], .download)]

/-- The words of `add` without the commas around them. -/
def withoutCommas (words : List (List Char)) : List (List Char) :=
  (words.map (Text.strip (· = ','))).filter fun w => !w.isEmpty

/-- The number of assignments in a word. -/
def count (word : List Char) : Except CommandError UInt32 :=
  match (Text.unsigned32? word).filter (0 < ·) with
  | some n => .ok (UInt32.ofNat n)
  | none => .error (.invalidCount (String.ofList word))

/-- The number of assignments at the beginning of the words of `add`, and the other words. -/
def leadingCount : List (List Char) →
    Except CommandError (Option UInt32 × List (List Char))
  | n :: noun :: rest =>
    if noun = "assignment".toList ∨ noun = "assignments".toList then do
      return (some (← count n), rest)
    else .ok (none, n :: noun :: rest)
  | words => .ok (none, words)

/-- The duration in the words of `add` that follow the number of assignments. -/
def trailingTime (words : List (List Char)) : Except CommandError (Option UInt64) :=
  let words := words.dropWhile (· = Duration.joiner)
  if words.isEmpty then .ok none
  else
    match Duration.parse (String.ofList (Text.joined [' '] words)) with
    | .ok s => .ok (some s)
    | .error e => .error (.duration e)

/-- What the words after `add` ask for. -/
def addition (words : List (List Char)) : Except CommandError Addition := do
  let (n, rest) ← leadingCount (withoutCommas words)
  let s ← trailingTime rest
  match n, s with
  | some n, some s => return .both n s
  | some n, none => return .assignments n
  | none, some s => return .time s
  | none, none => .error .nothingToAdd

/-- The command of a line. -/
def parse (line : String) : Except CommandError Command :=
  let lowered := Text.lowercase (Text.trim line.toList)
  match Text.words lowered with
  | [] => .error .empty
  | verb :: arguments =>
    if verb = "add".toList then (addition arguments).map .add
    else
      match phrases.find? fun p => p.1.map String.toList = verb :: arguments with
      | some p => .ok p.2
      | none =>
        match plain.find? fun p => p.1.verb.toList = verb with
        | none => .error (.unrecognized (String.ofList lowered))
        | some (command, words) =>
          if arguments = [] ∨ words.map String.toList = arguments then .ok command
          else
            .error
              (.unexpectedArguments command.verb (String.ofList (Text.joined [' '] arguments)))

/-- How the program is called, and its commands. -/
def usage : String :=
  "Usage: hitctl [--production] <command>\n\n" ++
  "Commands:\n" ++
  "   create                          create the HIT\n" ++
  "   add <N> assignments             add assignments to the HIT\n" ++
  "   add <duration>                  extend the HIT lifetime, e.g. 'add 2 days and 3 hours'\n" ++
  "   add <N> assignments and <duration>\n" ++
  "   status                          show live assignment counts and time left\n" ++
  "   expire                          expire the HIT now\n" ++
  "   download                        download new results\n" ++
  "   manage                          print the requester management link\n" ++
  "   view                            print the worker preview link\n" ++
  "   balance                         show the requester account balance\n" ++
  "   update, history                 not implemented yet\n"

end Command

end CrowdTask
