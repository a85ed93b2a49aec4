import CrowdTask.Calendar.Stamp
import CrowdTask.Download
import CrowdTask.Duration.Canonical

/-!
# Reports

A command that succeeds ends with a report, which is shown as text.

## Main definitions

* `CrowdTask.Report`: what a command did.
* `CrowdTask.Report.text`: the text of a report.
-/

namespace CrowdTask

/-- What a command did. -/
inductive Report where
  | created (environment : Environment) (id : TaskId) (maxAssignments : UInt32) (lifetime : UInt64)
      (managementPage : String)
  | extended (id : TaskId) (assignments : Option UInt32) (seconds : Option UInt64)
      (expiresAt : Option Instant)
  | status (environment : Environment) (status : TaskStatus) (phase : TaskPhase)
      (secondsLeft : Int)
  | notCreated (environment : Environment)
  | expired (id : TaskId)
  | downloaded (report : DownloadSummary)
  | management (url : String)
  | preview (id : TaskId) (url : Option String)
  | balance (environment : Environment) (available : String)
  | unavailable (command : String)

namespace Report

/-- A number and the noun it counts, in the plural unless the number is one. -/
def quantity (n : Nat) (noun : String) : String := String.ofList (Duration.counted n noun)

/-- Lines with a line end between neighbours. -/
def lines (ls : List String) : String := String.intercalate "\n" ls

/-- The text of a new task. -/
def createdText (e : Environment) (id : TaskId) (maxAssignments : UInt32) (lifetime : UInt64)
    (managementPage : String) : String :=
  lines
    ["Created HIT " ++ id.text ++ " in " ++ e.name ++ " with " ++
        quantity maxAssignments.toNat "assignment" ++ " for " ++ Duration.format lifetime ++ ".",
      "Manage it at " ++ managementPage]

/-- The text of an addition: a line for each of its parts. -/
def extendedText (id : TaskId) (assignments : Option UInt32) (seconds : Option UInt64)
    (expiresAt : Option Instant) : String :=
  let added := assignments.map fun n =>
    "Added " ++ quantity n.toNat "assignment" ++ " to HIT " ++ id.text ++ "."
  let newEnd := (expiresAt.map fun t => "; it now expires at " ++ t.reportStamp).getD ""
  let extended := seconds.map fun s =>
    "Extended HIT " ++ id.text ++ " by " ++ Duration.format s ++ newEnd ++ "."
  lines (added.toList ++ extended.toList)

/-- The time that remains. -/
def remainingText (seconds : Int) : String :=
  if 0 < seconds then Duration.format (UInt64.ofNat seconds.toNat) else "Expired"

/-- The text of a status. -/
def statusText (e : Environment) (s : TaskStatus) (phase : TaskPhase) (remaining : Int) : String :=
  lines
    ["HIT " ++ s.id.text ++ " (" ++ e.name ++ ")",
      "Status: " ++ s.state ++ " (" ++ phase.word ++ ")",
      "Assignments: " ++ toString s.maxAssignments.toNat ++ " total, " ++
        toString s.available.toNat ++ " available, " ++ toString s.pending.toNat ++
        " pending, " ++ toString s.completed.toNat ++ " completed",
      "Time remaining: " ++ remainingText remaining,
      "Expires at: " ++ s.expiresAt.reportStamp]

/-- The text of a download. -/
def downloadedText (r : DownloadSummary) : String :=
  if r.isUpToDate then "All " ++ quantity r.remoteTotal "result" ++ " are already downloaded."
  else
    lines
      (["We have " ++ toString r.alreadyStored ++ "/" ++ toString r.remoteTotal ++ " results"] ++
        r.written.map (fun id => "Downloaded " ++ id.text) ++
        ["Downloaded " ++ quantity r.written.length "new result" ++ "; " ++
          toString r.storedAfter ++ "/" ++ toString r.remoteTotal ++ " stored."])

/-- The text of a report. -/
def text : Report → String
  | .created e id maxAssignments lifetime managementPage =>
    createdText e id maxAssignments lifetime managementPage
  | .extended id assignments seconds expiresAt => extendedText id assignments seconds expiresAt
  | .status e s phase remaining => statusText e s phase remaining
  | .notCreated e => "No HIT has been created in " ++ e.name ++ " yet. Run `create` first."
  | .expired id => "Expired HIT " ++ id.text ++ "."
  | .downloaded r => downloadedText r
  | .management url => url
  | .preview _ (some url) => url
  | .preview id none =>
    "The worker preview link for HIT " ++ id.text ++
      " is unknown: no group id was recorded when it was created."
  | .balance e available => "Available balance (" ++ e.name ++ "): $" ++ available
  | .unavailable command => "'" ++ command ++ "' is not implemented yet."

end Report

end CrowdTask
