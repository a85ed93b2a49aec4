import CrowdTask.Assignment.Answers
import CrowdTask.Assignment.Result
import CrowdTask.Calendar.Date
import CrowdTask.Calendar.Instant
import CrowdTask.Calendar.Moment
import CrowdTask.Calendar.Reading
import CrowdTask.Calendar.Stamp
import CrowdTask.Command
import CrowdTask.CommandLine
import CrowdTask.Credentials
import CrowdTask.Decimal.Binary64
import CrowdTask.Decimal.Layout
import CrowdTask.Decimal.Shortest
import CrowdTask.Digest.Sha256
import CrowdTask.Download
import CrowdTask.Duration.Canonical
import CrowdTask.Duration.Phrase
import CrowdTask.Duration.Unit
import CrowdTask.Environment
import CrowdTask.Execution
import CrowdTask.Files.Place
import CrowdTask.Files.Route
import CrowdTask.Files.System
import CrowdTask.Files.Tree
import CrowdTask.Identifier
import CrowdTask.Interruption
import CrowdTask.JournalEntry
import CrowdTask.Json.Basic
import CrowdTask.Json.Number
import CrowdTask.Json.Printer
import CrowdTask.Json.Raw
import CrowdTask.Json.Reader
import CrowdTask.Json.Record
import CrowdTask.LogFilter
import CrowdTask.Logging
import CrowdTask.Main
import CrowdTask.Marketplace.Basic
import CrowdTask.Marketplace.ExternalPage
import CrowdTask.Marketplace.Local
import CrowdTask.Marketplace.Remote
import CrowdTask.Marketplace.Reply
import CrowdTask.Marketplace.Request
import CrowdTask.Marketplace.Signature
import CrowdTask.Markup.Element
import CrowdTask.Markup.Entity
import CrowdTask.Pattern.Basic
import CrowdTask.Pattern.CharSet
import CrowdTask.Pattern.Escape
import CrowdTask.Pattern.Mode
import CrowdTask.Pattern.Reader
import CrowdTask.Program
import CrowdTask.Qualification
import CrowdTask.Report
import CrowdTask.Reward
import CrowdTask.Settings.Basic
import CrowdTask.Settings.Comments
import CrowdTask.Settings.Draft
import CrowdTask.Settings.File
import CrowdTask.Store.Basic
import CrowdTask.Store.JournalFile
import CrowdTask.Store.Memory
import CrowdTask.Store.RecordFile
import CrowdTask.Store.ResultDirectory
import CrowdTask.Task.Registry
import CrowdTask.Task.Status
import CrowdTask.Text.Blank
import CrowdTask.Text.CaseTable
import CrowdTask.Text.HiddenTable
import CrowdTask.Text.LetterTable
import CrowdTask.Text.Lowercase
import CrowdTask.Text.Numeral
import CrowdTask.Text.Quoted
import CrowdTask.Proofs.Additions
import CrowdTask.Proofs.Assignment.Anonymity
import CrowdTask.Proofs.Assignment.Answers
import CrowdTask.Proofs.Assignment.IntegerAnswers
import CrowdTask.Proofs.Decimal.Overflow
import CrowdTask.Proofs.Decimal.Rounding
import CrowdTask.Proofs.Decimal.Shortest
import CrowdTask.Proofs.Desk.AuditTrail
import CrowdTask.Proofs.Desk.Commands
import CrowdTask.Proofs.Desk.Expiry
import CrowdTask.Proofs.Desk.Extension
import CrowdTask.Proofs.Desk.JournalFile
import CrowdTask.Proofs.Desk.Phase
import CrowdTask.Proofs.Desk.Ports
import CrowdTask.Proofs.Desk.Separation
import CrowdTask.Proofs.Desk.SingleRecord
import CrowdTask.Proofs.Desk.Stoppage
import CrowdTask.Proofs.Desk.Timing
import CrowdTask.Proofs.Desk.Unreadable
import CrowdTask.Proofs.Digest
import CrowdTask.Proofs.Download.Account
import CrowdTask.Proofs.Download.AnyMarket
import CrowdTask.Proofs.Download.Coverage
import CrowdTask.Proofs.Download.Depot
import CrowdTask.Proofs.Download.Entries
import CrowdTask.Proofs.Download.Reference
import CrowdTask.Proofs.Download.Resumption
import CrowdTask.Proofs.Duration.Canonical
import CrowdTask.Proofs.Duration.Connectors
import CrowdTask.Proofs.Duration.Sums
import CrowdTask.Proofs.Duration.Terms
import CrowdTask.Proofs.Files.Content
import CrowdTask.Proofs.Files.Outage
import CrowdTask.Proofs.Files.Replacement
import CrowdTask.Proofs.Files.Tree
import CrowdTask.Proofs.Identifier
import CrowdTask.Proofs.Json.DecimalValue
import CrowdTask.Proofs.Json.Digits
import CrowdTask.Proofs.Json.IntegerTexts
import CrowdTask.Proofs.Json.Interspersed
import CrowdTask.Proofs.Json.Nesting
import CrowdTask.Proofs.Json.Numbers
import CrowdTask.Proofs.Json.OneLine
import CrowdTask.Proofs.Json.Positional
import CrowdTask.Proofs.Json.Printed
import CrowdTask.Proofs.Json.Strings
import CrowdTask.Proofs.Json.Values
import CrowdTask.Proofs.Marketplace.CalendarEnd
import CrowdTask.Proofs.Marketplace.Connection
import CrowdTask.Proofs.Marketplace.Creation
import CrowdTask.Proofs.Marketplace.Hosting
import CrowdTask.Proofs.Marketplace.LocalCalls
import CrowdTask.Proofs.Marketplace.Pages
import CrowdTask.Proofs.Marketplace.Signature
import CrowdTask.Proofs.Marketplace.Timestamps
import CrowdTask.Proofs.Marketplace.Traversal
import CrowdTask.Proofs.Markup.Elements
import CrowdTask.Proofs.Markup.Escaping
import CrowdTask.Proofs.Markup.References
import CrowdTask.Proofs.Reward
import CrowdTask.Proofs.Run.Lockstep
import CrowdTask.Proofs.Run.Trail
import CrowdTask.Proofs.Settings.Comments
import CrowdTask.Proofs.Settings.Credentials
import CrowdTask.Proofs.Settings.Fields
import CrowdTask.Proofs.Settings.ListedFields
import CrowdTask.Proofs.Settings.StrippedLines
import CrowdTask.Proofs.Settings.Validation
import CrowdTask.Proofs.Store.CrashSafety
import CrowdTask.Proofs.Store.DamagedFile
import CrowdTask.Proofs.Store.JournalLines
import CrowdTask.Proofs.Store.ListedNames
import CrowdTask.Proofs.Store.OrderedIds
import CrowdTask.Proofs.Store.RegistryFile
import CrowdTask.Proofs.Store.ResultFiles
import CrowdTask.Proofs.Store.Retention
import CrowdTask.Proofs.Text.Lines
import CrowdTask.Proofs.Text.Numerals
import CrowdTask.Proofs.Text.Words
