import BudgetRules.Action
import BudgetRules.App
import BudgetRules.Batch
import BudgetRules.Binary64
import BudgetRules.Binary64.Reader
import BudgetRules.Binary64.Shortest
import BudgetRules.Blake3
import BudgetRules.Bytes
import BudgetRules.Cascade
import BudgetRules.ChaCha8
import BudgetRules.CommandLine
import BudgetRules.CommandLine.Arguments
import BudgetRules.CommandLine.Clauses
import BudgetRules.CommandLine.Failure
import BudgetRules.Condition
import BudgetRules.Disk
import BudgetRules.Disk.Path
import BudgetRules.Engine
import BudgetRules.Event
import BudgetRules.Event.Sink
import BudgetRules.FieldValue
import BudgetRules.FileSystem
import BudgetRules.Fingerprint
import BudgetRules.Identity
import BudgetRules.Json
import BudgetRules.Json.Decode
import BudgetRules.Json.Fault
import BudgetRules.Json.Numeral
import BudgetRules.Json.Printer
import BudgetRules.Json.Tree
import BudgetRules.Ledger
import BudgetRules.Ledger.File
import BudgetRules.LinkedDisk
import BudgetRules.Main
import BudgetRules.Proofs.App
import BudgetRules.Proofs.App.File
import BudgetRules.Proofs.Batch
import BudgetRules.Proofs.Binary64.Exact
import BudgetRules.Proofs.Binary64.Interval
import BudgetRules.Proofs.Binary64.Rounding
import BudgetRules.Proofs.Binary64.Shortest
import BudgetRules.Proofs.Bytes
import BudgetRules.Proofs.Cascade
import BudgetRules.Proofs.Cascade.Apart
import BudgetRules.Proofs.Cascade.Inert
import BudgetRules.Proofs.Cascade.Lockstep
import BudgetRules.Proofs.Cascade.Turns
import BudgetRules.Proofs.Cascade.Twice
import BudgetRules.Proofs.Cascade.Visible
import BudgetRules.Proofs.CommandLine.Clauses
import BudgetRules.Proofs.CommandLine.Edits
import BudgetRules.Proofs.CommandLine.Failures
import BudgetRules.Proofs.CommandLine.Histories
import BudgetRules.Proofs.CommandLine.Imports
import BudgetRules.Proofs.CommandLine.Rules
import BudgetRules.Proofs.CommandLine.Variables
import BudgetRules.Proofs.Condition
import BudgetRules.Proofs.Condition.Pattern
import BudgetRules.Proofs.Disk
import BudgetRules.Proofs.Disk.Changes
import BudgetRules.Proofs.Disk.Elsewhere
import BudgetRules.Proofs.Disk.Path
import BudgetRules.Proofs.Disk.Places
import BudgetRules.Proofs.Disk.Steps
import BudgetRules.Proofs.Engine
import BudgetRules.Proofs.Engine.Log
import BudgetRules.Proofs.Engine.Priority
import BudgetRules.Proofs.Except
import BudgetRules.Proofs.Fingerprint
import BudgetRules.Proofs.Json.Careful
import BudgetRules.Proofs.Json.Decode
import BudgetRules.Proofs.Json.Doubles
import BudgetRules.Proofs.Json.Faultless
import BudgetRules.Proofs.Json.Finite
import BudgetRules.Proofs.Json.Grammar
import BudgetRules.Proofs.Json.Lexicon
import BudgetRules.Proofs.Json.Numbers
import BudgetRules.Proofs.Json.Rearranged
import BudgetRules.Proofs.Json.Reread
import BudgetRules.Proofs.Json.Strings
import BudgetRules.Proofs.Json.Text
import BudgetRules.Proofs.Ledger
import BudgetRules.Proofs.Ledger.File
import BudgetRules.Proofs.Ledger.Reopened
import BudgetRules.Proofs.Ledger.Turns
import BudgetRules.Proofs.LinkedDisk
import BudgetRules.Proofs.LinkedDisk.Plain
import BudgetRules.Proofs.LinkedDisk.Replaced
import BudgetRules.Proofs.LinkedDisk.Shown
import BudgetRules.Proofs.LinkedDisk.Walk
import BudgetRules.Proofs.Record
import BudgetRules.Proofs.Record.Comparison
import BudgetRules.Proofs.Record.Difference
import BudgetRules.Proofs.Record.History
import BudgetRules.Proofs.Record.Reading
import BudgetRules.Proofs.Regex.Literal
import BudgetRules.Proofs.Regex.Search
import BudgetRules.Proofs.Report
import BudgetRules.Proofs.Report.Blame
import BudgetRules.Proofs.Report.Counted
import BudgetRules.Proofs.Report.Merged
import BudgetRules.Proofs.Report.Stored
import BudgetRules.Proofs.Rule.Fields
import BudgetRules.Proofs.Rule.Rearranged
import BudgetRules.Proofs.Rule.Stored
import BudgetRules.Proofs.Script
import BudgetRules.Proofs.Script.Alike
import BudgetRules.Proofs.Script.Requests
import BudgetRules.Proofs.Script.Steps
import BudgetRules.Proofs.SortedMap
import BudgetRules.Proofs.Store.Contents
import BudgetRules.Proofs.Store.File
import BudgetRules.Proofs.Store.Interrupted
import BudgetRules.Proofs.Store.Linked
import BudgetRules.Proofs.Store.Memory
import BudgetRules.Proofs.Store.Reading
import BudgetRules.Proofs.Store.Upserts
import BudgetRules.Proofs.Store.Written
import BudgetRules.Proofs.Unicode.Lowercase
import BudgetRules.Record
import BudgetRules.Regex
import BudgetRules.Regex.Automaton
import BudgetRules.Regex.CaseFold
import BudgetRules.Regex.LiteralTree
import BudgetRules.Regex.Matcher
import BudgetRules.Regex.Meaning
import BudgetRules.Regex.Parser
import BudgetRules.Regex.Property
import BudgetRules.Regex.Property.Age
import BudgetRules.Regex.Property.Binary
import BudgetRules.Regex.Property.Break
import BudgetRules.Regex.Property.Category
import BudgetRules.Regex.Property.Script
import BudgetRules.Regex.Property.ScriptExtensions
import BudgetRules.Regex.Shape
import BudgetRules.Regex.Syntax
import BudgetRules.Regex.Words
import BudgetRules.Report
import BudgetRules.Report.Stored
import BudgetRules.Rule
import BudgetRules.Rule.Stored
import BudgetRules.Script
import BudgetRules.Settings
import BudgetRules.Settings.EnvFile
import BudgetRules.SortedMap
import BudgetRules.Store
import BudgetRules.Store.File
import BudgetRules.Text.Quoted
import BudgetRules.Timestamp
import BudgetRules.Timestamp.Text
import BudgetRules.Unicode.Blank
import BudgetRules.Unicode.Hidden
import BudgetRules.Unicode.Letter
import BudgetRules.Unicode.Lowercase
import BudgetRules.Unicode.Ranges
import BudgetRules.Unicode.Utf8
import BudgetRules.Vocabulary
