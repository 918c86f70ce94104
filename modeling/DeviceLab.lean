import DeviceLab.Bench.Files
import DeviceLab.Bench.Host
import DeviceLab.Bench.Kernel
import DeviceLab.Bench.Proc
import DeviceLab.Bench.Scene
import DeviceLab.Bench.Schedule
import DeviceLab.Bench.Session
import DeviceLab.Bench.World
import DeviceLab.Classifier.Json
import DeviceLab.Classifier.Rule
import DeviceLab.Classifier.Scan
import DeviceLab.CommandLine.Grammar
import DeviceLab.CommandLine.Program
import DeviceLab.CommandLine.Request
import DeviceLab.Config.Basic
import DeviceLab.Config.Json
import DeviceLab.Config.Validate
import DeviceLab.Config.Timing
import DeviceLab.Console.Basic
import DeviceLab.Console.Connect
import DeviceLab.Context
import DeviceLab.Decimal.Binary64
import DeviceLab.Decimal.Formatted
import DeviceLab.Decimal.Numeral
import DeviceLab.Decimal.Powers
import DeviceLab.Decimal.Shortest
import DeviceLab.Device.Backend
import DeviceLab.Device.Basic
import DeviceLab.Device.Emulator
import DeviceLab.Device.Json
import DeviceLab.Device.Scripted
import DeviceLab.Dispatch.Command
import DeviceLab.Dispatch.Json
import DeviceLab.Dispatch.SuiteRun
import DeviceLab.Dispatch.Template
import DeviceLab.Documents
import DeviceLab.Failure
import DeviceLab.Host.Basic
import DeviceLab.Host.IoError
import DeviceLab.Json.Decode
import DeviceLab.Json.Document
import DeviceLab.Json.Reader
import DeviceLab.Json.Value
import DeviceLab.Lifecycle.State
import DeviceLab.Main
import DeviceLab.Process.Launch
import DeviceLab.Process.Stray
import DeviceLab.Proofs.Verdict
import DeviceLab.Proofs.Attempts
import DeviceLab.Proofs.Captures
import DeviceLab.Proofs.Course
import DeviceLab.Proofs.Devices
import DeviceLab.Proofs.Ending
import DeviceLab.Proofs.Frame
import DeviceLab.Proofs.Ledger
import DeviceLab.Proofs.Limits
import DeviceLab.Proofs.Phases
import DeviceLab.Proofs.Slots
import DeviceLab.Proofs.Summing
import DeviceLab.Proofs.Teardown
import DeviceLab.Proofs.Triple
import DeviceLab.Regex.Pattern
import DeviceLab.Regex.Program
import DeviceLab.Regex.Search
import DeviceLab.Regex.Syntax
import DeviceLab.Retry
import DeviceLab.Run.Basic
import DeviceLab.Run.Controller
import DeviceLab.Run.Json
import DeviceLab.Run.Report
import DeviceLab.Run.Startup
import DeviceLab.Run.Suites
import DeviceLab.Severity
import DeviceLab.Shell.Arithmetic
import DeviceLab.Shell.Builtins
import DeviceLab.Shell.Condition
import DeviceLab.Shell.Expansion
import DeviceLab.Shell.Format
import DeviceLab.Shell.Interpreter
import DeviceLab.Shell.Jobs
import DeviceLab.Shell.Pattern
import DeviceLab.Shell.Reader
import DeviceLab.Shell.Redirect
import DeviceLab.Shell.Source
import DeviceLab.Shell.Start
import DeviceLab.Shell.State
import DeviceLab.Shell.Syntax
import DeviceLab.Shell.Word
import DeviceLab.Signal
import DeviceLab.Summary.Basic
import DeviceLab.Summary.Draft
import DeviceLab.Summary.Json
import DeviceLab.Supervisor.Basic
import DeviceLab.Supervisor.Operations
import DeviceLab.Text.Classes
import DeviceLab.Text.Blank
import DeviceLab.Text.Utf8
import DeviceLab.Text.Path
import DeviceLab.Time.Duration
import DeviceLab.Time.Json
import DeviceLab.Time.Timestamp
import DeviceLab.Timeout
import DeviceLab.Toml.Reader
import DeviceLab.Toml.Table
import DeviceLab.Tools.Basic
import DeviceLab.Tools.Blocks
import DeviceLab.Tools.Columns
import DeviceLab.Tools.Digests
import DeviceLab.Tools.Dump
import DeviceLab.Tools.Edit
import DeviceLab.Tools.EditScript
import DeviceLab.Tools.Facts
import DeviceLab.Tools.Find
import DeviceLab.Tools.Indented
import DeviceLab.Tools.IndentedJson
import DeviceLab.Tools.IndentedMethods
import DeviceLab.Tools.IndentedNatives
import DeviceLab.Tools.IndentedOperators
import DeviceLab.Tools.IndentedScript
import DeviceLab.Tools.IndentedState
import DeviceLab.Tools.IndentedSystem
import DeviceLab.Tools.IndentedTokens
import DeviceLab.Tools.IndentedValues
import DeviceLab.Tools.Lines
import DeviceLab.Tools.Listing
import DeviceLab.Tools.Options
import DeviceLab.Tools.Pages
import DeviceLab.Tools.Patterns
import DeviceLab.Tools.RecordScript
import DeviceLab.Tools.RecordTable
import DeviceLab.Tools.Records
import DeviceLab.Tools.Runs
import DeviceLab.Tools.Search
import DeviceLab.Tools.Sorting
import DeviceLab.Tools.Table
import DeviceLab.Tools.Texts
import DeviceLab.Tools.Trees
import DeviceLab.Tools.Values
import DeviceLab.Unix.Call
import DeviceLab.Unix.Mode
import DeviceLab.Proofs.Starting
import DeviceLab.Proofs.Protocol
import DeviceLab.Proofs.Looks
import DeviceLab.Proofs.SuiteSteps
import DeviceLab.Proofs.Reporting
import DeviceLab.Proofs.Cancellation
import DeviceLab.Proofs.Agreement
import DeviceLab.Proofs.Attribution
import DeviceLab.Proofs.Changes
import DeviceLab.Proofs.Supervision
import DeviceLab.Proofs.Requests
import DeviceLab.Proofs.Custody
import DeviceLab.Proofs.Handles
import DeviceLab.Proofs.Groups
import DeviceLab.Proofs.BackendSteps
import DeviceLab.Proofs.Leftovers
import DeviceLab.Proofs.Scanning
import DeviceLab.Proofs.Totals
import DeviceLab.Proofs.Checks
import DeviceLab.Proofs.Admission
import DeviceLab.Proofs.RunInvariants
import DeviceLab.Proofs.Commands
import DeviceLab.Proofs.Launching
import DeviceLab.Proofs.MemoryIndependence
import DeviceLab.Proofs.Visits
import DeviceLab.Proofs.Booting
import DeviceLab.Proofs.EmulatorHandles
import DeviceLab.Proofs.Succession
import DeviceLab.Proofs.RoundTrips
import DeviceLab.Proofs.Numerals
import DeviceLab.Proofs.Written
import DeviceLab.Proofs.Interruption
import DeviceLab.Proofs.Retrying
import DeviceLab.Proofs.Deliveries
import DeviceLab.Proofs.Barring
import DeviceLab.Proofs.Rendering
import DeviceLab.Proofs.Composing
import DeviceLab.Proofs.Precedence
import DeviceLab.Proofs.Weighing
import DeviceLab.Proofs.Silence
import DeviceLab.Proofs.Sweeping
import DeviceLab.Proofs.Quotation
import DeviceLab.Proofs.Listings
import DeviceLab.Proofs.Strays
import DeviceLab.Proofs.Errands
import DeviceLab.Proofs.Itinerary
import DeviceLab.Proofs.Beats
import DeviceLab.Proofs.Faults
import DeviceLab.Proofs.Steps
import DeviceLab.Proofs.Overdue
