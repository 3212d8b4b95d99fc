import Grading.Abandonment
import Grading.Activity
import Grading.Assessor
import Grading.Channel
import Grading.Classifier
import Grading.Clearance
import Grading.Command
import Grading.CommandLine.Basic
import Grading.CommandLine.Request
import Grading.CommandLine.Usage
import Grading.Configuration
import Grading.Connection
import Grading.Decimal.Binary64
import Grading.Decimal.Numeral
import Grading.Decimal.Shortest
import Grading.Duration
import Grading.Environment
import Grading.EventStream
import Grading.Execution
import Grading.Feedback
import Grading.Framework
import Grading.Grader
import Grading.Identifier
import Grading.Json.Document
import Grading.Json.Number
import Grading.Json.Reader
import Grading.Json.Token
import Grading.Json.Value
import Grading.Lease
import Grading.Lineup
import Grading.Localization
import Grading.Log
import Grading.Main
import Grading.Pattern.Basic
import Grading.Pattern.CharSet
import Grading.Pattern.Error
import Grading.Pattern.Expression
import Grading.Pattern.Program
import Grading.Pattern.Property
import Grading.Pattern.Reader
import Grading.Pattern.Search
import Grading.Pool.Basic
import Grading.Pool.Remote
import Grading.Pool.Scripted
import Grading.Proofs.Abandonment
import Grading.Proofs.Anchoring
import Grading.Proofs.Arrivals
import Grading.Proofs.Assembly
import Grading.Proofs.Attempt
import Grading.Proofs.Attribution
import Grading.Proofs.Audit
import Grading.Proofs.Cancellation
import Grading.Proofs.CancelledPass
import Grading.Proofs.Capture
import Grading.Proofs.Choices
import Grading.Proofs.Chronology
import Grading.Proofs.Clearance
import Grading.Proofs.Completion
import Grading.Proofs.Cuts
import Grading.Proofs.Description
import Grading.Proofs.Documents
import Grading.Proofs.Elapsed
import Grading.Proofs.Excerpt
import Grading.Proofs.Exploration
import Grading.Proofs.Extent
import Grading.Proofs.Fields
import Grading.Proofs.FinalSummary
import Grading.Proofs.FirstExecution
import Grading.Proofs.Forgery
import Grading.Proofs.Forwarding
import Grading.Proofs.Fraction
import Grading.Proofs.FullScore
import Grading.Proofs.Handback
import Grading.Proofs.Independence
import Grading.Proofs.Interpolation
import Grading.Proofs.Interruption
import Grading.Proofs.Lifecycle
import Grading.Proofs.Listening
import Grading.Proofs.LogTotals
import Grading.Proofs.Misattribution
import Grading.Proofs.Occurrence
import Grading.Proofs.PartialCredit
import Grading.Proofs.Paths
import Grading.Proofs.Preference
import Grading.Proofs.Recognition
import Grading.Proofs.Records
import Grading.Proofs.Recovery
import Grading.Proofs.Redaction
import Grading.Proofs.Refusal
import Grading.Proofs.Release
import Grading.Proofs.Rewording
import Grading.Proofs.RoundTrip
import Grading.Proofs.Rounding
import Grading.Proofs.Scanning
import Grading.Proofs.Search
import Grading.Proofs.Sequence
import Grading.Proofs.Serialization
import Grading.Proofs.SingleRun
import Grading.Proofs.Stem
import Grading.Proofs.Substitution
import Grading.Proofs.Succession
import Grading.Proofs.SummaryNumber
import Grading.Proofs.Tally
import Grading.Proofs.TaskRuns
import Grading.Proofs.Template
import Grading.Proofs.Timing
import Grading.Proofs.Tokens
import Grading.Proofs.Transcript
import Grading.Proofs.Truncation
import Grading.Proofs.Turns
import Grading.Proofs.Waiting
import Grading.Quantity
import Grading.Record
import Grading.Report.Basic
import Grading.Report.CargoTest
import Grading.Report.JUnit
import Grading.Report.PyLint
import Grading.Report.PyUnit
import Grading.Report.Summary
import Grading.Runner
import Grading.Score
import Grading.Searching
import Grading.Session
import Grading.Setup
import Grading.Submission
import Grading.Tasks
import Grading.TestResult
import Grading.Text.CaseTable
import Grading.Text.CategoryTable
import Grading.Text.Character
import Grading.Text.CodeRange
import Grading.Text.Interpolation
import Grading.Text.LetterTable
import Grading.Text.Line
import Grading.Text.Numeral
import Grading.Text.Replacement
import Grading.Text.ScriptTable
import Grading.Text.WordTable
import Grading.Wire.Field
import Grading.Wire.Message
import Grading.Wire.Varint
