import NativeBuild.Action
import NativeBuild.Capture.Basic
import NativeBuild.Capture.Store
import NativeBuild.Capture.View
import NativeBuild.Command.Argument
import NativeBuild.Command.Result
import NativeBuild.Command.Spec
import NativeBuild.Config
import NativeBuild.Containment
import NativeBuild.Decimal.Double
import NativeBuild.Decimal.Rounded
import NativeBuild.Decimal.Shortest
import NativeBuild.Decimal.Wide
import NativeBuild.Duration
import NativeBuild.Environment
import NativeBuild.Error
import NativeBuild.Fault
import NativeBuild.FileTree.Basic
import NativeBuild.FileTree.Canonical
import NativeBuild.FileTree.Directory
import NativeBuild.FileTree.Files
import NativeBuild.FileTree.Walk
import NativeBuild.Log
import NativeBuild.Machine.Arithmetic
import NativeBuild.Machine.Bytes
import NativeBuild.Machine.Calendar.Basic
import NativeBuild.Machine.Calendar.Format
import NativeBuild.Machine.Calendar.Reading
import NativeBuild.Machine.Calendar.Zone
import NativeBuild.Machine.Condition
import NativeBuild.Machine.Format
import NativeBuild.Machine.Host
import NativeBuild.Machine.Mode
import NativeBuild.Machine.Pattern
import NativeBuild.Machine.ProcessFiles
import NativeBuild.Machine.Program
import NativeBuild.Machine.Regex
import NativeBuild.Machine.Schedule
import NativeBuild.Machine.Script.Basic
import NativeBuild.Machine.Script.Reading
import NativeBuild.Machine.Script.Source
import NativeBuild.Machine.Script.Word
import NativeBuild.Machine.Shell.Act
import NativeBuild.Machine.Shell.Basic
import NativeBuild.Machine.Shell.Builtin
import NativeBuild.Machine.Shell.Describe
import NativeBuild.Machine.Shell.Expansion
import NativeBuild.Machine.Shell.Field
import NativeBuild.Machine.Shell.Launch
import NativeBuild.Machine.Shell.Redirect
import NativeBuild.Machine.Shell.Step
import NativeBuild.Machine.Shell.Variable
import NativeBuild.Machine.System
import NativeBuild.Machine.Utility
import NativeBuild.Machine.Utility.Amount
import NativeBuild.Machine.Utility.Arguments
import NativeBuild.Machine.Utility.Attributes
import NativeBuild.Machine.Utility.Awk.Run
import NativeBuild.Machine.Utility.Awk.Script
import NativeBuild.Machine.Utility.Awk.Value
import NativeBuild.Machine.Utility.Blocks
import NativeBuild.Machine.Utility.Call
import NativeBuild.Machine.Utility.Checksum
import NativeBuild.Machine.Utility.Columns
import NativeBuild.Machine.Utility.Comparison
import NativeBuild.Machine.Utility.Contents
import NativeBuild.Machine.Utility.Copying
import NativeBuild.Machine.Utility.Count
import NativeBuild.Machine.Utility.Date
import NativeBuild.Machine.Utility.Deciding
import NativeBuild.Machine.Utility.Deed
import NativeBuild.Machine.Utility.Difference
import NativeBuild.Machine.Utility.Difference.Alignment
import NativeBuild.Machine.Utility.Difference.Change
import NativeBuild.Machine.Utility.Difference.Columns
import NativeBuild.Machine.Utility.Difference.Hunk
import NativeBuild.Machine.Utility.Difference.Line
import NativeBuild.Machine.Utility.Difference.Prospect
import NativeBuild.Machine.Utility.Difference.Request
import NativeBuild.Machine.Utility.Difference.Sliding
import NativeBuild.Machine.Utility.Difference.Template
import NativeBuild.Machine.Utility.Digest
import NativeBuild.Machine.Utility.Directories
import NativeBuild.Machine.Utility.Dump
import NativeBuild.Machine.Utility.Encoding
import NativeBuild.Machine.Utility.Excerpt
import NativeBuild.Machine.Utility.Expression
import NativeBuild.Machine.Utility.Find.Condition
import NativeBuild.Machine.Utility.Find.Reading
import NativeBuild.Machine.Utility.Find.Search
import NativeBuild.Machine.Utility.Grep
import NativeBuild.Machine.Utility.Identity
import NativeBuild.Machine.Utility.Links
import NativeBuild.Machine.Utility.Listing
import NativeBuild.Machine.Utility.Names
import NativeBuild.Machine.Utility.Numbering
import NativeBuild.Machine.Utility.Numbers
import NativeBuild.Machine.Utility.Pairing
import NativeBuild.Machine.Utility.Paragraphs
import NativeBuild.Machine.Utility.Precedence
import NativeBuild.Machine.Utility.Printing
import NativeBuild.Machine.Utility.Quotation
import NativeBuild.Machine.Utility.Reversal
import NativeBuild.Machine.Utility.Runs
import NativeBuild.Machine.Utility.Scaling
import NativeBuild.Machine.Utility.Sections
import NativeBuild.Machine.Utility.Sed.Run
import NativeBuild.Machine.Utility.Sed.Script
import NativeBuild.Machine.Utility.Shuffle
import NativeBuild.Machine.Utility.Sorting
import NativeBuild.Machine.Utility.Splitting
import NativeBuild.Machine.Utility.Starting
import NativeBuild.Machine.Utility.Translation
import NativeBuild.Machine.Utility.Usage
import NativeBuild.Machine.Utility.Waiting
import NativeBuild.Machine.VersionOrder
import NativeBuild.Path
import NativeBuild.Pipeline.Commands
import NativeBuild.Pipeline.Outcome
import NativeBuild.Pipeline.Run
import NativeBuild.Pipeline.Stage
import NativeBuild.Platform
import NativeBuild.Proofs.Action
import NativeBuild.Proofs.Pipeline.Course
import NativeBuild.Proofs.Capture.Growth
import NativeBuild.Proofs.FileTree.Growth
import NativeBuild.Proofs.Supervision.Attendance
import NativeBuild.Proofs.Supervision.Running
import NativeBuild.Proofs.Supervision.Record
import NativeBuild.Proofs.Pipeline.Runner
import NativeBuild.Proofs.Pipeline.Preparation
import NativeBuild.Proofs.Pipeline.Execution
import NativeBuild.Proofs.Pipeline.CommandSequence
import NativeBuild.Proofs.Pipeline.Replay
import NativeBuild.Proofs.Pipeline.Accounting
import NativeBuild.Proofs.Pipeline.Exchange
import NativeBuild.Supervision.Child
import NativeBuild.Supervision.Reader
import NativeBuild.Supervision.Run
import NativeBuild.Text.Blank
import NativeBuild.Text.CommandLine
import NativeBuild.Text.Digit
import NativeBuild.Text.Escape
import NativeBuild.Text.Lines
import NativeBuild.Text.Printable
import NativeBuild.Text.Quoted
import NativeBuild.Text.Utf8
import NativeBuild.Tracing.Basic
import NativeBuild.Tracing.Scope
import NativeBuild.World
import NativeBuild.Proofs.Supervision.Custody
import NativeBuild.Proofs.Supervision.Interleaving
import NativeBuild.Proofs.Supervision.Lossless
import NativeBuild.Proofs.FileTree.Spelling
import NativeBuild.Proofs.FileTree.Resolution
import NativeBuild.Proofs.Containment
import NativeBuild.Proofs.FileTree.Absolute
import NativeBuild.Proofs.Pipeline.Directories
import NativeBuild.Proofs.FileTree.Furnishing
import NativeBuild.Proofs.Pipeline.Boundary
import NativeBuild.Proofs.Pipeline.Evidence
import NativeBuild.Proofs.Pipeline.Independence
import NativeBuild.Proofs.Pipeline.Life
import NativeBuild.Proofs.Pipeline.Supervised
import NativeBuild.Proofs.Agreement
import NativeBuild.Proofs.Text.Utf8
import NativeBuild.Proofs.Text.Lines
import NativeBuild.Proofs.Tracing.Span
import NativeBuild.Proofs.Tracing.Recording
import NativeBuild.Proofs.Tracing.Provider
import NativeBuild.Proofs.Tracing.Twins
import NativeBuild.Proofs.Supervision.Agreement
import NativeBuild.Proofs.Supervision.Spans
import NativeBuild.Proofs.Pipeline.Agreement
import NativeBuild.Proofs.Pipeline.Spans
import NativeBuild.Proofs.Pipeline.Noninterference
import NativeBuild.Proofs.CommandLine
import NativeBuild.Proofs.Supervision.BrokenOff
import NativeBuild.Proofs.FileTree.Making
import NativeBuild.Proofs.Pipeline.Footprint
import NativeBuild.Proofs.FileTree.NormalForm
import NativeBuild.Proofs.Pipeline.Config
import NativeBuild.Proofs.Environment
import NativeBuild.Proofs.Pipeline.Environments
import NativeBuild.Proofs.Pipeline.Arguments
import NativeBuild.Proofs.Capture.Sequence
import NativeBuild.Proofs.Command.NormalForm
import NativeBuild.Machine.Telemetry
