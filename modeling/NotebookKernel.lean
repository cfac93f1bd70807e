import NotebookKernel.Batch
import NotebookKernel.Cell.Completeness
import NotebookKernel.Cell.Identifier
import NotebookKernel.Cell.Vocabulary
import NotebookKernel.CommandLine.Arguments
import NotebookKernel.CommandLine.Program
import NotebookKernel.Config
import NotebookKernel.Decimal.Binary64
import NotebookKernel.Decimal.Notation
import NotebookKernel.Decimal.Shortest
import NotebookKernel.Engine.Basic
import NotebookKernel.Engine.Canned
import NotebookKernel.Engine.Command
import NotebookKernel.Engine.Failure
import NotebookKernel.Engine.Goal
import NotebookKernel.Engine.Response
import NotebookKernel.Files.Basic
import NotebookKernel.Files.Path
import NotebookKernel.Files.Script
import NotebookKernel.Handle
import NotebookKernel.Handle.Tasks
import NotebookKernel.Json.Basic
import NotebookKernel.Json.Failure
import NotebookKernel.Json.Printer
import NotebookKernel.Json.Reader
import NotebookKernel.Json.Record
import NotebookKernel.Json.Skip
import NotebookKernel.Kernel.Basic
import NotebookKernel.Kernel.Reply
import NotebookKernel.Kernel.Request
import NotebookKernel.Launch.Basic
import NotebookKernel.Launch.Invocation
import NotebookKernel.Launch.Overrides
import NotebookKernel.Launch.Project
import NotebookKernel.Launch.Runtime
import NotebookKernel.Mailbox.Basic
import NotebookKernel.Mailbox.Polling
import NotebookKernel.Main
import NotebookKernel.Once
import NotebookKernel.Opening
import NotebookKernel.Proofs.Mailbox.Delivery
import NotebookKernel.Proofs.Mailbox.Journal
import NotebookKernel.Repl.Framing
import NotebookKernel.Repl.Prepared
import NotebookKernel.Repl.StandIn
import NotebookKernel.Repl.Worker
import NotebookKernel.Schedule.Agenda
import NotebookKernel.Schedule.Turns
import NotebookKernel.Service.Basic
import NotebookKernel.Service.Lines
import NotebookKernel.Session
import NotebookKernel.Text.Alphanumeric
import NotebookKernel.Text.Blank
import NotebookKernel.Text.ByteLines
import NotebookKernel.Text.CodePoints
import NotebookKernel.Text.Printable
import NotebookKernel.Text.Quoted
import NotebookKernel.Text.Utf8
import NotebookKernel.Toml.Basic
import NotebookKernel.Toml.Quoted
import NotebookKernel.Toml.Reader
import NotebookKernel.Toml.Scalar
import NotebookKernel.Proofs.Kernel.Sequence
import NotebookKernel.Proofs.Service.Ledger
import NotebookKernel.Proofs.Service.Departure
import NotebookKernel.Proofs.Service.Sequential
import NotebookKernel.Proofs.Engine.Taped
import NotebookKernel.Proofs.Session.Calls
import NotebookKernel.Proofs.Session.Diary
import NotebookKernel.Proofs.Session.EnvironmentChain
import NotebookKernel.Proofs.Handle.LifeCycle
import NotebookKernel.Proofs.Mailbox.Stopping
import NotebookKernel.Proofs.Kernel.Calls
import NotebookKernel.Proofs.Session.Release
import NotebookKernel.Proofs.Service.Release
import NotebookKernel.Proofs.Text.Utf8
import NotebookKernel.Proofs.Json.Strings
import NotebookKernel.Proofs.Json.Numbers
import NotebookKernel.Proofs.Json.RoundTrip
import NotebookKernel.Proofs.Repl.Documents
import NotebookKernel.Proofs.Repl.Replies
import NotebookKernel.Proofs.Repl.Requests
import NotebookKernel.Proofs.Outcomes
import NotebookKernel.Proofs.Json.Skipping
import NotebookKernel.Proofs.Json.Records
import NotebookKernel.Proofs.Json.Layouts
import NotebookKernel.Proofs.Kernel.Descriptions
import NotebookKernel.Proofs.Kernel.Envelopes
import NotebookKernel.Proofs.Engine.Forms
import NotebookKernel.Proofs.Engine.Views
import NotebookKernel.Proofs.Json.Printable
import NotebookKernel.Proofs.Service.Lines
import NotebookKernel.Proofs.Kernel.Replies
import NotebookKernel.Proofs.Service.Transcript
import NotebookKernel.Proofs.Service.Noise
import NotebookKernel.Proofs.Kernel.Interference
import NotebookKernel.Proofs.Cell.Scanning
import NotebookKernel.Proofs.Cell.Reading
import NotebookKernel.Proofs.Cell.Completeness
import NotebookKernel.Proofs.Session.Inspection
import NotebookKernel.Proofs.Cell.Run
import NotebookKernel.Proofs.Session.Reached
import NotebookKernel.Proofs.Session.Check
import NotebookKernel.Proofs.Kernel.Executions
import NotebookKernel.Proofs.Session.Start
import NotebookKernel.Proofs.Kernel.Published
import NotebookKernel.Proofs.Cell.Contents
import NotebookKernel.Proofs.Cell.Composition
import NotebookKernel.Proofs.Json.Canonical
import NotebookKernel.Proofs.Json.Reprinting
import NotebookKernel.Proofs.Engine.Reprinted
import NotebookKernel.Proofs.Engine.Unknown
import NotebookKernel.Proofs.Json.Shapes
import NotebookKernel.Proofs.Kernel.Encoding
import NotebookKernel.Proofs.Cell.Span
import NotebookKernel.Proofs.Cell.Completion
import NotebookKernel.Proofs.Engine.Goals
import NotebookKernel.Proofs.Batch
import NotebookKernel.Proofs.Cell.Vocabulary
import NotebookKernel.Proofs.Launch.Bootstrap
import NotebookKernel.Proofs.Mailbox.Waking
