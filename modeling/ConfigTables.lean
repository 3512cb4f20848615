import ConfigTables.Column.Basic
import ConfigTables.Column.Header
import ConfigTables.Column.Name
import ConfigTables.Column.ScopeFlags
import ConfigTables.Column.TypeExpression
import ConfigTables.CommandLine.Arguments
import ConfigTables.CommandLine.Clock
import ConfigTables.CommandLine.Console
import ConfigTables.CommandLine.Execution
import ConfigTables.CommandLine.Invocation
import ConfigTables.Datum.Basic
import ConfigTables.Datum.Display
import ConfigTables.Datum.Json
import ConfigTables.Digest.Sha256
import ConfigTables.Fault
import ConfigTables.File.Artifact
import ConfigTables.File.Disk
import ConfigTables.File.Path
import ConfigTables.File.Payload
import ConfigTables.File.Tree
import ConfigTables.Main
import ConfigTables.Proofs.Column.FirstFailure
import ConfigTables.Proofs.Column.Grammar
import ConfigTables.Proofs.Column.Header
import ConfigTables.Proofs.Column.Order
import ConfigTables.Proofs.Column.Outputs
import ConfigTables.Proofs.Column.Schema
import ConfigTables.Proofs.Column.TypeExpression
import ConfigTables.Proofs.CommandLine.Clock
import ConfigTables.Proofs.CommandLine.FailureLines
import ConfigTables.Proofs.CommandLine.Flags
import ConfigTables.Proofs.CommandLine.Frame
import ConfigTables.Proofs.CommandLine.Records
import ConfigTables.Proofs.Datum.Json
import ConfigTables.Proofs.Datum.Ordering
import ConfigTables.Proofs.Datum.Reader
import ConfigTables.Proofs.Datum.RoundTrip
import ConfigTables.Proofs.File.Acceptance
import ConfigTables.Proofs.File.AllOrNothing
import ConfigTables.Proofs.File.Artifact
import ConfigTables.Proofs.File.Making
import ConfigTables.Proofs.File.Path
import ConfigTables.Proofs.File.Payload
import ConfigTables.Proofs.File.Rewriting
import ConfigTables.Proofs.File.Tree
import ConfigTables.Proofs.File.Variation
import ConfigTables.Proofs.Programs
import ConfigTables.Proofs.Report.Books
import ConfigTables.Proofs.Run.Admission
import ConfigTables.Proofs.Run.Agreement
import ConfigTables.Proofs.Run.Completion
import ConfigTables.Proofs.Run.Exporting
import ConfigTables.Proofs.Run.Findings
import ConfigTables.Proofs.Run.Isolation
import ConfigTables.Proofs.Run.Lossless
import ConfigTables.Proofs.Run.Progress
import ConfigTables.Proofs.Run.Repetition
import ConfigTables.Proofs.Run.Validation
import ConfigTables.Proofs.Run.Writing
import ConfigTables.Proofs.Sheet.Accounting
import ConfigTables.Proofs.Sheet.Annotations
import ConfigTables.Proofs.Sheet.Classification
import ConfigTables.Proofs.Sheet.Convention
import ConfigTables.Proofs.Sheet.Conversion
import ConfigTables.Proofs.Sheet.Document
import ConfigTables.Proofs.Sheet.Entry
import ConfigTables.Proofs.Sheet.Padding
import ConfigTables.Proofs.Sheet.Reading
import ConfigTables.Proofs.Sheet.Reordering
import ConfigTables.Proofs.Sheet.Rows
import ConfigTables.Proofs.Sheet.Secrecy
import ConfigTables.Proofs.Text.Split
import ConfigTables.Proofs.Text.Trimming
import ConfigTables.Proofs.Value.Elements
import ConfigTables.Proofs.Value.Integer
import ConfigTables.Proofs.Workbook.Listing
import ConfigTables.Report.Basic
import ConfigTables.Report.Entry
import ConfigTables.Report.Field
import ConfigTables.Report.Manifest
import ConfigTables.Report.NameTable
import ConfigTables.Run.Batch
import ConfigTables.Run.Digests
import ConfigTables.Run.Export
import ConfigTables.Run.Fault
import ConfigTables.Sheet.Classification
import ConfigTables.Sheet.Conversion
import ConfigTables.Sheet.Document
import ConfigTables.Sheet.Markers
import ConfigTables.Sheet.Rows
import ConfigTables.Text.Blank
import ConfigTables.Text.Digit
import ConfigTables.Text.LowerCase
import ConfigTables.Text.LowerCase.Table
import ConfigTables.Text.Loose
import ConfigTables.CommandLine.TagMarkup
import ConfigTables.Text.Printable
import ConfigTables.Text.Quoted
import ConfigTables.Text.Ranges
import ConfigTables.Text.Split
import ConfigTables.Value.Conversion
import ConfigTables.Value.Delimiter
import ConfigTables.Value.Integer
import ConfigTables.Workbook.Basic
