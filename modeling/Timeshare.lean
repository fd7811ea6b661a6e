import Timeshare.Limits
import Timeshare.Instruction
import Timeshare.Command
import Timeshare.Text.Lines
import Timeshare.Text.Lowercase
import Timeshare.Json.Printer
import Timeshare.Json.Reader
import Timeshare.Json.Form
import Timeshare.Process
import Timeshare.Queues
import Timeshare.Table
import Timeshare.Kernel.Basic
import Timeshare.Kernel.Lifecycle
import Timeshare.Kernel.Step
import Timeshare.Kernel.Operation
import Timeshare.Report.Snapshot
import Timeshare.Report.Text
import Timeshare.Session
import Timeshare.Settings
import Timeshare.Source.Directory
import Timeshare.Builder
import Timeshare.Form.Fault
import Timeshare.Form.Outcome
import Timeshare.Form.Report
import Timeshare.Form.Settings
import Timeshare.Console
import Timeshare.Main
import Timeshare.Proofs.Consistent
import Timeshare.Proofs.Move
import Timeshare.Proofs.Invariant
import Timeshare.Proofs.Settle
import Timeshare.Proofs.Steps
import Timeshare.Exchange
import Timeshare.Proofs.Course
import Timeshare.Proofs.Run
import Timeshare.Proofs.Partition
import Timeshare.Proofs.Isolation
import Timeshare.Proofs.Observed
import Timeshare.Proofs.Quantum
import Timeshare.Proofs.DispatchOrder
import Timeshare.Proofs.Refusals
import Timeshare.Proofs.Faults
import Timeshare.Proofs.Tally
import Timeshare.Proofs.Balance
import Timeshare.Proofs.Work
import Timeshare.Proofs.Conservation
import Timeshare.Proofs.Inversion
import Timeshare.Proofs.Waiting
import Timeshare.Proofs.Idleness
import Timeshare.Proofs.Wakes
import Timeshare.Proofs.Likeness
import Timeshare.Proofs.Noninterference
import Timeshare.Proofs.Submissions
import Timeshare.Proofs.NormalForm
import Timeshare.Proofs.Snapshots
import Timeshare.Proofs.Census
import Timeshare.Proofs.Genealogy
import Timeshare.Proofs.TickFrame
import Timeshare.Proofs.Rotation
import Timeshare.Proofs.RoundRobin
import Timeshare.Proofs.Endings
import Timeshare.Proofs.Numbers
import Timeshare.Proofs.LineBytes
import Timeshare.Proofs.Transcript
import Timeshare.Proofs.Accounting
import Timeshare.Proofs.Programs
import Timeshare.Proofs.Creation
import Timeshare.Proofs.Arrivals
import Timeshare.Proofs.Integers
import Timeshare.Proofs.Words
import Timeshare.Proofs.Numerals
import Timeshare.Proofs.Grammar
import Timeshare.Proofs.Rendering
import Timeshare.Proofs.ProgramText
import Timeshare.Proofs.Levels
import Timeshare.Proofs.JsonText
import Timeshare.Proofs.JsonForms
import Timeshare.Proofs.ReportText
import Timeshare.Proofs.Descent
import Timeshare.Proofs.FileText
import Timeshare.Proofs.Requested
import Timeshare.Proofs.Files
import Timeshare.Proofs.Tickets
import Timeshare.Proofs.Charges
import Timeshare.Proofs.Lettercase
import Timeshare.Proofs.Acceptance
