import NotebookKernel.Main
import NotebookKernel.Interrupts
import NotebookKernel.Proofs.Program.Trace
import NotebookKernel.Proofs.Program.Conduct
import NotebookKernel.Proofs.Cell.LineMap
import NotebookKernel.Proofs.Cell.Requests
import NotebookKernel.Proofs.Cell.Stages
import NotebookKernel.Proofs.Cell.Surroundings
import NotebookKernel.Proofs.Cell.Bystanders
import NotebookKernel.Proofs.Cell.Drains
import NotebookKernel.Proofs.Cell.OutputKept
import NotebookKernel.Proofs.Cell.Beside
import NotebookKernel.Proofs.Cell.Printing
import NotebookKernel.Proofs.Dap.Sending
import NotebookKernel.Proofs.Dap.Traffic
import NotebookKernel.Proofs.Dap.Lives
import NotebookKernel.Proofs.Dap.Numbers
import NotebookKernel.Proofs.Dap.Workers
import NotebookKernel.Proofs.Dap.Responses
import NotebookKernel.Proofs.Dap.HangUp
import NotebookKernel.Proofs.Dap.Listening
import NotebookKernel.Proofs.Cell.Submissions
import NotebookKernel.Proofs.Cell.Replies
import NotebookKernel.Proofs.Cell.Diagnostics
import NotebookKernel.Proofs.Cell.QueueReading
import NotebookKernel.Proofs.Cell.Tallies
import NotebookKernel.Proofs.Cell.Attribution
import NotebookKernel.Proofs.Dap.Framing
import NotebookKernel.Proofs.Dap.Handles
import NotebookKernel.Proofs.Dap.Courses
import NotebookKernel.Proofs.Cell.Connected
import NotebookKernel.Proofs.Dap.Arrivals
import NotebookKernel.Proofs.Dap.Hearing
import NotebookKernel.Proofs.Dap.Handshake
import NotebookKernel.Proofs.Dap.Decided
import NotebookKernel.Proofs.Dap.Launches
import NotebookKernel.Proofs.Program.Omission
import NotebookKernel.Proofs.Cell.Asides
import NotebookKernel.Proofs.Cell.Worlds
import NotebookKernel.Proofs.Cell.Settled
import NotebookKernel.Proofs.Json.Fields
import NotebookKernel.Proofs.Serve.Answers
import NotebookKernel.Proofs.Serve.Lines
import NotebookKernel.Proofs.Serve.Sessions
import NotebookKernel.Proofs.Cell.StageLogs
import NotebookKernel.Proofs.Cell.Phases
import NotebookKernel.Proofs.Cell.Forwarding
import NotebookKernel.Proofs.Cell.Order
import NotebookKernel.Proofs.Cell.Publication
import NotebookKernel.Proofs.Cell.Patterns
import NotebookKernel.Proofs.Cell.Unchanged
import NotebookKernel.Proofs.Cell.Treatments
import NotebookKernel.Proofs.Cell.Availability
import NotebookKernel.Proofs.Cell.Starting
import NotebookKernel.Proofs.Target.Interrupting
import NotebookKernel.Proofs.Json.ReadBack
import NotebookKernel.Proofs.Text.Base64
import NotebookKernel.Proofs.Serve.Calls
import NotebookKernel.Proofs.Serve.Outlet
import NotebookKernel.Proofs.Target.Literals
import NotebookKernel.Proofs.Cell.Startup
import NotebookKernel.Proofs.Text.Scalar
import NotebookKernel.Proofs.Dap.Buffers
import NotebookKernel.Proofs.Cell.Upkeep
import NotebookKernel.Proofs.Cell.Residue
import NotebookKernel.Proofs.Dap.Chunks
import NotebookKernel.Proofs.Dap.Alignment
import NotebookKernel.Proofs.Cell.Replacements
import NotebookKernel.Proofs.Target.Crossing
import NotebookKernel.Proofs.Target.Quoting
import NotebookKernel.Proofs.Dap.Signals
import NotebookKernel.Proofs.Dap.Verdicts
import NotebookKernel.Proofs.Dap.Completing
import NotebookKernel.Proofs.Target.Places
import NotebookKernel.Proofs.Dap.Evaluations
import NotebookKernel.Proofs.Dap.Stack
import NotebookKernel.Proofs.Serve.Options
import NotebookKernel.Proofs.Settings.Overlay
import NotebookKernel.Proofs.Settings.TimeLimit
