import Runbook.Config.Builder
import Runbook.Config.File
import Runbook.Files
import Runbook.LogLevel
import Runbook.Plan.Description
import Runbook.Sequence.Rehearsal
import Runbook.Main
import Runbook.Shell.Host
import Runbook.Proofs.Console
import Runbook.Proofs.Sequence.Machine
import Runbook.Proofs.Sequence.Course
import Runbook.Proofs.Sequence.FailFast
import Runbook.Proofs.Sequence.Loop
import Runbook.Proofs.Plan.Window
import Runbook.Proofs.Result
import Runbook.Proofs.Sequence.Calls
import Runbook.Proofs.Sequence.FullConsole
import Runbook.Proofs.Shell.Executor
import Runbook.Proofs.Sequence.Order
import Runbook.Proofs.Sequence.OutOfTurn
import Runbook.Proofs.Plan.Limit
import Runbook.Proofs.Program
import Runbook.Proofs.Rendering
import Runbook.Proofs.Config.Fault
import Runbook.Proofs.Plan.Placeholder
import Runbook.Proofs.Plan.Precedence
import Runbook.Proofs.Plan.Visible
import Runbook.Proofs.Excerpt
import Runbook.Proofs.Plan.Refusal
import Runbook.Proofs.Limits
import Runbook.Proofs.Duration.Accepted
import Runbook.Proofs.Text.LineEnds
import Runbook.Proofs.Excerpt.Printed
import Runbook.Proofs.Highlight
import Runbook.Proofs.Duration.Described
import Runbook.Proofs.Note
import Runbook.Proofs.Plan.Occurrence
import Runbook.Proofs.Plan.Settled
import Runbook.Proofs.Text.Ends
import Runbook.Proofs.Excerpt.Ends
import Runbook.Proofs.Sequence.Aborted
import Runbook.Proofs.Excerpt.Idempotent
import Runbook.Proofs.Plan.Description
import Runbook.Proofs.Arguments.Spelling
import Runbook.Proofs.Config.Table
import Runbook.Proofs.Sequence.Rehearsal
