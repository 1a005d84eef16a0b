import FieldKernel.Expr.HostOperator
import FieldKernel.Proofs.Execution.Atomicity
import FieldKernel.Proofs.Execution.Foreign
import FieldKernel.Proofs.Execution.Preservation
import FieldKernel.Proofs.Recording.Coherence
import FieldKernel.Proofs.Recording.Replay
import FieldKernel.Proofs.Recording.Scopes
import FieldKernel.Proofs.Session.CurrentPrograms
import FieldKernel.Proofs.Session.Definitions
import FieldKernel.Proofs.Session.Independence
import FieldKernel.Proofs.Session.Lifecycle
import FieldKernel.Session.Kernel
import FieldKernel.Proofs.Execution.Frame
import FieldKernel.Proofs.Layout.Growth
import FieldKernel.Proofs.Layout.Routes
import FieldKernel.Proofs.Session.Declaring
import FieldKernel.Proofs.Session.Escapes
import FieldKernel.Proofs.Execution.Loops
import FieldKernel.Proofs.Session.Courses
import FieldKernel.Proofs.Session.Endings
import FieldKernel.Proofs.Session.Finality
import FieldKernel.Proofs.Session.Cells
import FieldKernel.Proofs.Recording.Failures
import FieldKernel.Proofs.Recording.Targets
import FieldKernel.Proofs.Session.Changes
import FieldKernel.Proofs.Session.Hints
import FieldKernel.Proofs.Lowering.Schedules
import FieldKernel.Proofs.Recording.Resets
import FieldKernel.Proofs.Recording.Trees
import FieldKernel.Proofs.Session.Rehinting
import FieldKernel.Proofs.Lowering.Repeats
import FieldKernel.Proofs.Session.Guards
import FieldKernel.Proofs.Session.Sealing
import FieldKernel.Proofs.Execution.Arguments
import FieldKernel.Proofs.Lowering.Sharing
import FieldKernel.Proofs.Lowering.Outlines
import FieldKernel.Proofs.Execution.Closure
import FieldKernel.Proofs.Execution.Division
import FieldKernel.Proofs.Session.Naming
