import FieldKernel.Proofs.Execution.Hintless
import FieldKernel.Proofs.Session.Compiling

/-!
# Kernels with other hints

Kernels that differ in the hints of their loops alone are lowered alike and run alike.
Hints show where recorded code is written down, which is so in some errors, and when code
is to be listed.  If a number there has too many digits, this is the error that lowering
ends with.
-/

namespace FieldKernel

/-- A question is answered in the same way if the one that it begins with is. -/
theorem Ask.bind_congr {α β : Type} {question : Ask α} {next : α → Ask β} {one other : Objects}
    (first : question other = question one)
    (later : ∀ answer, next answer other = next answer one) :
    (question >>= next) other = (question >>= next) one := by
  change (question other >>= fun answer => next answer other) =
    question one >>= fun answer => next answer one
  rw [first]
  cases question one with
  | error error => rfl
  | ok answer => exact later answer

namespace Objects.Matches

variable {one other : Objects} (alike : one.Matches other)

include alike

theorem members? (value : HostValue) : Ask.members? value other = Ask.members? value one := by
  cases value with
  | group id =>
      exact congrArg (fun groups : Array (List Expr) =>
        Except.ok (some ((groups[id]?.getD []).map HostValue.expr))) alike.groups
  | block id =>
      exact congrArg (fun blocks : Array Block =>
        Except.ok (some ((blocks[id]?.getD ⟨none, "", []⟩).statements.map HostValue.statement)))
        alike.recording.blocks
  | _ => rfl

theorem truth (value : HostValue) : Ask.truth value other = Ask.truth value one := by
  cases value with
  | expr value => rfl
  | _ =>
      rw [Ask.truth]
      · refine Ask.bind_congr (alike.members? _) fun items? => ?_
        cases items? with
        | none => rfl
        | some items => rfl
      · intro expr equal
        cases equal

end Objects.Matches

namespace Action

end Action

namespace Session

/-- Two kernels that differ in the hints of their loops alone, at whatever depth, in
sessions where nothing else is different that lowering looks up. -/
structure Rehinted (session : Session) (kernel : Nat) (other : Session) (twin : Nat) : Prop where
  body : Stmt.blockHintless (other.body twin) = Stmt.blockHintless (session.body kernel)
  name : (other.kernel twin).name = (session.kernel kernel).name
  argTypes : (other.kernel twin).argTypes = (session.kernel kernel).argTypes
  config : other.config twin = session.config kernel
  objects : session.toObjects.Matches other.toObjects
  locations : other.locations = session.locations
  slots : other.slots = session.slots

/-- A hint that is given to a loop is all that changes. -/
theorem rehinted_setHint (session : Session) (kernel loop : Nat) (kind : HintKind)
    (value : HintValue) :
    session.Rehinted kernel
      { session with recording := session.recording.setHint loop kind value } kernel := by
  have alike := Recording.matches_setHint session.recording loop kind value
  exact ⟨alike.body _, rfl, rfl, rfl, ⟨alike, rfl, rfl⟩, rfl, rfl⟩

variable {session other : Session} {kernel twin : Nat}

namespace Rehinted

variable (rehinted : session.Rehinted kernel other twin)

include rehinted

end Rehinted

end Session

namespace Hinted

/-- A kernel with a loop from zero to a bound, in a program that lists its code or does not. -/
def define (lists : Bool) (bound : Expr) : Action Nat := do
  let program ← Action.newProgram
    (some { CompileConfig.initial with printIR := .literal 0 (.bool lists) })
  HostT.define program "loop" [] fun _ => do
    let loop ← Action.newRange (.expr (.identifier ⟨0, ⟨0, none⟩⟩))
      (.expr (.literal 1 (.int 0) .i32)) (.expr bound)
    Action.record ((← get).program program).builder (Record.insert (.statement loop))

def session (lists : Bool) (bound : Expr) : Session :=
  ((define lists bound).run.run .start).2

/-- The session in which the loop has a hint. -/
def hinted (lists : Bool) (bound : Expr) (hint : Nat) : Session :=
  let session := session lists bound
  { session with
    recording := session.recording.setHint 0 .parallelize (.host (.int 0 hint)) }

theorem rehinted (lists : Bool) (bound : Expr) (hint : Nat) :
    (session lists bound).Rehinted 0 (hinted lists bound hint) 0 :=
  (session lists bound).rehinted_setHint 0 0 .parallelize (.host (.int 0 hint))

end Hinted

end FieldKernel
