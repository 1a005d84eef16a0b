import FieldKernel.Proofs.Lowering.Hintless
import FieldKernel.Execution.Run

/-!
# Running code without its hints

A run looks at no hint.  Kernels that differ in hints alone run in the same way.
-/

namespace FieldKernel

mutual

/-- The labels that an operation and those inside it print. -/
def Op.labels : Op → List HostValue
  | .print _ label => [label]
  | .branch _ onTrue onFalse => Op.blockLabels onTrue ++ Op.blockLabels onFalse
  | .rangeLoop _ _ _ body _ => Op.blockLabels body
  | .elementLoop _ _ body _ => Op.blockLabels body
  | _ => []

/-- The labels that operations print. -/
def Op.blockLabels : List Op → List HostValue
  | [] => []
  | first :: rest => first.labels ++ Op.blockLabels rest

end

/-- A run in which labels are written in another way. -/
def RunContext.writing (context : RunContext) (rendering : Rendering) : RunContext :=
  { context with rendering := rendering }

namespace Execute

variable (context : RunContext) (rendering : Rendering)

theorem eval_writing (run : Run) (depth id : Nat) :
    (context.writing rendering).eval run depth id = context.eval run depth id := by
  induction depth generalizing id with
  | zero => rfl
  | succ depth deeper =>
      have inputs : (context.writing rendering).eval run depth = context.eval run depth :=
        funext deeper
      rw [RunContext.eval, RunContext.eval, inputs]
      rfl

theorem node_writing (run : Run) (id : Nat) :
    node (context.writing rendering) run id = node context run id :=
  eval_writing context rendering run _ id

theorem positions_writing (run : Run) (ids : List Nat) :
    positions (context.writing rendering) run ids = positions context run ids := by
  simp only [positions, node_writing]

mutual

/-- An operation does the same without its hints, if its labels are written in the same way. -/
theorem op_hintless (op : Op)
    (alike : ∀ label ∈ op.labels, rendering.plain label = context.rendering.plain label) :
    Execute.op (context.writing rendering) op.hintless = Execute.op context op := by
  cases op with
  | alloca | assign | load | store =>
      simp only [Op.hintless, Execute.op, node_writing, positions_writing]
      try rfl
  | print value label =>
      have written : (context.writing rendering).rendering.plain label =
          context.rendering.plain label := alike label (List.mem_singleton_self label)
      simp only [Op.hintless, Execute.op, node_writing, RunContext.printed, written]
  | branch condition onTrue onFalse =>
      have true := ops_hintless onTrue fun label member =>
        alike label (List.mem_append_left _ member)
      have false := ops_hintless onFalse fun label member =>
        alike label (List.mem_append_right _ member)
      simp only [Op.hintless, Execute.op, node_writing, true, false]
  | rangeLoop var first last body schedule =>
      have inside := ops_hintless body alike
      simp only [Op.hintless, Execute.op, node_writing, inside]
  | elementLoop vars leaf body schedule =>
      have inside := ops_hintless body alike
      simp only [Op.hintless, Execute.op, inside]

/-- Operations do the same without their hints. -/
theorem ops_hintless (body : List Op)
    (alike : ∀ label ∈ Op.blockLabels body,
      rendering.plain label = context.rendering.plain label) :
    ops (context.writing rendering) (Op.blockHintless body) = ops context body := by
  cases body with
  | nil => rfl
  | cons first rest =>
      have head := op_hintless first fun label member =>
        alike label (List.mem_append_left _ member)
      have tail := ops_hintless rest fun label member =>
        alike label (List.mem_append_right _ member)
      rw [Op.blockHintless, ops, ops, head, tail]

end

end Execute

namespace KernelIR

variable {one other : KernelIR} {objects objects' : Objects} {storage : Storage}
  {args : List HostValue}

/-- Arguments come to the same for a kernel, and its labels are written in the same way. -/
structure SeesAlike (ir : KernelIR) (args : List HostValue) (objects objects' : Objects) :
    Prop where
  args : (ir.convertArgs args).run objects' = (ir.convertArgs args).run objects
  labels : ∀ label ∈ Op.blockLabels ir.body,
    objects'.rendering.plain label = objects.rendering.plain label

theorem SeesAlike.refl (ir : KernelIR) (args : List HostValue) (objects : Objects) :
    ir.SeesAlike args objects objects :=
  ⟨rfl, fun _ _ => rfl⟩

theorem SeesAlike.checkCall (sees : one.SeesAlike args objects objects') (storage : Storage) :
    (one.checkCall storage args).run objects' = (one.checkCall storage args).run objects := by
  simp only [KernelIR.checkCall]
  split
  · rfl
  · split
    · exact sees.args
    · rfl

end KernelIR

end FieldKernel
