import FieldKernel.Proofs.Execution.Calls
import FieldKernel.Proofs.Lowering.Closure
import FieldKernel.Proofs.Lowering.Outlines
import FieldKernel.Proofs.Lowering.Sharing

/-!
# Lowered kernels are closed

Nothing in a lowered kernel refers to something it does not have.  Its nodes
refer to earlier ones, so that evaluating a node comes to an end, whatever else
a run brings along.  Its operations stand where the statements of its body
stood.
-/

namespace FieldKernel

namespace RunContext

/-- Evaluating a node comes to an end: from some depth on, going deeper changes nothing, and
the value is what the node computes from the values of its inputs, with no bound on the
depth. -/
structure Terminates (context : RunContext) (run : Run) (id : Nat) (node : IRNode) : Prop where
  unbounded : context.valueOf run id = context.computed run (context.valueOf run) node
  deep (depth : Nat) (below : id < depth) :
    Evaluate.Agrees (context.Remembers run) (context.eval run depth id) (context.valueOf run id)

theorem Ordered.terminates {context : RunContext} (ordered : context.Ordered) {id : Nat}
    {node : IRNode} (found : context.nodes[id]? = some node) (run : Run) :
    context.Terminates run id node :=
  ⟨valueOf_eq ordered found run, fun depth => eval_agrees ordered depth id⟩

end RunContext

namespace NodeTable

/-- Casts lead from nodes in the table to nodes in the table. -/
theorem Casts.lt {table : NodeTable} {source result : Nat} (casts : table.Casts source result)
    (inside : source < table.nodes.size) : result < table.nodes.size := by
  cases casts with
  | same => exact inside
  | cast _ found => exact (Array.getElem?_eq_some_iff.mp found).1

end NodeTable

/-- The nodes that are taken are in the table. -/
theorem Lowering.Takes.lt {argTypes : List DataType} {occurs : Expr → Prop} {taken : List Expr}
    {extra : Nat} {before after : Lowering} {ids : List Nat}
    (takes : Takes argTypes occurs taken extra before after ids) :
    ∀ id ∈ ids, id < after.nodes.size := by
  intro id member
  obtain ⟨place, inside, rfl⟩ := List.getElem_of_mem member
  have known := takes.known _ (List.getElem_mem (takes.serves.length_eq ▸ inside))
  obtain ⟨node, kept, casts⟩ := takes.serves.get (takes.serves.length_eq ▸ inside) inside
  exact casts.lt (takes.shared.joins known kept).lt

namespace KernelIR

/-- Nothing is missing in a lowered kernel, nothing in it goes round in circles, and its
operations stand where the statements of its body stood. -/
structure Closed (ir : KernelIR) (body : List Stmt) : Prop where
  numbered {position : Nat} {node : IRNode} (found : ir.nodes[position]? = some node) :
    node.id = position
  earlier {position : Nat} {node : IRNode} (found : ir.nodes[position]? = some node) :
    ∀ input ∈ node.op.inputs, input < position
  /-- Whatever the storage, the arguments and the variables of a run are. -/
  terminates {context : RunContext} (loaded : context.nodes = ir.nodes) (run : Run) {id : Nat}
    {node : IRNode} (found : ir.nodes[id]? = some node) : context.Terminates run id node
  taken : ∀ id ∈ Op.blockTaken ir.body, id < ir.nodes.size
  opVars : ∀ var ∈ Op.blockVars ir.body, (ir.varTypes.lookup var).isSome
  nodeVars {node : IRNode} (member : node ∈ ir.nodes) :
    ∀ var ∈ node.op.vars, (ir.varTypes.lookup var).isSome
  leaves (leaf : Nat) : leaf ∈ ir.leaves ↔
    leaf ∈ Op.blockLeaves ir.body ∨ ∃ node ∈ ir.nodes, leaf ∈ node.op.leaves
  outlines : Op.outlines ir.body = Stmt.outlines body

variable {name : String} {target : ArchSetting} {context : LoweringContext} {body : List Stmt}
  {slots : TypeSlots} {ir : KernelIR}

theorem EndsIn.lookup {state : Lowering} (ends : ir.EndsIn state) {var : Nat}
    (known : var ∈ state.varTypes) : (ir.varTypes.lookup var).isSome := by
  rw [ends.varTypes, lookup_toList]
  exact Std.TreeMap.mem_iff_isSome_getElem?.mp known

/-- A body that lowering accepts becomes a closed kernel. -/
theorem closed_of_ofBody (recorded : Stmt.Recorded body)
    (success : (ofBody name target context body slots).1 = .ok ir) : ir.Closed body := by
  obtain ⟨state, lowered, ends, _⟩ := exists_run success
  have closes := Lower.block_closes body recorded.counted (Lowering.closed_start slots) lowered
  obtain ⟨lowers, _, _⟩ := lowers_of_ofBody recorded.occurring success
  have takes :=
    Lower.block_takes recorded.occurring body (fun root member => .root member)
      (Lowering.start_shared context.argTypes _ slots) lowered
  refine ⟨?_, lowers.ordered, ?_, ?_, ?_, ?_, ?_, ?_⟩
  · intro position node found
    exact closes.closed.numbered (ends.nodes ▸ found)
  · intro context loaded run id node found
    have ordered : context.Ordered := by
      intro id node found
      exact lowers.ordered (loaded ▸ found)
    exact ordered.terminates (loaded ▸ found) run
  · rw [ends.nodes]
    exact takes.lt
  · exact fun var member => ends.lookup (closes.declared var member)
  · rw [ends.nodes]
    exact fun member var refers => ends.lookup (closes.closed.declared member var refers)
  · intro leaf
    rw [ends.leaves, ends.nodes, closes.closed.leaves, List.append_nil]
  · exact lowers.performs.outlines_eq recorded.counted

end KernelIR

namespace Summation

/-- The kernel that adds up the numbers below its argument touches one leaf and has two
variables. -/
theorem closed_sum :
    Stmt.Recorded body ∧
      ∃ ir, (KernelIR.ofBody "sum" (.member .x86) context body .empty).1 = .ok ir ∧
        ir.leaves = [1] ∧ ir.varTypes = [(1, .i32), (2, .i32)] ∧ ir.Closed body := by
  have touches : (KernelIR.ofBody "sum" (.member .x86) context body .empty).1.toOption.any
      (fun ir => ir.leaves = [1] ∧ ir.varTypes = [(1, .i32), (2, .i32)]) = true := by
    decide +kernel
  obtain ⟨ir, lowered, touched⟩ := exists_ok_of_any touches
  obtain ⟨leaves, varTypes⟩ := of_decide_eq_true touched
  exact ⟨recorded, ir, lowered, leaves, varTypes, KernelIR.closed_of_ofBody recorded lowered⟩

end Summation

end FieldKernel
