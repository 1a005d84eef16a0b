import FieldKernel.Execution.Run
import FieldKernel.Proofs.Lowering.Code
import FieldKernel.Proofs.Triples

/-!
# Values of nodes

Every operation starts with an empty memo, and a node that several others
refer to is computed once.  Since computing changes nothing but the memo, it
gives what computing every node anew wherever it is used would give, the error
included.
-/

namespace FieldKernel

namespace RunContext

/-- What a node computes from the values of the nodes that it refers to. -/
def computed (context : RunContext) (run : Run) (input : Nat → Except Error Box)
    (node : IRNode) : Except Error Box :=
  match node.op with
  | .const value => do return .ofScalar (← value.convert node.type)
  | .var id => variableValue run id
  | .argument position => context.argument position
  | .binary op left right => do
    let left ← input left
    let right ← input right
    applied (Box.binary? op left right)
  | .unary op operand => do
    applied (Box.unary? op (← input operand))
  | .cast operand => do
    (← input operand).convert node.type
  | .load leaf indices => do
    let index ← indices.mapM fun index => do (← input index).index
    return .ofScalar (← run.storage.read leaf index)

/-- The value of a node that refers to earlier ones, computed without a memo. -/
def valueOf (context : RunContext) (run : Run) (id : Nat) : Except Error Box :=
  match context.nodes[id]? with
  | none => .error (.host (.position "tuple"))
  | some node =>
    context.computed run
      (fun input =>
        if input < id then valueOf context run input else .error (.host .recursion))
      node
termination_by id

/-- The nodes of a table refer to earlier ones only. -/
def Ordered (context : RunContext) : Prop :=
  ∀ (id : Nat) (node : IRNode), context.nodes[id]? = some node → ∀ input ∈ node.op.inputs, input < id

end RunContext

namespace Execute

theorem ofExcept_ok {α : Type} (result : α) :
    ofExcept (.ok result : Except Error α) = pure result :=
  rfl

theorem ofExcept_bind {α β : Type} (outcome : Except Error α) (next : α → Except Error β) :
    ofExcept (outcome >>= next) = ofExcept outcome >>= fun value => ofExcept (next value) := by
  cases outcome <;> rfl

end Execute

namespace Evaluate

/-- A computation that starts with a memo of a kind has an outcome of its own,
and leaves a memo of the kind behind. -/
def Agrees {α : Type} (kind : Memo → Prop) (attempt : Evaluate α) (outcome : Except Error α) :
    Prop :=
  ∀ memo, kind memo →
    match outcome with
    | .ok result => ∃ later, attempt.run memo = .ok (result, later) ∧ kind later
    | .error error => attempt.run memo = .error error

section Structure

variable {α β : Type} {kind : Memo → Prop}

theorem Agrees.pure (result : α) : Agrees kind (pure result) (.ok result) := by
  intro memo right
  exact ⟨memo, rfl, right⟩

theorem Agrees.lift (outcome : Except Error α) : Agrees kind (liftM outcome) outcome := by
  intro memo right
  cases outcome with
  | ok result => exact ⟨memo, rfl, right⟩
  | error error => rfl

theorem Agrees.bind {attempt : Evaluate α} {next : α → Evaluate β} {outcome : Except Error α}
    {nextOutcome : α → Except Error β} (first : Agrees kind attempt outcome)
    (second : ∀ value, outcome = .ok value → Agrees kind (next value) (nextOutcome value)) :
    Agrees kind (attempt >>= next) (outcome >>= nextOutcome) := by
  intro memo right
  have firstRun := first memo right
  cases outcome with
  | error error =>
      simp only [StateT.run_bind]
      rw [firstRun]
      rfl
  | ok value =>
      obtain ⟨later, equality, right⟩ := firstRun
      have secondRun := second value rfl later right
      simp only [StateT.run_bind]
      rw [equality]
      exact secondRun

theorem Agrees.mapM {attempt : α → Evaluate β} {outcome : α → Except Error β} (items : List α)
    (each : ∀ item ∈ items, Agrees kind (attempt item) (outcome item)) :
    Agrees kind (items.mapM attempt) (items.mapM outcome) := by
  induction items with
  | nil => exact .pure []
  | cons first rest hypothesis =>
      rw [List.mapM_cons, List.mapM_cons]
      refine (each first (by simp)).bind fun value _ => ?_
      refine (hypothesis fun item member => each item (by simp [member])).bind fun values _ => ?_
      exact .pure _

/-- The outcome of a computation that starts with nothing computed. -/
theorem Agrees.evaluate {attempt : Evaluate α} {outcome : Except Error α}
    (agrees : Agrees kind attempt outcome) (start : kind ∅) :
    Execute.evaluate attempt = Execute.ofExcept outcome := by
  have run := agrees ∅ start
  cases outcome with
  | ok result =>
      obtain ⟨later, equality, _⟩ := run
      have equality : attempt ∅ = .ok (result, later) := equality
      simp [Execute.evaluate, StateT.run', equality]
  | error error =>
      have equality : attempt ∅ = .error error := run
      simp [Execute.evaluate, StateT.run', equality]

end Structure

end Evaluate

namespace RunContext

variable {context : RunContext} {run : Run}

/-- A memo holds values of nodes only. -/
def Remembers (context : RunContext) (run : Run) (memo : Memo) : Prop :=
  ∀ (id : Nat) (value : Box), memo[id]? = some value → context.valueOf run id = .ok value

theorem remembers_empty : context.Remembers run ∅ := by
  intro id value found
  simp at found

/-- Nodes that are computed alike are used alike. -/
theorem compute_agrees (context : RunContext) (run : Run) {kind : Memo → Prop} {attempt : Nat → Evaluate Box}
    {outcome : Nat → Except Error Box} (node : IRNode)
    (inputs : ∀ input ∈ node.op.inputs, Evaluate.Agrees kind (attempt input) (outcome input)) :
    Evaluate.Agrees kind (context.compute run attempt node)
      (context.computed run outcome node) := by
  obtain ⟨id, op, type⟩ := node
  cases op with
  | const value =>
      exact (Evaluate.Agrees.lift _).bind fun scalar _ => .pure _
  | var var => exact .lift _
  | argument position => exact .lift _
  | binary op left right =>
      refine (inputs left (by simp [NodeOp.inputs])).bind fun leftValue _ => ?_
      refine (inputs right (by simp [NodeOp.inputs])).bind fun rightValue _ => ?_
      exact .lift _
  | unary op operand =>
      refine (inputs operand (by simp [NodeOp.inputs])).bind fun value _ => ?_
      exact .lift _
  | cast operand =>
      refine (inputs operand (by simp [NodeOp.inputs])).bind fun value _ => ?_
      exact .lift _
  | load leaf indices =>
      have positions : Evaluate.Agrees kind
          (indices.mapM fun index => do (← attempt index).index)
          (indices.mapM fun index => do (← outcome index).index) := by
        refine .mapM indices fun index member => ?_
        exact (inputs index member).bind fun value _ => .lift _
      refine positions.bind fun index _ => ?_
      exact (Evaluate.Agrees.lift _).bind fun scalar _ => .pure _

/-- What a node computes depends on the nodes that it refers to. -/
theorem computed_congr {one other : Nat → Except Error Box} (node : IRNode)
    (inputs : ∀ input ∈ node.op.inputs, one input = other input) :
    context.computed run one node = context.computed run other node := by
  obtain ⟨id, op, type⟩ := node
  cases op with
  | const | var | argument => rfl
  | binary op left right =>
      simp only [computed, inputs left (by simp [NodeOp.inputs]),
        inputs right (by simp [NodeOp.inputs])]
  | unary op operand => simp only [computed, inputs operand (by simp [NodeOp.inputs])]
  | cast operand => simp only [computed, inputs operand (by simp [NodeOp.inputs])]
  | load leaf indices =>
      have positions :
          (indices.mapM (fun index => do (← one index).index) : Except Error (List Int)) =
            indices.mapM (fun index => do (← other index).index) :=
        mapM_eq_of_forall indices fun index member => by rw [inputs index member]
      simp only [computed, positions]

/-- In an ordered table a node has the value that is computed from those of the
nodes that it refers to. -/
theorem valueOf_eq (ordered : context.Ordered) {id : Nat} {node : IRNode}
    (found : context.nodes[id]? = some node) (run : Run) :
    context.valueOf run id = context.computed run (context.valueOf run) node := by
  rw [valueOf, found]
  exact computed_congr node fun input member => if_pos (ordered id node found input member)

/-- The value of a node can be kept for the nodes to come. -/
theorem remember_agrees {id : Nat} {attempt : Evaluate Box}
    (agrees : Evaluate.Agrees (context.Remembers run) attempt (context.valueOf run id)) :
    Evaluate.Agrees (context.Remembers run)
      (do
        let value ← attempt
        modify (·.insert id value)
        return value)
      (context.valueOf run id) := by
  rw [← bind_pure (context.valueOf run id)]
  refine agrees.bind fun value computed => ?_
  intro memo right
  refine ⟨memo.insert id value, rfl, ?_⟩
  intro other otherValue known
  simp only [Std.TreeMap.getElem?_insert, compare_eq_iff_eq] at known
  split at known
  · next same =>
    cases known
    rw [← same, computed]
  · exact right other otherValue known

/-- The value of a node with a memo is that without one. -/
theorem eval_agrees (ordered : context.Ordered) (depth id : Nat) (below : id < depth) :
    Evaluate.Agrees (context.Remembers run) (context.eval run depth id)
      (context.valueOf run id) := by
  induction depth generalizing id with
  | zero => exact absurd below (Nat.not_lt_zero id)
  | succ depth hypothesis =>
      intro memo right
      rw [eval]
      simp only [StateT.run_bind, StateT.run_get, pure_bind]
      cases remembered : memo[id]? with
      | some value =>
          rw [right id value remembered]
          exact ⟨memo, rfl, right⟩
      | none =>
          cases found : context.nodes[id]? with
          | none =>
              rw [valueOf, found]
              rfl
          | some node =>
              have inputs : ∀ input ∈ node.op.inputs,
                  Evaluate.Agrees (context.Remembers run) (context.eval run depth input)
                    (context.valueOf run input) := by
                intro input member
                have before := ordered id node found input member
                exact hypothesis input (by omega)
              have agrees := compute_agrees context run node inputs
              rw [← valueOf_eq ordered found run] at agrees
              exact remember_agrees agrees memo right

end RunContext

/-- A run has the node table of some code, which refers to earlier nodes only. -/
structure Code.LoadedIn (code : Code) (context : RunContext) : Prop where
  nodes : context.nodes = code.nodes
  ordered : context.Ordered

namespace Code.LoadedIn

variable {code : Code} {context : RunContext}

theorem valueOf_eq (loaded : code.LoadedIn context) {id : Nat} {node : IRNode}
    (found : code.nodes[id]? = some node) (run : Run) :
    context.valueOf run id = context.computed run (context.valueOf run) node :=
  RunContext.valueOf_eq loaded.ordered (by rw [loaded.nodes]; exact found) run

/-- An operation gets the value of a node in the table. -/
theorem agrees (loaded : code.LoadedIn context) {id : Nat} (inside : id < code.nodes.size)
    (run : Run) :
    Evaluate.Agrees (context.Remembers run) (Execute.node context run id)
      (context.valueOf run id) := by
  rw [← loaded.nodes] at inside
  exact RunContext.eval_agrees loaded.ordered context.nodes.size id inside

/-- The positions that nodes in the table compute are computed from their
values. -/
theorem positions_agree (loaded : code.LoadedIn context) {ids : List Nat}
    (inside : ∀ id ∈ ids, id < code.nodes.size) (run : Run) :
    Evaluate.Agrees (context.Remembers run) (Execute.positions context run ids)
      (ids.mapM fun id => do (← context.valueOf run id).index) :=
  .mapM ids fun id member =>
    (loaded.agrees (inside id member) run).bind fun value _ => .lift value.index

end Code.LoadedIn

end FieldKernel
