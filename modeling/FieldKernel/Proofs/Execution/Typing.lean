import FieldKernel.Proofs.Execution.Steps
import FieldKernel.Proofs.Execution.Variables
import FieldKernel.Proofs.Lowering.Operations
import FieldKernel.Proofs.Storage.Types

/-!
# Types in a run

A run keeps the types that lowering gives to nodes and variables: a node
evaluates to a value of its type, whatever values are remembered, and a
variable is set to values of one type.  What keeps them is shown for what an
operation computes first, and from that for the operations that perform a body.
-/

namespace FieldKernel

namespace Evaluate

variable {α : Type} {kind : α → Prop} {kept : Memo → Prop}

/-- From a memo of a kind a computation delivers a result of a kind, and leaves
a memo of its kind behind. -/
def Yields {α : Type} (kept : Memo → Prop) (kind : α → Prop) (attempt : Evaluate α) : Prop :=
  ∀ memo, kept memo →
    Delivers (fun (outcome : α × Memo) => kind outcome.1 ∧ kept outcome.2) (attempt.run memo)

theorem describes (kept : Memo → Prop) : Describes Evaluate (Yields kept) where
  pure holds memo now := .ok ⟨holds, now⟩
  bind first second memo now := by
    rw [StateT.run_bind]
    exact (first memo now).bind fun outcome holds => second outcome.1 holds.1 outcome.2 holds.2

theorem Yields.lift {outcome : Except Error α} (delivers : Delivers kind outcome) :
    Yields kept kind (liftM outcome) := by
  intro memo now
  cases outcome with
  | error error => exact .error (delivers.fitsAxes rfl)
  | ok result => exact .ok ⟨delivers.result rfl, now⟩

/-- An operation begins with nothing remembered. -/
theorem Yields.start {attempt : Evaluate α} (yields : Yields kept kind attempt)
    (begins : kept ∅) : Delivers kind (attempt.run' ∅) := by
  have delivers := yields ∅ begins
  have same : attempt.run' ∅ = Prod.fst <$> attempt.run ∅ := rfl
  rw [same]
  exact Delivers.describes.map delivers fun _ holds => holds.1

end Evaluate

/-- A position has a number for each axis of a leaf, and a value the type of the
leaf. -/
structure Node.Admits (leaf : Node) (position : List Int) (value : Box) : Prop where
  arity : position.length = leaf.lineage.axes.length
  ofLeaf : value.HasType leaf.type

/-- What is remembered of a node has the type of the node. -/
def RunContext.TypedMemo (context : RunContext) (memo : Memo) : Prop :=
  ∀ (id : Nat) (value : Box), memo[id]? = some value →
    ∀ node, context.nodes[id]? = some node → value.HasType node.type

theorem RunContext.typedMemo_empty (context : RunContext) : context.TypedMemo ∅ := by
  intro id value found
  simp at found

/-- A state of a run on a storage of a tree, in which every variable that is
set has its type. -/
structure Run.Typed (id : Nat) (tree : Tree) (ofVariable : Nat → DataType) (run : Run) :
    Prop where
  reached : Storage.Reached id tree run.storage
  frame {var : Nat} {value : Box} (isSet : run.frame[var]? = some value) :
    value.HasType (ofVariable var)

/-- What the types in a run follow from: the nodes of the code fit its types,
arguments have the types that they are loaded with, and what the code touches
are leaves of the tree. -/
structure Code.TypedIn (occurs : Expr → Prop) (code : Code) (context : RunContext)
    (tree : Tree) : Prop where
  occurring : Occurring occurs
  nodes : context.nodes = code.nodes
  typed {number : Nat} {node : IRNode} (found : code.nodes[number]? = some node) :
    code.Typed occurs node.op node.type
  argument {key : Nat} {position : Int} {type : DataType} {value : Box}
    (known : occurs (.argument key position type))
    (given : context.argument position = .ok value) : value.HasType type
  proper : tree.Proper
  declared {field : Field} {leaf : Node} (known : occurs (.field field))
    (placed : code.typing.leafOf? field = some leaf) : leaf ∈ tree.declared ∧ leaf.isLeaf
  recorded (var : Nat) :
    context.resetType var = .unknown ∨ context.resetType var = code.typing.ofVariable var

namespace Code

variable {occurs : Expr → Prop} {code : Code} {context : RunContext} {id : Nat} {tree : Tree}
  {run : Run}

section Values

open Evaluate (Yields describes)

variable (typedIn : code.TypedIn occurs context tree)
  (typed : run.Typed id tree code.typing.ofVariable)

include typedIn in
theorem TypedIn.leaf_found (reached : Storage.Reached id tree run.storage) {field : Field}
    {leaf : Node} (known : occurs (.field field))
    (placed : code.typing.leafOf? field = some leaf) :
    run.storage.leaf? leaf.id = some leaf := by
  obtain ⟨member, isLeaf⟩ := typedIn.declared known placed
  exact reached.of.leaf?_eq typedIn.proper member isLeaf

include typed in
theorem variableValue_delivers (var : Nat) :
    Delivers (·.HasType (code.typing.ofVariable var)) (RunContext.variableValue run var) := by
  unfold RunContext.variableValue
  split
  · next found => exact .ok (typed.frame found)
  · exact .error (by simp [Error.FitsAxes])

include typedIn in
theorem TypedIn.argument_delivers {key : Nat} {position : Int} {type : DataType}
    (known : occurs (.argument key position type)) :
    Delivers (·.HasType type) (context.argument position) := by
  refine ⟨typedIn.argument known, fun failed => ?_⟩
  unfold RunContext.argument at failed
  split at failed
  · cases failed
  · cases failed
    simp [Error.FitsAxes]

include typedIn typed

/-- A node computes a value of its type if the nodes that it refers to do. -/
theorem TypedIn.compute_yields {input : Nat → Evaluate Box} {node : IRNode}
    (fits : code.Typed occurs node.op node.type)
    (inputs : ∀ number type, code.Has number type →
      Yields context.TypedMemo (·.HasType type) (input number)) :
    Yields context.TypedMemo (·.HasType node.type) (context.compute run input node) := by
  have rules := describes context.TypedMemo
  obtain ⟨number, op, type⟩ := node
  cases fits with
  | @const value =>
      exact rules.bind (.lift (value.convert_delivers type)) fun scalar ofScalar =>
        rules.pure (Box.ofScalar_hasType ofScalar)
  | @var var _ settled _ =>
      subst settled
      exact .lift (variableValue_delivers typed var)
  | argument known => exact .lift (typedIn.argument_delivers known)
  | @binary op left right type ofLeft ofRight =>
      refine rules.bind (inputs left type ofLeft) fun one ofOne => ?_
      refine rules.bind (inputs right type ofRight) fun other _ => ?_
      exact .lift (RunContext.applied_delivers (Box.binary?_gives op ofOne))
  | @unary op operand type ofOperand =>
      refine rules.bind (inputs operand type ofOperand) fun value ofValue => ?_
      exact .lift (RunContext.applied_delivers (Box.unary?_gives op ofValue))
  | @cast operand source _ ofOperand =>
      refine rules.bind (inputs operand source ofOperand) fun value _ => ?_
      exact .lift (value.convert_delivers type)
  | @load field leaf indices known placed indexes =>
      have position (index : Nat) (member : index ∈ indices) :
          Yields context.TypedMemo (fun _ => True) (do (← input index).index) := by
        obtain ⟨type, has, _⟩ := indexes.integral index member
        exact rules.bind (inputs index type has) fun value _ => .lift value.index_delivers
      refine rules.bind (rules.mapM (fun _ => True) indices position) fun positions holds => ?_
      have reads := Storage.read_delivers (typed.reached.typed typedIn.proper)
        (typedIn.leaf_found typed.reached known placed) (holds.1.trans indexes.arity)
      exact rules.bind (.lift reads) fun scalar ofScalar =>
        rules.pure (Box.ofScalar_hasType ofScalar)

/-- Whatever is remembered, a node evaluates to a value of its type, which is
then remembered. -/
theorem TypedIn.eval_yields (depth : Nat) {number : Nat} {type : DataType}
    (has : code.Has number type) :
    Yields context.TypedMemo (·.HasType type) (context.eval run depth number) := by
  induction depth generalizing number type with
  | zero => exact fun memo now => .error (by simp [Error.FitsAxes])
  | succ depth hypothesis =>
      have rules := describes context.TypedMemo
      obtain ⟨node, found, rfl⟩ := has
      have inTable : context.nodes[number]? = some node := by rw [typedIn.nodes, found]
      have computes := typedIn.compute_yields typed (typedIn.typed found)
        fun _ _ => hypothesis
      have remembers (value : Box) (ofNode : value.HasType node.type) :
          Yields context.TypedMemo (·.HasType node.type)
            (do
              modify (·.insert number value)
              return value) := by
        intro memo now
        refine .ok ⟨ofNode, ?_⟩
        intro other kept found otherNode otherFound
        rw [Std.TreeMap.getElem?_insert] at found
        split at found
        · next same =>
          cases found
          rw [← Std.compare_eq_iff_eq.mp same, inTable] at otherFound
          cases otherFound
          exact ofNode
        · exact now other kept found otherNode otherFound
      intro memo now
      rw [RunContext.eval]
      simp only [StateT.run_bind, StateT.run_get, pure_bind]
      cases remembered : memo[number]? with
      | some value => exact .ok ⟨now number value remembered node inTable, now⟩
      | none =>
          simp only [inTable]
          exact rules.bind computes remembers memo now

theorem TypedIn.node_yields {number : Nat} {type : DataType} (has : code.Has number type) :
    Yields context.TypedMemo (·.HasType type) (Execute.node context run number) :=
  typedIn.eval_yields typed _ has

theorem TypedIn.node_delivers {number : Nat} {type : DataType} (has : code.Has number type) :
    Delivers (·.HasType type) ((Execute.node context run number).run' ∅) :=
  (typedIn.node_yields typed has).start context.typedMemo_empty

theorem TypedIn.positions_yield {leaf : Node} {indices : List Nat}
    (indexes : code.Indexes leaf indices) :
    Yields context.TypedMemo (fun positions => positions.length = leaf.lineage.axes.length)
      (Execute.positions context run indices) := by
  have rules := describes context.TypedMemo
  have position (index : Nat) (member : index ∈ indices) :
      Yields context.TypedMemo (fun _ => True)
        (do (← Execute.node context run index).index) := by
    obtain ⟨type, has, _⟩ := indexes.integral index member
    exact rules.bind (typedIn.node_yields typed has) fun value _ => .lift value.index_delivers
  intro memo now
  exact (rules.mapM (fun _ => True) indices position memo now).weaken
    fun _ holds => ⟨holds.1.1.trans indexes.arity, holds.2⟩

/-- What is stored at a leaf fits the leaf. -/
theorem TypedIn.target_delivers {leaf : Node} {indices : List Nat} {number : Nat}
    (indexes : code.Indexes leaf indices) (has : code.Has number leaf.type) :
    Delivers (fun target => leaf.Admits target.1 target.2)
      (Execute.target context run indices number) := by
  have rules := describes context.TypedMemo
  have pairs (position : List Int) (value : Box) (admits : leaf.Admits position value) :
      Yields context.TypedMemo (fun (target : List Int × Box) => leaf.Admits target.1 target.2)
        (pure (position, value)) := rules.pure admits
  have computes := rules.bind (typedIn.positions_yield typed indexes) fun position arity =>
    rules.bind (typedIn.node_yields typed has) fun value ofValue =>
      pairs position value ⟨arity, ofValue⟩
  exact computes.start context.typedMemo_empty

end Values

end Code

/-- Nodes of a table have integral types. -/
def RunContext.Integral (context : RunContext) (numbers : List Nat) : Prop :=
  ∀ number ∈ numbers, ∃ node, context.nodes[number]? = some node ∧ node.type.isIntegral

/-- What an operation takes a position or a bound from has an integral type, and
what it stores fits the leaf that it is stored at. -/
def Task.Typed (context : RunContext) (run : Run) : Task → Prop
  | .operation (.load _ indices) => context.Integral indices
  | .operation (.store leaf indices value) =>
    context.Integral indices ∧
      ∃ held, run.storage.leaf? leaf = some held ∧
        Delivers (fun target => held.Admits target.1 target.2)
          (Execute.target context run indices value)
  | .operation (.rangeLoop _ first last _ _) => context.Integral [first, last]
  | _ => True

/-- In a step every node evaluates to a value of its type, every variable that
is set has its type, and so has what the step is about. -/
structure Step.Typed (context : RunContext) (id : Nat) (tree : Tree)
    (ofVariable : Nat → DataType) (step : Step) : Prop where
  nodes {number : Nat} {node : IRNode} (found : context.nodes[number]? = some node) :
    Evaluate.Yields context.TypedMemo (·.HasType node.type)
      (Execute.node context step.run number)
  run : step.run.Typed id tree ofVariable
  task : step.task.Typed context step.run

namespace Execute

/-- A part of a run keeps up what is said about the run, also if it fails, and
does not fail for the number of indices of an access. -/
def Preserves (holds : Run → Prop) (action : Execute Unit) : Prop :=
  Ensures holds action (fun _ => holds) (fun error run => holds run ∧ error.FitsAxes)

namespace Preserves

variable {holds : Run → Prop}

theorem nothing : Preserves holds (pure ()) :=
  Ensures.pure fun _ => id

theorem bind {first second : Execute Unit} (one : Preserves holds first)
    (two : Preserves holds second) : Preserves holds (first >>= fun _ => second) :=
  Ensures.bind one fun _ => two

theorem look {next : Run → Execute Unit} (each : ∀ run, holds run → Preserves holds (next run)) :
    Preserves holds (get >>= next) :=
  Ensures.look each

theorem compute {α : Type} {kind : α → Prop} {outcome : Except Error α}
    {next : α → Execute Unit} (delivers : Delivers kind outcome)
    (each : ∀ result, kind result → Preserves holds (next result)) :
    Preserves holds (ofExcept outcome >>= next) :=
  Ensures.compute (fun _ fails _ now => ⟨now, delivers.fitsAxes fails⟩)
    fun result delivered => each result (delivers.result delivered)

theorem ends {action : Execute Unit} (preserves : Preserves holds action) {run : Run}
    (now : holds run) : holds (action.run.run run).2 := by
  have ended := preserves run now
  revert ended
  rcases action.run.run run with ⟨error | result, final⟩
  · exact And.left
  · exact fun ended => ended

theorem fitsAxes {action : Execute Unit} (preserves : Preserves holds action) {run : Run}
    (now : holds run) {error : Error} (fails : (action.run.run run).1 = .error error) :
    error.FitsAxes := by
  have ended := preserves run now
  revert ended fails
  rcases action.run.run run with ⟨other | result, final⟩
  · intro fails ended
    cases fails
    exact ended.2
  · exact fun fails => by cases fails

end Preserves

section Typed

variable {id : Nat} {tree : Tree} {ofVariable : Nat → DataType}

theorem setVariable_preserves {var : Nat} {value : Box} (ofValue : value.HasType (ofVariable var)) :
    Preserves (Run.Typed id tree ofVariable) (setVariable var value) := by
  refine Ensures.modify fun run typed => ⟨typed.reached, fun {other} {kept} isSet => ?_⟩
  rw [Std.TreeMap.getElem?_insert] at isSet
  split at isSet
  · next same =>
    cases isSet
    rw [← Std.compare_eq_iff_eq.mp same]
    exact ofValue
  · exact typed.frame isSet

theorem setNumber_preserves {var : Nat} (value : Int) {type : DataType}
    (ofVar : ofVariable var = type) :
    Preserves (Run.Typed id tree ofVariable) (do
      setVariable var (.ofScalar (← ofExcept ((Literal.int value).convert type)))) :=
  .compute (Literal.convert_delivers _ _) fun _ ofScalar =>
    setVariable_preserves (ofVar ▸ Box.ofScalar_hasType ofScalar)

theorem setCounters_preserves (values : List (Nat × Int))
    (counted : ∀ value ∈ values, ofVariable value.1 = .i32) :
    Preserves (Run.Typed id tree ofVariable) (setCounters values) :=
  Ensures.forM values fun value member => setNumber_preserves value.2 (counted value member)

theorem write_preserves (proper : tree.Proper) {leaf : Node} (member : leaf ∈ tree.declared)
    (isLeaf : leaf.isLeaf) {position : List Int} {value : Box}
    (admits : leaf.Admits position value) :
    Preserves (Run.Typed id tree ofVariable) (write leaf.id position value) := by
  have written {run : Run} (typed : run.Typed id tree ofVariable) :
      Run.Typed id tree ofVariable
        { run with storage := (run.storage.write leaf.id position value.stored).2 } :=
    ⟨typed.reached.kernelWrite leaf.id position value, typed.frame⟩
  refine Ensures.write (fun run typed error fails => ⟨written typed, ?_⟩)
    fun run typed _ => written typed
  have kept := typed.reached.of
  have prepares := Storage.prepared_delivers (kept.leaf?_eq proper member isLeaf) admits.arity value
  exact prepares.fitsAxes ((kept.keepsPointers proper).unchanged fails).1

end Typed

/-- From states of a kind listed steps are of a kind, and what takes them keeps
up what is said about the state. -/
structure Walks (holds : Run → Prop) (good : Step → Prop) (action : Execute Unit)
    (steps : Run → List Step) : Prop where
  each {run : Run} (now : holds run) : ∀ step ∈ steps run, good step
  preserves : Preserves holds action

namespace Walks

variable {holds : Run → Prop} {good : Step → Prop}

theorem nothing : Walks holds good (pure ()) fun _ => [] :=
  ⟨fun _ => by simp, .nothing⟩

theorem bind {first second : Execute Unit} {steps later : Run → List Step}
    (one : Walks holds good first steps) (two : Walks holds good second later) :
    Walks holds good (first >>= fun _ => second)
      (fun run => steps run ++ following first later run) := by
  refine ⟨fun {run} now step member => ?_, one.preserves.bind two.preserves⟩
  rcases List.mem_append.mp member with member | member
  · exact one.each now step member
  · have kept := one.preserves run now
    rw [following] at member
    revert kept member
    rcases first.run.run run with ⟨error | result, middle⟩
    · simp
    · exact fun member kept => two.each kept step member

theorem stepwise : Stepwise (Walks holds good) :=
  ⟨nothing, bind⟩

theorem single (context : RunContext) (task : Task) (begins : ∀ run, holds run → good ⟨task, run⟩)
    (preserves : Preserves holds (task.attempt context)) :
    Walks holds good (task.attempt context) fun run => [⟨task, run⟩] :=
  ⟨fun {run} now step member => by
    rw [List.mem_singleton.mp member]
    exact begins run now, preserves⟩

/-- What is computed first is part of the step that the computation is for. -/
theorem computing (context : RunContext) (task : Task) {α : Type} {outcome : Run → Except Error α}
    {next : α → Execute Unit} {steps : α → Run → List Step}
    (begins : ∀ run, holds run → good ⟨task, run⟩)
    (runs : ∀ run, (task.attempt context).run.run run =
      (ofExcept (outcome run) >>= next).run.run run)
    (delivers : ∀ run, holds run → Delivers (fun _ => True) (outcome run))
    (walks : ∀ result, Walks holds good (next result) (steps result)) :
    Walks holds good (task.attempt context)
      (fun run => ⟨task, run⟩ :: succeeding (outcome run) fun result => steps result run) := by
  refine ⟨fun {run} now step member => ?_, fun run now => ?_⟩
  · rcases List.mem_cons.mp member with rfl | member
    · exact begins run now
    · rw [succeeding.eq_def] at member
      split at member
      · next result _ => exact (walks result).each now step member
      · simp at member
  · have goesOn : Preserves holds (ofExcept (outcome run) >>= next) :=
      .compute (delivers run now) fun result _ => (walks result).preserves
    rw [runs run]
    exact goesOn run now

theorem of_eq {action : Execute Unit} {steps other : Run → List Step}
    (walks : Walks holds good action steps) (listed : ∀ run, other run = steps run) :
    Walks holds good action other := by
  rw [show other = steps from funext listed]
  exact walks

end Walks

end Execute

/-- A part of a run whose steps keep the types. -/
abbrev Execute.WalksTyped (context : RunContext) (id : Nat) (tree : Tree)
    (ofVariable : Nat → DataType) : Execute Unit → (Run → List Step) → Prop :=
  Walks (Run.Typed id tree ofVariable) (Step.Typed context id tree ofVariable)

namespace Code

variable {occurs : Expr → Prop} {code : Code} {context : RunContext} {id : Nat} {tree : Tree}

open Execute (Walks WalksTyped Preserves)

theorem Accesses.indexes {field : Field} {indices : List Expr} {leaf : Node} {nodes : List Nat}
    (accesses : code.Accesses field indices leaf nodes) : code.Indexes leaf nodes :=
  accesses.computes.indexes accesses.arity

section Operations

variable (typedIn : code.TypedIn occurs context tree)

include typedIn

theorem TypedIn.step {run : Run} (typed : run.Typed id tree code.typing.ofVariable) {task : Task}
    (fits : task.Typed context run) :
    Step.Typed context id tree code.typing.ofVariable ⟨task, run⟩ where
  nodes found := typedIn.node_yields typed ⟨_, by rwa [← typedIn.nodes], rfl⟩
  run := typed
  task := fits

theorem TypedIn.has_integral {number : Nat} {type : DataType} (has : code.Has number type)
    (integral : type.isIntegral) :
    ∃ node, context.nodes[number]? = some node ∧ node.type.isIntegral := by
  obtain ⟨node, found, rfl⟩ := has
  exact ⟨node, by rw [typedIn.nodes, found], integral⟩

theorem TypedIn.integral {leaf : Node} {indices : List Nat}
    (indexes : code.Indexes leaf indices) : context.Integral indices := by
  intro index member
  obtain ⟨type, has, integral⟩ := indexes.integral index member
  exact typedIn.has_integral has integral

/-- A round sets variables that count. -/
theorem TypedIn.round_walks {body : Execute Unit} {steps : Run → List Step}
    (values : List (Nat × Int))
    (counted : ∀ value ∈ values, code.typing.ofVariable value.1 = .i32)
    (walks : WalksTyped context id tree code.typing.ofVariable body steps) :
    WalksTyped context id tree code.typing.ofVariable
      (Execute.setCounters values >>= fun _ => body) (Execute.roundSteps values steps) :=
  Walks.stepwise.round (Walks.single context (.round values)
    (fun _ typed => typedIn.step typed trivial) (Execute.setCounters_preserves values counted)) walks

theorem Stores.walks (place : Element) {value : Expr} {leaf : Node} {nodes : List Nat}
    {result : Nat} (known : occurs (.ofElement place))
    (stores : code.Stores place.field place.indices value leaf nodes result) :
    WalksTyped context id tree code.typing.ofVariable
      (Execute.op context (.store leaf.id nodes result))
      (Execute.opSteps context (.store leaf.id nodes result)) := by
  obtain ⟨accesses, node, computes, brings⟩ := stores
  have field : occurs (.field place.field) :=
    typedIn.occurring.operand known (by simp [Expr.ofElement, Expr.operands])
  have indexes := accesses.indexes
  have has := brings.has computes.has
  refine (Walks.single context (.operation (.store leaf.id nodes result))
    (fun run typed => typedIn.step typed ⟨typedIn.integral indexes, leaf, ?_, ?_⟩) ?_).of_eq
      fun run => by rw [Execute.opSteps]
  · exact typedIn.leaf_found typed.reached field accesses.placed
  · exact typedIn.target_delivers typed indexes has
  · intro run typed
    obtain ⟨member, isLeaf⟩ := typedIn.declared field accesses.placed
    have writes : Preserves (Run.Typed id tree code.typing.ofVariable)
        (Execute.ofExcept (Execute.target context run nodes result) >>= fun found =>
          Execute.write leaf.id found.1 found.2) :=
      .compute (typedIn.target_delivers typed indexes has) fun target admits =>
        Execute.write_preserves typedIn.proper member isLeaf admits
    rw [Task.attempt, Execute.store_run]
    exact writes run typed

/-- A variable is only set to a value of its type, because nothing is a value
without a type. -/
theorem Assigns.delivers {var : Nat} {value : Expr} {result : Nat}
    (assigns : code.Assigns var value result) {run : Run}
    (typed : run.Typed id tree code.typing.ofVariable) :
    Delivers (·.HasType (code.typing.ofVariable var))
      ((Execute.node context run result).run' ∅) := by
  obtain ⟨node, computes, fits⟩ := assigns
  rcases fits with ⟨untyped, rfl⟩ | ⟨_, brings⟩
  · refine (typedIn.node_delivers typed computes.has).weaken fun box ofBox => ?_
    exact absurd untyped ofBox.known
  · exact typedIn.node_delivers typed (brings.has computes.has)

theorem TypedIn.bounds_deliver {first last : Expr} {firstNode lastNode : Nat}
    (computesFirst : code.Computes first firstNode) (computesLast : code.Computes last lastNode)
    {run : Run} (typed : run.Typed id tree code.typing.ofVariable) :
    Delivers (fun _ => True) (Execute.bounds context run firstNode lastNode) := by
  refine (typedIn.node_delivers typed computesFirst.has).bind fun box _ => ?_
  refine box.index_delivers.bind fun begin _ => ?_
  refine (typedIn.node_delivers typed computesLast.has).bind fun box _ => ?_
  exact box.index_delivers.bind fun stop _ => .ok trivial

end Operations

mutual

/-- An operation that performs a statement keeps the types, and so do all steps
that it comes to. -/
theorem Performs.walks (typedIn : code.TypedIn occurs context tree) (statement : Stmt) {op : Op}
    (known : ∀ root ∈ statement.roots, occurs root) (plain : statement.Plain)
    (performs : code.Performs statement op) :
    WalksTyped context id tree code.typing.ofVariable (Execute.op context op)
      (Execute.opSteps context op) := by
  cases performs with
  | @alloca _ identifier _ =>
      refine (Walks.single context (.operation (.alloca identifier.id))
        (fun run typed => typedIn.step typed trivial) ?_).of_eq fun run => by rw [Execute.opSteps]
      rw [Task.attempt, Execute.op]
      split
      · exact .nothing
      · next known =>
        exact Execute.setNumber_preserves 0 ((typedIn.recorded identifier.id).resolve_left known).symm
  | @assign _ var value result assigns =>
      refine (Walks.single context (.operation (.assign var.identifier.id result))
        (fun run typed => typedIn.step typed trivial) ?_).of_eq fun run => by rw [Execute.opSteps]
      rw [Task.attempt, Execute.op]
      exact .look fun run typed => .compute (assigns.delivers typedIn typed)
        fun box ofBox => Execute.setVariable_preserves ofBox
  | @assignElement _ key field indices value leaf nodes result stores =>
      exact Stores.walks typedIn ⟨key, field, indices⟩
        (known _ (by simp [Stmt.roots, Expr.ofElement])) stores
  | @load _ place leaf nodes accesses =>
      have field : occurs (.field place.field) :=
        typedIn.occurring.operand (known (.ofElement place) (by simp [Stmt.roots]))
          (by simp [Expr.ofElement, Expr.operands])
      refine (Walks.single context (.operation (.load leaf.id nodes))
        (fun run typed => typedIn.step typed (typedIn.integral accesses.indexes)) ?_).of_eq
          fun run => by rw [Execute.opSteps]
      rw [Task.attempt, Execute.op]
      refine .look fun run typed => .compute ((typedIn.positions_yield typed
        accesses.indexes).start context.typedMemo_empty) fun position arity => ?_
      have reads := Storage.read_delivers (typed.reached.typed typedIn.proper)
        (typedIn.leaf_found typed.reached field accesses.placed) arity
      exact .compute reads fun _ _ => .nothing
  | @store _ place value leaf nodes result stores =>
      exact Stores.walks typedIn place (known _ (by simp [Stmt.roots])) stores
  | @print _ value label node computes =>
      refine (Walks.single context (.operation (.print node label))
        (fun run typed => typedIn.step typed trivial) ?_).of_eq fun run => by rw [Execute.opSteps]
      rw [Task.attempt, Execute.op]
      refine .look fun run typed => .compute (typedIn.node_delivers typed computes.has)
        fun box _ => .compute (context.printed_delivers label box) fun _ _ => ?_
      exact Ensures.modify fun _ typed => ⟨typed.reached, typed.frame⟩
  | @branch _ condition node onTrue onFalse trueOps falseOps computes performsTrue performsFalse =>
      have branches (isTrue : Bool) : WalksTyped context id tree code.typing.ofVariable
          (if isTrue then Execute.ops context trueOps else Execute.ops context falseOps)
          (fun run => if isTrue then Execute.opsSteps context trueOps run
            else Execute.opsSteps context falseOps run) := by
        cases isTrue with
        | true =>
            exact performsTrue.walks typedIn onTrue
              (fun root member => known root (by simp [Stmt.roots, member])) plain.1
        | false =>
            exact performsFalse.walks typedIn onFalse
              (fun root member => known root (by simp [Stmt.roots, member])) plain.2
      refine (Walks.computing context (.operation (.branch node trueOps falseOps))
        (fun run typed => typedIn.step typed trivial)
        (fun run => Execute.branch_run context run node trueOps falseOps) (fun run typed => ?_)
        branches).of_eq fun run => by rw [Execute.opSteps]
      exact (typedIn.node_delivers typed computes.has).bind fun box _ => box.isTrue_delivers
  | @range _ vars first last firstNode lastNode schedule body ops computesFirst computesLast
      integral counted performs =>
      have inside := performs.walks typedIn body
        (fun root member => known root (by simp [Stmt.roots, member])) plain.2
      obtain ⟨var, rfl⟩ := List.length_eq_one_iff.mp plain.1
      have round (value : Int) :=
        typedIn.round_walks [(var.identifier.id, value)] (by simpa using counted) inside
      simp only [Execute.setCounters_singleton] at round
      have rounds (range : Int × Int) :=
        Walks.stepwise.iterate round (range.2 - range.1).toNat range.1
      refine (Walks.computing context (.operation (.rangeLoop var.identifier.id firstNode lastNode ops
        schedule.entries)) (fun run typed => typedIn.step typed ?_)
        (fun run => Execute.rangeLoop_run context run var.identifier.id firstNode lastNode ops
          schedule.entries)
        (fun run typed => typedIn.bounds_deliver computesFirst computesLast typed) rounds).of_eq
          fun run => by rw [Execute.opSteps.eq_def]; rfl
      intro number member
      rcases List.mem_pair.mp member with rfl | rfl
      · exact typedIn.has_integral computesFirst.has integral.1
      · exact typedIn.has_integral computesLast.has integral.2
  | @elements _ vars field leaf schedule body ops placed touched arity counted performs =>
      have inside := performs.walks typedIn body
        (fun root member => known root (by simp [Stmt.roots, member])) plain
      have count (index : List Nat) :
          ∀ value ∈ Execute.counters (vars.map (·.identifier.id)) index,
            code.typing.ofVariable value.1 = .i32 := by
        intro value member
        obtain ⟨⟨var, position⟩, paired, rfl⟩ := List.mem_map.mp member
        obtain ⟨declared, among, rfl⟩ := List.mem_map.mp (List.of_mem_zip paired).1
        exact counted declared among
      have round (index : List Nat) := typedIn.round_walks _ (count index) inside
      simp only [Execute.setCounters_counters] at round
      refine (Walks.computing context (.operation (.elementLoop (vars.map (·.identifier.id)) leaf.id ops
        schedule.entries)) (fun run typed => typedIn.step typed trivial)
        (fun run => Execute.elementLoop_run context run _ leaf.id ops schedule.entries)
        (fun run _ => (Storage.activeIndices_delivers leaf.id).weaken fun _ _ => trivial)
        (Walks.stepwise.forM round)).of_eq fun run => ?_
      rw [Execute.opSteps]

theorem PerformsAll.walks (typedIn : code.TypedIn occurs context tree) (body : List Stmt)
    {ops : List Op} (known : ∀ root ∈ Stmt.blockRoots body, occurs root)
    (plain : Stmt.BlockPlain body) (performs : code.PerformsAll body ops) :
    WalksTyped context id tree code.typing.ofVariable (Execute.ops context ops)
      (Execute.opsSteps context ops) := by
  cases performs with
  | nil =>
      rw [Execute.ops]
      exact Walks.nothing.of_eq fun run => by rw [Execute.opsSteps]
  | @cons first rest op ops performs later =>
      have one := performs.walks typedIn first
        (fun root member => known root (by simp [Stmt.blockRoots, member])) plain.1
      have others := later.walks typedIn rest
        (fun root member => known root (by simp [Stmt.blockRoots, member])) plain.2
      rw [Execute.ops]
      exact (one.bind others).of_eq fun run => by rw [Execute.opsSteps]

end

end Code

end FieldKernel
