import FieldKernel.IR.Basic
import FieldKernel.Storage.Basic
import FieldKernel.Storage.Convert

/-!
# Running lowered kernels

A run executes the operations of a lowered kernel one after the other. It has a storage, the values
of the local variables, and the lines that were printed; what an operation has done stays done when
a later one fails. Within one operation every node is computed once. The bounds of a loop are
computed when it is entered, and the elements that a loop visits are those that are active then.
An argument can be a box of scalars; operations go through it, but only a single scalar can be
stored or serve as a position.
-/

namespace FieldKernel

/-- The state of a run. -/
structure Run where
  storage : Storage
  frame : Std.TreeMap Nat Box
  lines : Array String

/-- A part of a run, which may fail half-way. -/
abbrev Execute := ExceptT Error (StateM Run)

/-- What does not change during a run. -/
structure RunContext where
  nodes : Array IRNode
  varTypes : List (Nat × DataType)
  args : List Box
  /-- How labels are written. -/
  rendering : Rendering

/-- The values of the nodes that an operation has computed so far. -/
abbrev Memo := Std.TreeMap Nat Box

/-- A computation on nodes, which changes nothing but the memo. -/
abbrev Evaluate := StateT Memo (Except Error)

namespace RunContext

/-- The argument at a position; a negative position counts from the end. -/
def argument (context : RunContext) (position : Int) : Except Error Box :=
  match memberAt? context.args position with
  | some value => .ok value
  | none => .error (.host (.position "tuple"))

/-- The result of an operator, which has to be made for its operands. -/
def applied (result? : Option Box) : Except Error Box :=
  match result? with
  | some result => .ok result
  | none => .error (.host (.operand .scalars))

def variableValue (run : Run) (id : Nat) : Except Error Box :=
  match run.frame[id]? with
  | some value => .ok value
  | none => .error (.host (.lookup (toString id)))

/-- The line that shows a value behind a label. -/
def printed (context : RunContext) (label : HostValue) (value : Box) : Except Error String := do
  let label ← (context.rendering.plain label).mapError .host
  let text ← (← value.item).toLiteral.text.mapError .host
  return "[debug] " ++ label ++ " = " ++ text

/-- What a node computes, given how the nodes are computed that it refers to. -/
def compute (context : RunContext) (run : Run) (input : Nat → Evaluate Box)
    (node : IRNode) : Evaluate Box :=
  match node.op with
  | .const value => do return .ofScalar (← value.convert node.type)
  | .var id => liftM (variableValue run id)
  | .argument position => liftM (context.argument position)
  | .binary op left right => do
    let left ← input left
    let right ← input right
    applied (Box.binary? op left right)
  | .unary op operand => do
    applied (Box.unary? op (← input operand))
  | .cast operand => do
    (← input operand).convert node.type
  | .load leaf indices => do
    let index ← indices.mapM fun index => do (← input index).index
    return .ofScalar (← run.storage.read leaf index)

/-- The value of a node. A node refers to earlier ones, so their number bounds the depth. -/
def eval (context : RunContext) (run : Run) : Nat → Nat → Evaluate Box
  | 0, _ => throw (.host .recursion)
  | depth + 1, id => do
    match (← get)[id]? with
    | some value => return value
    | none =>
      match context.nodes[id]? with
      | none => throw (.host (.position "tuple"))
      | some node =>
        let value ← context.compute run (context.eval run depth) node
        modify (·.insert id value)
        return value

end RunContext

namespace Execute

/-- An outcome that changes nothing. -/
def ofExcept {α : Type} (outcome : Except Error α) : Execute α :=
  ExceptT.mk (pure outcome)

/-- Computes on the nodes of one operation. -/
def evaluate {α : Type} (attempt : Evaluate α) : Execute α :=
  ofExcept (attempt.run' ∅)

def node (context : RunContext) (run : Run) (id : Nat) : Evaluate Box :=
  context.eval run context.nodes.size id

/-- The positions that nodes compute. -/
def positions (context : RunContext) (run : Run) (ids : List Nat) : Evaluate (List Int) :=
  ids.mapM fun id => do (← node context run id).index

def setVariable (id : Nat) (value : Box) : Execute Unit :=
  modify fun run => { run with frame := run.frame.insert id value }

/-- Sets a loop variable to a whole number. -/
def setCounter (id : Nat) (value : Int) : Execute Unit := do
  setVariable id (.ofScalar (← ofExcept ((Literal.int value).convert .i32)))

def write (leaf : Nat) (index : List Int) (value : Box) : Execute Unit :=
  ExceptT.mk fun run =>
    let (outcome, storage) :=
      run.storage.write leaf index fun type => do (← value.convert type).element
    (outcome, { run with storage := storage })

/-- Does something for `count` numbers, beginning with the given one. -/
def iterate (action : Int → Execute Unit) : Nat → Int → Execute Unit
  | 0, _ => return
  | count + 1, value => do
    action value
    iterate action count (value + 1)

mutual

def op (context : RunContext) : Op → Execute Unit
  | .alloca var => do
    match ((context.varTypes.lookup var).getD .unknown) with
    | .unknown => return
    | type => setVariable var (.ofScalar (← ofExcept ((Literal.int 0).convert type)))
  | .assign var value => do
    let run ← get
    setVariable var (← evaluate (node context run value))
  | .load leaf indices => do
    let run ← get
    let index ← evaluate (positions context run indices)
    let _ ← ofExcept (run.storage.read leaf index)
  | .store leaf indices value => do
    let run ← get
    let (index, value) ← evaluate do
      let index ← positions context run indices
      return (index, ← node context run value)
    write leaf index value
  | .branch condition onTrue onFalse => do
    let run ← get
    let value ← evaluate (node context run condition)
    if ← ofExcept value.isTrue then ops context onTrue else ops context onFalse
  | .rangeLoop var first last body _ => do
    let run ← get
    let first ← ofExcept (← evaluate (node context run first)).index
    let last ← ofExcept (← evaluate (node context run last)).index
    iterate (fun value => do
      setCounter var value
      ops context body) (last - first).toNat first
  | .elementLoop vars leaf body _ => do
    let indices ← ofExcept ((← get).storage.activeIndices leaf)
    indices.forM fun index => do
      (vars.zip index).forM fun (var, position) => setCounter var position
      ops context body
  | .print value label => do
    let run ← get
    let value ← evaluate (node context run value)
    let line ← ofExcept (context.printed label value)
    modify fun run => { run with lines := run.lines.push line }

def ops (context : RunContext) : List Op → Execute Unit
  | [] => return
  | first :: rest => do
    op context first
    ops context rest

end

end Execute

/-- What is left of a run: how it ended, the storage, and the lines that were printed. -/
structure RunResult where
  outcome : Except Error Unit
  storage : Storage
  lines : Array String

namespace KernelIR

/-- The arguments of a kernel in the types that it takes. -/
def convertArgs (ir : KernelIR) (args : List HostValue) : Ask (List Box) :=
  (args.zip ir.argTypes).mapM fun (arg, type) => Ask.scalars arg type

/-- Checks that a kernel is called as it wants and touches nothing outside a storage. -/
def checkCall (ir : KernelIR) (storage : Storage) (args : List HostValue) :
    Ask (List Box) := do
  if args.length ≠ ir.argTypes.length then
    throw (.run (.argumentCount ir.name ir.argTypes.length args.length))
  unless ir.leaves.all (fun leaf => (storage.leaf? leaf).isSome) do
    throw (.run (.foreignField ir.name))
  ir.convertArgs args

/-- Runs a kernel with converted arguments. -/
def runWith (ir : KernelIR) (rendering : Rendering) (storage : Storage)
    (args : List Box) : RunResult :=
  let context : RunContext := ⟨ir.nodes, ir.varTypes, args, rendering⟩
  let (outcome, run) := (Execute.ops context ir.body).run.run ⟨storage, ∅, #[]⟩
  ⟨outcome, run.storage, run.lines⟩

/-- Runs a kernel with values that host code passes in. -/
def run (ir : KernelIR) (objects : Objects) (storage : Storage) (args : List HostValue) :
    RunResult :=
  match (ir.checkCall storage args).run objects with
  | .error error => ⟨.error error, storage, #[]⟩
  | .ok args => ir.runWith objects.rendering storage args

end KernelIR

end FieldKernel
