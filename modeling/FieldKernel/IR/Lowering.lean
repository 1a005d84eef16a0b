import FieldKernel.Expr.Slots
import FieldKernel.Objects

/-!
# Lowering recorded code

Lowering goes through the statements in the order they are written. It infers the types, brings
operands to a common type by casts, checks every access to a field against the layout, and refuses
what the target cannot run. An expression node that occurs several times is lowered once. Types are
filled into the slots of the nodes on the way, also if lowering fails later.
-/

namespace FieldKernel

/-- What lowering looks things up in. -/
structure LoweringContext where
  arch : Arch
  argTypes : List DataType
  objects : Objects
  locations : Std.TreeMap Nat Location

/-- What lowering has produced so far. -/
structure Lowering where
  nodes : Array IRNode
  /-- The node of each expression that was lowered, by key. -/
  lowered : Std.TreeMap Nat Nat
  varTypes : Std.TreeMap Nat DataType
  /-- The leaves that are touched. -/
  leaves : Std.TreeMap Nat Unit
  slots : TypeSlots

namespace Lowering

/-- The start of lowering, with the types that are known from before. -/
def start (slots : TypeSlots) : Lowering :=
  ⟨#[], ∅, ∅, ∅, slots⟩

def typeOf (state : Lowering) (node : Nat) : DataType :=
  (state.nodes[node]?.map IRNode.type).getD .unknown

end Lowering

/-- A step of lowering. -/
abbrev Lower := ExceptT Error (StateM Lowering)

namespace Lower

/-- An outcome that produces nothing. -/
def ofExcept {α : Type} (outcome : Except Error α) : Lower α :=
  ExceptT.mk (pure outcome)

def add (op : NodeOp) (type : DataType) : Lower Nat :=
  modifyGet fun state =>
    (state.nodes.size, { state with nodes := state.nodes.push ⟨state.nodes.size, op, type⟩ })

def typeOf (node : Nat) : Lower DataType := do
  return (← get).typeOf node

/-- The node itself if it has the type, or a cast of it. -/
def castTo (node : Nat) (type : DataType) : Lower Nat := do
  if (← typeOf node) = type then return node
  else add (.cast node) type

def resolve (expr : Expr) (type : DataType) : Lower Unit := do
  let state ← get
  let slots ← ofExcept (state.slots.resolve expr type)
  set { state with slots := slots }

/-- Sets the type of a variable, known or unknown. -/
def declare (var : Nat) (type : DataType) : Lower Unit :=
  modify fun state => { state with varTypes := state.varTypes.insert var type }

/-- The type of a variable that was declared. -/
def varType? (var : Nat) : Lower (Option DataType) := do
  return (← get).varTypes[var]?

/-- The node of an expression, which is lowered when it is met for the first time. -/
def once (expr : Expr) (lower : Lower Nat) : Lower Nat := do
  match (← get).lowered[expr.key]? with
  | some node => return node
  | none =>
    let node ← lower
    resolve expr (← typeOf node)
    modify fun state => { state with lowered := state.lowered.insert expr.key node }
    return node

/-- The leaf of a field, in a sealed layout. -/
def leafOf (context : LoweringContext) (field : Field) (site? : Option Location) : Lower Node := do
  match context.objects.layouts.leafOf? field with
  | none => throw (.lowering (.fieldNotPlaced field.text) site? none)
  | some (tree, leaf) =>
    unless context.objects.layouts[tree]?.any (·.isSealed) do
      throw (.quoting leaf.path fun path => .lowering .layoutOpen site? (some path))
    modify fun state => { state with leaves := state.leaves.insert leaf.id () }
    return leaf

/-- Checks that there is an index for each axis of a leaf. -/
def checkArity (leaf : Node) (count : Nat) (kind : String) (site? : Option Location) :
    Lower Unit := do
  let needed := leaf.lineage.axes.length
  if count ≠ needed then
    throw (.quoting leaf.path fun path =>
      .quoting (recordedAt site?) fun place => .arity (.lowered kind path needed count place))

/-- The leaf that is accessed at an element, before its indices are looked at. -/
def leafAt (context : LoweringContext) (key : Nat) (field : Field) (count : Nat) : Lower Node := do
  let site? := context.locations[key]?
  let leaf ← leafOf context field site?
  checkArity leaf count "Subscript" site?
  return leaf

/-- Checks that an expression that was lowered is an index. -/
def checkIndex (context : LoweringContext) (index : Expr) (node : Nat) : Lower Unit := do
  unless (← typeOf node).isIntegral do
    throw (.quoting index.text fun text =>
      .lowering .index context.locations[index.key]? (some text))

def binary (site? : Option Location) (text : Except HostFault String) (op : BinaryOp)
    (left right : Nat) : Lower Nat := do
  let leftType ← typeOf left
  let rightType ← typeOf right
  if op.isBitwise && !(leftType.isIntegral && rightType.isIntegral) then
    throw (.quoting text fun text => .lowering (.bitwise op.name) site? (some text))
  let promoted := leftType.promote rightType
  -- There is no arithmetic on truth values.
  let operandType := if promoted = .u1 then .i32 else promoted
  let left ← castTo left operandType
  let right ← castTo right operandType
  add (.binary op left right) (if op.isComparison then .i32 else operandType)

def unary (site? : Option Location) (text : Except HostFault String) (op : UnaryOp)
    (operand : Nat) : Lower Nat := do
  let operand ←
    if (← typeOf operand) = .u1 ∧ op ≠ .logicNot then castTo operand .i32 else pure operand
  if op = .bitNot ∧ !(← typeOf operand).isIntegral then
    throw (.quoting text fun text => .lowering .bitNot site? (some text))
  let operand ←
    if op.isFloating ∧ !(← typeOf operand).isFloat then castTo operand .f32 else pure operand
  let operandType ← typeOf operand
  add (.unary op operand) (if op = .logicNot then .i32 else operandType)

mutual

/-- The node that computes an expression. -/
def expr (context : LoweringContext) : Expr → Lower Nat
  | .literal key value type => once (.literal key value type) do add (.const value) type
  | .identifier var => once (.identifier var) do
    let site? := context.locations[var.key]?
    match ← varType? var.identifier.id with
    | none => throw (.lowering (.undeclared var.identifier.text) site? none)
    | some type =>
      if type = .unknown then
        throw (.lowering (.untyped var.identifier.text) site? none)
      add (.var var.identifier.id) type
  | .argument key position type => once (.argument key position type) do
    if position ≥ context.argTypes.length then
      throw (.quoting (Text.decimal position) fun text =>
        .lowering (.noArgument text) context.locations[key]? none)
    add (.argument position) type
  | .binary key op left right => once (.binary key op left right) do
    let leftNode ← expr context left
    let rightNode ← expr context right
    binary context.locations[key]? (Expr.binary key op left right).text op leftNode rightNode
  | .unary key op operand => once (.unary key op operand) do
    let node ← expr context operand
    unary context.locations[key]? (Expr.unary key op operand).text op node
  | .cast key operand type => once (.cast key operand type) do
    add (.cast (← expr context operand)) type
  | .element key field indices => once (.element key field indices) do
    let leaf ← leafAt context key field indices.length
    add (.load leaf.id (← indexNodes context indices)) leaf.type
  | .load key elementKey field indices => once (.load key elementKey field indices) do
    let leaf ← leafAt context elementKey field indices.length
    add (.load leaf.id (← indexNodes context indices)) leaf.type
  | .field field => once (.field field) do
    throw (.lowering (.bareField field.text) context.locations[field.key]? none)

/-- The nodes that compute the indices of an element. -/
def indexNodes (context : LoweringContext) : List Expr → Lower (List Nat)
  | [] => return []
  | index :: rest => do
    let node ← expr context index
    checkIndex context index node
    return node :: (← indexNodes context rest)

end

/-- The node that computes a value of the host, which has to be an expression. -/
def value (context : LoweringContext) (value : HostValue) : Lower Nat :=
  match value with
  | .expr value => expr context value
  | .statement id =>
    let recording := context.objects.recording
    throw (.target (.expression (recording.className id)) (recording.statement id).location? none)
  | value => throw (.host (.missingAttribute (context.objects.className value) "location"))

/-- A node that computes the value to be stored at an element, and the store. -/
def store (context : LoweringContext) (place : Element) (value : Expr) : Lower Op := do
  let leaf ← leafAt context place.key place.field place.indices.length
  let indices ← indexNodes context place.indices
  resolve (.ofElement place) leaf.type
  let node ← castTo (← expr context value) leaf.type
  return .store leaf.id indices node

/-- An assignment to a variable. A variable that was declared without a type takes that of the first
value that is assigned to it. -/
def assign (context : LoweringContext) (site? : Option Location) (var : Variable) (value : Expr) :
    Lower Op := do
  let id := var.identifier.id
  match ← varType? id with
  | none => throw (.lowering (.undeclaredTarget var.identifier.text) site? none)
  | some declared =>
    let node ← expr context value
    let type ← if declared = .unknown then typeOf node else pure declared
    if declared = .unknown then
      declare id type
    resolve (.identifier var) type
    return .assign id (← castTo node type)

/-- Gives the variables of a loop their type. -/
def declareLoopVariables (vars : List Variable) : Lower Unit :=
  vars.forM fun var => do
    declare var.identifier.id .i32
    resolve (.identifier var) .i32

/-- Checks that the bounds of a loop are whole numbers. -/
def checkBound (site? : Option Location) (text : Except HostFault String) (bound : Nat) :
    Lower Unit := do
  unless (← typeOf bound).isIntegral do
    throw (.quoting text fun text => .lowering .bound site? (some text))

mutual

/-- The operation that a statement is lowered to. -/
def stmt (context : LoweringContext) : Stmt → Lower Op
  | .alloca _ identifier type => do
    declare identifier.id type
    return .alloca identifier.id
  | .assign site? target value =>
    match target with
    | .element key field indices => store context ⟨key, field, indices⟩ value
    | .identifier var => assign context site? var value
    | target => throw (.quoting target.text fun text => .lowering (.target text) site? none)
  | .store _ place value => store context place value
  | .load _ place => do
    let leaf ← leafAt context place.key place.field place.indices.length
    return .load leaf.id (← indexNodes context place.indices)
  | .branch _ condition onTrue onFalse => do
    let node ← value context condition
    let onTrue ← block context onTrue
    let onFalse ← block context onFalse
    return .branch node onTrue onFalse
  | .loop site? vars (.elements field) schedule body => do
    let leaf ← leafOf context field site?
    checkArity leaf vars.length "Struct-for" site?
    declareLoopVariables vars
    let body ← block context body
    return .elementLoop (vars.map (·.identifier.id)) leaf.id body schedule.entries
  | .loop site? vars (.range first last) schedule body => do
    let firstNode ← expr context first
    let lastNode ← expr context last
    let text := Stmt.loopText context.objects.rendering vars (.range first last) schedule
    checkBound site? text firstNode
    checkBound site? text lastNode
    declareLoopVariables vars
    let body ← block context body
    let var := ((vars.map (·.identifier.id)).head?).getD 0
    return .rangeLoop var firstNode lastNode body schedule.entries
  | .print site? printed label => do
    if context.arch = .gpu then
      throw (.quoting (Stmt.printText context.objects.rendering printed label) fun text =>
        .target .print site? (some text))
    return .print (← value context printed) label
  | .bare site? => throw (.target (.statement (Stmt.bare site?).className) site? none)
  | .endless => throw (.host .recursion)

/-- The operations that the statements of a block are lowered to. -/
def block (context : LoweringContext) : List Stmt → Lower (List Op)
  | [] => return []
  | first :: rest => do
    let op ← stmt context first
    return op :: (← block context rest)

end

end Lower

namespace KernelIR

/-- Lowers the statements of a kernel. The slots are filled as far as lowering got, whatever comes
of it. -/
def ofBody (name : String) (target : ArchSetting) (context : LoweringContext) (body : List Stmt)
    (slots : TypeSlots) : Except Error KernelIR × TypeSlots :=
  let (outcome, state) := (Lower.block context body).run.run (Lowering.start slots)
  let ir := outcome.map fun ops =>
    { name := name
      target := target
      nodes := state.nodes
      body := ops
      argTypes := context.argTypes
      leaves := state.leaves.toList.map (·.1)
      varTypes := state.varTypes.toList }
  (ir, state.slots)

end KernelIR

end FieldKernel
