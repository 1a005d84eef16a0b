import FieldKernel.Config
import FieldKernel.Recording.Schedule

/-!
# Lowered kernels

A lowered kernel is a table of expression nodes, each of which refers to earlier ones by number,
and a tree of operations that refer to nodes, variables and leaves of the layout by number. It is
plain data: nothing in it leads back to the expressions it came from.
-/

namespace FieldKernel

/-- What a node of the table computes. -/
inductive NodeOp where
  | const (value : Literal)
  | var (id : Nat)
  | argument (position : Int)
  | binary (op : BinaryOp) (left right : Nat)
  | unary (op : UnaryOp) (operand : Nat)
  | cast (operand : Nat)
  | load (leaf : Nat) (indices : List Nat)
  deriving Inhabited

/-- An entry of the node table: its number, what it computes, and the type of the result. -/
structure IRNode where
  id : Nat
  op : NodeOp
  type : DataType

namespace NodeOp

/-- The nodes that a node refers to. -/
def inputs : NodeOp → List Nat
  | const _ => []
  | var _ => []
  | argument _ => []
  | binary _ left right => [left, right]
  | unary _ operand => [operand]
  | cast operand => [operand]
  | load _ indices => indices

def name : NodeOp → String
  | const _ => "const"
  | var _ => "var"
  | argument _ => "arg"
  | binary op _ _ => "binary:" ++ op.name
  | unary op _ => "unary:" ++ op.name
  | cast _ => "cast"
  | load _ _ => "load"

/-- What a node has besides its inputs, given the type of its result. -/
def payload? (type : DataType) : NodeOp → Except HostFault (Option String)
  | const value => some <$> value.text
  | var id => .ok (some (toString id))
  | argument position => some <$> Text.decimal position
  | binary _ _ _ => .ok none
  | unary _ _ => .ok none
  | cast _ => .ok (some (Text.quoted type.shortName))
  | load leaf _ => .ok (some (toString leaf))

end NodeOp

namespace IRNode

/-- The line of a node in a listing of the table. -/
def text (node : IRNode) : Except HostFault String := do
  let payload := ((← node.op.payload? node.type).map (" " ++ ·)).getD ""
  let inputs := String.join (node.op.inputs.map fun input => " %" ++ toString input)
  return "%" ++ toString node.id ++ " = " ++ node.op.name ++ payload ++ inputs ++ " : " ++
    node.type.shortName

/-- A node with all its parts by name. -/
def listing (node : IRNode) : Except HostFault String := do
  let payload? ← node.op.payload? node.type
  return Listing.record "IRNode"
    [("id", toString node.id), ("op", Text.quoted node.op.name),
      ("inputs", Listing.row (node.op.inputs.map toString)),
      ("value", payload?.getD "None"), ("dtype", Listing.dataType node.type)]

end IRNode

/-- An operation of a lowered kernel. -/
inductive Op where
  | alloca (var : Nat)
  | assign (var value : Nat)
  | load (leaf : Nat) (indices : List Nat)
  | store (leaf : Nat) (indices : List Nat) (value : Nat)
  | branch (condition : Nat) (onTrue onFalse : List Op)
  | rangeLoop (var first last : Nat) (body : List Op) (schedule : List (HintKind × HintValue))
  | elementLoop (vars : List Nat) (leaf : Nat) (body : List Op)
      (schedule : List (HintKind × HintValue))
  | print (value : Nat) (label : HostValue)

namespace Op

def numbers (ids : List Nat) : String :=
  Listing.row (ids.map toString)

def hint (rendering : Rendering) (entry : HintKind × HintValue) : Except HostFault String := do
  return Text.quoted entry.1.name ++ ": " ++ (← entry.2.listing rendering)

/-- The hints of a loop in a listing of operations. -/
def hints (rendering : Rendering) (schedule : List (HintKind × HintValue)) :
    Except HostFault String := do
  return "\x7b" ++ Expr.commaSeparated (← schedule.mapM (hint rendering)) ++ "\x7d"

def hintPair (rendering : Rendering) (entry : HintKind × HintValue) :
    Except HostFault String := do
  return Listing.row [Text.quoted entry.1.name, ← entry.2.listing rendering]

/-- The hints of a loop, each as a pair. -/
def hintPairs (rendering : Rendering) (schedule : List (HintKind × HintValue)) :
    Except HostFault String := do
  return Listing.row (← schedule.mapM (hintPair rendering))

mutual

/-- An operation with all its parts by name. -/
def listing (rendering : Rendering) : Op → Except HostFault String
  | alloca var => .ok (Listing.record "AllocaOp" [("var", toString var)])
  | assign var value =>
    .ok (Listing.record "AssignOp" [("var", toString var), ("value", toString value)])
  | load leaf indices =>
    .ok (Listing.record "LoadOp" [("field", toString leaf), ("indices", numbers indices)])
  | store leaf indices value =>
    .ok (Listing.record "StoreOp"
      [("field", toString leaf), ("indices", numbers indices), ("value", toString value)])
  | branch condition onTrue onFalse => do
    return Listing.record "IfOp"
      [("cond", toString condition), ("true_body", Listing.row (← listings rendering onTrue)),
        ("false_body", Listing.row (← listings rendering onFalse))]
  | rangeLoop var first last body schedule => do
    return Listing.record "RangeForOp"
      [("var", toString var), ("begin", toString first), ("end", toString last),
        ("body", Listing.row (← listings rendering body)),
        ("schedule", ← hintPairs rendering schedule)]
  | elementLoop vars leaf body schedule => do
    return Listing.record "StructForOp"
      [("vars", numbers vars), ("field", toString leaf),
        ("body", Listing.row (← listings rendering body)),
        ("schedule", ← hintPairs rendering schedule)]
  | print value label => do
    return Listing.record "PrintOp"
      [("value", toString value), ("label", ← rendering.listing label)]

def listings (rendering : Rendering) : List Op → Except HostFault (List String)
  | [] => .ok []
  | first :: rest => do return (← listing rendering first) :: (← listings rendering rest)

end

def indentation (level : Nat) : String :=
  String.ofList (List.replicate (2 * level) ' ')

mutual

/-- The lines of an operation, its inside between braces. -/
def lines (rendering : Rendering) (level : Nat) : Op → Except HostFault (List String)
  | branch condition onTrue onFalse => do
    let pad := indentation level
    let trueLines ← blockLines rendering (level + 1) onTrue
    let falseLines ← blockLines rendering (level + 1) onFalse
    return (pad ++ "if %" ++ toString condition ++ " \x7b") :: trueLines ++
      (pad ++ "\x7d else \x7b") :: falseLines ++ [pad ++ "\x7d"]
  | rangeLoop var first last body schedule => do
    let pad := indentation level
    let head := pad ++ "for $" ++ toString var ++ " in range(%" ++ toString first ++ ", %" ++
      toString last ++ ") " ++ (← hints rendering schedule) ++ " \x7b"
    let bodyLines ← blockLines rendering (level + 1) body
    return head :: bodyLines ++ [pad ++ "\x7d"]
  | elementLoop vars leaf body schedule => do
    let pad := indentation level
    let head := pad ++ "for (" ++ Expr.commaSeparated (vars.map fun var => "$" ++ toString var) ++
      ") in snode#" ++ toString leaf ++ " " ++ (← hints rendering schedule) ++ " \x7b"
    let bodyLines ← blockLines rendering (level + 1) body
    return head :: bodyLines ++ [pad ++ "\x7d"]
  | op => do return [indentation level ++ (← op.listing rendering)]

def blockLines (rendering : Rendering) (level : Nat) : List Op → Except HostFault (List String)
  | [] => .ok []
  | first :: rest => do
    return (← lines rendering level first) ++ (← blockLines rendering level rest)

end

end Op

/-- A lowered kernel. -/
structure KernelIR where
  name : String
  target : ArchSetting
  nodes : Array IRNode
  body : List Op
  argTypes : List DataType
  /-- The leaves that are touched, in ascending order. -/
  leaves : List Nat
  /-- The variables with their types, in ascending order. -/
  varTypes : List (Nat × DataType)

namespace KernelIR

/-- The text of a lowered kernel for a target. -/
def textFor (ir : KernelIR) (rendering : Rendering) (arch : Arch) : Except HostFault String := do
  let nodes ← ir.nodes.toList.mapM IRNode.text
  let ops ← Op.blockLines rendering 1 ir.body
  return "\n".intercalate
    (("kernel " ++ ir.name ++ " (" ++ arch.name ++ ")") :: nodes.map ("  " ++ ·) ++ ops)

/-- A lowered kernel with all its parts by name. -/
def listing (ir : KernelIR) (rendering : Rendering) : Except HostFault String := do
  let target :=
    match ir.target with
    | .member arch => Listing.choice "Arch" arch.name arch.name
    | .named name => Text.quoted name
  let varType (entry : Nat × DataType) : String :=
    Listing.row [toString entry.1, Listing.dataType entry.2]
  return Listing.record "KernelIR"
    [("name", Text.quoted ir.name), ("arch", target),
      ("nodes", Listing.row (← ir.nodes.toList.mapM IRNode.listing)),
      ("body", Listing.row (← Op.listings rendering ir.body)),
      ("arg_types", Listing.row (ir.argTypes.map Listing.dataType)),
      ("fields", Listing.row (ir.leaves.map toString)),
      ("var_types", Listing.row (ir.varTypes.map varType))]

end KernelIR

end FieldKernel
