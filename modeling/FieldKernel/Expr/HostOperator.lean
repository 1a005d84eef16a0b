import FieldKernel.Expr.Build
import FieldKernel.HostArithmetic

/-!
# Operators in host code

An operator that host code writes between two values is recorded if one of them is an expression.
Otherwise the host computes it at once: numbers by their arithmetic, while rows of one kind are
joined, repeated, and compared member by member. Members can be expressions again. Comparing with
one records the comparison, and the host refuses to take what is recorded for true or false.
-/

namespace FieldKernel

namespace Ask

/-- No operator of this kind is made for the operands. -/
def refuseOperands {α : Type} (op : BinaryOp) (left right : HostValue) : Ask α := do
  let objects ← read
  let fault := if op.isComparison then OperandFault.compared else OperandFault.binary
  throw (.host (.operand
    (fault (op.symbol?.getD op.name) (objects.className left) (objects.className right))))

end Ask

namespace HostValue

/-- The members of a row once for each of a number of times; a negative number counts as zero. -/
def times {α : Type} (count : Int) (members : List α) : List α :=
  if members.isEmpty then [] else (List.replicate count.toNat members).flatten

/-- A row joined to itself a number of times, as a new row; all but a list taken once stay as is. -/
def repeated? (id : Nat) (count : Int) : HostValue → Option HostValue
  | text given value =>
    some (text (if count = 1 then given else id) (String.ofList (times count value.toList)))
  | list _ items => some (list id (times count items))
  | tuple given items => some (tuple (if count = 1 then given else id) (times count items))
  | _ => Option.none

/-- Two rows of one kind joined to a new one; all but lists stay as is if the other is empty. -/
def joined? (id : Nat) : HostValue → HostValue → Option HostValue
  | text given left, text other right =>
    some (text (if right = "" then given else if left = "" then other else id) (left ++ right))
  | list _ left, list _ right => some (list id (left ++ right))
  | tuple given left, tuple other right =>
    some (tuple (if right.isEmpty then given else if left.isEmpty then other else id)
      (left ++ right))
  | _, _ => Option.none

/-- The length of a row that can be joined and repeated. -/
def rowLength? : HostValue → Option Nat
  | text _ value => some value.length
  | list _ items => some items.length
  | tuple _ items => some items.length
  | _ => Option.none

/-- Whether a value is a row that can be joined and repeated. -/
def isRow (value : HostValue) : Bool :=
  value.rowLength?.isSome

/-- The greatest length that there is room for when a row is repeated. -/
def greatestLength : Nat :=
  Nat.pow 2 24

/-- Why a row of a length cannot be repeated a number of times. -/
def repetitionFault? (count : Int) (length : Nat) (row : HostValue) : Option HostFault :=
  let total := length * count.toNat
  let bound := Nat.pow 2 63
  if count < -(bound : Int) ∨ (bound : Int) ≤ count then some (.overflow .repetitions)
  else if bound ≤ total ∧ row matches text _ _ then some (.overflow .repeatedText)
  else if greatestLength < total then some .memory
  else Option.none

end HostValue

namespace Build

/-- A number that the host computes. -/
def literalOf (outcome : Except HostFault Literal) : Build HostValue := do
  return .literal (← freshKey) (← Ask.ofHost outcome)

/-- Whether two values are equal, of which one is an expression: only if they are the same one. -/
def equalsExpr (expr : Expr) (other : HostValue) : Build Bool := do
  if (HostValue.expr expr).isSame other then return true
  else
    let comparison ← binaryOp .equal (.expr expr) other
    throw (.quoting comparison.text fun text => .type (.truthValue text))

mutual

/-- Whether the host finds two values equal. -/
def equals : HostValue → HostValue → Build Bool
  | .expr left, right => equalsExpr left right
  | left, .expr right => equalsExpr right left
  | .literal _ left, .literal _ right => return Literal.order? left right = some .eq
  | .text _ left, .text _ right => return left == right
  | .axis _ left, .axis _ right => return left == right
  | .list _ left, .list _ right =>
    if left.length = right.length then equalRows left right else return false
  | .tuple _ left, .tuple _ right => equalRows left right
  | left, right => return left.isSame right

/-- Whether the host finds the members of two rows equal; a member is always equal to itself. -/
def equalRows : List HostValue → List HostValue → Build Bool
  | left :: lefts, right :: rights => do
    if left.isSame right then equalRows lefts rights
    else if ← equals left right then equalRows lefts rights
    else return false
  | [], [] => return true
  | _, _ => return false

end

/-- What a comparison answers for an order of its operands. -/
def orderAnswer (op : BinaryOp) (order : Ordering) : HostValue :=
  .bool 0 ((Literal.compared? op (some order)).getD false)

mutual

/-- What a comparison by order answers. -/
def compared (op : BinaryOp) : HostValue → HostValue → Build HostValue
  | .expr left, right => .expr <$> binaryOp op (.expr left) right
  | left, .expr right => .expr <$> binaryOp (op.converse?.getD op) (.expr right) left
  | .literal _ left, .literal _ right => literalOf (Literal.binary op left right)
  | .text _ left, .text _ right => return orderAnswer op (compare left right)
  | .list _ left, .list _ right => comparedRows op left right
  | .tuple _ left, .tuple _ right => comparedRows op left right
  | left, right => Ask.refuseOperands op left right

/-- What a comparison of rows answers: the first members that differ decide, else the lengths. -/
def comparedRows (op : BinaryOp) : List HostValue → List HostValue → Build HostValue
  | left :: lefts, right :: rights => do
    if left.isSame right then comparedRows op lefts rights
    else if ← equals left right then comparedRows op lefts rights
    else compared op left right
  | lefts, rights => return orderAnswer op (compare lefts.length rights.length)

end

/-- Two values joined, of which the first has to be a row. -/
def joined (left right : HostValue) : Build HostValue := do
  match HostValue.joined? (← freshKey) left right with
  | some result => return result
  | none =>
    if left.isRow then Ask.refuse right (.joined left.className)
    else Ask.refuseOperands .add left right

/-- A row repeated as often as the other value says. -/
def repeated (left right : HostValue) : Build HostValue := do
  let (row, count) := if left.isRow then (left, right) else (right, left)
  match row.rowLength?, count.whole? with
  | none, _ => Ask.refuseOperands .mul left right
  | some _, none => Ask.refuse count .repeated
  | some length, some times =>
    if let some fault := row.repetitionFault? times length then
      throw (.host fault)
    match row.repeated? (← freshKey) times with
    | some result => return result
    | none => Ask.refuseOperands .mul left right

/-- What an operator answers for two values that are not expressions. -/
def computed (op : BinaryOp) (left right : HostValue) : Build HostValue := do
  match op, left, right with
  | .equal, left, right => return .bool 0 (← equals left right)
  | .notEqual, left, right => return .bool 0 !(← equals left right)
  | op, .literal _ left, .literal _ right => literalOf (Literal.binary op left right)
  | .add, left, right => joined left right
  | .mul, left, right => repeated left right
  | op, left, right =>
    if op.isComparison then compared op left right else Ask.refuseOperands op left right

/-- A template filled in with an expression. -/
def filledIn (template : String) (value : Expr) : Build HostValue := do
  let written (text : Except HostFault String) : Except Text.Template.Fault String :=
    text.mapError fun _ => .unwritten
  match Text.Template.fill template ⟨written value.text, written (Listing.expr value)⟩ with
  | .ok text => return .text (← freshKey) text
  | .error (.member key) => item (.expr value) (.text 0 key)
  | .error .noRoom => throw (.host .memory)
  | .error .unwritten => throw (.host (.value .longNumber))
  | .error fault =>
    if fault.isMalformed then throw (.host (.value (.template fault)))
    else throw (.host (.operand (.template fault value.formName)))

/-- An operator written between two values in host code. With an expression among the operands it is
recorded: arithmetic can have its expression on the right; a comparison with the expression on the
right is recorded the other way round; and the bitwise operators need their expression on the left.
The remainder sign behind a text fills the text in. -/
def operator (op : BinaryOp) (left right : HostValue) : Build HostValue := do
  match left, right with
  | .expr _, _ => return .expr (← binaryOp op left right)
  | _, .expr value =>
    match op.converse?, op, left with
    | some converse, _, _ => return .expr (← binaryOp converse right left)
    | none, .mod, .text _ template => filledIn template value
    | none, op, _ =>
      if op.isBitwise then Ask.refuseOperands op left right
      else return .expr (← binaryOp op left right)
  | _, _ => computed op left right

/-- A sign written before a value in host code: one that negates, or one that changes all bits. -/
def signed (negates : Bool) (operand : HostValue) : Build HostValue := do
  match operand, negates with
  | .expr _, true => return .expr (← unaryOp .neg operand)
  | .expr _, false => return .expr (← unaryOp .bitNot operand)
  | .literal _ value, true => literalOf (.ok value.negated)
  | .literal _ value, false => literalOf value.complement
  | operand, negates => Ask.refuse operand (.unary (if negates then "-" else "~"))

end Build

end FieldKernel
