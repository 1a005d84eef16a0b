import Mathlib
import FieldKernel.Layout.Tree
import FieldKernel.Recording.Stmt

/-!
# Types of recorded expressions

The type of an expression follows from the types of the variables and fields
in it.  The type of a variable follows from the statements that come before
its use in program order: a declaration without a type takes the type of the
first value that is assigned to the variable, and a loop gives its variables
the type `i32`.
-/

namespace FieldKernel

namespace BinaryOp

/-- The type that both operands are brought to.  There is no arithmetic on
truth values, so two of them are widened. -/
def operandType (left right : DataType) : DataType :=
  if left.promote right = .u1 then .i32 else left.promote right

/-- Operands of a common type that is not known are of a type that is not known. -/
theorem operandType_eq_unknown {left right : DataType}
    (unknown : operandType left right = .unknown) :
    left = .unknown ∨ right = .unknown := by
  simp only [operandType, DataType.promote] at unknown
  grind

/-- The type of the result on operands of one type. -/
def computedType (op : BinaryOp) (type : DataType) : DataType :=
  if op.isComparison then .i32 else type

end BinaryOp

namespace UnaryOp

/-- The type that an operand is widened to: only the negation of a condition
works on truth values. -/
def widened (op : UnaryOp) (type : DataType) : DataType :=
  if type = .u1 ∧ op ≠ .logicNot then .i32 else type

/-- The type that a widened operand is brought to for an operator that
computes in floating point. -/
def floated (op : UnaryOp) (type : DataType) : DataType :=
  if op.isFloating ∧ !type.isFloat then .f32 else type

/-- The type of the result on an operand of a type. -/
def computedType (op : UnaryOp) (type : DataType) : DataType :=
  if op = .logicNot then .i32 else type

end UnaryOp

/-- What the type of an expression depends on: the types of variables, by the
number of their identifier, and the leaves that fields are placed at. -/
structure Typing where
  ofVariable : Nat → DataType
  leafOf? : Field → Option Node

namespace Typing

/-- The type of the elements of a field. -/
def ofElements (typing : Typing) (field : Field) : DataType :=
  ((typing.leafOf? field).map Node.type).getD .unknown

/-- The type of an expression. -/
def typeOf (typing : Typing) : Expr → DataType
  | .identifier var => typing.ofVariable var.identifier.id
  | .literal _ _ type => type
  | .binary _ op left right =>
    op.computedType (BinaryOp.operandType (typing.typeOf left) (typing.typeOf right))
  | .unary _ op operand =>
    op.computedType (op.floated (op.widened (typing.typeOf operand)))
  | .cast _ _ type => type
  | .field declared => declared.type
  | .element _ field _ => typing.ofElements field
  | .load _ _ field _ => typing.ofElements field
  | .argument _ _ type => type

end Typing

/-- What is known about the types of variables at a point of a body. -/
structure VariableTypes where
  /-- The type of the latest declaration. -/
  declared : Nat → DataType
  /-- The type at the first use, which a variable keeps. -/
  settled : Nat → DataType

namespace VariableTypes

/-- Nothing is known before the first statement. -/
def none : VariableTypes :=
  ⟨fun _ => .unknown, fun _ => .unknown⟩

/-- The types of expressions, as far as variables have settled. -/
def typing (types : VariableTypes) (leafOf? : Field → Option Node) : Typing :=
  ⟨types.settled, leafOf?⟩

/-- A declaration replaces an earlier one. -/
def declare (types : VariableTypes) (id : Nat) (type : DataType) : VariableTypes :=
  { types with declared := Function.update types.declared id type }

/-- A variable that is used for the first time settles at its declared type. -/
def settle (types : VariableTypes) (id : Nat) : VariableTypes :=
  if types.settled id = .unknown then
    { types with settled := Function.update types.settled id (types.declared id) }
  else types

mutual

/-- The variables in an expression are used from left to right. -/
def read (types : VariableTypes) : Expr → VariableTypes
  | .identifier var => types.settle var.identifier.id
  | .literal _ _ _ => types
  | .binary _ _ left right => (types.read left).read right
  | .unary _ _ operand => types.read operand
  | .cast _ operand _ => types.read operand
  | .field _ => types
  | .element _ _ indices => types.readAll indices
  | .load _ _ _ indices => types.readAll indices
  | .argument _ _ _ => types

/-- The variables in a row of expressions are used from left to right. -/
def readAll (types : VariableTypes) : List Expr → VariableTypes
  | [] => types
  | first :: rest => (types.read first).readAll rest

end

/-- A value of the host that is an expression is used as one. -/
def readValue (types : VariableTypes) : HostValue → VariableTypes
  | .expr value => types.read value
  | _ => types

/-- The bounds of a loop over a range are used when the loop is entered. -/
def readSource (types : VariableTypes) : LoopSource → VariableTypes
  | .range first last => (types.read first).read last
  | .elements _ => types

/-- An assignment gives a variable without a type that of the value. -/
def assign (types : VariableTypes) (leafOf? : Field → Option Node) (id : Nat)
    (value : Expr) : VariableTypes :=
  let types := types.read value
  let type :=
    if types.declared id = .unknown then (types.typing leafOf?).typeOf value
    else types.declared id
  (types.declare id type).settle id

/-- The variables of a loop count in `i32`. -/
def count (types : VariableTypes) : List Variable → VariableTypes
  | [] => types
  | var :: rest => ((types.declare var.identifier.id .i32).settle var.identifier.id).count rest

mutual

/-- The types of variables behind a statement. -/
def stmt (leafOf? : Field → Option Node) (types : VariableTypes) : Stmt → VariableTypes
  | .alloca _ identifier type => types.declare identifier.id type
  | .assign _ (.identifier var) value => types.assign leafOf? var.identifier.id value
  | .assign _ (.element _ _ indices) value => (types.readAll indices).read value
  | .assign _ _ _ => types
  | .store _ place value => (types.readAll place.indices).read value
  | .load _ place => types.readAll place.indices
  | .print _ value _ => types.readValue value
  | .branch _ condition onTrue onFalse =>
    block leafOf? (block leafOf? (types.readValue condition) onTrue) onFalse
  | .loop _ vars source _ body =>
    block leafOf? ((types.readSource source).count vars) body
  | .bare _ => types
  | .endless => types

/-- The types of variables behind the statements of a block. -/
def block (leafOf? : Field → Option Node) (types : VariableTypes) : List Stmt → VariableTypes
  | [] => types
  | first :: rest => block leafOf? (stmt leafOf? types first) rest

end

theorem declare_self (types : VariableTypes) (id : Nat) :
    types.declare id (types.declared id) = types := by
  simp [declare]

@[simp] theorem settle_declared (types : VariableTypes) (id : Nat) :
    (types.settle id).declared = types.declared := by
  unfold settle
  split <;> rfl

mutual

/-- The use of variables declares nothing. -/
theorem read_declared (types : VariableTypes) (expr : Expr) :
    (types.read expr).declared = types.declared := by
  cases expr with
  | identifier var => exact settle_declared types _
  | literal | field | argument => rfl
  | binary key op left right =>
      rw [read, read_declared (types.read left) right, read_declared types left]
  | unary key op operand => exact read_declared types operand
  | cast key operand type => exact read_declared types operand
  | element key field indices => exact readAll_declared types indices
  | load key elementKey field indices => exact readAll_declared types indices

theorem readAll_declared (types : VariableTypes) (indices : List Expr) :
    (types.readAll indices).declared = types.declared := by
  cases indices with
  | nil => rfl
  | cons index rest =>
      rw [readAll, readAll_declared (types.read index) rest, read_declared types index]

end

/-- What is declared of a variable is what it has settled at, or nothing. -/
def Agrees (types : VariableTypes) : Prop :=
  ∀ id, types.declared id = .unknown ∨ types.settled id = types.declared id

theorem agrees_none : none.Agrees :=
  fun _ => .inl rfl

/-- A declaration without a type says nothing. -/
theorem Agrees.undeclare {types : VariableTypes} (agrees : types.Agrees) (id : Nat) :
    (types.declare id .unknown).Agrees := by
  intro other
  by_cases same : other = id
  · exact .inl (by simp [declare, same])
  · simpa [declare, same] using agrees other

theorem Agrees.settle {types : VariableTypes} (agrees : types.Agrees) (id : Nat) :
    (types.settle id).Agrees := by
  intro other
  rw [settle_declared]
  unfold VariableTypes.settle
  split
  · by_cases same : other = id
    · exact .inr (by simp [same])
    · simpa [same] using agrees other
  · exact agrees other

/-- A variable is declared again with the type that it settles at. -/
theorem Agrees.redeclare {types : VariableTypes} (agrees : types.Agrees) {id : Nat}
    {type : DataType} (settled : ((types.declare id type).settle id).settled id = type) :
    ((types.declare id type).settle id).Agrees := by
  intro other
  by_cases same : other = id
  · subst same
    exact .inr (by simpa [declare] using settled)
  · have kept := agrees other
    rw [settle_declared]
    unfold VariableTypes.settle
    split <;> simpa [declare, same] using kept

mutual

theorem Agrees.read {types : VariableTypes} (agrees : types.Agrees) (expr : Expr) :
    (types.read expr).Agrees := by
  cases expr with
  | identifier var => exact agrees.settle _
  | literal | field | argument => exact agrees
  | binary key op left right => exact (agrees.read left).read right
  | unary key op operand => exact agrees.read operand
  | cast key operand type => exact agrees.read operand
  | element key field indices => exact agrees.readAll indices
  | load key elementKey field indices => exact agrees.readAll indices

theorem Agrees.readAll {types : VariableTypes} (agrees : types.Agrees) (indices : List Expr) :
    (types.readAll indices).Agrees := by
  cases indices with
  | nil => exact agrees
  | cons index rest => exact (agrees.read index).readAll rest

end

theorem Agrees.readValue {types : VariableTypes} (agrees : types.Agrees) (value : HostValue) :
    (types.readValue value).Agrees := by
  cases value with
  | expr value => exact agrees.read value
  | _ => exact agrees

end VariableTypes

mutual

/-- No declaration in a statement gives a type, and all loops over ranges have
one variable. -/
def Stmt.Plain : Stmt → Prop
  | .alloca _ _ type => type = .unknown
  | .branch _ _ onTrue onFalse => Stmt.BlockPlain onTrue ∧ Stmt.BlockPlain onFalse
  | .loop _ vars (.range _ _) _ body => vars.length = 1 ∧ Stmt.BlockPlain body
  | .loop _ _ (.elements _) _ body => Stmt.BlockPlain body
  | _ => True

def Stmt.BlockPlain : List Stmt → Prop
  | [] => True
  | first :: rest => first.Plain ∧ Stmt.BlockPlain rest

end

end FieldKernel
