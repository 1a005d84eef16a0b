import FieldKernel.DataType

/-!
# Operators of expressions

The binary and unary operators that an expression can record, the names they are known by, and the
type of a binary operation's result.
-/

namespace FieldKernel

/-- An operator with two operands. -/
inductive BinaryOp where
  | add
  | sub
  | mul
  | div
  | mod
  | max
  | min
  | less
  | lessEqual
  | greater
  | greaterEqual
  | equal
  | notEqual
  | bitAnd
  | bitOr
  | bitXor
  deriving DecidableEq, Repr

namespace BinaryOp

def all : List BinaryOp :=
  [add, sub, mul, div, mod, max, min, less, lessEqual, greater, greaterEqual, equal, notEqual,
    bitAnd, bitOr, bitXor]

def name : BinaryOp → String
  | add => "add"
  | sub => "sub"
  | mul => "mul"
  | div => "div"
  | mod => "mod"
  | max => "max"
  | min => "min"
  | less => "cmp_lt"
  | lessEqual => "cmp_le"
  | greater => "cmp_gt"
  | greaterEqual => "cmp_ge"
  | equal => "cmp_eq"
  | notEqual => "cmp_ne"
  | bitAnd => "bit_and"
  | bitOr => "bit_or"
  | bitXor => "bit_xor"

def ofName? (name : String) : Option BinaryOp :=
  all.find? (·.name = name)

theorem ofName?_name (op : BinaryOp) : ofName? op.name = some op := by
  cases op <;> decide

/-- The sign written between the operands; `max` and `min` are written as functions. -/
def symbol? : BinaryOp → Option String
  | add => some "+"
  | sub => some "-"
  | mul => some "*"
  | div => some "/"
  | mod => some "%"
  | max => none
  | min => none
  | less => some "<"
  | lessEqual => some "<="
  | greater => some ">"
  | greaterEqual => some ">="
  | equal => some "=="
  | notEqual => some "!="
  | bitAnd => some "&"
  | bitOr => some "|"
  | bitXor => some "^"

/-- The operators that compare and answer with zero or one. -/
def isComparison : BinaryOp → Bool
  | less | lessEqual | greater | greaterEqual | equal | notEqual => true
  | _ => false

/-- The operators that need integer operands. -/
def isBitwise : BinaryOp → Bool
  | bitAnd | bitOr | bitXor => true
  | _ => false

/-- The operators that host code can also apply by a function: those of arithmetic and
comparison. -/
def hasFunction (op : BinaryOp) : Bool :=
  !op.isBitwise && op.symbol?.isSome

/-- The type of a result: a comparison answers in `i32`, all else in the promoted type. -/
def resultType (op : BinaryOp) (left right : DataType) : DataType :=
  if op.isComparison then .i32 else left.promote right

/-- The operator that records the same comparison with its operands exchanged; the equalities are
their own converses, and an operator that does not compare has none. -/
def converse? : BinaryOp → Option BinaryOp
  | less => some greater
  | lessEqual => some greaterEqual
  | greater => some less
  | greaterEqual => some lessEqual
  | equal => some equal
  | notEqual => some notEqual
  | _ => none

def ofSymbol? (symbol : String) : Option BinaryOp :=
  all.find? (·.symbol? = some symbol)

end BinaryOp

/-- An operator with one operand. -/
inductive UnaryOp where
  | neg
  | sqrt
  | floor
  | ceil
  | abs
  | sin
  | cos
  | exp
  | log
  | logicNot
  | bitNot
  deriving DecidableEq, Repr

namespace UnaryOp

def all : List UnaryOp :=
  [neg, sqrt, floor, ceil, abs, sin, cos, exp, log, logicNot, bitNot]

def name : UnaryOp → String
  | neg => "neg"
  | sqrt => "sqrt"
  | floor => "floor"
  | ceil => "ceil"
  | abs => "abs"
  | sin => "sin"
  | cos => "cos"
  | exp => "exp"
  | log => "log"
  | logicNot => "logic_not"
  | bitNot => "bit_not"

def ofName? (name : String) : Option UnaryOp :=
  all.find? (·.name = name)

theorem ofName?_name (op : UnaryOp) : ofName? op.name = some op := by
  cases op <;> decide

/-- The operators that are computed in floating point whatever their operand is. -/
def isFloating : UnaryOp → Bool
  | sqrt | sin | cos | exp | log => true
  | _ => false

end UnaryOp

end FieldKernel
