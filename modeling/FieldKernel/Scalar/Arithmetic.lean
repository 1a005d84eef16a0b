import FieldKernel.Operator
import FieldKernel.Scalar.Basic

/-!
# Scalar arithmetic

What the operators compute. Integers wrap around; their division truncates, and dividing by zero
gives a number with all bits set and leaves the dividend as remainder. Floating-point operations
are those of the operands' own width. Both operands must have the same type.
-/

namespace FieldKernel.Scalar

/-- The result of a comparison. -/
def ofComparison (holds : Bool) : Scalar :=
  ofInt ⟨true, .w32⟩ (if holds then 1 else 0)

@[simp] theorem type_ofComparison (holds : Bool) : (ofComparison holds).type = .i32 := rfl

/-- What a comparison answers about two values, of which the order and the equality are given. -/
def comparison? (op : BinaryOp) (less equal greater : Bool) : Option Scalar :=
  match op with
  | .less => some (ofComparison less)
  | .lessEqual => some (ofComparison (less || equal))
  | .greater => some (ofComparison greater)
  | .greaterEqual => some (ofComparison (greater || equal))
  | .equal => some (ofComparison equal)
  | .notEqual => some (ofComparison !equal)
  | _ => none

/-- A bitwise operation on two numbers of a type, as a number modulo the type's size. -/
def bitwise (combine : {width : Nat} → BitVec width → BitVec width → BitVec width)
    (type : IntType) (left right : Int) : Int :=
  (combine (BitVec.ofInt type.width.bits left) (BitVec.ofInt type.width.bits right)).toNat

/-- The number, modulo the size of the type, that an operator computes from two integers. -/
def intResult? (op : BinaryOp) (type : IntType) (left right : Int) : Option Int :=
  match op with
  | .add => some (left + right)
  | .sub => some (left - right)
  | .mul => some (left * right)
  | .div => some (if right = 0 then -1 else left.tdiv right)
  | .mod => some (if right = 0 then left else left.tmod right)
  | .max => some (max left right)
  | .min => some (min left right)
  | .bitAnd => some (bitwise BitVec.and type left right)
  | .bitOr => some (bitwise BitVec.or type left right)
  | .bitXor => some (bitwise BitVec.xor type left right)
  | _ => none

/-- An operator on two integers of one type. -/
def intBinary? (op : BinaryOp) (type : IntType) (left right : Int) : Option Scalar :=
  if op.isComparison then comparison? op (left < right) (left = right) (right < left)
  else (intResult? op type left right).map (ofInt type)

/-- An operator on two truth values; there is no arithmetic on them. -/
def boolBinary? (op : BinaryOp) (left right : Bool) : Option Scalar :=
  match op with
  | .max | .bitOr => some (.bool (left || right))
  | .min | .bitAnd => some (.bool (left && right))
  | .bitXor => some (.bool (left ^^ right))
  | op => comparison? op (!left && right) (left == right) (left && !right)

/-- The greater of two doubles. A missing number wins, and zero is greater than minus zero. -/
def floatMax (left right : Float) : Float :=
  if left.isNaN then left
  else if right.isNaN then right
  else if left < right then right
  else if right < left then left
  else if left.toBits.toNat / Nat.pow 2 63 = 1 then right
  else left

/-- The lesser of two doubles. A missing number wins, and minus zero is less than zero. -/
def floatMin (left right : Float) : Float :=
  if left.isNaN then left
  else if right.isNaN then right
  else if left < right then left
  else if right < left then right
  else if left.toBits.toNat / Nat.pow 2 63 = 1 then left
  else right

/-- The double that an arithmetic operator computes. -/
def floatResult? (op : BinaryOp) (left right : Float) : Option Float :=
  match op with
  | .add => some (left + right)
  | .sub => some (left - right)
  | .mul => some (left * right)
  | .div => some (left / right)
  | .mod => some (FloatValue.remainder left right)
  | .max => some (floatMax left right)
  | .min => some (floatMin left right)
  | _ => none

/-- The single-precision number that an arithmetic operator computes. -/
def singleResult? (op : BinaryOp) (left right : Float32) : Option Float32 :=
  match op with
  | .add => some (left + right)
  | .sub => some (left - right)
  | .mul => some (left * right)
  | .div => some (left / right)
  -- These are exact, so that widening the operands does not round their result twice.
  | op => (floatResult? op left.toFloat right.toFloat).map Float.toFloat32

/-- What a comparison answers about two doubles; a missing number is equal to nothing. -/
def floatComparison? (op : BinaryOp) (left right : Float) : Option Scalar :=
  comparison? op (left < right) (left == right) (right < left)

/-- An operator on two scalars, which must have the same type and a type it is made for. -/
def binary? (op : BinaryOp) (left right : Scalar) : Option Scalar :=
  match left, right with
  | bool left, bool right => boolBinary? op left right
  | int leftType left _, int rightType right _ =>
    if leftType = rightType then intBinary? op leftType left right else none
  | f32 left, f32 right =>
    if op.isComparison then floatComparison? op left.toFloat right.toFloat
    else (singleResult? op left right).map .f32
  | f64 left, f64 right =>
    if op.isComparison then floatComparison? op left right
    else (floatResult? op left right).map .f64
  | _, _ => none

/-- An operator on one double. -/
def floatUnary? (op : UnaryOp) (value : Float) : Option Float :=
  match op with
  | .neg => some (-value)
  | .sqrt => some value.sqrt
  | .floor => some value.floor
  | .ceil => some value.ceil
  | .abs => some value.abs
  | .sin => some value.sin
  | .cos => some value.cos
  | .exp => some value.exp
  | .log => some value.log
  | .logicNot | .bitNot => none

/-- An operator on one single-precision number. -/
def singleUnary? (op : UnaryOp) (value : Float32) : Option Float32 :=
  match op with
  | .neg => some (-value)
  | .sqrt => some value.sqrt
  | .floor => some value.floor
  | .ceil => some value.ceil
  | .abs => some value.abs
  | op => (floatUnary? op value.toFloat).map Float.toFloat32

/-- An operator on one integer; an unsigned integer has no absolute value. -/
def intUnary? (op : UnaryOp) (type : IntType) (value : Int) : Option Int :=
  match op with
  | .neg => some (-value)
  | .abs => if type.signed then some value.natAbs else none
  | .floor | .ceil => some value
  | .bitNot => some (-value - 1)
  | _ => none

/-- An operator on one scalar, which must have a type that the operator is made for. -/
def unary? (op : UnaryOp) (value : Scalar) : Option Scalar :=
  match op, value with
  | .logicNot, value => some (ofComparison !value.isTrue)
  | .floor, bool value | .ceil, bool value => some (.bool value)
  | .bitNot, bool value => some (.bool !value)
  | _, bool _ => none
  | op, int type value _ => (intUnary? op type value).map (ofInt type)
  | op, f32 value => (singleUnary? op value).map .f32
  | op, f64 value => (floatUnary? op value).map .f64

end FieldKernel.Scalar
