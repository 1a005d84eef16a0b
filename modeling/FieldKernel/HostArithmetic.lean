import FieldKernel.Error

/-!
# Arithmetic of host code

Operators between literals alone are computed by the host before anything is recorded. Integers
have no width there, so nothing wraps around; a quotient is a floating-point number; a remainder
has the sign of the divisor; and a truth value counts as the integer zero or one.
-/

namespace FieldKernel.Literal

/-- The whole number that a literal is written as, if it is one. -/
def whole? : Literal → Option Int
  | bool value => some (if value then 1 else 0)
  | int value => some value
  | float _ => none

/-- The nearest double of a quotient with a sign, unless it is beyond all doubles. -/
def quotient? (negative : Bool) (numerator denominator : Nat) : Option Float :=
  if numerator = 0 then some (if negative then -0.0 else 0.0)
  else
    let nearest := (Dyadic.nearest negative numerator denominator).toFloat
    if nearest.isInf then none else some nearest

def toFloat (literal : Literal) : Except HostFault Float :=
  match literal with
  | float value => .ok value
  | bool value => .ok (if value then 1 else 0)
  | int value =>
    match quotient? (value < 0) value.natAbs 1 with
    | some value => .ok value
    | none => .error (.overflow .float)

def className : Literal → String
  | bool _ => "bool"
  | int _ => "int"
  | float _ => "float"

/-- The fault of an operator that is not made for its operands. -/
def refused (op : BinaryOp) (left right : Literal) : HostFault :=
  .operand (.binary (op.symbol?.getD op.name) left.className right.className)

/-- What a comparison answers, given how its operands are ordered if they are. -/
def compared? (op : BinaryOp) (order? : Option Ordering) : Option Bool :=
  match op with
  | .less => some (order? = some .lt)
  | .lessEqual => some (order? = some .lt ∨ order? = some .eq)
  | .greater => some (order? = some .gt)
  | .greaterEqual => some (order? = some .gt ∨ order? = some .eq)
  | .equal => some (order? = some .eq)
  | .notEqual => some (order? ≠ some .eq)
  | _ => none

/-- How two literals are ordered by their exact values; a missing number is not ordered. -/
def order? (left right : Literal) : Option Ordering :=
  match left, right with
  | float left, float right =>
    if left < right then some .lt
    else if left == right then some .eq
    else if right < left then some .gt
    else none
  | float left, right => right.whole?.bind fun right => (wholeOrder? right left).map Ordering.swap
  | left, float right => left.whole?.bind fun left => wholeOrder? left right
  | left, right => do return compare (← left.whole?) (← right.whole?)
where
  /-- How a whole number is ordered to a double. -/
  wholeOrder? (left : Int) (right : Float) : Option Ordering :=
    match FloatValue.ofFloat right with
    | .nan => none
    | .infinite negative => some (if negative then .gt else .lt)
    | .finite right =>
      let (numerator, denominator) := right.magnitude
      let signed : Int := if right.negative then -numerator else numerator
      some (compare (left * denominator) signed)

/-- A bitwise operation on two whole numbers, in a width that has room for both. -/
def bitwise (combine : {width : Nat} → BitVec width → BitVec width → BitVec width)
    (left right : Int) : Int :=
  let width := max left.natAbs.log2 right.natAbs.log2 + 2
  (combine (BitVec.ofInt width left) (BitVec.ofInt width right)).toInt

/-- What an operator computes from two whole numbers. -/
def wholeBinary (op : BinaryOp) (left right : Int) : Except HostFault Literal :=
  match op with
  | .add => .ok (.int (left + right))
  | .sub => .ok (.int (left - right))
  | .mul => .ok (.int (left * right))
  | .div =>
    if right = 0 then .error (.divisionByZero .quotient)
    else
      -- A quotient of zero by a negative number is minus zero.
      match quotient? ((left < 0) != (right < 0)) left.natAbs right.natAbs with
      | some quotient => .ok (.float quotient)
      | none => .error (.overflow .quotient)
  | .mod =>
    if right = 0 then .error (.divisionByZero .remainder) else .ok (.int (left.fmod right))
  | .bitAnd => .ok (.int (bitwise BitVec.and left right))
  | .bitOr => .ok (.int (bitwise BitVec.or left right))
  | .bitXor => .ok (.int (bitwise BitVec.xor left right))
  | op => .error (refused op (.int left) (.int right))

/-- The remainder of two doubles with the sign of the divisor, also if it is zero. -/
def floatRemainder (left right : Float) : Float :=
  let remainder := FloatValue.remainder left right
  if remainder == 0 then (if right < 0 then -0.0 else 0.0)
  else if (remainder < 0) != (right < 0) then remainder + right
  else remainder

/-- What an operator computes from two floating-point numbers. -/
def floatBinary (op : BinaryOp) (left right : Float) : Except HostFault Literal :=
  match op with
  | .add => .ok (.float (left + right))
  | .sub => .ok (.float (left - right))
  | .mul => .ok (.float (left * right))
  | .div =>
    if right == 0 then .error (.divisionByZero .floatQuotient) else .ok (.float (left / right))
  | .mod =>
    if right == 0 then .error (.divisionByZero .floatRemainder)
    else .ok (.float (floatRemainder left right))
  | op => .error (refused op (.float left) (.float right))

/-- What an operator computes from two literals. -/
def binary (op : BinaryOp) (left right : Literal) : Except HostFault Literal :=
  match compared? op (order? left right), left, right with
  | some holds, _, _ => .ok (.bool holds)
  | none, .bool left, .bool right =>
    match op with
    | .bitAnd => .ok (.bool (left && right))
    | .bitOr => .ok (.bool (left || right))
    | .bitXor => .ok (.bool (left ^^ right))
    | op => wholeBinary op (if left then 1 else 0) (if right then 1 else 0)
  | none, left, right =>
    match left.whole?, right.whole? with
    | some left, some right => wholeBinary op left right
    | _, _ =>
      if op.isBitwise then .error (refused op left right)
      else do floatBinary op (← left.toFloat) (← right.toFloat)

def negated (literal : Literal) : Literal :=
  match literal with
  | float value => .float (-value)
  | bool value => .int (if value then -1 else 0)
  | int value => .int (-value)

/-- A whole number with all its bits changed. -/
def complement (literal : Literal) : Except HostFault Literal :=
  match literal.whole? with
  | some value => .ok (.int (-value - 1))
  | none => .error (.operand (.unary "~" literal.className))

end FieldKernel.Literal
