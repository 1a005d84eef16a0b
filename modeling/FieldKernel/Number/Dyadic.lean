/-!
# Exact values of floating-point numbers

A finite floating-point number is `significand * 2 ^ exponent` with a sign. This module reads that
form from the bits of a double, and derives from it the operations that have to be exact: the
integer part, the remainder of a truncated division, and the nearest double to a quotient.
-/

namespace FieldKernel

/-- A signed number `significand * 2 ^ exponent`. -/
structure Dyadic where
  negative : Bool
  significand : Nat
  exponent : Int
  deriving DecidableEq, Repr

namespace Dyadic

/-- The magnitude as a quotient of two natural numbers, of which the second is positive. -/
def magnitude (value : Dyadic) : Nat × Nat :=
  (value.significand * Nat.pow 2 value.exponent.toNat, Nat.pow 2 (-value.exponent).toNat)

/-- A signed zero keeps its sign in `negative`, so it is zero by its significand alone. -/
def isZero (value : Dyadic) : Bool :=
  value.significand = 0

/-- The integer part: what remains after dropping the digits behind the point. -/
def truncate (value : Dyadic) : Int :=
  let whole : Int := value.magnitude.1 / value.magnitude.2
  if value.negative then -whole else whole

end Dyadic

/-- What a floating-point number stands for. -/
inductive FloatValue where
  | finite (value : Dyadic)
  | infinite (negative : Bool)
  | nan
  deriving DecidableEq, Repr

namespace FloatValue

/-- The value of a 64-bit pattern: a sign bit, eleven bits of biased exponent and 52 bits of
fraction. -/
def ofBits (bits : Nat) : FloatValue :=
  let negative : Bool := bits / Nat.pow 2 63 % 2 = 1
  let field : Nat := bits / Nat.pow 2 52 % Nat.pow 2 11
  let fraction : Nat := bits % Nat.pow 2 52
  if field = 2047 then
    if fraction = 0 then .infinite negative else .nan
  else if field = 0 then .finite ⟨negative, fraction, -1074⟩
  else .finite ⟨negative, Nat.pow 2 52 + fraction, field - 1075⟩

/-- The value of a double. -/
def ofFloat (number : Float) : FloatValue :=
  ofBits number.toBits.toNat

/-- The integer part, where there is one. -/
def truncate? : FloatValue → Option Int
  | .finite value => some value.truncate
  | .infinite _ => none
  | .nan => none

end FloatValue

/-- The number with 53 bits that is nearest to a quotient of two positive numbers, a tie going to
the even one. Below the least normal double the bits end where those of doubles do. -/
def Dyadic.nearest (negative : Bool) (numerator denominator : Nat) : Dyadic :=
  let scale (exponent : Int) : Nat × Nat :=
    (numerator * Nat.pow 2 (-exponent).toNat, denominator * Nat.pow 2 exponent.toNat)
  -- The quotient is between `2 ^ 51` and `2 ^ 53` of these units.
  let coarse : Int := (numerator.log2 : Int) - denominator.log2 - 52
  let exponent :=
    if (scale coarse).1 / (scale coarse).2 < Nat.pow 2 52 then coarse - 1 else coarse
  let exponent := max exponent (-1074)
  let (up, down) := scale exponent
  let below := up / down
  let twice := 2 * (up % down)
  let roundUp : Bool := down < twice ∨ (down = twice ∧ below % 2 = 1)
  ⟨negative, if roundUp then below + 1 else below, exponent⟩

/-- The double `value`, which the significand and the exponent have to fit. -/
def Dyadic.toFloat (value : Dyadic) : Float :=
  let magnitude := (Float.ofNat value.significand).scaleB value.exponent
  if value.negative then -magnitude else magnitude

/-- The remainder of dividing two doubles with the quotient truncated: it has the sign of the
dividend and is exact. There is no remainder of an infinity, nor of a division by zero, and dividing
by an infinity leaves the dividend. -/
def FloatValue.remainder (dividend divisor : Float) : Float :=
  match ofFloat dividend, ofFloat divisor with
  | .finite left, .finite right =>
    if right.isZero then 0.0 / 0.0
    else if left.isZero then dividend
    else
      let exponent := min left.exponent right.exponent
      let scaled (value : Dyadic) := value.significand * Nat.pow 2 (value.exponent - exponent).toNat
      Dyadic.toFloat ⟨left.negative, scaled left % scaled right, exponent⟩
  | .finite _, .infinite _ => dividend
  | _, _ => 0.0 / 0.0

end FieldKernel
