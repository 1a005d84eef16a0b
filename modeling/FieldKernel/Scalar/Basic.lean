import FieldKernel.DataType
import FieldKernel.HostFault
import FieldKernel.Number.Dyadic
import FieldKernel.Text.FloatText

/-!
# Scalars

A scalar is a value of a known type, as a field element, a variable or an intermediate result
holds it. An integer scalar carries the proof that its type can hold it. A literal is a value as
the host writes and reads it, without a width. Converting a scalar never fails: integers wrap
around, floating-point numbers are truncated and clamped to integers, and anything but zero is
true.
-/

namespace FieldKernel

/-- A value as the host program writes it: its integers have no width. -/
inductive Literal where
  | bool (value : Bool)
  | int (value : Int)
  | float (value : Float)

namespace Literal

def text : Literal → Except HostFault String
  | bool true => .ok "True"
  | bool false => .ok "False"
  | int value => Text.decimal value
  | float value => .ok (FloatText.shortest value)

/-- The type that a literal has when none is given. -/
def type : Literal → DataType
  | bool _ => .u1
  | int _ => .i32
  | float _ => .f32

end Literal

/-- A value of a scalar type. -/
inductive Scalar where
  | bool (value : Bool)
  | int (type : IntType) (value : Int) (fits : type.InRange value)
  | f32 (value : Float32)
  | f64 (value : Float)

namespace Scalar

def type : Scalar → DataType
  | bool _ => .u1
  | int type _ _ => .integer type
  | f32 _ => .f32
  | f64 _ => .f64

/-- The scalar of an integer type that represents a number modulo the type's size. -/
def ofInt (type : IntType) (value : Int) : Scalar :=
  .int type (type.wrap value) (type.wrap_inRange value)

/-- The nearest scalar of an integer type. -/
def clampInt (type : IntType) (value : Int) : Scalar :=
  .int type (type.clamp value) (type.clamp_inRange value)

@[simp] theorem type_ofInt (type : IntType) (value : Int) :
    (ofInt type value).type = .integer type := rfl

@[simp] theorem type_clampInt (type : IntType) (value : Int) :
    (clampInt type value).type = .integer type := rfl

theorem ofInt_of_inRange {type : IntType} {value : Int} (fits : type.InRange value) :
    ofInt type value = .int type value fits := by
  have same := IntType.wrap_of_inRange fits
  simp only [ofInt, same]

/-- The value that the host reads; single precision is widened. -/
def toLiteral : Scalar → Literal
  | bool value => .bool value
  | int _ value _ => .int value
  | f32 value => .float value.toFloat
  | f64 value => .float value

/-- Zero of a type, or false; an unknown type has no scalars. -/
def zero? : DataType → Option Scalar
  | .integer type => some (ofInt type 0)
  | .f32 => some (.f32 0)
  | .f64 => some (.f64 0)
  | .u1 => some (.bool false)
  | .unknown => none

/-- A floating-point number as an integer of a type: the integer part, clamped to the type's range.
A missing number counts as zero. -/
def truncate (type : IntType) (value : Float) : Scalar :=
  match FloatValue.ofFloat value with
  | .finite value => clampInt type value.truncate
  | .infinite true => clampInt type type.least
  | .infinite false => clampInt type type.greatest
  | .nan => ofInt type 0

/-- Whether a value counts as true: everything but zero does. -/
def isTrue : Scalar → Bool
  | bool value => value
  | int _ value _ => value ≠ 0
  | f32 value => value != 0
  | f64 value => value != 0

/-- The scalar of a given type that represents a value; an unknown type has none. -/
def convert? (value : Scalar) (target : DataType) : Option Scalar :=
  match target with
  | .integer type =>
    some <| match value with
      | bool value => ofInt type (if value then 1 else 0)
      | int _ value _ => ofInt type value
      | f32 value => truncate type value.toFloat
      | f64 value => truncate type value
  | .f32 =>
    some <| .f32 <| match value with
      | bool value => if value then 1 else 0
      | int _ value _ => Float32.ofInt value
      | f32 value => value
      | f64 value => value.toFloat32
  | .f64 =>
    some <| .f64 <| match value with
      | bool value => if value then 1 else 0
      | int _ value _ => Float.ofInt value
      | f32 value => value.toFloat
      | f64 value => value
  | .u1 => some (.bool value.isTrue)
  | .unknown => none

/-- The result of a conversion has the type asked for. -/
theorem type_of_convert? {value result : Scalar} {target : DataType}
    (converted : value.convert? target = some result) : result.type = target := by
  cases target with
  | integer type =>
    cases value with
    | f32 number =>
      simp only [convert?, Option.some.injEq] at converted
      subst converted
      simp only [truncate]
      split <;> rfl
    | f64 number =>
      simp only [convert?, Option.some.injEq] at converted
      subst converted
      simp only [truncate]
      split <;> rfl
    | bool | int =>
      simp only [convert?, Option.some.injEq] at converted
      subst converted
      rfl
  | f32 => cases value <;> simp [convert?] at converted <;> subst converted <;> rfl
  | f64 => cases value <;> simp [convert?] at converted <;> subst converted <;> rfl
  | u1 =>
    simp only [convert?, Option.some.injEq] at converted
    subst converted
    rfl
  | unknown => simp [convert?] at converted

/-- Every type that is known can be converted to. -/
theorem isSome_convert? {value : Scalar} {target : DataType} (known : target ≠ .unknown) :
    (value.convert? target).isSome := by
  cases target <;> simp_all [convert?]

/-- Why a scalar is no position: only numbers have an integer part. -/
inductive IndexFault where
  | notANumber
  | infinite
  deriving DecidableEq, Repr

/-- A scalar as a position or a bound: floating-point numbers are truncated. -/
def toIndex : Scalar → Except IndexFault Int
  | bool value => .ok (if value then 1 else 0)
  | int _ value _ => .ok value
  | f32 value => ofFloat value.toFloat
  | f64 value => ofFloat value
where
  /-- The integer part of a floating-point number. -/
  ofFloat (value : Float) : Except IndexFault Int :=
    match FloatValue.ofFloat value with
    | .finite value => .ok value.truncate
    | .infinite _ => .error .infinite
    | .nan => .error .notANumber

end Scalar

/-- A literal as a scalar of the widest type of its kind. An integer that does not fit in 64 signed
bits has no such scalar. -/
def Literal.toScalar? : Literal → Option Scalar
  | .bool value => some (.bool value)
  | .int value =>
    if fits : IntType.InRange ⟨true, .w64⟩ value then some (.int ⟨true, .w64⟩ value fits) else none
  | .float value => some (.f64 value)

end FieldKernel
