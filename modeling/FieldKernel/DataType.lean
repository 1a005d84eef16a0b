/-!
# Scalar data types

A field element, a local variable or an intermediate result has one of twelve data types: eight
integer types, two floating-point types, truth values (`u1`) and the placeholder `unknown` of a
type that has not been inferred yet. This module names them, reads the names back and says which
type the operands of a binary operation are brought to.
-/

namespace FieldKernel

/-- The number of bits that an integer occupies. -/
inductive Width where
  | w8
  | w16
  | w32
  | w64
  deriving DecidableEq, Repr

namespace Width

def bits : Width → Nat
  | w8 => 8
  | w16 => 16
  | w32 => 32
  | w64 => 64

end Width

/-- A fixed-width integer type in two's complement. -/
structure IntType where
  signed : Bool
  width : Width
  deriving DecidableEq, Repr

namespace IntType

/-- How many values the type has. -/
def modulus (type : IntType) : Nat :=
  Nat.pow 2 type.width.bits

def least (type : IntType) : Int :=
  if type.signed then -(Nat.pow 2 (type.width.bits - 1) : Int) else 0

def greatest (type : IntType) : Int :=
  if type.signed then (Nat.pow 2 (type.width.bits - 1) : Int) - 1
  else (Nat.pow 2 type.width.bits : Int) - 1

/-- A number that the type can hold. -/
def InRange (type : IntType) (value : Int) : Prop :=
  type.least ≤ value ∧ value ≤ type.greatest

instance (type : IntType) (value : Int) : Decidable (type.InRange value) :=
  inferInstanceAs (Decidable (_ ∧ _))

/-- The representative in the type of a number modulo the type's size. -/
def wrap (type : IntType) (value : Int) : Int :=
  if type.signed then value.bmod type.modulus else value % type.modulus

theorem wrap_inRange (type : IntType) (value : Int) : type.InRange (type.wrap value) := by
  obtain ⟨signed, width⟩ := type
  cases signed with
  | false =>
    cases width <;> simp [InRange, wrap, modulus, least, greatest, Width.bits, Nat.pow_eq] <;> omega
  | true =>
    cases width <;>
      simp only [InRange, wrap, modulus, least, greatest, Width.bits, Nat.pow_eq, Int.bmod] <;>
      split <;> simp <;> omega

/-- Wrapping keeps the numbers that fit. -/
theorem wrap_of_inRange {type : IntType} {value : Int} (fits : type.InRange value) :
    type.wrap value = value := by
  obtain ⟨signed, width⟩ := type
  cases signed with
  | false =>
    cases width <;>
      simp [InRange, wrap, modulus, least, greatest, Width.bits, Nat.pow_eq] at * <;> omega
  | true =>
    cases width <;>
      simp [InRange, wrap, modulus, least, greatest, Width.bits, Nat.pow_eq, Int.bmod] at * <;>
      omega

/-- The nearest value of the type. -/
def clamp (type : IntType) (value : Int) : Int :=
  max type.least (min value type.greatest)

theorem clamp_inRange (type : IntType) (value : Int) : type.InRange (type.clamp value) := by
  obtain ⟨signed, width⟩ := type
  cases signed <;> cases width <;>
    simp only [InRange, clamp, least, greatest, Width.bits, Nat.pow_eq] <;> omega

end IntType

/-- The type of a scalar. -/
inductive DataType where
  | integer (type : IntType)
  | f32
  | f64
  | u1
  | unknown
  deriving DecidableEq, Repr

namespace DataType

@[match_pattern] abbrev i8 : DataType := .integer ⟨true, .w8⟩
@[match_pattern] abbrev i16 : DataType := .integer ⟨true, .w16⟩
@[match_pattern] abbrev i32 : DataType := .integer ⟨true, .w32⟩
@[match_pattern] abbrev i64 : DataType := .integer ⟨true, .w64⟩
@[match_pattern] abbrev u8 : DataType := .integer ⟨false, .w8⟩
@[match_pattern] abbrev u16 : DataType := .integer ⟨false, .w16⟩
@[match_pattern] abbrev u32 : DataType := .integer ⟨false, .w32⟩
@[match_pattern] abbrev u64 : DataType := .integer ⟨false, .w64⟩

def all : List DataType :=
  [i8, i16, i32, i64, u8, u16, u32, u64, f32, f64, u1, unknown]

theorem mem_all (type : DataType) : type ∈ all := by
  rcases type with ⟨signed, width⟩ | _ | _ | _ | _
  · cases signed <;> cases width <;> decide
  all_goals decide

/-- The short name, which lowered code prints. -/
def shortName : DataType → String
  | i8 => "i8"
  | i16 => "i16"
  | i32 => "i32"
  | i64 => "i64"
  | u8 => "u8"
  | u16 => "u16"
  | u32 => "u32"
  | u64 => "u64"
  | f32 => "f32"
  | f64 => "f64"
  | u1 => "u1"
  | unknown => "unknown"

def longName : DataType → String
  | i8 => "int8"
  | i16 => "int16"
  | i32 => "int32"
  | i64 => "int64"
  | u8 => "uint8"
  | u16 => "uint16"
  | u32 => "uint32"
  | u64 => "uint64"
  | f32 => "float32"
  | f64 => "float64"
  | u1 => "bool"
  | unknown => "unknown"

def ofShortName? (name : String) : Option DataType :=
  all.find? (·.shortName = name)

def ofLongName? (name : String) : Option DataType :=
  all.find? (·.longName = name)

/-- The type with a given name of either kind. -/
def ofName? (name : String) : Option DataType :=
  ofShortName? name <|> ofLongName? name

theorem ofShortName?_shortName (type : DataType) : ofShortName? type.shortName = some type := by
  rcases type with ⟨signed, width⟩ | _ | _ | _ | _
  · cases signed <;> cases width <;> decide
  all_goals decide

theorem ofLongName?_longName (type : DataType) : ofLongName? type.longName = some type := by
  rcases type with ⟨signed, width⟩ | _ | _ | _ | _
  · cases signed <;> cases width <;> decide
  all_goals decide

/-- The floating-point types. -/
def isFloat : DataType → Bool
  | f32 | f64 => true
  | _ => false

/-- The types that count as integers, truth values among them. -/
def isIntegral : DataType → Bool
  | integer _ | u1 => true
  | _ => false

/-- The types with negative values. -/
def isSigned : DataType → Bool
  | integer type => type.signed
  | f32 | f64 => true
  | _ => false

/-- The size of a value in bits; an unknown type has none. -/
def bits : DataType → Nat
  | integer type => type.width.bits
  | f32 => 32
  | f64 => 64
  | u1 => 1
  | unknown => 0

/-- The type that two operands are brought to: floating point wins over integers, the wider type
over the narrower one, and a signed integer over an unsigned one of the same width. -/
def promote (left right : DataType) : DataType :=
  if left = unknown ∨ right = unknown then unknown
  else if left = right then left
  else
    match left.isFloat, right.isFloat with
    | true, true => if left.bits < right.bits then right else left
    | true, false => left
    | false, true => right
    | false, false =>
      if left.bits ≠ right.bits then
        if left.bits > right.bits then left else right
      else if left.isSigned then left else right

end DataType

end FieldKernel
