import FieldKernel.HostArithmetic
import FieldKernel.Objects
import FieldKernel.Scalar.Box

/-!
# Values that enter a storage

Scalars and values of the host are brought to the type of the place they go to. Scalars always fit.
Numbers of the host first become scalars of 64 bits, and a whole number that does not fit there is
refused. Rows of numbers become boxes of scalars that have one type before they are converted.
-/

namespace FieldKernel

namespace Scalar

def convert (value : Scalar) (type : DataType) : Except Error Scalar :=
  match value.convert? type with
  | some converted => .ok converted
  | none => .error (.contract (.noRepresentation type))

/-- A scalar as a position or a bound. -/
def index (value : Scalar) : Except Error Int :=
  match value.toIndex with
  | .ok position => .ok position
  | .error .notANumber => .error (.host (.value .missingNumber))
  | .error .infinite => .error (.host (.overflow .infinite))

end Scalar

namespace Literal

/-- The error of a whole number that needs more than 64 bits with a sign. -/
def wide (value : Int) (type : DataType) : Error :=
  .quoting (Text.decimal value) fun text => .run (.doesNotFit text type (.wide text))

/-- A literal as a scalar of a type. -/
def convert (literal : Literal) (type : DataType) : Except Error Scalar :=
  match literal, literal.toScalar? with
  | _, some scalar => scalar.convert type
  | .int value, none => .error (wide value type)
  | _, none => .error (.contract (.noRepresentation type))

theorem convert_int (value : Int) (type : IntType) :
    (int value).convert (.integer type) =
      if IntType.InRange ⟨true, .w64⟩ value then .ok (.ofInt type value)
      else .error (wide value (.integer type)) := by
  by_cases fits : IntType.InRange ⟨true, .w64⟩ value
  · simp [convert, toScalar?, fits, Scalar.convert, Scalar.convert?]
  · simp [convert, toScalar?, fits]

/-- Whether any number of a row has a fraction; the empty row counts as one of such numbers. -/
def anyFloat (row : List Literal) : Bool :=
  row.isEmpty || row.any (· matches .float _)

/-- A number of a row as a scalar of 64 bits, given whether any number of the row has a fraction. -/
def inRow (floating : Bool) (number : Literal) : Except OverflowFault Scalar :=
  if floating then
    match number.toFloat with
    | .ok value => .ok (.f64 value)
    | .error _ => .error .float
  else
    match number.toScalar? with
    | some scalar => .ok scalar
    | none => .error .wideInRow

end Literal

namespace Box

/-- Scalars as a box of another type; an unknown type cannot be stored, not even without scalars. -/
def ofGrid (grid : Grid Scalar) (type : DataType) : Except Error Box := do
  if type = .unknown then
    throw (.contract (.noRepresentation type))
  return ⟨type, ← grid.mapM (·.convert type)⟩

def convert (box : Box) (type : DataType) : Except Error Box :=
  ofGrid box.grid type

/-- A single scalar as a position or a bound. -/
def index (box : Box) : Except Error Int :=
  match box.grid with
  | .value only => only.index
  | grid => .error (.host (.operand (.arrayNumber grid.extents.length)))

/-- A single scalar, which is all that an element holds. -/
def element (box : Box) : Except Error Scalar :=
  match box.grid with
  | .value only => .ok only
  | grid => .error (.host (.value (.arrayStored grid.extents)))

/-- The only scalar of a box. -/
def item (box : Box) : Except Error Scalar :=
  match box.grid.toList with
  | [only] => .ok only
  | _ => .error (.host (.value .arrayItem))

/-- Whether the only scalar of a box counts as true. -/
def isTrue (box : Box) : Except Error Bool :=
  match box.grid.toList with
  | [only] => .ok only.isTrue
  | [] => .error (.host (.value .emptyArrayTruth))
  | _ => .error (.host (.value .arrayTruth))

end Box

namespace HostValue

mutual

/-- The values in a row of rows, given which objects are rows without members. -/
def grid (isEmptyRow : HostValue → Bool) : HostValue → Grid HostValue
  | list _ items => .row (grids isEmptyRow items)
  | tuple _ items => .row (grids isEmptyRow items)
  | value => if isEmptyRow value then .row [] else .value value

/-- The values in rows of rows. -/
def grids (isEmptyRow : HostValue → Bool) : List HostValue → List (Grid HostValue)
  | [] => []
  | first :: rest => first.grid isEmptyRow :: grids isEmptyRow rest

end

end HostValue

namespace Ask

/-- Whether a value is an index group or a block without members. -/
def isEmptyObject (objects : Objects) : HostValue → Bool
  | .group id => (objects.group id).isEmpty
  | .block id => (objects.recording.block id).statements.isEmpty
  | _ => false

/-- A value is no number and holds none, so there is no array of it. -/
def refuseElement {α : Type} (value : HostValue) : Ask α := do
  let plain ← ofHost ((← read).rendering.plain value)
  let elements :=
    match value with
    | .text _ text => "<U" ++ toString (max 1 text.length)
    | _ => "object"
  throw (.host (.operand (.noArray plain elements)))

/-- The box of numbers that a value is, whose rows have to agree. An index group or a block can
stand for an empty row; with members it holds no numbers. -/
def numbers (value : HostValue) : Ask (Grid Literal) := do
  let grid := value.grid (isEmptyObject (← read))
  if grid.toList.any (· matches .none) then
    throw (.host (.value .stored))
  let numbers ← grid.mapM fun
    | .literal _ number => pure number
    | value => refuseElement value
  match numbers.shape with
  | .ok _ => return numbers
  | .error shape => throw (.host (.value (.ragged shape)))

/-- A host value as scalars of a type. -/
def scalars (value : HostValue) (type : DataType) : Ask Box := do
  match ← numbers value with
  | .value number => Box.ofScalar <$> ofExcept (number.convert type)
  | numbers =>
    match numbers.mapM (Literal.inRow (Literal.anyFloat numbers.toList)) with
    | .ok scalars => ofExcept (Box.ofGrid scalars type)
    | .error fault => throw (.run (.doesNotFit (← listing value) type fault))

/-- A host value as a position: a number without its fraction, or the text of a whole number. -/
def position (value : HostValue) : Ask Int := do
  match value with
  | .float _ number => ofExcept (Scalar.f64 number).index
  | .text _ numeral =>
    match Text.integer numeral with
    | .ok position => return position
    | .error (.long digits) => throw (.host (.value (.longNumeral digits)))
    | .error .malformed => throw (.host (.value (.numeral numeral)))
  | value =>
    match value.whole? with
    | some position => return position
    | none => refuse value .wholeNumber

end Ask

end FieldKernel
