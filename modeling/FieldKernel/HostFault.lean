import FieldKernel.Text.Numeral
import FieldKernel.Text.Template

/-!
# Faults of the host

What the host itself refuses: values that it has no meaning for, operands of the wrong class, and
numbers that are too large for what they are to become. Writing a whole number is one of the things
that it refuses, if the number has too many digits.
-/

namespace FieldKernel

/-- A number is too large for what it is to become. -/
inductive OverflowFault where
  | infinite
  | float
  | quotient
  /-- A whole number that needs more than 64 bits with a sign. -/
  | wide (value : String)
  /-- A whole number of that kind in a row. -/
  | wideInRow
  /-- A number of repetitions beyond all lengths. -/
  | repetitions
  /-- A repeated text beyond all lengths. -/
  | repeatedText
  deriving DecidableEq, Repr

/-- A host value of the right kind has no meaning where it stands. -/
inductive ValueFault where
  /-- A value that is no member of a closed class. -/
  | member (value className : String)
  | archSetting (name : String)
  | nullCharacter
  | hostBug
  | notAncestor (node : String)
  /-- A text that is no whole number. -/
  | numeral (text : String)
  /-- A written whole number with too many digits. -/
  | longNumeral (digits : Nat)
  /-- A whole number with too many digits to be written. -/
  | longNumber
  | floatNumeral (text : String)
  | missingNumber
  | stored
  /-- Rows of different lengths where an array was expected, with the shape that they agree on. -/
  | ragged (shape : List Nat)
  /-- An array in the place of a single element, with its shape. -/
  | arrayStored (shape : List Nat)
  | arrayItem
  | emptyArrayTruth
  | arrayTruth
  | template (fault : Text.Template.Fault)
  deriving DecidableEq, Repr

/-- A value is of a class that an operation of the host is not made for. -/
inductive OperandFault where
  | binary (symbol left right : String)
  | compared (symbol left right : String)
  | unary (symbol operand : String)
  /-- A row joined to a value that is no row of its class. -/
  | joined (row className : String)
  /-- A row repeated as often as no whole number says. -/
  | repeated (className : String)
  | wholeNumber (className : String)
  | realNumber (className : String)
  /-- A position in a row that is no whole number. -/
  | position (row className : String)
  | noMembers (className : String)
  | noIteration (className : String)
  | noLength (className : String)
  | noCall (className : String)
  | noContext (className : String)
  | template (fault : Text.Template.Fault) (className : String)
  /-- A setting that is no text. -/
  | setting (className : String)
  /-- A value put into a row of host values as into a block. -/
  | rowInsert
  /-- A value that is no number where an array is expected, with the kind of its elements. -/
  | noArray (value elements : String)
  /-- Something else that is given in the wrong class. -/
  | other (className : String)
  /-- Operands of a scalar operation whose types do not fit it or one another. -/
  | scalars
  /-- An array where a single number is needed, with the number of its axes. -/
  | arrayNumber (axes : Nat)
  deriving DecidableEq, Repr

/-- A number was divided by zero. -/
inductive ZeroFault where
  | quotient
  | remainder
  | floatQuotient
  | floatRemainder
  deriving DecidableEq, Repr

/-- The host itself refuses an operation. -/
inductive HostFault where
  | value (fault : ValueFault)
  | operand (fault : OperandFault)
  /-- A look-up by a key that nothing is kept under. -/
  | lookup (key : String)
  /-- A position outside a row of a class. -/
  | position (row : String)
  /-- A position beyond all lengths. -/
  | hugePosition
  /-- A value that has no attribute of a given name. -/
  | missingAttribute (className name : String)
  /-- A part of the recorder that has nothing of a given name. -/
  | missingMember (part name : String)
  | notImplemented
  | overflow (fault : OverflowFault)
  | divisionByZero (fault : ZeroFault)
  /-- A part of a value that cannot be changed. -/
  | frozen (part : String)
  /-- Nesting without an end. -/
  | recursion
  /-- A text or a row with more members than there is room for. -/
  | memory
  deriving DecidableEq, Repr

/-- A whole number in decimal digits, of which the host writes no more than its limit. -/
def Text.decimal (value : Int) : Except HostFault String :=
  if isTooLong value then .error (.value .longNumber) else .ok (toString value)

end FieldKernel
