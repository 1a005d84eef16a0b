import FieldKernel.Config
import FieldKernel.DataType
import FieldKernel.Expr

/-!
# Errors

Everything that can go wrong is a cause, sorted by its class: misuse of a program, of a contract,
of the scope stack and so on, and faults of the host's own values. The wording of each class is in
one `message` function. A cause quotes the texts of what it is about, and a text that the host does
not write is a fault of its own, in the place of the cause.
-/

namespace FieldKernel

/-- There is no program to work with, or it has ended. -/
inductive ProgramFault where
  | tornDown
  | noneCurrent
  | detachedTree
  deriving DecidableEq, Repr

namespace ProgramFault

def message : ProgramFault → String
  | tornDown => "Program has been torn down"
  | noneCurrent => "No current Program; use `with Program():` or Program.activated()"
  | detachedTree => "SNode tree is not attached to a live Program"

end ProgramFault

/-- Something was recorded, declared or accessed against its contract. -/
inductive ContractFault where
  | alreadyOwned (statement : String)
  | alreadyPlaced (field path : String)
  | notPlaced (field : String)
  | underLeaf (action path : String)
  | axisCount (container : String) (axes extents : Nat)
  | repeatedAxis (container axes : String)
  | extents (container extents : String)
  | placeNothing
  | notRoot (path : String)
  | layoutOpen
  | storageOpen
  | foreignField (field : String)
  | noRepresentation (type : DataType)
  deriving DecidableEq, Repr

namespace ContractFault

def message : ContractFault → String
  | alreadyOwned statement => statement ++ " is already owned by another block"
  | alreadyPlaced field path => "Field " ++ field ++ " is already placed at " ++ path
  | notPlaced field => "Field " ++ field ++ " has not been placed in the layout tree"
  | underLeaf action path => "Cannot " ++ action ++ " under leaf " ++ path
  | axisCount container axes given =>
    container ++ " got " ++ toString axes ++ " axes but " ++ toString given ++ " extents"
  | repeatedAxis container axes => container ++ " binds an axis more than once: " ++ axes
  | extents container shown => container ++ " extents must be positive ints, got " ++ shown
  | placeNothing => "place needs at least one field"
  | notRoot path => "Only the root can be sealed, got " ++ path
  | layoutOpen => "Layout must be sealed before fields are accessed"
  | storageOpen => "Field storage needs a sealed layout"
  | foreignField field => "Field " ++ field ++ " does not belong to this layout"
  | noRepresentation type =>
    "Data type " ++ type.shortName ++ " has no storage representation"

end ContractFault

/-- The scope stack was not in the state that an operation needs. -/
inductive ScopeFault where
  | noActiveScope
  | emptyStack
  | outermostScope
  | nestedDefinition
  | unclosed (count : Int)
  | noStatement
  | branchOpenAround (branch openBranch condition : String)
  | branchNeedsIf (branch : String)
  | branchOpen (openBranch condition : String)
  | bodyNeedsFor
  | noLoop (hint : String)
  | notOnTop (block : String)
  deriving DecidableEq, Repr

namespace ScopeFault

def message : ScopeFault → String
  | noActiveScope =>
    "No active scope; statements can only be recorded inside a kernel definition"
  | emptyStack => "pop_scope called on an empty scope stack"
  | outermostScope => "pop_scope would close the kernel's outermost scope"
  | nestedDefinition => "Kernel definitions cannot be nested"
  | unclosed count => "Kernel definition ended with " ++ toString count ++ " unclosed scope(s)"
  | noStatement => "No statement has been recorded in the current scope"
  | branchOpenAround branch openBranch condition =>
    "Cannot enter the " ++ branch ++ " branch: the " ++ openBranch ++ " branch of '" ++
      condition ++ "' is still open"
  | branchNeedsIf branch =>
    "Entering the " ++ branch ++ " branch requires an If as the last recorded statement"
  | branchOpen openBranch condition =>
    "The " ++ openBranch ++ " branch of '" ++ condition ++ "' is still open"
  | bodyNeedsFor => "enter_body requires a For as the last recorded statement"
  | noLoop hint => hint ++ " needs a recorded loop to attach to"
  | notOnTop block => "Scope for " ++ block ++ " is no longer on top of the scope stack"

end ScopeFault

/-- A value was to be kept in something that cannot hold one. -/
inductive LvalueFault where
  | assignment (target : String)
  | store (target : String)
  deriving DecidableEq, Repr

namespace LvalueFault

def message : LvalueFault → String
  | assignment target => "Cannot assign to non-l-value " ++ target
  | store target => "Global store expects a subscripted field, got " ++ target

end LvalueFault

/-- The number of indices is not the number of axes. -/
inductive ArityFault where
  | noLoopIndex
  | recordedLoop (path : String) (needed given : Nat)
  | lowered (kind path : String) (needed given : Nat) (place : String)
  | access (path : String) (needed given : Nat)
  deriving DecidableEq, Repr

/-- Where something was recorded, in parentheses behind a complaint about it. -/
def recordedAt : Option Location → Except HostFault String
  | none => .ok ""
  | some site => do return " (recorded at " ++ (← site.text) ++ ")"

namespace ArityFault

/-- The needed and the given number of indices. -/
def counts (path : String) (needed given : Nat) : String :=
  path ++ " needs " ++ toString needed ++ " indices, got " ++ toString given

def message : ArityFault → String
  | noLoopIndex => "Struct-for needs at least one loop index"
  | recordedLoop path needed given => "Struct-for over " ++ counts path needed given
  | lowered kind path needed given place =>
    kind ++ " of " ++ counts path needed given ++ place
  | access path needed given => counts path needed given

end ArityFault

/-- A sealed layout was to be changed. -/
inductive SealFault where
  | change (action path : String)
  | again
  deriving DecidableEq, Repr

namespace SealFault

def message : SealFault → String
  | change action path => "Cannot " ++ action ++ " under " ++ path ++ ": layout is sealed"
  | again => "Layout is already sealed"

end SealFault

/-- A value is not of a kind that can be used where it stands. -/
inductive TypeFault where
  | unknownType (value : String)
  | constant (className : String)
  | notExpression (className value : String)
  | resolved (expression : String) (current wanted : DataType)
  | truthValue (expression : String)
  | fieldName (className : String)
  | fieldType
  | subscripted (value : String)
  | loaded (value : String)
  | loopVariable (value : String)
  | loopField (value : String)
  | placed (value : String)
  | axis (value : String)
  | hint (name value : String)
  | cacheMode (value : String)
  deriving DecidableEq, Repr

namespace TypeFault

def message : TypeFault → String
  | unknownType value => "Unknown data type " ++ value
  | constant className => "Constant of type " ++ className ++ " is not a supported scalar"
  | notExpression className value =>
    "Cannot use " ++ className ++ " value " ++ value ++ " as an expression"
  | resolved expression current wanted =>
    "Type of " ++ expression ++ " already resolved to " ++ current.shortName ++
      ", cannot re-resolve to " ++ wanted.shortName
  | truthValue expression =>
    "Expression " ++ expression ++ " has no host truth value; record it with begin_if instead"
  | fieldName className =>
    "global_new expects an identifier expression or a name, got " ++ className
  | fieldType => "Fields need a concrete data type"
  | subscripted value => "Only fields can be subscripted, got " ++ value
  | loaded value => "Global load expects a subscripted field, got " ++ value
  | loopVariable value => "Loop variables must be identifiers, got " ++ value
  | loopField value => "Struct-for iterates over a field, got " ++ value
  | placed value => "place expects a field declared with global_new, got " ++ value
  | axis value => "Axis index must be a non-negative int, got " ++ value
  | hint name value => name ++ " expects a positive int, got " ++ value
  | cacheMode value => "Unknown cache mode " ++ value

end TypeFault

/-- Recorded code cannot be lowered. -/
inductive LoweringFault where
  | fieldNotPlaced (field : String)
  | layoutOpen
  | index
  | undeclared (identifier : String)
  | untyped (identifier : String)
  | noArgument (position : String)
  | bitwise (op : String)
  | bitNot
  | bareField (field : String)
  | target (expression : String)
  | undeclaredTarget (identifier : String)
  | bound
  deriving DecidableEq, Repr

namespace LoweringFault

def message : LoweringFault → String
  | fieldNotPlaced field => "Field " ++ field ++ " is not placed in the layout tree"
  | layoutOpen => "Layout must be sealed before kernels access fields"
  | index => "Field indices must be integers"
  | undeclared identifier => "Identifier " ++ identifier ++ " is used before it is declared"
  | untyped identifier => "Type of identifier " ++ identifier ++ " is unresolved"
  | noArgument position => "Kernel has no argument #" ++ position
  | bitwise op => op ++ " needs integer operands"
  | bitNot => "bit_not needs an integer operand"
  | bareField field => "Field " ++ field ++ " must be subscripted to be read"
  | target expression => "Cannot assign to " ++ expression
  | undeclaredTarget identifier => "Assignment to undeclared identifier " ++ identifier
  | bound => "Range-for bounds must be integers"

end LoweringFault

/-- The target cannot run what was recorded. -/
inductive TargetFault where
  | print
  | noDevice
  | statement (className : String)
  | expression (className : String)
  deriving DecidableEq, Repr

namespace TargetFault

def message : TargetFault → String
  | print => "print is not supported on the gpu target"
  | noDevice => "No JAX GPU device is available for the gpu target"
  | statement className => "Unsupported statement " ++ className
  | expression className => "Unsupported expression node " ++ className

end TargetFault

namespace OverflowFault

def message : OverflowFault → String
  | infinite => "cannot convert float infinity to integer"
  | float => "int too large to convert to float"
  | quotient => "integer division result too large for a float"
  | wide value => "Python int " ++ value ++ " too large to convert to int64"
  | wideInRow => "Python int too large to convert to C long"
  | repetitions => "cannot fit 'int' into an index-sized integer"
  | repeatedText => "repeated string is too long"

end OverflowFault

/-- A compiled kernel or a field access failed while running. -/
inductive RunFault where
  | doesNotFit (value : String) (type : DataType) (reason : OverflowFault)
  | outOfRange (index extent : String) (position : Nat) (path : String)
  | argumentCount (kernel : String) (needed given : Nat)
  | foreignField (kernel : String)
  deriving DecidableEq, Repr

namespace RunFault

def message : RunFault → String
  | doesNotFit value type reason =>
    "Value " ++ value ++ " does not fit in " ++ type.shortName ++ ": " ++ reason.message
  | outOfRange index extent position path =>
    "Index " ++ index ++ " out of range [0, " ++ extent ++ ") on axis position " ++
      toString position ++ " of " ++ path
  | argumentCount kernel needed given =>
    "Kernel " ++ Text.quoted kernel ++ " expects " ++ toString needed ++ " arguments, got " ++
      toString given
  | foreignField kernel =>
    "Kernel " ++ Text.quoted kernel ++ " touches a field outside the current layout"

end RunFault

namespace ValueFault

/-- How a complaint about the number of digits begins. -/
def beyondLimit : String :=
  "Exceeds the limit (" ++ toString Text.digitLimit ++ " digits) for integer string conversion"

/-- How a complaint about the number of digits ends. -/
def raisingLimit : String :=
  "; use sys.set_int_max_str_digits() to increase the limit"

def message : ValueFault → String
  | member value className => value ++ " is not a valid " ++ className
  | archSetting name =>
    "TLANG_JAX_ARCH must be one of [" ++
      Expr.commaSeparated (Arch.all.map fun arch => Text.quoted arch.name) ++ "], got " ++
      Text.quoted name
  | nullCharacter => "embedded null byte"
  | hostBug => "host bug"
  | notAncestor node => node ++ " is not in list"
  | numeral text =>
    -- A long text is cut, and its closing quote with it.
    "invalid literal for int() with base 10: " ++
      String.ofList ((Text.quoted text).toList.take 200)
  | longNumeral digits =>
    beyondLimit ++ ": value has " ++ toString digits ++ " digits" ++ raisingLimit
  | longNumber => beyondLimit ++ raisingLimit
  | floatNumeral text => "could not convert string to float: " ++ Text.quoted text
  | missingNumber => "cannot convert float NaN to integer"
  | stored => "None is not a valid value for jnp.array"
  | ragged shape =>
    "setting an array element with a sequence. The requested array has an inhomogeneous shape " ++
      "after " ++ toString shape.length ++ " dimensions. The detected shape was " ++
      Listing.row (shape.map toString) ++ " + inhomogeneous part."
  | arrayStored shape =>
    "Cannot broadcast to shape with fewer dimensions: arr_shape=" ++
      Listing.row (shape.map toString) ++ " shape=()"
  | arrayItem => "can only convert an array of size 1 to a Python scalar"
  | emptyArrayTruth =>
    "The truth value of an empty array is ambiguous. Use `array.size > 0` to check that an " ++
      "array is not empty."
  | arrayTruth =>
    "The truth value of an array with more than one element is ambiguous. Use a.any() or a.all()"
  | template fault => fault.message ""

end ValueFault

namespace OperandFault

def message : OperandFault → String
  | binary symbol left right =>
    "unsupported operand type(s) for " ++ symbol ++ ": " ++ Text.quoted left ++ " and " ++
      Text.quoted right
  | compared symbol left right =>
    Text.quoted symbol ++ " not supported between instances of " ++ Text.quoted left ++ " and " ++
      Text.quoted right
  | unary symbol operand => "bad operand type for unary " ++ symbol ++ ": " ++ Text.quoted operand
  | joined row className =>
    "can only concatenate " ++ row ++ " (not \"" ++ className ++ "\") to " ++ row
  | repeated className => "can't multiply sequence by non-int of type " ++ Text.quoted className
  | wholeNumber className =>
    "int() argument must be a string, a bytes-like object or a real number, not " ++
      Text.quoted className
  | realNumber className =>
    "float() argument must be a string or a real number, not " ++ Text.quoted className
  | position "string" className => "string indices must be integers, not " ++ Text.quoted className
  | position row className => row ++ " indices must be integers or slices, not " ++ className
  | noMembers className => Text.quoted className ++ " object is not subscriptable"
  | noIteration className => Text.quoted className ++ " object is not iterable"
  | noLength className => "object of type " ++ Text.quoted className ++ " has no len()"
  | noCall className => Text.quoted className ++ " object is not callable"
  | noContext className =>
    Text.quoted className ++ " object does not support the context manager protocol"
  | template fault className => fault.message className
  | setting className => "str expected, not " ++ className
  | rowInsert => "insert expected 2 arguments, got 1"
  | noArray value elements =>
    "Value '" ++ value ++ "' with dtype " ++ elements ++
      " is not a valid JAX array type. Only arrays of numeric types are supported by JAX."
  | other className => "unsupported value of type " ++ Text.quoted className
  | scalars => "operand types do not agree"
  | arrayNumber axes =>
    "Only scalar arrays can be converted to Python scalars; got arr.ndim=" ++ toString axes

end OperandFault

namespace ZeroFault

def message : ZeroFault → String
  | quotient => "division by zero"
  | remainder => "integer modulo by zero"
  | floatQuotient => "float division by zero"
  | floatRemainder => "float modulo"

end ZeroFault

namespace HostFault

def message : HostFault → String
  | value fault => fault.message
  | operand fault => fault.message
  | lookup key => key
  | position row => row ++ " index out of range"
  | hugePosition => "cannot fit 'int' into an index-sized integer"
  | missingAttribute className name =>
    Text.quoted className ++ " object has no attribute " ++ Text.quoted name
  | missingMember part name =>
    "module " ++ Text.quoted part ++ " has no attribute " ++ Text.quoted name
  | notImplemented => ""
  | overflow fault => fault.message
  | divisionByZero fault => fault.message
  | frozen part => "cannot assign to field " ++ Text.quoted part
  | recursion => "maximum recursion depth exceeded"
  | memory => ""

end HostFault

/-- What ends the host program as a whole. Nothing that recovers from errors recovers from it. -/
inductive Exit where
  /-- The host program asks to be ended. -/
  | request
  /-- The host program is interrupted from outside. -/
  | interrupt
  deriving DecidableEq, Repr

/-- Everything that an operation can fail with. -/
inductive Error where
  | program (fault : ProgramFault)
  | contract (fault : ContractFault)
  | scope (fault : ScopeFault)
  | lvalue (fault : LvalueFault)
  | arity (fault : ArityFault)
  | sealed (fault : SealFault)
  | type (fault : TypeFault)
  /-- Recorded code that cannot be lowered, with its place and its text if they are known. -/
  | lowering (fault : LoweringFault) (site? : Option Location) (subject? : Option String)
  | target (fault : TargetFault) (site? : Option Location) (subject? : Option String)
  | run (fault : RunFault)
  /-- A kernel that is to be compiled before its definition has ended. -/
  | kernelOpen (kernel : String)
  /-- A kernel that cannot be compiled for a target, with the reason. -/
  | kernelFailed (kernel : String) (arch : Arch) (cause : Error)
  | host (fault : HostFault)
  | exit (exit : Exit)
  deriving DecidableEq, Repr

namespace Error

/-- An error that quotes a text. If the text cannot be written, that is the error. -/
def quoting (text : Except HostFault String) (error : String → Error) : Error :=
  match text with
  | .ok text => error text
  | .error fault => .host fault

/-- A complaint about recorded code, with its text and its place. -/
def located (complaint : String) (site? : Option Location) (subject? : Option String) :
    Except HostFault String := do
  let subject :=
    match subject? with
    | none => ""
    | some text => " [" ++ text ++ "]"
  return complaint ++ subject ++ (← recordedAt site?)

/-- What a kernel failed at; compiling is the only stage that kernels fail in as a whole. -/
def kernelStage : String :=
  "compile"

def message : Error → Except HostFault String
  | program fault => .ok fault.message
  | contract fault => .ok fault.message
  | scope fault => .ok fault.message
  | lvalue fault => .ok fault.message
  | arity fault => .ok fault.message
  | sealed fault => .ok fault.message
  | type fault => .ok fault.message
  | lowering fault site? subject? => located fault.message site? subject?
  | target fault site? subject? => located fault.message site? subject?
  | run fault => .ok fault.message
  | kernelOpen kernel =>
    .ok ("kernel " ++ Text.quoted kernel ++ " failed during " ++ kernelStage ++
      ": kernel is still being defined")
  | kernelFailed kernel arch cause => do
    return "kernel " ++ Text.quoted kernel ++ " failed during " ++ kernelStage ++ " for " ++
      arch.name ++ ": " ++ (← cause.message)
  | host fault => .ok fault.message
  | exit _ => .ok ""

/-- Whether an error is one of the recorder's own, neither a fault of the host nor an exit. -/
def isOwn : Error → Bool
  | host _ => false
  | exit _ => false
  | _ => true

/-- Whether an error ends the host program as a whole. -/
def isExit : Error → Bool
  | exit _ => true
  | _ => false

/-- Whether an error is a record that cannot be marked any more. Such an error does not get through
an activation unchanged. -/
def isFrozen : Error → Bool
  | lowering _ _ _ => true
  | target _ _ _ => true
  | kernelOpen _ => true
  | kernelFailed _ _ _ => true
  | _ => false

end Error

end FieldKernel
