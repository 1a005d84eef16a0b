import FieldKernel.Row

/-!
# Building expressions

Host values become expressions here: numbers turn into literals, and everything that is no number
and no expression is refused. Each new node takes a fresh key, and each new identifier a fresh
number, from a supply that also a failed attempt has used up.
-/

namespace FieldKernel

/-- The next numbers of nodes and other values, which share one count, and of identifiers. -/
structure Supply where
  key : Nat
  identifier : Nat
  deriving DecidableEq, Repr

/-- An attempt to build something, which takes numbers from the supply. -/
abbrev Build := ReaderT Objects (ExceptT Error (StateM Supply))

instance : MonadLift Ask Build := ⟨fun question objects => ExceptT.mk (pure (question objects))⟩

namespace Build

/-- A number that no node and no other value has yet. -/
def freshKey : Build Nat :=
  modifyGet fun supply => (supply.key, { supply with key := supply.key + 1 })

/-- An identifier that nothing else has. -/
def freshIdentifier (name? : Option String) : Build Identifier :=
  modifyGet fun supply =>
    (⟨supply.identifier, name?⟩, { supply with identifier := supply.identifier + 1 })

/-- A variable with an identifier of its own. -/
def freshVariable (name? : Option String) : Build Variable := do
  let identifier ← freshIdentifier name?
  let key ← freshKey
  return ⟨key, identifier⟩

def literal (value : Literal) (type : DataType) : Build Expr := do
  return .literal (← freshKey) value type

/-- The value at the place of an element. -/
def load (place : Element) : Build Expr := do
  return .load (← freshKey) place.key place.field place.indices

/-- The same expression, or the value at it if it is the place of an element. -/
def valueOf (expr : Expr) : Build Expr :=
  match expr.element? with
  | some place => load place
  | none => pure expr

/-- The arguments of a kernel with the given types. -/
def arguments (types : List DataType) : Build (List Expr) :=
  types.zipIdx.mapM fun (type, position) => do return .argument (← freshKey) position type

end Build

namespace Ask

/-- A data type is given by its short or by its long name. -/
def dataType (value : HostValue) : Ask DataType := do
  let found? :=
    match value with
    | .text _ name => DataType.ofName? name
    | _ => none
  match found? with
  | some type => return type
  | none => throw (.type (.unknownType (← listing value)))

/-- The member of a closed class that a value names. -/
def choice {α : Type} (value : HostValue) (className : String) (ofName? : String → Option α) :
    Ask α := do
  let found? :=
    match value with
    | .text _ name => ofName? name
    | _ => none
  match found? with
  | some found => return found
  | none => throw (.host (.value (.member (← listing value) className)))

/-- The data type that a value is the long name of. -/
def longDataType (value : HostValue) : Ask DataType :=
  choice value "DataType" DataType.ofLongName?

def binaryOp (value : HostValue) : Ask BinaryOp :=
  choice value "BinaryOpType" BinaryOp.ofName?

def unaryOp (value : HostValue) : Ask UnaryOp :=
  choice value "UnaryOpType" UnaryOp.ofName?

def arch (value : HostValue) : Ask Arch :=
  choice value "Arch" Arch.ofName?

/-- The target that a setting of the surroundings asks for; a setting is a text without nulls. -/
def archSetting (setting : HostValue) : Ask Arch := do
  let setting? ←
    match setting with
    | .none => pure none
    | .text _ name =>
      if name.contains '\x00' then throw (.host (.value .nullCharacter)) else pure (some name)
    | setting => refuse setting .setting
  match Arch.ofSetting setting? with
  | .ok arch => return arch
  | .error name => throw (.host (.value (.archSetting name)))

/-- The type of a literal; nothing else has one by itself. -/
def literalType (value : HostValue) : Ask DataType := do
  match value.literal? with
  | some value => return value.type
  | none => throw (.type (.constant ((← read).className value)))

/-- The identifier of a variable, of a field or of the variable that a statement declares. -/
def identifier (value : HostValue) : Ask Identifier := do
  match value with
  | .expr (.identifier var) => return var.identifier
  | .expr (.field field) => return field.identifier
  | .statement id =>
    match ((← read).recording.statement id).kind with
    | .alloca identifier _ => return identifier
    | _ => lacks value "ident"
  | value => lacks value "ident"

/-- The fields that a value is subscripted for; only a field has elements. -/
def subscripted (value : HostValue) : Ask Field := do
  match value with
  | .expr (.field field) => return field
  | .expr value =>
    throw (.quoting value.text fun text => .type (.subscripted (Text.quoted text)))
  | value => throw (.type (.subscripted (← listing value)))

/-- The place of an element that is to be loaded. -/
def placeToLoad (value : HostValue) : Ask Element := do
  match value with
  | .expr (.element key field indices) => return ⟨key, field, indices⟩
  | value => throw (.type (.loaded (← recorded value)))

end Ask

namespace Build

/-- An expression as it is, or a number as a literal. -/
def expr (value : HostValue) : Build Expr := do
  match value with
  | .expr value => return value
  | .literal _ value => literal value value.type
  | value =>
    throw (.type (.notExpression ((← read).className value) (← Ask.listing value)))

/-- The value that is read where an expression stands. -/
def valueExpr (value : HostValue) : Build Expr := do
  valueOf (← expr value)

/-- The members of an index group; a single value stands for a group of one. -/
def group (value : HostValue) : Build (List Expr) := do
  match value with
  | .group id => return (← read).group id
  | .list _ items => items.mapM expr
  | .tuple _ items => items.mapM expr
  | value => return [← expr value]

/-- A literal with the type asked for, or with the type of its kind. -/
def constant (value : HostValue) (type? : Option HostValue) : Build Expr := do
  match value.literal? with
  | none => throw (.type (.constant ((← read).className value)))
  | some number =>
    let type ←
      match type? with
      | some type => Ask.dataType type
      | none => pure DataType.unknown
    literal number (if type = .unknown then number.type else type)

def binaryOp (op : BinaryOp) (left right : HostValue) : Build Expr := do
  let left ← expr left
  let right ← expr right
  return .binary (← freshKey) op left right

/-- An operation on two values, with the operator given by a name. -/
def binary (op left right : HostValue) : Build Expr := do
  binaryOp (← Ask.binaryOp op) left right

def unaryOp (op : UnaryOp) (operand : HostValue) : Build Expr := do
  let operand ← expr operand
  return .unary (← freshKey) op operand

/-- An operation on one value, with the operator given by a name. -/
def unary (op operand : HostValue) : Build Expr := do
  unaryOp (← Ask.unaryOp op) operand

def cast (operand type : HostValue) : Build Expr := do
  let operand ← expr operand
  let type ← Ask.dataType type
  return .cast (← freshKey) operand type

/-- A kernel argument at a position. -/
def argument (position : Int) (type : DataType) : Build Expr := do
  return .argument (← freshKey) position type

/-- Declares a field by a name or by an identifier expression. A name uses up an identifier even if
the type is refused. -/
def field (name type : HostValue) : Build Expr := do
  let identifier ←
    match name with
    | .text _ name => freshIdentifier (some name)
    | .expr (.identifier var) => pure var.identifier
    | name => throw (.type (.fieldName ((← read).className name)))
  let type ← Ask.dataType type
  if type = .unknown then
    throw (.type .fieldType)
  return .field ⟨← freshKey, identifier, type⟩

/-- The element of a field at a row of expressions that exist already. -/
def elementAt (value : HostValue) (indices : List Expr) : Build Expr := do
  let field ← Ask.subscripted value
  return .element (← freshKey) field indices

/-- The element of a field at the indices of a group. -/
def subscript (value indices : HostValue) : Build Expr := do
  let field ← Ask.subscripted value
  let indices ← group indices
  return .element (← freshKey) field indices

/-- The element of a field at one index. -/
def index (value index : HostValue) : Build Expr := do
  elementAt value [← expr index]

/-- What brackets behind a value give: the element of a field, where a tuple is a group of indices,
or the member of a row. -/
def item (value key : HostValue) : Build HostValue := do
  match value, key with
  | .expr _, .tuple _ keys => return .expr (← elementAt value (← keys.mapM expr))
  | .expr _, key => return .expr (← subscript value key)
  | .text _ _, key =>
    match ← Ask.member value key with
    | .text _ character => return .text (← freshKey) character
    | member => return member
  | value, key => Ask.member value key

/-- The value at the place of an element, which has to be one. -/
def explicitLoad (value : HostValue) : Build Expr := do
  load (← Ask.placeToLoad value)

end Build

end FieldKernel
