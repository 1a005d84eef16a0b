import FieldKernel.Operator
import FieldKernel.Scalar.Basic
import FieldKernel.Text.Quoted

/-!
# Expressions

An expression is a tree of operations over identifiers, literals, kernel arguments and field
elements. Every node has a key: two occurrences with the same key are one shared node, and what is
learnt about a node later, its type and the place it was written at, is kept under its key.
-/

namespace FieldKernel

/-- Where in the host program something was recorded. -/
structure Location where
  file : String
  line : Int
  function? : Option String
  deriving DecidableEq, Repr

namespace Location

/-- The text of a location. A function without a name is not mentioned. -/
def text (location : Location) : Except HostFault String := do
  let place := location.file ++ ":" ++ (← Text.decimal location.line)
  match location.function? with
  | none => return place
  | some name => return if name = "" then place else place ++ " in " ++ name

end Location

/-- A number that stands for a variable or a field, with the name that it is shown by, if any. -/
structure Identifier where
  id : Nat
  name? : Option String
  deriving DecidableEq, Repr

namespace Identifier

/-- The name, or a made-up one for an identifier without a name or with an empty one. -/
def text (identifier : Identifier) : String :=
  match identifier.name?.filter (· ≠ "") with
  | some name => name
  | none => "tmp" ++ toString identifier.id

end Identifier

/-- An identifier in the place of a value: a local variable or a loop variable. -/
structure Variable where
  key : Nat
  identifier : Identifier
  deriving DecidableEq, Repr

/-- A scalar field, as it is declared before it is placed in a layout. -/
structure Field where
  key : Nat
  identifier : Identifier
  type : DataType
  deriving DecidableEq, Repr

namespace Field

/-- A field is shown with a mark in front of its name. -/
def text (field : Field) : String :=
  "@" ++ field.identifier.text

end Field

/-- A node of an expression tree, with its key first. -/
inductive Expr where
  | identifier (var : Variable)
  | literal (key : Nat) (value : Literal) (type : DataType)
  | binary (key : Nat) (op : BinaryOp) (left right : Expr)
  | unary (key : Nat) (op : UnaryOp) (operand : Expr)
  | cast (key : Nat) (operand : Expr) (type : DataType)
  | field (field : Field)
  /-- The place of a field's element. -/
  | element (key : Nat) (field : Field) (indices : List Expr)
  /-- The value at the place with the key `elementKey`. -/
  | load (key elementKey : Nat) (field : Field) (indices : List Expr)
  | argument (key : Nat) (position : Int) (type : DataType)

/-- The place of a field's element, as statements hold it. -/
structure Element where
  key : Nat
  field : Field
  indices : List Expr

namespace Expr

def key : Expr → Nat
  | identifier var => var.key
  | literal key _ _ => key
  | binary key _ _ _ => key
  | unary key _ _ => key
  | cast key _ _ => key
  | field declared => declared.key
  | element key _ _ => key
  | load key _ _ _ => key
  | argument key _ _ => key

def ofElement (place : Element) : Expr :=
  element place.key place.field place.indices

/-- The element that an expression is the place of. -/
def element? : Expr → Option Element
  | element key declared indices => some ⟨key, declared, indices⟩
  | _ => none

/-- The type that a node has from the start. -/
def initialType : Expr → DataType
  | identifier _ => .unknown
  | literal _ _ type => type
  | binary _ _ _ _ => .unknown
  | unary _ _ _ => .unknown
  | cast _ _ type => type
  | field declared => declared.type
  | element _ declared _ => declared.type
  | load _ _ declared _ => declared.type
  | argument _ _ type => type

/-- Whether a value can be assigned to a node. -/
def isLvalue : Expr → Bool
  | identifier _ => true
  | element _ _ _ => true
  | _ => false

/-- The nodes directly below a node. -/
def operands : Expr → List Expr
  | identifier _ => []
  | literal _ _ _ => []
  | binary _ _ left right => [left, right]
  | unary _ _ operand => [operand]
  | cast _ operand _ => [operand]
  | field _ => []
  | element _ declared indices => .field declared :: indices
  | load _ elementKey declared indices => [.element elementKey declared indices]
  | argument _ _ _ => []

/-- Texts in a row, with a comma and a blank between them. -/
def commaSeparated (texts : List String) : String :=
  ", ".intercalate texts

/-- The text of an element of a field. -/
def elementText (field : Field) (indices : List String) : String :=
  field.text ++ "[(" ++ commaSeparated indices ++ ")]"

mutual

/-- The text of an expression as recorded code shows it. -/
def text : Expr → Except HostFault String
  | identifier var => .ok var.identifier.text
  | literal _ value _ => value.text
  | binary _ op left right => do
    let left ← left.text
    let right ← right.text
    match op.symbol? with
    | some symbol => return "(" ++ left ++ " " ++ symbol ++ " " ++ right ++ ")"
    | none => return op.name ++ "(" ++ left ++ ", " ++ right ++ ")"
  | unary _ .neg operand => do return "(-" ++ (← operand.text) ++ ")"
  | unary _ op operand => do return op.name ++ "(" ++ (← operand.text) ++ ")"
  | cast _ operand type => do
    return "cast<" ++ type.shortName ++ ">(" ++ (← operand.text) ++ ")"
  | field declared => .ok declared.text
  | element _ declared indices => do return elementText declared (← texts indices)
  | load _ _ declared indices => do
    return "gbl load " ++ elementText declared (← texts indices)
  | argument _ position _ => do return "arg[" ++ (← Text.decimal position) ++ "]"

def texts : List Expr → Except HostFault (List String)
  | [] => .ok []
  | first :: rest => do return (← first.text) :: (← texts rest)

end

/-- The name of a node's form, as structural listings and complaints show it. -/
def formName : Expr → String
  | identifier _ => "IdExpression"
  | literal _ _ _ => "ConstExpression"
  | binary _ _ _ _ => "BinaryOpExpression"
  | unary _ _ _ => "UnaryOpExpression"
  | cast _ _ _ => "CastExpression"
  | field _ => "GlobalVariableExpression"
  | element _ _ _ => "GlobalPtrExpression"
  | load _ _ _ _ => "GlobalLoadExpression"
  | argument _ _ _ => "ArgLoadExpression"

end Expr

namespace Listing

/-- A choice of a closed class, with the name of the class, of the choice and of its value. -/
def choice (className name value : String) : String :=
  "<" ++ className ++ "." ++ name ++ ": " ++ Text.quoted value ++ ">"

/-- Texts in parentheses; a row of one has a comma behind it. -/
def row (texts : List String) : String :=
  match texts with
  | [only] => "(" ++ only ++ ",)"
  | texts => "(" ++ Expr.commaSeparated texts ++ ")"

/-- A record, with the name of its class and its fields by name. -/
def record (className : String) (fields : List (String × String)) : String :=
  className ++ "(" ++
    Expr.commaSeparated (fields.map fun field => field.1 ++ "=" ++ field.2) ++ ")"

def dataType (type : DataType) : String :=
  choice "DataType" type.shortName type.longName

def identifier (identifier : Identifier) : String :=
  let name := (identifier.name?.map Text.quoted).getD "None"
  record "Identifier" [("id", toString identifier.id), ("name", name)]

def field (field : Field) : String :=
  record "GlobalVariableExpression"
    [("ident", identifier field.identifier), ("dt", dataType field.type)]

def element (declared : Field) (indices : List String) : String :=
  record "GlobalPtrExpression" [("var", field declared), ("indices", row indices)]

mutual

/-- An expression with all its parts by name. -/
def expr : Expr → Except HostFault String
  | .identifier var => .ok (record "IdExpression" [("ident", identifier var.identifier)])
  | .literal _ value type => do
    return record "ConstExpression" [("value", ← value.text), ("dt", dataType type)]
  | .binary _ op left right => do
    return record "BinaryOpExpression"
      [("op", choice "BinaryOpType" op.name op.name), ("lhs", ← expr left), ("rhs", ← expr right)]
  | .unary _ op operand => do
    return record "UnaryOpExpression"
      [("op", choice "UnaryOpType" op.name op.name), ("operand", ← expr operand)]
  | .cast _ operand type => do
    return record "CastExpression" [("operand", ← expr operand), ("cast_type", dataType type)]
  | .field declared => .ok (field declared)
  | .element _ declared indices => do return element declared (← exprs indices)
  | .load _ _ declared indices => do
    return record "GlobalLoadExpression" [("ptr", element declared (← exprs indices))]
  | .argument _ position type => do
    return record "ArgLoadExpression"
      [("arg_id", ← Text.decimal position), ("dt", dataType type)]

def exprs : List Expr → Except HostFault (List String)
  | [] => .ok []
  | first :: rest => do return (← expr first) :: (← exprs rest)

end

end Listing

end FieldKernel
