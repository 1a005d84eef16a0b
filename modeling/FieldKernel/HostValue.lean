import FieldKernel.Expr

/-!
# Values of the host program

Host code passes values of any kind to the recorder: numbers where expressions are expected, rows
of values, or objects that make no sense there. An object that can change, such as a block or a
group, is passed by its number, so that what is said about it later shows what it has become.
Numbers, texts and rows carry a number too, because host code can tell whether two of them are one
and the same. A row that comes up inside itself, by way of an object that it holds, is not listed
again there.
-/

namespace FieldKernel

/-- The number of a node of a layout, with that of its tree. -/
structure NodeRef where
  tree : Nat
  node : Nat
  deriving DecidableEq, Repr

/-- A value that host code passes in. -/
inductive HostValue where
  | none
  | literal (id : Nat) (value : Literal)
  | text (id : Nat) (value : String)
  | list (id : Nat) (items : List HostValue)
  | tuple (id : Nat) (items : List HostValue)
  /-- Values by name. -/
  | mapping (names : List String) (values : List HostValue)
  | expr (value : Expr)
  /-- An index group. -/
  | group (id : Nat)
  | axis (id index : Nat)
  | node (ref : NodeRef)
  | block (id : Nat)
  | statement (id : Nat)
  | builder (id : Nat)
  /-- A scope of a builder, with what it was opened for. -/
  | guard (builder id : Nat) (scope : HostValue)
  | program (id : Nat)
  | kernel (id : Nat)
  | compiled (id : Nat)
  | storage (id : Nat)

/-- The member of a row at a position, which counts from the end if it is negative. -/
def memberAt? {α : Type} (items : List α) (position : Int) : Option α :=
  let place := if position < 0 then position + items.length else position
  if place < 0 then none else items[place.toNat]?

/-- A value in the course of being listed: a row, a statement or a compiled kernel. -/
inductive Listed where
  | row (id : Nat)
  | statement (id : Nat)
  | compiled (id : Nat)
  deriving DecidableEq, Repr

namespace HostValue

@[match_pattern] abbrev int (id : Nat) (value : Int) : HostValue := .literal id (.int value)
@[match_pattern] abbrev bool (id : Nat) (value : Bool) : HostValue := .literal id (.bool value)
@[match_pattern] abbrev float (id : Nat) (value : Float) : HostValue := .literal id (.float value)

/-- The name of the class of a value; that of a statement is the class of all statements. -/
def className : HostValue → String
  | none => "NoneType"
  | bool _ _ => "bool"
  | int _ _ => "int"
  | float _ _ => "float"
  | text _ _ => "str"
  | list _ _ => "list"
  | tuple _ _ => "tuple"
  | mapping _ _ => "dict"
  | expr value => value.formName
  | group _ => "ExprGroup"
  | axis _ _ => "Index"
  | node _ => "SNode"
  | block _ => "Block"
  | statement _ => "Stmt"
  | builder _ => "ASTBuilder"
  | guard _ _ _ => "ScopeGuard"
  | program _ => "Program"
  | kernel _ => "Kernel"
  | compiled _ => "CompiledKernel"
  | storage _ => "FieldStorage"

mutual

/-- The listing of a value inside the listings of others, given the listings of the objects that
are passed by their numbers. -/
def listingWith (object : List Listed → HostValue → Except HostFault String)
    (outer : List Listed) : HostValue → Except HostFault String
  | none => .ok "None"
  | literal _ value => value.text
  | text _ value => .ok (Text.quoted value)
  | list id items =>
    if outer.contains (.row id) then .ok "[...]"
    else do
      return "[" ++ Expr.commaSeparated (← listingsWith object (.row id :: outer) items) ++ "]"
  | tuple id items =>
    if outer.contains (.row id) then .ok "(...)"
    else do return Listing.row (← listingsWith object (.row id :: outer) items)
  | mapping names values => do
    let entries := (names.zip (← listingsWith object outer values)).map fun (name, value) =>
      Text.quoted name ++ ": " ++ value
    return "\x7b" ++ Expr.commaSeparated entries ++ "\x7d"
  | expr value => Listing.expr value
  | axis _ index => do return Listing.record "Index" [("value", ← Text.decimal index)]
  | value => object outer value

def listingsWith (object : List Listed → HostValue → Except HostFault String)
    (outer : List Listed) : List HostValue → Except HostFault (List String)
  | [] => .ok []
  | first :: rest => do
    return (← listingWith object outer first) :: (← listingsWith object outer rest)

end

/-- Whether a value counts as true: zero, an empty row and the absence of a value do not. An object
that is passed by its number does. -/
def isTrue : HostValue → Bool
  | none => false
  | bool _ value => value
  | int _ value => value ≠ 0
  | float _ value => value != 0
  | text _ value => value ≠ ""
  | list _ items => !items.isEmpty
  | tuple _ items => !items.isEmpty
  | mapping names _ => !names.isEmpty
  | _ => true

/-- The whole number that a value is; a truth value is zero or one. -/
def whole? : HostValue → Option Int
  | int _ value => some value
  | bool _ value => some (if value then 1 else 0)
  | _ => Option.none

/-- The number that a value is. -/
def literal? : HostValue → Option Literal
  | literal _ value => some value
  | _ => Option.none

def field? : HostValue → Option Field
  | expr (.field field) => some field
  | _ => Option.none

/-- Whether two values are one and the same: they have the same number, or they are values of which
the host makes only one. These are the truth values, the numbers from -5 to 256, the texts of at
most one character below 256, and the empty tuple. -/
def isSame : HostValue → HostValue → Bool
  | none, none => true
  | bool _ left, bool _ right => left == right
  | int left value, int right other =>
    left == right || (value == other && -5 ≤ value && value ≤ 256)
  | float left _, float right _ => left == right
  | text left value, text right other => left == right || (value == other && isShared value.toList)
  | list left _, list right _ => left == right
  | tuple left members, tuple right others => left == right || (members.isEmpty && others.isEmpty)
  | expr left, expr right => left.key == right.key
  | axis left _, axis right _ => left == right
  | node left, node right => left == right
  | guard _ left _, guard _ right _ => left == right
  | group left, group right | block left, block right | statement left, statement right
  | builder left, builder right | program left, program right | kernel left, kernel right
  | compiled left, compiled right | storage left, storage right => left == right
  | _, _ => false
where
  /-- Whether all texts of the given characters are one. -/
  isShared : List Char → Bool
    | [] => true
    | [character] => character.toNat < 256
    | _ => false

end HostValue

def groupText (items : List Expr) : Except HostFault String := do
  return "(" ++ Expr.commaSeparated (← Expr.texts items) ++ ")"

end FieldKernel
