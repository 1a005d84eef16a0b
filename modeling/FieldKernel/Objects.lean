import FieldKernel.Kernel
import FieldKernel.Layout.Tree
import FieldKernel.Recording.Arena

/-!
# Objects of a session

The objects that host values refer to by number, and the written forms of host values that follow
from them. An object can hold values that lead back to it. Its listing then breaks off where it
would come up inside itself, and its form in recorded code fails, because that would have no end.
-/

namespace FieldKernel

/-- The objects that host values refer to. -/
structure Objects where
  recording : Recording
  groups : Array (List Expr)
  layouts : Layouts
  kernels : Array Kernel
  /-- Everything that kernels were compiled to. -/
  compiled : Array CompiledKernel

namespace Objects

def group (objects : Objects) (id : Nat) : List Expr :=
  objects.groups[id]?.getD []

def kernel (objects : Objects) (id : Nat) : Kernel :=
  objects.kernels[id]?.getD ⟨0, "", [], 0, 0, .failed, 0, none, []⟩

/-- A layout tree. -/
def tree (objects : Objects) (id : Nat) : Tree :=
  objects.layouts[id]?.getD (.new none)

def node (objects : Objects) (ref : NodeRef) : Node :=
  ((objects.tree ref.tree).node? ref.node).getD ⟨[], ⟨0, .root, []⟩⟩

def className (objects : Objects) : HostValue → String
  | .statement id => objects.recording.className id
  | value => value.className

/-- The listing of an object that shows nothing of what belongs to it. -/
def bareListing (part : String) (value : HostValue) : String :=
  "<tlang_jax." ++ part ++ "." ++ value.className ++ " object>"

/-- The listing of an object inside the listings of others, to a depth. -/
def objectListing (objects : Objects) :
    Nat → List Listed → HostValue → Except HostFault String
  | 0, _, _ => .ok "..."
  | depth + 1, outer, value =>
    let rendering (inner : Listed) : Rendering :=
      ⟨fun _ => .error .recursion,
        HostValue.listingWith (objects.objectListing depth) (inner :: outer)⟩
    match value with
    | .group id => do return "ExprGroup" ++ (← groupText (objects.group id))
    | .node ref => (objects.node ref).text
    | .block id => .ok (objects.recording.block id).text
    | .statement id =>
      if outer.contains (.statement id) then .ok "..."
      else objects.recording.listing (rendering (.statement id)) id
    | .compiled id =>
      match objects.compiled[id]? with
      | some compiled =>
        if outer.contains (.compiled id) then .ok "..."
        else compiled.listing (rendering (.compiled id))
      | none => .ok "..."
    | .kernel id => .ok (objects.kernel id).text
    | .program _ => .ok (bareListing "program" value)
    | .storage _ => .ok (bareListing "runtime" value)
    | value => .ok (bareListing "builder" value)

/-- The listing of a value. No object is listed inside itself, so their number bounds the depth. -/
def listing (objects : Objects) (value : HostValue) : Except HostFault String :=
  let depth := objects.recording.statements.size + objects.compiled.size + 1
  value.listingWith (objects.objectListing depth) []

/-- The form of a value in recorded code, down to a depth. -/
def recordedTo (objects : Objects) : Nat → HostValue → Except HostFault String
  | 0, _ => .error .recursion
  | depth + 1, value =>
    let rendering : Rendering := ⟨objects.recordedTo depth, objects.listing⟩
    match value with
    | .expr value => value.text
    | .group id => groupText (objects.group id)
    | .statement id => (objects.recording.stmt id).text rendering
    | .block id => Stmt.blockText rendering (objects.recording.body id)
    | value => .error (.missingAttribute value.className "serialize")

/-- The form of a value in recorded code. Statements that show one another without end are shown
deeper than their number. -/
def recorded (objects : Objects) (value : HostValue) : Except HostFault String :=
  objects.recordedTo (objects.recording.statements.size + 2) value

def rendering (objects : Objects) : Rendering :=
  ⟨objects.recorded, objects.listing⟩

/-- The lines of a statement in recorded code. -/
def lines (objects : Objects) (level statement : Nat) : Except HostFault (List String) :=
  (objects.recording.stmt statement).lines objects.rendering level

/-- The schedule of a loop as recorded code shows it. -/
def scheduleText (objects : Objects) (schedule : Schedule) : Except HostFault String :=
  schedule.text objects.rendering

end Objects

/-- A question about host values and the objects they refer to. -/
abbrev Ask := ReaderT Objects (Except Error)

namespace Ask

/-- An answer that depends on no object. -/
def ofExcept {α : Type} (outcome : Except Error α) : Ask α :=
  fun _ => outcome

def ofHost {α : Type} (outcome : Except HostFault α) : Ask α :=
  fun _ => outcome.mapError .host

/-- A value is refused for its class. -/
def refuse {α : Type} (value : HostValue) (fault : String → OperandFault) : Ask α := do
  throw (.host (.operand (fault ((← read).className value))))

/-- A value does not have what is asked of it. -/
def lacks {α : Type} (value : HostValue) (name : String) : Ask α := do
  throw (.host (.missingAttribute ((← read).className value) name))

def listing (value : HostValue) : Ask String := do
  ofHost ((← read).listing value)

/-- The form of a value in recorded code. -/
def recorded (value : HostValue) : Ask String := do
  ofHost ((← read).recorded value)

/-- An expression that something of a given name is asked of; no other value has it. -/
def expr (value : HostValue) (asked : String) : Ask Expr :=
  match value with
  | .expr value => pure value
  | value => lacks value asked

/-- A node of a layout that something is asked of. -/
def node (value : HostValue) (asked : String) : Ask NodeRef :=
  match value with
  | .node ref => pure ref
  | value => lacks value asked

def block (value : HostValue) (asked : String) : Ask Nat :=
  match value with
  | .block id => pure id
  | value => lacks value asked

def statement (value : HostValue) (asked : String) : Ask Nat :=
  match value with
  | .statement id => pure id
  | value => lacks value asked

def kernel (value : HostValue) (asked : String) : Ask Nat :=
  match value with
  | .kernel id => pure id
  | value => lacks value asked

def group (value : HostValue) (asked : String) : Ask Nat :=
  match value with
  | .group id => pure id
  | value => lacks value asked

def storage (value : HostValue) (asked : String) : Ask Nat :=
  match value with
  | .storage id => pure id
  | value => lacks value asked

def field (value : HostValue) (asked : String) : Ask Field :=
  match value.field? with
  | some field => pure field
  | none => lacks value asked

end Ask

end FieldKernel
