import FieldKernel.Session.State

/-!
# Recording in a session

Builders record statements in blocks that all of them share, and statements can be made on their
own and put into a block later. A guard is a scope that host code leaves in a structured way: the
scope is closed when the code inside it ends, however it ends.
-/

namespace FieldKernel

namespace Action

/-- Makes a block that is inside of no statement. -/
def newBlock (label : String) : Action Nat :=
  recordFree (Record.newBlock label)

def newAssign (target value : HostValue) : Action Nat :=
  recordFree (Record.newAssign target value)

def newStore (place value : HostValue) : Action Nat :=
  recordFree (Record.newStore place value)

def newLoad (place : HostValue) : Action Nat :=
  recordFree (Record.newLoad place)

/-- Makes a declaration of the variable that a value names. -/
def newAlloca (var : HostValue) (type? : Option HostValue) : Action Nat :=
  recordFree (Record.newAlloca var type?)

/-- Makes a printing statement of any value as it is. -/
def newPrint (value label : HostValue) : Action Nat :=
  recordFree (Record.newPrint value label)

/-- Makes a conditional on any value as it is. -/
def newBranch (condition : HostValue) : Action Nat :=
  recordFree (Record.newBranch condition)

/-- Makes a loop over a range, with the bounds as they are. -/
def newRange (var first last : HostValue) : Action Nat :=
  recordFree (Record.newRange var first last)

/-- Makes a loop over the elements of a field, with any number of variables. -/
def newElements (vars field : HostValue) : Action Nat :=
  recordFree (Record.newElements vars field)

def newBare : Action Nat :=
  recordFree Record.newBare

def insertInto (block statement : HostValue) : Action Unit :=
  recordFree (Record.insertInto block statement)

/-- Sets the place at which a statement was recorded. Plain values have no place, those that never
change refuse one, and other objects take one that nothing asks for. -/
def locateStatement (value : HostValue) (location : Location) : Action Unit :=
  match value with
  | .statement id => recordFree (Record.locate id location)
  | .expr _ | .axis _ _ | .compiled _ => throw (.host (.frozen "location"))
  | .none | .literal _ _ | .text _ _ | .list _ _ | .tuple _ _ | .mapping _ _ =>
    Ask.lacks value "location"
  | _ => return

/-- The loop that a value is, with its schedule; no other statement has one. -/
def scheduleOf (value : HostValue) : Action (Nat × Schedule) := do
  let statement ← Ask.statement value "schedule"
  match (← get).recording.schedule? statement with
  | some schedule => return (statement, schedule)
  | none => Ask.lacks value "schedule"

/-- Sets a hint of a loop to any value. -/
def setHint (loop kind value : HostValue) : Action Schedule := do
  let (statement, _) ← scheduleOf loop
  let kind ← Ask.choice kind "ScheduleKind" HintKind.ofName?
  recordFree (Record.setHint statement kind (.host value))
  return (← scheduleOf loop).2

/-- The hint of a loop, or else a value in its place. -/
def getHint (loop kind otherwise : HostValue) : Action HintValue := do
  let (_, schedule) ← scheduleOf loop
  let kind ← Ask.choice kind "ScheduleKind" HintKind.ofName?
  return (schedule.get? kind).getD (.host otherwise)

def resolve (value type : HostValue) : Action DataType := do
  let expr ← Ask.expr value "resolve_type"
  let type ← Ask.dataType type
  let session ← get
  let slots ← ofExcept (session.slots.resolve expr type)
  set { session with slots := slots }
  return type

/-- Sets the place at which an expression was written. -/
def locate (value : HostValue) (location : Location) : Action Unit := do
  let expr ← Ask.expr value "set_tb"
  modify fun session =>
    { session with locations := session.locations.insert expr.key location }

/-- Adds a value to an index group and answers with the size of the group. -/
def pushBack (group : Nat) (value : HostValue) : Action Nat := do
  let item ← build (Build.expr value)
  modify fun session => { session with groups := session.groups.modify group (· ++ [item]) }
  return ((← get).group group).length

end Action

namespace HostT

/-- Does something inside a scope and leaves it. -/
def inScope {m : Type → Type} [Monad m] (builder : Nat) (guard : Guard) (inside : HostT m Unit) :
    HostT m Unit := do
  let outcome ← observe inside
  lift (Action.record builder (Record.leave guard (outcome matches .error _)))
  match outcome with
  | .ok () => return
  | .error error => throw error

end HostT

end FieldKernel
