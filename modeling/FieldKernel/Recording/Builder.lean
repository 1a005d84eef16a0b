import FieldKernel.Expr.Build
import FieldKernel.Log

/-!
# Recording statements

Host control flow runs while a kernel is defined, so whatever is to be recorded as a conditional
or a loop is opened and closed explicitly: a builder has a stack of scopes, each with the block
that statements go to, and every scope is closed once. An operation checks all it needs before it
changes anything. A scope can be opened for something that is no block; then there is nothing to
record in it.
-/

namespace FieldKernel

/-- An entry of a scope stack. Two entries for the same block are told apart by their numbers. -/
structure Guard where
  id : Nat
  scope : HostValue

/-- A stack of scopes. -/
structure Builder where
  /-- The scopes, the innermost first. -/
  stack : List Guard
  /-- How many scopes at the bottom belong to the definition itself and cannot be closed. -/
  floor : Nat
  /-- The loop that was recorded last. -/
  lastLoop? : Option Nat

namespace Builder

def empty : Builder :=
  ⟨[], 0, none⟩

def depth (builder : Builder) : Nat :=
  builder.stack.length

end Builder

/-- What recording works on: a builder, and all that builders share. -/
structure Recorder extends Objects where
  supply : Supply
  builder : Builder
  /-- The number of the next scope. -/
  nextGuard : Nat
  log : Array LogRecord

/-- An attempt to record something. -/
abbrev Record := ExceptT Error (StateM Recorder)

instance : MonadLift Ask Record :=
  ⟨fun question => ExceptT.mk fun recorder => (question recorder.toObjects, recorder)⟩

namespace Record

/-- Builds expressions with the recorder's supply. -/
def build {α : Type} (attempt : Build α) : Record α :=
  ExceptT.mk fun recorder =>
    let (outcome, supply) := (attempt.run recorder.toObjects).run.run recorder.supply
    (outcome, { recorder with supply := supply })

/-- Reports a message, unless it cannot be written. -/
def report (message : Except HostFault String) : Record Unit :=
  modify fun recorder => { recorder with log := LogRecord.note .builder message recorder.log }

def modifyRecording (change : Recording → Recording) : Record Unit :=
  modify fun recorder => { recorder with recording := change recorder.recording }

def modifyBuilder (change : Builder → Builder) : Record Unit :=
  modify fun recorder => { recorder with builder := change recorder.builder }

/-- Adds something to the recording and answers with its number. -/
def addTo (addition : Recording → Nat × Recording) : Record Nat :=
  modifyGet fun recorder =>
    let (id, recording) := addition recorder.recording
    (id, { recorder with recording := recording })

/-- What the innermost scope is open for. -/
def currentScope : Record HostValue := do
  match (← get).builder.stack with
  | guard :: _ => return guard.scope
  | [] => throw (.scope .noActiveScope)

def createScope (scope : HostValue) : Record Guard := do
  let recorder ← get
  let guard : Guard := ⟨recorder.nextGuard, scope⟩
  let stack := guard :: recorder.builder.stack
  set { recorder with
    builder := { recorder.builder with stack := stack }
    nextGuard := recorder.nextGuard + 1 }
  report do return s!"push scope {← recorder.listing scope} (depth {stack.length})"
  return guard

/-- Closes the branch of a conditional if it is the one that a block is for. -/
def closeBranch (block : Nat) : Record Unit := do
  let recording := (← get).recording
  match recording.owningBranch? block with
  | some (owner, _, some branch) =>
    if branch.label = (recording.block block).label then
      modifyRecording (·.markOpen owner none)
  | _ => pure ()

/-- Closes the innermost scope, and with it the branch that it was entered for. -/
def popScope : Record HostValue := do
  let recorder ← get
  match recorder.builder.stack with
  | [] => throw (.scope .emptyStack)
  | guard :: rest =>
    if recorder.builder.stack.length ≤ recorder.builder.floor then
      throw (.scope .outermostScope)
    modifyBuilder fun builder => { builder with stack := rest }
    closeBranch (← Ask.block guard.scope "owner")
    report do return s!"pop scope {← recorder.listing guard.scope} (depth {rest.length})"
    return guard.scope

/-- Opens the outermost scope of a definition. -/
def enterRoot (scope : HostValue) : Record Guard := do
  unless (← get).builder.stack.isEmpty do
    throw (.scope .nestedDefinition)
  let guard ← createScope scope
  modifyBuilder fun builder => { builder with floor := 1, lastLoop? := none }
  return guard

/-- Closes the outermost scope of a definition, which has to be the only one. -/
def exitRoot : Record HostValue := do
  let depth := (← get).builder.depth
  if depth ≠ 1 then
    throw (.scope (.unclosed ((depth : Int) - 1)))
  modifyBuilder fun builder => { builder with floor := 0 }
  popScope

/-- Drops all scopes of a definition that was given up. -/
def reset : Record Unit :=
  modifyBuilder fun _ => .empty

/-- Puts a statement into a block, unless it is in one already. -/
def insertInto (block statement : HostValue) : Record Unit := do
  let block ←
    match block with
    | .list _ _ => throw (.host (.operand .rowInsert))
    | block => Ask.block block "insert"
  let statement ← Ask.statement statement "parent_block"
  let recording := (← get).recording
  if (recording.statement statement).parent?.isSome then
    throw (.contract (.alreadyOwned (recording.className statement)))
  modifyRecording (·.append block statement)

/-- Records a statement that exists already. -/
def insert (statement : HostValue) : Record Unit := do
  insertInto (← currentScope) statement
  let id ← Ask.statement statement "parent_block"
  match ((← get).recording.statement id).kind with
  | .loop _ _ _ _ => modifyBuilder fun builder => { builder with lastLoop? := some id }
  | _ => pure ()

/-- Records a new statement, which is added only if there is a scope for it. -/
def record (addition : Recording → Nat × Recording) : Record Nat := do
  let _ ← currentScope
  let statement ← addTo addition
  insert (.statement statement)
  return statement

/-- The last statement of the current block, if it has any. -/
def last? : Record (Nat × Option Nat) := do
  let block ← Ask.block (← currentScope) "last"
  return (block, (← get).recording.last? block)

/-- The last statement of the current block. -/
def lastStatement : Record Nat := do
  match ← last? with
  | (_, some statement) => return statement
  | (_, none) => throw (.scope .noStatement)

def alloca (name? : Option String) : Record Variable := do
  let var ← build (Build.freshVariable name?)
  let _ ← record (·.addStatement (.alloca var.identifier .unknown))
  return var

/-- The target of an assignment. -/
def assignable (target : HostValue) : Ask Expr := do
  match target with
  | .expr target =>
    if target.isLvalue then return target
    else throw (.quoting target.text fun text => .lvalue (.assignment text))
  | target => throw (.lvalue (.assignment (← Ask.listing target)))

def assign (target value : HostValue) : Record Nat := do
  let target ← assignable target
  let value ← build (Build.valueExpr value)
  record (·.addStatement (.assign target value))

def var (value : HostValue) (name? : Option String) : Record Variable := do
  let var ← alloca name?
  let _ ← assign (.expr (.identifier var)) value
  return var

def print (value label : HostValue) : Record Nat := do
  let value ← build (Build.valueExpr value)
  record (·.addStatement (.print (.expr value) label))

/-- Records a conditional with empty branches. -/
def beginIf (condition : HostValue) : Record Nat := do
  let condition ← build (Build.valueExpr condition)
  record (·.addBranch (.expr condition))

/-- The text of a conditional whose branch is open. -/
def conditionText (condition : HostValue) : Ask String := do
  Ask.ofHost (Stmt.branchText (← read).rendering condition)

/-- Opens the scope of a branch of the conditional that was recorded last. -/
def enterBranch (branch : Branch) : Record Guard := do
  let (block, last?) ← last?
  let recording := (← get).recording
  match last?.map fun last => (last, (recording.statement last).kind) with
  | some (last, .branch condition onTrue onFalse open?) =>
    match open? with
    | some openBranch =>
      throw (.scope (.branchOpen openBranch.label (← conditionText condition)))
    | none =>
      modifyRecording (·.markOpen last (some branch))
      createScope (.block (match branch with
        | .onTrue => onTrue
        | .onFalse => onFalse))
  | _ =>
    match recording.owningBranch? block with
    | some (_, condition, some openBranch) =>
      throw (.scope
        (.branchOpenAround branch.label openBranch.label (← conditionText condition)))
    | _ => throw (.scope (.branchNeedsIf branch.label))

def loopVariables (vars : List HostValue) : Ask (List Variable) :=
  vars.mapM fun
    | .expr (.identifier var) => pure var
    | var => do throw (.type (.loopVariable (← Ask.recorded var)))

def loopField (field : HostValue) : Ask Field := do
  match field.field? with
  | some field => return field
  | none => throw (.type (.loopField (← Ask.recorded field)))

/-- Records a loop over a range of whole numbers. -/
def beginRange (var first last : HostValue) : Record Nat := do
  let first ← build (Build.valueExpr first)
  let last ← build (Build.valueExpr last)
  let vars ← loopVariables [var]
  record (·.addLoop vars (.range first last))

/-- Records a loop over the active elements of a field. If the field is placed already, the loop
needs a variable for each of its axes. -/
def beginElements (vars field : HostValue) : Record Nat := do
  let group ← build (Build.group vars)
  if group.isEmpty then
    throw (.arity .noLoopIndex)
  let field ← loopField field
  let vars ← loopVariables (group.map .expr)
  match (← get).layouts.leafOf? field with
  | none => pure ()
  | some (_, leaf) =>
    let needed := leaf.lineage.axes.length
    if needed ≠ group.length then
      throw (.quoting leaf.path fun path => .arity (.recordedLoop path needed group.length))
  record (·.addLoop vars (.elements field))

/-- Opens the body of the loop that was recorded last. -/
def enterBody : Record Guard := do
  let (_, last?) ← last?
  let recording := (← get).recording
  match last?.map fun last => (recording.statement last).kind with
  | some (.loop _ _ body _) => createScope (.block body)
  | _ => throw (.scope .bodyNeedsFor)

/-- Records a loop over a range and opens its body. -/
def openRange (var first last : HostValue) : Record Guard := do
  let _ ← beginRange var first last
  enterBody

/-- Records a loop over the elements of a field and opens its body. -/
def openElements (vars field : HostValue) : Record Guard := do
  let _ ← beginElements vars field
  enterBody

/-- The value of a hint: a cache mode for caching, and a positive number for all else. -/
def hintValue (kind : HintKind) (value : HostValue) : Ask HintValue := do
  match kind, value with
  | .cache, .text _ name =>
    match CacheMode.ofName? name with
    | some mode => return .mode mode
    | none => throw (.type (.cacheMode (← Ask.listing value)))
  | .cache, value => throw (.type (.cacheMode (← Ask.listing value)))
  | kind, .int _ number =>
    if 0 < number then return .host value
    else throw (.type (.hint kind.name (← Ask.listing value)))
  | kind, value => throw (.type (.hint kind.name (← Ask.listing value)))

/-- Sets a hint of the loop that was recorded last. -/
def hint (kind : HintKind) (value : HostValue) : Record Nat := do
  match (← get).builder.lastLoop? with
  | none => throw (.scope (.noLoop kind.name))
  | some loop =>
    let value ← hintValue kind value
    modifyRecording (·.setHint loop kind value)
    return loop

/-- Leaves what was done inside a guarded scope. The scope is closed if it is the innermost one
again; if it is not, that is a fault unless the inside has failed already. -/
def leave (guard : Guard) (failed : Bool) : Record Unit := do
  let recorder ← get
  if recorder.builder.stack.head?.any (·.id = guard.id) then
    let _ ← popScope
  else if !failed then
    throw (.quoting (recorder.listing guard.scope) fun block => .scope (.notOnTop block))

end Record

end FieldKernel
