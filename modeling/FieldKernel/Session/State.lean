import FieldKernel.Execution.Run
import FieldKernel.IR.Lowering
import FieldKernel.Recording.Making

/-!
# Sessions

A session is everything that host code can hold on to: programs with their kernels, layouts,
builders, recorded code and storages, each under a number. Host code acts on it through actions,
which may fail; what an action has changed before it failed stays changed.
-/

namespace FieldKernel

/-- Counts by name, in the order in which the names came up. -/
abbrev Tally := List (String × Nat)

namespace Tally

/-- Counts one more for a name. -/
def count (name : String) : Tally → Tally
  | [] => [(name, 1)]
  | entry :: rest =>
    if entry.1 = name then (name, entry.2 + 1) :: rest else entry :: count name rest

end Tally

/-- A recording session with a layout, a builder and its kernels. -/
structure Program where
  config : CompileConfig
  tree : Nat
  builder : Nat
  /-- The kernels by name, in the order in which the names were first defined. -/
  kernels : List (String × Nat)
  nextKernel : Nat
  storage? : Option Nat
  alive : Bool
  /-- How often the kernels were called with success. -/
  calls : Tally
  hits : Nat
  misses : Nat

/-- The state of a session. -/
structure Session extends Objects where
  supply : Supply
  slots : TypeSlots
  /-- The places at which expressions were written, by key. -/
  locations : Std.TreeMap Nat Location
  builders : Array Builder
  nextGuard : Nat
  programs : Array Program
  storages : Array Storage
  /-- The programs that were entered and not left, the innermost first. -/
  entered : List Nat
  /-- The configuration of programs that are given none. -/
  defaults : CompileConfig
  log : Array LogRecord
  /-- The lines that were printed. -/
  output : Array String

namespace Session

/-- The start of a session. -/
def start : Session where
  recording := .empty
  groups := #[]
  layouts := #[]
  kernels := #[]
  compiled := #[]
  supply := ⟨0, 0⟩
  slots := .empty
  locations := ∅
  builders := #[]
  nextGuard := 0
  programs := #[]
  storages := #[]
  entered := []
  defaults := .initial
  log := #[]
  output := #[]

def program (session : Session) (id : Nat) : Program :=
  session.programs[id]?.getD ⟨.initial, 0, 0, [], 0, none, false, [], 0, 0⟩

def builder (session : Session) (id : Nat) : Builder :=
  session.builders[id]?.getD .empty

def storage (session : Session) (id : Nat) : Storage :=
  session.storages[id]?.getD .empty

/-- What recording works on in a session, with a given builder. -/
def recorder (session : Session) (builder : Builder) : Recorder :=
  { session with builder := builder }

/-- The session after something has been recorded. -/
def after (session : Session) (recorder : Recorder) : Session :=
  { session with
    recording := recorder.recording
    supply := recorder.supply
    nextGuard := recorder.nextGuard
    log := recorder.log }

end Session

/-- What host code does in a session, in the course of effects of its own. -/
abbrev HostT (m : Type → Type) := ExceptT Error (StateT Session m)

/-- What host code does in a session, without effects of its own. -/
abbrev Action := HostT Id

namespace HostT

/-- An action in the course of other effects. -/
def lift {m : Type → Type} [Monad m] {α : Type} (action : Action α) : HostT m α :=
  ExceptT.mk fun session => pure (action.run.run session)

/-- The outcome of something, which changes what it changes even if it fails. -/
def observe {m : Type → Type} [Monad m] {α : Type} (inside : HostT m α) :
    HostT m (Except Error α) :=
  ExceptT.mk fun session => do
    let (outcome, session) ← inside.run.run session
    return (.ok outcome, session)

end HostT

instance : MonadLift Ask Action :=
  ⟨fun question => ExceptT.mk fun session => (question session.toObjects, session)⟩

namespace Action

/-- An outcome that changes nothing. -/
def ofExcept {α : Type} (outcome : Except Error α) : Action α :=
  ExceptT.mk (pure outcome)

def report (record : LogRecord) : Action Unit :=
  modify fun session => { session with log := session.log.push record }

/-- Reports a detail, unless its message cannot be written. -/
def note (source : LogSource) (message : Except HostFault String) : Action Unit :=
  modify fun session => { session with log := LogRecord.note source message session.log }

def printLine (line : String) : Action Unit :=
  modify fun session => { session with output := session.output.push line }

def build {α : Type} (attempt : Build α) : Action α :=
  ExceptT.mk fun session =>
    let (outcome, supply) := (attempt.run session.toObjects).run.run session.supply
    (outcome, { session with supply := supply })

/-- Records statements with a builder. -/
def record {α : Type} (builder : Nat) (attempt : Record α) : Action α :=
  ExceptT.mk fun session =>
    let (outcome, recorder) := attempt.run.run (session.recorder (session.builder builder))
    let builders := session.builders.modify builder fun _ => recorder.builder
    (outcome, { session.after recorder with builders := builders })

/-- Does something to the recording that belongs to no builder. -/
def recordFree {α : Type} (attempt : Record α) : Action α :=
  ExceptT.mk fun session =>
    let (outcome, recorder) := attempt.run.run (session.recorder .empty)
    (outcome, session.after recorder)

def modifyProgram (id : Nat) (change : Program → Program) : Action Unit :=
  modify fun session => { session with programs := session.programs.modify id change }

def modifyKernel (id : Nat) (change : Kernel → Kernel) : Action Unit :=
  modify fun session => { session with kernels := session.kernels.modify id change }

def setTree (id : Nat) (tree : Tree) : Action Unit :=
  modify fun session => { session with layouts := session.layouts.modify id fun _ => tree }

def addTree (program? : Option Nat) : Action NodeRef :=
  modifyGet fun session =>
    (⟨session.layouts.size, 0⟩,
      { session with layouts := session.layouts.push (.new program?) })

/-- Adds a builder without scopes. -/
def addBuilder : Action Nat :=
  modifyGet fun session =>
    (session.builders.size, { session with builders := session.builders.push .empty })

def addStorage (storage : Storage) : Action Nat :=
  modifyGet fun session =>
    (session.storages.size, { session with storages := session.storages.push storage })

def setStorage (id : Nat) (storage : Storage) : Action Unit :=
  modify fun session =>
    { session with storages := session.storages.modify id fun _ => storage }

def addGroup (items : List Expr) : Action Nat :=
  modifyGet fun session =>
    (session.groups.size, { session with groups := session.groups.push items })

/-- Adds what a kernel was compiled to. -/
def addCompiled (compiled : CompiledKernel) : Action Nat :=
  modifyGet fun session =>
    (session.compiled.size, { session with compiled := session.compiled.push compiled })

/-- The program that was entered last. -/
def currentProgram : Action Nat := do
  match (← get).entered with
  | program :: _ => return program
  | [] => throw (.program .noneCurrent)

/-- Checks that a program has not ended. -/
def checkAlive (program : Nat) : Action Unit := do
  unless ((← get).program program).alive do
    throw (.program .tornDown)

end Action

end FieldKernel
