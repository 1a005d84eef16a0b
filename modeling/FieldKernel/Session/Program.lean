import FieldKernel.Session.Layout
import FieldKernel.Session.Recording

/-!
# Programs

A program owns a layout, a builder and kernels. Host code enters a program to make it the current
one, and leaves it by ending it; an activation makes it current for a while without ending it. The
programs that were entered form a stack, from which a program that ends is taken wherever it is.
-/

namespace FieldKernel

namespace Action

/-- Starts a program with a configuration, or with the defaults. -/
def newProgram (config? : Option CompileConfig) : Action Nat := do
  let id := (← get).programs.size
  let root ← addTree (some id)
  let builder ← addBuilder
  modifyGet fun session =>
    let config := config?.getD session.defaults
    (id, { session with
      programs := session.programs.push ⟨config, root.tree, builder, [], 0, none, true, [], 0, 0⟩ })

/-- A configuration with what is given, and that of another one for what is not. -/
def configOver (base : CompileConfig) (arch? printIR? : Option HostValue) : Ask CompileConfig := do
  let target ←
    match arch? with
    | some arch => ArchSetting.member <$> Ask.arch arch
    | none => pure base.target
  return ⟨target, printIR?.getD base.printIR⟩

def setDefaults (arch? printIR? : Option HostValue) : Action CompileConfig := do
  let config ← configOver (← get).defaults arch? printIR?
  modify fun session => { session with defaults := config }
  return config

/-- Changes the target that the kernels of a program are compiled for. -/
def setTarget (program : Nat) (target : ArchSetting) : Action Unit :=
  modifyProgram program fun entry => { entry with config := { entry.config with target := target } }

/-- Puts a program on the stack of entered ones. -/
def push (program : Nat) : Action Unit :=
  modify fun session => { session with entered := program :: session.entered }

/-- Takes the innermost occurrence of a program from the stack of entered ones. -/
def remove (program : Nat) : Action Unit :=
  modify fun session => { session with entered := session.entered.erase program }

def enter (program : Nat) : Action Unit := do
  checkAlive program
  push program

/-- Ends a program: its scopes, kernels and storage are dropped, its layout belongs to no program
any more, and it is not current any more. -/
def teardown (program : Nat) : Action Unit := do
  let entry := (← get).program program
  if entry.alive then
    record entry.builder Record.reset
    modifyProgram program fun entry =>
      { entry with alive := false, kernels := [], storage? := none }
    setTree entry.tree { (← get).tree entry.tree with program? := none }
    remove program
    report (.detail .program "program torn down")

def root (program : Nat) : Action NodeRef := do
  checkAlive program
  return ⟨((← get).program program).tree, 0⟩

end Action

namespace HostT

/-- What gets through an activation of an error: one that cannot be marked is replaced. -/
def passed (error : Error) : Error :=
  if error.isFrozen then .host (.frozen "__traceback__") else error

/-- Makes a program the current one for as long as something inside runs. -/
def activated {m : Type → Type} [Monad m] {α : Type} (program : Nat) (inside : HostT m α) :
    HostT m α := do
  lift (Action.enter program)
  let outcome ← observe inside
  lift (Action.remove program)
  match outcome with
  | .ok result => return result
  | .error error => throw (passed error)

/-- Makes a program the current one for as long as something inside runs, and then ends it. -/
def during {m : Type → Type} [Monad m] (program : Nat) (inside : HostT m Unit) : HostT m Unit := do
  lift (Action.enter program)
  let outcome ← observe inside
  lift (Action.teardown program)
  match outcome with
  | .ok () => return
  | .error error => throw error

/-- Does something inside what a value guards: a scope, or a program that ends with it. -/
def guarded {m : Type → Type} [Monad m] (value : HostValue) (inside : HostT m Unit) :
    HostT m Unit :=
  match value with
  | .guard builder id scope => inScope builder ⟨id, scope⟩ inside
  | .program id => during id inside
  | value => lift (Ask.refuse value .noContext : Ask Unit)

/-- Declares the layout of a program. -/
def layout {m : Type → Type} [Monad m] (program : Nat) (callback : HostValue → HostT m Unit) :
    HostT m NodeRef := do
  declareLayout (.node (← lift (Action.root program))) callback

end HostT

end FieldKernel
