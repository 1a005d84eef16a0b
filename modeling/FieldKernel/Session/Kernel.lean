import FieldKernel.Session.Field

/-!
# Kernels

A kernel is defined by a callback that records its body. It is compiled when it is called first and
again whenever its program asks for something else; results and failures are kept for what they were
compiled for. A call runs the compiled kernel on the storage of the program.
-/

namespace FieldKernel

namespace Action

def reportProgram (message : String) : Action Unit :=
  report (.detail .program message)

/-- Adds a kernel that is still to be defined. -/
def addKernel (program : Nat) (name : String) (argTypes : List DataType) (id : Int) :
    Action Nat := do
  let body ← newBlock ("kernel " ++ name)
  modifyGet fun session =>
    (session.kernels.size,
      { session with
        kernels := session.kernels.push ⟨program, name, argTypes, id, body, .defining, 0, none, []⟩ })

/-- Adds a kernel with the next number of its program. -/
def nextKernel (program : Nat) (name : String) (argTypes : List DataType) : Action Nat := do
  let id := ((← get).program program).nextKernel
  modifyProgram program fun entry => { entry with nextKernel := entry.nextKernel + 1 }
  addKernel program name argTypes id

def setState (kernel : Nat) (state : KernelState) : Action Unit :=
  modifyKernel kernel fun entry => { entry with state := state }

/-- Gives up the definition of a kernel. -/
def abandon (kernel : Nat) (error : Error) : Action Unit := do
  let session ← get
  let entry := session.kernel kernel
  record (session.program entry.program).builder Record.reset
  setState kernel .failed
  note .program do
    return "definition of kernel " ++ entry.name ++ " aborted: " ++ (← error.message)

/-- Keeps a kernel by its name, in the place of an earlier one of the same name. -/
def registered (name : String) (kernel : Nat) : List (String × Nat) → List (String × Nat)
  | [] => [(name, kernel)]
  | entry :: rest =>
    if entry.1 = name then (name, kernel) :: rest else entry :: registered name kernel rest

/-- Makes a kernel whose body is recorded a kernel of its program. -/
def register (kernel : Nat) : Action Unit := do
  let session ← get
  let entry := session.kernel kernel
  setState kernel .defined
  modifyProgram entry.program fun program =>
    { program with kernels := registered entry.name kernel program.kernels }
  let count := (session.recording.block entry.body).statements.length
  reportProgram s!"defined kernel {entry.name} (#{entry.id}, {count} top-level stmts)"

def countLookup (program : Nat) (hit : Bool) : Action Unit :=
  modifyProgram program fun entry =>
    if hit then { entry with hits := entry.hits + 1 } else { entry with misses := entry.misses + 1 }

/-- What a name in the place of a target lacks. -/
def unnamed (target : ArchSetting) : Except Error Arch :=
  match target with
  | .member arch => .ok arch
  | .named _ => .error (.host (.missingAttribute "str" "value"))

/-- Lists recorded and lowered code, if the configuration wants it. -/
def listCode (entry : Kernel) (config : CompileConfig) (body : List Stmt) (ir : KernelIR) :
    Action Unit := do
  if ← Ask.truth config.printIR then
    let rendering := (← get).rendering
    let text ← Ask.ofHost (Stmt.blockText rendering body)
    report ⟨.lowering, .info, "frontend IR of kernel " ++ entry.name ++ ":\n" ++ text⟩
    let arch ← ofExcept (unnamed ir.target)
    let text ← Ask.ofHost (ir.textFor rendering arch)
    report ⟨.lowering, .info, "lowered IR:\n" ++ text⟩

/-- Checks that there is a device for a target; only the host's own processor is one. -/
def checkDevice (arch : Arch) : Except Error Unit :=
  match arch with
  | .x86 => .ok ()
  | .gpu => .error (.target .noDevice none none)

/-- Lowers a kernel for its program's configuration. -/
def lowerKernel (kernel : Nat) (arch : Arch) : Action KernelIR := do
  let session ← get
  let entry := session.kernel kernel
  let config := (session.program entry.program).config
  let body := session.recording.body entry.body
  let context : LoweringContext :=
    ⟨arch, entry.argTypes, session.toObjects, session.locations⟩
  let (outcome, slots) :=
    KernelIR.ofBody entry.name config.target context body session.slots
  modify fun session => { session with slots := slots }
  let ir ← ofExcept outcome
  listCode entry config body ir
  ofExcept (checkDevice arch)
  return ir

/-- Keeps the reason why a kernel cannot be compiled, which has to be written for that. -/
def fail (kernel : Nat) (arch : Arch) (cause : Error) : Action Error := do
  let session ← get
  let entry := session.kernel kernel
  let message ← Ask.ofHost cause.message
  let named ← ofExcept (unnamed (session.program entry.program).config.target)
  let failure := Error.kernelFailed entry.name named cause
  modifyKernel kernel fun entry =>
    { entry with failures := (arch, failure) :: entry.failures, state := .failed }
  reportProgram
    ("kernel " ++ entry.name ++ " failed to compile for " ++ named.name ++ ": " ++ message)
  return failure

/-- Keeps a kernel that was lowered. -/
def keep (kernel : Nat) (arch : Arch) (ir : KernelIR) : Action Nat := do
  let session ← get
  let entry := session.kernel kernel
  let compiled ← addCompiled ⟨ir, arch⟩
  modifyKernel kernel fun entry =>
    { entry with
      compiled? := some compiled, compileCount := entry.compileCount + 1, state := .compiled }
  let named ← ofExcept (unnamed (session.program entry.program).config.target)
  reportProgram
    s!"compiled kernel {entry.name} for {named.name} ({ir.nodes.size} nodes)"
  return compiled

/-- Compiles a kernel that has not been compiled for a target, unless that has failed before. -/
def compileFresh (kernel : Nat) (arch : Arch) : Action Nat := do
  let entry := (← get).kernel kernel
  countLookup entry.program false
  match entry.failures.lookup arch with
  | some failure =>
    setState kernel .failed
    throw failure
  | none =>
    match ← HostT.observe (lowerKernel kernel arch) with
    | .ok ir => keep kernel arch ir
    | .error error =>
      if error.isOwn then throw (← fail kernel arch error) else throw error

/-- The target that a configuration means. -/
def fingerprint (config : CompileConfig) : Except Error Arch :=
  match config.fingerprint?, config.target with
  | some arch, _ => .ok arch
  | none, .named name => .error (.host (.value (.member (Text.quoted name) "Arch")))
  | none, .member arch => .ok arch

/-- Compiles a kernel for its program's configuration, or takes it as it was compiled before. The
answer is the number of what it was compiled to. -/
def compile (kernel : Nat) : Action Nat := do
  let session ← get
  let entry := session.kernel kernel
  checkAlive entry.program
  if entry.state = .defining then
    throw (.kernelOpen entry.name)
  let arch ← ofExcept (fingerprint (session.program entry.program).config)
  match entry.compiled? with
  | some compiled =>
    if session.compiled[compiled]?.any (·.fingerprint = arch) then
      countLookup entry.program true
      -- A failure under another target does not spoil what was compiled for this one.
      if entry.state = .failed then
        setState kernel .compiled
      return compiled
    else compileFresh kernel arch
  | none => compileFresh kernel arch

/-- Runs a lowered kernel on a storage and prints its lines. -/
def execute (ir : KernelIR) (storage : Nat) (args : List HostValue) : Action Unit := do
  let session ← get
  let result := ir.run session.toObjects (session.storage storage) args
  setStorage storage result.storage
  result.lines.toList.forM printLine
  ofExcept result.outcome

/-- Runs a lowered kernel on what host code gives as its storage, which only a kernel with fields
looks at. -/
def executeOn (ir : KernelIR) (target : HostValue) (args : List HostValue) : Action Unit := do
  match target with
  | .storage id => execute ir id args
  | target =>
    if ir.leaves.isEmpty ∨ args.length ≠ ir.argTypes.length then
      execute ir (← addStorage .empty) args
    else Ask.lacks target "leaves"

/-- The storage that a kernel runs on. A kernel without fields needs no layout. -/
def storageFor (program : Nat) (ir : KernelIR) : Action Nat := do
  let session ← get
  let tree := session.tree (session.program program).tree
  if ir.leaves.isEmpty && !tree.isSealed then addStorage .empty
  else storageOf program

/-- What a kernel was compiled to. -/
def compiledTo (id : Nat) : Action CompiledKernel := do
  match (← get).compiled[id]? with
  | some compiled => return compiled
  | none => throw (.host (.lookup (toString id)))

def call (kernel : Nat) (args : List HostValue) : Action Unit := do
  let compiled ← compiledTo (← compile kernel)
  let entry := (← get).kernel kernel
  let storage ← storageFor entry.program compiled.ir
  execute compiled.ir storage args
  modifyProgram entry.program fun program =>
    { program with calls := program.calls.count entry.name }
  setState kernel .invoked

end Action

/-- How often compiled kernels were found and not found, and how many kernels are compiled. -/
structure CacheStats where
  hits : Nat
  misses : Nat
  size : Nat

namespace CacheStats

/-- The part of look-ups that found what they looked for. -/
def hitRate (stats : CacheStats) : Float :=
  let total := stats.hits + stats.misses
  if total = 0 then 0.0 else Float.ofNat stats.hits / Float.ofNat total

end CacheStats

namespace Action

/-- The counts of a program's look-ups, which are set to zero if asked for. -/
def cacheStats (program : Nat) (reset : Bool) : Action CacheStats := do
  let session ← get
  let entry := session.program program
  let compiled := entry.kernels.filter fun (_, kernel) =>
    (session.kernel kernel).compiled?.isSome
  if reset then
    modifyProgram program fun entry => { entry with hits := 0, misses := 0 }
  return ⟨entry.hits, entry.misses, compiled.length⟩

/-- Forgets how often kernels were called. -/
def clearProfile (program : Nat) : Action Unit :=
  modifyProgram program fun entry => { entry with calls := [] }

/-- How often each kernel was called, and forgets it if asked for. -/
def profile (program : Nat) (reset : Bool) : Action Tally := do
  let calls := ((← get).program program).calls
  if reset then
    clearProfile program
  return calls

/-- The lines of a profile in the order of the kernels' names. Times are not measured. -/
def profileLines (program : Nat) : Action (List String) := do
  let calls := ((← get).program program).calls
  let sorted := calls.mergeSort fun left right => left.1 ≤ right.1
  return sorted.map fun entry =>
    entry.1 ++ ": " ++ toString entry.2 ++ " call(s), total # ms, mean # ms"

end Action

namespace HostT

/-- Records the body of a kernel in the scope of its program. An error gives the definition up, but
an exit leaves it as it is. -/
def recordBody {m : Type → Type} [Monad m] (kernel : Nat) (callback : List Expr → HostT m Unit) :
    HostT m Unit := do
  let session ← get
  let entry := session.kernel kernel
  let builder := (session.program entry.program).builder
  let _ ← lift (Action.record builder (Record.enterRoot (.block entry.body)))
  let outcome ← observe do
    callback (← lift (Action.build (Build.arguments entry.argTypes)))
    let _ ← lift (Action.record builder Record.exitRoot)
  match outcome with
  | .ok () => return
  | .error error =>
    unless error.isExit do
      lift (Action.abandon kernel error)
    throw error

/-- Defines a kernel by a callback that records its body. -/
def define {m : Type → Type} [Monad m] (program : Nat) (name : String) (argTypes : List HostValue)
    (callback : List Expr → HostT m Unit) : HostT m Nat := do
  lift (Action.checkAlive program)
  let argTypes ← lift (argTypes.mapM Ask.dataType : Ask (List DataType))
  let kernel ← lift (Action.nextKernel program name argTypes)
  activated program (recordBody kernel callback)
  lift (Action.register kernel)
  return kernel

end HostT

end FieldKernel
