import FieldKernel.Proofs.Lowering.Demands
import FieldKernel.Proofs.Lowering.Listings
import FieldKernel.Proofs.Recording.Coherence
import FieldKernel.Proofs.Session.Compiling
import FieldKernel.Proofs.Session.Lifecycle

/-!
# Compiling one kernel after another

Kernels share expressions, and compiling one fills in the types of what it
shares with another.  All else that compiling it changes is nothing to the other
kernel.  So the other comes to the same as without it if the types that it
demands fit those that were filled in, and fails with a conflict of types if
they do not.
-/

namespace FieldKernel

namespace Session

/-- Nothing that compiling a kernel looks at is changed, but for type slots,
which are not emptied, and what values are written like. -/
structure Beside (kernel : Nat) (before after : Session) : Prop where
  recording : after.recording = before.recording
  groups : after.groups = before.groups
  layouts : after.layouts = before.layouts
  locations : after.locations = before.locations
  entry : after.kernel kernel = before.kernel kernel
  alive (program : Nat) : (after.program program).alive = (before.program program).alive
  config (program : Nat) : (after.program program).config = (before.program program).config
  size : before.compiled.size ≤ after.compiled.size
  compiled {id : Nat} (known : id < before.compiled.size) :
    after.compiled[id]? = before.compiled[id]?
  slots : before.slots.Grows after.slots

namespace Beside

variable {kernel : Nat} {before middle after : Session}

theorem refl (kernel : Nat) (session : Session) : session.Beside kernel session :=
  ⟨rfl, rfl, rfl, rfl, rfl, fun _ => rfl, fun _ => rfl, le_rfl, fun _ => rfl, .refl _⟩

theorem trans (first : before.Beside kernel middle) (second : middle.Beside kernel after) :
    before.Beside kernel after where
  recording := second.recording.trans first.recording
  groups := second.groups.trans first.groups
  layouts := second.layouts.trans first.layouts
  locations := second.locations.trans first.locations
  entry := second.entry.trans first.entry
  alive program := (second.alive program).trans (first.alive program)
  config program := (second.config program).trans (first.config program)
  size := first.size.trans second.size
  compiled known := (second.compiled (known.trans_le first.size)).trans (first.compiled known)
  slots := first.slots.trans second.slots

/-- Another kernel has changed. -/
theorem changed {other : Nat} (different : kernel ≠ other) (session : Session)
    (change : Kernel → Kernel) : session.Beside kernel (session.changed other change) where
  __ := refl kernel session
  entry := session.kernel_changed_of_ne different change

theorem counted (session : Session) (program : Nat) (hit : Bool) :
    session.Beside kernel (session.counted program hit) where
  __ := refl kernel session
  alive other := by
    simp only [Session.counted, Session.program, Array.getElem?_modify]
    split
    · cases session.programs[other]? with
      | none => rfl
      | some entry => cases hit <;> rfl
    · rfl
  config other := session.config_counted program hit other

end Beside

theorem grows_lowered (session : Session) (kernel : Nat) (arch : Arch) :
    session.slots.Grows (session.lowered kernel arch session.slots).2 :=
  KernelIR.grows_ofBody (session.kernel kernel).name (session.config kernel).target
    (session.context kernel arch) (session.body kernel) session.slots

end Session

namespace Action

variable {α β : Type} {kernel : Nat}

/-- An action leaves alone what compiling a kernel looks at. -/
def SparesKernel (kernel : Nat) (action : Action α) : Prop :=
  ∀ session : Session, session.Beside kernel (action.run.run session).2

namespace SparesKernel

theorem bind {action : Action α} {next : α → Action β} (first : SparesKernel kernel action)
    (second : ∀ result, SparesKernel kernel (next result)) :
    SparesKernel kernel (action >>= next) := by
  intro session
  have begins := first session
  rw [run_run_bind]
  revert begins
  rcases action.run.run session with ⟨error | result, middle⟩
  · exact id
  · exact fun begins => begins.trans (second result middle)

theorem pure (result : α) : SparesKernel kernel (pure result : Action α) :=
  fun _ => .refl kernel _

theorem throw (error : Error) : SparesKernel kernel (throw error : Action α) :=
  fun _ => .refl kernel _

theorem get {next : Session → Action α} (after : ∀ session, SparesKernel kernel (next session)) :
    SparesKernel kernel (MonadState.get >>= next) :=
  fun session => after session session

theorem ofExcept (outcome : Except Error α) : SparesKernel kernel (ofExcept outcome) :=
  fun _ => .refl kernel _

theorem ask (question : Ask α) : SparesKernel kernel (liftM question : Action α) :=
  fun _ => .refl kernel _

theorem report (record : LogRecord) : SparesKernel kernel (report record) :=
  fun session => { Session.Beside.refl kernel session with }

theorem modifyKernel {other : Nat} (different : kernel ≠ other) (change : Kernel → Kernel) :
    SparesKernel kernel (modifyKernel other change) :=
  fun session => .changed different session change

theorem countLookup (program : Nat) (hit : Bool) : SparesKernel kernel (countLookup program hit) :=
  fun session => .counted session program hit

theorem addCompiled (compiled : CompiledKernel) : SparesKernel kernel (addCompiled compiled) :=
  fun session =>
    { Session.Beside.refl kernel session with
      size := by
        change session.compiled.size ≤ (session.compiled.push compiled).size
        simp
      compiled := fun {id} known => by
        change (session.compiled.push compiled)[id]? = _
        rw [Array.getElem?_push_lt known, Array.getElem?_eq_getElem known] }

theorem checkAlive (program : Nat) : SparesKernel kernel (checkAlive program) := by
  refine get fun session => ?_
  split
  · exact pure _
  · exact throw _

theorem listCode (entry : Kernel) (config : CompileConfig) (body : List Stmt) (ir : KernelIR) :
    SparesKernel kernel (listCode entry config body ir) := by
  refine (ask _).bind fun wanted => ?_
  cases wanted with
  | false => exact pure _
  | true =>
      exact get fun session => (ask _).bind fun text => (report _).bind fun _ =>
        (ofExcept _).bind fun arch => (ask _).bind fun text => report _

theorem finishLowering (session : Session) (other : Nat) (arch : Arch) :
    SparesKernel kernel (finishLowering session other arch) :=
  (ofExcept _).bind fun ir => (listCode _ _ _ ir).bind fun _ => (ofExcept _).bind fun _ => pure ir

/-- Lowering fills in types, and empties no slot. -/
theorem lowerKernel (other : Nat) (arch : Arch) : SparesKernel kernel (lowerKernel other arch) := by
  intro session
  rw [run_lowerKernel]
  have filled : session.Beside kernel { session with slots := (session.lowered other arch session.slots).2 } :=
    { Session.Beside.refl kernel session with slots := session.grows_lowered other arch }
  exact filled.trans (finishLowering session other arch _)

theorem observe {action : Action α} (spares : SparesKernel kernel action) :
    SparesKernel kernel (HostT.observe action) :=
  spares

theorem keep {other : Nat} (different : kernel ≠ other) (arch : Arch) (ir : KernelIR) :
    SparesKernel kernel (keep other arch ir) :=
  get fun _ => (addCompiled _).bind fun _ => (modifyKernel different _).bind fun _ =>
    (ofExcept _).bind fun _ => (report _).bind fun _ => pure _

theorem fail {other : Nat} (different : kernel ≠ other) (arch : Arch) (cause : Error) :
    SparesKernel kernel (fail other arch cause) :=
  get fun _ => (ask _).bind fun _ => (ofExcept _).bind fun _ =>
    (modifyKernel different _).bind fun _ => (report _).bind fun _ => pure _

theorem compileFresh {other : Nat} (different : kernel ≠ other) (arch : Arch) :
    SparesKernel kernel (compileFresh other arch) := by
  refine get fun session => (countLookup _ _).bind fun _ => ?_
  split
  · exact (modifyKernel different _).bind fun _ => throw _
  · refine (observe (lowerKernel other arch)).bind fun outcome => ?_
    cases outcome with
    | ok ir => exact keep different arch ir
    | error error =>
        dsimp only
        split
        · exact (fail different arch error).bind fun _ => throw _
        · exact throw _

theorem compile {other : Nat} (different : kernel ≠ other) :
    SparesKernel kernel (compile other) := by
  refine get fun session => (checkAlive _).bind fun _ => ?_
  dsimp only
  split
  · exact throw _
  · refine (ofExcept _).bind fun arch => ?_
    split
    · split
      · refine (countLookup _ _).bind fun _ => ?_
        split
        · exact (modifyKernel different _).bind fun _ => pure _
        · exact pure _
      · exact compileFresh different arch
    · exact compileFresh different arch

end SparesKernel

end Action

namespace Session

/-- What lowering a kernel for its configuration demands of types. -/
def Demands (session : Session) (kernel : Nat) (demands : List Demand) : Prop :=
  ∀ arch, Action.fingerprint (session.config kernel) = .ok arch →
    ∃ verdict, KernelIR.Demands (session.lowered kernel arch) demands verdict

section Beside

variable {session after : Session} {kernel : Nat}

theorem Beside.ownConfig (beside : session.Beside kernel after) :
    after.config kernel = session.config kernel := by
  rw [Session.config, beside.entry, beside.config, Session.config]

theorem Beside.ownBody (beside : session.Beside kernel after) :
    after.body kernel = session.body kernel := by
  rw [Session.body, beside.entry, beside.recording, Session.body]

theorem Beside.shares (beside : session.Beside kernel after) (arch : Arch) :
    (session.context kernel arch).Shares (after.context kernel arch) :=
  ⟨rfl, congrArg Kernel.argTypes beside.entry, beside.locations, beside.layouts, beside.recording⟩

theorem Beside.truth (beside : session.Beside kernel after) (value : HostValue) :
    Ask.truth value after.toObjects = Ask.truth value session.toObjects := by
  cases value with
  | group id =>
      change Except.ok (!((after.groups[id]?.getD []).map HostValue.expr).isEmpty) = _
      rw [beside.groups]
      rfl
  | block id =>
      change Except.ok (!((after.recording.block id).statements.map HostValue.statement).isEmpty) = _
      rw [beside.recording]
      rfl
  | _ => rfl

/-- The statements of a kernel are written in the same way in both sessions. -/
structure WrittenAlike (before after : Session) (kernel : Nat) : Prop where
  alike : Stmt.BlockAlike before.rendering after.rendering (before.body kernel)

theorem Beside.written (beside : session.Beside kernel after)
    (writes : session.WrittenAlike after kernel) {arch : Arch} {slots : TypeSlots} {ir : KernelIR}
    (lowered : (session.lowered kernel arch slots).1 = .ok ir) :
    after.written kernel ir = session.written kernel ir := by
  have same : Stmt.blockText after.rendering (session.body kernel) =
      Stmt.blockText session.rendering (session.body kernel) := by
    rw [Stmt.blockText, Stmt.blockLines_alike 0 _ writes.alike, ← Stmt.blockText]
  rw [Session.written, beside.ownConfig, beside.truth, beside.ownBody, Session.written, same]
  cases text : Stmt.blockText session.rendering (session.body kernel) with
  | error fault => simp only [Except.mapError, bind, Except.bind]
  | ok text =>
      have ends (arch : Arch) : ending (ir.textFor after.rendering arch) =
          ending (ir.textFor session.rendering arch) := by
        obtain ⟨_, one⟩ := exists_ok (KernelIR.textFor_isOk lowered (isOk_of_eq text) arch)
        obtain ⟨_, other⟩ :=
          exists_ok (KernelIR.textFor_isOk lowered (isOk_of_eq (same.trans text)) arch)
        rw [one, other]
        rfl
      simp only [ends]

/-- What the kernel was compiled to is there still. -/
theorem Beside.compiledFor? (beside : session.Beside kernel after)
    (known : ∀ id, (session.kernel kernel).compiled? = some id → id < session.compiled.size)
    (arch : Arch) : after.compiledFor? kernel arch = session.compiledFor? kernel arch := by
  rw [Session.compiledFor?, beside.entry, Session.compiledFor?]
  cases held : (session.kernel kernel).compiled? with
  | none => rfl
  | some id => rw [Option.bind_some, beside.compiled (known id held), Option.bind_some]

/-- What compiling the kernel comes to depends on what lowering it comes to. -/
theorem Beside.compiling_eq (beside : session.Beside kernel after)
    (known : ∀ id, (session.kernel kernel).compiled? = some id → id < session.compiled.size)
    (lowered : ∀ arch, Action.fingerprint (session.config kernel) = .ok arch →
      after.lowering kernel arch = session.lowering kernel arch) :
    after.compiling kernel = session.compiling kernel := by
  rw [Session.compiling_eq, Session.compiling_eq, beside.entry, beside.alive, beside.ownConfig]
  cases meant : Action.fingerprint (session.config kernel) with
  | error error => rfl
  | ok arch =>
      have same : after.compilingFor kernel arch = session.compilingFor kernel arch := by
        rw [compilingFor, compilingFor, beside.compiledFor? known, compilingFresh, compilingFresh]
        simp only [failing, beside.entry, beside.ownConfig, lowered arch meant]
      simp only [Except.bind, same]

/-- Lowering the kernel demands the same types as before, and comes to the same
if they can be filled in. -/
theorem Beside.exists_demands (beside : session.Beside kernel after)
    (closed : Lower.Below (Stmt.Occurs (session.body kernel)))
    (writes : session.WrittenAlike after kernel) :
    ∃ demands, (∀ demand ∈ demands, Stmt.Occurs (session.body kernel) demand.expr) ∧
      ∀ arch, Action.fingerprint (session.config kernel) = .ok arch → ∃ verdict,
        KernelIR.Demands (session.lowered kernel arch) demands verdict ∧
          KernelIR.Demands (after.lowered kernel arch) demands verdict := by
  cases meant : Action.fingerprint (session.config kernel) with
  | error error => exact ⟨[], by simp, by simp⟩
  | ok arch =>
      obtain ⟨demands, verdict, occurs, asked, askedAfter⟩ :=
        KernelIR.exists_demands (beside.shares arch) closed (session.kernel kernel).name
          (session.config kernel).target (session.body kernel) (fun _ member => .root member)
          writes.alike
      refine ⟨demands, occurs, fun other equal => ?_⟩
      cases equal
      refine ⟨verdict, asked, ?_⟩
      rwa [Session.lowered, beside.entry, beside.ownConfig, beside.ownBody]

/-- After any commands what a kernel was compiled to is there. -/
theorem Accounts.lt_of_compiled {before : Session} {program : Nat} {kernels : List Nat}
    {past : List Attempt} (accounts : session.Accounts before program kernels past)
    (member : kernel ∈ kernels) {id : Nat} (held : (session.kernel kernel).compiled? = some id) :
    id < session.compiled.size := by
  obtain ⟨ir, found, _⟩ := (accounts.kernel member).compiled held
  exact (Array.getElem?_eq_some_iff.mp found).1

end Beside

/-- How a kernel is compiled after another one, by what lowering it demands of
types. -/
structure CompilesAfter (session : Session) (one other : Nat) (demands : List Demand) : Prop where
  demanded : session.Demands other demands
  occurs : ∀ demand ∈ demands, Stmt.Occurs (session.body other) demand.expr
  /-- If what the other kernel has filled in fits, it makes no difference. -/
  same (fits : ∀ demand ∈ demands, demand.Fits session.slots (session.afterCompiling one).slots) :
    (session.afterCompiling one).compiling other = session.compiling other
  /-- If it does not, the kernel cannot be compiled any more, though each of the
  two can be compiled on its own: it fails for the type of an expression, or with
  a fault of the host if the host cannot write that expression. -/
  conflict {arch : Arch} (target : (session.config other).target = .member arch)
    (fresh : session.compiledFor? other arch = none) (first : (session.compiling one).isOk)
    (second : (session.compiling other).isOk)
    (misfit : ∃ demand ∈ demands, ¬ demand.Fits session.slots (session.afterCompiling one).slots) :
    ∃ demand ∈ demands, ¬ demand.Fits session.slots (session.afterCompiling one).slots ∧
      (session.afterCompiling one).compiling other =
        match demand.expr.text with
        | .ok text => .error (.kernelFailed (session.kernel other).name arch (.type (.resolved text
            ((session.afterCompiling one).slots.typeOf demand.expr) demand.type)))
        | .error fault => .error (.host fault)

/-- There are types that lowering a kernel demands of expressions in it, whatever
was compiled before, and what was compiled before makes a difference by them
alone. -/
theorem exists_compilesAfter {session : Session} {one other : Nat} (different : other ≠ one)
    (recorded : Stmt.Recorded (session.body other))
    (known : ∀ id, (session.kernel other).compiled? = some id → id < session.compiled.size)
    (writes : session.WrittenAlike (session.afterCompiling one) other) :
    ∃ demands, session.CompilesAfter one other demands := by
  let after := session.afterCompiling one
  have beside : session.Beside other after := Action.SparesKernel.compile different session
  have occurring := recorded.occurring
  obtain ⟨demands, occurs, asked⟩ := beside.exists_demands occurring.operand writes
  refine ⟨demands, fun arch meant => ?_, occurs, fun fits => ?_, ?_⟩
  · obtain ⟨verdict, now, _⟩ := asked arch meant
    exact ⟨verdict, now⟩
  · refine beside.compiling_eq known fun arch meant => ?_
    obtain ⟨verdict, now, later⟩ := asked arch meant
    have same : (after.lowered other arch after.slots).1 =
        (session.lowered other arch session.slots).1 := by
      rw [later.answer, now.answer, TypeSlots.fill_eq_of_fits occurring occurs fits]
    cases lowered : (session.lowered other arch session.slots).1 with
    | error error =>
        rw [after.lowering_of_error other (same.trans lowered),
          session.lowering_of_error other lowered]
    | ok ir =>
        rw [after.lowering_of_ok other (same.trans lowered), session.lowering_of_ok other lowered,
          beside.written writes lowered]
  · intro arch target fresh _ alone misfit
    obtain ⟨alive, isDefined, first, succeeds⟩ := lowering_of_compiling target fresh alone
    obtain ⟨verdict, now, later⟩ := asked arch (fingerprint_member target)
    have filled : (session.slots.fill demands).1 = .ok () := by
      cases outcome : (session.slots.fill demands).1 with
      | ok => rfl
      | error error =>
          rw [session.lowering_of_error other (by rw [now.answer, outcome, Except.bind])] at succeeds
          cases succeeds
    obtain ⟨demand, member, unfit, conflict⟩ :=
      TypeSlots.fill_conflict occurring occurs (fun expr _ => beside.slots expr) filled misfit
    refine ⟨demand, member, unfit, ?_⟩
    have fails : after.lowering other arch =
        .error (after.slots.conflict demand.expr demand.type) :=
      after.lowering_of_error other (by rw [later.answer, conflict, Except.bind])
    rw [← beside.ownConfig] at target
    rw [← beside.compiledFor? known] at fresh
    rw [← beside.entry] at isDefined first alive ⊢
    rw [← beside.alive] at alive
    rw [compiling_of_lowering alive isDefined target fresh first fails, TypeSlots.conflict]
    cases demand.expr.text with
    | error fault => rfl
    | ok text => rfl

end Session

namespace Sharing

def counter : Variable :=
  ⟨0, ⟨0, some "x"⟩⟩

/-- A kernel declares a variable, and another one counts with it. -/
def kernels (value : HostValue) : Action Nat := do
  let program ← Action.newProgram none
  let _ ← HostT.define program "a" [] fun _ => do
    let _ ← Action.record 0 (Record.var value (some "x"))
  HostT.define program "b" [] fun _ => do
    let _ ← Action.record 0
      (Record.beginRange (.expr (.identifier counter)) (.int 0 0) (.int 0 3))

def session (value : HostValue) : Session :=
  ((kernels value).run.run .start).2

def body : List Stmt :=
  [.loop none [counter] (.range (.literal 2 (.int 0) .i32) (.literal 3 (.int 3) .i32)) .empty []]

theorem body_session : (session (.int 0 1)).body 1 = body := by
  cbv

theorem recorded : Stmt.Recorded body := by
  have start : Recorder.Reached ⟨⟨.empty, #[], #[], #[], #[]⟩, ⟨0, 0⟩, .empty, 0, #[]⟩ [] :=
    .start rfl rfl rfl
  have first := start.step (.newBlock "kernel a") (.block 0) (by simp [Operation.values]) rfl
  have scope := first.step (.enterRoot (.block 0)) (.guard 0 0 (.block 0))
    (by simp [Operation.values, HostValue.exprs]) rfl
  have declared := scope.step (.var (.int 0 1) (some "x")) (.expr (.identifier counter))
    (by simp [Operation.values, HostValue.exprs]) rfl
  have ended := declared.step .exitRoot (.block 0) (by simp [Operation.values]) rfl
  have second := ended.step (.newBlock "kernel b") (.block 1) (by simp [Operation.values]) rfl
  have inner := second.step (.enterRoot (.block 1)) (.guard 0 1 (.block 1))
    (by simp [Operation.values, HostValue.exprs]) rfl
  have loop := inner.step (.beginRange (.expr (.identifier counter)) (.int 0 0) (.int 0 3))
    (.statement 2) (by simp [Operation.values, HostValue.exprs]) rfl
  exact ⟨_, _, 1, loop, rfl⟩

theorem objectless : Stmt.BlockObjectless body := by
  simp [body, Stmt.BlockObjectless, Stmt.Objectless, Schedule.Objectless, Schedule.entries,
    Schedule.get?, Schedule.empty]

/-- The first kernel gives the variable the type that the second counts in. -/
def shared : Session :=
  session (.int 0 1)

theorem recorded_shared : Stmt.Recorded (shared.body 1) := by
  have same : shared.body 1 = body := body_session
  rw [same]
  exact recorded

theorem defines_shared : shared.Defines 0 [0, 1] := by
  constructor
  · decide +kernel
  · exact ⟨.x86, by decide +kernel⟩
  · intro kernel member
    rcases List.mem_cons.mp member with rfl | member
    · refine ⟨?_, ?_, ?_, ?_, List.isEmpty_iff.mp ?_⟩ <;> decide +kernel
    · obtain rfl := List.mem_singleton.mp member
      refine ⟨?_, ?_, ?_, ?_, List.isEmpty_iff.mp ?_⟩ <;> decide +kernel

theorem known_shared (id : Nat) (held : (shared.kernel 1).compiled? = some id) :
    id < shared.compiled.size :=
  defines_shared.accounts.lt_of_compiled (List.mem_cons_of_mem 0 List.mem_cons_self) held

theorem writes_shared : shared.WrittenAlike (shared.afterCompiling 0) 1 := by
  have same : shared.body 1 = body := body_session
  constructor
  rw [same]
  exact objectless.alike _ _

theorem compilesAfter_shared :
    1 ≠ 0 ∧ Stmt.Recorded (shared.body 1) ∧
      (∀ id, (shared.kernel 1).compiled? = some id → id < shared.compiled.size) ∧
      shared.WrittenAlike (shared.afterCompiling 0) 1 ∧
      ∃ demands, shared.CompilesAfter 0 1 demands :=
  ⟨Nat.one_ne_zero, recorded_shared, known_shared, writes_shared,
    Session.exists_compilesAfter Nat.one_ne_zero recorded_shared known_shared writes_shared⟩

/-- Whether the second kernel fails because the variable has another type. -/
def conflicts : Except Error CompiledKernel → Bool
  | .error (.kernelFailed name .x86 (.type (.resolved text .f32 .i32))) => name = "b" && text = "x"
  | _ => false

def apart : Session :=
  session (.float 0 1.5)

/-- A kernel prints a value with another one for a label, for a target that has no
printing. -/
def labels : Action Nat := do
  let program ← Action.newProgram (some ⟨.member .gpu, .bool 0 false⟩)
  let first ← HostT.define program "a" [] fun _ => pure ()
  HostT.define program "b" [] fun _ => do
    let _ ← Action.record 0 (Record.print (.int 0 1) (.kernel first))

def labelled : Session :=
  (labels.run.run .start).2

/-- The code that the error of a kernel quotes. -/
def quoted? : Except Error CompiledKernel → Option String
  | .error (.kernelFailed _ _ (.target _ _ text?)) => text?
  | _ => none

/-- Two kernels can be compiled on their own.  The first gives a variable another
type than the second counts in, so that the second fails after it.  Also, an error
quotes a kernel that is printed as a label in the state that it has come to. -/
theorem compiling_depends :
    ((apart.compiling 0).isOk ∧ (apart.compiling 1).isOk ∧
      conflicts ((apart.afterCompiling 0).compiling 1) ∧
      (apart.afterCompiling 0).compiling 1 ≠ apart.compiling 1) ∧
    quoted? (labelled.compiling 1) = some "print Kernel('a', state=defined) 1" ∧
      quoted? ((labelled.afterCompiling 0).compiling 1) =
        some "print Kernel('a', state=failed) 1" := by
  have second : (apart.compiling 1).isOk := by decide +kernel
  have fails : conflicts ((apart.afterCompiling 0).compiling 1) := by decide +kernel
  refine ⟨⟨by decide +kernel, second, fails, fun same => ?_⟩, by decide +kernel, by decide +kernel⟩
  rw [same] at fails
  cases outcome : apart.compiling 1 with
  | ok compiled =>
      rw [outcome] at fails
      cases fails
  | error error =>
      rw [outcome] at second
      cases second

end Sharing

end FieldKernel
