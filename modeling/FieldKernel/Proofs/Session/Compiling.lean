import FieldKernel.Proofs.Session.Attempts
import FieldKernel.Proofs.Session.Scripts
import FieldKernel.Proofs.Written

/-!
# What compiling comes to

Compiling a kernel comes to what the kernel is compiled to, or to an error.
Which of them is said here without the session that it leaves behind: an earlier
result or failure decides, else what lowering the recorded statements comes to.
-/

namespace FieldKernel

namespace Session

variable (session : Session) (kernel : Nat)

/-- The recorded statements of a kernel. -/
def body : List Stmt :=
  session.recording.body (session.kernel kernel).body

/-- The configuration of a kernel's program. -/
def config : CompileConfig :=
  (session.program (session.kernel kernel).program).config

/-- What lowering a kernel looks things up in. -/
def context (arch : Arch) : LoweringContext :=
  ⟨arch, (session.kernel kernel).argTypes, session.toObjects, session.locations⟩

/-- What a kernel is lowered to from some slots, and the slots as they are filled
then. -/
def lowered (arch : Arch) : TypeSlots → Except Error KernelIR × TypeSlots :=
  KernelIR.ofBody (session.kernel kernel).name (session.config kernel).target
    (session.context kernel arch) (session.body kernel)

/-- The code of a kernel is to be listed when it is lowered. -/
def Lists : Prop :=
  Ask.truth (session.config kernel).printIR session.toObjects = .ok true

/-- Code that is to be listed has to be written. -/
def written (ir : KernelIR) : Except Error Unit := do
  if ← Ask.truth (session.config kernel).printIR session.toObjects then
    let _ ← (Stmt.blockText session.rendering (session.body kernel)).mapError Error.host
    let arch ← Action.unnamed ir.target
    (ending (ir.textFor session.rendering arch)).mapError Error.host

/-- What lowering a kernel for a target comes to, if there is a device for it. -/
def lowering (arch : Arch) : Except Error KernelIR := do
  let ir ← (session.lowered kernel arch session.slots).1
  session.written kernel ir
  Action.checkDevice arch
  return ir

/-- The failure of a kernel that cannot be lowered, whose message has to be written. -/
def failing (cause : Error) : Except Error Error := do
  let _ ← cause.message.mapError Error.host
  return .kernelFailed (session.kernel kernel).name
    (← Action.unnamed (session.config kernel).target) cause

/-- What a kernel is compiled to for a target already. -/
def compiledFor? (arch : Arch) : Option CompiledKernel :=
  ((session.kernel kernel).compiled?.bind fun id => session.compiled[id]?).filter
    (·.fingerprint = arch)

/-- What compiling a kernel comes to: what it is compiled to, or an error. -/
def compiling : Except Error CompiledKernel :=
  ((Action.compile kernel >>= Action.compiledTo).run.run session).1

/-- A session in which something more was reported. -/
def logged (record : LogRecord) : Session :=
  { session with log := session.log.push record }

/-- The session after an attempt to compile a kernel. -/
def afterCompiling : Session :=
  ((Action.compile kernel).run.run session).2

end Session

namespace Action

variable {session : Session} {kernel : Nat} {arch : Arch}

/-- Listing code ends where its text cannot be written, or after the recorded code where the
target is a name or the lowered code cannot be written. -/
theorem listCode_run (entry : Kernel) (config : CompileConfig) (body : List Stmt) (ir : KernelIR)
    (state : Session) :
    (listCode entry config body ir).run.run state =
      match Ask.truth config.printIR state.toObjects with
      | .error error => (.error error, state)
      | .ok false => (.ok (), state)
      | .ok true =>
        match Stmt.blockText state.rendering body with
        | .error fault => (.error (.host fault), state)
        | .ok text =>
          let listed := state.logged
            ⟨.lowering, .info, "frontend IR of kernel " ++ entry.name ++ ":\n" ++ text⟩
          match unnamed ir.target with
          | .error error => (.error error, listed)
          | .ok arch =>
            match ir.textFor state.rendering arch with
            | .error fault => (.error (.host fault), listed)
            | .ok text =>
              (.ok (), listed.logged ⟨.lowering, .info, "lowered IR:\n" ++ text⟩) := by
  have asked : (liftM (Ask.truth config.printIR) : Action Bool).run.run state =
      (Ask.truth config.printIR state.toObjects, state) := rfl
  rw [listCode, run_run_bind, asked]
  cases Ask.truth config.printIR state.toObjects with
  | error error => rfl
  | ok wanted =>
      cases wanted with
      | false => rfl
      | true =>
          have texted : (liftM (Ask.ofHost (Stmt.blockText state.rendering body)) :
              Action String).run.run state =
              ((Stmt.blockText state.rendering body).mapError Error.host, state) := rfl
          simp only [if_true]
          rw [run_run_get_bind, run_run_bind, texted]
          cases Stmt.blockText state.rendering body with
          | error fault => rfl
          | ok text =>
              change ((report _ >>= fun _ => ofExcept (unnamed ir.target) >>= fun arch =>
                liftM (Ask.ofHost (ir.textFor state.rendering arch)) >>= fun text =>
                  report ⟨.lowering, .info, "lowered IR:\n" ++ text⟩ : Action Unit).run.run state) = _
              rw [run_run_bind, run_report]
              dsimp only
              rw [run_run_bind, run_ofExcept]
              cases unnamed ir.target with
              | error error => rfl
              | ok arch =>
                  have texted : (liftM (Ask.ofHost (ir.textFor state.rendering arch)) :
                      Action String).run.run (state.logged
                        ⟨.lowering, .info, "frontend IR of kernel " ++ entry.name ++ ":\n" ++ text⟩) =
                      ((ir.textFor state.rendering arch).mapError Error.host, state.logged
                        ⟨.lowering, .info,
                          "frontend IR of kernel " ++ entry.name ++ ":\n" ++ text⟩) := rfl
                  dsimp only
                  rw [run_run_bind, ← Session.logged, texted]
                  cases ir.textFor state.rendering arch with
                  | error fault => rfl
                  | ok text => rfl

theorem run_listCode (entry : Kernel) (config : CompileConfig) (body : List Stmt) (ir : KernelIR)
    (session : Session) :
    ((listCode entry config body ir).run.run session).1 = (do
      if ← Ask.truth config.printIR session.toObjects then
        let _ ← (Stmt.blockText session.rendering body).mapError Error.host
        let arch ← unnamed ir.target
        (ending (ir.textFor session.rendering arch)).mapError Error.host) := by
  rw [listCode_run]
  cases Ask.truth config.printIR session.toObjects with
  | error error => rfl
  | ok wanted =>
      cases wanted with
      | false => rfl
      | true =>
          cases Stmt.blockText session.rendering body with
          | error fault => rfl
          | ok text =>
              cases unnamed ir.target with
              | error error => rfl
              | ok arch =>
                  dsimp only
                  cases written : ir.textFor session.rendering arch with
                  | error fault => simp [written, ending, bind, Except.bind, Except.mapError, Except.map]
                  | ok text => simp [written, ending, bind, Except.bind, Except.mapError, Except.map]

/-- What is left to do for a kernel when its statements are lowered. -/
def finishLowering (session : Session) (kernel : Nat) (arch : Arch) : Action KernelIR := do
  let ir ← ofExcept (session.lowered kernel arch session.slots).1
  listCode (session.kernel kernel) (session.config kernel) (session.body kernel) ir
  ofExcept (checkDevice arch)
  return ir

/-- Slots are filled, whatever comes of lowering. -/
theorem run_lowerKernel (session : Session) (kernel : Nat) (arch : Arch) :
    (lowerKernel kernel arch).run.run session =
      (finishLowering session kernel arch).run.run
        { session with slots := (session.lowered kernel arch session.slots).2 } :=
  rfl

theorem answer_lowerKernel (session : Session) (kernel : Nat) (arch : Arch) :
    ((lowerKernel kernel arch).run.run session).1 = session.lowering kernel arch := by
  rw [run_lowerKernel, finishLowering, run_run_bind, Session.lowering]
  cases (session.lowered kernel arch session.slots).1 with
  | error error => rfl
  | ok ir =>
      have listed := run_listCode (session.kernel kernel) (session.config kernel)
        (session.body kernel) ir { session with slots := (session.lowered kernel arch session.slots).2 }
      change _ = session.written kernel ir at listed
      change ((listCode _ _ _ ir >>= fun _ => _ : Action KernelIR).run.run _).1 =
        (session.written kernel ir >>= fun _ => checkDevice arch >>= fun _ => .ok ir)
      rw [run_run_bind, ← listed]
      rcases (listCode _ _ _ ir).run.run _ with ⟨error | _, after⟩
      · rfl
      · cases checkDevice arch with
        | error error => rfl
        | ok => rfl

theorem run_compiledTo {id : Nat} {compiled : CompiledKernel}
    (found : session.compiled[id]? = some compiled) :
    ((compiledTo id).run.run session).1 = .ok compiled := by
  rw [compiledTo, run_run_get_bind, found]
  rfl

/-- What was lowered is kept, and found again, unless the target is a name. -/
theorem run_keep (session : Session) (kernel : Nat) (arch : Arch) (ir : KernelIR) :
    ((keep kernel arch ir >>= compiledTo).run.run session).1 =
      (unnamed (session.config kernel).target).map fun _ => ⟨ir, arch⟩ := by
  have run : (keep kernel arch ir).run.run session =
      (do
        let named ← ofExcept (unnamed (session.config kernel).target)
        reportProgram
          s!"compiled kernel {(session.kernel kernel).name} for {named.name} ({ir.nodes.size} nodes)"
        return session.compiled.size : Action Nat).run.run
          { session.changed kernel fun entry =>
              { entry with
                compiled? := some session.compiled.size
                compileCount := entry.compileCount + 1
                state := .compiled } with
            compiled := session.compiled.push ⟨ir, arch⟩ } := rfl
  rw [run_run_bind, run]
  cases unnamed (session.config kernel).target with
  | error error => rfl
  | ok named => exact run_compiledTo Array.getElem?_push_size

/-- A failure is kept, unless its message cannot be written or the target is a name. -/
theorem run_fail (session : Session) (kernel : Nat) (arch : Arch) (cause : Error) :
    ((fail kernel arch cause).run.run session).1 = session.failing kernel cause := by
  rw [fail, run_run_get_bind, run_run_bind]
  have written : (liftM (Ask.ofHost cause.message) : Action String).run.run session =
      (cause.message.mapError Error.host, session) := rfl
  rw [written, Session.failing]
  cases cause.message with
  | error fault => rfl
  | ok message =>
      change ((ofExcept (unnamed (session.config kernel).target) >>= _ : Action Error).run.run
        session).1 = _
      rw [run_run_bind]
      cases unnamed (session.config kernel).target with
      | error error => rfl
      | ok named => rfl

end Action

namespace Session

variable (session : Session) (kernel : Nat)

/-- What compiling a kernel comes to that is not compiled for a target already. -/
def compilingFresh (arch : Arch) : Except Error CompiledKernel :=
  match (session.kernel kernel).failures.lookup arch with
  | some failure => .error failure
  | none =>
    match session.lowering kernel arch with
    | .ok ir => (Action.unnamed (session.config kernel).target).map fun _ => ⟨ir, arch⟩
    | .error error =>
      if error.isOwn then do throw (← session.failing kernel error) else .error error

theorem lowering_of_error {arch : Arch} {error : Error}
    (fails : (session.lowered kernel arch session.slots).1 = .error error) :
    session.lowering kernel arch = .error error := by
  rw [lowering, fails]
  rfl

theorem lowering_of_ok {arch : Arch} {ir : KernelIR}
    (lowers : (session.lowered kernel arch session.slots).1 = .ok ir) :
    session.lowering kernel arch =
      (session.written kernel ir).bind fun _ => (Action.checkDevice arch).map fun _ => ir := by
  rw [lowering, lowers]
  rfl

theorem lowering_counted (program : Nat) (hit : Bool) (arch : Arch) :
    (session.counted program hit).lowering kernel arch = session.lowering kernel arch := by
  have same : (session.counted program hit).config kernel = session.config kernel :=
    session.config_counted program hit _
  have lowered : (session.counted program hit).lowered kernel arch =
      session.lowered kernel arch := by
    rw [Session.lowered, same]
    rfl
  have written (ir : KernelIR) :
      (session.counted program hit).written kernel ir = session.written kernel ir := by
    rw [Session.written, same]
    rfl
  have slots : (session.counted program hit).slots = session.slots := rfl
  simp only [lowering, lowered, written, slots]

theorem run_compileFresh (arch : Arch) :
    ((Action.compileFresh kernel arch >>= Action.compiledTo).run.run session).1 =
      session.compilingFresh kernel arch := by
  have run : (Action.compileFresh kernel arch).run.run session =
      (match (session.kernel kernel).failures.lookup arch with
        | some failure => do
          Action.setState kernel .failed
          throw failure
        | none => do
          match ← HostT.observe (Action.lowerKernel kernel arch) with
          | .ok ir => Action.keep kernel arch ir
          | .error error =>
            if error.isOwn then throw (← Action.fail kernel arch error) else throw error :
        Action Nat).run.run (session.counted (session.kernel kernel).program false) := by
    rfl
  rw [run_run_bind, run, ← run_run_bind, compilingFresh]
  cases (session.kernel kernel).failures.lookup arch with
  | some failure => rfl
  | none =>
      have lowers := Action.answer_lowerKernel (session.counted (session.kernel kernel).program false)
        kernel arch
      have notes := Action.lowerKernel_notes kernel arch
        (session.counted (session.kernel kernel).program false) rfl
      have config : (session.counted (session.kernel kernel).program false).config kernel =
          session.config kernel := session.config_counted _ _ _
      rw [lowering_counted] at lowers
      rw [← lowers, bind_assoc, run_run_bind]
      rw [show (HostT.observe (Action.lowerKernel kernel arch)).run.run
          (session.counted (session.kernel kernel).program false) =
        (.ok ((Action.lowerKernel kernel arch).run.run
            (session.counted (session.kernel kernel).program false)).1,
          ((Action.lowerKernel kernel arch).run.run
            (session.counted (session.kernel kernel).program false)).2) from rfl]
      revert notes
      rcases (Action.lowerKernel kernel arch).run.run
        (session.counted (session.kernel kernel).program false) with ⟨error | ir, middle⟩
      · rintro ⟨slots, log, rfl⟩
        dsimp only
        cases error.isOwn with
        | false => rfl
        | true =>
            have fails := Action.run_fail
              { session.counted (session.kernel kernel).program false with
                slots := slots, log := log } kernel arch error
            have failing : Session.failing { session.counted (session.kernel kernel).program false with
                slots := slots, log := log } kernel error = session.failing kernel error := by
              change (do
                let _ ← error.message.mapError Error.host
                return Error.kernelFailed (session.kernel kernel).name
                  (← Action.unnamed ((session.counted (session.kernel kernel).program false).config
                    kernel).target) error) = _
              rw [config]
              rfl
            rw [failing] at fails
            simp only [if_true, bind_assoc]
            rw [run_run_bind, ← fails]
            rcases (Action.fail kernel arch error).run.run _ with ⟨fault | failure, after⟩ <;> rfl
      · rintro ⟨⟨slots, log, rfl⟩, _, _⟩
        rw [← config]
        exact Action.run_keep _ kernel arch ir

/-- What compiling comes to for a target, which an earlier result can decide. -/
def compilingFor (arch : Arch) : Except Error CompiledKernel :=
  match session.compiledFor? kernel arch with
  | some compiled => .ok compiled
  | none => session.compilingFresh kernel arch

theorem run_compileFor (arch : Arch) :
    (((match (session.kernel kernel).compiled? with
      | some compiled =>
        if session.compiled[compiled]?.any (·.fingerprint = arch) then do
          Action.countLookup (session.kernel kernel).program true
          if (session.kernel kernel).state = .failed then
            Action.setState kernel .compiled
          return compiled
        else Action.compileFresh kernel arch
      | none => Action.compileFresh kernel arch : Action Nat) >>=
        Action.compiledTo).run.run session).1 = session.compilingFor kernel arch := by
  rw [compilingFor, compiledFor?]
  cases held : (session.kernel kernel).compiled? with
  | none => exact session.run_compileFresh kernel arch
  | some id =>
      cases found : session.compiled[id]? with
      | none =>
          simp only [Option.any_none, Bool.false_eq_true, if_false, Option.bind_some, found,
            Option.filter_none]
          exact session.run_compileFresh kernel arch
      | some compiled =>
          by_cases fits : compiled.fingerprint = arch
          · simp only [Option.any_some, fits, decide_true, if_true, Option.bind_some, found,
              Option.filter_some]
            by_cases spoiled : (session.kernel kernel).state = .failed
            · simp only [spoiled, if_true]
              exact Action.run_compiledTo found
            · simp only [spoiled, if_false]
              exact Action.run_compiledTo found
          · simp only [Option.any_some, fits, decide_false, Bool.false_eq_true, if_false,
              Option.bind_some, found, Option.filter_some]
            exact session.run_compileFresh kernel arch

/-- Compiling comes to an error of a program that has ended, or of a kernel that
is being defined, or is decided for the target of the configuration. -/
theorem compiling_eq :
    session.compiling kernel =
      if (session.program (session.kernel kernel).program).alive then
        if (session.kernel kernel).state = .defining then
          .error (.kernelOpen (session.kernel kernel).name)
        else (Action.fingerprint (session.config kernel)).bind (session.compilingFor kernel)
      else .error (.program .tornDown) := by
  rw [compiling]
  change ((Action.checkAlive (session.kernel kernel).program >>= _ >>= _ :
    Action CompiledKernel).run.run session).1 = _
  rw [bind_assoc, run_run_bind, HostT.run_checkAlive]
  by_cases alive : (session.program (session.kernel kernel).program).alive
  · simp only [alive, if_true]
    by_cases unfinished : (session.kernel kernel).state = .defining
    · simp only [unfinished, if_true]
      rfl
    · simp only [unfinished, if_false]
      change ((Action.ofExcept (Action.fingerprint (session.config kernel)) >>= _ >>= _ :
        Action CompiledKernel).run.run session).1 = _
      rw [bind_assoc, run_run_bind]
      cases Action.fingerprint (session.config kernel) with
      | error error => rfl
      | ok arch => exact session.run_compileFor kernel arch
  · simp only [alive]
    rfl

section Fresh

variable {session kernel} {arch : Arch}

theorem fingerprint_member (target : (session.config kernel).target = .member arch) :
    Action.fingerprint (session.config kernel) = .ok arch := by
  simp only [Action.fingerprint, CompileConfig.fingerprint?, target, ArchSetting.arch?]

/-- What is compiled for the first time was lowered. -/
theorem lowering_of_compiling (target : (session.config kernel).target = .member arch)
    (fresh : session.compiledFor? kernel arch = none) (succeeds : (session.compiling kernel).isOk) :
    (session.program (session.kernel kernel).program).alive ∧
      (session.kernel kernel).state ≠ .defining ∧
      (session.kernel kernel).failures.lookup arch = none ∧
      (session.lowering kernel arch).isOk := by
  rw [compiling_eq, fingerprint_member target] at succeeds
  split at succeeds
  · next alive =>
    split at succeeds
    · cases succeeds
    · next isDefined =>
      simp only [Except.bind, compilingFor, fresh, compilingFresh, target] at succeeds
      cases earlier : (session.kernel kernel).failures.lookup arch with
      | some failure =>
          rw [earlier] at succeeds
          cases succeeds
      | none =>
          refine ⟨alive, isDefined, rfl, ?_⟩
          rw [earlier] at succeeds
          cases lowered : session.lowering kernel arch with
          | ok ir => rfl
          | error error =>
              simp only [lowered] at succeeds
              split at succeeds
              · cases failing : session.failing kernel error with
                | error fault =>
                    rw [failing] at succeeds
                    cases succeeds
                | ok failure =>
                    rw [failing] at succeeds
                    cases succeeds
              · cases succeeds
  · cases succeeds

/-- An error of its own makes the kernel fail, unless its message cannot be written;
others pass. -/
theorem compiling_of_lowering (alive : (session.program (session.kernel kernel).program).alive)
    (isDefined : (session.kernel kernel).state ≠ .defining)
    (target : (session.config kernel).target = .member arch)
    (fresh : session.compiledFor? kernel arch = none)
    (first : (session.kernel kernel).failures.lookup arch = none) {error : Error}
    (fails : session.lowering kernel arch = .error error) :
    session.compiling kernel =
      if error.isOwn then (error.message.mapError Error.host).bind fun _ =>
        .error (.kernelFailed (session.kernel kernel).name arch error)
      else .error error := by
  rw [compiling_eq, fingerprint_member target, if_pos alive, if_neg isDefined, Except.bind,
    compilingFor, fresh, compilingFresh, first, fails]
  simp only [failing, target]
  cases error.message with
  | error fault => rfl
  | ok message => rfl

end Fresh

end Session

end FieldKernel
