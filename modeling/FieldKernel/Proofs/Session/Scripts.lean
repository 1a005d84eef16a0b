import FieldKernel.Proofs.Recording.Operations
import FieldKernel.Proofs.Triples
import FieldKernel.Session.Kernel

/-!
# Scripts of host code

Between the calls that host code makes it does what it likes with the answers,
errors included, which it catches or does not.  A script says so: after every
call it goes on with one script for each outcome.  Blocks have scripts inside
them, and the body of a kernel is one for its arguments.
-/

namespace FieldKernel

/-- What host code does with builders, programs and definitions. -/
inductive Script where
  | finish
  | raise (error : Error)
  | record (builder : Nat) (operation : Operation) (next : Except Error HostValue → Script)
  | define (program : Nat) (name : String) (types : List HostValue) (body : List Expr → Script)
      (next : Except Error Nat → Script)
  | activated (program : Nat) (body : Script) (next : Except Error Unit → Script)
  | during (program : Nat) (body : Script) (next : Except Error Unit → Script)
  | teardown (program : Nat) (next : Script)

/-- A session in the course of a script, where a program may be about to end. -/
structure Moment where
  session : Session
  ends? : Option Nat

namespace HostT

/-- Takes note of the moment. -/
def mark {m : Type → Type} [Monad m] (note : Moment → m Unit) (ends? : Option Nat) :
    HostT m Unit :=
  ExceptT.mk fun session => do
    note ⟨session, ends?⟩
    return (.ok (), session)

end HostT

/-- Runs a script and takes note of every moment: before each call, before a
program is ended, and at the end of a block that ends its program. -/
def Script.perform {m : Type → Type} [Monad m] (note : Moment → m Unit) : Script → HostT m Unit
  | finish => HostT.mark note none
  | raise error => do
    HostT.mark note none
    throw error
  | record builder operation next => do
    HostT.mark note none
    let outcome ← HostT.observe (HostT.lift (Action.record builder operation.perform))
    (next outcome).perform note
  | define program name types body next => do
    HostT.mark note none
    let outcome ← HostT.observe
      (HostT.define program name types fun arguments => (body arguments).perform note)
    (next outcome).perform note
  | activated program body next => do
    HostT.mark note none
    let outcome ← HostT.observe (HostT.activated program (body.perform note))
    (next outcome).perform note
  | during program body next => do
    HostT.mark note none
    let outcome ← HostT.observe (HostT.during program do
      let outcome ← HostT.observe (body.perform note)
      HostT.mark note (some program)
      HostT.lift (Action.ofExcept outcome))
    (next outcome).perform note
  | teardown program next => do
    HostT.mark note (some program)
    HostT.lift (Action.teardown program)
    next.perform note

namespace HostT

variable {τ α β : Type}

/-- What something in the course of a state of its own comes to. -/
def outcome (attempt : HostT (StateM τ) α) (start : Session × τ) : Except Error α × Session × τ :=
  let ran := (attempt.run.run start.1).run start.2
  (ran.1.1, ran.1.2, ran.2)

section Outcomes

variable (start : Session × τ)

@[simp] theorem outcome_pure (result : α) :
    outcome (pure result : HostT (StateM τ) α) start = (.ok result, start) :=
  rfl

@[simp] theorem outcome_throw (error : Error) :
    outcome (throw error : HostT (StateM τ) α) start = (.error error, start) :=
  rfl

theorem outcome_bind (attempt : HostT (StateM τ) α) (next : α → HostT (StateM τ) β) :
    outcome (attempt >>= next) start =
      match outcome attempt start with
      | (.ok result, middle) => outcome (next result) middle
      | (.error error, middle) => (.error error, middle) := by
  unfold outcome
  simp only [ExceptT.run_bind, StateT.run_bind]
  change _ = match (((attempt.run.run start.1).run start.2).1.1,
    ((attempt.run.run start.1).run start.2).1.2, ((attempt.run.run start.1).run start.2).2) with
    | (.ok result, middle) => _
    | (.error error, middle) => _
  rcases (attempt.run.run start.1).run start.2 with ⟨⟨error | result, middle⟩, own⟩ <;> rfl

@[simp] theorem outcome_lift (action : Action α) :
    outcome (lift action) start =
      ((action.run.run start.1).1, (action.run.run start.1).2, start.2) :=
  rfl

@[simp] theorem outcome_observe (inside : HostT (StateM τ) α) :
    outcome (observe inside) start = (.ok (outcome inside start).1, (outcome inside start).2) :=
  rfl

@[simp] theorem outcome_get :
    outcome (get : HostT (StateM τ) Session) start = (.ok start.1, start) :=
  rfl

@[simp] theorem outcome_mark (note : Moment → StateM τ Unit) (ends? : Option Nat) :
    outcome (mark note ends?) start =
      (.ok (), start.1, ((note ⟨start.1, ends?⟩).run start.2).2) :=
  rfl

end Outcomes

/-- Something leads from where it starts to where a relation says, also if it
fails. -/
def Follows (relation : Session × τ → Session × τ → Prop) (attempt : HostT (StateM τ) α) : Prop :=
  ∀ start, relation start (outcome attempt start).2

namespace Follows

variable {relation : Session × τ → Session × τ → Prop} [IsPreorder (Session × τ) relation]

theorem pure (result : α) : Follows relation (pure result : HostT (StateM τ) α) :=
  fun start => refl_of relation start

theorem throw (error : Error) : Follows relation (throw error : HostT (StateM τ) α) :=
  fun start => refl_of relation start

theorem bind {attempt : HostT (StateM τ) α} {next : α → HostT (StateM τ) β}
    (first : Follows relation attempt) (second : ∀ result, Follows relation (next result)) :
    Follows relation (attempt >>= next) := by
  intro start
  have leads := first start
  rw [outcome_bind]
  revert leads
  rcases outcome attempt start with ⟨error | result, middle⟩
  · exact id
  · exact fun leads => trans_of relation leads (second result middle)

omit [IsPreorder (Session × τ) relation] in
theorem observe {inside : HostT (StateM τ) α} (follows : Follows relation inside) :
    Follows relation (observe inside) :=
  follows

end Follows

end HostT

namespace Session

variable (session : Session)

/-- A program has become the current one. -/
def entering (program : Nat) : Session :=
  { session with entered := program :: session.entered }

/-- A program is the current one once less. -/
def leaving (program : Nat) : Session :=
  { session with entered := session.entered.erase program }

/-- A kernel is about to be defined. -/
def preparing (program : Nat) (name : String) (argTypes : List DataType) : Session :=
  { session with
    recording := (session.recording.addBlock none ("kernel " ++ name)).2
    programs := session.programs.modify program fun entry =>
      { entry with nextKernel := entry.nextKernel + 1 }
    kernels := session.kernels.push ⟨program, name, argTypes, (session.program program).nextKernel,
      session.recording.blocks.size, .defining, 0, none, []⟩ }

/-- Something was recorded with a builder. -/
def having (builder : Nat) (recorder : Recorder) : Session :=
  { session.after recorder with
    builders := session.builders.modify builder fun _ => recorder.builder }

/-- What matters of a program is as it was. -/
theorem program_preparing (program : Nat) (name : String) (argTypes : List DataType)
    (other : Nat) : ∃ number, (session.preparing program name argTypes).program other =
      { session.program other with nextKernel := number } := by
  refine ⟨((session.preparing program name argTypes).program other).nextKernel, ?_⟩
  simp only [preparing, Session.program, Array.getElem?_modify]
  split
  · cases session.programs[other]? <;> rfl
  · rfl

@[simp] theorem program_entering (program other : Nat) :
    (session.entering program).program other = session.program other :=
  rfl

@[simp] theorem program_leaving (program other : Nat) :
    (session.leaving program).program other = session.program other :=
  rfl

end Session

namespace HostT

variable {τ α : Type} {session : Session} {own : τ} {program : Nat}

theorem run_checkAlive (program : Nat) :
    (Action.checkAlive program).run.run session =
      (if (session.program program).alive then .ok () else .error (.program .tornDown), session) := by
  change (if (session.program program).alive then pure PUnit.unit
    else throw (.program .tornDown) : Action Unit).run.run session = _
  split <;> rfl

theorem run_enter (program : Nat) :
    (Action.enter program).run.run session =
      if (session.program program).alive then (.ok (), session.entering program)
      else (.error (.program .tornDown), session) := by
  rw [Action.enter, run_run_bind, run_checkAlive]
  by_cases alive : (session.program program).alive
  · simp only [alive, if_true]
    rfl
  · simp only [alive]
    rfl

theorem run_record (builder : Nat) (attempt : Record α) :
    (Action.record builder attempt).run.run session =
      ((attempt.run.run (session.recorder (session.builder builder))).1,
        session.having builder
          (attempt.run.run (session.recorder (session.builder builder))).2) :=
  rfl

theorem run_nextKernel (name : String) (argTypes : List DataType) :
    (Action.nextKernel program name argTypes).run.run session =
      (.ok session.kernels.size, session.preparing program name argTypes) :=
  rfl

/-- What an activation replaces is no exit, and does not become one. -/
@[simp] theorem isExit_passed (error : Error) : (passed error).isExit = error.isExit := by
  cases error <;> rfl

/-- A program that has ended is not entered. -/
theorem outcome_activated_of_dead (inside : HostT (StateM τ) α)
    (dead : (session.program program).alive = false) :
    outcome (activated program inside) (session, own) =
      (.error (.program .tornDown), session, own) := by
  rw [activated, outcome_bind, outcome_lift, run_enter, dead]
  rfl

/-- An activation ends with its program being current once less. -/
theorem outcome_activated (inside : HostT (StateM τ) α) (alive : (session.program program).alive) :
    outcome (activated program inside) (session, own) =
      match outcome inside (session.entering program, own) with
      | (ended, after, own) => (ended.mapError passed, after.leaving program, own) := by
  rw [activated, outcome_bind, outcome_lift, run_enter, if_pos alive]
  dsimp only
  rw [outcome_bind, outcome_observe]
  rcases outcome inside (session.entering program, own) with ⟨error | result, after, own⟩ <;> rfl

theorem run_teardown_of_dead (dead : (session.program program).alive = false) :
    (Action.teardown program).run.run session = (.ok (), session) := by
  change (if (session.program program).alive then _ else pure PUnit.unit :
    Action Unit).run.run session = _
  rw [dead]
  rfl

/-- A program that ends is current once less. -/
theorem run_teardown (alive : (session.program program).alive) :
    ∃ final, (Action.teardown program).run.run session = (.ok (), final) ∧
      final.entered = session.entered.erase program ∧
      final.programs = session.programs.modify program (fun entry =>
        { entry with alive := false, kernels := [], storage? := none }) ∧
      final.builders = session.builders.modify (session.program program).builder
        (fun _ => .empty) ∧
      final.kernels = session.kernels := by
  have run : (Action.teardown program).run.run session =
      (do
        Action.record (session.program program).builder Record.reset
        Action.modifyProgram program fun entry =>
          { entry with alive := false, kernels := [], storage? := none }
        Action.setTree (session.program program).tree
          { (← get).tree (session.program program).tree with program? := none }
        Action.remove program
        Action.report (.detail .program "program torn down") : Action Unit).run.run session := by
    change (if (session.program program).alive then _ else pure PUnit.unit :
      Action Unit).run.run session = _
    rw [if_pos alive]
  rw [run]
  exact ⟨_, rfl, rfl, rfl, rfl, rfl⟩

/-- Ending a program does not fail. -/
theorem teardown_ok (session : Session) (program : Nat) :
    ∃ final, (Action.teardown program).run.run session = (.ok (), final) := by
  by_cases alive : (session.program program).alive
  · obtain ⟨final, run, _⟩ := run_teardown alive
    exact ⟨final, run⟩
  · exact ⟨session, run_teardown_of_dead (by simpa using alive)⟩

theorem outcome_during_of_dead (inside : HostT (StateM τ) Unit)
    (dead : (session.program program).alive = false) :
    outcome (during program inside) (session, own) =
      (.error (.program .tornDown), session, own) := by
  rw [during, outcome_bind, outcome_lift, run_enter, dead]
  rfl

theorem outcome_during (inside : HostT (StateM τ) Unit) (alive : (session.program program).alive) :
    outcome (during program inside) (session, own) =
      match outcome inside (session.entering program, own) with
      | (ended, after, own) => (ended, ((Action.teardown program).run.run after).2, own) := by
  have ended (after : Session) : ((Action.teardown program).run.run after).1 = .ok () := by
    obtain ⟨final, run⟩ := teardown_ok after program
    rw [run]
  rw [during, outcome_bind, outcome_lift, run_enter, if_pos alive]
  dsimp only
  rw [outcome_bind, outcome_observe]
  rcases outcome inside (session.entering program, own) with ⟨error | result, after, own⟩ <;>
    simp only [outcome_bind, outcome_lift, ended] <;> rfl

/-- What a kernel is defined by: its callback, with the scope of the kernel
closed at the end. -/
def recorded (builder : Nat) (argTypes : List DataType)
    (callback : List Expr → HostT (StateM τ) Unit) : HostT (StateM τ) Unit := do
  callback (← lift (Action.build (Build.arguments argTypes)))
  let _ ← lift (Action.record builder Record.exitRoot)

/-- The session after an error has ended the recording of a kernel: the definition
is given up, unless the error is an exit. -/
def abandoned (kernel : Nat) (error : Error) (session : Session) : Session :=
  if error.isExit then session else ((Action.abandon kernel error).run.run session).2

/-- A definition that cannot begin changes nothing more, and one that fails is
given up. -/
theorem outcome_recordBody (kernel : Nat) (callback : List Expr → HostT (StateM τ) Unit)
    {builder : Nat}
    (owns : (session.program (session.kernel kernel).program).builder = builder) :
    outcome (recordBody kernel callback) (session, own) =
      match (Action.record builder
        (Record.enterRoot (.block (session.kernel kernel).body))).run.run session with
      | (.error error, after) => (.error error, after, own)
      | (.ok _, after) =>
        match outcome (recorded builder (session.kernel kernel).argTypes callback) (after, own) with
        | (.ok (), final) => (.ok (), final)
        | (.error error, final, own) => (.error error, abandoned kernel error final, own) := by
  subst owns
  rw [recordBody, outcome_bind, outcome_get]
  dsimp only
  rw [outcome_bind, outcome_lift]
  dsimp only
  rcases (Action.record _ _).run.run session with ⟨error | guard, after⟩
  · rfl
  · dsimp only
    rw [outcome_bind, outcome_observe]
    dsimp only
    simp only [recorded]
    rcases outcome (_ >>= _) (after, own) with ⟨error | result, final, own⟩
    · cases exits : error.isExit with
      | true =>
          simp only [abandoned, exits, if_true]
          rfl
      | false =>
          simp only [Bool.false_eq_true, if_false, abandoned, exits]
          rw [outcome_bind, outcome_lift]
          rfl
    · rfl

theorem run_register (session : Session) (kernel : Nat) :
    ∃ final, (Action.register kernel).run.run session = (.ok (), final) ∧
      final.recording = session.recording ∧ final.builders = session.builders ∧
      final.entered = session.entered ∧
      final.kernels = session.kernels.modify kernel (fun entry => { entry with state := .defined }) ∧
      final.programs = session.programs.modify (session.kernel kernel).program fun program =>
        { program with
          kernels := Action.registered (session.kernel kernel).name kernel program.kernels } :=
  ⟨_, rfl, rfl, rfl, rfl, rfl, rfl⟩

theorem run_abandon (session : Session) (kernel : Nat) (error : Error) :
    ∃ final, (Action.abandon kernel error).run.run session = (.ok (), final) ∧
      final.recording = session.recording ∧
      final.builders = session.builders.modify
        (session.program (session.kernel kernel).program).builder (fun _ => .empty) ∧
      final.entered = session.entered ∧
      final.kernels = session.kernels.modify kernel (fun entry => { entry with state := .failed }) ∧
      final.programs = session.programs :=
  ⟨_, rfl, rfl, rfl, rfl, rfl, rfl⟩

theorem run_arguments (types : List HostValue) :
    (liftM (types.mapM Ask.dataType : Ask (List DataType)) : Action (List DataType)).run.run
      session = (types.mapM Ask.dataType session.toObjects, session) :=
  rfl

/-- A kernel is defined while its program is the current one. -/
theorem outcome_define (name : String) (types : List HostValue)
    (callback : List Expr → HostT (StateM τ) Unit) (alive : (session.program program).alive) :
    outcome (define program name types callback) (session, own) =
      match types.mapM Ask.dataType session.toObjects with
      | .error error => (.error error, session, own)
      | .ok argTypes =>
        match outcome (recordBody session.kernels.size callback)
            ((session.preparing program name argTypes).entering program, own) with
        | (.error error, after, own) => (.error (passed error), after.leaving program, own)
        | (.ok (), after, own) =>
          (.ok session.kernels.size,
            ((Action.register session.kernels.size).run.run (after.leaving program)).2, own) := by
  rw [define, outcome_bind, outcome_lift, run_checkAlive, if_pos alive]
  dsimp only
  rw [outcome_bind, outcome_lift, run_arguments]
  rcases types.mapM Ask.dataType session.toObjects with error | argTypes
  · rfl
  dsimp only
  rw [outcome_bind, outcome_lift, run_nextKernel]
  dsimp only
  have still : ((session.preparing program name argTypes).program program).alive := by
    obtain ⟨number, same⟩ := session.program_preparing program name argTypes program
    rw [same]
    exact alive
  rw [outcome_bind, outcome_activated _ still]
  rcases outcome (recordBody session.kernels.size callback)
    ((session.preparing program name argTypes).entering program, own) with
    ⟨error | result, after, own⟩
  · rfl
  · dsimp only [Except.mapError]
    rw [outcome_bind, outcome_lift]
    obtain ⟨final, run, _⟩ := run_register (after.leaving program) session.kernels.size
    rw [run]
    rfl

theorem outcome_define_of_dead (name : String) (types : List HostValue)
    (callback : List Expr → HostT (StateM τ) Unit)
    (dead : (session.program program).alive = false) :
    outcome (define program name types callback) (session, own) =
      (.error (.program .tornDown), session, own) := by
  rw [define, outcome_bind, outcome_lift, run_checkAlive, dead]
  rfl

end HostT

end FieldKernel
