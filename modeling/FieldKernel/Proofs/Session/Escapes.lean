import FieldKernel.Proofs.Session.Definitions

/-!
# Errors on their way out

An error that code fails with leaves one block after the other until somebody
catches it.  A block that ends its program hands on what it gets.  An activation
replaces an error that cannot be marked, and so does a definition, whose body is
recorded in an activation; every other error comes out as it was raised, however
deep the blocks are nested.
-/

namespace FieldKernel

/-- Blocks of host code, one inside the other, with any code before and after each
of them. -/
inductive Nest (τ : Type) where
  | code (attempt : HostT (StateM τ) Unit)
  | between (earlier : HostT (StateM τ) Unit) (nest : Nest τ) (later : HostT (StateM τ) Unit)
  | activated (program : Nat) (body : Nest τ)
  | during (program : Nat) (body : Nest τ)
  | define (program : Nat) (name : String) (types : List HostValue) (body : List Expr → Nest τ)

/-- What the blocks do. -/
def Nest.run {τ : Type} : Nest τ → HostT (StateM τ) Unit
  | code attempt => attempt
  | between earlier nest later => do
    earlier
    nest.run
    later
  | activated program body => HostT.activated program body.run
  | during program body => HostT.during program body.run
  | define program name types body => do
    let _ ← HostT.define program name types fun arguments => (body arguments).run

/-- A definition gets as far as its callback: the scope of the kernel is open, and
the arguments of the callback are made. -/
structure Session.Begins (session : Session) (program : Nat) (name : String)
    (types : List HostValue) (arguments : List Expr) (begun : Session) : Prop where
  alive : (session.program program).alive
  recording : ∃ argTypes guard opened,
    types.mapM Ask.dataType session.toObjects = .ok argTypes ∧
      (Action.record (session.program program).builder
        (Record.enterRoot (.block session.recording.blocks.size))).run.run
          ((session.preparing program name argTypes).entering program) = (.ok guard, opened) ∧
      (Action.build (Build.arguments argTypes)).run.run opened = (.ok arguments, begun)

/-- The innermost code of some blocks is reached and fails with an error, with or
without an activation or a definition around it. -/
inductive Nest.Raises {τ : Type} (error : Error) : Nest τ → Session × τ → Bool → Prop where
  | code {attempt : HostT (StateM τ) Unit} {start : Session × τ} :
      (HostT.outcome attempt start).1 = .error error →
      Raises error (.code attempt) start false
  | between {earlier later : HostT (StateM τ) Unit} {nest : Nest τ} {start middle : Session × τ}
      {marking : Bool} :
      HostT.outcome earlier start = (.ok (), middle) →
      Raises error nest middle marking →
      Raises error (.between earlier nest later) start marking
  | activated {program : Nat} {body : Nest τ} {session : Session} {own : τ} {marking : Bool} :
      (session.program program).alive →
      Raises error body (session.entering program, own) marking →
      Raises error (.activated program body) (session, own) true
  | during {program : Nat} {body : Nest τ} {session : Session} {own : τ} {marking : Bool} :
      (session.program program).alive →
      Raises error body (session.entering program, own) marking →
      Raises error (.during program body) (session, own) marking
  | define {program : Nat} {name : String} {types : List HostValue} {body : List Expr → Nest τ}
      {arguments : List Expr} {session begun : Session} {own : τ} {marking : Bool} :
      session.Begins program name types arguments begun →
      Raises error (body arguments) (begun, own) marking →
      Raises error (.define program name types body) (session, own) true

namespace HostT

variable {τ : Type} {session : Session} {own : τ} {program : Nat} {error : Error}

/-- What an activation has replaced is a fault of the host, which gets through the
next one. -/
@[simp] theorem passed_passed (error : Error) : passed (passed error) = passed error := by
  by_cases frozen : error.isFrozen
  · rw [passed, passed, if_pos frozen]
    rfl
  · rw [passed, passed, if_neg frozen, if_neg frozen]

theorem activated_of_error {body : HostT (StateM τ) Unit}
    (alive : (session.program program).alive)
    (fails : (outcome body (session.entering program, own)).1 = .error error) :
    (outcome (activated program body) (session, own)).1 = .error (passed error) := by
  rw [outcome_activated body alive]
  dsimp only
  rw [fails]
  rfl

theorem during_of_error {body : HostT (StateM τ) Unit}
    (alive : (session.program program).alive)
    (fails : (outcome body (session.entering program, own)).1 = .error error) :
    (outcome (during program body) (session, own)).1 = .error error := by
  rw [outcome_during body alive]
  exact fails

/-- A definition whose callback fails is given up, and then its activation ends. -/
theorem define_of_error {name : String} {types : List HostValue} {arguments : List Expr}
    {begun : Session} {callback : List Expr → HostT (StateM τ) Unit}
    (begins : session.Begins program name types arguments begun)
    (fails : (outcome (callback arguments) (begun, own)).1 = .error error) :
    (outcome (define program name types callback) (session, own)).1 = .error (passed error) := by
  obtain ⟨alive, argTypes, guard, opened, typed, opens, builds⟩ := begins
  have kernel : ((session.preparing program name argTypes).entering program).kernel
      session.kernels.size = ⟨program, name, argTypes, (session.program program).nextKernel,
        session.recording.blocks.size, .defining, 0, none, []⟩ :=
    session.kernel_preparing program name argTypes
  have owns : (((session.preparing program name argTypes).entering program).program
      (((session.preparing program name argTypes).entering program).kernel
        session.kernels.size).program).builder = (session.program program).builder := by
    obtain ⟨number, same⟩ := session.program_preparing program name argTypes program
    rw [kernel, Session.program_entering, same]
  have raised : (outcome (recorded (session.program program).builder argTypes callback)
      (opened, own)).1 = .error error := by
    rw [recorded, outcome_bind, outcome_lift, builds]
    dsimp only
    rw [outcome_bind]
    revert fails
    rcases outcome (callback arguments) (begun, own) with ⟨other | result, final⟩
    · exact id
    · intro ended
      cases ended
  rw [outcome_define name types callback alive, typed]
  dsimp only
  rw [outcome_recordBody session.kernels.size callback owns, kernel]
  dsimp only
  rw [opens]
  dsimp only
  revert raised
  rcases outcome (recorded (session.program program).builder argTypes callback) (opened, own) with
    ⟨other | result, final, own⟩
  · rintro ⟨⟩
    rfl
  · intro ended
    cases ended

end HostT

namespace Nest.Raises

variable {τ : Type} {error : Error} {nest : Nest τ} {start : Session × τ} {marking : Bool}

/-- What comes out of blocks is what an activation makes of the error, if there is
one on the way. -/
theorem observed (raises : nest.Raises error start marking) :
    (HostT.outcome nest.run start).1 = .error (if marking then HostT.passed error else error) := by
  induction raises with
  | code fails => simp [run, fails]
  | @between earlier later nest start middle marking first inner hypothesis =>
      rw [run, HostT.outcome_bind, first]
      dsimp only
      rw [HostT.outcome_bind]
      revert hypothesis
      rcases HostT.outcome nest.run middle with ⟨other | result, final⟩
      · exact id
      · exact nofun
  | @activated program body session own marking alive inner hypothesis =>
      rw [run, HostT.activated_of_error alive hypothesis]
      cases marking <;> simp
  | during alive inner hypothesis =>
      rw [run, HostT.during_of_error alive hypothesis]
  | @define program name types body arguments session begun own marking begins inner hypothesis =>
      have defined : (HostT.outcome (HostT.define program name types fun arguments =>
          (body arguments).run) (session, own)).1 =
            .error (HostT.passed (if marking then HostT.passed error else error)) :=
        HostT.define_of_error begins hypothesis
      rw [run, HostT.outcome_bind]
      revert defined
      rcases HostT.outcome (HostT.define program name types _) (session, own) with
        ⟨other | result, final⟩
      · cases marking <;> simp
      · exact nofun

/-- An error comes out of blocks as it was raised, unless it cannot be marked and
an activation or a definition is on the way: then a fault of the host comes out,
whatever the error was. -/
theorem passes (raises : nest.Raises error start marking) :
    (HostT.outcome nest.run start).1 =
      .error (if marking ∧ error.isFrozen then .host (.frozen "__traceback__") else error) := by
  rw [raises.observed]
  cases marking <;> simp [HostT.passed]

end Nest.Raises

namespace Broken

open HostT

/-- A kernel is defined that assigns to a variable that is declared nowhere. -/
def define : Action Nat := do
  let program ← Action.newProgram none
  let builder := ((← get).program program).builder
  HostT.define program "k" [] fun _ => do
    let _ ← Action.record builder
      (Record.assign (.expr (.identifier ⟨0, ⟨1, some "x"⟩⟩)) (.int 0 1))

/-- The session with the kernel. -/
def session : Session :=
  (define.run.run .start).2

/-- What a call of the kernel fails with. -/
def failure : Error :=
  .kernelFailed "k" .x86 (.lowering (.undeclaredTarget "x") none none)

/-- A call of the kernel. -/
def call : HostT (StateM Unit) Unit :=
  lift (Action.call 0 [])

/-- A call from the callback of another definition, in a block that ends the
program. -/
def nest : Nest Unit :=
  .during 0 (.define 0 "outer" [] fun _ => .between (pure ()) (.code call) (pure ()))

/-- The scope of the other kernel is opened. -/
def opening : Except Error Guard × Session :=
  (Action.record ((session.entering 0).program 0).builder
    (Record.enterRoot (.block (session.entering 0).recording.blocks.size))).run.run
      (((session.entering 0).preparing 0 "outer" []).entering 0)

theorem begins : (session.entering 0).Begins 0 "outer" [] [] opening.2 := by
  have opened (pair : Except Error Guard × Session) (opens : pair.1.isOk) :
      ∃ guard, pair = (.ok guard, pair.2) := by
    rcases pair with ⟨error | guard, opened⟩
    · exact nomatch opens
    · exact ⟨guard, rfl⟩
  have builds (session : Session) :
      (Action.build (Build.arguments [])).run.run session = (.ok [], session) :=
    rfl
  obtain ⟨guard, opens⟩ := opened opening (by decide +kernel)
  exact ⟨by decide +kernel, [], guard, opening.2, rfl, opens, builds opening.2⟩

theorem nest_raises : nest.Raises failure (session, ()) true := by
  have alive : (session.program 0).alive := by
    decide +kernel
  have fails : (outcome call (opening.2, ())).1 = .error failure := by
    decide +kernel
  exact .during alive (.define begins (.between (outcome_pure _ ()) (.code fails)))

/-- What the call fails with does not get through the definition. -/
theorem nest_passes :
    nest.Raises failure (session, ()) true ∧
      (outcome nest.run (session, ())).1 =
        .error (if true ∧ failure.isFrozen then .host (.frozen "__traceback__") else failure) :=
  ⟨nest_raises, nest_raises.passes⟩

/-- A call in an activation fails with one error, and another comes out. -/
theorem activated_hides_failure :
    (session.program 0).alive ∧
      (outcome call (session.entering 0, ())).1 = .error failure ∧
      (outcome (activated 0 call) (session, ())).1 = .error (.host (.frozen "__traceback__")) ∧
      failure ≠ .host (.frozen "__traceback__") := by
  refine ⟨?_, ?_, ?_, ?_⟩ <;> decide +kernel

end Broken

end FieldKernel
