import FieldKernel.Proofs.Recording.Moves
import FieldKernel.Proofs.Session.Attempts
import FieldKernel.Proofs.Session.Scripts

/-!
# Programs and their builders

Whatever host code does, every program has a builder that no other program has,
and a builder has at least the scopes open that cannot be closed.
-/

namespace FieldKernel

/-- No more scopes are fixed than are open. -/
def Builder.Grounded (builder : Builder) : Prop :=
  builder.floor ≤ builder.stack.length

theorem Stage.Step.grounded {byHand : Prop} {one other : Stage} (step : Stage.Step byHand one other)
    (grounded : one.floor ≤ one.stack.length) : other.floor ≤ other.stack.length := by
  cases step with
  | entersBranch => exact grounded.trans (Nat.le_succ _)
  | entersBody => exact grounded.trans (Nat.le_succ _)
  | opens => exact grounded.trans (Nat.le_succ _)
  | pops above => exact Nat.le_of_lt_succ above
  | _ => exact grounded

namespace Record

variable {α : Type}

/-- An attempt leaves a builder grounded. -/
def Grounds (attempt : Record α) : Prop :=
  ∀ recorder, recorder.builder.Grounded → (attempt.run.run recorder).2.builder.Grounded

theorem Moves.grounded {attempt : Record α} {recorder : Recorder}
    (moves : Moves True attempt recorder) (grounded : recorder.builder.Grounded) :
    (attempt.run.run recorder).2.builder.Grounded := by
  suffices kept : ∀ {one other : Stage}, Stage.Steps True one other →
      one.floor ≤ one.stack.length → other.floor ≤ other.stack.length from kept moves grounded
  intro one other steps grounded
  induction steps with
  | refl => exact grounded
  | tail _ step hypothesis => exact step.grounded hypothesis

/-- What a recorder shows of its scopes says whether its builder is grounded. -/
theorem grounded_of_stage {recorder : Recorder} {recording : Recording} {stack : List Guard}
    {floor : Nat} (stage : recorder.stage = ⟨recording, stack, floor⟩)
    (grounded : floor ≤ stack.length) : recorder.builder.Grounded := by
  have scopes : recorder.builder.stack = stack := congrArg Stage.stack stage
  have lowest : recorder.builder.floor = floor := congrArg Stage.floor stage
  rwa [Builder.Grounded, scopes, lowest]

theorem enterRoot_grounds (scope : HostValue) : (enterRoot scope).Grounds := by
  intro recorder grounded
  by_cases alone : recorder.builder.stack = []
  · obtain ⟨final, run, stage⟩ := enterRoot_run scope alone
    rw [run]
    exact grounded_of_stage stage le_rfl
  · exact Moves.grounded (enterRoot_moves alone) grounded

theorem exitRoot_grounds : exitRoot.Grounds := by
  intro recorder grounded
  rcases exitRoot_cases recorder with ⟨_, run⟩ | ⟨guard, _, stage⟩
  · rwa [run]
  · exact grounded_of_stage stage le_rfl

theorem reset_grounds : reset.Grounds :=
  fun _ _ => le_rfl

end Record

theorem Operation.grounds (operation : Operation) : operation.perform.Grounds := by
  intro recorder grounded
  have changed {α : Type} {attempt : Record α} (grounds : attempt.Grounds)
      (change : α → HostValue) : ((change <$> attempt).run.run recorder).2.builder.Grounded := by
    have kept := grounds recorder grounded
    rw [map_eq_pure_bind, run_run_bind]
    revert kept
    rcases attempt.run.run recorder with ⟨error | result, final⟩ <;> exact id
  cases operation with
  | enterRoot scope => exact changed (Record.enterRoot_grounds scope) _
  | exitRoot => exact Record.exitRoot_grounds recorder grounded
  | reset => exact changed Record.reset_grounds _
  | insert statement =>
      refine Record.Moves.grounded (moves ?_) grounded
      cases statement with
      | statement => exact .inl trivial
      | _ => trivial
  | _ =>
      refine Record.Moves.grounded (moves ?_) grounded
      trivial

namespace Session

/-- Every program has a builder of its own. -/
structure Orderly (session : Session) : Prop where
  made {program : Nat} (known : program < session.programs.size) :
    (session.program program).builder < session.builders.size
  apart {one other : Nat} (known : one < session.programs.size)
    (known' : other < session.programs.size) (different : other ≠ one) :
    (session.program other).builder ≠ (session.program one).builder
  grounded (builder : Nat) : (session.builder builder).Grounded

theorem Orderly.of_same {before after : Session} (orderly : before.Orderly)
    (size : after.programs.size = before.programs.size)
    (owner : ∀ program, (after.program program).builder = (before.program program).builder)
    (builders : after.builders.size = before.builders.size)
    (grounded : ∀ builder, (before.builder builder).Grounded → (after.builder builder).Grounded) :
    after.Orderly where
  made {program} known := by
    rw [owner, builders]
    exact orderly.made (size ▸ known)
  apart {one other} known known' different := by
    rw [owner, owner]
    exact orderly.apart (size ▸ known) (size ▸ known') different
  grounded builder := grounded builder (orderly.grounded builder)

theorem orderly_start : start.Orderly where
  made known := nomatch known
  apart known := nomatch known
  grounded _ := le_rfl

theorem orderly_newProgram {session : Session} (orderly : session.Orderly)
    (config? : Option CompileConfig) :
    ((Action.newProgram config?).run.run session).2.Orderly := by
  obtain ⟨entry, own, programs, builders⟩ : ∃ entry : Program,
      entry.builder = session.builders.size ∧
      ((Action.newProgram config?).run.run session).2.programs = session.programs.push entry ∧
      ((Action.newProgram config?).run.run session).2.builders = session.builders.push .empty :=
    ⟨_, rfl, rfl, rfl⟩
  have size : ((Action.newProgram config?).run.run session).2.programs.size =
      session.programs.size + 1 := by
    rw [programs, Array.size_push]
  have new : (((Action.newProgram config?).run.run session).2.program
      session.programs.size).builder = session.builders.size := by
    rw [Session.program, programs]
    simpa using own
  have old {program : Nat} (known : program < session.programs.size) :
      ((Action.newProgram config?).run.run session).2.program program =
        session.program program := by
    rw [Session.program, programs, Array.getElem?_push, if_neg known.ne, Session.program]
  constructor
  case made =>
      intro program known
      rw [builders, Array.size_push]
      rcases Nat.lt_succ_iff_lt_or_eq.mp (size ▸ known) with known | rfl
      · rw [old known]
        exact (orderly.made known).trans (Nat.lt_succ_self _)
      · rw [new]
        exact Nat.lt_succ_self _
  case apart =>
      intro one other known known' different
      rcases Nat.lt_succ_iff_lt_or_eq.mp (size ▸ known) with known | rfl <;>
        rcases Nat.lt_succ_iff_lt_or_eq.mp (size ▸ known') with known' | rfl
      · rw [old known, old known']
        exact orderly.apart known known' different
      · rw [old known, new]
        exact (orderly.made known).ne'
      · rw [old known', new]
        exact (orderly.made known').ne
      · exact (different rfl).elim
  case grounded =>
      intro builder
      rw [Session.builder, builders, Array.getElem?_push]
      split
      · exact le_rfl
      · exact orderly.grounded builder

end Session

namespace HostT

variable {τ α : Type}

/-- What starts in an orderly session ends in one. -/
def Ordered (start final : Session × τ) : Prop :=
  start.1.Orderly → final.1.Orderly

instance : IsPreorder (Session × τ) Ordered where
  refl _ orderly := orderly
  trans _ _ _ first second orderly := second (first orderly)

/-- What changes no builder, and of programs neither their number nor their
builders, keeps a session orderly. -/
theorem ordered_of_same {start final : Session × τ}
    (size : final.1.programs.size = start.1.programs.size)
    (owner : ∀ program, (final.1.program program).builder = (start.1.program program).builder)
    (builders : final.1.builders = start.1.builders) : Ordered start final :=
  fun orderly => orderly.of_same size owner (by rw [builders]) fun builder grounded => by
    rwa [Session.builder, builders]

theorem record_ordered (builder : Nat) {attempt : Record α} (grounds : attempt.Grounds) :
    Follows Ordered (lift (Action.record builder attempt) : HostT (StateM τ) α) := by
  rintro ⟨session, own⟩ orderly
  refine orderly.of_same rfl (fun _ => rfl) (by simp [run_record, Session.having]) ?_
  intro other grounded
  rw [outcome_lift, run_record, Session.having, Session.builder, Array.getElem?_modify]
  have held := orderly.grounded other
  rw [Session.builder] at held
  split
  · next same =>
    subst same
    cases found : session.builders[builder]? with
    | none => exact le_rfl
    | some entry =>
        have grounded := orderly.grounded builder
        exact grounds (session.recorder (session.builder builder)) grounded
  · exact held

/-- Changing a program in anything but its builder keeps its builder. -/
theorem owner_modified {session after : Session} {program : Nat} {change : Program → Program}
    (programs : after.programs = session.programs.modify program change)
    (keeps : ∀ entry, (change entry).builder = entry.builder) (other : Nat) :
    (after.program other).builder = (session.program other).builder := by
  rw [Session.program, programs, Array.getElem?_modify, Session.program]
  split
  · cases session.programs[other]? with
    | none => rfl
    | some entry => exact keeps entry
  · rfl

/-- A builder without scopes is grounded. -/
theorem grounded_emptied {session after : Session} {builder : Nat}
    (builders : after.builders = session.builders.modify builder fun _ => .empty) (other : Nat)
    (grounded : (session.builder other).Grounded) : (after.builder other).Grounded := by
  rw [Session.builder] at grounded
  rw [Session.builder, builders, Array.getElem?_modify]
  split
  · cases session.builders[other]? <;> exact le_rfl
  · exact grounded

theorem teardown_ordered (program : Nat) :
    Follows Ordered (lift (Action.teardown program) : HostT (StateM τ) Unit) := by
  rintro ⟨session, own⟩ orderly
  rw [outcome_lift]
  by_cases alive : (session.program program).alive
  · obtain ⟨final, run, _, programs, builders, _⟩ := run_teardown alive
    rw [run]
    exact orderly.of_same (by simp [programs]) (owner_modified programs fun _ => rfl)
      (by simp [builders]) (grounded_emptied builders)
  · rw [run_teardown_of_dead (by simpa using alive)]
    exact orderly

theorem abandon_ordered (kernel : Nat) (error : Error) :
    Follows Ordered (lift (Action.abandon kernel error) : HostT (StateM τ) Unit) := by
  rintro ⟨session, own⟩ orderly
  obtain ⟨final, run, _, builders, _, _, programs⟩ :=
    run_abandon session kernel error
  rw [outcome_lift, run]
  exact orderly.of_same (by rw [programs]) (fun other => by rw [Session.program, programs]; rfl)
    (by simp [builders]) (grounded_emptied builders)

theorem register_ordered (kernel : Nat) :
    Follows Ordered (lift (Action.register kernel) : HostT (StateM τ) Unit) := by
  rintro ⟨session, own⟩
  obtain ⟨final, run, _, builders, _, _, programs⟩ := run_register session kernel
  rw [outcome_lift, run]
  exact ordered_of_same (by simp [programs]) (owner_modified programs fun _ => rfl) builders

theorem nextKernel_ordered (program : Nat) (name : String) (argTypes : List DataType) :
    Follows Ordered (lift (Action.nextKernel program name argTypes) : HostT (StateM τ) Nat) := by
  rintro ⟨session, own⟩
  rw [outcome_lift, run_nextKernel]
  refine ordered_of_same (by simp [Session.preparing]) (fun other => ?_) rfl
  obtain ⟨number, same⟩ := session.program_preparing program name argTypes other
  rw [same]

/-- What is no change of programs and builders keeps a session orderly. -/
theorem quiet_ordered {action : Action α}
    (programs : ∀ session, (action.run.run session).2.programs = session.programs)
    (builders : ∀ session, (action.run.run session).2.builders = session.builders) :
    Follows Ordered (lift action : HostT (StateM τ) α) := by
  rintro ⟨session, own⟩
  exact ordered_of_same (by rw [outcome_lift, programs])
    (fun other => by rw [outcome_lift, Session.program, programs, Session.program])
    (by rw [outcome_lift, builders])

theorem enter_ordered (program : Nat) :
    Follows Ordered (lift (Action.enter program) : HostT (StateM τ) Unit) :=
  quiet_ordered (fun session => by rw [run_enter]; split <;> rfl)
    fun session => by rw [run_enter]; split <;> rfl

theorem activated_ordered (program : Nat) {inside : HostT (StateM τ) α}
    (follows : Follows Ordered inside) : Follows Ordered (activated program inside) := by
  refine (enter_ordered program).bind fun _ => follows.observe.bind fun outcome => ?_
  refine .bind (quiet_ordered (fun _ => rfl) fun _ => rfl) fun _ => ?_
  cases outcome with
  | ok result => exact .pure result
  | error error => exact .throw _

theorem during_ordered (program : Nat) {inside : HostT (StateM τ) Unit}
    (follows : Follows Ordered inside) : Follows Ordered (during program inside) := by
  refine (enter_ordered program).bind fun _ => follows.observe.bind fun outcome => ?_
  refine (teardown_ordered program).bind fun _ => ?_
  cases outcome with
  | ok result => exact .pure result
  | error error => exact .throw _

theorem define_ordered (program : Nat) (name : String) (types : List HostValue)
    {callback : List Expr → HostT (StateM τ) Unit}
    (follows : ∀ arguments, Follows Ordered (callback arguments)) :
    Follows Ordered (define program name types callback) := by
  have body (kernel : Nat) : Follows Ordered (recordBody kernel callback) := by
    refine .bind (fun _ orderly => orderly) fun session => ?_
    refine (record_ordered _ (Record.enterRoot_grounds _)).bind fun _ => ?_
    refine .bind (.observe ?_) fun outcome => ?_
    · refine .bind (quiet_ordered (fun _ => rfl) fun _ => rfl) fun arguments => ?_
      exact (follows arguments).bind fun _ =>
        (record_ordered _ Record.exitRoot_grounds).bind fun _ => .pure _
    · cases outcome with
      | ok result => exact .pure result
      | error error =>
          dsimp only
          split
          · exact .throw _
          · exact (abandon_ordered kernel error).bind fun _ => .throw _
  refine .bind (quiet_ordered (fun session => by rw [run_checkAlive])
    fun session => by rw [run_checkAlive]) fun _ => ?_
  refine .bind (quiet_ordered (fun _ => rfl) fun _ => rfl) fun argTypes => ?_
  refine (nextKernel_ordered program name argTypes).bind fun kernel => ?_
  exact (activated_ordered program (body kernel)).bind fun _ =>
    (register_ordered kernel).bind fun _ => .pure kernel

end HostT

theorem Script.ordered {τ : Type} (note : Moment → StateM τ Unit) (script : Script) :
    (script.perform note).Follows HostT.Ordered := by
  have marked (ends? : Option Nat) : (HostT.mark note ends?).Follows HostT.Ordered :=
    fun _ orderly => orderly
  induction script with
  | finish => exact marked none
  | raise error => exact (marked none).bind fun _ => .throw error
  | record builder operation next hypothesis =>
      exact (marked none).bind fun _ => .bind
        (.observe (HostT.record_ordered builder operation.grounds)) hypothesis
  | define program name types body next hypothesis continues =>
      exact (marked none).bind fun _ => .bind
        (.observe (HostT.define_ordered program name types hypothesis)) continues
  | activated program body next hypothesis continues =>
      exact (marked none).bind fun _ => .bind
        (.observe (HostT.activated_ordered program hypothesis)) continues
  | during program body next hypothesis continues =>
      refine (marked none).bind fun _ => .bind (.observe ?_) continues
      refine HostT.during_ordered program (hypothesis.observe.bind fun outcome => ?_)
      exact (marked (some program)).bind fun _ => HostT.quiet_ordered (fun _ => rfl) fun _ => rfl
  | teardown program next hypothesis =>
      exact (marked (some program)).bind fun _ =>
        (HostT.teardown_ordered program).bind fun _ => hypothesis

/-- What host code comes to from the start of a session. -/
inductive Session.Hosted : Session → Prop where
  | start : Hosted .start
  | program {session : Session} (hosted : Hosted session) (config? : Option CompileConfig) :
      Hosted ((Action.newProgram config?).run.run session).2
  | script {session : Session} (hosted : Hosted session) (script : Script) :
      Hosted (HostT.outcome (script.perform fun _ => pure ()) (session, ())).2.1

theorem Session.Hosted.orderly {session : Session} (hosted : session.Hosted) :
    session.Orderly := by
  induction hosted with
  | start => exact orderly_start
  | program _ config? hypothesis => exact orderly_newProgram hypothesis config?
  | script _ script hypothesis => exact script.ordered _ _ hypothesis

end FieldKernel
