import FieldKernel.Proofs.Recording.Blocks

/-!
# Builders side by side

Host code has several builders, each with its scopes, and all work on the same
blocks and statements.  Whatever they do in turn, blocks and statements stay
coherent, and a scope that is open for a block is open for one that there is.
-/

namespace FieldKernel

/-- A block or statement that is given is there. -/
def HostValue.Present (recording : Recording) : HostValue → Prop
  | .statement id => id < recording.statements.size
  | .block id => id < recording.blocks.size
  | _ => True

namespace HostValue.Present

variable {recording : Recording} {value : HostValue}

theorem known (present : value.Present recording) : value.Known recording := by
  cases value with
  | statement id => exact present
  | _ => trivial

theorem mono {after : Recording} (blocks : recording.blocks.size ≤ after.blocks.size)
    (statements : recording.statements.size ≤ after.statements.size)
    (present : value.Present recording) : value.Present after := by
  cases value with
  | statement id => exact Nat.lt_of_lt_of_le present statements
  | block id => exact Nat.lt_of_lt_of_le present blocks
  | _ => trivial

end HostValue.Present

namespace Stage

/-- What scopes are open for is there. -/
def Housed (stage : Stage) : Prop :=
  ∀ guard ∈ stage.stack, guard.scope.Present stage.recording

/-- Blocks and statements stay, and what scopes are open for is there as well. -/
structure Houses (one other : Stage) : Prop where
  blocks : one.recording.blocks.size ≤ other.recording.blocks.size
  statements : one.recording.statements.size ≤ other.recording.statements.size
  housed : one.Housed → other.Housed

theorem Houses.refl (stage : Stage) : stage.Houses stage :=
  ⟨Nat.le_refl _, Nat.le_refl _, id⟩

theorem Houses.trans {one middle other : Stage} (first : one.Houses middle)
    (second : middle.Houses other) : one.Houses other :=
  ⟨first.blocks.trans second.blocks, first.statements.trans second.statements,
    second.housed ∘ first.housed⟩

/-- The scopes stay open, and perhaps one is opened for something that is
there. -/
theorem houses_of_stack {recording after : Recording} {stack opened : List Guard}
    {floor level : Nat} (blocks : recording.blocks.size ≤ after.blocks.size)
    (statements : recording.statements.size ≤ after.statements.size)
    (scopes : ∀ guard ∈ opened, guard ∈ stack ∨ guard.scope.Present after) :
    Houses ⟨recording, stack, floor⟩ ⟨after, opened, level⟩ where
  blocks := blocks
  statements := statements
  housed housed guard member := by
    rcases scopes guard member with old | present
    · exact (housed guard old).mono blocks statements
    · exact present

theorem Step.houses {one other : Stage} (step : Step False one other)
    (coherent : one.recording.Coherent) : one.Houses other := by
  cases step with
  | addsBlock label =>
      exact houses_of_stack (by simp) (by simp) fun _ member => .inl member
  | @adds recording _ _ _ added =>
      obtain ⟨kind, adds⟩ := added.adds recording
      exact houses_of_stack adds.extended.blocks_le adds.extended.statements_le
        fun _ member => .inl member
  | retouches statement parents kinds =>
      exact houses_of_stack (Nat.le_refl _) (by simp [Recording.modifyStatement])
        fun _ member => .inl member
  | records scope known free =>
      exact houses_of_stack (by simp) (by simp) fun _ member => .inl member
  | inserts allowed => exact allowed.elim
  | entersBranch scope found shut named opened =>
      refine houses_of_stack (by simp) (by simp) fun guard member => ?_
      rcases List.mem_cons.mp member with rfl | old
      · right
        rw [opened]
        exact Recording.lt_of_owner
          (coherent.owner (StatementKind.mem_inside_of_blockOf? named))
      · exact .inl old
  | entersBody scope found within opened =>
      refine houses_of_stack (Nat.le_refl _) (Nat.le_refl _) fun guard member => ?_
      rcases List.mem_cons.mp member with rfl | old
      · right
        rw [opened]
        exact Recording.lt_of_owner (coherent.owner (within ▸ List.mem_singleton_self _))
      · exact .inl old
  | opens allowed => exact allowed.elim
  | pops above =>
      exact houses_of_stack (by simp) (by simp) fun _ member => .inl (List.mem_cons_of_mem _ member)

/-- Whatever an attempt does by steps, it stays coherent and what is there stays
there. -/
theorem Steps.houses {one other : Stage} (steps : Steps False one other)
    (coherent : one.recording.Coherent) :
    one.Houses other ∧ other.recording.Coherent := by
  induction steps with
  | refl => exact ⟨.refl _, coherent⟩
  | tail _ step hypothesis =>
      exact ⟨hypothesis.1.trans (step.houses hypothesis.2), step.coherent hypothesis.2⟩

end Stage

namespace Operation

/-- What is given to an operation is there. -/
def Given (recording : Recording) (operation : Operation) : Prop :=
  ∀ value ∈ operation.values, value.Present recording

theorem houses {recorder : Recorder} {operation : Operation}
    (given : operation.Given recorder.recording) (coherent : recorder.recording.Coherent) :
    recorder.stage.Houses (operation.perform.run.run recorder).2.stage := by
  cases operation with
  | createScope scope =>
      refine Stage.houses_of_stack (Nat.le_refl _) (Nat.le_refl _) fun guard member => ?_
      rcases List.mem_cons.mp member with rfl | old
      · exact .inr (given scope (List.mem_singleton_self _))
      · exact .inl old
  | reset =>
      refine Stage.houses_of_stack (Nat.le_refl _) (Nat.le_refl _) fun guard member => ?_
      cases member
  | enterRoot scope =>
      by_cases alone : recorder.builder.stack = []
      · obtain ⟨final, run, stage⟩ := Record.enterRoot_run scope alone
        rw [perform, run_run_map, run, stage]
        refine Stage.houses_of_stack (Nat.le_refl _) (Nat.le_refl _) fun guard member => .inr ?_
        rw [List.mem_singleton.mp member]
        exact given scope (List.mem_singleton_self _)
      · have permitted : (enterRoot scope).Permitted False recorder := alone
        exact (Stage.Steps.houses (moves permitted) coherent).1
  | exitRoot =>
      rcases Record.exitRoot_cases recorder with ⟨_, run⟩ | ⟨guard, _, stage⟩
      · rw [perform, run]
        exact .refl _
      · rw [perform, stage]
        refine Stage.houses_of_stack (by simp) (by simp) fun guard member => ?_
        cases member
  | insertInto block statement =>
      rw [perform, run_run_map]
      dsimp only
      rcases Record.insertInto_cases recorder block statement with
        unchanged | ⟨target, member, _, _, _, ends⟩
      · rw [unchanged]
        exact .refl _
      · rw [ends]
        exact Stage.houses_of_stack (by simp) (by simp) fun _ member => .inl member
  | insert statement =>
      have present := given statement (List.mem_singleton_self _)
      have permitted : (insert statement).Permitted False recorder := by
        cases statement with
        | statement id => exact .inr present
        | _ => trivial
      exact (Stage.Steps.houses (moves permitted) coherent).1
  | _ =>
      refine (Stage.Steps.houses (moves ?_) coherent).1
      trivial

end Operation

/-- What an operation does that is given what is there.  Most go the way of a
builder; the others concern the scope of a definition or are done by hand. -/
inductive Stage.Turn (resets : Prop) : Stage → Stage → Prop where
  | goes {one other : Stage} (steps : Stage.Steps False one other) : Turn resets one other
  | opens {recording : Recording} {stack : List Guard} {floor level : Nat} (guard : Guard)
      (present : guard.scope.Present recording) :
      Turn resets ⟨recording, stack, floor⟩ ⟨recording, guard :: stack, level⟩
  | drops {recording : Recording} {stack : List Guard} {floor : Nat} (allowed : resets) :
      Turn resets ⟨recording, stack, floor⟩ ⟨recording, [], 0⟩
  | exits {recording : Recording} {guard : Guard} {floor : Nat} :
      Turn resets ⟨recording, [guard], floor⟩ ⟨recording.closed guard.scope, [], 0⟩
  | places {recording : Recording} {stack : List Guard} {floor block member : Nat}
      (known : block < recording.blocks.size) (made : member < recording.statements.size)
      (free : (recording.statement member).parent? = none) :
      Turn resets ⟨recording, stack, floor⟩ ⟨recording.append block member, stack, floor⟩

theorem Operation.turns {recorder : Recorder} {operation : Operation}
    (given : operation.Given recorder.recording) :
    Stage.Turn (operation = .reset) recorder.stage (operation.perform.run.run recorder).2.stage := by
  cases operation with
  | createScope scope => exact .opens _ (given scope (List.mem_singleton_self _))
  | reset => exact .drops rfl
  | enterRoot scope =>
      by_cases alone : recorder.builder.stack = []
      · obtain ⟨final, run, stage⟩ := Record.enterRoot_run scope alone
        rw [perform, run_run_map, run, stage, Recorder.stage, alone]
        exact .opens _ (given scope (List.mem_singleton_self _))
      · have permitted : (enterRoot scope).Permitted False recorder := alone
        exact .goes (moves permitted)
  | exitRoot =>
      rcases Record.exitRoot_cases recorder with ⟨_, run⟩ | ⟨guard, scopes, stage⟩
      · rw [perform, run]
        exact .goes .refl
      · rw [perform, stage, Recorder.stage, scopes]
        exact .exits
  | insertInto block statement =>
      rw [perform, run_run_map]
      dsimp only
      rcases Record.insertInto_cases recorder block statement with
        unchanged | ⟨target, member, rfl, rfl, free, ends⟩
      · rw [unchanged]
        exact .goes .refl
      · rw [ends]
        exact .places (given (.block target) (by simp [values]))
          (given (.statement member) (by simp [values])) free
  | insert statement =>
      have present := given statement (List.mem_singleton_self _)
      have permitted : (insert statement).Permitted False recorder := by
        cases statement with
        | statement id => exact .inr present
        | _ => trivial
      exact .goes (moves permitted)
  | _ =>
      refine .goes (moves ?_)
      trivial

/-- Builders, and all that they share. -/
structure Workbench where
  builders : Nat → Builder
  /-- What is shared; the builder in it does not matter. -/
  shared : Recorder

namespace Workbench

/-- What an operation on a builder works on. -/
def recorder (bench : Workbench) (builder : Nat) : Recorder :=
  { bench.shared with builder := bench.builders builder }

/-- What an operation on a builder leaves behind, also if it fails. -/
def after (bench : Workbench) (builder : Nat) (operation : Operation) : Workbench :=
  let final := (operation.perform.run.run (bench.recorder builder)).2
  ⟨Function.update bench.builders builder final.builder, final⟩

/-- What host code can come to with any number of builders. -/
inductive Reached : Workbench → Prop where
  | start {bench : Workbench} (unused : ∀ builder, bench.builders builder = .empty)
      (empty : bench.shared.recording = .empty) : Reached bench
  | perform {bench : Workbench} (reached : Reached bench) (builder : Nat) (operation : Operation)
      (given : operation.Given bench.shared.recording) : Reached (bench.after builder operation)
  /-- In between, layouts, kernels, groups and expressions can be made. -/
  | meanwhile {bench next : Workbench} (reached : Reached bench)
      (builders : next.builders = bench.builders)
      (recording : next.shared.recording = bench.shared.recording) : Reached next

theorem Reached.housed {bench : Workbench} (reached : bench.Reached) :
    bench.shared.recording.Coherent ∧ ∀ builder, (bench.recorder builder).stage.Housed := by
  induction reached with
  | start unused empty =>
      constructor
      · rw [empty]
        exact Recording.coherent_empty
      · intro builder guard member
        rw [recorder, Recorder.stage, unused] at member
        cases member
  | @perform bench _ builder operation given hypothesis =>
      obtain ⟨coherent, housed⟩ := hypothesis
      have given : operation.Given (bench.recorder builder).recording := given
      have coherent : (bench.recorder builder).recording.Coherent := coherent
      have houses := Operation.houses given coherent
      constructor
      · exact Operation.coherent (fun value member => (given value member).known) coherent
      · intro other guard member
        by_cases same : other = builder
        · subst same
          have kept := houses.housed (housed other) guard
          simp only [recorder, after, Recorder.stage, Function.update_self] at member
          exact kept member
        · simp only [recorder, after, Recorder.stage, Function.update_of_ne same] at member
          exact (housed other guard member).mono houses.blocks houses.statements
  | meanwhile _ builders recording hypothesis =>
      constructor
      · rw [recording]
        exact hypothesis.1
      · intro builder guard member
        simp only [recorder, Recorder.stage, builders, recording] at member ⊢
        exact hypothesis.2 builder guard member

end Workbench

/-- An operation on a builder, with what it found. -/
structure Occasion where
  bench : Workbench
  builder : Nat
  operation : Operation

/-- What host code can come to with any number of builders, with all operations
on the way, the latest one first. -/
inductive Workbench.Past : Workbench → List Occasion → Prop where
  | start {bench : Workbench} (unused : ∀ builder, bench.builders builder = .empty)
      (empty : bench.shared.recording = .empty) : Past bench []
  | perform {occasions : List Occasion} {bench : Workbench} (past : Past bench occasions)
      (builder : Nat) (operation : Operation) (given : operation.Given bench.shared.recording) :
      Past (bench.after builder operation) (⟨bench, builder, operation⟩ :: occasions)
  | meanwhile {occasions : List Occasion} {bench next : Workbench} (past : Past bench occasions)
      (builders : next.builders = bench.builders)
      (recording : next.shared.recording = bench.shared.recording) : Past next occasions

theorem Workbench.Past.reached {occasions : List Occasion} {bench : Workbench}
    (past : bench.Past occasions) : bench.Reached := by
  induction past with
  | start unused empty => exact .start unused empty
  | perform _ builder operation given hypothesis => exact .perform hypothesis builder operation given
  | meanwhile _ builders recording hypothesis => exact .meanwhile hypothesis builders recording

end FieldKernel
