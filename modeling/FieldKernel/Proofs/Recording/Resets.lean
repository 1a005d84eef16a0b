import FieldKernel.Proofs.Recording.Failures
import FieldKernel.Proofs.Recording.Scopes

/-!
# What a reset leaves behind

A reset drops all scopes of a builder at once.  The mark of a branch that is open
is with the conditional, away from the scopes, and a reset does not go there: a
conditional is as good as new after it unless one of its branches was open.  A
branch that is open has its scope, or a reset has dropped the scope before.
-/

namespace FieldKernel

/-- A reset drops the scope of a block. -/
def Occasion.Drops (occasion : Occasion) (block : Nat) : Prop :=
  occasion.operation = .reset ∧
    ∃ guard ∈ (occasion.bench.builders occasion.builder).stack, guard.scope = .block block

namespace Stage

/-- The branch that is open has its scope, or its block is one of those that are
accounted for. -/
structure Guarded (gone : Nat → Prop) (stage : Stage) : Prop where
  scope {statement block : Nat} {branch : Branch}
    (named : (stage.recording.statement statement).kind.blockOf? branch = some block)
    (marked : (stage.recording.statement statement).kind.open? = some branch) :
    (∃ guard ∈ stage.stack, guard.scope = .block block) ∨ gone block

variable {gone : Nat → Prop} {recording after : Recording} {stack opened : List Guard}
variable {floor level : Nat}

/-- No branch is opened, and all scopes stay. -/
theorem Guarded.beside (guarded : Guarded gone ⟨recording, stack, floor⟩)
    (kinds : ∀ id, (after.statement id).kind.Alike (recording.statement id).kind ∨
      (after.statement id).kind.open? = none)
    (scopes : ∀ guard ∈ stack, guard ∈ opened) : Guarded gone ⟨after, opened, level⟩ where
  scope {statement block branch} named marked := by
    rcases kinds statement with alike | shut
    · dsimp only at named marked
      rw [alike.blockOf?] at named
      rw [alike.open?] at marked
      exact (guarded.scope named marked).imp_left fun ⟨guard, member, scope⟩ =>
        ⟨guard, scopes guard member, scope⟩
    · rw [shut] at marked
      cases marked

/-- The mark of a branch goes with its scope. -/
theorem Guarded.closed {guard : Guard} {rest : List Guard}
    (guarded : Guarded gone ⟨recording, guard :: rest, floor⟩) (coherent : recording.Coherent) :
    Guarded gone ⟨recording.closed guard.scope, rest, level⟩ where
  scope {statement block branch} named marked := by
    dsimp only at named marked
    rw [Recording.blockOf?_closed] at named
    have before : (recording.statement statement).kind.open? = some branch := by
      rcases recording.closed_cases guard.scope with same | ⟨owner, same⟩
      · rwa [same] at marked
      · rw [same, Recording.statement_markOpen] at marked
        split at marked
        · rw [StatementKind.open?_marked named] at marked
          cases marked
        · exact marked
    rcases guarded.scope named before with ⟨other, member, scope⟩ | accounted
    · rcases List.mem_cons.mp member with rfl | kept
      · have inside := StatementKind.mem_inside_of_blockOf? named
        have label := coherent.label named
        have owned := coherent.owner inside
        have closes : recording.closed (.block block) = recording.markOpen statement none := by
          cases kind : (recording.statement statement).kind with
          | branch condition onTrue onFalse mark =>
              rw [kind] at before
              obtain rfl : mark = some branch := before
              simp [Recording.closed, Recording.owningBranch?, owned, kind, label]
          | _ =>
              rw [kind] at before
              cases before
        have known : statement < recording.statements.size := by
          by_contra outside
          rw [Recording.statement_of_le (Nat.le_of_not_lt outside)] at before
          cases before
        rw [scope, closes, Recording.statement_markOpen_self none known,
          StatementKind.open?_marked named] at marked
        cases marked
      · exact .inl ⟨other, kept, scope⟩
    · exact .inr accounted

/-- Whatever host code does in the way of a builder, an open branch keeps its
scope. -/
theorem Step.guarded {one other : Stage} (step : Step False one other)
    (coherent : one.recording.Coherent) (guarded : one.Guarded gone) : other.Guarded gone := by
  cases step with
  | addsBlock label => exact guarded.beside (fun _ => .inl (.refl _)) fun _ => id
  | @adds recording _ _ _ added =>
      obtain ⟨kind, brings⟩ := added.brings recording
      refine guarded.beside (fun id => ?_) fun _ => id
      rcases brings.cases id with same | ⟨_, added⟩
      · exact .inl (same ▸ .refl _)
      · exact .inr (added ▸ brings.shut)
  | retouches statement parents kinds =>
      exact guarded.beside (fun id => .inl (Recording.kind_modifyStatement statement kinds id))
        fun _ => id
  | records =>
      refine guarded.beside (fun id => ?_) fun _ => id
      rw [Recording.kind_append]
      exact .inl (.refl _)
  | inserts allowed => exact allowed.elim
  | @entersBranch recording guard entered rest floor block last inner branch
      scope found shut inside opened =>
      constructor
      intro statement block branch named marked
      dsimp only at named marked
      rw [Recording.blockOf?_markOpen] at named
      rw [Recording.statement_markOpen] at marked
      split at marked
      · next both =>
        rw [StatementKind.open?_marked named] at marked
        obtain rfl := Option.some.inj marked
        rw [both.1, inside] at named
        exact .inl ⟨entered, List.mem_cons_self, opened.trans (congrArg _ (Option.some.inj named))⟩
      · exact (guarded.scope named marked).imp_left fun ⟨guard, member, scope⟩ =>
          ⟨guard, List.mem_cons_of_mem _ member, scope⟩
  | entersBody =>
      exact guarded.beside (fun _ => .inl (.refl _)) fun _ => List.mem_cons_of_mem _
  | opens allowed => exact allowed.elim
  | pops => exact guarded.closed coherent

theorem Steps.guarded {one other : Stage} (steps : Steps False one other)
    (coherent : one.recording.Coherent) (guarded : one.Guarded gone) : other.Guarded gone := by
  suffices kept : other.recording.Coherent ∧ other.Guarded gone from kept.2
  induction steps with
  | refl => exact ⟨coherent, guarded⟩
  | tail _ step hypothesis =>
      exact ⟨step.coherent hypothesis.1, step.guarded hypothesis.1 hypothesis.2⟩

end Stage

/-- Only a reset drops the scope of an open branch without its mark. -/
theorem Stage.Turn.guarded {resets : Prop} {one other : Stage} {gone : Nat → Prop}
    (turn : Turn resets one other) (coherent : one.recording.Coherent)
    (guarded : one.Guarded gone) :
    other.Guarded fun block => gone block ∨
      resets ∧ ∃ guard ∈ one.stack, guard.scope = .block block := by
  have kept {final : Stage} (guarded : final.Guarded gone) : final.Guarded fun block =>
      gone block ∨ resets ∧ ∃ guard ∈ one.stack, guard.scope = .block block :=
    ⟨fun named left => (guarded.scope named left).imp_right .inl⟩
  cases turn with
  | goes steps => exact kept (steps.guarded coherent guarded)
  | opens guard present =>
      exact kept (guarded.beside (fun _ => .inl (.refl _)) fun _ => List.mem_cons_of_mem _)
  | drops allowed =>
      constructor
      intro statement block branch named left
      right
      exact (guarded.scope named left).symm.imp_right fun held => ⟨allowed, held⟩
  | exits => exact kept (guarded.closed coherent)
  | places =>
      refine kept (guarded.beside (fun id => ?_) fun _ => id)
      rw [Recording.kind_append]
      exact .inl (.refl _)

namespace Recorder

/-- A definition can begin in a block and go on with a branch of the conditional
that is recorded last there. -/
def LetsInto (recorder : Recorder) (block : Nat) (branch : Branch) : Prop :=
  ∃ root entered guard final,
    (Record.enterRoot (.block block)).run.run recorder = (.ok root, entered) ∧
      (Record.enterBranch branch).run.run entered = (.ok guard, final)

/-- A definition can begin in a block, but it is refused a branch there. -/
def Refuses (recorder : Recorder) (block : Nat) (branch : Branch) (error : Error) : Prop :=
  ∃ root entered,
    (Record.enterRoot (.block block)).run.run recorder = (.ok root, entered) ∧
      (Record.enterBranch branch).run.run entered = (.error error, entered)

/-- A definition has begun in a block outside of anything, after something was
recorded before, and host code has gone the way of the builder since. -/
structure Defining (before recorder : Recorder) : Prop where
  worked : before.Worked
  within : ∃ root guard entered, root < before.recording.blocks.size ∧
    (before.recording.block root).owner? = none ∧
      (Record.enterRoot (.block root)).run.run before = (.ok guard, entered) ∧
        entered.Within recorder

/-- The scope of a definition is opened without a change of what is recorded. -/
theorem enterRoot_objects (recorder : Recorder) (scope : HostValue) :
    ((Record.enterRoot scope).run.run recorder).2.toObjects = recorder.toObjects := by
  by_cases alone : recorder.builder.stack = []
  · rw [Record.enterRoot, Record.run_get_bind, if_pos (by simp [alone])]
    rfl
  · rw [Record.enterRoot_refused alone]

/-- A branch of a conditional can be entered while none is open. -/
theorem enterBranch_run {recorder : Recorder} {block last onTrue onFalse : Nat}
    {condition : HostValue} {mark : Option Branch} (ready : Record.Ready recorder block)
    (found : recorder.recording.last? block = some last)
    (kind : (recorder.recording.statement last).kind = .branch condition onTrue onFalse mark)
    (branch : Branch) :
    (mark = none ∧ ∃ guard final,
        (Record.enterBranch branch).run.run recorder = (.ok guard, final)) ∨
      ∃ opened error, mark = some opened ∧
        (Record.enterBranch branch).run.run recorder = (.error error, recorder) ∧
          ∀ text, Stmt.branchText recorder.rendering condition = .ok text →
            error = .scope (.branchOpen opened.label text) := by
  rw [Record.enterBranch, run_run_bind, Record.last?_run ready, found]
  dsimp only
  rw [Record.run_get_bind, Option.map_some, kind]
  cases mark with
  | none => exact .inl ⟨rfl, _, _, rfl⟩
  | some opened =>
      right
      have asked : (liftM (Record.conditionText condition) : Record String).run.run recorder =
          ((Stmt.branchText recorder.rendering condition).mapError .host, recorder) := rfl
      dsimp only
      rw [run_run_bind, asked]
      cases Stmt.branchText recorder.rendering condition with
      | error fault => exact ⟨opened, _, rfl, rfl, nofun⟩
      | ok text =>
          refine ⟨opened, _, rfl, rfl, fun other same => ?_⟩
          rw [Except.ok.inj same]

/-- With no scope open, a definition can go on with a branch of a conditional
exactly when the conditional has no mark. -/
theorem letsInto_iff {recorder : Recorder} (alone : recorder.builder.stack = [])
    {block last onTrue onFalse : Nat} {condition : HostValue} {mark : Option Branch}
    (found : recorder.recording.last? block = some last)
    (kind : (recorder.recording.statement last).kind = .branch condition onTrue onFalse mark)
    (branch : Branch) : recorder.LetsInto block branch ↔ mark = none := by
  obtain ⟨entered, enters, stage⟩ := Record.enterRoot_run (.block block) alone
  have recording : entered.recording = recorder.recording := congrArg Stage.recording stage
  have ready : Record.Ready entered block := ⟨_, [], congrArg Stage.stack stage, rfl⟩
  rw [← recording] at found kind
  have goes := enterBranch_run ready found kind branch
  constructor
  · rintro ⟨root, other, guard, final, enters', runs⟩
    rw [enters] at enters'
    cases enters'
    rcases goes with ⟨none, -⟩ | ⟨opened, error, -, refused, -⟩
    · exact none
    · rw [refused] at runs
      cases runs
  · rintro rfl
    rcases goes with ⟨-, guard, final, runs⟩ | ⟨opened, error, marked, -⟩
    · exact ⟨_, entered, guard, final, enters, runs⟩
    · cases marked

/-- With no scope open, a conditional with a mark is refused for it. -/
theorem refuses_of_marked {recorder : Recorder} (alone : recorder.builder.stack = [])
    {block last onTrue onFalse : Nat} {condition : HostValue} {opened : Branch} {text : String}
    (found : recorder.recording.last? block = some last)
    (kind : (recorder.recording.statement last).kind =
      .branch condition onTrue onFalse (some opened))
    (written : Stmt.branchText recorder.rendering condition = .ok text) (branch : Branch) :
    recorder.Refuses block branch (.scope (.branchOpen opened.label text)) := by
  obtain ⟨entered, enters, stage⟩ := Record.enterRoot_run (.block block) alone
  have recording : entered.recording = recorder.recording := congrArg Stage.recording stage
  have ready : Record.Ready entered block := ⟨_, [], congrArg Stage.stack stage, rfl⟩
  have objects : entered.toObjects = recorder.toObjects := by
    rw [← enterRoot_objects recorder (.block block), enters]
  rw [← recording] at found kind
  rcases enterBranch_run ready found kind branch with ⟨none, -⟩ | ⟨other, error, same, runs, reads⟩
  · cases none
  · obtain rfl := Option.some.inj same
    rw [reads text (objects ▸ written)] at runs
    exact ⟨_, entered, enters, runs⟩

/-- Inside a definition the open scopes are nested in the block of the kernel. -/
theorem Defining.nested {before recorder : Recorder} (defining : before.Defining recorder) :
    ∃ root guard blocks, recorder.stage.Nested before.recording guard root blocks := by
  obtain ⟨worked, root, guard, entered, known, outermost, enters, within⟩ := defining
  refine ⟨root, guard, ?_⟩
  induction within with
  | start =>
      have alone : before.builder.stack = [] := by
        by_contra inside
        rw [Record.enterRoot_refused inside] at enters
        cases enters
      obtain ⟨final, run, stage⟩ := Record.enterRoot_run (.block root) alone
      rw [run] at enters
      cases enters
      rw [stage]
      exact ⟨[root], .start worked.coherent known outermost rfl⟩
  | perform _ operation permitted hypothesis =>
      obtain ⟨blocks, nested⟩ := hypothesis
      exact nested.steps (operation.moves permitted)
  | meanwhile _ same hypothesis =>
      rw [same]
      exact hypothesis

/-- Inside a definition a conditional has a mark exactly when the scope of one of
its branches is open, if it had none when the definition began. -/
theorem Defining.marks {before recorder : Recorder} (defining : before.Defining recorder)
    {statement onTrue onFalse : Nat} {condition : HostValue} {mark : Option Branch}
    (kind : (recorder.recording.statement statement).kind = .branch condition onTrue onFalse mark)
    (shut : (before.recording.statement statement).kind.open? = none) :
    mark = none ↔ ∀ guard ∈ recorder.builder.stack,
      guard.scope ≠ .block onTrue ∧ guard.scope ≠ .block onFalse := by
  obtain ⟨root, guard, blocks, nested⟩ := defining.nested
  have opens (block : Nat) :
      block ∈ blocks ↔ ∃ guard ∈ recorder.builder.stack, guard.scope = .block block := by
    have listed : HostValue.block block ∈ recorder.builder.stack.map Guard.scope ↔
        HostValue.block block ∈ blocks.map HostValue.block := by
      rw [show recorder.builder.stack.map Guard.scope = _ from nested.scopes]
    simpa using listed.symm
  have marked {branch : Branch} {block : Nat}
      (named : (recorder.recording.statement statement).kind.blockOf? branch = some block) :
      mark = some branch ↔ ∃ guard ∈ recorder.builder.stack, guard.scope = .block block := by
    rw [← opens, ← nested.marks named shut]
    exact Eq.congr_left (congrArg StatementKind.open? kind).symm
  have onTrue_open := marked (congrArg (StatementKind.blockOf? .onTrue) kind)
  have onFalse_open := marked (congrArg (StatementKind.blockOf? .onFalse) kind)
  constructor
  · rintro rfl guard member
    constructor
    · intro scope
      cases onTrue_open.mpr ⟨guard, member, scope⟩
    · intro scope
      cases onFalse_open.mpr ⟨guard, member, scope⟩
  · intro shut
    cases mark with
    | none => rfl
    | some branch =>
        cases branch with
        | onTrue =>
            obtain ⟨guard, member, scope⟩ := onTrue_open.mp rfl
            exact ((shut guard member).1 scope).elim
        | onFalse =>
            obtain ⟨guard, member, scope⟩ := onFalse_open.mp rfl
            exact ((shut guard member).2 scope).elim

end Recorder

namespace Workbench

/-- The scope of a block is open in one of the builders. -/
def Opens (bench : Workbench) (block : Nat) : Prop :=
  ∃ builder, ∃ guard ∈ (bench.builders builder).stack, guard.scope = .block block

/-- An open branch has its scope, or a reset has dropped it. -/
theorem Past.guarded {occasions : List Occasion} {bench : Workbench} (past : bench.Past occasions)
    {statement block : Nat} {branch : Branch}
    (named : (bench.shared.recording.statement statement).kind.blockOf? branch = some block)
    (marked : (bench.shared.recording.statement statement).kind.open? = some branch) :
    bench.Opens block ∨ ∃ occasion ∈ occasions, occasion.Drops block := by
  induction past generalizing statement block branch with
  | start _ empty =>
      rw [empty] at named
      cases named
  | @perform occasions bench past builder operation given hypothesis =>
      let others (block : Nat) : Prop :=
        (∃ other ≠ builder, ∃ guard ∈ (bench.builders other).stack, guard.scope = .block block) ∨
          ∃ occasion ∈ occasions, occasion.Drops block
      have before : (bench.recorder builder).stage.Guarded others := by
        constructor
        intro statement block branch named marked
        rcases hypothesis named marked with ⟨other, held⟩ | dropped
        · by_cases same : other = builder
          · exact .inl (same ▸ held)
          · exact .inr (.inl ⟨other, same, held⟩)
        · exact .inr (.inr dropped)
      have given : operation.Given (bench.recorder builder).recording := given
      rcases ((Operation.turns given).guarded past.reached.housed.1 before).scope named marked with
        held | (⟨other, different, held⟩ | ⟨occasion, member, dropped⟩) | ⟨resets, held⟩
      · refine .inl ⟨builder, ?_⟩
        simp only [after, Function.update_self]
        exact held
      · refine .inl ⟨other, ?_⟩
        simp only [after, Function.update_of_ne different]
        exact held
      · exact .inr ⟨occasion, List.mem_cons_of_mem _ member, dropped⟩
      · exact .inr ⟨_, List.mem_cons_self, resets, held⟩
  | meanwhile _ builders recording hypothesis =>
      rw [recording] at named marked
      rcases hypothesis named marked with ⟨builder, held⟩ | dropped
      · refine .inl ⟨builder, ?_⟩
        rwa [builders]
      · exact .inr dropped

theorem alone_after_reset (bench : Workbench) (builder : Nat) :
    ((bench.after builder .reset).recorder builder).builder.stack = [] := by
  simp only [recorder, after, Function.update_self]
  rfl

/-- What a reset of a builder does. -/
structure Recovers (bench : Workbench) (occasions : List Occasion) (builder : Nat) : Prop where
  /-- No scope is open, none is pinned, and no loop is the last one. -/
  dropped : (bench.after builder .reset).builders builder = .empty
  recording : (bench.after builder .reset).shared.recording = bench.shared.recording
  /-- A conditional can be entered again exactly when none of its branches is
  marked as open. -/
  enters {block last onTrue onFalse : Nat} {condition : HostValue} {mark : Option Branch}
    (found : bench.shared.recording.last? block = some last)
    (kind : (bench.shared.recording.statement last).kind = .branch condition onTrue onFalse mark)
    (branch : Branch) :
    ((bench.after builder .reset).recorder builder).LetsInto block branch ↔ mark = none
  refuses {block last onTrue onFalse : Nat} {condition : HostValue} {opened : Branch}
    {text : String} (found : bench.shared.recording.last? block = some last)
    (kind : (bench.shared.recording.statement last).kind =
      .branch condition onTrue onFalse (some opened))
    (written : Stmt.branchText bench.shared.rendering condition = .ok text) (branch : Branch) :
    ((bench.after builder .reset).recorder builder).Refuses block branch
      (.scope (.branchOpen opened.label text))
  /-- A branch that is marked has its scope, or an earlier reset has dropped it. -/
  marked {statement block : Nat} {branch : Branch}
    (named : (bench.shared.recording.statement statement).kind.blockOf? branch = some block)
    (left : (bench.shared.recording.statement statement).kind.open? = some branch) :
    bench.Opens block ∨ ∃ occasion ∈ occasions, occasion.Drops block
  /-- Inside a definition, a conditional has no mark exactly when no scope of its
  branches is open. -/
  defining {before : Recorder} {statement onTrue onFalse : Nat} {condition : HostValue}
    {mark : Option Branch} (defining : before.Defining (bench.recorder builder))
    (kind : (bench.shared.recording.statement statement).kind =
      .branch condition onTrue onFalse mark)
    (shut : (before.recording.statement statement).kind.open? = none) :
    mark = none ↔ ∀ guard ∈ (bench.builders builder).stack,
      guard.scope ≠ .block onTrue ∧ guard.scope ≠ .block onFalse

/-- A reset recovers from whatever was done with builders, but for conditionals
with an open branch: they keep their mark, and with it they cannot be entered any
more. -/
theorem reset_recovers {bench : Workbench} {occasions : List Occasion} (past : bench.Past occasions)
    (builder : Nat) : bench.Recovers occasions builder where
  dropped := by
    simp only [after, Function.update_self]
    rfl
  recording := rfl
  enters found kind branch := Recorder.letsInto_iff (alone_after_reset bench builder) found kind branch
  refuses found kind written branch :=
    Recorder.refuses_of_marked (alone_after_reset bench builder) found kind written branch
  marked := past.guarded
  defining defining kind shut := defining.marks kind shut

end Workbench

namespace Aborted

/-- A definition is given up while a branch is open. -/
def bench : Workbench :=
  let start : Workbench :=
    ⟨fun _ => .empty, ⟨⟨.empty, #[], #[], #[], #[]⟩, ⟨0, 0⟩, .empty, 0, #[]⟩⟩
  (((start.after 0 (.newBlock "kernel")).after 0 (.enterRoot (.block 0))).after 0
    (.beginIf (.int 0 1))).after 0 (.enterBranch .onTrue)

theorem exists_past : ∃ occasions, bench.Past occasions := by
  refine ⟨_, .perform (.perform (.perform (.perform (.start (fun _ => rfl) rfl) 0
    (.newBlock "kernel") ?_) 0 (.enterRoot (.block 0)) ?_) 0 (.beginIf (.int 0 1)) ?_) 0
      (.enterBranch .onTrue) ?_⟩
  · exact nofun
  · intro value member
    rw [List.mem_singleton.mp member]
    exact Nat.zero_lt_one
  · intro value member
    rw [List.mem_singleton.mp member]
    trivial
  · exact nofun

theorem recovers_aborted : ∃ occasions, bench.Past occasions ∧ bench.Recovers occasions 0 := by
  obtain ⟨occasions, past⟩ := exists_past
  exact ⟨occasions, past, Workbench.reset_recovers past 0⟩

/-- The conditional is the last statement of the kernel, and no branch of it can
be entered after a reset. -/
theorem left_open :
    (∃ occasions, bench.Past occasions) ∧ bench.shared.recording.last? 0 = some 0 ∧
      (∃ condition, (bench.shared.recording.statement 0).kind =
        .branch condition 1 2 (some .onTrue)) ∧
      (bench.after 0 .reset).builders 0 = .empty ∧
      ∀ branch, ¬((bench.after 0 .reset).recorder 0).LetsInto 0 branch ∧
        ((bench.after 0 .reset).recorder 0).Refuses 0 branch
          (.scope (.branchOpen "true" "if 1")) := by
  refine ⟨exists_past, rfl, ⟨_, rfl⟩, rfl, fun branch => ⟨?_, ?_⟩⟩
  · rw [Recorder.letsInto_iff rfl rfl rfl]
    exact nofun
  · exact ⟨_, _, rfl, by cases branch <;> rfl⟩

end Aborted

end FieldKernel
