import FieldKernel.Proofs.Recording.Arena
import FieldKernel.Proofs.Recording.Operations
import FieldKernel.Proofs.Triples

/-!
# What operations do to scopes

Operations on a builder that is inside a definition come down to a few changes
of the recording and of the scopes.  Some of them host code makes only by hand:
it opens scopes of its own, and it puts statements into blocks that no scope is
open for.
-/

namespace FieldKernel

namespace StatementKind

/-- The blocks inside a statement. -/
def inside : StatementKind → List Nat
  | .branch _ onTrue onFalse _ => [onTrue, onFalse]
  | .loop _ _ body _ => [body]
  | _ => []

/-- The block of a branch. -/
def blockOf? (branch : Branch) : StatementKind → Option Nat
  | .branch _ onTrue onFalse _ =>
    some (match branch with
      | .onTrue => onTrue
      | .onFalse => onFalse)
  | _ => none

/-- The branch that is open. -/
def open? : StatementKind → Option Branch
  | .branch _ _ _ open? => open?
  | _ => none

/-- Two statements have the same blocks inside them, and the same branch is
open. -/
structure Alike (one other : StatementKind) : Prop where
  inside : one.inside = other.inside
  blockOf? (branch : Branch) : one.blockOf? branch = other.blockOf? branch
  open? : one.open? = other.open?

theorem Alike.refl (kind : StatementKind) : kind.Alike kind :=
  ⟨rfl, fun _ => rfl, rfl⟩

variable {kind : StatementKind}

theorem mem_inside_of_blockOf? {branch : Branch} {block : Nat}
    (found : kind.blockOf? branch = some block) : block ∈ kind.inside := by
  cases kind with
  | branch condition onTrue onFalse open? =>
      cases found
      cases branch <;> simp [inside]
  | _ => cases found

@[simp] theorem inside_marked (mark : Option Branch) : (kind.marked mark).inside = kind.inside := by
  cases kind <;> rfl

@[simp] theorem blockOf?_marked (mark : Option Branch) (branch : Branch) :
    (kind.marked mark).blockOf? branch = kind.blockOf? branch := by
  cases kind <;> rfl

/-- A conditional is marked as it is told. -/
theorem open?_marked {branch : Branch} {block : Nat} (found : kind.blockOf? branch = some block)
    (mark : Option Branch) : (kind.marked mark).open? = mark := by
  cases kind with
  | branch => rfl
  | _ => cases found

end StatementKind

/-- The part of a recorder that scopes are about. -/
structure Stage where
  recording : Recording
  stack : List Guard
  /-- How many scopes at the bottom cannot be closed. -/
  floor : Nat

def Recorder.stage (recorder : Recorder) : Stage :=
  ⟨recorder.recording, recorder.builder.stack, recorder.builder.floor⟩

namespace Recording

theorem childBlocks_eq (recording : Recording) (statement : Nat) :
    recording.childBlocks statement = (recording.statement statement).kind.inside := by
  unfold childBlocks StatementKind.inside
  split <;> simp_all

/-- Ways to add a statement, which is in no block yet. -/
inductive Addition : (Recording → Nat × Recording) → Prop where
  | leaf {kind : StatementKind} (empty : kind.inside = []) : Addition (·.addStatement kind)
  | branch (condition : HostValue) : Addition (·.addBranch condition)
  | loop (vars : List Variable) (source : LoopSource) : Addition (·.addLoop vars source)

theorem Addition.adds {addition : Recording → Nat × Recording} (added : Addition addition)
    (recording : Recording) : ∃ kind, recording.Adds kind (addition recording) := by
  cases added with
  | leaf empty => exact ⟨_, adds_addStatement recording _⟩
  | branch condition => exact ⟨_, adds_addBranch recording condition⟩
  | loop vars source => exact ⟨_, adds_addLoop recording vars source⟩

/-- The recording after a scope was closed: the branch that the scope was
entered for is not open any more. -/
def closed (recording : Recording) : HostValue → Recording
  | .block block =>
    match recording.owningBranch? block with
    | some (owner, _, some branch) =>
      if branch.label = (recording.block block).label then recording.markOpen owner none
      else recording
    | _ => recording
  | _ => recording

end Recording

/-- What an operation does at once.  A statement is recorded in the block of the
innermost scope, and a scope is entered for a block inside the last statement
there, unless host code goes by hand. -/
inductive Stage.Step (byHand : Prop) : Stage → Stage → Prop where
  | addsBlock {recording : Recording} {stack : List Guard} {floor : Nat} (label : String) :
      Step byHand ⟨recording, stack, floor⟩ ⟨(recording.addBlock none label).2, stack, floor⟩
  | adds {recording : Recording} {stack : List Guard} {floor : Nat}
      {addition : Recording → Nat × Recording} (added : Recording.Addition addition) :
      Step byHand ⟨recording, stack, floor⟩ ⟨(addition recording).2, stack, floor⟩
  | retouches {recording : Recording} {stack : List Guard} {floor : Nat} (statement : Nat)
      {change : Statement → Statement} (parents : ∀ entry, (change entry).parent? = entry.parent?)
      (kinds : ∀ entry, (change entry).kind.Alike entry.kind) :
      Step byHand ⟨recording, stack, floor⟩ ⟨recording.modifyStatement statement change, stack, floor⟩
  | records {recording : Recording} {guard : Guard} {rest : List Guard} {floor block member : Nat}
      (scope : guard.scope = .block block) (known : member < recording.statements.size)
      (free : (recording.statement member).parent? = none) :
      Step byHand ⟨recording, guard :: rest, floor⟩
        ⟨recording.append block member, guard :: rest, floor⟩
  | inserts {recording : Recording} {stack : List Guard} {floor : Nat} (allowed : byHand)
      (block member : Nat) :
      Step byHand ⟨recording, stack, floor⟩ ⟨recording.append block member, stack, floor⟩
  | entersBranch {recording : Recording} {guard entered : Guard} {rest : List Guard}
      {floor block last inner : Nat} {branch : Branch} (scope : guard.scope = .block block)
      (found : recording.last? block = some last)
      (shut : (recording.statement last).kind.open? = none)
      (inside : (recording.statement last).kind.blockOf? branch = some inner)
      (opened : entered.scope = .block inner) :
      Step byHand ⟨recording, guard :: rest, floor⟩
        ⟨recording.markOpen last (some branch), entered :: guard :: rest, floor⟩
  | entersBody {recording : Recording} {guard entered : Guard} {rest : List Guard}
      {floor block last body : Nat} (scope : guard.scope = .block block)
      (found : recording.last? block = some last)
      (inside : (recording.statement last).kind.inside = [body])
      (opened : entered.scope = .block body) :
      Step byHand ⟨recording, guard :: rest, floor⟩ ⟨recording, entered :: guard :: rest, floor⟩
  | opens {recording : Recording} {stack : List Guard} {floor : Nat} (allowed : byHand)
      (guard : Guard) :
      Step byHand ⟨recording, stack, floor⟩ ⟨recording, guard :: stack, floor⟩
  | pops {recording : Recording} {guard : Guard} {rest : List Guard} {floor : Nat}
      (above : floor < rest.length + 1) :
      Step byHand ⟨recording, guard :: rest, floor⟩ ⟨recording.closed guard.scope, rest, floor⟩

/-- Any number of steps. -/
abbrev Stage.Steps (byHand : Prop) : Stage → Stage → Prop :=
  Relation.ReflTransGen (Stage.Step byHand)

namespace Record

variable {byHand : Prop} {recorder : Recorder} {α β : Type}

/-- All that an attempt does to scopes is done by steps, also if it fails. -/
def Moves (byHand : Prop) (attempt : Record α) (recorder : Recorder) : Prop :=
  Stage.Steps byHand recorder.stage (attempt.run.run recorder).2.stage

section Rules

theorem Moves.pure {result : α} : Moves byHand (pure result) recorder :=
  .refl

theorem Moves.throw {error : Error} : Moves byHand (throw error : Record α) recorder :=
  .refl

theorem Moves.bind {attempt : Record α} {next : α → Record β}
    (first : Moves byHand attempt recorder)
    (second : ∀ result middle, attempt.run.run recorder = (.ok result, middle) →
      Moves byHand (next result) middle) : Moves byHand (attempt >>= next) recorder := by
  unfold Moves at first ⊢
  rw [run_run_bind]
  revert first second
  rcases attempt.run.run recorder with ⟨error | result, middle⟩
  · intro first _
    exact first
  · intro first second
    exact first.trans (second result middle rfl)

theorem Moves.map {attempt : Record α} {change : α → β} (moves : Moves byHand attempt recorder) :
    Moves byHand (change <$> attempt) recorder := by
  rw [map_eq_pure_bind]
  exact moves.bind fun _ _ _ => .pure

theorem Moves.get {next : Recorder → Record α} (moves : Moves byHand (next recorder) recorder) :
    Moves byHand (get >>= next) recorder :=
  moves

theorem run_get_bind (next : Recorder → Record α) :
    (MonadState.get >>= next).run.run recorder = (next recorder).run.run recorder :=
  rfl

theorem Moves.modify {change : Recorder → Recorder}
    (steps : Stage.Steps byHand recorder.stage (change recorder).stage) :
    Moves byHand (modify change : Record PUnit) recorder :=
  steps

theorem Moves.thrown {error : Error} {next : α → Record β} :
    Moves byHand ((MonadExcept.throw error : Record α) >>= next) recorder :=
  .refl

/-- What follows on a question moves for its answer. -/
theorem Moves.ask {question : Ask α} {next : α → Record β}
    (second : ∀ result, question recorder.toObjects = .ok result →
      Moves byHand (next result) recorder) :
    Moves byHand (liftM question >>= next : Record β) recorder := by
  have asked : (liftM question : Record α).run.run recorder =
      (question recorder.toObjects, recorder) := rfl
  refine bind ?_ fun result middle ends => ?_
  · unfold Moves
    rw [asked]
  · rw [asked] at ends
    obtain ⟨found, rfl⟩ := Prod.mk.inj ends
    exact second result found

theorem Moves.step {attempt : Record α} {result : Except Error α} {final : Recorder}
    (run : attempt.run.run recorder = (result, final))
    (step : Stage.Step byHand recorder.stage final.stage) : Moves byHand attempt recorder := by
  unfold Moves
  rw [run]
  exact .single step

theorem Moves.build {attempt : Build α} : Moves byHand (build attempt) recorder :=
  .refl

/-- What follows on the innermost scope moves if there is one. -/
theorem Moves.currentScope {next : HostValue → Record α}
    (second : ∀ guard rest, recorder.builder.stack = guard :: rest →
      Moves byHand (next guard.scope) recorder) :
    Moves byHand (currentScope >>= next) recorder := by
  unfold Moves
  rw [run_run_bind]
  cases scopes : recorder.builder.stack with
  | nil =>
      have run : Record.currentScope.run.run recorder =
          (.error (.scope .noActiveScope), recorder) := by
        rw [Record.currentScope, run_get_bind, scopes]
        rfl
      rw [run]
  | cons guard rest =>
      have run : Record.currentScope.run.run recorder = (.ok guard.scope, recorder) := by
        rw [Record.currentScope, run_get_bind, scopes]
        rfl
      rw [run]
      exact second guard rest scopes

/-- What follows on the last statement moves if there is a block for statements. -/
theorem Moves.last? {next : Nat × Option Nat → Record α}
    (second : ∀ guard rest block, recorder.builder.stack = guard :: rest →
      guard.scope = .block block →
      Moves byHand (next (block, recorder.recording.last? block)) recorder) :
    Moves byHand (last? >>= next) recorder := by
  have unfolded : (Record.last? >>= next) = (do
      let scope ← Record.currentScope
      let block ← Ask.block scope "last"
      let recorder ← MonadState.get
      next (block, recorder.recording.last? block)) := by
    simp only [Record.last?, bind_assoc, pure_bind]
  rw [unfolded]
  refine currentScope fun guard rest scopes => ask fun block found => get ?_
  refine second guard rest block scopes ?_
  revert found
  cases guard.scope with
  | block id => exact fun found => congrArg _ (Except.ok.inj found)
  | _ => intro found; cases found

end Rules

theorem createScope_moves (allowed : byHand) (scope : HostValue) :
    Moves byHand (createScope scope) recorder :=
  .step rfl (.opens allowed _)

theorem closeBranch_run (block : Nat) :
    (closeBranch block).run.run recorder =
      (.ok (), { recorder with recording := recorder.recording.closed (.block block) }) := by
  change (match recorder.recording.owningBranch? block with
    | some (owner, _, some branch) =>
      if branch.label = (recorder.recording.block block).label then
        modifyRecording (·.markOpen owner none)
      else Pure.pure ()
    | _ => Pure.pure () : Record Unit).run.run recorder = _
  unfold Recording.closed
  dsimp only
  split
  · split <;> rfl
  · rfl

/-- What is done once the innermost scope is known to be closable. -/
theorem popped_stage (guard : Guard) (rest : List Guard) (message : Except HostFault String) :
    ((do
      modifyBuilder fun builder => { builder with stack := rest }
      closeBranch (← Ask.block guard.scope "owner")
      report message
      return guard.scope : Record HostValue).run.run recorder).2.stage =
      ⟨recorder.recording.closed guard.scope, rest, recorder.builder.floor⟩ := by
  cases guard.scope with
  | block id =>
      change ((do
        closeBranch id
        report message
        return (HostValue.block id) : Record HostValue).run.run
        { recorder with builder := { recorder.builder with stack := rest } }).2.stage = _
      rw [run_run_bind, closeBranch_run]
      rfl
  | _ => rfl

/-- The innermost scope is closed before anything is asked about it. -/
theorem popScope_stage {guard : Guard} {rest : List Guard}
    (scopes : recorder.builder.stack = guard :: rest)
    (above : recorder.builder.floor < rest.length + 1) :
    (popScope.run.run recorder).2.stage =
      ⟨recorder.recording.closed guard.scope, rest, recorder.builder.floor⟩ := by
  have low : ¬(guard :: rest).length ≤ recorder.builder.floor := by simpa using above
  rw [popScope, run_get_bind]
  simp only [scopes, if_neg low]
  exact popped_stage guard rest _

theorem popScope_moves : Moves byHand popScope recorder := by
  cases scopes : recorder.builder.stack with
  | nil =>
      refine .get ?_
      rw [scopes]
      exact .throw
  | cons guard rest =>
      by_cases low : (guard :: rest).length ≤ recorder.builder.floor
      · refine .get ?_
        simp only [scopes, if_pos low]
        exact .throw
      · have above : recorder.builder.floor < rest.length + 1 := by simpa using low
        unfold Moves
        rw [popScope_stage scopes above, Recorder.stage, scopes]
        exact .single (.pops above)

/-- A statement can be put into a block once. -/
theorem insertInto_cases (recorder : Recorder) (target statement : HostValue) :
    ((insertInto target statement).run.run recorder).2 = recorder ∨
      ∃ block member, target = .block block ∧ statement = .statement member ∧
        (recorder.recording.statement member).parent? = none ∧
        ((insertInto target statement).run.run recorder).2 =
          { recorder with recording := recorder.recording.append block member } := by
  cases target with
  | block block =>
      cases statement with
      | statement member =>
          by_cases held : (recorder.recording.statement member).parent?.isSome
          · left
            change ((do
              if (recorder.recording.statement member).parent?.isSome then
                throw (.contract (.alreadyOwned (recorder.recording.className member)))
              modifyRecording (·.append block member) : Record Unit).run.run recorder).2 = _
            rw [if_pos held]
            rfl
          · right
            refine ⟨block, member, rfl, rfl, by simpa using held, ?_⟩
            change ((do
              if (recorder.recording.statement member).parent?.isSome then
                throw (.contract (.alreadyOwned (recorder.recording.className member)))
              modifyRecording (·.append block member) : Record Unit).run.run recorder).2 = _
            rw [if_neg held]
            rfl
      | _ => exact .inl rfl
  | _ => exact .inl rfl

theorem insertInto_moves {target statement : HostValue}
    (permitted : byHand ∨ ∃ guard rest, recorder.builder.stack = guard :: rest ∧
      guard.scope = target ∧
        ∀ id, statement = .statement id → id < recorder.recording.statements.size) :
    Moves byHand (insertInto target statement) recorder := by
  unfold Moves
  rcases insertInto_cases recorder target statement with same | ⟨block, member, rfl, rfl, free, ends⟩
  · rw [same]
  · rw [ends]
    refine .single ?_
    rcases permitted with allowed | ⟨guard, rest, scopes, scope, known⟩
    · exact .inserts allowed block member
    · have recorded : Stage.Step byHand ⟨_, guard :: rest, recorder.builder.floor⟩ _ :=
        .records scope (known member rfl) free
      rw [← scopes] at recorded
      exact recorded

theorem insert_moves {statement : HostValue}
    (permitted : byHand ∨
      ∀ id, statement = .statement id → id < recorder.recording.statements.size) :
    Moves byHand (insert statement) recorder := by
  refine .currentScope fun guard rest scopes => ?_
  refine (insertInto_moves ?_).bind fun _ middle _ => .ask fun id _ => .get ?_
  · exact permitted.imp_right fun known => ⟨guard, rest, scopes, rfl, known⟩
  · split
    · exact .modify .refl
    · exact .pure

theorem addTo_moves {addition : Recording → Nat × Recording}
    (added : Recording.Addition addition) : Moves byHand (addTo addition) recorder :=
  .step rfl (.adds added)

theorem record_moves {addition : Recording → Nat × Recording}
    (added : Recording.Addition addition) : Moves byHand (record addition) recorder := by
  refine .currentScope fun guard rest _ => ?_
  refine (addTo_moves added).bind fun statement middle ends => ?_
  refine (insert_moves (.inr ?_)).bind fun _ _ _ => .pure
  rintro id ⟨⟩
  obtain ⟨kind, adds⟩ := added.adds recorder.recording
  obtain ⟨rfl, rfl⟩ : _ = statement ∧ _ = middle := by
    obtain ⟨one, other⟩ := Prod.mk.inj ends
    exact ⟨Except.ok.inj one, other⟩
  exact adds.number ▸ adds.made

theorem alloca_moves (name? : Option String) : Moves byHand (alloca name?) recorder := by
  refine Moves.build.bind fun var _ _ => (record_moves ?_).bind fun _ _ _ => .pure
  exact .leaf rfl

theorem assign_moves (target value : HostValue) : Moves byHand (assign target value) recorder := by
  refine .ask fun target _ => Moves.build.bind fun value _ _ => record_moves ?_
  exact .leaf rfl

theorem var_moves (value : HostValue) (name? : Option String) :
    Moves byHand (var value name?) recorder :=
  (alloca_moves name?).bind fun _ _ _ => (assign_moves _ value).bind fun _ _ _ => .pure

theorem print_moves (value label : HostValue) : Moves byHand (print value label) recorder := by
  refine Moves.build.bind fun value _ _ => record_moves ?_
  exact .leaf rfl

theorem beginIf_moves (condition : HostValue) : Moves byHand (beginIf condition) recorder :=
  Moves.build.bind fun _ _ _ => record_moves (.branch _)

/-- A branch is marked and its scope opened at once. -/
theorem enterBranch_moves (branch : Branch) : Moves byHand (enterBranch branch) recorder := by
  refine .last? fun guard rest block scopes scope => .get ?_
  dsimp only
  split
  · next last condition onTrue onFalse open? found =>
    obtain ⟨last, lastly, rfl, kind⟩ : ∃ known, recorder.recording.last? block = some known ∧
        known = last ∧ (recorder.recording.statement known).kind =
          .branch condition onTrue onFalse open? := by
      simpa using found
    split
    · exact .ask fun _ _ => .throw
    · refine .step rfl ?_
      have entered : Stage.Step byHand ⟨_, guard :: rest, recorder.builder.floor⟩
          ⟨_, ⟨recorder.nextGuard, _⟩ :: _, _⟩ :=
        .entersBranch scope lastly (congrArg StatementKind.open? kind)
          (congrArg (StatementKind.blockOf? branch) kind) rfl
      rw [← scopes] at entered
      exact entered
  · split
    · exact .ask fun _ _ => .throw
    · exact .throw

theorem enterBody_moves : Moves byHand enterBody recorder := by
  refine .last? fun guard rest block scopes scope => .get ?_
  dsimp only
  split
  · next vars source body schedule found =>
    obtain ⟨last, lastly, kind⟩ : ∃ known, recorder.recording.last? block = some known ∧
        (recorder.recording.statement known).kind = .loop vars source body schedule := by
      simpa using found
    refine .step rfl ?_
    have entered : Stage.Step byHand ⟨_, guard :: rest, recorder.builder.floor⟩
        ⟨_, ⟨recorder.nextGuard, _⟩ :: _, _⟩ :=
      .entersBody scope lastly (congrArg StatementKind.inside kind) rfl
    rw [← scopes] at entered
    exact entered
  · exact .throw

theorem beginRange_moves (counter first last : HostValue) :
    Moves byHand (beginRange counter first last) recorder :=
  Moves.build.bind fun _ _ _ => Moves.build.bind fun _ _ _ => .ask fun _ _ =>
    record_moves (.loop _ _)

theorem beginElements_moves (vars field : HostValue) :
    Moves byHand (beginElements vars field) recorder := by
  refine Moves.build.bind fun group _ _ => ?_
  split
  · exact .thrown
  refine .ask fun declared _ => .ask fun vars _ => .get ?_
  split
  · exact record_moves (.loop _ _)
  · dsimp only
    split
    · exact .thrown
    · exact record_moves (.loop _ _)

theorem openRange_moves (counter first last : HostValue) :
    Moves byHand (openRange counter first last) recorder :=
  (beginRange_moves counter first last).bind fun _ _ _ => enterBody_moves

theorem openElements_moves (vars field : HostValue) :
    Moves byHand (openElements vars field) recorder :=
  (beginElements_moves vars field).bind fun _ _ _ => enterBody_moves

/-- A hint has nothing to do with scopes. -/
theorem setHint_moves (loop : Nat) (kind : HintKind) (value : HintValue) :
    Moves byHand (setHint loop kind value) recorder := by
  refine .step rfl (.retouches loop (fun _ => rfl) fun entry => ?_)
  obtain ⟨made, parent?, location?⟩ := entry
  cases made with
  | loop => exact ⟨rfl, fun _ => rfl, rfl⟩
  | _ => exact .refl _

theorem hint_moves (kind : HintKind) (value : HostValue) :
    Moves byHand (hint kind value) recorder := by
  refine .get ?_
  split
  · exact .throw
  · exact .ask fun _ _ => (setHint_moves _ _ _).bind fun _ _ _ => .pure

theorem leave_moves (guard : Guard) (failed : Bool) :
    Moves byHand (leave guard failed) recorder := by
  refine .get ?_
  split
  · exact popScope_moves.bind fun _ _ _ => .pure
  · split
    · exact .throw
    · exact .pure

/-- A definition begins with its own scope, and only with no scope open. -/
theorem enterRoot_run (scope : HostValue) (alone : recorder.builder.stack = []) :
    ∃ final, (enterRoot scope).run.run recorder = (.ok ⟨recorder.nextGuard, scope⟩, final) ∧
      final.stage = ⟨recorder.recording, [⟨recorder.nextGuard, scope⟩], 1⟩ := by
  rw [enterRoot, run_get_bind, if_pos (by simp [alone])]
  refine ⟨_, rfl, ?_⟩
  rw [← alone]
  rfl

theorem enterRoot_refused {scope : HostValue} (inside : recorder.builder.stack ≠ []) :
    (enterRoot scope).run.run recorder = (.error (.scope .nestedDefinition), recorder) := by
  rw [enterRoot, run_get_bind, if_neg (by simpa using inside)]
  rfl

theorem enterRoot_moves {scope : HostValue} (inside : recorder.builder.stack ≠ []) :
    Moves byHand (enterRoot scope) recorder := by
  unfold Moves
  rw [enterRoot_refused inside]

/-- A definition ends with its own scope, which is the only one then. -/
theorem exitRoot_cases (recorder : Recorder) :
    (recorder.builder.depth ≠ 1 ∧
        exitRoot.run.run recorder =
          (.error (.scope (.unclosed ((recorder.builder.depth : Int) - 1))), recorder)) ∨
      ∃ guard, recorder.builder.stack = [guard] ∧
        (exitRoot.run.run recorder).2.stage = ⟨recorder.recording.closed guard.scope, [], 0⟩ := by
  by_cases single : recorder.builder.depth = 1
  · right
    obtain ⟨guard, scopes⟩ := List.length_eq_one_iff.mp single
    refine ⟨guard, scopes, ?_⟩
    rw [exitRoot, run_get_bind, if_neg (by simpa using single)]
    exact popScope_stage scopes Nat.zero_lt_one
  · left
    refine ⟨single, ?_⟩
    rw [exitRoot, run_get_bind, if_pos single]
    rfl

theorem newAssign_moves (target value : HostValue) :
    Moves byHand (newAssign target value) recorder := by
  refine Moves.build.bind fun value _ _ => .ask fun target _ => ?_
  split
  · exact addTo_moves (.leaf rfl)
  · exact .thrown

theorem newStore_moves (place value : HostValue) :
    Moves byHand (newStore place value) recorder := by
  rw [newStore.eq_def]
  split
  · exact Moves.build.bind fun _ _ _ => addTo_moves (.leaf rfl)
  · exact .ask fun _ _ => .throw

theorem newAlloca_moves (named : HostValue) (type? : Option HostValue) :
    Moves byHand (newAlloca named type?) recorder := by
  refine .ask fun identifier _ => ?_
  split
  · exact .ask fun _ _ => addTo_moves (.leaf rfl)
  · exact addTo_moves (.leaf rfl)

theorem newRange_moves (counter first last : HostValue) :
    Moves byHand (newRange counter first last) recorder :=
  Moves.build.bind fun _ _ _ => Moves.build.bind fun _ _ _ => .ask fun _ _ =>
    addTo_moves (.loop _ _)

end Record

namespace Operation

/-- What host code may do inside a definition, by hand or not: the scope of the
definition is neither opened again nor closed nor dropped. -/
def Permitted (byHand : Prop) (recorder : Recorder) : Operation → Prop
  | createScope _ => byHand
  | insertInto _ _ => byHand
  | insert (.statement id) => byHand ∨ id < recorder.recording.statements.size
  | enterRoot _ => recorder.builder.stack ≠ []
  | exitRoot => False
  | reset => False
  | _ => True

theorem moves {byHand : Prop} {recorder : Recorder} {operation : Operation}
    (permitted : operation.Permitted byHand recorder) :
    Record.Moves byHand operation.perform recorder := by
  cases operation with
  | build building => exact .build
  | createScope scope => exact (Record.createScope_moves permitted scope).map
  | popScope => exact Record.popScope_moves
  | enterRoot scope => exact (Record.enterRoot_moves permitted).map
  | exitRoot => exact permitted.elim
  | reset => exact permitted.elim
  | leave guard failed => exact (Record.leave_moves guard failed).map
  | insert statement =>
      refine (Record.insert_moves ?_).map
      cases statement with
      | statement id => exact permitted.imp_right fun known _ same => HostValue.statement.inj same ▸ known
      | _ => exact .inr fun _ => nofun
  | insertInto block statement => exact (Record.insertInto_moves (.inl permitted)).map
  | alloca name? => exact (Record.alloca_moves name?).map
  | assign target value => exact (Record.assign_moves target value).map
  | var value name? => exact (Record.var_moves value name?).map
  | print value label => exact (Record.print_moves value label).map
  | beginIf condition => exact (Record.beginIf_moves condition).map
  | enterBranch branch => exact (Record.enterBranch_moves branch).map
  | beginRange counter first last => exact (Record.beginRange_moves counter first last).map
  | beginElements vars field => exact (Record.beginElements_moves vars field).map
  | enterBody => exact Record.enterBody_moves.map
  | openRange counter first last => exact (Record.openRange_moves counter first last).map
  | openElements vars field => exact (Record.openElements_moves vars field).map
  | hint kind value => exact (Record.hint_moves kind value).map
  | newBlock label => exact Record.Moves.map (.step rfl (.addsBlock label))
  | newAssign target value => exact (Record.newAssign_moves target value).map
  | newStore place value => exact (Record.newStore_moves place value).map
  | newLoad place => exact Record.Moves.map (.ask fun _ _ => Record.addTo_moves (.leaf rfl))
  | newAlloca named type? => exact (Record.newAlloca_moves named type?).map
  | newPrint value label => exact Record.Moves.map (Record.addTo_moves (.leaf rfl))
  | newBranch condition => exact Record.Moves.map (Record.addTo_moves (.branch condition))
  | newRange counter first last => exact (Record.newRange_moves counter first last).map
  | newElements vars field =>
      exact Record.Moves.map (.ask fun _ _ => .ask fun _ _ => .ask fun _ _ =>
        Record.addTo_moves (.loop _ _))
  | newBare => exact Record.Moves.map (Record.addTo_moves (.leaf rfl))
  | locate statement location =>
      exact Record.Moves.map (.step rfl (.retouches statement (fun _ => rfl) fun _ => .refl _))
  | setHint loop kind value => exact (Record.setHint_moves loop kind value).map

end Operation

end FieldKernel
