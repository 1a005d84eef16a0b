import FieldKernel.Proofs.Recording.Workbenches

/-!
# Failed operations

An operation that fails should leave scopes, blocks, marks and hints as they
were.  It checks all it needs before it changes anything, but for two kinds of
operation: a variable is declared before its first value is looked at, and a
scope is dropped before it is asked for its block.
-/

namespace FieldKernel

namespace Recording

/-- The statements of all blocks, the open branches and the hints of all loops
are the same. -/
structure Intact (before after : Recording) : Prop where
  statements (block : Nat) : (after.block block).statements = (before.block block).statements
  open? (statement : Nat) :
    (after.statement statement).kind.open? = (before.statement statement).kind.open?
  schedule? {loop : Nat} {schedule : Schedule} (found : before.schedule? loop = some schedule) :
    after.schedule? loop = some schedule

/-- A block has one more statement, and all else is the same. -/
structure Gains (before after : Recording) (block statement : Nat) : Prop where
  gained : (after.block block).statements = (before.block block).statements ++ [statement]
  others {other : Nat} (different : other ≠ block) :
    (after.block other).statements = (before.block other).statements
  open? (statement : Nat) :
    (after.statement statement).kind.open? = (before.statement statement).kind.open?
  schedule? {loop : Nat} {schedule : Schedule} (found : before.schedule? loop = some schedule) :
    after.schedule? loop = some schedule

variable {before middle after : Recording}

theorem Intact.refl (recording : Recording) : recording.Intact recording :=
  ⟨fun _ => rfl, fun _ => rfl, id⟩

theorem lt_of_schedule? {loop : Nat} {schedule : Schedule}
    (found : before.schedule? loop = some schedule) : loop < before.statements.size := by
  by_contra outside
  rw [Recording.schedule?, statement_of_le (Nat.le_of_not_lt outside)] at found
  cases found

/-- A new statement is in no block yet. -/
theorem Brings.intact {kind : StatementKind} (brings : before.Brings kind after) :
    before.Intact after where
  statements block := by
    by_cases known : block < before.blocks.size
    · rw [brings.extended.block known]
    · rw [brings.empty (Nat.le_of_not_lt known), block_of_le (Nat.le_of_not_lt known)]
  open? statement := by
    rcases brings.cases statement with same | ⟨rfl, added⟩
    · rw [same]
    · rw [added, statement_of_le (Nat.le_refl _), brings.shut]
      rfl
  schedule? found := by
    rw [Recording.schedule?, brings.extended.statement (lt_of_schedule? found)]
    exact found

theorem Brings.gains {kind : StatementKind} (brings : before.Brings kind after) {block : Nat}
    (known : block < before.blocks.size) :
    before.Gains (after.append block before.statements.size) block before.statements.size where
  gained := by
    rw [block_append_self _ (known.trans_le brings.extended.blocks_le)]
    simp only [brings.intact.statements]
  others different := by
    rw [block_append_of_ne _ different]
    exact brings.intact.statements _
  open? statement := by
    rw [kind_append]
    exact brings.intact.open? statement
  schedule? found := by
    rw [Recording.schedule?, kind_append]
    exact brings.intact.schedule? found

end Recording

/-- All that builders show is the same: the scopes and how many of them are
pinned, the loop that was recorded last, and what is in the recording. -/
structure Recorder.Intact (before after : Recorder) : Prop where
  builder : after.builder = before.builder
  recording : before.recording.Intact after.recording

/-- An attempt has not changed anything yet that builders work on. -/
structure Recorder.Untouched (before after : Recorder) : Prop where
  builder : after.builder = before.builder
  recording : after.recording = before.recording

theorem Recorder.Untouched.intact {before after : Recorder} (untouched : before.Untouched after) :
    before.Intact after :=
  ⟨untouched.builder, untouched.recording ▸ .refl _⟩

namespace Record

variable {α β : Type} {first recorder : Recorder}

/-- What comes before the first change. -/
def Prepares (first : Recorder) (attempt : Record α) : Prop :=
  Ensures first.Untouched attempt (fun _ => first.Untouched) (fun _ => first.Untouched)

/-- An attempt that fails leaves all that builders show as it was. -/
def Atomic (first : Recorder) (attempt : Record α) : Prop :=
  Ensures first.Untouched attempt (fun _ _ => True) (fun _ => first.Intact)

section Rules

variable {after : β → Recorder → Prop} {failed : Error → Recorder → Prop}

theorem Prepares.bind {attempt : Record α} {next : α → Record β}
    (prepares : Prepares first attempt)
    (fails : ∀ error state, first.Untouched state → failed error state)
    (second : ∀ result, Ensures first.Untouched (next result) after failed) :
    Ensures first.Untouched (attempt >>= next) after failed :=
  Ensures.bind (prepares.failing fails) second

theorem Prepares.atomic {attempt : Record α} (prepares : Prepares first attempt) :
    Atomic first attempt :=
  (prepares.failing fun _ _ => Recorder.Untouched.intact).weaken (fun _ => id)
    fun _ _ _ => trivial

/-- What follows on preparations decides whether an attempt is atomic. -/
theorem Prepares.intact {attempt : Record α} {next : α → Record β}
    (prepares : Prepares first attempt)
    (second : ∀ result, Ensures first.Untouched (next result) after fun _ => first.Intact) :
    Ensures first.Untouched (attempt >>= next) after fun _ => first.Intact :=
  prepares.bind (fun _ _ => Recorder.Untouched.intact) second

theorem build_prepares (attempt : Build α) : Prepares first (build attempt) := by
  intro recorder untouched
  have run : (build attempt).run.run recorder =
      (((attempt.run recorder.toObjects).run.run recorder.supply).1, { recorder with
        supply := ((attempt.run recorder.toObjects).run.run recorder.supply).2 }) := rfl
  rw [run]
  have same : first.Untouched { recorder with
      supply := ((attempt.run recorder.toObjects).run.run recorder.supply).2 } :=
    ⟨untouched.builder, untouched.recording⟩
  cases ((attempt.run recorder.toObjects).run.run recorder.supply).1 with
  | error error => exact same
  | ok result => exact same

theorem ask_prepares (question : Ask α) : Prepares first (liftM question : Record α) := by
  intro recorder untouched
  have run : (liftM question : Record α).run.run recorder =
      (question recorder.toObjects, recorder) := rfl
  rw [run]
  cases question recorder.toObjects with
  | error error => exact untouched
  | ok result => exact untouched

theorem throw_atomic (error : Error) : Atomic first (throw error : Record α) :=
  Ensures.throw fun _ => Recorder.Untouched.intact

/-- What follows on an error does not matter. -/
theorem thrown_intact {error : Error} {next : α → Record β} :
    Ensures first.Untouched ((MonadExcept.throw error : Record α) >>= next) after
      fun _ => first.Intact :=
  fun _ untouched => untouched.intact

/-- An attempt that does not fail. -/
theorem ensures_of_ok {attempt : Record α} {before : Recorder → Prop}
    (succeeds : ∀ recorder : Recorder, ∃ result final,
      attempt.run.run recorder = (.ok result, final)) :
    Ensures before attempt (fun _ _ => True) failed := by
  intro recorder _
  obtain ⟨result, final, run⟩ := succeeds recorder
  rw [run]
  trivial

theorem ensures_map {attempt : Record α} {change : α → β} {before : Recorder → Prop}
    (ensures : Ensures before attempt (fun _ _ => True) failed) :
    Ensures before (change <$> attempt) (fun _ _ => True) failed := by
  rw [map_eq_pure_bind]
  exact Ensures.bind ensures fun _ => .pure fun _ _ => trivial

end Rules

/-- The scope that statements go to is that of a block. -/
def Ready (recorder : Recorder) (block : Nat) : Prop :=
  ∃ guard rest, recorder.builder.stack = guard :: rest ∧ guard.scope = .block block

theorem currentScope_run {guard : Guard} {rest : List Guard}
    (scopes : recorder.builder.stack = guard :: rest) :
    currentScope.run.run recorder = (.ok guard.scope, recorder) := by
  rw [currentScope, run_get_bind, scopes]
  rfl

theorem currentScope_prepares : Prepares first currentScope := by
  intro recorder untouched
  cases scopes : recorder.builder.stack with
  | nil =>
      have run : currentScope.run.run recorder = (.error (.scope .noActiveScope), recorder) := by
        rw [currentScope, run_get_bind, scopes]
        rfl
      rw [run]
      exact untouched
  | cons guard rest =>
      rw [currentScope_run scopes]
      exact untouched

theorem last?_prepares : Prepares first last? :=
  currentScope_prepares.bind (fun _ _ => id) fun scope =>
    (ask_prepares (Ask.block scope "last")).bind (fun _ _ => id) fun _ =>
      .look fun _ _ => .pure fun _ => id

theorem last?_run {block : Nat} (ready : Ready recorder block) :
    last?.run.run recorder = (.ok (block, recorder.recording.last? block), recorder) := by
  obtain ⟨guard, rest, scopes, scope⟩ := ready
  rw [last?, run_run_bind, currentScope_run scopes, scope]
  rfl

/-- A statement that is in no block is put into one. -/
theorem insertInto_run {block member : Nat}
    (free : (recorder.recording.statement member).parent? = none) :
    (insertInto (.block block) (.statement member)).run.run recorder =
      (.ok (), { recorder with recording := recorder.recording.append block member }) := by
  change (do
    if (recorder.recording.statement member).parent?.isSome then
      throw (.contract (.alreadyOwned (recorder.recording.className member)))
    modifyRecording (·.append block member) : Record Unit).run.run recorder = _
  rw [free]
  rfl

/-- In the scope of a block, a statement that is in none is recorded for sure. -/
theorem insert_run {guard : Guard} {rest : List Guard} {block member : Nat}
    (scopes : recorder.builder.stack = guard :: rest) (scope : guard.scope = .block block)
    (free : (recorder.recording.statement member).parent? = none) :
    (insert (.statement member)).run.run recorder =
      (.ok (), { recorder with
        recording := recorder.recording.append block member
        builder := { recorder.builder with
          lastLoop? :=
            if (recorder.recording.statement member).kind.isLoop then some member
            else recorder.builder.lastLoop? } }) := by
  rw [insert, run_run_bind, currentScope_run scopes, scope]
  dsimp only
  rw [run_run_bind, insertInto_run free]
  have asked : (liftM (Ask.statement (.statement member) "parent_block") : Record Nat).run.run
      { recorder with recording := recorder.recording.append block member } =
      (.ok member, { recorder with recording := recorder.recording.append block member }) := rfl
  dsimp only
  rw [run_run_bind, asked]
  dsimp only
  rw [run_get_bind, Recording.kind_append]
  cases (recorder.recording.statement member).kind <;> rfl

/-- In the scope of a block, a new statement is recorded for sure. -/
theorem record_run {guard : Guard} {rest : List Guard} {block : Nat}
    (scopes : recorder.builder.stack = guard :: rest) (scope : guard.scope = .block block)
    {addition : Recording → Nat × Recording} {kind : StatementKind}
    (adds : recorder.recording.Adds kind (addition recorder.recording)) :
    (record addition).run.run recorder =
      (.ok recorder.recording.statements.size, { recorder with
        recording :=
          (addition recorder.recording).2.append block recorder.recording.statements.size
        builder := { recorder.builder with
          lastLoop? :=
            if kind.isLoop then some recorder.recording.statements.size
            else recorder.builder.lastLoop? } }) := by
  have added : (addTo addition).run.run recorder = (.ok recorder.recording.statements.size,
      { recorder with recording := (addition recorder.recording).2 }) := by
    rw [← adds.number]
    rfl
  have inserted := @insert_run { recorder with recording := (addition recorder.recording).2 }
    guard rest block recorder.recording.statements.size scopes scope (by rw [adds.statement])
  rw [adds.statement] at inserted
  rw [record, run_run_bind, currentScope_run scopes]
  dsimp only
  rw [run_run_bind, added]
  dsimp only
  rw [run_run_bind, inserted]
  rfl

/-- Without the scope of a block, nothing is put into a block. -/
theorem insert_refused {statement : HostValue} (unready : ∀ block, ¬Ready recorder block) :
    ∃ error, (insert statement).run.run recorder = (.error error, recorder) := by
  rw [insert, run_run_bind]
  cases scopes : recorder.builder.stack with
  | nil =>
      refine ⟨.scope .noActiveScope, ?_⟩
      rw [currentScope, run_get_bind, scopes]
      rfl
  | cons guard rest =>
      rw [currentScope_run scopes]
      dsimp only
      rw [run_run_bind]
      cases scope : guard.scope with
      | block block => exact (unready block ⟨guard, rest, scopes, scope⟩).elim
      | _ => exact ⟨_, rfl⟩

theorem insertInto_held {block member parent : Nat}
    (held : (recorder.recording.statement member).parent? = some parent) :
    (insertInto (.block block) (.statement member)).run.run recorder =
      (.error (.contract (.alreadyOwned (recorder.recording.className member))), recorder) := by
  change (do
    if (recorder.recording.statement member).parent?.isSome then
      throw (.contract (.alreadyOwned (recorder.recording.className member)))
    modifyRecording (·.append block member) : Record Unit).run.run recorder = _
  rw [held]
  rfl

theorem insertInto_atomic (block statement : HostValue) :
    Atomic first (insertInto block statement) := by
  intro recorder untouched
  cases block with
  | block block =>
      cases statement with
      | statement member =>
          cases held : (recorder.recording.statement member).parent? with
          | none =>
              rw [insertInto_run held]
              trivial
          | some parent =>
              rw [insertInto_held held]
              exact untouched.intact
      | _ => exact untouched.intact
  | _ => exact untouched.intact

/-- Once a statement is in a block, nothing fails any more. -/
theorem insert_atomic (statement : HostValue) : Atomic first (insert statement) := by
  intro recorder untouched
  by_cases ready : ∃ block, Ready recorder block
  · obtain ⟨block, guard, rest, scopes, scope⟩ := ready
    cases statement with
    | statement member =>
        cases held : (recorder.recording.statement member).parent? with
        | none =>
            rw [insert_run scopes scope held]
            trivial
        | some parent =>
            rw [insert, run_run_bind, currentScope_run scopes, scope]
            dsimp only
            rw [run_run_bind, insertInto_held held]
            exact untouched.intact
    | _ =>
        rw [insert, run_run_bind, currentScope_run scopes, scope]
        exact untouched.intact
  · obtain ⟨error, refused⟩ := @insert_refused recorder statement (not_exists.mp ready)
    rw [refused]
    exact untouched.intact

/-- Without the scope of a block, a new statement is made and goes nowhere. -/
theorem record_refused (addition : Recording → Nat × Recording)
    (unready : ∀ block, ¬Ready recorder block) :
    ∃ error final, (record addition).run.run recorder = (.error error, final) ∧
      final.builder = recorder.builder ∧
        (final.recording = recorder.recording ∨
          final.recording = (addition recorder.recording).2) := by
  rw [record, run_run_bind]
  cases scopes : recorder.builder.stack with
  | nil =>
      refine ⟨.scope .noActiveScope, recorder, ?_, rfl, .inl rfl⟩
      rw [currentScope, run_get_bind, scopes]
      rfl
  | cons guard rest =>
      obtain ⟨error, refused⟩ := @insert_refused
        { recorder with recording := (addition recorder.recording).2 }
        (.statement (addition recorder.recording).1)
        unready
      have added : (addTo addition).run.run recorder = (.ok (addition recorder.recording).1,
        { recorder with recording := (addition recorder.recording).2 }) := rfl
      refine ⟨error, { recorder with recording := (addition recorder.recording).2 }, ?_, rfl,
        .inr rfl⟩
      rw [currentScope_run scopes]
      dsimp only
      rw [run_run_bind, added]
      dsimp only
      rw [run_run_bind, refused]

/-- What is recorded in a state in which nothing has changed is recorded in the
block of the innermost scope, or it is refused. -/
theorem record_ensures {addition : Recording → Nat × Recording}
    (added : Recording.Addition addition) {after : Nat → Recorder → Prop}
    {failed : Error → Recorder → Prop}
    (records : ∀ kind block final, Ready first block →
      first.recording.Brings kind (addition first.recording).2 →
      final.recording =
        (addition first.recording).2.append block first.recording.statements.size →
      final.builder = { first.builder with
        lastLoop? :=
          if kind.isLoop then some first.recording.statements.size
          else first.builder.lastLoop? } →
      after first.recording.statements.size final)
    (refused : (∀ block, ¬Ready first block) → ∀ error final, first.Intact final →
      failed error final) :
    Ensures first.Untouched (record addition) after failed := by
  intro recorder untouched
  obtain ⟨⟨recording, groups, layouts, kernels, compiled⟩, supply, builder, next, log⟩ := recorder
  obtain ⟨rfl, rfl⟩ := untouched
  obtain ⟨kind, brings⟩ := added.brings first.recording
  by_cases ready : ∃ block, Ready first block
  · obtain ⟨block, guard, rest, scopes, scope⟩ := ready
    obtain ⟨_, adds⟩ := added.adds first.recording
    have adds : first.recording.Adds kind (addition first.recording) :=
      ⟨adds.number, brings.extended, adds.made, brings.statement⟩
    have run := @record_run ⟨⟨_, groups, layouts, kernels, compiled⟩, supply, _, next, log⟩
      guard rest block scopes scope addition kind adds
    rw [run]
    exact records kind block _ ⟨guard, rest, scopes, scope⟩ brings rfl rfl
  · have unready : ∀ block, ¬Ready first block := not_exists.mp ready
    obtain ⟨error, final, run, sameBuilder, sameRecording⟩ :=
      @record_refused ⟨⟨_, groups, layouts, kernels, compiled⟩, supply, _, next, log⟩ addition
        unready
    rw [run]
    refine refused unready error final ⟨sameBuilder, ?_⟩
    rcases sameRecording with same | same
    · rw [same]
      exact .refl _
    · rw [same]
      exact brings.intact

theorem record_atomic {addition : Recording → Nat × Recording}
    (added : Recording.Addition addition) : Atomic first (record addition) :=
  record_ensures added (fun _ _ _ _ _ _ _ => trivial) fun _ _ _ => id

/-- In the scope of a block, recording does not fail. -/
theorem record_ready {addition : Recording → Nat × Recording}
    (added : Recording.Addition addition) {block : Nat} (ready : Ready first block)
    {failed : Error → Recorder → Prop} :
    Ensures first.Untouched (record addition) (fun _ _ => True) failed :=
  record_ensures added (fun _ _ _ _ _ _ _ => trivial) fun unready =>
    (unready block ready).elim

section Operations

variable {failed : Error → Recorder → Prop}

/-- A variable is declared in a block. -/
structure Declares (before after : Recorder) (block : Nat) : Prop where
  builder : after.builder = before.builder
  recording : ∃ declared identifier, before.recording.Gains after.recording block declared ∧
    (after.recording.statement declared).kind = .alloca identifier .unknown

theorem Ready.known (housed : first.stage.Housed) {block : Nat} (ready : Ready first block) :
    block < first.recording.blocks.size := by
  obtain ⟨guard, rest, scopes, scope⟩ := ready
  have present := housed guard (show guard ∈ first.builder.stack by simp [scopes])
  rw [scope] at present
  exact present

theorem alloca_ensures (housed : first.stage.Housed) (name? : Option String) :
    Ensures first.Untouched (alloca name?)
      (fun _ final => ∃ block, Ready first block ∧ Declares first final block)
      (fun _ => first.Intact) := by
  refine (build_prepares _).intact fun var => ?_
  refine Ensures.bind (record_ensures (.leaf rfl) ?_ fun _ _ _ => id) fun _ => .pure fun _ => id
  intro kind block final ready brings recording builder
  have made : kind = .alloca var.identifier .unknown := by
    have stated := brings.statement
    rw [Recording.statement_addStatement, if_pos rfl] at stated
    exact (congrArg Statement.kind stated).symm
  refine ⟨block, ready, ?_, _, var.identifier, recording ▸ brings.gains (ready.known housed), ?_⟩
  · rw [builder, made]
    rfl
  · rw [recording, Recording.kind_append, brings.statement, made]

/-- What becomes of an assignment depends on the recording of the statement. -/
theorem assign_ensures (target value : HostValue)
    (untouched : ∀ error state, first.Untouched state → failed error state)
    (records : ∀ target value,
      Ensures first.Untouched (record (·.addStatement (.assign target value)))
        (fun _ _ => True) failed) :
    Ensures first.Untouched (assign target value) (fun _ _ => True) failed :=
  (ask_prepares _).bind untouched fun _ => (build_prepares _).bind untouched fun _ => records _ _

theorem alloca_atomic (name? : Option String) : Atomic first (alloca name?) :=
  (build_prepares _).intact fun _ =>
    Ensures.bind (record_atomic (.leaf rfl)) fun _ => .pure fun _ _ => trivial

theorem assign_atomic (target value : HostValue) : Atomic first (assign target value) :=
  assign_ensures target value (fun _ _ => Recorder.Untouched.intact)
    fun _ _ => record_atomic (.leaf rfl)

/-- A variable that is refused its first value has been declared already. -/
theorem var_ensures (housed : first.stage.Housed) (value : HostValue) (name? : Option String) :
    Ensures first.Untouched (var value name?) (fun _ _ => True) (fun _ final =>
      first.Intact final ∨ ∃ block, Ready first block ∧ Declares first final block) := by
  refine Ensures.bind ((alloca_ensures housed name?).failing fun _ _ => .inl) fun declared => ?_
  rintro middle ⟨block, ready, declares⟩
  have stillReady : Ready middle block := by
    obtain ⟨guard, rest, scopes, scope⟩ := ready
    exact ⟨guard, rest, declares.builder ▸ scopes, scope⟩
  have assigned : Ensures middle.Untouched
      (do
        let _ ← assign (.expr (.identifier declared)) value
        return declared) (fun _ _ => True) (fun _ => middle.Untouched) :=
    Ensures.bind (assign_ensures _ _ (fun _ _ => id) fun _ _ => record_ready (.leaf rfl) stillReady)
      fun _ => .pure fun _ _ => trivial
  refine (assigned.failing fun _ final untouched => .inr ⟨block, ready, ?_, ?_⟩) middle ⟨rfl, rfl⟩
  · exact untouched.builder.trans declares.builder
  · rw [untouched.recording]
    exact declares.recording

theorem print_atomic (value label : HostValue) : Atomic first (print value label) :=
  (build_prepares _).intact fun _ => record_atomic (.leaf rfl)

theorem beginIf_atomic (condition : HostValue) : Atomic first (beginIf condition) :=
  (build_prepares _).intact fun _ => record_atomic (.branch _)

theorem enterBranch_atomic (branch : Branch) : Atomic first (enterBranch branch) := by
  refine last?_prepares.intact fun (block, last?) => .look fun recorder _ => ?_
  dsimp only
  split
  · split
    · exact (ask_prepares _).intact fun _ => throw_atomic _
    · exact ensures_of_ok fun recorder => ⟨_, _, rfl⟩
  · split
    · exact (ask_prepares _).intact fun _ => throw_atomic _
    · exact throw_atomic _

theorem enterBody_atomic : Atomic first enterBody := by
  refine last?_prepares.intact fun (block, last?) => .look fun recorder _ => ?_
  dsimp only
  split
  · exact ensures_of_ok fun recorder => ⟨_, _, rfl⟩
  · exact throw_atomic _

/-- The last statement of the innermost block is a loop, whose body can be
entered. -/
def Enterable (recorder : Recorder) : Prop :=
  ∃ block last vars source body schedule, Ready recorder block ∧
    recorder.recording.last? block = some last ∧
      (recorder.recording.statement last).kind = .loop vars source body schedule

theorem enterBody_ensures :
    Ensures Enterable enterBody (fun _ _ => True) failed := by
  rintro recorder ⟨block, last, vars, source, body, schedule, ready, lastly, kind⟩
  have entered : ∃ guard final, enterBody.run.run recorder = (.ok guard, final) := by
    rw [enterBody, run_run_bind, last?_run ready, lastly]
    dsimp only
    rw [run_get_bind, Option.map_some, kind]
    exact ⟨_, _, rfl⟩
  obtain ⟨guard, final, run⟩ := entered
  rw [run]
  trivial

/-- A loop that is recorded can be entered. -/
theorem loop_ensures (housed : first.stage.Housed) (vars : List Variable) (source : LoopSource) :
    Ensures first.Untouched (record (·.addLoop vars source)) (fun _ => Enterable)
      (fun _ => first.Intact) := by
  refine record_ensures (.loop vars source) ?_ fun _ _ _ => id
  intro kind block final ready brings recording builder
  have made : kind = .loop vars source first.recording.blocks.size .empty := by
    have stated := brings.statement
    rw [(Recording.adds_addLoop first.recording vars source).statement] at stated
    exact (congrArg Statement.kind stated).symm
  have lastly : final.recording.last? block = some first.recording.statements.size := by
    rw [Recording.last?, recording, (brings.gains (ready.known housed)).gained,
      List.getLast?_concat]
  have entered : (final.recording.statement first.recording.statements.size).kind = kind := by
    rw [recording, Recording.kind_append, brings.statement]
  obtain ⟨guard, rest, scopes, scope⟩ := ready
  refine ⟨block, _, vars, source, _, _, ⟨guard, rest, ?_, scope⟩, lastly, entered.trans made⟩
  rw [builder]
  exact scopes

theorem beginRange_ensures {after : Nat → Recorder → Prop} (counter start last : HostValue)
    (records : ∀ vars source, Ensures first.Untouched (record (·.addLoop vars source)) after
      fun _ => first.Intact) :
    Ensures first.Untouched (beginRange counter start last) after fun _ => first.Intact :=
  (build_prepares _).intact fun _ => (build_prepares _).intact fun _ =>
    (ask_prepares _).intact fun _ => records _ _

theorem beginElements_ensures {after : Nat → Recorder → Prop} (vars field : HostValue)
    (records : ∀ vars source, Ensures first.Untouched (record (·.addLoop vars source)) after
      fun _ => first.Intact) :
    Ensures first.Untouched (beginElements vars field) after fun _ => first.Intact := by
  refine (build_prepares _).intact fun group => ?_
  split
  · exact thrown_intact
  refine (ask_prepares _).intact fun declared => (ask_prepares _).intact fun vars => ?_
  refine .look fun recorder _ => ?_
  split
  · exact records _ _
  · dsimp only
    split
    · exact thrown_intact
    · exact records _ _

theorem openRange_atomic (housed : first.stage.Housed) (counter start last : HostValue) :
    Atomic first (openRange counter start last) :=
  (beginRange_ensures _ _ _ (loop_ensures housed)).bind fun _ => enterBody_ensures

theorem openElements_atomic (housed : first.stage.Housed) (vars field : HostValue) :
    Atomic first (openElements vars field) :=
  (beginElements_ensures _ _ (loop_ensures housed)).bind fun _ => enterBody_ensures

theorem hint_atomic (kind : HintKind) (value : HostValue) : Atomic first (hint kind value) := by
  refine .look fun recorder _ => ?_
  split
  · exact throw_atomic _
  · exact (ask_prepares _).intact fun _ => ensures_of_ok fun recorder => ⟨_, _, rfl⟩

/-- A scope that is open for no block is dropped before it is asked for it. -/
structure Drops (before after : Recorder) (floor : Nat) : Prop where
  scope : ∃ guard, before.builder.stack = guard :: after.builder.stack ∧
    ∀ block, guard.scope ≠ .block block
  floor : after.builder.floor = floor
  lastLoop? : after.builder.lastLoop? = before.builder.lastLoop?
  recording : after.recording = before.recording

/-- A scope that may be closed is closed, and the only thing that can be wrong
with it is that it is open for no block. -/
theorem popScope_ensures {guard : Guard} {rest : List Guard}
    (scopes : recorder.builder.stack = guard :: rest)
    (above : recorder.builder.floor < rest.length + 1) :
    Ensures (· = recorder) popScope (fun _ _ => True)
      (fun _ final => Drops recorder final recorder.builder.floor) := by
  refine .look fun state here => ?_
  subst state
  have low : ¬(guard :: rest).length ≤ recorder.builder.floor := by simpa using above
  simp only [scopes, if_neg low]
  cases scope : guard.scope with
  | block block =>
      refine ensures_of_ok fun state => ?_
      change ∃ result final, (do
          closeBranch block
          report _
          return (HostValue.block block) : Record HostValue).run.run
            { state with builder := { state.builder with stack := rest } } = (.ok result, final)
      rw [run_run_bind, closeBranch_run]
      exact ⟨_, _, rfl⟩
  | _ =>
      intro state here
      subst state
      exact ⟨⟨guard, scopes, by simp [scope]⟩, rfl, rfl, rfl⟩

theorem popScope_fails :
    Ensures (· = recorder) popScope (fun _ _ => True)
      (fun _ final => recorder.Intact final ∨ Drops recorder final recorder.builder.floor) := by
  cases scopes : recorder.builder.stack with
  | nil =>
      intro state here
      subst state
      rw [popScope, run_get_bind, scopes]
      exact .inl ⟨rfl, .refl _⟩
  | cons guard rest =>
      by_cases low : (guard :: rest).length ≤ recorder.builder.floor
      · intro state here
        subst state
        rw [popScope, run_get_bind]
        simp only [scopes, if_pos low]
        exact .inl ⟨rfl, .refl _⟩
      · exact (popScope_ensures scopes (by simpa using low)).failing fun _ _ => .inr

theorem exitRoot_fails :
    Ensures (· = recorder) exitRoot (fun _ _ => True)
      (fun _ final => recorder.Intact final ∨ Drops recorder final 0) := by
  by_cases single : recorder.builder.depth = 1
  · obtain ⟨guard, scopes⟩ := List.length_eq_one_iff.mp single
    intro state here
    subst state
    rw [exitRoot, run_get_bind, if_neg (by simpa using single)]
    have closes := @popScope_ensures
      { recorder with builder := { recorder.builder with floor := 0 } } guard [] scopes
      Nat.zero_lt_one
    exact (closes.failing fun _ final drops => .inr
      ⟨drops.scope, drops.floor, drops.lastLoop?, drops.recording⟩) _ rfl
  · intro state here
    subst state
    rw [exitRoot, run_get_bind, if_pos single]
    exact .inl ⟨rfl, .refl _⟩

theorem leave_fails (guard : Guard) (failed : Bool) :
    Ensures (· = recorder) (leave guard failed) (fun _ _ => True)
      (fun _ final => recorder.Intact final ∨ Drops recorder final recorder.builder.floor) := by
  refine .look fun state here => ?_
  subst state
  split
  · exact Ensures.bind popScope_fails fun _ => .pure fun _ _ => trivial
  · split
    · refine .throw fun state here => ?_
      subst state
      exact .inl ⟨rfl, .refl _⟩
    · exact .pure fun _ _ => trivial

theorem enterRoot_atomic (scope : HostValue) : Atomic first (enterRoot scope) := by
  intro state untouched
  by_cases alone : state.builder.stack = []
  · obtain ⟨final, run, _⟩ := enterRoot_run scope alone
    rw [run]
    trivial
  · rw [enterRoot_refused alone]
    exact untouched.intact

theorem addTo_atomic (addition : Recording → Nat × Recording) : Atomic first (addTo addition) :=
  ensures_of_ok fun _ => ⟨_, _, rfl⟩

theorem newAssign_atomic (target value : HostValue) : Atomic first (newAssign target value) := by
  refine (build_prepares _).intact fun value => (ask_prepares _).intact fun target => ?_
  split
  · exact addTo_atomic _
  · exact thrown_intact

theorem newStore_atomic (place value : HostValue) : Atomic first (newStore place value) := by
  rw [newStore.eq_def]
  split
  · exact (build_prepares _).intact fun _ => addTo_atomic _
  · exact (ask_prepares _).intact fun _ => throw_atomic _

theorem newAlloca_atomic (named : HostValue) (type? : Option HostValue) :
    Atomic first (newAlloca named type?) := by
  refine (ask_prepares _).intact fun identifier => ?_
  cases type? with
  | some type => exact (ask_prepares (Ask.dataType type)).intact fun _ => addTo_atomic _
  | none => exact addTo_atomic (·.addStatement (.alloca identifier .unknown))

end Operations

end Record

/-- What an operation leaves behind that fails half-way: a declaration without a
value, or a scope less. -/
inductive Operation.Slips (before after : Recorder) : Operation → Prop where
  | declares {value : HostValue} {name? : Option String} {block : Nat}
      (ready : Record.Ready before block) (declares : Record.Declares before after block) :
      Slips before after (.var value name?)
  | pops (drops : Record.Drops before after before.builder.floor) : Slips before after .popScope
  | leaves {guard : Guard} {failed : Bool}
      (drops : Record.Drops before after before.builder.floor) :
      Slips before after (.leave guard failed)
  | exits (drops : Record.Drops before after 0) : Slips before after .exitRoot

namespace Operation

variable {recorder : Recorder}

/-- An operation that fails leaves everything as it was or half-done. -/
theorem failed (housed : recorder.stage.Housed) (operation : Operation) :
    Ensures (· = recorder) operation.perform (fun _ _ => True)
      (fun _ final => recorder.Intact final ∨ operation.Slips recorder final) := by
  have atomic {α : Type} {attempt : Record α} {answer : α → HostValue}
      (atomic : Record.Atomic recorder attempt) :
      Ensures (· = recorder) (answer <$> attempt) (fun _ _ => True)
        (fun _ final => recorder.Intact final ∨ operation.Slips recorder final) := by
    intro state here
    subst state
    exact (Record.ensures_map atomic).failing (fun _ _ => .inl) recorder ⟨rfl, rfl⟩
  have sure {α : Type} {attempt : Record α} {answer : α → HostValue}
      (succeeds : ∀ recorder : Recorder, ∃ result final,
        attempt.run.run recorder = (.ok result, final)) :
      Ensures (· = recorder) (answer <$> attempt) (fun _ _ => True)
        (fun _ final => recorder.Intact final ∨ operation.Slips recorder final) :=
    atomic (Record.ensures_of_ok succeeds)
  cases operation with
  | build building =>
      intro state here
      subst state
      exact (Record.build_prepares _).atomic.failing (fun _ _ => .inl) recorder ⟨rfl, rfl⟩
  | createScope scope => exact sure fun _ => ⟨_, _, rfl⟩
  | popScope => exact Record.popScope_fails.failing fun _ _ => Or.imp_right .pops
  | enterRoot scope => exact atomic (Record.enterRoot_atomic scope)
  | exitRoot => exact Record.exitRoot_fails.failing fun _ _ => Or.imp_right .exits
  | reset => exact sure fun _ => ⟨_, _, rfl⟩
  | leave guard failed =>
      exact (Record.ensures_map (Record.leave_fails guard failed)).failing
        fun _ _ => Or.imp_right .leaves
  | insert statement => exact atomic (Record.insert_atomic statement)
  | insertInto block statement => exact atomic (Record.insertInto_atomic block statement)
  | alloca name? => exact atomic (Record.alloca_atomic name?)
  | assign target value => exact atomic (Record.assign_atomic target value)
  | var value name? =>
      intro state here
      subst state
      refine (Record.ensures_map (Record.var_ensures housed value name?)).failing
        (fun _ _ => Or.imp_right ?_) recorder ⟨rfl, rfl⟩
      rintro ⟨block, ready, declares⟩
      exact .declares ready declares
  | print value label => exact atomic (Record.print_atomic value label)
  | beginIf condition => exact atomic (Record.beginIf_atomic condition)
  | enterBranch branch => exact atomic (Record.enterBranch_atomic branch)
  | beginRange counter first last =>
      exact atomic (Record.beginRange_ensures _ _ _ fun _ _ => Record.record_atomic (.loop _ _))
  | beginElements vars field =>
      exact atomic (Record.beginElements_ensures _ _ fun _ _ => Record.record_atomic (.loop _ _))
  | enterBody => exact atomic Record.enterBody_atomic
  | openRange counter first last => exact atomic (Record.openRange_atomic housed counter first last)
  | openElements vars field => exact atomic (Record.openElements_atomic housed vars field)
  | hint kind value => exact atomic (Record.hint_atomic kind value)
  | newBlock label => exact sure fun _ => ⟨_, _, rfl⟩
  | newAssign target value => exact atomic (Record.newAssign_atomic target value)
  | newStore place value => exact atomic (Record.newStore_atomic place value)
  | newLoad place => exact atomic ((Record.ask_prepares _).intact fun _ => Record.addTo_atomic _)
  | newAlloca named type? => exact atomic (Record.newAlloca_atomic named type?)
  | newPrint value label => exact sure fun _ => ⟨_, _, rfl⟩
  | newBranch condition => exact sure fun _ => ⟨_, _, rfl⟩
  | newRange counter first last =>
      exact atomic ((Record.build_prepares _).intact fun _ => (Record.build_prepares _).intact
        fun _ => (Record.ask_prepares _).intact fun _ => Record.addTo_atomic _)
  | newElements vars field =>
      exact atomic ((Record.ask_prepares _).intact fun _ => (Record.ask_prepares _).intact
        fun _ => (Record.ask_prepares _).intact fun _ => Record.addTo_atomic _)
  | newBare => exact sure fun _ => ⟨_, _, rfl⟩
  | locate statement location => exact sure fun _ => ⟨_, _, rfl⟩
  | setHint loop kind value => exact sure fun _ => ⟨_, _, rfl⟩

end Operation

namespace Workbench

/-- An operation on a builder that fails leaves the scopes, the blocks, the marks
and the hints as they were.  What else it can leave behind is a declaration
whose value was refused, or one scope less that was open for no block. -/
theorem failed_intact {bench : Workbench} (reached : bench.Reached) (builder : Nat)
    {operation : Operation} {error : Error} {final : Recorder}
    (fails : operation.perform.run.run (bench.recorder builder) = (.error error, final)) :
    (bench.recorder builder).Intact final ∨
      operation.Slips (bench.recorder builder) final := by
  have ends := operation.failed (reached.housed.2 builder) (bench.recorder builder) rfl
  rw [fails] at ends
  exact ends

end Workbench

namespace Valueless

/-- One builder has opened the scope of a block. -/
def bench : Workbench :=
  let start : Workbench :=
    ⟨fun _ => .empty, ⟨⟨.empty, #[], #[], #[], #[]⟩, ⟨0, 0⟩, .empty, 0, #[]⟩⟩
  (start.after 0 (.newBlock "body")).after 0 (.enterRoot (.block 0))

theorem reached : bench.Reached := by
  refine .perform (.perform (.start (fun _ => rfl) rfl) 0 (.newBlock "body") ?_) 0
    (.enterRoot (.block 0)) ?_
  · exact nofun
  · intro value member
    rw [List.mem_singleton.mp member]
    exact Nat.zero_lt_one

/-- An assignment to what is no place fails. -/
theorem assignment_intact :
    bench.Reached ∧ ∃ error final,
      (Operation.assign .none .none).perform.run.run (bench.recorder 0) = (.error error, final) ∧
        ((bench.recorder 0).Intact final ∨
          (Operation.assign .none .none).Slips (bench.recorder 0) final) :=
  ⟨reached, _, _, rfl, Workbench.failed_intact reached 0 rfl⟩

/-- A variable without a value fails, and is declared. -/
theorem declared_anyway :
    bench.Reached ∧ ∃ error final,
      (Operation.var .none none).perform.run.run (bench.recorder 0) = (.error error, final) ∧
        ((bench.recorder 0).recording.block 0).statements = [] ∧
        (final.recording.block 0).statements = [0] ∧ ¬(bench.recorder 0).Intact final := by
  refine ⟨reached, _, _, rfl, rfl, rfl, fun intact => ?_⟩
  exact nomatch intact.recording.statements 0

end Valueless

end FieldKernel
