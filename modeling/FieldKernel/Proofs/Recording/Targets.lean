import FieldKernel.Proofs.Recording.Failures

/-!
# The loop that hints go to

A hint goes to the loop that a builder has recorded last, wherever the scopes
have gone since.  Most operations neither change a schedule nor put a loop into a
block.  One that records a loop makes it the target, the beginning of a
definition and a reset leave no target, and a hint changes the schedule of the
target alone.
-/

namespace FieldKernel

/-- The schedule of a loop. -/
def StatementKind.schedule? : StatementKind → Option Schedule
  | .loop _ _ _ schedule => some schedule
  | _ => none

namespace Recording

theorem schedule?_eq (recording : Recording) (statement : Nat) :
    recording.schedule? statement = (recording.statement statement).kind.schedule? := by
  rw [Recording.schedule?]
  cases (recording.statement statement).kind <;> rfl

theorem isSome_schedule? (recording : Recording) (statement : Nat) :
    (recording.schedule? statement).isSome = (recording.statement statement).kind.isLoop := by
  rw [schedule?_eq]
  cases (recording.statement statement).kind <;> rfl

/-- Statements stay in their blocks, and loops remain loops. -/
structure Continues (before after : Recording) : Prop where
  held {statement : Nat} (held : (before.statement statement).parent?.isSome) :
    (after.statement statement).parent?.isSome
  looped {statement : Nat} (looped : (before.schedule? statement).isSome) :
    (after.schedule? statement).isSome

/-- Statements stay in their blocks and keep their schedules, and a new loop has
no hints. -/
structure Unhinted (before after : Recording) : Prop where
  size : before.statements.size ≤ after.statements.size
  held {statement : Nat} (held : (before.statement statement).parent?.isSome) :
    (after.statement statement).parent?.isSome
  kept {statement : Nat} (known : statement < before.statements.size) :
    after.schedule? statement = before.schedule? statement
  new {statement : Nat} {schedule : Schedule} (new : before.statements.size ≤ statement)
    (found : after.schedule? statement = some schedule) : schedule = .empty

/-- A loop is put into a block. -/
structure Enters (before after : Recording) (loop : Nat) : Prop where
  looped : (after.schedule? loop).isSome
  free : (before.statement loop).parent? = none
  held : (after.statement loop).parent?.isSome

/-- Besides, no loop is put into a block. -/
structure Still (before after : Recording) : Prop where
  unhinted : before.Unhinted after
  unentered (loop : Nat) : ¬before.Enters after loop

variable {before middle after recording : Recording}

theorem Continues.refl (recording : Recording) : recording.Continues recording :=
  ⟨id, id⟩

theorem Continues.trans (first : before.Continues middle) (second : middle.Continues after) :
    before.Continues after :=
  ⟨second.held ∘ first.held, second.looped ∘ first.looped⟩

theorem Unhinted.continues (unhinted : before.Unhinted after) : before.Continues after where
  held := unhinted.held
  looped looped := by
    obtain ⟨schedule, found⟩ := Option.isSome_iff_exists.mp looped
    rwa [unhinted.kept (lt_of_schedule? found)]

theorem Unhinted.refl (recording : Recording) : recording.Unhinted recording where
  size := le_rfl
  held := id
  kept _ := rfl
  new new found := absurd (lt_of_schedule? found) (Nat.not_lt_of_le new)

theorem Unhinted.trans (first : before.Unhinted middle) (second : middle.Unhinted after) :
    before.Unhinted after where
  size := first.size.trans second.size
  held := second.held ∘ first.held
  kept known := (second.kept (known.trans_le first.size)).trans (first.kept known)
  new {statement schedule} new found := by
    rcases Nat.lt_or_ge statement middle.statements.size with known | beyond
    · exact first.new new ((second.kept known).symm.trans found)
    · exact second.new beyond found

/-- A loop that enters a block does so at one of two changes. -/
theorem Enters.split (second : middle.Unhinted after) {loop : Nat}
    (enters : before.Enters after loop) : before.Enters middle loop ∨ middle.Enters after loop := by
  cases held : (middle.statement loop).parent? with
  | none => exact .inr ⟨enters.looped, held, enters.held⟩
  | some parent =>
      left
      refine ⟨?_, enters.free, by rw [held]; rfl⟩
      rw [← second.kept (lt_of_parent held)]
      exact enters.looped

theorem Enters.earlier (first : before.Continues middle) {loop : Nat}
    (enters : middle.Enters after loop) : before.Enters after loop := by
  refine ⟨enters.looped, ?_, enters.held⟩
  by_contra held
  have still := first.held (Option.isSome_iff_ne_none.mpr held)
  rw [enters.free] at still
  cases still

theorem Enters.later (second : middle.Continues after) {loop : Nat}
    (enters : before.Enters middle loop) : before.Enters after loop :=
  ⟨second.looped enters.looped, enters.free, second.held enters.held⟩

theorem Still.refl (recording : Recording) : recording.Still recording where
  unhinted := .refl recording
  unentered loop enters := by
    have held := enters.held
    rw [enters.free] at held
    cases held

theorem Still.trans (first : before.Still middle) (second : middle.Still after) :
    before.Still after where
  unhinted := first.unhinted.trans second.unhinted
  unentered loop enters := by
    rcases enters.split second.unhinted with early | late
    · exact first.unentered loop early
    · exact second.unentered loop late

/-- What changes neither blocks that statements are in nor schedules. -/
theorem still_of_same (size : after.statements.size = before.statements.size)
    (parents : ∀ statement,
      (after.statement statement).parent? = (before.statement statement).parent?)
    (schedules : ∀ statement, after.schedule? statement = before.schedule? statement) :
    before.Still after where
  unhinted :=
    { size := size.ge
      held := fun {statement} held => by rwa [parents]
      kept := fun _ => schedules _
      new := fun {statement schedule} new found => by
        rw [schedules] at found
        exact absurd (lt_of_schedule? found) (Nat.not_lt_of_le new) }
  unentered loop enters := by
    have held := enters.held
    rw [parents, enters.free] at held
    cases held

theorem still_addBlock (owner? : Option Nat) (label : String) :
    recording.Still (recording.addBlock owner? label).2 :=
  still_of_same rfl (fun _ => rfl) fun _ => rfl

theorem still_modifyStatement (id : Nat) {change : Statement → Statement}
    (parents : ∀ entry, (change entry).parent? = entry.parent?)
    (schedules : ∀ entry, (change entry).kind.schedule? = entry.kind.schedule?) :
    recording.Still (recording.modifyStatement id change) := by
  refine still_of_same (by simp [modifyStatement]) (parent?_modifyStatement id parents)
    fun statement => ?_
  rw [schedule?_eq, schedule?_eq]
  simp only [modifyStatement, Recording.statement, Array.getElem?_modify]
  split
  · cases recording.statements[statement]? with
    | none => rfl
    | some entry => exact schedules entry
  · rfl

/-- Nothing but the schedules of loops is changed by a hint. -/
theorem schedule?_setHint (id : Nat) (kind : HintKind) (value : HintValue) (statement : Nat) :
    (recording.setHint id kind value).schedule? statement =
      if statement = id then (recording.schedule? statement).map (·.set kind value)
      else recording.schedule? statement := by
  rw [schedule?_eq, schedule?_eq]
  simp only [setHint, modifyKind, modifyStatement, Recording.statement, Array.getElem?_modify]
  by_cases here : id = statement
  · rw [if_pos here, if_pos here.symm]
    cases recording.statements[statement]? with
    | none => rfl
    | some entry =>
        obtain ⟨made, parent?, location?⟩ := entry
        cases made <;> rfl
  · rw [if_neg here, if_neg (Ne.symm here)]

theorem parent?_setHint (id : Nat) (kind : HintKind) (value : HintValue) (statement : Nat) :
    ((recording.setHint id kind value).statement statement).parent? =
      (recording.statement statement).parent? := by
  refine parent?_modifyStatement id ?_ statement
  exact fun _ => rfl

theorem continues_setHint (id : Nat) (kind : HintKind) (value : HintValue) :
    recording.Continues (recording.setHint id kind value) where
  held held := by rwa [parent?_setHint]
  looped looped := by
    rw [schedule?_setHint]
    split
    · rwa [Option.isSome_map]
    · exact looped

theorem still_markOpen (owner : Nat) (mark : Option Branch) :
    recording.Still (recording.markOpen owner mark) := by
  refine still_modifyStatement owner (fun _ => rfl) fun entry => ?_
  dsimp only
  cases entry.kind <;> rfl

theorem still_closed (scope : HostValue) : recording.Still (recording.closed scope) := by
  rcases recording.closed_cases scope with same | ⟨owner, same⟩
  · rw [same]
    exact .refl recording
  · rw [same]
    exact still_markOpen owner none

/-- A loop begins without hints. -/
theorem Addition.plain {addition : Recording → Nat × Recording} (added : Addition addition)
    {kind : StatementKind} (adds : recording.Adds kind (addition recording)) {schedule : Schedule}
    (looped : kind.schedule? = some schedule) : schedule = .empty := by
  have stated := congrArg Statement.kind adds.statement
  cases added with
  | @leaf made empty =>
      rw [(adds_addStatement recording made).statement] at stated
      subst stated
      cases made with
      | loop => cases empty
      | _ => cases looped
  | branch condition =>
      rw [(adds_addBranch recording condition).statement] at stated
      subst stated
      cases looped
  | loop vars source =>
      rw [(adds_addLoop recording vars source).statement] at stated
      subst stated
      exact (Option.some.inj looped).symm

/-- A new statement is in no block. -/
theorem Addition.still {addition : Recording → Nat × Recording} (added : Addition addition) :
    recording.Still (addition recording).2 := by
  obtain ⟨kind, brings⟩ := added.brings recording
  obtain ⟨_, adds⟩ := added.adds recording
  have adds : recording.Adds kind (addition recording) :=
    ⟨adds.number, brings.extended, adds.made, brings.statement⟩
  constructor
  case unhinted =>
      refine ⟨brings.extended.statements_le, fun {statement} held => ?_,
        fun {statement} known => ?_, fun {statement schedule} new found => ?_⟩
      · obtain ⟨parent, held⟩ := Option.isSome_iff_exists.mp held
        rw [brings.extended.statement (lt_of_parent held), held]
        rfl
      · rw [schedule?_eq, brings.extended.statement known, schedule?_eq]
      · rcases brings.cases statement with same | ⟨rfl, made⟩
        · rw [schedule?_eq, same, ← schedule?_eq] at found
          exact absurd (lt_of_schedule? found) (Nat.not_lt_of_le new)
        · rw [schedule?_eq, made] at found
          exact added.plain adds found
  case unentered =>
      intro loop enters
      have held := enters.held
      rcases brings.cases loop with same | ⟨rfl, made⟩
      · rw [same, enters.free] at held
        cases held
      · rw [made] at held
        cases held

theorem schedule?_append (block member statement : Nat) :
    (recording.append block member).schedule? statement = recording.schedule? statement := by
  rw [schedule?_eq, kind_append, ← schedule?_eq]

section Append

variable (block : Nat) {member : Nat} (free : (recording.statement member).parent? = none)

include free

theorem unhinted_append : recording.Unhinted (recording.append block member) where
  size := (statements_size_append block member).ge
  held {statement} held := by
    rw [statement_append_of_ne]
    · exact held
    · rintro rfl
      rw [free] at held
      cases held
  kept _ := schedule?_append block member _
  new new found := by
    rw [schedule?_append] at found
    exact absurd (lt_of_schedule? found) (Nat.not_lt_of_le new)

omit free in
theorem eq_of_enters_append {loop : Nat}
    (enters : recording.Enters (recording.append block member) loop) : loop = member := by
  by_contra different
  have held := enters.held
  rw [statement_append_of_ne _ different, enters.free] at held
  cases held

/-- A loop enters the block that it is put into. -/
theorem enters_append (looped : (recording.statement member).kind.isLoop) :
    recording.Enters (recording.append block member) member := by
  have found : (recording.schedule? member).isSome := by rwa [isSome_schedule?]
  obtain ⟨schedule, found'⟩ := Option.isSome_iff_exists.mp found
  refine ⟨by rwa [schedule?_append], free, ?_⟩
  rw [statement_append_self block (lt_of_schedule? found')]
  rfl

/-- A statement that is no loop enters its block unnoticed. -/
theorem still_append (plain : (recording.statement member).kind.isLoop = false) :
    recording.Still (recording.append block member) where
  unhinted := unhinted_append block free
  unentered loop enters := by
    have looped := enters.looped
    rw [schedule?_append, isSome_schedule?, eq_of_enters_append block enters, plain] at looped
    cases looped

end Append

end Recording

namespace Recorder

variable {before middle after : Recorder}

/-- The target stays, no schedule changes, and no loop is put into a block. -/
structure Still (before after : Recorder) : Prop where
  target : after.builder.lastLoop? = before.builder.lastLoop?
  recording : before.recording.Still after.recording

/-- One loop is put into a block and becomes the target; no schedule changes. -/
structure Enters (before after : Recorder) (loop : Nat) : Prop where
  target : after.builder.lastLoop? = some loop
  unhinted : before.recording.Unhinted after.recording
  enters : before.recording.Enters after.recording loop
  only {other : Nat} (enters : before.recording.Enters after.recording other) : other = loop

/-- A loop is recorded, or none is. -/
inductive Shifts (before after : Recorder) : Prop where
  | still (still : before.Still after)
  | enters (loop : Nat) (enters : before.Enters after loop)

theorem Still.refl (recorder : Recorder) : recorder.Still recorder :=
  ⟨rfl, .refl _⟩

theorem Still.trans (first : before.Still middle) (second : middle.Still after) :
    before.Still after :=
  ⟨second.target.trans first.target, first.recording.trans second.recording⟩

theorem Still.enters {loop : Nat} (first : before.Still middle)
    (second : middle.Enters after loop) : before.Enters after loop where
  target := second.target
  unhinted := first.recording.unhinted.trans second.unhinted
  enters := second.enters.earlier first.recording.unhinted.continues
  only enters := (enters.split second.unhinted).elim
    (fun early => (first.recording.unentered _ early).elim) second.only

theorem Enters.still {loop : Nat} (first : before.Enters middle loop)
    (second : middle.Still after) : before.Enters after loop where
  target := second.target.trans first.target
  unhinted := first.unhinted.trans second.recording.unhinted
  enters := first.enters.later second.recording.unhinted.continues
  only enters := (enters.split second.recording.unhinted).elim first.only
    fun late => (second.recording.unentered _ late).elim

theorem Still.shifts (first : before.Still middle) (second : middle.Shifts after) :
    before.Shifts after := by
  cases second with
  | still still => exact .still (first.trans still)
  | enters loop enters => exact .enters loop (first.enters enters)

theorem Shifts.trans_still (first : before.Shifts middle) (second : middle.Still after) :
    before.Shifts after := by
  cases first with
  | still still => exact .still (still.trans second)
  | enters loop enters => exact .enters loop (enters.still second)

end Recorder

namespace Record

variable {α β : Type} {recorder : Recorder}

/-- What an attempt leaves behind is related to what it works on, also if it
fails. -/
def Relates (relation : Recorder → Recorder → Prop) (attempt : Record α) : Prop :=
  ∀ recorder, relation recorder (attempt.run.run recorder).2

/-- An attempt records no loop and changes no hint. -/
abbrev Settles (attempt : Record α) : Prop :=
  Relates Recorder.Still attempt

section Rules

theorem Relates.bind {first second whole : Recorder → Recorder → Prop} {attempt : Record α}
    {next : α → Record β} (one : Relates first attempt)
    (two : ∀ result, Relates second (next result))
    (fails : ∀ {before after}, first before after → whole before after)
    (goes : ∀ {before middle after}, first before middle → second middle after →
      whole before after) : Relates whole (attempt >>= next) := by
  intro recorder
  have reaches := one recorder
  rw [run_run_bind]
  revert reaches
  rcases attempt.run.run recorder with ⟨error | result, middle⟩
  · exact fails
  · exact fun reaches => goes reaches (two result middle)

theorem Relates.map {relation : Recorder → Recorder → Prop} {attempt : Record α}
    (relates : Relates relation attempt) (change : α → β) :
    Relates relation (change <$> attempt) := by
  intro recorder
  rw [run_run_map]
  exact relates recorder

theorem Relates.get {relation : Recorder → Recorder → Prop} {next : Recorder → Record α}
    (relates : ∀ state, Relates relation (next state)) : Relates relation (get >>= next) :=
  fun recorder => relates recorder recorder

theorem Settles.bind {attempt : Record α} {next : α → Record β} (one : Settles attempt)
    (two : ∀ result, Settles (next result)) : Settles (attempt >>= next) :=
  Relates.bind one two id .trans

theorem Settles.shifts {attempt : Record α} {next : α → Record β} (one : Settles attempt)
    (two : ∀ result, Relates Recorder.Shifts (next result)) :
    Relates Recorder.Shifts (attempt >>= next) :=
  Relates.bind one two .still Recorder.Still.shifts

theorem settles_pure (result : α) : Settles (pure result) :=
  fun recorder => .refl recorder

theorem settles_throw (error : Error) : Settles (throw error : Record α) :=
  fun recorder => .refl recorder

/-- What follows on an error does not matter. -/
theorem settles_thrown {error : Error} {next : α → Record β} :
    Settles ((MonadExcept.throw error : Record α) >>= next) :=
  fun recorder => .refl recorder

theorem settles_build (attempt : Build α) : Settles (build attempt) :=
  fun _ => ⟨rfl, .refl _⟩

theorem settles_ask (question : Ask α) : Settles (liftM question : Record α) :=
  fun recorder => .refl recorder

theorem settles_report (message : Except HostFault String) : Settles (report message) :=
  fun _ => ⟨rfl, .refl _⟩

/-- The scopes of a builder are not what its target depends on. -/
theorem settles_modifyBuilder {change : Builder → Builder}
    (target : ∀ builder, (change builder).lastLoop? = builder.lastLoop?) :
    Settles (modifyBuilder change) :=
  fun _ => ⟨target _, .refl _⟩

theorem settles_modifyRecording {change : Recording → Recording}
    (still : ∀ recording : Recording, recording.Still (change recording)) :
    Settles (modifyRecording change) :=
  fun _ => ⟨rfl, still _⟩

theorem settles_addTo {addition : Recording → Nat × Recording}
    (still : ∀ recording : Recording, recording.Still (addition recording).2) :
    Settles (addTo addition) :=
  fun _ => ⟨rfl, still _⟩

end Rules

section Scopes

theorem settles_currentScope : Settles currentScope := by
  refine .get fun state => ?_
  split
  · exact settles_pure _
  · exact settles_throw _

theorem settles_last? : Settles last? :=
  settles_currentScope.bind fun _ => (settles_ask _).bind fun _ => .get fun _ => settles_pure _

theorem settles_createScope (scope : HostValue) : Settles (createScope scope) :=
  fun _ => ⟨rfl, .refl _⟩

theorem settles_closeBranch (block : Nat) : Settles (closeBranch block) := by
  intro recorder
  rw [closeBranch_run]
  exact ⟨rfl, Recording.still_closed (.block block)⟩

theorem settles_popScope : Settles popScope := by
  refine .get fun state => ?_
  split
  · exact settles_throw _
  · dsimp only
    split
    · exact settles_thrown
    · refine Settles.bind (settles_modifyBuilder ?_) fun _ => (settles_ask _).bind fun _ => ?_
      · exact fun _ => rfl
      · exact (settles_closeBranch _).bind fun _ => (settles_report _).bind fun _ => settles_pure _

theorem settles_exitRoot : Settles exitRoot := by
  refine .get fun state => ?_
  dsimp only
  split
  · exact settles_thrown
  · refine Settles.bind (settles_modifyBuilder ?_) fun _ => settles_popScope
    exact fun _ => rfl

theorem settles_leave (guard : Guard) (failed : Bool) : Settles (leave guard failed) := by
  refine .get fun state => ?_
  split
  · exact settles_popScope.bind fun _ => settles_pure _
  · split
    · exact settles_throw _
    · exact settles_pure _

theorem settles_enterBranch (branch : Branch) : Settles (enterBranch branch) := by
  refine settles_last?.bind fun (block, last?) => .get fun state => ?_
  dsimp only
  split
  · split
    · exact (settles_ask _).bind fun _ => settles_throw _
    · exact (settles_modifyRecording fun _ => Recording.still_markOpen _ _).bind fun _ =>
        settles_createScope _
  · split
    · exact (settles_ask _).bind fun _ => settles_throw _
    · exact settles_throw _

theorem settles_enterBody : Settles enterBody := by
  refine settles_last?.bind fun (block, last?) => .get fun state => ?_
  dsimp only
  split
  · exact settles_createScope _
  · exact settles_throw _

end Scopes

section Statements

/-- A statement is put into the block of the innermost scope, or nothing is done. -/
theorem insert_cases (recorder : Recorder) (statement : HostValue) :
    ((insert statement).run.run recorder).2 = recorder ∨
      ∃ block member, statement = .statement member ∧
        (recorder.recording.statement member).parent? = none ∧
        ((insert statement).run.run recorder).2 = { recorder with
          recording := recorder.recording.append block member
          builder := { recorder.builder with
            lastLoop? :=
              if (recorder.recording.statement member).kind.isLoop then some member
              else recorder.builder.lastLoop? } } := by
  by_cases ready : ∃ block, Ready recorder block
  · obtain ⟨block, guard, rest, scopes, scope⟩ := ready
    cases statement with
    | statement member =>
        cases held : (recorder.recording.statement member).parent? with
        | none =>
            refine .inr ⟨block, member, rfl, held, ?_⟩
            rw [insert_run scopes scope held]
        | some parent =>
            left
            rw [insert, run_run_bind, currentScope_run scopes, scope]
            dsimp only
            rw [run_run_bind, insertInto_held held]
    | _ =>
        left
        rw [insert, run_run_bind, currentScope_run scopes, scope]
        rfl
  · obtain ⟨error, refused⟩ := @insert_refused recorder statement (not_exists.mp ready)
    rw [refused]
    exact .inl rfl

theorem insert_shifts (statement : HostValue) : Relates Recorder.Shifts (insert statement) := by
  intro recorder
  rcases insert_cases recorder statement with same | ⟨block, member, -, free, ends⟩
  · rw [same]
    exact .still (.refl recorder)
  · rw [ends]
    by_cases looped : (recorder.recording.statement member).kind.isLoop
    · refine .enters member ⟨if_pos looped, Recording.unhinted_append block free,
        Recording.enters_append block free looped, ?_⟩
      exact Recording.eq_of_enters_append block
    · refine .still ⟨if_neg looped, Recording.still_append block free ?_⟩
      simpa using looped

theorem record_shifts {addition : Recording → Nat × Recording}
    (added : Recording.Addition addition) : Relates Recorder.Shifts (record addition) :=
  settles_currentScope.shifts fun _ =>
    (settles_addTo fun _ => added.still).shifts fun statement =>
      Relates.bind (insert_shifts (.statement statement)) (fun _ => settles_pure statement) id
        Recorder.Shifts.trans_still

/-- What is no loop is recorded without a change of the target. -/
theorem settles_record {addition : Recording → Nat × Recording}
    (added : Recording.Addition addition)
    (plain : ∀ recording : Recording, ∀ kind, recording.Adds kind (addition recording) →
      kind.isLoop = false) : Settles (record addition) := by
  intro recorder
  by_cases ready : ∃ block, Ready recorder block
  · obtain ⟨block, guard, rest, scopes, scope⟩ := ready
    obtain ⟨kind, adds⟩ := added.adds recorder.recording
    have straight := plain recorder.recording kind adds
    rw [record_run scopes scope adds]
    refine ⟨if_neg (by simp [straight]), added.still.trans (Recording.still_append block ?_ ?_)⟩
    · rw [adds.statement]
    · rw [adds.statement]
      exact straight
  · obtain ⟨error, final, run, builder, recording⟩ :=
      @record_refused recorder addition (not_exists.mp ready)
    rw [run]
    refine ⟨congrArg Builder.lastLoop? builder, ?_⟩
    rcases recording with same | added'
    · rw [same]
      exact .refl _
    · rw [added']
      exact added.still

theorem settles_leaf {kind : StatementKind} (empty : kind.inside = []) :
    Settles (record (·.addStatement kind)) := by
  refine settles_record (.leaf empty) fun recording other adds => ?_
  have stated := adds.statement
  rw [(recording.adds_addStatement kind).statement] at stated
  obtain rfl : kind = other := congrArg Statement.kind stated
  cases kind with
  | loop => cases empty
  | _ => rfl

theorem settles_alloca (name? : Option String) : Settles (alloca name?) :=
  (settles_build _).bind fun _ => (settles_leaf rfl).bind fun _ => settles_pure _

theorem settles_assign (target value : HostValue) : Settles (assign target value) :=
  (settles_ask _).bind fun _ => (settles_build _).bind fun _ => settles_leaf rfl

theorem settles_var (value : HostValue) (name? : Option String) : Settles (var value name?) :=
  (settles_alloca name?).bind fun _ => (settles_assign _ value).bind fun _ => settles_pure _

theorem settles_print (value label : HostValue) : Settles (print value label) :=
  (settles_build _).bind fun _ => settles_leaf rfl

theorem settles_beginIf (condition : HostValue) : Settles (beginIf condition) := by
  refine (settles_build _).bind fun condition => ?_
  refine settles_record (.branch (.expr condition)) fun recording kind adds => ?_
  have stated := adds.statement
  rw [(recording.adds_addBranch (.expr condition)).statement] at stated
  obtain rfl : _ = kind := congrArg Statement.kind stated
  rfl

theorem beginRange_shifts (counter first last : HostValue) :
    Relates Recorder.Shifts (beginRange counter first last) :=
  (settles_build _).shifts fun _ => (settles_build _).shifts fun _ =>
    (settles_ask _).shifts fun _ => record_shifts (.loop _ _)

theorem beginElements_shifts (vars field : HostValue) :
    Relates Recorder.Shifts (beginElements vars field) := by
  refine (settles_build _).shifts fun group => ?_
  split
  · exact fun recorder => .still (settles_thrown recorder)
  refine (settles_ask _).shifts fun declared => (settles_ask _).shifts fun vars =>
    .get fun state => ?_
  split
  · exact record_shifts (.loop _ _)
  · dsimp only
    split
    · exact fun recorder => .still (settles_thrown recorder)
    · exact record_shifts (.loop _ _)

theorem openRange_shifts (counter first last : HostValue) :
    Relates Recorder.Shifts (openRange counter first last) :=
  Relates.bind (beginRange_shifts counter first last) (fun _ => settles_enterBody) id
    Recorder.Shifts.trans_still

theorem openElements_shifts (vars field : HostValue) :
    Relates Recorder.Shifts (openElements vars field) :=
  Relates.bind (beginElements_shifts vars field) (fun _ => settles_enterBody) id
    Recorder.Shifts.trans_still

theorem settles_new {addition : Recording → Nat × Recording}
    (added : Recording.Addition addition) : Settles (addTo addition) :=
  settles_addTo fun _ => added.still

theorem settles_newAssign (target value : HostValue) : Settles (newAssign target value) := by
  refine (settles_build _).bind fun value => (settles_ask _).bind fun target => ?_
  split
  · exact settles_new (.leaf rfl)
  · exact settles_thrown

theorem settles_newStore (place value : HostValue) : Settles (newStore place value) := by
  rw [newStore.eq_def]
  split
  · exact (settles_build _).bind fun _ => settles_new (.leaf rfl)
  · exact (settles_ask _).bind fun _ => settles_throw _

theorem settles_newAlloca (named : HostValue) (type? : Option HostValue) :
    Settles (newAlloca named type?) := by
  refine (settles_ask _).bind fun identifier => ?_
  split
  · exact (settles_ask _).bind fun _ => settles_new (.leaf rfl)
  · exact settles_new (.leaf rfl)

end Statements

end Record

/-- An operation is not about definitions, hints or a block that is given. -/
def Operation.records : Operation → Bool
  | .enterRoot _ | .reset | .hint _ _ | .setHint _ _ _ | .insertInto _ _ => false
  | _ => true

/-- What an operation does to the target of hints and to schedules, with its
outcome. -/
inductive Recorder.Effect (before : Recorder) :
    Operation → Except Error HostValue × Recorder → Prop where
  | refused {operation : Operation} {error : Error} : Effect before operation (.error error, before)
  | records {operation : Operation} {ended : Except Error HostValue × Recorder}
      (records : operation.records) (shifts : before.Shifts ended.2) : Effect before operation ended
  /-- The scope of a definition is opened. -/
  | begins {scope answer : HostValue} {after : Recorder} (target : after.builder.lastLoop? = none)
      (recording : before.recording.Still after.recording) :
      Effect before (.enterRoot scope) (.ok answer, after)
  | resets {answer : HostValue} {after : Recorder} (target : after.builder.lastLoop? = none)
      (recording : before.recording.Still after.recording) :
      Effect before .reset (.ok answer, after)
  | hints {kind : HintKind} {value answer : HostValue} {loop : Nat} {said : HintValue}
      (target : before.builder.lastLoop? = some loop)
      (accepted : Record.hintValue kind value before.toObjects = .ok said) :
      Effect before (.hint kind value)
        (.ok answer, { before with recording := before.recording.setHint loop kind said })
  /-- Host code writes to a schedule, or puts a statement into a block, by hand. -/
  | sets {loop : Nat} {kind : HintKind} {said : HintValue} {answer : HostValue} :
      Effect before (.setHint loop kind said)
        (.ok answer, { before with recording := before.recording.setHint loop kind said })
  | inserts {block member : Nat} {answer : HostValue}
      (free : (before.recording.statement member).parent? = none) :
      Effect before (.insertInto (.block block) (.statement member))
        (.ok answer, { before with recording := before.recording.append block member })

namespace Record

variable {recorder : Recorder}

/-- A definition begins without a target. -/
theorem enterRoot_begins (scope : HostValue) (alone : recorder.builder.stack = []) :
    ∃ guard final, (enterRoot scope).run.run recorder = (.ok guard, final) ∧
      final.builder.lastLoop? = none ∧ final.recording = recorder.recording := by
  rw [enterRoot, run_get_bind, if_pos (by simp [alone])]
  exact ⟨_, _, rfl, rfl, rfl⟩

/-- A hint needs a target and a value that is accepted, and leaves everything as
it was without them. -/
theorem hint_cases (recorder : Recorder) (kind : HintKind) (value : HostValue) :
    (recorder.builder.lastLoop? = none ∧
        (hint kind value).run.run recorder = (.error (.scope (.noLoop kind.name)), recorder)) ∨
      ∃ loop, recorder.builder.lastLoop? = some loop ∧
        ((∃ error, hintValue kind value recorder.toObjects = .error error ∧
            (hint kind value).run.run recorder = (.error error, recorder)) ∨
          ∃ said, hintValue kind value recorder.toObjects = .ok said ∧
            (hint kind value).run.run recorder = (.ok loop,
              { recorder with recording := recorder.recording.setHint loop kind said })) := by
  cases target : recorder.builder.lastLoop? with
  | none =>
      refine .inl ⟨rfl, ?_⟩
      rw [hint, run_get_bind, target]
      rfl
  | some loop =>
      refine .inr ⟨loop, rfl, ?_⟩
      have asked : (liftM (hintValue kind value) : Record HintValue).run.run recorder =
          (hintValue kind value recorder.toObjects, recorder) := rfl
      cases answered : hintValue kind value recorder.toObjects with
      | error error =>
          refine .inl ⟨error, rfl, ?_⟩
          rw [hint, run_get_bind, target]
          dsimp only
          rw [run_run_bind, asked, answered]
      | ok said =>
          refine .inr ⟨said, rfl, ?_⟩
          rw [hint, run_get_bind, target]
          dsimp only
          rw [run_run_bind, asked, answered]
          rfl

end Record

theorem Recorder.Effect.continues {before : Recorder} {operation : Operation}
    {ended : Except Error HostValue × Recorder} (effect : before.Effect operation ended) :
    before.recording.Continues ended.2.recording := by
  cases effect with
  | refused => exact .refl _
  | records _ shifts =>
      cases shifts with
      | still still => exact still.recording.unhinted.continues
      | enters loop enters => exact enters.unhinted.continues
  | begins _ still => exact still.unhinted.continues
  | resets _ still => exact still.unhinted.continues
  | hints => exact Recording.continues_setHint _ _ _
  | sets => exact Recording.continues_setHint _ _ _
  | inserts free => exact (Recording.unhinted_append _ free).continues

/-- An operation records one loop or none, unless it is about definitions or
hints or puts a statement into a block by hand. -/
theorem Operation.effect (operation : Operation) (recorder : Recorder) :
    recorder.Effect operation (operation.perform.run.run recorder) := by
  have settled {α : Type} {operation : Operation} {attempt : Record α} {answer : α → HostValue}
      (records : operation.records) (settles : Record.Settles attempt) :
      recorder.Effect operation ((answer <$> attempt).run.run recorder) :=
    .records records (.still (settles.map answer recorder))
  have shifted {α : Type} {operation : Operation} {attempt : Record α} {answer : α → HostValue}
      (records : operation.records) (shifts : Record.Relates Recorder.Shifts attempt) :
      recorder.Effect operation ((answer <$> attempt).run.run recorder) :=
    .records records (shifts.map answer recorder)
  cases operation with
  | build building => exact .records rfl (.still (Record.settles_build _ recorder))
  | createScope scope => exact settled rfl (Record.settles_createScope scope)
  | popScope => exact .records rfl (.still (Record.settles_popScope recorder))
  | enterRoot scope =>
      by_cases alone : recorder.builder.stack = []
      · obtain ⟨guard, final, run, target, recording⟩ := Record.enterRoot_begins scope alone
        rw [perform, run_run_map, run]
        exact .begins target (recording ▸ .refl _)
      · rw [perform, run_run_map, Record.enterRoot_refused alone]
        exact .refused
  | exitRoot => exact .records rfl (.still (Record.settles_exitRoot recorder))
  | reset => exact .resets rfl (.refl _)
  | leave guard failed => exact settled rfl (Record.settles_leave guard failed)
  | insert statement => exact shifted rfl (Record.insert_shifts statement)
  | insertInto block statement =>
      rw [perform, run_run_map]
      cases block with
      | block target =>
          cases statement with
          | statement member =>
              cases held : (recorder.recording.statement member).parent? with
              | none =>
                  rw [Record.insertInto_run held]
                  exact .inserts held
              | some parent =>
                  rw [Record.insertInto_held held]
                  exact .refused
          | _ => exact .refused
      | _ => exact .refused
  | alloca name? => exact settled rfl (Record.settles_alloca name?)
  | assign target value => exact settled rfl (Record.settles_assign target value)
  | var value name? => exact settled rfl (Record.settles_var value name?)
  | print value label => exact settled rfl (Record.settles_print value label)
  | beginIf condition => exact settled rfl (Record.settles_beginIf condition)
  | enterBranch branch => exact settled rfl (Record.settles_enterBranch branch)
  | beginRange counter first last => exact shifted rfl (Record.beginRange_shifts counter first last)
  | beginElements vars field => exact shifted rfl (Record.beginElements_shifts vars field)
  | enterBody => exact settled rfl Record.settles_enterBody
  | openRange counter first last => exact shifted rfl (Record.openRange_shifts counter first last)
  | openElements vars field => exact shifted rfl (Record.openElements_shifts vars field)
  | hint kind value =>
      rw [perform, run_run_map]
      rcases Record.hint_cases recorder kind value with
        ⟨_, run⟩ | ⟨loop, target, ⟨_, _, run⟩ | ⟨said, accepted, run⟩⟩
      · rw [run]
        exact .refused
      · rw [run]
        exact .refused
      · rw [run]
        exact .hints target accepted
  | newBlock label => exact settled rfl (Record.settles_addTo fun _ => Recording.still_addBlock _ _)
  | newAssign target value => exact settled rfl (Record.settles_newAssign target value)
  | newStore place value => exact settled rfl (Record.settles_newStore place value)
  | newLoad place =>
      exact settled rfl ((Record.settles_ask _).bind fun _ => Record.settles_new (.leaf rfl))
  | newAlloca named type? => exact settled rfl (Record.settles_newAlloca named type?)
  | newPrint value label => exact settled rfl (Record.settles_new (.leaf rfl))
  | newBranch condition => exact settled rfl (Record.settles_new (.branch condition))
  | newRange counter first last =>
      exact settled rfl ((Record.settles_build _).bind fun _ =>
        (Record.settles_build _).bind fun _ => (Record.settles_ask _).bind fun _ =>
          Record.settles_new (.loop _ _))
  | newElements vars field =>
      exact settled rfl ((Record.settles_ask _).bind fun _ => (Record.settles_ask _).bind fun _ =>
        (Record.settles_ask _).bind fun _ => Record.settles_new (.loop _ _))
  | newBare => exact settled rfl (Record.settles_new (.leaf rfl))
  | locate statement location =>
      refine settled rfl (Record.settles_modifyRecording fun recording => ?_)
      exact Recording.still_modifyStatement statement (fun _ => rfl) fun _ => rfl
  | setHint loop kind value => exact .sets

end FieldKernel
