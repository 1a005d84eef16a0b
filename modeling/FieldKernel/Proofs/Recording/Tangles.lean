import FieldKernel.Proofs.Recording.Targets

/-!
# Statements inside themselves

A statement is put into a block once, and nothing else is asked about the block:
it can be one that is inside of the statement.  Then what is recorded is no tree
any more.  This is the only way to get there: whatever else host code does with
builders, blocks and statements leaves a tree what it is.
-/

namespace FieldKernel

open Relation (ReflTransGen TransGen)

namespace Recording

/-- A statement is in a block inside another one. -/
def Contains (recording : Recording) (outer inner : Nat) : Prop :=
  ∃ block ∈ (recording.statement outer).kind.inside, inner ∈ (recording.block block).statements

/-- A block is inside a statement, however deep. -/
def Under (recording : Recording) (block statement : Nat) : Prop :=
  ∃ owner, ReflTransGen recording.Contains statement owner ∧
    block ∈ (recording.statement owner).kind.inside

/-- Some statement is inside itself. -/
def Tangled (recording : Recording) : Prop :=
  ∃ statement, TransGen recording.Contains statement statement

variable {recording before after : Recording}

theorem tangled_congr
    (same : ∀ outer inner, after.Contains outer inner ↔ before.Contains outer inner) :
    after.Tangled ↔ before.Tangled := by
  have equal : after.Contains = before.Contains := by
    funext outer inner
    exact propext (same outer inner)
  rw [Tangled, Tangled, equal]

section Append

variable {target member : Nat}

/-- A statement that is put into a block is in what the block is inside of. -/
theorem contains_append (known : target < recording.blocks.size) (outer inner : Nat) :
    (recording.append target member).Contains outer inner ↔
      recording.Contains outer inner ∨
        target ∈ (recording.statement outer).kind.inside ∧ inner = member := by
  simp only [Contains, kind_append]
  constructor
  · rintro ⟨block, inside, among⟩
    rw [block_append] at among
    split at among
    · next both =>
      rcases List.mem_append.mp among with old | new
      · exact .inl ⟨block, inside, old⟩
      · exact .inr ⟨both.1 ▸ inside, List.mem_singleton.mp new⟩
    · exact .inl ⟨block, inside, among⟩
  · rintro (⟨block, inside, among⟩ | ⟨inside, rfl⟩)
    · refine ⟨block, inside, ?_⟩
      rw [block_append]
      split
      · exact List.mem_append_left _ among
      · exact among
    · refine ⟨target, inside, ?_⟩
      rw [block_append, if_pos ⟨rfl, known⟩]
      exact List.mem_append_right _ (List.mem_singleton_self _)

/-- A way down after a statement is put into a block goes as before, or it goes
through the block and as before from the statement on. -/
theorem reaches_of_append (known : target < recording.blocks.size) {outer inner : Nat}
    (reaches : ReflTransGen (recording.append target member).Contains outer inner) :
    ReflTransGen recording.Contains outer inner ∨
      (∃ owner, ReflTransGen (recording.append target member).Contains outer owner ∧
        target ∈ (recording.statement owner).kind.inside) ∧
          ReflTransGen recording.Contains member inner := by
  induction reaches with
  | refl => exact .inl .refl
  | @tail middle last way step hypothesis =>
      rcases (contains_append known middle last).mp step with old | ⟨inside, rfl⟩
      · exact hypothesis.imp (·.tail old) (And.imp_right (·.tail old))
      · exact .inr ⟨⟨middle, way, inside⟩, .refl⟩

/-- Putting a statement into a block tangles what is recorded exactly when the
block is inside of the statement. -/
theorem tangled_append (known : target < recording.blocks.size) :
    (recording.append target member).Tangled ↔ recording.Tangled ∨ recording.Under target member := by
  have kept : recording.Contains ≤ (recording.append target member).Contains :=
    fun outer inner contains => (contains_append known outer inner).mpr (.inl contains)
  constructor
  · rintro ⟨statement, circle⟩
    obtain ⟨middle, way, step⟩ := TransGen.tail'_iff.mp circle
    rcases (contains_append known middle statement).mp step with old | ⟨inside, rfl⟩
    · rcases reaches_of_append known way with way | ⟨⟨owner, way, inside⟩, later⟩
      · exact .inl ⟨statement, .tail' way old⟩
      · right
        rcases reaches_of_append known way with way | ⟨-, way⟩
        · exact ⟨owner, (later.tail old).trans way, inside⟩
        · exact ⟨owner, way, inside⟩
    · right
      rcases reaches_of_append known way with way | ⟨-, way⟩
      · exact ⟨middle, way, inside⟩
      · exact ⟨middle, way, inside⟩
  · rintro (⟨statement, circle⟩ | ⟨owner, way, inside⟩)
    · exact ⟨statement, TransGen.mono kept _ _ circle⟩
    · refine ⟨member, .tail' (ReflTransGen.mono kept _ _ way) ?_⟩
      exact (contains_append known owner member).mpr (.inr ⟨inside, rfl⟩)

end Append

section Additions

/-- A new statement is in nothing, and nothing is in it. -/
theorem Brings.contains {kind : StatementKind} (brings : before.Brings kind after)
    (coherent : before.Coherent) (outer inner : Nat) :
    after.Contains outer inner ↔ before.Contains outer inner := by
  constructor
  · rintro ⟨block, inside, among⟩
    rcases brings.cases outer with same | ⟨rfl, added⟩
    · rw [same] at inside
      rw [brings.extended.block (lt_of_owner (coherent.owner inside))] at among
      exact ⟨block, inside, among⟩
    · rw [added] at inside
      rw [brings.empty (brings.new inside)] at among
      cases among
  · rintro ⟨block, inside, among⟩
    have owned := coherent.owner inside
    refine ⟨block, ?_, ?_⟩
    · rcases brings.cases outer with same | ⟨rfl, -⟩
      · rwa [same]
      · rw [statement_of_le le_rfl] at inside
        cases inside
    · rwa [brings.extended.block (lt_of_owner owned)]

/-- A new statement that is put into a block that was there before makes no
circle. -/
theorem Brings.tangled_append {kind : StatementKind} (brings : before.Brings kind after)
    (coherent : before.Coherent) {target : Nat} (known : target < before.blocks.size) :
    (after.append target before.statements.size).Tangled ↔ before.Tangled := by
  rw [Recording.tangled_append (known.trans_le brings.extended.blocks_le),
    tangled_congr (brings.contains coherent), or_iff_left]
  rintro ⟨owner, way, inside⟩
  have alone : owner = before.statements.size := by
    rcases ReflTransGen.cases_head way with same | ⟨next, contains, -⟩
    · exact same.symm
    · obtain ⟨block, within, -⟩ := (brings.contains coherent _ _).mp contains
      rw [statement_of_le le_rfl] at within
      cases within
  rw [alone, brings.statement] at inside
  exact absurd known (brings.new inside).not_gt

theorem contains_addBlock (coherent : before.Coherent) (label : String) (outer inner : Nat) :
    (before.addBlock none label).2.Contains outer inner ↔ before.Contains outer inner := by
  simp only [Contains, statement_addBlock]
  refine exists_congr fun block => and_congr_right fun inside => ?_
  rw [block_addBlock, if_neg (lt_of_owner (coherent.owner inside)).ne]

end Additions

section Marks

/-- Statements with the same blocks in them contain the same. -/
theorem contains_of_alike
    (kinds : ∀ id, (after.statement id).kind.inside = (before.statement id).kind.inside)
    (blocks : ∀ id, after.block id = before.block id) (outer inner : Nat) :
    after.Contains outer inner ↔ before.Contains outer inner := by
  simp only [Contains, kinds, blocks]

theorem tangled_closed (scope : HostValue) : (before.closed scope).Tangled ↔ before.Tangled :=
  tangled_congr (contains_of_alike (by simp) (by simp))

theorem tangled_markOpen (owner : Nat) (mark : Option Branch) :
    (before.markOpen owner mark).Tangled ↔ before.Tangled :=
  tangled_congr (contains_of_alike (by simp) (by simp))

theorem tangled_modifyStatement (id : Nat) {change : Statement → Statement}
    (kinds : ∀ entry, (change entry).kind.Alike entry.kind) :
    (before.modifyStatement id change).Tangled ↔ before.Tangled :=
  tangled_congr (contains_of_alike (fun other => (kind_modifyStatement id kinds other).inside)
    fun _ => rfl)

end Marks

end Recording

namespace Record

variable {α β : Type} {recorder : Recorder}

/-- An attempt goes the way of a builder, and what is recorded is as tangled as
it was. -/
def Straight (attempt : Record α) : Prop :=
  ∀ recorder : Recorder, Moves False attempt recorder ∧
    (recorder.stage.Housed → recorder.recording.Coherent →
      ((attempt.run.run recorder).2.recording.Tangled ↔ recorder.recording.Tangled))

section Rules

theorem Straight.bind {attempt : Record α} {next : α → Record β} (one : Straight attempt)
    (two : ∀ result, Straight (next result)) : Straight (attempt >>= next) := by
  intro recorder
  obtain ⟨moves, straight⟩ := one recorder
  refine ⟨moves.bind fun result middle _ => (two result middle).1, fun housed coherent => ?_⟩
  have earlier := straight housed coherent
  obtain ⟨houses, middle⟩ := Stage.Steps.houses moves coherent
  rw [run_run_bind]
  revert earlier houses middle
  rcases attempt.run.run recorder with ⟨error | result, state⟩
  · exact fun earlier _ _ => earlier
  · intro earlier houses middle
    exact ((two result state).2 (houses.housed housed) middle).trans earlier

/-- An attempt that records nothing. -/
theorem straight_of_same {attempt : Record α}
    (same : ∀ recorder : Recorder, (attempt.run.run recorder).2.stage = recorder.stage) :
    Straight attempt := by
  intro recorder
  have kept := same recorder
  refine ⟨?_, fun _ _ => ?_⟩
  · unfold Moves
    rw [kept]
  · rw [show (attempt.run.run recorder).2.recording = recorder.recording from
      congrArg Stage.recording kept]

theorem straight_pure (result : α) : Straight (pure result) :=
  straight_of_same fun _ => rfl

theorem straight_throw (error : Error) : Straight (throw error : Record α) :=
  straight_of_same fun _ => rfl

/-- What follows on an error does not matter. -/
theorem straight_thrown {error : Error} {next : α → Record β} :
    Straight ((MonadExcept.throw error : Record α) >>= next) :=
  straight_of_same fun _ => rfl

theorem straight_build (attempt : Build α) : Straight (build attempt) :=
  straight_of_same fun _ => rfl

theorem straight_ask (question : Ask α) : Straight (liftM question : Record α) :=
  straight_of_same fun _ => rfl

theorem Straight.get {next : Recorder → Record α} (straight : ∀ state, Straight (next state)) :
    Straight (get >>= next) :=
  fun recorder => straight recorder recorder

end Rules

section Scopes

/-- What is recorded stays as tangled as it was. -/
abbrev Level (attempt : Record α) : Prop :=
  Relates (fun before after => after.recording.Tangled ↔ before.recording.Tangled) attempt

theorem Level.bind {attempt : Record α} {next : α → Record β} (one : Level attempt)
    (two : ∀ result, Level (next result)) : Level (attempt >>= next) :=
  Relates.bind one two id fun first second => second.trans first

theorem Level.straight {attempt : Record α} (level : Level attempt)
    (moves : ∀ recorder, Moves False attempt recorder) : Straight attempt :=
  fun recorder => ⟨moves recorder, fun _ _ => level recorder⟩

/-- An attempt that records nothing. -/
theorem level_of_same {attempt : Record α}
    (same : ∀ recorder : Recorder, (attempt.run.run recorder).2.recording = recorder.recording) :
    Level attempt := by
  intro recorder
  rw [same]

theorem level_last? : Level last? := by
  refine Level.bind (.get fun state => ?_) fun _ => Level.bind (level_of_same fun _ => rfl) fun _ =>
    level_of_same fun _ => rfl
  split
  · exact level_of_same fun _ => rfl
  · exact level_of_same fun _ => rfl

theorem level_closeBranch (block : Nat) : Level (closeBranch block) := by
  intro recorder
  rw [closeBranch_run]
  exact Recording.tangled_closed (.block block)

theorem level_popScope : Level popScope := by
  refine .get fun state => ?_
  split
  · exact level_of_same fun _ => rfl
  · dsimp only
    split
    · exact level_of_same fun _ => rfl
    · refine Level.bind (level_of_same fun _ => rfl) fun _ =>
        Level.bind (level_of_same fun _ => rfl) fun _ => ?_
      exact (level_closeBranch _).bind fun _ => level_of_same fun _ => rfl

theorem level_exitRoot : Level exitRoot := by
  refine .get fun state => ?_
  dsimp only
  split
  · exact level_of_same fun _ => rfl
  · exact Level.bind (level_of_same fun _ => rfl) fun _ => level_popScope

theorem level_leave (guard : Guard) (failed : Bool) : Level (leave guard failed) := by
  refine .get fun state => ?_
  split
  · exact level_popScope.bind fun _ => level_of_same fun _ => rfl
  · split
    · exact level_of_same fun _ => rfl
    · exact level_of_same fun _ => rfl

theorem level_enterBranch (branch : Branch) : Level (enterBranch branch) := by
  refine level_last?.bind fun (block, last?) => .get fun state => ?_
  dsimp only
  split
  · split
    · exact Level.bind (level_of_same fun _ => rfl) fun _ => level_of_same fun _ => rfl
    · exact Level.bind (fun _ => Recording.tangled_markOpen _ _) fun _ => level_of_same fun _ => rfl
  · split
    · exact Level.bind (level_of_same fun _ => rfl) fun _ => level_of_same fun _ => rfl
    · exact level_of_same fun _ => rfl

theorem level_enterBody : Level enterBody := by
  refine level_last?.bind fun (block, last?) => .get fun state => ?_
  dsimp only
  split
  · exact level_of_same fun _ => rfl
  · exact level_of_same fun _ => rfl

theorem level_setHint (loop : Nat) (kind : HintKind) (value : HintValue) :
    Level (setHint loop kind value) := by
  refine fun recorder => Recording.tangled_modifyStatement loop fun entry => ?_
  obtain ⟨made, parent?, location?⟩ := entry
  cases made with
  | loop => exact ⟨rfl, fun _ => rfl, rfl⟩
  | _ => exact .refl _

theorem level_hint (kind : HintKind) (value : HostValue) : Level (hint kind value) := by
  refine .get fun state => ?_
  split
  · exact level_of_same fun _ => rfl
  · exact Level.bind (level_of_same fun _ => rfl) fun _ =>
      (level_setHint _ _ _).bind fun _ => level_of_same fun _ => rfl

end Scopes

section Statements

/-- A new statement is recorded in a block that was there before. -/
theorem straight_record {addition : Recording → Nat × Recording}
    (added : Recording.Addition addition) : Straight (record addition) := by
  intro recorder
  refine ⟨record_moves added, fun housed coherent => ?_⟩
  obtain ⟨kind, brings⟩ := added.brings recorder.recording
  by_cases ready : ∃ block, Ready recorder block
  · obtain ⟨block, guard, rest, scopes, scope⟩ := ready
    obtain ⟨other, adds⟩ := added.adds recorder.recording
    rw [record_run scopes scope adds]
    exact brings.tangled_append coherent (Ready.known housed ⟨guard, rest, scopes, scope⟩)
  · obtain ⟨error, final, run, -, same | same⟩ :=
      @record_refused recorder addition (not_exists.mp ready)
    · rw [run, same]
    · rw [run, same]
      exact Recording.tangled_congr (brings.contains coherent)

theorem straight_addTo {addition : Recording → Nat × Recording}
    (added : Recording.Addition addition) : Straight (addTo addition) := by
  intro recorder
  refine ⟨addTo_moves added, fun _ coherent => ?_⟩
  obtain ⟨kind, brings⟩ := added.brings recorder.recording
  exact Recording.tangled_congr (brings.contains coherent)

theorem straight_alloca (name? : Option String) : Straight (alloca name?) :=
  (straight_build _).bind fun _ => (straight_record (.leaf rfl)).bind fun _ => straight_pure _

theorem straight_assign (target value : HostValue) : Straight (assign target value) :=
  (straight_ask _).bind fun _ => (straight_build _).bind fun _ => straight_record (.leaf rfl)

theorem straight_beginRange (counter first last : HostValue) :
    Straight (beginRange counter first last) :=
  (straight_build _).bind fun _ => (straight_build _).bind fun _ => (straight_ask _).bind fun _ =>
    straight_record (.loop _ _)

theorem straight_beginElements (vars field : HostValue) : Straight (beginElements vars field) := by
  refine (straight_build _).bind fun group => ?_
  split
  · exact straight_thrown
  refine (straight_ask _).bind fun declared => (straight_ask _).bind fun vars => .get fun state => ?_
  split
  · exact straight_record (.loop _ _)
  · dsimp only
    split
    · exact straight_thrown
    · exact straight_record (.loop _ _)

end Statements

end Record

/-- An operation puts a statement that is given into a block. -/
def Operation.inserts : Operation → Bool
  | .insert _ | .insertInto _ _ => true
  | _ => false

/-- Whatever else host code does, what is recorded stays as tangled as it was. -/
theorem Operation.straight {operation : Operation} (plain : operation.inserts = false)
    {recorder : Recorder} (housed : recorder.stage.Housed)
    (coherent : recorder.recording.Coherent) :
    (operation.perform.run.run recorder).2.recording.Tangled ↔ recorder.recording.Tangled := by
  have level {α : Type} {attempt : Record α} {answer : α → HostValue}
      (level : Record.Level attempt) :
      ((answer <$> attempt).run.run recorder).2.recording.Tangled ↔ recorder.recording.Tangled :=
    level.map answer recorder
  have straight {α : Type} {attempt : Record α} {answer : α → HostValue}
      (straight : Record.Straight attempt) :
      ((answer <$> attempt).run.run recorder).2.recording.Tangled ↔
        recorder.recording.Tangled := by
    rw [run_run_map]
    exact (straight recorder).2 housed coherent
  cases operation with
  | build building => exact Iff.rfl
  | createScope scope => exact Iff.rfl
  | popScope => exact Record.level_popScope recorder
  | enterRoot scope =>
      refine level (Record.level_of_same fun recorder => ?_)
      by_cases alone : recorder.builder.stack = []
      · obtain ⟨guard, final, run, -, recording⟩ := Record.enterRoot_begins scope alone
        rw [run, recording]
      · rw [Record.enterRoot_refused alone]
  | exitRoot => exact Record.level_exitRoot recorder
  | reset => exact Iff.rfl
  | leave guard failed => exact level (Record.level_leave guard failed)
  | insert statement => cases plain
  | insertInto block statement => cases plain
  | alloca name? => exact straight (Record.straight_alloca name?)
  | assign target value => exact straight (Record.straight_assign target value)
  | var value name? =>
      exact straight ((Record.straight_alloca name?).bind fun _ =>
        (Record.straight_assign _ value).bind fun _ => Record.straight_pure _)
  | print value label =>
      exact straight ((Record.straight_build _).bind fun _ => Record.straight_record (.leaf rfl))
  | beginIf condition =>
      exact straight ((Record.straight_build _).bind fun _ => Record.straight_record (.branch _))
  | enterBranch branch => exact level (Record.level_enterBranch branch)
  | beginRange counter first last => exact straight (Record.straight_beginRange counter first last)
  | beginElements vars field => exact straight (Record.straight_beginElements vars field)
  | enterBody => exact level Record.level_enterBody
  | openRange counter first last =>
      exact straight ((Record.straight_beginRange counter first last).bind fun _ =>
        Record.level_enterBody.straight fun _ => Record.enterBody_moves)
  | openElements vars field =>
      exact straight ((Record.straight_beginElements vars field).bind fun _ =>
        Record.level_enterBody.straight fun _ => Record.enterBody_moves)
  | hint kind value => exact level (Record.level_hint kind value)
  | newBlock label => exact Recording.tangled_congr (Recording.contains_addBlock coherent label)
  | newAssign target value =>
      refine straight ((Record.straight_build _).bind fun value =>
        (Record.straight_ask _).bind fun target => ?_)
      split
      · exact Record.straight_addTo (.leaf rfl)
      · exact Record.straight_thrown
  | newStore place value =>
      refine straight ?_
      rw [Record.newStore.eq_def]
      split
      · exact (Record.straight_build _).bind fun _ => Record.straight_addTo (.leaf rfl)
      · exact (Record.straight_ask _).bind fun _ => Record.straight_throw _
  | newLoad place =>
      exact straight ((Record.straight_ask _).bind fun _ => Record.straight_addTo (.leaf rfl))
  | newAlloca named type? =>
      refine straight ((Record.straight_ask _).bind fun identifier => ?_)
      split
      · exact (Record.straight_ask _).bind fun _ => Record.straight_addTo (.leaf rfl)
      · exact Record.straight_addTo (.leaf rfl)
  | newPrint value label => exact straight (Record.straight_addTo (.leaf rfl))
  | newBranch condition => exact straight (Record.straight_addTo (.branch condition))
  | newRange counter first last =>
      exact straight ((Record.straight_build _).bind fun _ => (Record.straight_build _).bind fun _ =>
        (Record.straight_ask _).bind fun _ => Record.straight_addTo (.loop _ _))
  | newElements vars field =>
      exact straight ((Record.straight_ask _).bind fun _ => (Record.straight_ask _).bind fun _ =>
        (Record.straight_ask _).bind fun _ => Record.straight_addTo (.loop _ _))
  | newBare => exact straight (Record.straight_addTo (.leaf rfl))
  | locate statement location =>
      exact Recording.tangled_modifyStatement statement fun _ => .refl _
  | setHint loop kind value => exact Record.level_setHint loop kind value recorder

namespace Recorder

/-- An operation puts a statement that is in no block into a block. -/
structure Puts (recorder : Recorder) (operation : Operation) (statement block : Nat) : Prop where
  free : (recorder.recording.statement statement).parent? = none
  given : operation = .insertInto (.block block) (.statement statement) ∨
    operation = .insert (.statement statement) ∧ Record.Ready recorder block

/-- A statement is put into a block that is inside of it. -/
def Ties (recorder : Recorder) (operation : Operation) : Prop :=
  ∃ statement block, recorder.Puts operation statement block ∧
    recorder.recording.Under block statement

variable {recorder : Recorder} {operation : Operation}

theorem Puts.known {statement block : Nat} (puts : recorder.Puts operation statement block)
    (given : operation.Given recorder.recording) (housed : recorder.stage.Housed) :
    block < recorder.recording.blocks.size := by
  rcases puts.given with rfl | ⟨rfl, ready⟩
  · exact given (.block block) (by simp [Operation.values])
  · exact Record.Ready.known housed ready

/-- An operation puts at most one statement into at most one block. -/
theorem Puts.unique {statement block other target : Nat}
    (puts : recorder.Puts operation statement block)
    (puts' : recorder.Puts operation other target) : statement = other ∧ block = target := by
  rcases puts.given with rfl | ⟨rfl, guard, rest, scopes, scope⟩
  · rcases puts'.given with same | ⟨same, -⟩
    · cases same
      exact ⟨rfl, rfl⟩
    · cases same
  · rcases puts'.given with same | ⟨same, guard', rest', scopes', scope'⟩
    · cases same
    · cases same
      rw [scopes] at scopes'
      cases scopes'
      rw [scope] at scope'
      cases scope'
      exact ⟨rfl, rfl⟩

theorem Puts.run {statement block : Nat} (puts : recorder.Puts operation statement block) :
    (operation.perform.run.run recorder).2.recording = recorder.recording.append block statement := by
  rcases puts.given with rfl | ⟨rfl, guard, rest, scopes, scope⟩
  · rw [Operation.perform, run_run_map, Record.insertInto_run puts.free]
  · rw [Operation.perform, run_run_map, Record.insert_run scopes scope puts.free]

/-- A statement that is in a block already is refused. -/
theorem kept_of_not_puts (inserts : operation.inserts)
    (refused : ¬∃ statement block, recorder.Puts operation statement block) :
    (operation.perform.run.run recorder).2.recording = recorder.recording := by
  cases operation with
  | insert statement =>
      rw [Operation.perform, run_run_map]
      by_cases ready : ∃ block, Record.Ready recorder block
      · obtain ⟨block, ready⟩ := ready
        rcases Record.insert_cases recorder statement with same | ⟨_, member, rfl, free, -⟩
        · rw [same]
        · exact (refused ⟨member, block, free, .inr ⟨rfl, ready⟩⟩).elim
      · obtain ⟨error, run⟩ := @Record.insert_refused recorder statement (not_exists.mp ready)
        rw [run]
  | insertInto target statement =>
      rw [Operation.perform, run_run_map]
      rcases Record.insertInto_cases recorder target statement with
        same | ⟨block, member, rfl, rfl, free, -⟩
      · rw [same]
      · exact (refused ⟨member, block, free, .inl rfl⟩).elim
  | _ => cases inserts

end Recorder

/-- What is recorded gets tangled exactly when a statement is put into a block
that is inside of it. -/
theorem Operation.tangles {operation : Operation} {recorder : Recorder}
    (given : operation.Given recorder.recording) (housed : recorder.stage.Housed)
    (coherent : recorder.recording.Coherent) :
    (operation.perform.run.run recorder).2.recording.Tangled ↔
      recorder.recording.Tangled ∨ recorder.Ties operation := by
  by_cases puts : ∃ statement block, recorder.Puts operation statement block
  · obtain ⟨statement, block, puts⟩ := puts
    rw [puts.run, Recording.tangled_append (puts.known given housed)]
    refine or_congr_right ⟨fun under => ⟨statement, block, puts, under⟩, ?_⟩
    rintro ⟨other, target, puts', under⟩
    obtain ⟨rfl, rfl⟩ := puts.unique puts'
    exact under
  · have straight : (operation.perform.run.run recorder).2.recording.Tangled ↔
        recorder.recording.Tangled := by
      cases plain : operation.inserts with
      | false => exact operation.straight plain housed coherent
      | true => rw [Recorder.kept_of_not_puts plain puts]
    rw [straight, or_iff_left]
    rintro ⟨statement, block, here, -⟩
    exact puts ⟨statement, block, here⟩

end FieldKernel
