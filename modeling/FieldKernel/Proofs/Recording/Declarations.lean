import FieldKernel.Proofs.Meaning.Types
import FieldKernel.Proofs.Recording.Coherence

/-!
# Declarations of builders

Builders declare a variable without a type; its type follows from the use that
is made of it.  Only a declaration that host code makes by hand has a type of
its own.  Code that is composed without such declarations is plain.  However
host code goes about it, a loop over a range has one variable.
-/

namespace FieldKernel

/-- A declaration gives no type, and a loop over a range has one variable. -/
def StatementKind.Plain : StatementKind → Prop
  | .alloca _ type => type = .unknown
  | .loop vars (.range _ _) _ _ => vars.length = 1
  | _ => True

/-- A statement is plain, but for declarations with types if these are made by hand. -/
def StatementKind.Regular (byHand : Prop) : StatementKind → Prop
  | .alloca _ type => type = .unknown ∨ byHand
  | .loop vars (.range _ _) _ _ => vars.length = 1
  | _ => True

theorem StatementKind.regular_false {kind : StatementKind} : kind.Regular False ↔ kind.Plain := by
  cases kind with
  | alloca identifier type => exact iff_of_eq (or_false _)
  | loop vars source body schedule => cases source <;> exact Iff.rfl
  | _ => exact Iff.rfl

mutual

/-- All loops over ranges in a statement have one variable. -/
def Stmt.Counted : Stmt → Prop
  | .branch _ _ onTrue onFalse => Stmt.BlockCounted onTrue ∧ Stmt.BlockCounted onFalse
  | .loop _ vars (.range _ _) _ body => vars.length = 1 ∧ Stmt.BlockCounted body
  | .loop _ _ (.elements _) _ body => Stmt.BlockCounted body
  | _ => True

def Stmt.BlockCounted : List Stmt → Prop
  | [] => True
  | first :: rest => first.Counted ∧ Stmt.BlockCounted rest

end

namespace Recording

/-- All statements of a recording are plain. -/
def Plain (recording : Recording) : Prop :=
  ∀ statement, (recording.statement statement).kind.Plain

/-- All statements of a recording are regular. -/
def Regular (byHand : Prop) (recording : Recording) : Prop :=
  ∀ statement, (recording.statement statement).kind.Regular byHand

variable {recording : Recording} {byHand : Prop}

theorem regular_empty : empty.Regular byHand :=
  fun _ => trivial

theorem regular_addStatement (holds : recording.Regular byHand) {kind : StatementKind}
    (regular : kind.Regular byHand) : (recording.addStatement kind).2.Regular byHand := by
  intro statement
  simp only [addStatement, Recording.statement, Array.getElem?_push]
  split
  · exact regular
  · exact holds statement

theorem regular_addBranch (holds : recording.Regular byHand) (condition : HostValue) :
    (recording.addBranch condition).2.Regular byHand :=
  regular_addStatement holds (by trivial)

theorem regular_addLoop (holds : recording.Regular byHand) {vars : List Variable}
    {source : LoopSource}
    (regular : ∀ body schedule, (StatementKind.loop vars source body schedule).Regular byHand) :
    (recording.addLoop vars source).2.Regular byHand :=
  regular_addStatement holds (regular _ _)

theorem regular_modifyStatement (holds : recording.Regular byHand) (id : Nat)
    {change : Statement → Statement}
    (regular : ∀ statement, statement.kind.Regular byHand →
      (change statement).kind.Regular byHand) :
    (recording.modifyStatement id change).Regular byHand := by
  intro statement
  have now := holds statement
  simp only [modifyStatement, Recording.statement, Array.getElem?_modify] at now ⊢
  split
  · next equal =>
    subst equal
    revert now
    cases recording.statements[id]? with
    | none => exact fun now => now
    | some entry => exact regular entry
  · exact now

theorem regular_modifyKind (holds : recording.Regular byHand) (statement : Nat)
    {change : StatementKind → StatementKind}
    (regular : ∀ kind, kind.Regular byHand → (change kind).Regular byHand) :
    (recording.modifyKind statement change).Regular byHand :=
  regular_modifyStatement holds statement fun entry => regular entry.kind

theorem regular_append (holds : recording.Regular byHand) (block statement : Nat) :
    (recording.append block statement).Regular byHand :=
  regular_modifyStatement holds statement fun _ => id

theorem regular_markOpen (holds : recording.Regular byHand) (statement : Nat)
    (mark : Option Branch) : (recording.markOpen statement mark).Regular byHand := by
  refine regular_modifyKind holds statement fun kind regular => ?_
  cases kind with
  | branch => trivial
  | _ => exact regular

theorem regular_setHint (holds : recording.Regular byHand) (loop : Nat) (kind : HintKind)
    (value : HintValue) : (recording.setHint loop kind value).Regular byHand := by
  refine regular_modifyKind holds loop fun kind regular => ?_
  cases kind with
  | loop vars source body schedule => cases source <;> exact regular
  | _ => exact regular

/-- The tree of a block is plain, down to any depth. -/
theorem plain_unfold (holds : recording.Plain) (depth block : Nat) :
    Stmt.BlockPlain (recording.unfold depth block) := by
  induction depth generalizing block with
  | zero => exact ⟨trivial, trivial⟩
  | succ depth hypothesis =>
      have each (statement : Nat) :
          (stmtOf (recording.unfold depth) (recording.statement statement)).Plain := by
        have plain := holds statement
        revert plain
        obtain ⟨kind, parent?, location?⟩ := recording.statement statement
        cases kind with
        | alloca identifier type => exact id
        | branch condition onTrue onFalse open? =>
            exact fun _ => ⟨hypothesis onTrue, hypothesis onFalse⟩
        | loop vars source body schedule =>
            cases source with
            | range first last => exact fun plain => ⟨plain, hypothesis body⟩
            | elements field => exact fun _ => hypothesis body
        | _ => exact fun _ => trivial
      rw [unfold]
      induction (recording.block block).statements with
      | nil => trivial
      | cons first rest others => exact ⟨each first, others⟩

/-- The loops in the tree of a block are counted, down to any depth. -/
theorem counted_unfold (holds : recording.Regular byHand) (depth block : Nat) :
    Stmt.BlockCounted (recording.unfold depth block) := by
  induction depth generalizing block with
  | zero => exact ⟨trivial, trivial⟩
  | succ depth hypothesis =>
      have each (statement : Nat) :
          (stmtOf (recording.unfold depth) (recording.statement statement)).Counted := by
        have regular := holds statement
        revert regular
        obtain ⟨kind, parent?, location?⟩ := recording.statement statement
        cases kind with
        | branch condition onTrue onFalse open? =>
            exact fun _ => ⟨hypothesis onTrue, hypothesis onFalse⟩
        | loop vars source body schedule =>
            cases source with
            | range first last => exact fun regular => ⟨regular, hypothesis body⟩
            | elements field => exact fun _ => hypothesis body
        | _ => exact fun _ => trivial
      rw [unfold]
      induction (recording.block block).statements with
      | nil => trivial
      | cons first rest others => exact ⟨each first, others⟩

end Recording

namespace Record

variable {α β : Type} {byHand : Prop}

/-- What was recorded stays regular, also if an attempt fails. -/
def Keeps (byHand : Prop) (attempt : Record α) : Prop :=
  Ensures (fun recorder => recorder.recording.Regular byHand) attempt
    (fun _ recorder => recorder.recording.Regular byHand)
    (fun _ recorder => recorder.recording.Regular byHand)

section Rules

theorem Keeps.pure {result : α} : Keeps byHand (pure result) :=
  Ensures.pure fun _ now => now

theorem Keeps.throw {error : Error} : Keeps byHand (throw error : Record α) :=
  fun _ now => now

theorem Keeps.bind {attempt : Record α} {next : α → Record β} (first : Keeps byHand attempt)
    (second : ∀ result, Keeps byHand (next result)) : Keeps byHand (attempt >>= next) :=
  Ensures.bind first second

theorem Keeps.map {attempt : Record α} {change : α → β} (first : Keeps byHand attempt) :
    Keeps byHand (change <$> attempt) := by
  rw [map_eq_pure_bind]
  exact first.bind fun _ => .pure

theorem Keeps.get {next : Recorder → Record α}
    (second : ∀ recorder : Recorder, recorder.recording.Regular byHand →
      Keeps byHand (next recorder)) :
    Keeps byHand (get >>= next) :=
  fun recorder now => second recorder now recorder now

theorem Keeps.set {recorder : Recorder} (regular : recorder.recording.Regular byHand) :
    Keeps byHand (set recorder : Record PUnit) :=
  fun _ _ => regular

theorem Keeps.modify {change : Recorder → Recorder}
    (keeps : ∀ recorder, recorder.recording.Regular byHand →
      (change recorder).recording.Regular byHand) :
    Keeps byHand (modify change : Record PUnit) :=
  Ensures.modify keeps

theorem Keeps.thrown {error : Error} {next : α → Record β} :
    Keeps byHand ((MonadExcept.throw error : Record α) >>= next) :=
  fun _ now => now

/-- What follows on a question is recorded for its answer. -/
theorem Keeps.ask {question : Ask α} {next : α → Record β}
    (second : ∀ (objects : Objects) result, question objects = .ok result →
      Keeps byHand (next result)) :
    Keeps byHand (liftM question >>= next : Record β) := by
  intro recorder now
  have run : (liftM question >>= next : Record β).run.run recorder =
      match question recorder.toObjects with
      | .ok result => (next result).run.run recorder
      | .error error => (.error error, recorder) := by
    rw [run_run_bind]
    have asked : (liftM question : Record α).run.run recorder =
        (question recorder.toObjects, recorder) := rfl
    rw [asked]
    cases question recorder.toObjects <;> rfl
  rw [run]
  cases answered : question recorder.toObjects with
  | error error => exact now
  | ok result => exact second _ result answered recorder now

theorem Keeps.build {attempt : Build α} : Keeps byHand (build attempt) := by
  intro recorder now
  have run : (Record.build attempt).run.run recorder =
      (((attempt.run recorder.toObjects).run.run recorder.supply).1,
        { recorder with
          supply := ((attempt.run recorder.toObjects).run.run recorder.supply).2 }) := rfl
  rw [run]
  cases ((attempt.run recorder.toObjects).run.run recorder.supply).1 with
  | error error => exact now
  | ok result => exact now

end Rules

theorem report_keeps (message : Except HostFault String) : Keeps byHand (report message) :=
  .modify fun _ now => now

theorem modifyBuilder_keeps (change : Builder → Builder) : Keeps byHand (modifyBuilder change) :=
  .modify fun _ now => now

theorem modifyRecording_keeps {change : Recording → Recording}
    (keeps : ∀ recording, recording.Regular byHand → (change recording).Regular byHand) :
    Keeps byHand (modifyRecording change) :=
  .modify fun _ now => keeps _ now

theorem addTo_keeps {addition : Recording → Nat × Recording}
    (keeps : ∀ recording, recording.Regular byHand → (addition recording).2.Regular byHand) :
    Keeps byHand (addTo addition) :=
  fun _ now => keeps _ now

theorem addStatement_keeps {kind : StatementKind} (regular : kind.Regular byHand) :
    Keeps byHand (addTo (·.addStatement kind)) :=
  addTo_keeps fun _ now => Recording.regular_addStatement now regular

theorem currentScope_keeps : Keeps byHand currentScope := by
  refine .get fun recorder _ => ?_
  rcases recorder.builder.stack with _ | ⟨guard, rest⟩
  · exact .throw
  · exact .pure

theorem createScope_keeps (scope : HostValue) : Keeps byHand (createScope scope) := by
  refine .get fun recorder now => ?_
  suffices pushed : Keeps byHand _ from
    pushed.bind fun _ => (report_keeps _).bind fun _ => .pure
  exact Keeps.set now

theorem closeBranch_keeps (block : Nat) : Keeps byHand (closeBranch block) := by
  refine .get fun recorder _ => ?_
  dsimp only
  split
  · split
    · exact modifyRecording_keeps fun _ now => Recording.regular_markOpen now _ _
    · exact .pure
  · exact .pure

theorem popScope_keeps : Keeps byHand popScope := by
  refine .get fun recorder _ => ?_
  rcases recorder.builder.stack with _ | ⟨guard, rest⟩
  · exact .throw
  · dsimp only
    split
    · exact .throw
    · refine (modifyBuilder_keeps _).bind fun _ => .ask fun _ block _ => ?_
      exact (closeBranch_keeps block).bind fun _ => (report_keeps _).bind fun _ => .pure

theorem enterRoot_keeps (scope : HostValue) : Keeps byHand (enterRoot scope) := by
  refine .get fun recorder _ => ?_
  split
  · exact (createScope_keeps scope).bind fun _ => (modifyBuilder_keeps _).bind fun _ => .pure
  · exact .thrown

theorem exitRoot_keeps : Keeps byHand exitRoot := by
  refine .get fun recorder _ => ?_
  dsimp only
  split
  · exact .thrown
  · exact (modifyBuilder_keeps _).bind fun _ => popScope_keeps

theorem insertInto_keeps (block statement : HostValue) :
    Keeps byHand (insertInto block statement) := by
  have inserted (block : Nat) : Keeps byHand (do
      let statement ← Ask.statement statement "parent_block"
      let recording := (← get).recording
      if (recording.statement statement).parent?.isSome then
        throw (.contract (.alreadyOwned (recording.className statement)))
      modifyRecording (·.append block statement)) := by
    refine .ask fun _ id _ => .get fun recorder _ => ?_
    dsimp only
    split
    · exact .throw
    · exact modifyRecording_keeps fun _ now => Recording.regular_append now _ _
  rw [insertInto.eq_def]
  split
  · exact .throw
  · exact .ask fun _ block _ => inserted block

theorem insert_keeps (statement : HostValue) : Keeps byHand (insert statement) := by
  refine currentScope_keeps.bind fun scope => (insertInto_keeps scope statement).bind fun _ => ?_
  refine .ask fun _ id _ => .get fun recorder _ => ?_
  split
  · exact modifyBuilder_keeps _
  · exact .pure

theorem record_keeps {addition : Recording → Nat × Recording}
    (keeps : ∀ recording, recording.Regular byHand → (addition recording).2.Regular byHand) :
    Keeps byHand (record addition) := by
  refine currentScope_keeps.bind fun _ => (addTo_keeps keeps).bind fun statement => ?_
  exact (insert_keeps _).bind fun _ => .pure

theorem last?_keeps : Keeps byHand last? := by
  refine currentScope_keeps.bind fun scope => ?_
  exact .ask fun _ block _ => .get fun recorder _ => .pure

theorem alloca_keeps (name? : Option String) : Keeps byHand (alloca name?) := by
  refine Keeps.build.bind fun var => ?_
  exact (record_keeps fun _ now => Recording.regular_addStatement now (by exact .inl rfl)).bind
    fun _ => .pure

theorem assign_keeps (target value : HostValue) : Keeps byHand (assign target value) := by
  refine .ask fun _ target _ => Keeps.build.bind fun value => ?_
  exact record_keeps fun _ now => Recording.regular_addStatement now (by trivial)

theorem print_keeps (value label : HostValue) : Keeps byHand (print value label) := by
  refine Keeps.build.bind fun value => ?_
  exact record_keeps fun _ now => Recording.regular_addStatement now (by trivial)

theorem beginIf_keeps (condition : HostValue) : Keeps byHand (beginIf condition) := by
  refine Keeps.build.bind fun condition => ?_
  exact record_keeps fun _ now => Recording.regular_addBranch now _

theorem enterBranch_keeps (branch : Branch) : Keeps byHand (enterBranch branch) := by
  refine last?_keeps.bind fun result => .get fun recorder _ => ?_
  obtain ⟨block, last?⟩ := result
  dsimp only
  split
  · split
    · exact .ask fun _ _ _ => .throw
    · exact (modifyRecording_keeps fun _ now => Recording.regular_markOpen now _ _).bind
        fun _ => createScope_keeps _
  · split
    · exact .ask fun _ _ _ => .throw
    · exact .throw

/-- A loop over a range has the one variable that it was opened with. -/
theorem loopVariables_length {objects : Objects} {values : List HostValue} {vars : List Variable}
    (found : loopVariables values objects = .ok vars) : vars.length = values.length :=
  (Ask.forall₂_of_mapM found).length_eq.symm

theorem rangeLoop_regular {objects : Objects} {counter : HostValue} {vars : List Variable}
    (found : loopVariables [counter] objects = .ok vars) (first last : Expr) (body : Nat)
    (schedule : Schedule) :
    (StatementKind.loop vars (.range first last) body schedule).Regular byHand :=
  loopVariables_length found

theorem beginRange_keeps (counter first last : HostValue) :
    Keeps byHand (beginRange counter first last) := by
  refine Keeps.build.bind fun first => Keeps.build.bind fun last => .ask fun _ vars found => ?_
  exact record_keeps fun _ now => Recording.regular_addLoop now (rangeLoop_regular found first last)

theorem beginElements_keeps (vars field : HostValue) :
    Keeps byHand (beginElements vars field) := by
  refine Keeps.build.bind fun group => ?_
  split
  · exact .thrown
  refine .ask fun _ declared _ => .ask fun _ vars _ => ?_
  have recorded : Keeps byHand (record (·.addLoop vars (.elements declared))) :=
    record_keeps fun _ now => Recording.regular_addLoop now fun _ _ => by trivial
  refine .get fun recorder _ => ?_
  split
  · exact recorded
  · dsimp only
    split
    · exact .thrown
    · exact recorded

theorem enterBody_keeps : Keeps byHand enterBody := by
  refine last?_keeps.bind fun result => .get fun recorder _ => ?_
  dsimp only
  split
  · exact createScope_keeps _
  · exact .throw

theorem hint_keeps (kind : HintKind) (value : HostValue) : Keeps byHand (hint kind value) := by
  refine .get fun recorder _ => ?_
  split
  · exact .throw
  · refine .ask fun _ value _ => ?_
    exact (modifyRecording_keeps fun _ now => Recording.regular_setHint now _ _ _).bind
      fun _ => .pure

theorem leave_keeps (guard : Guard) (failed : Bool) : Keeps byHand (leave guard failed) := by
  refine .get fun recorder _ => ?_
  split
  · exact popScope_keeps.bind fun _ => .pure
  · split
    · exact .throw
    · exact .pure

theorem newAssign_keeps (target value : HostValue) : Keeps byHand (newAssign target value) := by
  refine Keeps.build.bind fun value => .ask fun _ target _ => ?_
  split
  · exact addStatement_keeps (by trivial)
  · exact .thrown

theorem newStore_keeps (place value : HostValue) : Keeps byHand (newStore place value) := by
  rw [newStore.eq_def]
  split
  · exact Keeps.build.bind fun value => addStatement_keeps (by trivial)
  · exact .ask fun _ _ _ => .throw

/-- A declaration that is made by hand can have a type. -/
theorem newAlloca_keeps (allowed : byHand) (named : HostValue) (type? : Option HostValue) :
    Keeps byHand (newAlloca named type?) := by
  refine .ask fun _ identifier _ => ?_
  cases type? with
  | none => exact addStatement_keeps (Or.inl rfl)
  | some type => exact .ask fun _ _ _ => addStatement_keeps (Or.inr allowed)

theorem newRange_keeps (counter first last : HostValue) :
    Keeps byHand (newRange counter first last) := by
  refine Keeps.build.bind fun first => Keeps.build.bind fun last => .ask fun _ vars found => ?_
  exact addTo_keeps fun _ now => Recording.regular_addLoop now (rangeLoop_regular found first last)

theorem newElements_keeps (vars field : HostValue) :
    Keeps byHand (newElements vars field) := by
  refine .ask fun _ declared _ => .ask fun _ members _ => .ask fun _ vars _ => ?_
  exact addTo_keeps fun _ now => Recording.regular_addLoop now fun _ _ => by trivial

end Record

/-- Host code leaves declarations to builders. -/
def Operation.Builders : Operation → Prop
  | .newAlloca _ _ => False
  | _ => True

theorem Operation.keeps {byHand : Prop} (operation : Operation)
    (allowed : operation.Builders ∨ byHand) : Record.Keeps byHand operation.perform := by
  cases operation with
  | build building => exact .build
  | createScope scope => exact (Record.createScope_keeps scope).map
  | popScope => exact Record.popScope_keeps
  | enterRoot scope => exact (Record.enterRoot_keeps scope).map
  | exitRoot => exact Record.exitRoot_keeps
  | reset => exact (Record.modifyBuilder_keeps _).map
  | leave guard failed => exact (Record.leave_keeps guard failed).map
  | insert statement => exact (Record.insert_keeps statement).map
  | insertInto block statement => exact (Record.insertInto_keeps block statement).map
  | alloca name? => exact (Record.alloca_keeps name?).map
  | assign target value => exact (Record.assign_keeps target value).map
  | var value name? =>
      have declared : Record.Keeps byHand (Record.var value name?) :=
        (Record.alloca_keeps name?).bind fun var =>
          (Record.assign_keeps _ value).bind fun _ => .pure
      exact declared.map
  | print value label => exact (Record.print_keeps value label).map
  | beginIf condition => exact (Record.beginIf_keeps condition).map
  | enterBranch branch => exact (Record.enterBranch_keeps branch).map
  | beginRange counter first last => exact (Record.beginRange_keeps counter first last).map
  | beginElements vars field => exact (Record.beginElements_keeps vars field).map
  | enterBody => exact Record.enterBody_keeps.map
  | openRange counter first last =>
      have opened : Record.Keeps byHand (Record.openRange counter first last) :=
        (Record.beginRange_keeps counter first last).bind fun _ => Record.enterBody_keeps
      exact opened.map
  | openElements vars field =>
      have opened : Record.Keeps byHand (Record.openElements vars field) :=
        (Record.beginElements_keeps vars field).bind fun _ => Record.enterBody_keeps
      exact opened.map
  | hint kind value => exact (Record.hint_keeps kind value).map
  | newBlock label => exact Record.Keeps.map (Record.addTo_keeps fun _ now => now)
  | newAssign target value => exact (Record.newAssign_keeps target value).map
  | newStore place value => exact (Record.newStore_keeps place value).map
  | newLoad place =>
      have loaded : Record.Keeps byHand (Record.newLoad place) :=
        .ask fun _ _ _ => Record.addStatement_keeps (by trivial)
      exact loaded.map
  | newAlloca named type? =>
      exact (Record.newAlloca_keeps (allowed.resolve_left id) named type?).map
  | newPrint value label => exact Record.Keeps.map (Record.addStatement_keeps (by trivial))
  | newBranch condition =>
      exact Record.Keeps.map (Record.addTo_keeps fun _ now => Recording.regular_addBranch now _)
  | newRange counter first last => exact (Record.newRange_keeps counter first last).map
  | newElements vars field => exact (Record.newElements_keeps vars field).map
  | newBare => exact Record.Keeps.map (Record.addStatement_keeps (by trivial))
  | locate statement location =>
      exact Record.Keeps.map (Record.modifyRecording_keeps fun _ now =>
        Recording.regular_modifyStatement now _ fun _ => id)
  | setHint loop kind value =>
      exact Record.Keeps.map (Record.modifyRecording_keeps fun _ now =>
        Recording.regular_setHint now _ _ _)

/-- What is recorded after an operation is regular, also if the operation failed. -/
theorem Operation.regular_after {byHand : Prop} (operation : Operation)
    (allowed : operation.Builders ∨ byHand) {recorder : Recorder}
    (regular : recorder.recording.Regular byHand) :
    (operation.perform.run.run recorder).2.recording.Regular byHand := by
  have kept := operation.keeps allowed recorder regular
  revert kept
  rcases operation.perform.run.run recorder with ⟨error | answer, next⟩
  · exact id
  · exact id

/-- Whatever host code does, declarations with types apart, it records plain statements. -/
theorem Recorder.Reached.regular {recorder : Recorder} {held : List Expr}
    (reached : Reached recorder held) : recorder.recording.Regular True := by
  induction reached with
  | start recording _ _ =>
      rw [recording]
      exact Recording.regular_empty
  | perform _ operation _ hypothesis => exact operation.regular_after (.inr trivial) hypothesis
  | meanwhile _ recording _ _ _ _ hypothesis =>
      rw [recording]
      exact hypothesis

/-- What host code can come to by recording if it leaves declarations to
builders, with the expressions that it was answered on the way. -/
inductive Recorder.Composed : Recorder → List Expr → Prop where
  | start {recorder : Recorder} (recording : recorder.recording = .empty)
      (groups : recorder.groups = #[]) (scopes : recorder.builder.stack = []) :
      Composed recorder []
  | perform {recorder : Recorder} {held : List Expr} (composed : Composed recorder held)
      (operation : Operation) (builders : operation.Builders)
      (given : ∀ value ∈ operation.values, ∀ expr ∈ value.exprs, recorder.Offers held expr) :
      Composed (operation.perform.run.run recorder).2
        (Operation.answered (operation.perform.run.run recorder).1 ++ held)
  | meanwhile {recorder next : Recorder} {held : List Expr} (composed : Composed recorder held)
      (recording : next.recording = recorder.recording)
      (keys : recorder.supply.key ≤ next.supply.key)
      (identifiers : recorder.supply.identifier ≤ next.supply.identifier)
      (groups : ∀ group, ∀ expr ∈ next.group group, recorder.Offers held expr)
      (scopes : ∀ guard ∈ next.builder.stack, ∀ expr ∈ guard.scope.exprs,
        recorder.Offers held expr) :
      Composed next held

namespace Recorder.Composed

variable {recorder : Recorder} {held : List Expr}

theorem reached (composed : Composed recorder held) : Reached recorder held := by
  induction composed with
  | start recording groups scopes => exact .start recording groups scopes
  | perform _ operation _ given hypothesis => exact hypothesis.perform operation given
  | meanwhile _ recording keys identifiers groups scopes hypothesis =>
      exact hypothesis.meanwhile recording keys identifiers groups scopes

theorem plain (composed : Composed recorder held) : recorder.recording.Plain := by
  suffices regular : recorder.recording.Regular False from
    fun statement => StatementKind.regular_false.mp (regular statement)
  induction composed with
  | start recording _ _ =>
      rw [recording]
      exact Recording.regular_empty
  | perform _ operation builders _ hypothesis =>
      exact operation.regular_after (.inl builders) hypothesis
  | meanwhile _ recording _ _ _ _ hypothesis =>
      rw [recording]
      exact hypothesis

/-- An operation on what was answered before succeeds with an answer. -/
theorem step (composed : Composed recorder held) (operation : Operation) (answer : HostValue)
    (builders : operation.Builders)
    (given : ∀ value ∈ operation.values, ∀ expr ∈ value.exprs, expr ∈ held)
    (ends : (operation.perform.run.run recorder).1 = .ok answer) :
    Composed (operation.perform.run.run recorder).2 (answer.exprs ++ held) := by
  have next := composed.perform operation builders fun value member expr inside =>
    .held (given value member expr inside)
  rw [ends] at next
  exact next

end Recorder.Composed

/-- The body of a block that host code can come to if it leaves declarations to
builders. -/
def Stmt.Composed (body : List Stmt) : Prop :=
  ∃ recorder held block, Recorder.Composed recorder held ∧ recorder.recording.body block = body

namespace Stmt.Composed

variable {body : List Stmt}

theorem recorded (composed : Stmt.Composed body) : Stmt.Recorded body := by
  obtain ⟨recorder, held, block, composed, same⟩ := composed
  exact ⟨recorder, held, block, composed.reached, same⟩

theorem plain (composed : Stmt.Composed body) : Stmt.BlockPlain body := by
  obtain ⟨recorder, held, block, composed, rfl⟩ := composed
  exact Recording.plain_unfold composed.plain _ _

end Stmt.Composed

theorem Stmt.Recorded.counted {body : List Stmt} (recorded : Stmt.Recorded body) :
    Stmt.BlockCounted body := by
  obtain ⟨recorder, held, block, reached, rfl⟩ := recorded
  exact Recording.counted_unfold reached.regular _ _

end FieldKernel
