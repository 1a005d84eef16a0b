import FieldKernel.Proofs.Recording.Operators

/-!
# Recording what was made

Whatever host code records, in whatever order, was made before: recorded
statements, index groups and scopes hold nothing else.  So the nodes of
recorded code are known by their keys, and its variables by their identifiers.
-/

namespace FieldKernel

variable {made : Set Expr}

/-- All expressions in recorded statements were made. -/
def Recording.Made (made : Set Expr) (recording : Recording) : Prop :=
  ∀ statement, ∀ expr ∈ (recording.statement statement).kind.exprs, expr ∈ made

namespace Recording

variable {recording : Recording}

theorem made_empty : empty.Made made := by
  simp [Made, empty, statement, StatementKind.exprs]

theorem made_addStatement (holds : recording.Made made) {kind : StatementKind}
    (given : ∀ expr ∈ kind.exprs, expr ∈ made) : (recording.addStatement kind).2.Made made := by
  intro statement expr member
  simp only [addStatement, Recording.statement, Array.getElem?_push] at member
  split at member
  · exact given expr member
  · exact holds statement expr member

/-- A new block is empty. -/
theorem made_addBlock (holds : recording.Made made) (owner? : Option Nat) (label : String) :
    (recording.addBlock owner? label).2.Made made :=
  holds

theorem made_addBranch (holds : recording.Made made) {condition : HostValue}
    (given : condition.Made made) : (recording.addBranch condition).2.Made made :=
  made_addStatement (made_addBlock (made_addBlock holds _ _) _ _) given

theorem made_addLoop (holds : recording.Made made) {vars : List Variable} {source : LoopSource}
    (givenSource : ∀ expr ∈ source.roots, expr ∈ made)
    (givenVars : ∀ var ∈ vars, .identifier var ∈ made) :
    (recording.addLoop vars source).2.Made made := by
  refine made_addStatement (made_addBlock holds _ _) fun expr member => ?_
  simp only [StatementKind.exprs, List.mem_append, List.mem_map] at member
  rcases member with member | ⟨var, member, rfl⟩
  · exact givenSource expr member
  · exact givenVars var member

/-- A statement can be changed in what it was not made with. -/
theorem made_modifyStatement (holds : recording.Made made) (id : Nat)
    {change : Statement → Statement}
    (same : ∀ statement, (change statement).kind.exprs = statement.kind.exprs) :
    (recording.modifyStatement id change).Made made := by
  intro statement expr member
  simp only [modifyStatement, Recording.statement, Array.getElem?_modify] at member
  split at member
  · next equal =>
    subst equal
    cases found : recording.statements[id]? with
    | none => simp [found, StatementKind.exprs] at member
    | some entry =>
        simp only [found, Option.map_some, Option.getD_some, same] at member
        exact holds id expr (by simpa [Recording.statement, found] using member)
  · exact holds statement expr member

theorem made_append (holds : recording.Made made) (block statement : Nat) :
    (recording.append block statement).Made made :=
  made_modifyStatement holds statement fun _ => rfl

theorem made_modifyKind (holds : recording.Made made) (statement : Nat)
    {change : StatementKind → StatementKind} (same : ∀ kind, (change kind).exprs = kind.exprs) :
    (recording.modifyKind statement change).Made made :=
  made_modifyStatement holds statement fun entry => same entry.kind

theorem made_markOpen (holds : recording.Made made) (statement : Nat) (mark : Option Branch) :
    (recording.markOpen statement mark).Made made :=
  made_modifyKind holds statement fun kind => by cases kind <;> rfl

theorem made_setHint (holds : recording.Made made) (loop : Nat) (kind : HintKind)
    (value : HintValue) : (recording.setHint loop kind value).Made made :=
  made_modifyKind holds loop fun kind => by cases kind <;> rfl

/-- Nothing but what was made is in the tree of a block, down to any depth. -/
theorem made_unfold (holds : recording.Made made) (depth block : Nat) :
    ∀ root ∈ Stmt.blockRoots (recording.unfold depth block), root ∈ made := by
  induction depth generalizing block with
  | zero => simp [unfold, Stmt.blockRoots, Stmt.roots]
  | succ depth hypothesis =>
      have ofValue {value : HostValue} (given : ∀ expr ∈ value.exprs, expr ∈ made) :
          ∀ root ∈ value.roots, root ∈ made := by
        intro root member
        cases value with
        | expr value => exact given root (by simpa [HostValue.exprs, HostValue.roots] using member)
        | _ => simp [HostValue.roots] at member
      have each (statement : Nat) :
          ∀ root ∈ (stmtOf (recording.unfold depth) (recording.statement statement)).roots,
            root ∈ made := by
        have given := holds statement
        intro root member
        revert given member
        obtain ⟨kind, parent?, location?⟩ := recording.statement statement
        cases kind with
        | alloca identifier type => simp [stmtOf, Stmt.roots]
        | assign target value => exact fun given member => given root member
        | load place => exact fun given member => given root member
        | store place value => exact fun given member => given root member
        | print value label =>
            exact fun given member => ofValue (fun expr inside => given expr
              (List.mem_append_left _ inside)) root member
        | branch condition onTrue onFalse open? =>
            intro given member
            simp only [stmtOf, Stmt.roots, List.mem_append] at member
            rcases member with (member | member) | member
            · exact ofValue given root member
            · exact hypothesis onTrue root member
            · exact hypothesis onFalse root member
        | loop vars source body schedule =>
            intro given member
            simp only [stmtOf, Stmt.roots, List.mem_append] at member
            rcases member with member | member
            · exact given root (by simpa [StatementKind.exprs] using member)
            · exact hypothesis body root member
        | bare => simp [stmtOf, Stmt.roots]
      rw [unfold]
      induction (recording.block block).statements with
      | nil => simp [Stmt.blockRoots]
      | cons first rest others =>
          intro root member
          simp only [List.map_cons, Stmt.blockRoots, List.mem_append] at member
          rcases member with member | member
          · exact each first root member
          · exact others root member

end Recording

/-- What a recorder works on was made, and numbers are taken from its supply. -/
structure Recorder.Sound (made : Set Expr) (recorder : Recorder) : Prop where
  ledger : Ledger made recorder.supply
  recording : recorder.recording.Made made
  groups : recorder.toObjects.GroupsMade made
  scopes : ∀ guard ∈ recorder.builder.stack, guard.scope.Made made

/-- An attempt to record something that was made. -/
def Record.Makes {α : Type} (made : Set Expr) (attempt : Record α)
    (answers : Set Expr → α → Prop) : Prop :=
  FieldKernel.Makes Recorder.Sound made attempt answers

namespace Record

section Rules

variable {α β : Type} {answers : Set Expr → α → Prop} {finds : Set Expr → β → Prop}

theorem Makes.pure {result : α} (holds : answers made result) :
    (pure result : Record α).Makes made answers :=
  FieldKernel.Makes.pure holds

theorem Makes.throw {error : Error} : (throw error : Record α).Makes made answers :=
  FieldKernel.Makes.throw

theorem Makes.bind {attempt : Record α} {next : α → Record β}
    (first : attempt.Makes made answers)
    (second : ∀ more result, made ⊆ more → answers more result → (next result).Makes more finds) :
    (attempt >>= next).Makes made finds :=
  FieldKernel.Makes.bind first second

theorem Makes.map {attempt : Record α} {change : α → β} (first : attempt.Makes made answers)
    (holds : ∀ more result, answers more result → finds more (change result)) :
    (change <$> attempt).Makes made finds :=
  FieldKernel.Makes.map first holds

theorem Makes.get {next : Recorder → Record α}
    (second : ∀ recorder, recorder.Sound made → (next recorder).Makes made answers) :
    (get >>= next : Record α).Makes made answers :=
  fun recorder now => second recorder now recorder now

theorem Makes.modify {change : Recorder → Recorder}
    (keeps : ∀ recorder, recorder.Sound made → (change recorder).Sound made) :
    (modify change : Record Unit).Makes made fun _ _ => True :=
  fun recorder now => ⟨made, subset_rfl, keeps recorder now, trivial⟩

theorem Makes.thrown {error : Error} {next : α → Record β} :
    ((MonadExcept.throw error : Record α) >>= next).Makes made finds :=
  have thrown : Makes made (MonadExcept.throw error : Record α) fun _ _ => False := .throw
  thrown.bind fun _ _ _ => False.elim

/-- What follows on a question is recorded for its answer. -/
theorem Makes.ask {question : Ask α} {next : α → Record β}
    (second : ∀ recorder : Recorder, recorder.Sound made → ∀ result,
      question recorder.toObjects = .ok result → (next result).Makes made finds) :
    (liftM question >>= next : Record β).Makes made finds := by
  have asked : Makes made (liftM question : Record α)
      fun more result => more = made ∧ (next result).Makes made finds := by
    intro recorder now
    have run : (liftM question : Record α).run.run recorder =
        (question recorder.toObjects, recorder) := rfl
    rw [run]
    cases outcome : question recorder.toObjects with
    | error error => exact ⟨made, subset_rfl, now⟩
    | ok result => exact ⟨made, subset_rfl, now, rfl, second recorder now result outcome⟩
  refine asked.bind ?_
  rintro more result _ ⟨rfl, makes⟩
  exact makes

theorem Makes.build {attempt : Build α}
    (builds : ∀ objects : Objects, objects.GroupsMade made → attempt.Makes objects made answers) :
    (build attempt).Makes made answers := by
  intro recorder now
  have ends := builds recorder.toObjects now.groups recorder.supply now.ledger
  have sound {more : Set Expr} {supply : Supply} (grows : made ⊆ more)
      (ledger : Ledger more supply) : ({ recorder with supply := supply } : Recorder).Sound more :=
    ⟨ledger, fun id expr member => grows (now.recording id expr member),
      fun id expr member => grows (now.groups id expr member),
      fun guard member => (now.scopes guard member).mono grows⟩
  have run : (Record.build attempt).run.run recorder =
      (((attempt.run recorder.toObjects).run.run recorder.supply).1,
        { recorder with
          supply := ((attempt.run recorder.toObjects).run.run recorder.supply).2 }) := rfl
  rw [run]
  revert ends
  rcases (attempt.run recorder.toObjects).run.run recorder.supply with ⟨error | result, supply⟩
  · rintro ⟨more, grows, ledger⟩
    exact ⟨more, grows, sound grows ledger⟩
  · rintro ⟨more, grows, ledger, holds⟩
    exact ⟨more, grows, sound grows ledger, holds⟩

end Rules

/-- Nothing is said about the answer. -/
abbrev Done {α : Type} (_ : Set Expr) (_ : α) : Prop :=
  True

theorem report_makes (message : Except HostFault String) : (report message).Makes made Done :=
  .modify fun _ now => ⟨now.ledger, now.recording, now.groups, now.scopes⟩

theorem modifyRecording_makes {change : Recording → Recording}
    (keeps : ∀ recording, recording.Made made → (change recording).Made made) :
    (modifyRecording change).Makes made Done :=
  .modify fun _ now => ⟨now.ledger, keeps _ now.recording, now.groups, now.scopes⟩

theorem modifyBuilder_makes {change : Builder → Builder}
    (keeps : ∀ builder, (∀ guard ∈ builder.stack, guard.scope.Made made) →
      ∀ guard ∈ (change builder).stack, guard.scope.Made made) :
    (modifyBuilder change).Makes made Done :=
  .modify fun _ now => ⟨now.ledger, now.recording, now.groups, keeps _ now.scopes⟩

theorem addTo_makes {addition : Recording → Nat × Recording}
    (keeps : ∀ recording, recording.Made made → (addition recording).2.Made made) :
    (addTo addition).Makes made Done :=
  fun _ now => ⟨made, subset_rfl,
    ⟨now.ledger, keeps _ now.recording, now.groups, now.scopes⟩, trivial⟩

/-- The answer is a value of expressions that were made. -/
abbrev AnswersValue (more : Set Expr) (value : HostValue) : Prop :=
  value.Made more

/-- The answer is a scope opened for expressions that were made. -/
abbrev AnswersGuard (more : Set Expr) (guard : Guard) : Prop :=
  guard.scope.Made more

/-- The answer is a variable that was made. -/
abbrev AnswersVariable (more : Set Expr) (var : Variable) : Prop :=
  .identifier var ∈ more

theorem currentScope_makes : currentScope.Makes made AnswersValue := by
  refine .get fun recorder now => ?_
  have holds := now.scopes
  revert holds
  rcases recorder.builder.stack with _ | ⟨guard, rest⟩
  · exact fun _ => .throw
  · exact fun holds => .pure (holds guard (by simp))

theorem createScope_makes {scope : HostValue} (given : scope.Made made) :
    (createScope scope).Makes made AnswersGuard := by
  refine .get fun recorder now => ?_
  suffices pushed : Makes made _ Done from pushed.bind fun more _ grows _ =>
    (report_makes _).bind fun most _ growsOn _ => .pure (given.mono (grows.trans growsOn))
  refine fun _ _ => ⟨made, subset_rfl, ⟨now.ledger, now.recording, now.groups, ?_⟩, trivial⟩
  intro guard member
  rcases List.mem_cons.mp member with rfl | member
  · exact given
  · exact now.scopes guard member

theorem closeBranch_makes (block : Nat) : (closeBranch block).Makes made Done := by
  refine .get fun recorder now => ?_
  dsimp only
  split
  · split
    · exact modifyRecording_makes fun _ holds => Recording.made_markOpen holds _ _
    · exact .pure trivial
  · exact .pure trivial

theorem popScope_makes : popScope.Makes made AnswersValue := by
  refine .get fun recorder now => ?_
  have holds := now.scopes
  revert holds
  rcases recorder.builder.stack with _ | ⟨guard, rest⟩
  · exact fun _ => .throw
  · intro holds
    dsimp only
    split
    · exact .throw
    · have given : guard.scope.Made made := holds guard (by simp)
      refine (modifyBuilder_makes fun _ _ other member => holds other (by simp [member])).bind
        fun first _ grows _ => ?_
      refine .ask fun _ _ block _ => (closeBranch_makes block).bind fun second _ growsOn _ => ?_
      refine (report_makes _).bind fun third _ growsLast _ => .pure ?_
      exact given.mono ((grows.trans growsOn).trans growsLast)

end Record

end FieldKernel
