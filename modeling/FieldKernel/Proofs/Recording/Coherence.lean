import FieldKernel.Proofs.Recording.Records

/-!
# Recorded code is coherent

Every operation of host code leads from what was made to what was made, so all
that host code can record is told apart by keys and identifiers.
-/

namespace FieldKernel

variable {made : Set Expr}

namespace Record

theorem enterRoot_makes {scope : HostValue} (given : scope.Made made) :
    (enterRoot scope).Makes made AnswersGuard := by
  refine .get fun recorder now => ?_
  split
  · refine (createScope_makes given).bind fun more guard grows holds => ?_
    refine (modifyBuilder_makes fun _ scopes => by exact scopes).bind fun most _ growsOn _ => ?_
    exact .pure (holds.mono growsOn)
  · exact .thrown

theorem exitRoot_makes : exitRoot.Makes made AnswersValue := by
  refine .get fun recorder now => ?_
  dsimp only
  split
  · exact .thrown
  · exact (modifyBuilder_makes fun _ scopes => by exact scopes).bind fun _ _ _ _ => popScope_makes

theorem reset_makes : reset.Makes made Done :=
  modifyBuilder_makes fun _ _ => by simp [Builder.empty]

theorem insertInto_makes (block statement : HostValue) :
    (insertInto block statement).Makes made Done := by
  have inserted (block : Nat) (more : Set Expr) : Makes more (do
      let statement ← Ask.statement statement "parent_block"
      let recording := (← get).recording
      if (recording.statement statement).parent?.isSome then
        throw (.contract (.alreadyOwned (recording.className statement)))
      modifyRecording (·.append block statement)) Done := by
    refine .ask fun _ _ id _ => .get fun recorder _ => ?_
    dsimp only
    split
    · exact .throw
    · exact modifyRecording_makes fun _ holds => Recording.made_append holds _ _
  rw [insertInto.eq_def]
  split
  · exact .throw
  · exact .ask fun _ _ block _ => inserted block _

theorem insert_makes (statement : HostValue) : (insert statement).Makes made Done := by
  refine currentScope_makes.bind fun _ scope _ _ => ?_
  refine (insertInto_makes scope statement).bind fun _ _ _ _ => ?_
  refine .ask fun _ _ id _ => .get fun recorder _ => ?_
  split
  · exact modifyBuilder_makes fun _ scopes => scopes
  · exact .pure trivial

theorem record_makes {addition : Recording → Nat × Recording}
    (keeps : ∀ more, made ⊆ more → ∀ recording, recording.Made more →
      (addition recording).2.Made more) :
    (record addition).Makes made Done := by
  refine currentScope_makes.bind fun more scope grows _ => ?_
  refine (addTo_makes (keeps more grows)).bind fun _ statement _ _ => ?_
  exact (insert_makes _).bind fun _ _ _ _ => .pure trivial

theorem last?_makes : last?.Makes made Done := by
  refine currentScope_makes.bind fun _ scope _ _ => ?_
  exact .ask fun _ _ block _ => .get fun recorder _ => .pure trivial

theorem alloca_makes (name? : Option String) :
    (alloca name?).Makes made AnswersVariable := by
  refine (Makes.build fun _ _ => Build.freshVariable_makes name?).bind fun more var grows holds => ?_
  refine (record_makes fun _ _ _ recorded => Recording.made_addStatement recorded ?_).bind
    fun _ _ growsOn _ => .pure (growsOn holds)
  simp [StatementKind.exprs]

theorem assignable_made {target : HostValue} (given : target.Made made) {objects : Objects}
    {result : Expr} (found : assignable target objects = .ok result) : result ∈ made := by
  rw [assignable.eq_def] at found
  split at found
  · split at found
    · cases found
      exact HostValue.made_expr.mp given
    · cases found
  · obtain ⟨_, _, thrown⟩ := Ask.bind_eq_ok.mp found
    cases thrown

/-- A value that is read is made before it is recorded. -/
theorem valueExpr_makes {value : HostValue} (given : value.Made made) :
    (build (Build.valueExpr value)).Makes made fun more expr => expr ∈ more :=
  .build fun _ _ => Build.valueExpr_makes given

theorem assign_makes {target value : HostValue} (givenTarget : target.Made made)
    (givenValue : value.Made made) : (assign target value).Makes made Done := by
  refine .ask fun _ _ target found => ?_
  have holdsTarget := assignable_made givenTarget found
  refine (valueExpr_makes givenValue).bind fun first value grows holdsValue => ?_
  refine record_makes fun more growsMore _ recorded => Recording.made_addStatement recorded ?_
  simpa [StatementKind.exprs] using ⟨growsMore (grows holdsTarget), growsMore holdsValue⟩

theorem var_makes {value : HostValue} (given : value.Made made) (name? : Option String) :
    (var value name?).Makes made AnswersVariable := by
  refine (alloca_makes name?).bind fun more var grows holds => ?_
  refine (assign_makes (HostValue.made_expr.mpr holds) (given.mono grows)).bind
    fun _ _ growsOn _ => .pure (growsOn holds)

theorem print_makes {value label : HostValue} (givenValue : value.Made made)
    (givenLabel : label.Made made) : (print value label).Makes made Done := by
  refine (valueExpr_makes givenValue).bind fun first value grows holds => ?_
  refine record_makes fun more growsMore _ recorded => Recording.made_addStatement recorded ?_
  intro expr member
  rcases List.mem_append.mp member with member | member
  · rw [List.mem_singleton.mp member]
    exact growsMore holds
  · exact growsMore (grows (givenLabel expr member))

theorem beginIf_makes {condition : HostValue} (given : condition.Made made) :
    (beginIf condition).Makes made Done := by
  refine (valueExpr_makes given).bind fun first condition _ holds => ?_
  exact record_makes fun more growsMore _ recorded =>
    Recording.made_addBranch recorded (HostValue.made_expr.mpr (growsMore holds))

theorem enterBranch_makes (branch : Branch) : (enterBranch branch).Makes made AnswersGuard := by
  refine last?_makes.bind fun _ result _ _ => .get fun recorder _ => ?_
  obtain ⟨block, last?⟩ := result
  dsimp only
  split
  · split
    · exact .ask fun _ _ _ _ => .throw
    · refine (modifyRecording_makes fun _ holds => Recording.made_markOpen holds _ _).bind
        fun _ _ _ _ => createScope_makes ?_
      simp [HostValue.Made, HostValue.exprs]
  · split
    · exact .ask fun _ _ _ _ => .throw
    · exact .throw

theorem loopVariables_made {objects : Objects} {values : List HostValue} {vars : List Variable}
    (given : ∀ value ∈ values, value.Made made)
    (found : loopVariables values objects = .ok vars) :
    ∀ var ∈ vars, .identifier var ∈ made := by
  intro var member
  obtain ⟨value, inside, answered⟩ := Ask.asked_of_mem found member
  split at answered
  · cases answered
    exact HostValue.made_expr.mp (given _ inside)
  · obtain ⟨_, _, thrown⟩ := Ask.bind_eq_ok.mp answered
    cases thrown

theorem loopField_made {objects : Objects} {value : HostValue} {field : Field}
    (given : value.Made made) (found : loopField value objects = .ok field) :
    .field field ∈ made := by
  cases isField : value.field? with
  | none =>
      simp only [loopField, isField] at found
      obtain ⟨_, _, thrown⟩ := Ask.bind_eq_ok.mp found
      cases thrown
  | some declared =>
      simp only [loopField, isField] at found
      cases found
      exact HostValue.made_expr.mp (HostValue.eq_of_field? isField ▸ given)

/-- The loop over a range between bounds that were made. -/
theorem rangeLoop_makes {first last : Build Expr} {counter : HostValue} {next : List Variable →
      LoopSource → Record Nat} (givenCounter : counter.Made made)
    (makesFirst : ∀ objects more, made ⊆ more → first.Makes objects more Build.Answers)
    (makesLast : ∀ objects more, made ⊆ more → last.Makes objects more Build.Answers)
    (recorded : ∀ more vars source, (∀ expr ∈ LoopSource.roots source, expr ∈ more) →
      (∀ var ∈ vars, .identifier var ∈ more) → (next vars source).Makes more Done) :
    Makes made (do
      let first ← build first
      let last ← build last
      let vars ← loopVariables [counter]
      next vars (.range first last)) Done := by
  refine (Makes.build fun objects _ => makesFirst objects made subset_rfl).bind
    fun one first grows holdsFirst => ?_
  refine (Makes.build fun objects _ => makesLast objects one grows).bind
    fun two last growsOn holdsLast => ?_
  have given : ∀ value ∈ [counter], value.Made two := by
    intro value member
    rw [List.mem_singleton.mp member]
    exact givenCounter.mono (grows.trans growsOn)
  refine .ask fun _ _ vars found => ?_
  refine recorded _ vars _ ?_ (loopVariables_made given found)
  simpa [LoopSource.roots] using ⟨growsOn holdsFirst, holdsLast⟩

theorem beginRange_makes {counter first last : HostValue} (givenCounter : counter.Made made)
    (givenFirst : first.Made made) (givenLast : last.Made made) :
    (beginRange counter first last).Makes made Done := by
  have opened : ∀ more vars source, (∀ expr ∈ LoopSource.roots source, expr ∈ more) →
      (∀ var ∈ vars, .identifier var ∈ more) →
      (record (·.addLoop vars source)).Makes more Done :=
    fun _ _ _ ofSource ofVars => record_makes fun _ grows _ recorded =>
      Recording.made_addLoop recorded (fun expr member => grows (ofSource expr member))
        fun var member => grows (ofVars var member)
  have looped := rangeLoop_makes givenCounter
    (fun _ _ grows => Build.valueExpr_makes (givenFirst.mono grows))
    (fun _ _ grows => Build.valueExpr_makes (givenLast.mono grows)) opened
  exact looped

/-- A loop over the elements of a field that was made. -/
theorem addElements_made {recording : Recording} (holds : recording.Made made) {field : Field}
    (ofField : .field field ∈ made) {vars : List Variable}
    (ofVars : ∀ var ∈ vars, .identifier var ∈ made) :
    (recording.addLoop vars (.elements field)).2.Made made :=
  Recording.made_addLoop holds (by simpa [LoopSource.roots] using ofField) ofVars

theorem beginElements_makes {vars field : HostValue} (givenVars : vars.Made made)
    (givenField : field.Made made) : (beginElements vars field).Makes made Done := by
  refine (Makes.build fun _ groups => Build.group_makes groups givenVars).bind
    fun first group grows holdsGroup => ?_
  split
  · exact .thrown
  refine .ask fun _ _ declared found => ?_
  have holdsField := loopField_made (givenField.mono grows) found
  refine .ask fun _ _ vars found => ?_
  have holdsVars := loopVariables_made (by simpa using holdsGroup) found
  have recorded : (record (·.addLoop vars (.elements declared))).Makes first Done :=
    record_makes fun _ growsOn _ now =>
      addElements_made now (growsOn holdsField) fun var member => growsOn (holdsVars var member)
  refine .get fun recorder _ => ?_
  split
  · exact recorded
  · dsimp only
    split
    · exact .thrown
    · exact recorded

theorem enterBody_makes : enterBody.Makes made AnswersGuard := by
  refine last?_makes.bind fun _ result _ _ => .get fun recorder _ => ?_
  dsimp only
  split
  · exact createScope_makes (by simp [HostValue.Made, HostValue.exprs])
  · exact .throw

theorem openRange_makes {counter first last : HostValue} (givenCounter : counter.Made made)
    (givenFirst : first.Made made) (givenLast : last.Made made) :
    (openRange counter first last).Makes made AnswersGuard :=
  (beginRange_makes givenCounter givenFirst givenLast).bind fun _ _ _ _ => enterBody_makes

theorem openElements_makes {vars field : HostValue} (givenVars : vars.Made made)
    (givenField : field.Made made) : (openElements vars field).Makes made AnswersGuard :=
  (beginElements_makes givenVars givenField).bind fun _ _ _ _ => enterBody_makes

theorem hint_makes (kind : HintKind) (value : HostValue) : (hint kind value).Makes made Done := by
  refine .get fun recorder _ => ?_
  split
  · exact .throw
  · refine .ask fun _ _ value _ => ?_
    exact (modifyRecording_makes fun _ holds => Recording.made_setHint holds _ _ _).bind
      fun _ _ _ _ => .pure trivial

theorem leave_makes (guard : Guard) (failed : Bool) : (leave guard failed).Makes made Done := by
  refine .get fun recorder _ => ?_
  split
  · exact popScope_makes.bind fun _ _ _ _ => .pure trivial
  · split
    · exact .throw
    · exact .pure trivial

theorem newAssign_makes {target value : HostValue} (givenTarget : target.Made made)
    (givenValue : value.Made made) : (newAssign target value).Makes made Done := by
  refine (valueExpr_makes givenValue).bind fun first value grows holdsValue => ?_
  refine .ask fun _ _ target found => ?_
  have holdsTarget := Ask.expr_made (givenTarget.mono grows) found
  split
  · refine addTo_makes fun _ holds => Recording.made_addStatement holds ?_
    simpa [StatementKind.exprs] using ⟨holdsTarget, holdsValue⟩
  · exact .thrown

theorem newStore_makes {place value : HostValue} (givenPlace : place.Made made)
    (givenValue : value.Made made) : (newStore place value).Makes made Done := by
  rw [newStore.eq_def]
  split
  · refine (valueExpr_makes givenValue).bind fun first value grows holds => ?_
    refine addTo_makes fun _ recorded => Recording.made_addStatement recorded ?_
    simpa [StatementKind.exprs, Expr.ofElement] using
      ⟨grows (HostValue.made_expr.mp givenPlace), holds⟩
  · exact .ask fun _ _ _ _ => .throw

theorem newLoad_makes {place : HostValue} (given : place.Made made) :
    (newLoad place).Makes made Done := by
  refine .ask fun _ _ element found => addTo_makes fun _ recorded => ?_
  have holds := Build.placeToLoad_made given found
  exact Recording.made_addStatement recorded (by simpa [StatementKind.exprs] using holds)

theorem newAlloca_makes (named : HostValue) (type? : Option HostValue) :
    (newAlloca named type?).Makes made Done := by
  have added (identifier : Identifier) (type : DataType) (more : Set Expr) :
      (addTo (·.addStatement (.alloca identifier type))).Makes more Done :=
    addTo_makes fun _ recorded =>
      Recording.made_addStatement recorded (by simp [StatementKind.exprs])
  refine .ask fun _ _ identifier _ => ?_
  split
  · exact .ask fun _ _ type _ => added _ _ _
  · exact added _ _ _

theorem newPrint_makes {value label : HostValue} (givenValue : value.Made made)
    (givenLabel : label.Made made) : (newPrint value label).Makes made Done :=
  addTo_makes fun _ recorded => Recording.made_addStatement recorded fun expr member =>
    (List.mem_append.mp member).elim (givenValue expr) (givenLabel expr)

theorem newRange_makes {counter first last : HostValue} (givenCounter : counter.Made made)
    (givenFirst : first.Made made) (givenLast : last.Made made) :
    (newRange counter first last).Makes made Done := by
  have added : ∀ more vars source, (∀ expr ∈ LoopSource.roots source, expr ∈ more) →
      (∀ var ∈ vars, .identifier var ∈ more) →
      (addTo (·.addLoop vars source)).Makes more Done :=
    fun _ _ _ ofSource ofVars => addTo_makes fun _ recorded =>
      Recording.made_addLoop recorded ofSource ofVars
  have looped := rangeLoop_makes givenCounter
    (fun _ _ grows => Build.expr_makes (givenFirst.mono grows))
    (fun _ _ grows => Build.expr_makes (givenLast.mono grows)) added
  exact looped

theorem newElements_makes {vars field : HostValue} (givenVars : vars.Made made)
    (givenField : field.Made made) : (newElements vars field).Makes made Done := by
  refine .ask fun _ _ declared found => ?_
  have holdsField := loopField_made givenField found
  refine .ask fun _ now members found => ?_
  have holdsMembers := Ask.members_made now.groups givenVars found
  refine .ask fun _ _ vars found => addTo_makes fun _ recorded => ?_
  exact addElements_made recorded holdsField (loopVariables_made holdsMembers found)

end Record

/-- Every operation leads from what was made to what was made, and answers with
what was made. -/
theorem Operation.makes (operation : Operation)
    (given : ∀ value ∈ operation.values, value.Made made) :
    operation.perform.Makes made Record.AnswersValue := by
  have ofStatement {attempt : Record Nat} (makes : attempt.Makes made Record.Done) :
      (HostValue.statement <$> attempt).Makes made Record.AnswersValue :=
    makes.map fun _ _ _ => HostValue.made_statement
  have nothing {attempt : Record Unit} (makes : attempt.Makes made Record.Done) :
      ((fun _ => HostValue.none) <$> attempt).Makes made Record.AnswersValue :=
    makes.map fun _ _ _ => by simp [HostValue.Made, HostValue.exprs]
  have guarded {attempt : Record Guard} (makes : attempt.Makes made Record.AnswersGuard) :
      (ofGuard <$> attempt).Makes made Record.AnswersValue :=
    makes.map fun _ _ holds => by simpa [HostValue.Made, HostValue.exprs, ofGuard] using holds
  have declared {attempt : Record Variable} (makes : attempt.Makes made Record.AnswersVariable) :
      (ofVariable <$> attempt).Makes made Record.AnswersValue :=
    makes.map fun _ _ holds => HostValue.made_expr.mpr holds
  cases operation with
  | build building => exact .build fun _ groups => building.makes groups given
  | createScope scope => exact guarded (Record.createScope_makes (given scope (by simp [values])))
  | popScope => exact Record.popScope_makes
  | enterRoot scope => exact guarded (Record.enterRoot_makes (given scope (by simp [values])))
  | exitRoot => exact Record.exitRoot_makes
  | reset => exact nothing Record.reset_makes
  | leave guard failed => exact nothing (Record.leave_makes guard failed)
  | insert statement => exact nothing (Record.insert_makes statement)
  | insertInto block statement => exact nothing (Record.insertInto_makes block statement)
  | alloca name? => exact declared (Record.alloca_makes name?)
  | assign target value =>
      exact ofStatement (Record.assign_makes (given target (by simp [values]))
        (given value (by simp [values])))
  | var value name? => exact declared (Record.var_makes (given value (by simp [values])) name?)
  | print value label =>
      exact ofStatement (Record.print_makes (given value (by simp [values]))
        (given label (by simp [values])))
  | beginIf condition =>
      exact ofStatement (Record.beginIf_makes (given condition (by simp [values])))
  | enterBranch branch => exact guarded (Record.enterBranch_makes branch)
  | beginRange counter first last =>
      exact ofStatement (Record.beginRange_makes (given counter (by simp [values]))
        (given first (by simp [values])) (given last (by simp [values])))
  | beginElements vars field =>
      exact ofStatement (Record.beginElements_makes (given vars (by simp [values]))
        (given field (by simp [values])))
  | enterBody => exact guarded Record.enterBody_makes
  | openRange counter first last =>
      exact guarded (Record.openRange_makes (given counter (by simp [values]))
        (given first (by simp [values])) (given last (by simp [values])))
  | openElements vars field =>
      exact guarded (Record.openElements_makes (given vars (by simp [values]))
        (given field (by simp [values])))
  | hint kind value => exact ofStatement (Record.hint_makes kind value)
  | newBlock label =>
      exact Record.Makes.map (Record.addTo_makes fun _ holds => holds)
        fun _ _ _ => by simp [HostValue.Made, HostValue.exprs]
  | newAssign target value =>
      exact ofStatement (Record.newAssign_makes (given target (by simp [values]))
        (given value (by simp [values])))
  | newStore place value =>
      exact ofStatement (Record.newStore_makes (given place (by simp [values]))
        (given value (by simp [values])))
  | newLoad place => exact ofStatement (Record.newLoad_makes (given place (by simp [values])))
  | newAlloca named type? => exact ofStatement (Record.newAlloca_makes named type?)
  | newPrint value label =>
      exact ofStatement (Record.newPrint_makes (given value (by simp [values]))
        (given label (by simp [values])))
  | newBranch condition =>
      exact ofStatement (Record.addTo_makes fun _ holds =>
        Recording.made_addBranch holds (given condition (by simp [values])))
  | newRange counter first last =>
      exact ofStatement (Record.newRange_makes (given counter (by simp [values]))
        (given first (by simp [values])) (given last (by simp [values])))
  | newElements vars field =>
      exact ofStatement (Record.newElements_makes (given vars (by simp [values]))
        (given field (by simp [values])))
  | newBare =>
      exact ofStatement (Record.addTo_makes fun _ holds =>
        Recording.made_addStatement holds (by simp [StatementKind.exprs]))
  | locate statement location =>
      exact nothing (Record.modifyRecording_makes fun _ holds =>
        Recording.made_modifyStatement holds _ fun _ => rfl)
  | setHint loop kind value =>
      exact nothing (Record.modifyRecording_makes fun _ holds =>
        Recording.made_setHint holds _ _ _)

namespace Recorder

/-- An operation on what was answered before succeeds with an answer. -/
theorem Reached.step {recorder : Recorder} {held : List Expr} (reached : Reached recorder held)
    (operation : Operation) (answer : HostValue)
    (given : ∀ value ∈ operation.values, ∀ expr ∈ value.exprs, expr ∈ held)
    (ends : (operation.perform.run.run recorder).1 = .ok answer) :
    Reached (operation.perform.run.run recorder).2 (answer.exprs ++ held) := by
  have next := reached.perform operation fun value member expr inside =>
    .held (given value member expr inside)
  rw [ends] at next
  exact next

/-- All that host code can take was made, if what it was answered was. -/
theorem Offers.mem_made {recorder : Recorder} {held : List Expr} (now : recorder.Sound made)
    (holds : ∀ expr ∈ held, expr ∈ made) {expr : Expr} (offered : recorder.Offers held expr) :
    expr ∈ made := by
  induction offered with
  | held member => exact holds _ member
  | recorded member => exact now.recording _ _ member
  | grouped member => exact now.groups _ _ member
  | operand _ below hypothesis => exact now.ledger.occurring.operand hypothesis below

/-- What host code comes to was made of numbers from one supply. -/
theorem Reached.sound {recorder : Recorder} {held : List Expr}
    (reached : Reached recorder held) :
    ∃ made, recorder.Sound made ∧ ∀ expr ∈ held, expr ∈ made := by
  induction reached with
  | @start recorder recording groups scopes =>
      refine ⟨∅, ⟨.empty _, ?_, ?_, ?_⟩, by simp⟩
      · rw [recording]
        exact Recording.made_empty
      · simp [Objects.GroupsMade, Objects.group, groups]
      · simp [scopes]
  | @perform recorder held _ operation given hypothesis =>
      obtain ⟨made, now, holds⟩ := hypothesis
      have given : ∀ value ∈ operation.values, value.Made made :=
        fun value member expr inside => (given value member expr inside).mem_made now holds
      have ends := operation.makes given recorder now
      revert ends
      rcases operation.perform.run.run recorder with ⟨error | answer, next⟩
      · rintro ⟨more, grows, sound⟩
        exact ⟨more, sound, fun expr member => grows (holds expr member)⟩
      · rintro ⟨more, grows, sound, answered⟩
        refine ⟨more, sound, fun expr member => ?_⟩
        rcases List.mem_append.mp member with member | member
        · exact answered expr member
        · exact grows (holds expr member)
  | meanwhile _ recording keys identifiers groups scopes hypothesis =>
      obtain ⟨made, now, holds⟩ := hypothesis
      refine ⟨made, ⟨now.ledger.skip keys identifiers, ?_, ?_, ?_⟩, holds⟩
      · rw [recording]
        exact now.recording
      · exact fun group expr member => (groups group expr member).mem_made now holds
      · exact fun guard member expr inside => (scopes guard member expr inside).mem_made now holds

end Recorder

/-- In recorded code a key is that of one node, and an identifier that of one
variable. -/
theorem Stmt.Recorded.occurring {body : List Stmt} (recorded : Stmt.Recorded body) :
    Occurring (Stmt.Occurs body) := by
  obtain ⟨recorder, held, block, reached, rfl⟩ := recorded
  obtain ⟨made, now, _⟩ := reached.sound
  have known {expr : Expr} (occurs : Stmt.Occurs (recorder.recording.body block) expr) :
      expr ∈ made := by
    induction occurs with
    | root member => exact Recording.made_unfold now.recording _ _ _ member
    | operand _ below hypothesis => exact now.ledger.occurring.operand hypothesis below
  exact ⟨.operand, fun one two => now.ledger.occurring.ofKey (known one) (known two),
    fun one two => now.ledger.occurring.ofIdentifier (known one) (known two)⟩

end FieldKernel
