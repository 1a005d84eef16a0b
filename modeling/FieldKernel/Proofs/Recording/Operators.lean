import FieldKernel.Proofs.Recording.Builds

/-!
# Operators between host values

Operators compute rows and record comparisons along the way, so they are made
of what their operands are made of.
-/

namespace FieldKernel

variable {objects : Objects} {made : Set Expr}

theorem mem_of_memberAt? {α : Type} {items : List α} {position : Int} {item : α}
    (found : memberAt? items position = some item) : item ∈ items := by
  exact List.mem_of_getElem? (Option.ite_none_left_eq_some.mp found).2

namespace Ask

theorem members?_made (groups : objects.GroupsMade made) {row : HostValue}
    {items : List HostValue} (given : row.Made made)
    (found : members? row objects = .ok (some items)) : ∀ item ∈ items, item.Made made := by
  obtain ⟨_, read, answered⟩ := bind_eq_ok.mp found
  cases read
  cases row with
  | list id members =>
      cases answered
      exact HostValue.made_list.mp given
  | tuple id members =>
      cases answered
      exact HostValue.made_tuple.mp given
  | mapping names values =>
      cases answered
      simp
  | text id value =>
      cases answered
      simp
  | group id =>
      cases answered
      simpa using groups id
  | block id =>
      cases answered
      simp
  | _ => cases answered

theorem members_made (groups : objects.GroupsMade made) {row : HostValue}
    {items : List HostValue} (given : row.Made made)
    (found : members row objects = .ok items) : ∀ item ∈ items, item.Made made := by
  obtain ⟨items?, listed, found⟩ := bind_eq_ok.mp found
  split at found
  · cases found
    exact members?_made groups given listed
  · cases found
  · obtain ⟨_, _, thrown⟩ := bind_eq_ok.mp found
    cases thrown

theorem member_made (groups : objects.GroupsMade made) {row position result : HostValue}
    (given : row.Made made) (found : member row position objects = .ok result) :
    result.Made made := by
  obtain ⟨items?, listed, found⟩ := bind_eq_ok.mp found
  cases items? with
  | none =>
      obtain ⟨_, _, thrown⟩ := bind_eq_ok.mp found
      cases thrown
  | some items =>
      have holds := members?_made groups given listed
      cases whole : position.whole? with
      | none =>
          simp only [whole] at found
          obtain ⟨_, _, thrown⟩ := bind_eq_ok.mp found
          cases thrown
      | some place =>
          simp only [whole] at found
          split at found
          · cases found
          · cases taken : memberAt? items place with
            | none =>
                simp only [taken] at found
                cases found
            | some item =>
                simp only [taken] at found
                cases found
                exact holds _ (mem_of_memberAt? taken)

end Ask

namespace HostValue

theorem repeated?_made {id : Nat} {count : Int} {row result : HostValue} (given : row.Made made)
    (found : row.repeated? id count = some result) : result.Made made := by
  have taken {items : List HostValue} (holds : ∀ item ∈ items, item.Made made) :
      ∀ item ∈ times count items, item.Made made := by
    intro item member
    rw [times] at member
    split at member
    · simp at member
    · obtain ⟨_, inside, member⟩ := List.mem_flatten.mp member
      rw [List.eq_of_mem_replicate inside] at member
      exact holds item member
  cases row with
  | text given value =>
      cases found
      exact made_text
  | list given items =>
      cases found
      exact made_list.mpr (taken (made_list.mp given))
  | tuple given items =>
      cases found
      exact made_tuple.mpr (taken (made_tuple.mp given))
  | _ => cases found

theorem joined?_made {id : Nat} {left right result : HostValue} (givenLeft : left.Made made)
    (givenRight : right.Made made) (found : joined? id left right = some result) :
    result.Made made := by
  have joined {one two : List HostValue} (ofOne : ∀ item ∈ one, item.Made made)
      (ofTwo : ∀ item ∈ two, item.Made made) : ∀ item ∈ one ++ two, item.Made made :=
    fun item member => (List.mem_append.mp member).elim (ofOne item) (ofTwo item)
  rw [joined?.eq_def] at found
  split at found <;> cases found
  · exact made_text
  · exact made_list.mpr (joined (made_list.mp givenLeft) (made_list.mp givenRight))
  · exact made_tuple.mpr (joined (made_tuple.mp givenLeft) (made_tuple.mp givenRight))

end HostValue

namespace Build

/-- The answer is a value of expressions that were made. -/
abbrev AnswersValue (more : Set Expr) (value : HostValue) : Prop :=
  value.Made more

theorem item_makes (groups : objects.GroupsMade made) {value key : HostValue}
    (given : value.Made made) (givenKey : key.Made made) :
    (item value key).Makes objects made AnswersValue := by
  rw [item.eq_def]
  split
  · refine (exprs_makes (by simpa using givenKey)).bind fun more keys grows holds => ?_
    refine (elementAt_makes (given.mono grows) holds).bind fun _ _ _ holds => ?_
    exact .pure (by simpa using holds)
  · refine (subscript_makes groups given givenKey).bind fun _ _ _ holds => ?_
    exact .pure (by simpa using holds)
  · refine .ask fun member found => ?_
    have holds := Ask.member_made groups given found
    split
    · exact freshKey_makes.bind fun _ _ _ _ => .pure HostValue.made_text
    · exact .pure holds
  · exact .askLast fun member found => Ask.member_made groups given found

theorem literalOf_makes (outcome : Except HostFault Literal) :
    (literalOf outcome).Makes objects made AnswersValue :=
  freshKey_makes.bind fun _ _ _ _ => .ask fun _ _ => .pure HostValue.made_literal

theorem equalsExpr_makes {expr : Expr} {other : HostValue} (holds : expr ∈ made)
    (given : other.Made made) : (equalsExpr expr other).Makes objects made fun _ _ => True := by
  rw [equalsExpr]
  split
  · exact .pure trivial
  · exact (binaryOp_makes .equal (by simpa using holds) given).bind fun _ _ _ _ => .throw

/-- Comparing two values member by member makes comparisons of members. -/
theorem equality_makes :
    (∀ left right : HostValue, ∀ {made : Set Expr}, left.Made made → right.Made made →
      (equals left right).Makes objects made fun _ _ => True) ∧
    (∀ lefts rights : List HostValue, ∀ {made : Set Expr}, (∀ item ∈ lefts, item.Made made) →
      (∀ item ∈ rights, item.Made made) →
        (equalRows lefts rights).Makes objects made fun _ _ => True) := by
  apply equals.mutual_induct
  case case1 =>
    intro left right made givenLeft givenRight
    rw [equals]
    exact equalsExpr_makes (HostValue.made_expr.mp givenLeft) givenRight
  case case2 =>
    intro left right plain made givenLeft givenRight
    rw [equals]
    · exact equalsExpr_makes (HostValue.made_expr.mp givenRight) givenLeft
    · exact plain
  case case6 =>
    intro id left other right same hypothesis made givenLeft givenRight
    rw [equals, if_pos same]
    exact hypothesis (HostValue.made_list.mp givenLeft) (HostValue.made_list.mp givenRight)
  case case7 =>
    intro id left other right different made givenLeft givenRight
    rw [equals, if_neg different]
    exact .pure trivial
  case case8 =>
    intro id left other right hypothesis made givenLeft givenRight
    rw [equals]
    exact hypothesis (HostValue.made_tuple.mp givenLeft) (HostValue.made_tuple.mp givenRight)
  case case9 =>
    intro left right _ _ _ _ _ _ _ made givenLeft givenRight
    rw [equals] <;> first | assumption | exact .pure trivial
  case case10 =>
    intro left lefts right rights same hypothesis made givenLeft givenRight
    rw [equalRows, if_pos same]
    exact hypothesis (fun item member => givenLeft item (by simp [member]))
      fun item member => givenRight item (by simp [member])
  case case11 =>
    intro left lefts right rights different first others made givenLeft givenRight
    rw [equalRows, if_neg different]
    refine (first (givenLeft left (by simp)) (givenRight right (by simp))).bind
      fun more equal grows _ => ?_
    split
    · exact others (fun item member => (givenLeft item (by simp [member])).mono grows)
        fun item member => (givenRight item (by simp [member])).mono grows
    · exact .pure trivial
  case case13 =>
    intro lefts rights _ _ made givenLeft givenRight
    rw [equalRows] <;> first | assumption | exact .pure trivial
  all_goals
    intros
    simp only [equals, equalRows]
    exact .pure trivial

theorem refuseOperands_makes (op : BinaryOp) (left right : HostValue) :
    Makes objects made (liftM (Ask.refuseOperands op left right : Ask HostValue)) AnswersValue := by
  refine .askLast fun result found => ?_
  obtain ⟨_, _, thrown⟩ := Ask.bind_eq_ok.mp found
  cases thrown

theorem recorded_makes {attempt : Build Expr} (makes : attempt.Makes objects made Answers) :
    (HostValue.expr <$> attempt).Makes objects made AnswersValue :=
  makes.map fun _ _ holds => HostValue.made_expr.mpr holds

/-- Comparing by order records a comparison where an expression decides. -/
theorem comparison_makes (op : BinaryOp) :
    (∀ left right : HostValue, ∀ {made : Set Expr}, left.Made made → right.Made made →
      (compared op left right).Makes objects made AnswersValue) ∧
    (∀ lefts rights : List HostValue, ∀ {made : Set Expr}, (∀ item ∈ lefts, item.Made made) →
      (∀ item ∈ rights, item.Made made) →
        (comparedRows op lefts rights).Makes objects made AnswersValue) := by
  apply compared.mutual_induct
  case case1 =>
    intro left right made givenLeft givenRight
    rw [compared]
    exact recorded_makes (binaryOp_makes op givenLeft givenRight)
  case case2 =>
    intro left right plain made givenLeft givenRight
    rw [compared]
    · exact recorded_makes (binaryOp_makes _ givenRight givenLeft)
    · exact plain
  case case3 =>
    intro id left other right made _ _
    rw [compared]
    exact literalOf_makes _
  case case4 =>
    intro id left other right made _ _
    rw [compared]
    exact .pure HostValue.made_literal
  case case5 =>
    intro id left other right hypothesis made givenLeft givenRight
    rw [compared]
    exact hypothesis (HostValue.made_list.mp givenLeft) (HostValue.made_list.mp givenRight)
  case case6 =>
    intro id left other right hypothesis made givenLeft givenRight
    rw [compared]
    exact hypothesis (HostValue.made_tuple.mp givenLeft) (HostValue.made_tuple.mp givenRight)
  case case7 =>
    intro left right _ _ _ _ _ _ made _ _
    rw [compared] <;> first | assumption | exact refuseOperands_makes op left right
  case case8 =>
    intro left lefts right rights same hypothesis made givenLeft givenRight
    rw [comparedRows, if_pos same]
    exact hypothesis (fun item member => givenLeft item (by simp [member]))
      fun item member => givenRight item (by simp [member])
  case case9 =>
    intro left lefts right rights different others first made givenLeft givenRight
    rw [comparedRows, if_neg different]
    refine (equality_makes.1 left right (givenLeft left (by simp))
      (givenRight right (by simp))).bind fun more equal grows _ => ?_
    split
    · exact others (fun item member => (givenLeft item (by simp [member])).mono grows)
        fun item member => (givenRight item (by simp [member])).mono grows
    · exact first ((givenLeft left (by simp)).mono grows) ((givenRight right (by simp)).mono grows)
  case case10 =>
    intro lefts rights _ made _ _
    rw [comparedRows] <;> first | assumption | exact .pure HostValue.made_literal

theorem joined_makes {left right : HostValue} (givenLeft : left.Made made)
    (givenRight : right.Made made) : (joined left right).Makes objects made AnswersValue := by
  refine freshKey_makes.bind fun more key grows _ => ?_
  split
  · next result found =>
    exact .pure
      (HostValue.joined?_made (givenLeft.mono grows) (givenRight.mono grows) found)
  · split
    · refine .askLast fun result found => ?_
      obtain ⟨_, _, thrown⟩ := Ask.bind_eq_ok.mp found
      cases thrown
    · exact refuseOperands_makes .add left right

theorem repeated_makes {left right : HostValue} (givenLeft : left.Made made)
    (givenRight : right.Made made) : (repeated left right).Makes objects made AnswersValue := by
  have given : (if left.isRow then (left, right) else (right, left)).1.Made made := by
    split
    · exact givenLeft
    · exact givenRight
  rw [repeated]
  generalize (if left.isRow then (left, right) else (right, left)) = chosen at given ⊢
  obtain ⟨row, count⟩ := chosen
  dsimp only at given ⊢
  split
  · exact refuseOperands_makes .mul left right
  · refine .askLast fun result found => ?_
    obtain ⟨_, _, thrown⟩ := Ask.bind_eq_ok.mp found
    cases thrown
  · split
    · exact .throw
    · refine freshKey_makes.bind fun more key grows _ => ?_
      split
      · next result found => exact .pure (HostValue.repeated?_made (given.mono grows) found)
      · exact refuseOperands_makes .mul left right

theorem computed_makes (op : BinaryOp) {left right : HostValue} (givenLeft : left.Made made)
    (givenRight : right.Made made) : (computed op left right).Makes objects made AnswersValue := by
  have equal : (equals left right).Makes objects made fun _ _ => True :=
    equality_makes.1 left right givenLeft givenRight
  rw [computed.eq_def]
  split
  · exact equal.bind fun _ _ _ _ => .pure HostValue.made_literal
  · exact equal.bind fun _ _ _ _ => .pure HostValue.made_literal
  · exact literalOf_makes _
  · exact joined_makes givenLeft givenRight
  · exact repeated_makes givenLeft givenRight
  · split
    · exact (comparison_makes _).1 _ _ givenLeft givenRight
    · exact refuseOperands_makes _ _ _

theorem filledIn_makes (groups : objects.GroupsMade made) (template : String) {value : Expr}
    (holds : value ∈ made) : (filledIn template value).Makes objects made AnswersValue := by
  rw [filledIn]
  split
  · exact freshKey_makes.bind fun _ _ _ _ => .pure HostValue.made_text
  · exact item_makes groups (HostValue.made_expr.mpr holds) HostValue.made_text
  · exact .throw
  · exact .throw
  · split
    · exact .throw
    · exact .throw

theorem operator_makes (groups : objects.GroupsMade made) (op : BinaryOp)
    {left right : HostValue} (givenLeft : left.Made made) (givenRight : right.Made made) :
    (operator op left right).Makes objects made AnswersValue := by
  rw [operator.eq_def]
  split
  · exact (binaryOp_makes op givenLeft givenRight).bind fun _ _ _ holds =>
      .pure (HostValue.made_expr.mpr holds)
  · split
    · exact (binaryOp_makes _ givenRight givenLeft).bind fun _ _ _ holds =>
        .pure (HostValue.made_expr.mpr holds)
    · exact filledIn_makes groups _ (HostValue.made_expr.mp givenRight)
    · split
      · exact refuseOperands_makes _ _ _
      · exact (binaryOp_makes _ givenLeft givenRight).bind fun _ _ _ holds =>
          .pure (HostValue.made_expr.mpr holds)
  · exact computed_makes op givenLeft givenRight

theorem signed_makes (negates : Bool) {operand : HostValue} (given : operand.Made made) :
    (signed negates operand).Makes objects made AnswersValue := by
  rw [signed.eq_def]
  split
  · exact (unaryOp_makes .neg given).bind fun _ _ _ holds => .pure (HostValue.made_expr.mpr holds)
  · exact (unaryOp_makes .bitNot given).bind fun _ _ _ holds =>
      .pure (HostValue.made_expr.mpr holds)
  · exact literalOf_makes _
  · exact literalOf_makes _
  · refine .askLast fun result found => ?_
    obtain ⟨_, _, thrown⟩ := Ask.bind_eq_ok.mp found
    cases thrown

end Build

/-- Host code that makes expressions of what was made is answered what was
made. -/
theorem Building.makes (groups : objects.GroupsMade made) (building : Building)
    (given : ∀ value ∈ building.values, value.Made made) :
    building.perform.Makes objects made Build.AnswersValue := by
  have ofRow {exprs : List Expr} {more : Set Expr} (holds : ∀ expr ∈ exprs, expr ∈ more) :
      (row exprs).Made more :=
    HostValue.made_list.mpr (by simpa using holds)
  cases building with
  | freshVariable name? =>
      exact (Build.freshVariable_makes name?).bind fun _ _ _ holds =>
        .pure (HostValue.made_expr.mpr holds)
  | constant value type? => exact Build.recorded_makes (Build.constant_makes value type?)
  | expr value => exact Build.recorded_makes (Build.expr_makes (given value (by simp [values])))
  | valueExpr value =>
      exact Build.recorded_makes (Build.valueExpr_makes (given value (by simp [values])))
  | group members =>
      exact (Build.group_makes groups (given members (by simp [values]))).map fun _ _ => ofRow
  | binary op left right =>
      exact Build.recorded_makes (Build.binary_makes op (given left (by simp [values]))
        (given right (by simp [values])))
  | binaryOp op left right =>
      exact Build.recorded_makes (Build.binaryOp_makes op (given left (by simp [values]))
        (given right (by simp [values])))
  | operator op left right =>
      exact Build.operator_makes groups op (given left (by simp [values]))
        (given right (by simp [values]))
  | unary op operand =>
      exact Build.recorded_makes (Build.unary_makes op (given operand (by simp [values])))
  | signed negates operand => exact Build.signed_makes negates (given operand (by simp [values]))
  | cast operand type =>
      exact Build.recorded_makes (Build.cast_makes type (given operand (by simp [values])))
  | argument position type => exact Build.recorded_makes (Build.argument_makes position type)
  | arguments types => exact (Build.arguments_makes types).map fun _ _ => ofRow
  | field name type => exact Build.recorded_makes (Build.field_makes type)
  | subscript value indices =>
      exact Build.recorded_makes (Build.subscript_makes groups (given value (by simp [values]))
        (given indices (by simp [values])))
  | index value position =>
      exact Build.recorded_makes (Build.index_makes (given value (by simp [values]))
        (given position (by simp [values])))
  | item value key =>
      exact Build.item_makes groups (given value (by simp [values]))
        (given key (by simp [values]))
  | explicitLoad place =>
      exact Build.recorded_makes (Build.explicitLoad_makes (given place (by simp [values])))

end FieldKernel
