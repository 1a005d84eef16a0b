import FieldKernel.Proofs.Recording.Freshness

/-!
# Making expressions

Whatever is built from expressions that were made, and from index groups of
such expressions, is made then itself.
-/

namespace FieldKernel

/-- All expressions in a value were made. -/
def HostValue.Made (made : Set Expr) (value : HostValue) : Prop :=
  ∀ expr ∈ value.exprs, expr ∈ made

/-- All members of index groups were made. -/
def Objects.GroupsMade (objects : Objects) (made : Set Expr) : Prop :=
  ∀ group, ∀ expr ∈ objects.group group, expr ∈ made

namespace HostValue

variable {made more : Set Expr}

theorem Made.mono {value : HostValue} (holds : value.Made made) (grows : made ⊆ more) :
    value.Made more :=
  fun expr member => grows (holds expr member)

theorem mem_allExprs {expr : Expr} {items : List HostValue} :
    expr ∈ allExprs items ↔ ∃ item ∈ items, expr ∈ item.exprs := by
  induction items with
  | nil => simp [allExprs]
  | cons first rest hypothesis => simp [allExprs, hypothesis]

@[simp] theorem made_expr {expr : Expr} : (HostValue.expr expr).Made made ↔ expr ∈ made := by
  simp [Made, exprs]

theorem made_allExprs {items : List HostValue} :
    (∀ expr ∈ allExprs items, expr ∈ made) ↔ ∀ item ∈ items, item.Made made := by
  simp only [Made, mem_allExprs]
  exact ⟨fun holds item member expr inside => holds expr ⟨item, member, inside⟩,
    fun holds expr ⟨item, member, inside⟩ => holds item member expr inside⟩

@[simp] theorem made_list {id : Nat} {items : List HostValue} :
    (list id items).Made made ↔ ∀ item ∈ items, item.Made made :=
  made_allExprs

@[simp] theorem made_tuple {id : Nat} {items : List HostValue} :
    (tuple id items).Made made ↔ ∀ item ∈ items, item.Made made :=
  made_allExprs

@[simp] theorem made_literal {id : Nat} {value : Literal} : (literal id value).Made made := by
  simp [Made, exprs]

@[simp] theorem made_text {id : Nat} {value : String} : (text id value).Made made := by
  simp [Made, exprs]

@[simp] theorem made_statement {id : Nat} : (statement id).Made made := by
  simp [Made, exprs]

theorem eq_of_field? {value : HostValue} {field : Field} (found : value.field? = some field) :
    value = .expr (.field field) := by
  rw [field?.eq_def] at found
  split at found <;> cases found
  rfl

end HostValue

namespace Ask

variable {α β : Type} {objects : Objects}

/-- The answers for a row are those for its members, one by one. -/
theorem forall₂_of_mapM {question : α → Ask β} {items : List α} {answers : List β}
    (answered : items.mapM question objects = .ok answers) :
    List.Forall₂ (fun item answer => question item objects = .ok answer) items answers := by
  induction items generalizing answers with
  | nil =>
      cases answered
      exact .nil
  | cons first rest hypothesis =>
      rw [List.mapM_cons] at answered
      obtain ⟨head, answeredHead, answered⟩ := bind_eq_ok.mp answered
      obtain ⟨tail, answeredTail, answered⟩ := bind_eq_ok.mp answered
      cases answered
      exact .cons answeredHead (hypothesis answeredTail)

theorem asked_of_mem {question : α → Ask β} {items : List α} {answers : List β}
    (answered : items.mapM question objects = .ok answers) {answer : β} (member : answer ∈ answers) :
    ∃ item ∈ items, question item objects = .ok answer := by
  have answers := forall₂_of_mapM answered
  obtain ⟨place, inside, rfl⟩ := List.mem_iff_getElem.mp member
  have among : place < items.length := by rwa [answers.length_eq]
  exact ⟨items[place], List.getElem_mem among, answers.get among inside⟩

theorem expr_made {made : Set Expr} {value : HostValue} {asked : String} {found : Expr}
    (given : value.Made made) (answered : expr value asked objects = .ok found) :
    found ∈ made := by
  rw [expr.eq_def] at answered
  split at answered
  · cases answered
    exact HostValue.made_expr.mp given
  · obtain ⟨_, _, thrown⟩ := bind_eq_ok.mp answered
    cases thrown

end Ask

/-- An attempt to build something from what was made. -/
def Build.Makes {α : Type} (objects : Objects) (made : Set Expr) (attempt : Build α)
    (answers : Set Expr → α → Prop) : Prop :=
  FieldKernel.Makes Ledger made (attempt.run objects) answers

namespace Build

/-- The answer is an expression that was made. -/
abbrev Answers (more : Set Expr) (expr : Expr) : Prop :=
  expr ∈ more

variable {objects : Objects} {made : Set Expr}

section Rules

variable {α β : Type} {answers : Set Expr → α → Prop} {finds : Set Expr → β → Prop}

theorem Makes.pure {result : α} (holds : answers made result) :
    (pure result : Build α).Makes objects made answers :=
  FieldKernel.Makes.pure holds

theorem Makes.throw {error : Error} : (throw error : Build α).Makes objects made answers :=
  FieldKernel.Makes.throw

theorem Makes.bind {attempt : Build α} {next : α → Build β}
    (first : attempt.Makes objects made answers)
    (second : ∀ more result, made ⊆ more → answers more result →
      (next result).Makes objects more finds) :
    (attempt >>= next).Makes objects made finds :=
  FieldKernel.Makes.bind first second

theorem Makes.map {attempt : Build α} {change : α → β}
    (first : attempt.Makes objects made answers)
    (holds : ∀ more result, answers more result → finds more (change result)) :
    (change <$> attempt).Makes objects made finds :=
  FieldKernel.Makes.map first holds

theorem Makes.askLast {question : Ask α}
    (holds : ∀ result, question objects = .ok result → answers made result) :
    (liftM question : Build α).Makes objects made answers := by
  intro supply now
  have run : (ReaderT.run (liftM question : Build α) objects).run.run supply =
      (question objects, supply) := rfl
  rw [run]
  cases outcome : question objects with
  | error error => exact ⟨made, subset_rfl, now⟩
  | ok result => exact ⟨made, subset_rfl, now, holds result outcome⟩

/-- What follows on a question is built for its answer. -/
theorem Makes.ask {question : Ask α} {next : α → Build β}
    (second : ∀ result, question objects = .ok result → (next result).Makes objects made finds) :
    (liftM question >>= next : Build β).Makes objects made finds := by
  have asked : Makes objects made (liftM question)
      fun more result => more = made ∧ question objects = .ok result :=
    .askLast fun result found => ⟨rfl, found⟩
  refine asked.bind ?_
  rintro more result _ ⟨rfl, found⟩
  exact second result found

theorem Makes.read {next : Objects → Build α} (second : (next objects).Makes objects made answers) :
    (read >>= next : Build α).Makes objects made answers :=
  second

/-- What is made for every item of a row is made for the row. -/
theorem Makes.mapM {attempt : α → Build β} {items : List α}
    (each : ∀ more, made ⊆ more → ∀ item ∈ items, (attempt item).Makes objects more finds)
    (keeps : ∀ {more most : Set Expr} {result : β}, more ⊆ most → finds more result →
      finds most result) :
    (items.mapM attempt).Makes objects made fun more results =>
      ∀ result ∈ results, finds more result := by
  induction items generalizing made with
  | nil => exact .pure (by simp)
  | cons first rest hypothesis =>
      rw [List.mapM_cons]
      refine (each made subset_rfl first (by simp)).bind fun more head grows holds => ?_
      have others := hypothesis fun most growsOn item member =>
        each most (grows.trans growsOn) item (by simp [member])
      refine others.bind fun most tail growsOn others => .pure fun result member => ?_
      rcases List.mem_cons.mp member with rfl | member
      · exact keeps growsOn holds
      · exact others result member

end Rules

theorem freshKey_makes : freshKey.Makes objects made fun _ _ => True :=
  fun _ now => ⟨made, subset_rfl, now.skip (Nat.le_succ _) le_rfl, trivial⟩

/-- A node over expressions that were made takes a fresh key. -/
theorem node_makes {node : Nat → Expr} (keys : ∀ key, (node key).key = key)
    (operands : ∀ key, ∀ part ∈ (node key).operands, part ∈ made)
    (plain : ∀ key var, node key ≠ .identifier var) :
    (freshKey >>= fun key => pure (node key)).Makes objects made Answers := by
  intro supply now
  refine ⟨insert (node supply.key) made, Set.subset_insert _ _, ?_, Set.mem_insert _ _⟩
  exact now.insert (keys _) (operands _) (fun var equal => absurd equal (plain _ var))
    (Nat.lt_succ_self _) le_rfl fun var equal => absurd equal (plain _ var)

theorem freshVariable_makes (name? : Option String) :
    (freshVariable name?).Makes objects made fun more var => .identifier var ∈ more := by
  intro supply now
  refine ⟨insert (.identifier ⟨supply.key, ⟨supply.identifier, name?⟩⟩) made,
    Set.subset_insert _ _, ?_, Set.mem_insert _ _⟩
  refine now.insert rfl (by simp [Expr.operands]) ?_ (Nat.lt_succ_self _) (Nat.le_succ _)
    fun _ _ => Nat.lt_succ_self _
  rintro var same
  cases same
  rfl

theorem literal_makes (value : Literal) (type : DataType) :
    (literal value type).Makes objects made Answers :=
  node_makes (fun _ => rfl) (by simp [Expr.operands]) (by simp)

theorem load_makes {place : Element} (holds : .ofElement place ∈ made) :
    (load place).Makes objects made Answers :=
  node_makes (fun _ => rfl) (by simpa [Expr.operands, Expr.ofElement] using holds) (by simp)

theorem valueOf_makes {expr : Expr} (holds : expr ∈ made) :
    (valueOf expr).Makes objects made Answers := by
  cases expr with
  | element key field indices =>
      have loaded : (load ⟨key, field, indices⟩).Makes objects made Answers := load_makes holds
      exact loaded
  | _ => exact .pure holds

theorem expr_makes {value : HostValue} (given : value.Made made) :
    (expr value).Makes objects made Answers := by
  rw [expr.eq_def]
  split
  · exact .pure (by simpa using given)
  · exact literal_makes _ _
  · exact .read (.ask fun _ _ => .throw)

theorem valueExpr_makes {value : HostValue} (given : value.Made made) :
    (valueExpr value).Makes objects made Answers :=
  (expr_makes given).bind fun _ _ _ => valueOf_makes

theorem exprs_makes {values : List HostValue} (given : ∀ value ∈ values, value.Made made) :
    (values.mapM expr).Makes objects made fun more exprs => ∀ expr ∈ exprs, expr ∈ more :=
  .mapM (fun _ grows value member => expr_makes ((given value member).mono grows))
    fun grows holds => grows holds

theorem group_makes (groups : objects.GroupsMade made) {members : HostValue}
    (given : members.Made made) :
    (group members).Makes objects made fun more exprs => ∀ expr ∈ exprs, expr ∈ more := by
  rw [group.eq_def]
  split
  · exact .read (.pure (groups _))
  · exact exprs_makes (by simpa using given)
  · exact exprs_makes (by simpa using given)
  · exact (expr_makes given).bind fun _ _ _ holds => .pure (by simpa using holds)

theorem constant_makes (value : HostValue) (type? : Option HostValue) :
    (constant value type?).Makes objects made Answers := by
  rw [constant.eq_def]
  split
  · exact .read .throw
  · split
    · exact .ask fun _ _ => literal_makes _ _
    · exact literal_makes _ _

theorem binaryOp_makes (op : BinaryOp) {left right : HostValue} (givenLeft : left.Made made)
    (givenRight : right.Made made) : (binaryOp op left right).Makes objects made Answers := by
  refine (expr_makes givenLeft).bind fun more _ grows holdsLeft => ?_
  refine (expr_makes (givenRight.mono grows)).bind fun most _ growsOn holdsRight => ?_
  exact node_makes (fun _ => rfl) (by simpa [Expr.operands] using ⟨growsOn holdsLeft, holdsRight⟩)
    (by simp)

theorem binary_makes (op : HostValue) {left right : HostValue} (givenLeft : left.Made made)
    (givenRight : right.Made made) : (binary op left right).Makes objects made Answers :=
  .ask fun found _ => binaryOp_makes found givenLeft givenRight

theorem unaryOp_makes (op : UnaryOp) {operand : HostValue} (given : operand.Made made) :
    (unaryOp op operand).Makes objects made Answers :=
  (expr_makes given).bind fun _ _ _ holds =>
    node_makes (fun _ => rfl) (by simpa [Expr.operands] using holds) (by simp)

theorem unary_makes (op : HostValue) {operand : HostValue} (given : operand.Made made) :
    (unary op operand).Makes objects made Answers :=
  .ask fun found _ => unaryOp_makes found given

theorem cast_makes {operand : HostValue} (type : HostValue) (given : operand.Made made) :
    (cast operand type).Makes objects made Answers :=
  (expr_makes given).bind fun _ _ _ holds => .ask fun _ _ =>
    node_makes (fun _ => rfl) (by simpa [Expr.operands] using holds) (by simp)

theorem argument_makes (position : Int) (type : DataType) :
    (argument position type).Makes objects made Answers :=
  node_makes (fun _ => rfl) (by simp [Expr.operands]) (by simp)

theorem arguments_makes (types : List DataType) :
    (arguments types).Makes objects made fun more exprs => ∀ expr ∈ exprs, expr ∈ more :=
  .mapM (fun _ _ item _ => argument_makes item.2 item.1) fun grows holds => grows holds

theorem field_makes {name : HostValue} (type : HostValue) :
    (field name type).Makes objects made Answers := by
  have declared (identifier : Identifier) (more : Set Expr) :
      Makes objects more (do
        let type ← Ask.dataType type
        if type = .unknown then
          throw (.type .fieldType)
        return .field ⟨← freshKey, identifier, type⟩) Answers := by
    refine .ask fun _ _ => ?_
    split
    · exact .throw
    · exact node_makes (fun _ => rfl) (by simp [Expr.operands]) (by simp)
  rw [field.eq_def]
  split
  · have numbered (text : String) :
        Makes objects made (freshIdentifier (some text)) fun _ _ => True :=
      fun _ now => ⟨made, subset_rfl, now.skip le_rfl (Nat.le_succ _), trivial⟩
    exact (numbered _).bind fun _ identifier _ _ => declared identifier _
  · exact declared _ _
  · exact .read .throw

theorem subscripted_eq {value : HostValue} {field : Field}
    (found : Ask.subscripted value objects = .ok field) : value = .expr (.field field) := by
  rw [Ask.subscripted.eq_def] at found
  split at found
  · cases found
    rfl
  · cases found
  · obtain ⟨_, _, thrown⟩ := Ask.bind_eq_ok.mp found
    cases thrown

theorem elementAt_makes {value : HostValue} {indices : List Expr} (given : value.Made made)
    (holds : ∀ index ∈ indices, index ∈ made) :
    (elementAt value indices).Makes objects made Answers := by
  refine .ask fun field found => ?_
  cases subscripted_eq found
  refine node_makes (fun _ => rfl) ?_ (by simp)
  simpa [Expr.operands] using ⟨HostValue.made_expr.mp given, holds⟩

theorem subscript_makes (groups : objects.GroupsMade made) {value indices : HostValue}
    (given : value.Made made) (givenIndices : indices.Made made) :
    (subscript value indices).Makes objects made Answers := by
  refine .ask fun field found => ?_
  cases subscripted_eq found
  refine (group_makes groups givenIndices).bind fun more items grows holds => ?_
  refine node_makes (fun _ => rfl) ?_ (by simp)
  simpa [Expr.operands] using ⟨grows (HostValue.made_expr.mp given), holds⟩

theorem index_makes {value position : HostValue} (given : value.Made made)
    (givenPosition : position.Made made) : (index value position).Makes objects made Answers :=
  (expr_makes givenPosition).bind fun _ _ grows holds =>
    elementAt_makes (given.mono grows) (by simpa using holds)

theorem placeToLoad_made {place : HostValue} {element : Element} (given : place.Made made)
    (found : Ask.placeToLoad place objects = .ok element) : .ofElement element ∈ made := by
  rw [Ask.placeToLoad.eq_def] at found
  split at found
  · cases found
    exact HostValue.made_expr.mp given
  · obtain ⟨_, _, thrown⟩ := Ask.bind_eq_ok.mp found
    cases thrown

theorem explicitLoad_makes {place : HostValue} (given : place.Made made) :
    (explicitLoad place).Makes objects made Answers :=
  .ask fun _ found => load_makes (placeToLoad_made given found)

end Build

end FieldKernel
