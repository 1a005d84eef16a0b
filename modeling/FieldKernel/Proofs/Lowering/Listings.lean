import FieldKernel.Proofs.Lowering.Statements
import FieldKernel.Proofs.Triples
import FieldKernel.Proofs.Written

/-!
# Listings of lowered code

Lowered code shows the labels that it prints and the hints of its loops, and
recorded code shows the same ones.  So whatever keeps lowered code from being
listed, if the code that it comes from can be written, is in its nodes.
-/

namespace FieldKernel

section Texts

variable {α β : Type}

theorem isOk_of_eq {text : Except HostFault α} {result : α} (written : text = .ok result) :
    text.isOk := by
  rw [written]
  rfl

theorem isOk_bind {text : Except HostFault α} {next : α → Except HostFault β} :
    (text >>= next).isOk ↔ ∃ result, text = .ok result ∧ (next result).isOk := by
  cases text with
  | error fault => simp [bind, Except.bind, Except.isOk, Except.toBool]
  | ok result => simp [bind, Except.bind]

/-- A row can be written if and only if its members can. -/
theorem isOk_mapM {write : α → Except HostFault β} {items : List α} :
    (items.mapM write).isOk ↔ ∀ item ∈ items, (write item).isOk := by
  induction items with
  | nil => simp [pure, Except.pure, Except.isOk, Except.toBool]
  | cons first rest hypothesis =>
      rw [List.mapM_cons, isOk_bind, List.forall_mem_cons, ← hypothesis]
      constructor
      · rintro ⟨head, written, later⟩
        obtain ⟨tail, others, _⟩ := isOk_bind.mp later
        exact ⟨isOk_of_eq written, isOk_of_eq others⟩
      · rintro ⟨head, tail⟩
        obtain ⟨text, written⟩ := exists_ok head
        obtain ⟨texts, others⟩ := exists_ok tail
        exact ⟨text, written, isOk_bind.mpr ⟨texts, others, rfl⟩⟩

end Texts

mutual

/-- The listing of an expression shows the same numbers as its recorded form. -/
theorem Listing.expr_ends (expr : Expr) : ending (Listing.expr expr) = ending expr.text := by
  cases expr with
  | identifier var => rfl
  | literal key value type => exact ending_map _
  | binary key op left right =>
      refine ending_bind (Listing.expr_ends left) fun _ _ =>
        ending_bind (Listing.expr_ends right) fun _ _ => ?_
      cases op.symbol? with
      | none => rfl
      | some symbol => rfl
  | unary key op operand =>
      cases op with
      | _ => exact ending_bind (Listing.expr_ends operand) fun _ _ => rfl
  | cast key operand type => exact ending_bind (Listing.expr_ends operand) fun _ _ => rfl
  | field declared => rfl
  | element key declared indices =>
      exact ending_bind (Listing.exprs_ends indices) fun _ _ => rfl
  | load key elementKey declared indices =>
      exact ending_bind (Listing.exprs_ends indices) fun _ _ => rfl
  | argument key position type => exact ending_bind rfl fun _ _ => rfl

theorem Listing.exprs_ends (exprs : List Expr) :
    ending (Listing.exprs exprs) = ending (Expr.texts exprs) := by
  cases exprs with
  | nil => rfl
  | cons first rest =>
      exact ending_bind (Listing.expr_ends first) fun _ _ =>
        ending_bind (Listing.exprs_ends rest) fun _ _ => rfl

end

/-- What can be written behind the head of a loop can be listed. -/
theorem HintValue.listing_isOk {objects : Objects} {hint : HintValue}
    (written : (hint.plain objects.rendering).isOk) : (hint.listing objects.rendering).isOk := by
  cases hint with
  | mode chosen => rfl
  | host value =>
      cases value with
      | text id value => rfl
      | expr value =>
          have ends := Listing.expr_ends value
          obtain ⟨text, plain⟩ := exists_ok written
          have plain : value.text = .ok text := plain
          rw [plain] at ends
          change (Listing.expr value).isOk
          cases listed : Listing.expr value with
          | ok _ => rfl
          | error fault =>
              rw [listed] at ends
              cases ends
      | _ => exact written

mutual

/-- The heads of a statement and of all statements inside it can be written. -/
def Stmt.Legible (rendering : Rendering) : Stmt → Prop
  | .branch _ condition onTrue onFalse =>
    (branchText rendering condition).isOk ∧ Stmt.BlockLegible rendering onTrue ∧
      Stmt.BlockLegible rendering onFalse
  | .loop _ vars source schedule body =>
    (loopText rendering vars source schedule).isOk ∧ Stmt.BlockLegible rendering body
  | statement => (statement.text rendering).isOk

/-- The heads of the statements in a block can be written. -/
def Stmt.BlockLegible (rendering : Rendering) : List Stmt → Prop
  | [] => True
  | first :: rest => first.Legible rendering ∧ Stmt.BlockLegible rendering rest

end

mutual

theorem Stmt.legible_of_lines {rendering : Rendering} (level : Nat) (statement : Stmt)
    (written : (statement.lines rendering level).isOk) : statement.Legible rendering := by
  cases statement with
  | branch site? condition onTrue onFalse =>
      obtain ⟨head, heading, later⟩ := isOk_bind.mp written
      obtain ⟨trueLines, linesTrue, later⟩ := isOk_bind.mp later
      obtain ⟨falseLines, linesFalse, _⟩ := isOk_bind.mp later
      exact ⟨isOk_of_eq heading,
        Stmt.blockLegible_of_lines (level + 1) onTrue (isOk_of_eq linesTrue),
        Stmt.blockLegible_of_lines (level + 1) onFalse (isOk_of_eq linesFalse)⟩
  | loop site? vars source schedule body =>
      obtain ⟨head, heading, later⟩ := isOk_bind.mp written
      obtain ⟨bodyLines, inside, _⟩ := isOk_bind.mp later
      exact ⟨isOk_of_eq heading,
        Stmt.blockLegible_of_lines (level + 1) body (isOk_of_eq inside)⟩
  | _ =>
      obtain ⟨text, head, _⟩ := isOk_bind.mp written
      exact isOk_of_eq head

theorem Stmt.blockLegible_of_lines {rendering : Rendering} (level : Nat) (body : List Stmt)
    (written : (Stmt.blockLines rendering level body).isOk) :
    Stmt.BlockLegible rendering body := by
  cases body with
  | nil => trivial
  | cons first rest =>
      obtain ⟨firstLines, head, later⟩ := isOk_bind.mp written
      obtain ⟨restLines, tail, _⟩ := isOk_bind.mp later
      exact ⟨Stmt.legible_of_lines level first (isOk_of_eq head),
        Stmt.blockLegible_of_lines level rest (isOk_of_eq tail)⟩

end

/-- Where recorded code can be written, so can the head of each statement. -/
theorem Stmt.blockLegible_of_text {rendering : Rendering} {body : List Stmt}
    (written : (Stmt.blockText rendering body).isOk) : Stmt.BlockLegible rendering body := by
  obtain ⟨lines, text, _⟩ := isOk_bind.mp written
  exact Stmt.blockLegible_of_lines 0 body (isOk_of_eq text)

/-- The hints of a loop whose head can be written can be listed. -/
theorem Stmt.hints_listed {objects : Objects} {vars : List Variable} {source : LoopSource}
    {schedule : Schedule} (written : (loopText objects.rendering vars source schedule).isOk)
    {entry : HintKind × HintValue} (member : entry ∈ schedule.entries) :
    (entry.2.listing objects.rendering).isOk := by
  have scheduled : (schedule.text objects.rendering).isOk := by
    cases source with
    | range first last =>
        obtain ⟨_, _, later⟩ := isOk_bind.mp written
        obtain ⟨_, _, later⟩ := isOk_bind.mp later
        obtain ⟨_, text, _⟩ := isOk_bind.mp later
        exact isOk_of_eq text
    | elements field =>
        obtain ⟨_, text, _⟩ := isOk_bind.mp written
        exact isOk_of_eq text
  have hints : (schedule.entries.mapM (Schedule.hintText objects.rendering)).isOk := by
    rw [Schedule.text] at scheduled
    cases entries : schedule.entries with
    | nil => rfl
    | cons first rest =>
        rw [entries] at scheduled
        obtain ⟨_, text, _⟩ := isOk_bind.mp scheduled
        exact isOk_of_eq text
  obtain ⟨_, plain, _⟩ := isOk_bind.mp (isOk_mapM.mp hints entry member)
  exact HintValue.listing_isOk (isOk_of_eq plain)

mutual

/-- The labels and hints of an operation and of all operations inside it can be
listed. -/
def Op.Legible (rendering : Rendering) : Op → Prop
  | .print _ label => (rendering.listing label).isOk
  | .branch _ onTrue onFalse =>
    Op.BlockLegible rendering onTrue ∧ Op.BlockLegible rendering onFalse
  | .rangeLoop _ _ _ body schedule =>
    (∀ entry ∈ schedule, (entry.2.listing rendering).isOk) ∧ Op.BlockLegible rendering body
  | .elementLoop _ _ body schedule =>
    (∀ entry ∈ schedule, (entry.2.listing rendering).isOk) ∧ Op.BlockLegible rendering body
  | _ => True

/-- The labels and hints of operations can be listed. -/
def Op.BlockLegible (rendering : Rendering) : List Op → Prop
  | [] => True
  | first :: rest => first.Legible rendering ∧ Op.BlockLegible rendering rest

end

theorem Op.hints_isOk {rendering : Rendering} {schedule : List (HintKind × HintValue)}
    (listed : ∀ entry ∈ schedule, (entry.2.listing rendering).isOk) :
    (hints rendering schedule).isOk := by
  have each : (schedule.mapM (hint rendering)).isOk := by
    refine isOk_mapM.mpr fun entry member => ?_
    obtain ⟨text, written⟩ := exists_ok (listed entry member)
    exact isOk_bind.mpr ⟨text, written, rfl⟩
  obtain ⟨texts, written⟩ := exists_ok each
  exact isOk_bind.mpr ⟨texts, written, rfl⟩

mutual

theorem Op.lines_isOk {rendering : Rendering} (level : Nat) (op : Op)
    (legible : op.Legible rendering) : (op.lines rendering level).isOk := by
  cases op with
  | alloca | assign | load | store => rfl
  | print value label =>
      obtain ⟨text, listed⟩ := exists_ok legible
      exact isOk_bind.mpr ⟨_, by rw [listing, listed]; rfl, rfl⟩
  | branch condition onTrue onFalse =>
      obtain ⟨trueLines, linesTrue⟩ := exists_ok (Op.blockLines_isOk (level + 1) onTrue legible.1)
      obtain ⟨falseLines, linesFalse⟩ :=
        exists_ok (Op.blockLines_isOk (level + 1) onFalse legible.2)
      exact isOk_bind.mpr ⟨_, linesTrue, isOk_bind.mpr ⟨_, linesFalse, rfl⟩⟩
  | rangeLoop var first last body schedule =>
      obtain ⟨head, heading⟩ := exists_ok (Op.hints_isOk legible.1)
      obtain ⟨bodyLines, inside⟩ := exists_ok (Op.blockLines_isOk (level + 1) body legible.2)
      exact isOk_bind.mpr ⟨_, heading, isOk_bind.mpr ⟨_, inside, rfl⟩⟩
  | elementLoop vars leaf body schedule =>
      obtain ⟨head, heading⟩ := exists_ok (Op.hints_isOk legible.1)
      obtain ⟨bodyLines, inside⟩ := exists_ok (Op.blockLines_isOk (level + 1) body legible.2)
      exact isOk_bind.mpr ⟨_, heading, isOk_bind.mpr ⟨_, inside, rfl⟩⟩

theorem Op.blockLines_isOk {rendering : Rendering} (level : Nat) (ops : List Op)
    (legible : Op.BlockLegible rendering ops) : (Op.blockLines rendering level ops).isOk := by
  cases ops with
  | nil => rfl
  | cons first rest =>
      obtain ⟨head, written⟩ := exists_ok (Op.lines_isOk level first legible.1)
      obtain ⟨tail, others⟩ := exists_ok (Op.blockLines_isOk level rest legible.2)
      exact isOk_bind.mpr ⟨_, written, isOk_bind.mpr ⟨_, others, rfl⟩⟩

end

/-- The nodes that were made can be listed. -/
def Lowering.Listed (state : Lowering) : Prop :=
  ∀ node ∈ state.nodes, node.text.isOk

theorem Lowering.Listed.pushed {state : Lowering} (listed : state.Listed) {op : NodeOp}
    {type : DataType} (written : (op.payload? type).isOk) : (Lower.pushed state op type).Listed := by
  intro node member
  rcases Array.mem_push.mp member with earlier | rfl
  · exact listed node earlier
  · obtain ⟨payload?, written⟩ := exists_ok written
    exact isOk_bind.mpr ⟨payload?, written, rfl⟩

namespace Lower

variable {context : LoweringContext} {objects : Objects}

section Expressions

variable {state after : Lowering} (listed : state.Listed)

include listed

theorem add_listed {op : NodeOp} {type : DataType} {result : Nat}
    (written : (op.payload? type).isOk) (success : (add op type).Yields state result after) :
    after.Listed := by
  obtain ⟨_, rfl⟩ := yields_add.mp success
  exact listed.pushed written

theorem castTo_listed {node result : Nat} {type : DataType}
    (success : (castTo node type).Yields state result after) : after.Listed := by
  rcases yields_castTo.mp success with ⟨_, _, rfl⟩ | ⟨_, _, rfl⟩
  · exact listed
  · exact listed.pushed rfl

theorem leafOf_listed {field : Field} {site? : Option Location} {leaf : Node}
    (success : (leafOf context field site?).Yields state leaf after) : after.Listed := by
  obtain ⟨_, _, _, rfl⟩ := yields_leafOf.mp success
  exact listed

theorem once_listed {expr : Expr} {lower : Lower Nat} {result : Nat}
    (success : (once expr lower).Yields state result after)
    (lowers : ∀ between, lower.Yields state result between → between.Listed) : after.Listed := by
  rcases yields_once.mp success with ⟨_, rfl⟩ | ⟨_, between, slots, lowered, _, rfl⟩
  · exact listed
  · exact lowers between lowered

end Expressions

mutual

/-- The nodes of an expression show the numbers that the expression shows. -/
theorem expr_listed (expr : Expr) {state after : Lowering} {result : Nat} (listed : state.Listed)
    (written : expr.text.isOk) (success : (Lower.expr context expr).Yields state result after) :
    after.Listed := by
  cases expr with
  | literal key value type =>
      rw [Lower.expr] at success
      refine once_listed listed success fun _ lowered => add_listed listed ?_ lowered
      obtain ⟨text, shown⟩ := exists_ok written
      have shown : value.text = .ok text := shown
      rw [NodeOp.payload?, shown]
      rfl
  | identifier var =>
      rw [Lower.expr] at success
      refine once_listed listed success fun between lowered => ?_
      simp only [yields_bind, yields_varType?] at lowered
      obtain ⟨_, _, ⟨rfl, rfl⟩, lowered⟩ := lowered
      split at lowered
      · exact absurd lowered yields_throw
      · split at lowered
        · simp at lowered
        · exact add_listed listed rfl lowered
  | argument key position type =>
      rw [Lower.expr] at success
      refine once_listed listed success fun between lowered => ?_
      split at lowered
      · simp at lowered
      · refine add_listed listed ?_ lowered
        obtain ⟨text, shown, _⟩ := isOk_bind.mp written
        rw [NodeOp.payload?, shown]
        rfl
  | field field =>
      rw [Lower.expr] at success
      exact once_listed listed success fun _ lowered => absurd lowered yields_throw
  | binary key op left right =>
      rw [Lower.expr] at success
      refine once_listed listed success fun between lowered => ?_
      simp only [yields_bind] at lowered
      obtain ⟨leftNode, first, leftLowered, rightNode, second, rightLowered, lowered⟩ := lowered
      obtain ⟨_, leftBrought, rightBrought, third, fourth, leftCast, rightCast, _, rfl⟩ :=
        binary_yields lowered
      obtain ⟨_, ofLeft, later⟩ := isOk_bind.mp written
      obtain ⟨_, ofRight, _⟩ := isOk_bind.mp later
      have leftListed := expr_listed left listed (isOk_of_eq ofLeft) leftLowered
      have rightListed := expr_listed right leftListed (isOk_of_eq ofRight) rightLowered
      exact (castTo_listed (castTo_listed rightListed leftCast) rightCast).pushed rfl
  | unary key op operand =>
      rw [Lower.expr] at success
      refine once_listed listed success fun between lowered => ?_
      simp only [yields_bind] at lowered
      obtain ⟨node, first, operandLowered, lowered⟩ := lowered
      obtain ⟨_, widened, floated, second, third, widens, floats, _, rfl⟩ := unary_yields lowered
      have ofOperand : operand.text.isOk := by
        cases op with
        | _ =>
            obtain ⟨_, shown, _⟩ := isOk_bind.mp written
            exact isOk_of_eq shown
      have operandListed := expr_listed operand listed ofOperand operandLowered
      exact (castTo_listed (castTo_listed operandListed widens) floats).pushed rfl
  | cast key operand type =>
      rw [Lower.expr] at success
      refine once_listed listed success fun between lowered => ?_
      simp only [yields_bind] at lowered
      obtain ⟨node, first, operandLowered, lowered⟩ := lowered
      obtain ⟨_, shown, _⟩ := isOk_bind.mp written
      exact add_listed (expr_listed operand listed (isOk_of_eq shown) operandLowered) rfl lowered
  | element key field indices | load key elementKey field indices =>
      rw [Lower.expr] at success
      refine once_listed listed success fun between lowered => ?_
      simp only [yields_bind, yields_leafAt] at lowered
      obtain ⟨leaf, first, ⟨found, _⟩, nodes, second, indicesLowered, lowered⟩ := lowered
      obtain ⟨_, shown, _⟩ := isOk_bind.mp written
      exact add_listed (indexNodes_listed indices (leafOf_listed listed found)
        (isOk_of_eq shown) indicesLowered) rfl lowered

theorem indexNodes_listed (indices : List Expr) {state after : Lowering} {result : List Nat}
    (listed : state.Listed) (written : (Expr.texts indices).isOk)
    (success : (indexNodes context indices).Yields state result after) : after.Listed := by
  cases indices with
  | nil =>
      rw [indexNodes] at success
      obtain ⟨_, rfl⟩ := yields_pure.mp success
      exact listed
  | cons index rest =>
      rw [indexNodes] at success
      simp only [yields_bind, yields_checkIndex, yields_pure] at success
      obtain ⟨node, first, lowered, _, _, ⟨_, rfl⟩, nodes, _, restLowered, _, rfl⟩ := success
      obtain ⟨_, head, later⟩ := isOk_bind.mp written
      obtain ⟨_, tail, _⟩ := isOk_bind.mp later
      exact indexNodes_listed rest (expr_listed index listed (isOk_of_eq head) lowered)
        (isOk_of_eq tail) restLowered

end

section Statements

variable {state after : Lowering} (listed : state.Listed)

include listed

theorem value_listed {given : HostValue} {result : Nat}
    (written : (objects.rendering.recorded given).isOk)
    (success : (value context given).Yields state result after) : after.Listed := by
  cases given with
  | expr expr => exact expr_listed expr listed written success
  | _ => simp [value] at success

theorem access_listed {place : Element} {leaf : Node} {between : Lowering} {nodes : List Nat}
    (written : (Expr.ofElement place).text.isOk)
    (found : (leafAt context place.key place.field place.indices.length).Yields state leaf
      between)
    (lowered : (indexNodes context place.indices).Yields between nodes after) : after.Listed := by
  obtain ⟨_, shown, _⟩ := isOk_bind.mp written
  exact indexNodes_listed place.indices (leafOf_listed listed (yields_leafAt.mp found).1)
    (isOk_of_eq shown) lowered

theorem store_listed {place : Element} {stored : Expr} {op : Op}
    (ofPlace : (Expr.ofElement place).text.isOk) (ofValue : stored.text.isOk)
    (success : (store context place stored).Yields state op after) :
    op.Legible objects.rendering ∧ after.Listed := by
  simp only [store, yields_bind, yields_resolve, yields_pure] at success
  obtain ⟨leaf, first, found, nodes, second, indices, _, _, ⟨slots, _, rfl⟩, node, third,
    lowered, result, _, cast, rfl, rfl⟩ := success
  have placeListed : second.Listed := access_listed listed ofPlace found indices
  refine ⟨trivial, castTo_listed (expr_listed stored ?_ ofValue lowered) cast⟩
  exact placeListed

theorem assign_listed {site? : Option Location} {var : Variable} {assigned : Expr} {op : Op}
    (written : assigned.text.isOk)
    (success : (assign context site? var assigned).Yields state op after) :
    op.Legible objects.rendering ∧ after.Listed := by
  obtain ⟨declared, node, first, type, slots, result, _, lowered, _, _, cast, rfl⟩ :=
    assign_yields success
  have valueListed : first.Listed := expr_listed assigned listed written lowered
  refine ⟨trivial, castTo_listed ?_ cast⟩
  exact valueListed

end Statements

theorem declareLoopVariables_listed (vars : List Variable) {state after : Lowering} {result : Unit}
    (listed : state.Listed) (success : (declareLoopVariables vars).Yields state result after) :
    after.Listed := by
  induction vars generalizing state with
  | nil =>
      obtain ⟨_, rfl⟩ := yields_pure.mp success
      exact listed
  | cons var rest hypothesis =>
      rw [declareLoopVariables_cons] at success
      simp only [yields_bind, yields_declare, yields_resolve] at success
      obtain ⟨_, _, rfl, _, _, ⟨slots, _, rfl⟩, success⟩ := success
      refine hypothesis ?_ success
      exact listed

mutual

/-- An operation and its nodes show nothing but what the statement shows that they
are lowered from. -/
theorem stmt_listed (statement : Stmt) {state after : Lowering} {op : Op} (listed : state.Listed)
    (legible : statement.Legible objects.rendering)
    (success : (stmt context statement).Yields state op after) :
    op.Legible objects.rendering ∧ after.Listed := by
  cases statement with
  | alloca site? identifier type =>
      simp only [stmt, yields_bind, yields_declare, yields_pure] at success
      obtain ⟨_, _, rfl, rfl, rfl⟩ := success
      exact ⟨trivial, listed⟩
  | assign site? target value =>
      obtain ⟨_, ofTarget, later⟩ := isOk_bind.mp legible
      obtain ⟨_, ofValue, _⟩ := isOk_bind.mp later
      cases target with
      | identifier var =>
          rw [stmt] at success
          exact assign_listed listed (isOk_of_eq ofValue) success
      | element key field indices =>
          rw [stmt] at success
          have ofPlace : (Expr.ofElement ⟨key, field, indices⟩).text.isOk := isOk_of_eq ofTarget
          exact store_listed listed ofPlace (isOk_of_eq ofValue) success
      | _ => simp [stmt] at success
  | load site? place =>
      simp only [stmt, yields_bind, yields_pure] at success
      obtain ⟨leaf, first, found, nodes, second, lowered, rfl, rfl⟩ := success
      obtain ⟨_, shown, _⟩ := isOk_bind.mp legible
      exact ⟨trivial, access_listed listed (isOk_of_eq shown) found lowered⟩
  | store site? place value =>
      obtain ⟨_, ofPlace, later⟩ := isOk_bind.mp legible
      obtain ⟨_, ofValue, _⟩ := isOk_bind.mp later
      rw [stmt] at success
      exact store_listed listed (isOk_of_eq ofPlace) (isOk_of_eq ofValue) success
  | print site? printed label =>
      obtain ⟨node, lowered, rfl⟩ := print_yields success
      obtain ⟨_, labelled, later⟩ := isOk_bind.mp legible
      obtain ⟨_, recorded, _⟩ := isOk_bind.mp later
      exact ⟨isOk_of_eq labelled, value_listed listed (isOk_of_eq recorded) lowered⟩
  | branch site? condition onTrue onFalse =>
      simp only [stmt, yields_bind, yields_pure] at success
      obtain ⟨node, first, lowered, trueOps, second, lowersTrue, falseOps, third, lowersFalse, rfl,
        rfl⟩ := success
      obtain ⟨_, recorded, _⟩ := isOk_bind.mp legible.1
      have ofCondition := value_listed listed (isOk_of_eq recorded) lowered
      have ofTrue := block_listed onTrue ofCondition legible.2.1 lowersTrue
      have ofFalse := block_listed onFalse ofTrue.2 legible.2.2 lowersFalse
      exact ⟨⟨ofTrue.1, ofFalse.1⟩, ofFalse.2⟩
  | loop site? vars source schedule body =>
      have hints : ∀ entry ∈ schedule.entries, (entry.2.listing objects.rendering).isOk :=
        fun _ => Stmt.hints_listed legible.1
      cases source with
      | range first last =>
          simp only [stmt, yields_bind, yields_checkBound, yields_pure] at success
          obtain ⟨firstNode, between, lowersFirst, lastNode, second, lowersLast, _, _,
            ⟨_, rfl⟩, _, _, ⟨_, rfl⟩, _, third, declares, ops, _, lowers, rfl, rfl⟩ := success
          obtain ⟨_, ofFirst, later⟩ := isOk_bind.mp legible.1
          obtain ⟨_, ofLast, _⟩ := isOk_bind.mp later
          have firstListed := expr_listed first listed (isOk_of_eq ofFirst) lowersFirst
          have lastListed := expr_listed last firstListed (isOk_of_eq ofLast) lowersLast
          have ofBody := block_listed body (declareLoopVariables_listed vars lastListed declares)
            legible.2 lowers
          exact ⟨⟨hints, ofBody.1⟩, ofBody.2⟩
      | elements field =>
          simp only [stmt, yields_bind, yields_checkArity, yields_pure] at success
          obtain ⟨leaf, first, found, _, _, ⟨_, rfl⟩, _, second, declares, ops, _, lowers, rfl,
            rfl⟩ := success
          have ofBody := block_listed body
            (declareLoopVariables_listed vars (leafOf_listed listed found) declares) legible.2 lowers
          exact ⟨⟨hints, ofBody.1⟩, ofBody.2⟩
  | bare site? => simp [stmt] at success
  | endless => simp [stmt] at success

theorem block_listed (body : List Stmt) {state after : Lowering} {ops : List Op}
    (listed : state.Listed) (legible : Stmt.BlockLegible objects.rendering body)
    (success : (block context body).Yields state ops after) :
    Op.BlockLegible objects.rendering ops ∧ after.Listed := by
  cases body with
  | nil =>
      rw [block] at success
      obtain ⟨rfl, rfl⟩ := yields_pure.mp success
      exact ⟨trivial, listed⟩
  | cons statement rest =>
      simp only [block, yields_bind, yields_pure] at success
      obtain ⟨op, first, lowered, ops, second, restLowered, rfl, rfl⟩ := success
      have ofFirst := stmt_listed statement listed legible.1 lowered
      have ofRest := block_listed rest ofFirst.2 legible.2 restLowered
      exact ⟨⟨ofFirst.1, ofRest.1⟩, ofRest.2⟩

end

end Lower

/-- A kernel whose recorded code can be written can be listed. -/
theorem KernelIR.textFor_isOk {name : String} {target : ArchSetting} {context : LoweringContext}
    {body : List Stmt} {slots : TypeSlots} {ir : KernelIR} {objects : Objects}
    (lowered : (ofBody name target context body slots).1 = .ok ir)
    (written : (Stmt.blockText objects.rendering body).isOk) (arch : Arch) :
    (ir.textFor objects.rendering arch).isOk := by
  obtain ⟨after, lowers, ends, _⟩ := exists_run lowered
  have start : (Lowering.start slots).Listed := by simp [Lowering.Listed, Lowering.start]
  obtain ⟨legible, listed⟩ :=
    Lower.block_listed body start (Stmt.blockLegible_of_text written) lowers
  have each : (ir.nodes.toList.mapM IRNode.text).isOk :=
    isOk_mapM.mpr fun node member => listed node (by simpa [ends.nodes] using member)
  obtain ⟨nodes, nodesWritten⟩ := exists_ok each
  obtain ⟨lines, opsWritten⟩ := exists_ok (Op.blockLines_isOk 1 ir.body legible)
  exact isOk_bind.mpr ⟨nodes, nodesWritten, isOk_bind.mpr ⟨lines, opsWritten, rfl⟩⟩

end FieldKernel
