import FieldKernel.Proofs.Lowering.Statements
import FieldKernel.Proofs.Recording.Declarations

/-!
# Lowering leaves nothing open

While code is lowered, the node table, the types of variables and the list of
leaves grow together.  A node is numbered by its place, and a variable has a
type before a node or an operation refers to it.  A leaf is listed when it is
looked up, a little before the node or the operation that accesses it is made:
until then it is pending.
-/

namespace FieldKernel

namespace NodeOp

/-- The variables that a node refers to. -/
def vars : NodeOp → List Nat
  | var id => [id]
  | _ => []

/-- The leaves that a node reads from. -/
def leaves : NodeOp → List Nat
  | load leaf _ => [leaf]
  | _ => []

end NodeOp

mutual

/-- The variables that an operation refers to, with those inside it. -/
def Op.vars : Op → List Nat
  | .alloca var => [var]
  | .assign var _ => [var]
  | .load _ _ => []
  | .store _ _ _ => []
  | .branch _ onTrue onFalse => Op.blockVars onTrue ++ Op.blockVars onFalse
  | .rangeLoop var _ _ body _ => var :: Op.blockVars body
  | .elementLoop vars _ body _ => vars ++ Op.blockVars body
  | .print _ _ => []

def Op.blockVars : List Op → List Nat
  | [] => []
  | first :: rest => first.vars ++ Op.blockVars rest

end

mutual

/-- The leaves that an operation accesses or visits, with those inside it.  The leaves
that it reads through nodes are not among them. -/
def Op.leaves : Op → List Nat
  | .alloca _ => []
  | .assign _ _ => []
  | .load leaf _ => [leaf]
  | .store leaf _ _ => [leaf]
  | .branch _ onTrue onFalse => Op.blockLeaves onTrue ++ Op.blockLeaves onFalse
  | .rangeLoop _ _ _ body _ => Op.blockLeaves body
  | .elementLoop _ leaf body _ => leaf :: Op.blockLeaves body
  | .print _ _ => []

def Op.blockLeaves : List Op → List Nat
  | [] => []
  | first :: rest => first.leaves ++ Op.blockLeaves rest

end

namespace Lowering

/-- Nodes are numbered by their places, the variables they refer to have types, and the
leaves are those that nodes read from and those that are pending. -/
structure Closed (pending : List Nat) (state : Lowering) : Prop where
  numbered {position : Nat} {node : IRNode} (found : state.nodes[position]? = some node) :
    node.id = position
  declared {node : IRNode} (member : node ∈ state.nodes) :
    ∀ var ∈ node.op.vars, var ∈ state.varTypes
  leaves (leaf : Nat) :
    leaf ∈ state.leaves ↔ leaf ∈ pending ∨ ∃ node ∈ state.nodes, leaf ∈ node.op.leaves

/-- A closed state is reached in which the given variables have types, and so have all
that had one before. -/
structure Closes (pending vars : List Nat) (before after : Lowering) : Prop where
  closed : after.Closed pending
  declared : ∀ var ∈ vars, var ∈ after.varTypes
  keeps : ∀ var ∈ before.varTypes, var ∈ after.varTypes

variable {pending later vars more : List Nat} {before middle after : Lowering}

theorem closed_start (slots : TypeSlots) : (start slots).Closed [] := by
  refine ⟨fun found => ?_, fun member => ?_, fun leaf => ?_⟩
  · simp [start] at found
  · simp [start] at member
  · simp [start]

/-- Which leaves are pending matters, not how they are listed. -/
theorem Closed.congr (closed : before.Closed pending)
    (same : ∀ leaf, leaf ∈ pending ↔ leaf ∈ later) : before.Closed later :=
  ⟨closed.numbered, closed.declared, fun leaf => by rw [closed.leaves, same]⟩

theorem Closed.refl (closed : before.Closed pending) : Closes pending [] before before :=
  ⟨closed, by simp, fun _ => id⟩

/-- Filling in types of expressions opens nothing, nor does keeping their nodes. -/
theorem Closed.fills (closed : before.Closed pending) (slots : TypeSlots)
    (lowered : Std.TreeMap Nat Nat) :
    Closes pending [] before { before with slots := slots, lowered := lowered } :=
  ⟨⟨closed.numbered, closed.declared, closed.leaves⟩, by simp, fun _ => id⟩

theorem Closes.trans (first : Closes pending vars before middle)
    (second : Closes later more middle after) : Closes later (vars ++ more) before after := by
  refine ⟨second.closed, fun var member => ?_, fun var known => ?_⟩
  · rcases List.mem_append.mp member with member | member
    · exact second.keeps var (first.declared var member)
    · exact second.declared var member
  · exact second.keeps var (first.keeps var known)

/-- A new node can refer to variables with types, and reads from a leaf that was
pending. -/
theorem Closed.pushed (op : NodeOp) (type : DataType)
    (closed : before.Closed (op.leaves ++ pending))
    (known : ∀ var ∈ op.vars, var ∈ before.varTypes) :
    Closes pending [] before (Lower.pushed before op type) := by
  refine ⟨⟨?_, ?_, ?_⟩, by simp, fun _ => id⟩
  · intro position node found
    simp only [Lower.pushed, Array.getElem?_push] at found
    split at found
    · next last =>
      cases found
      exact last.symm
    · exact closed.numbered found
  · intro node member
    rcases Array.mem_push.mp member with member | rfl
    · exact closed.declared member
    · exact known
  · intro leaf
    simp only [Lower.pushed, Array.mem_push, closed.leaves, List.mem_append]
    grind

/-- A leaf that was looked up is pending. -/
theorem Closed.touches (closed : before.Closed pending) (leaf : Nat) :
    Closes (leaf :: pending) [] before
      { before with leaves := before.leaves.insert leaf () } := by
  refine ⟨⟨closed.numbered, closed.declared, fun other => ?_⟩, by simp, fun _ => id⟩
  simp only [Std.TreeMap.mem_insert, compare_eq_iff_eq, closed.leaves, List.mem_cons]
  grind

theorem Closed.declares (closed : before.Closed pending) (var : Nat) (type : DataType) :
    Closes pending [var] before
      { before with varTypes := before.varTypes.insert var type } := by
  have keeps : ∀ other ∈ before.varTypes, other ∈ before.varTypes.insert var type :=
    fun other known => by simp [known]
  have declared {node : IRNode} (member : node ∈ before.nodes) :
      ∀ other ∈ node.op.vars, other ∈ before.varTypes.insert var type :=
    fun other refers => keeps other (closed.declared member other refers)
  exact ⟨⟨closed.numbered, declared, closed.leaves⟩, by simp, keeps⟩

end Lowering

namespace Lower

open Lowering (Closed Closes)

variable {context : LoweringContext} {pending : List Nat} {state after : Lowering}

theorem castTo_closes (closed : state.Closed pending) {node result : Nat} {type : DataType}
    (success : (castTo node type).Yields state result after) : Closes pending [] state after := by
  rcases yields_castTo.mp success with ⟨_, _, rfl⟩ | ⟨_, _, rfl⟩
  · exact closed.refl
  · exact Closed.pushed (.cast node) type closed (by simp [NodeOp.vars])

theorem leafOf_closes (closed : state.Closed pending) {field : Field} {site? : Option Location}
    {leaf : Node} (success : (leafOf context field site?).Yields state leaf after) :
    Closes (leaf.id :: pending) [] state after := by
  obtain ⟨_, _, _, rfl⟩ := yields_leafOf.mp success
  exact closed.touches leaf.id

theorem once_closes (closed : state.Closed pending) {expr : Expr} {lower : Lower Nat}
    {result : Nat} (success : (once expr lower).Yields state result after)
    (lowers : ∀ between, lower.Yields state result between → Closes pending [] state between) :
    Closes pending [] state after := by
  rcases yields_once.mp success with ⟨_, rfl⟩ | ⟨_, between, slots, lowered, _, rfl⟩
  · exact closed.refl
  · have closes := lowers between lowered
    exact closes.trans (closes.closed.fills slots _)

/-- A node without variables and leaves can be added at any time. -/
theorem add_closes (closed : state.Closed pending) {op : NodeOp} {type : DataType} {result : Nat}
    (free : op.vars = []) (dry : op.leaves = [])
    (success : (add op type).Yields state result after) : Closes pending [] state after := by
  obtain ⟨_, rfl⟩ := yields_add.mp success
  exact Closed.pushed op type (by rwa [dry]) (by simp [free])

mutual

/-- Lowering an expression leaves nothing open: each leaf that is looked up on the way
is read from. -/
theorem expr_closes (expr : Expr) {pending : List Nat} {state after : Lowering} {result : Nat}
    (closed : state.Closed pending)
    (success : (Lower.expr context expr).Yields state result after) :
    Closes pending [] state after := by
  cases expr with
  | literal key value type =>
      rw [Lower.expr] at success
      exact once_closes closed success fun _ lowered => add_closes closed rfl rfl lowered
  | identifier var =>
      rw [Lower.expr] at success
      refine once_closes closed success fun between lowered => ?_
      simp only [yields_bind, yields_varType?] at lowered
      obtain ⟨_, _, ⟨rfl, rfl⟩, lowered⟩ := lowered
      split at lowered
      · exact absurd lowered yields_throw
      · next type found =>
        split at lowered
        · simp at lowered
        · obtain ⟨_, rfl⟩ := yields_add.mp lowered
          have known : var.identifier.id ∈ state.varTypes :=
            Std.TreeMap.mem_iff_isSome_getElem?.mpr (by rw [found]; rfl)
          exact Closed.pushed (.var var.identifier.id) type closed
            (by simpa [NodeOp.vars] using known)
  | argument key position type =>
      rw [Lower.expr] at success
      refine once_closes closed success fun between lowered => ?_
      split at lowered
      · simp at lowered
      · exact add_closes closed rfl rfl lowered
  | field field =>
      rw [Lower.expr] at success
      exact once_closes closed success fun _ lowered => absurd lowered yields_throw
  | binary key op left right =>
      rw [Lower.expr] at success
      refine once_closes closed success fun between lowered => ?_
      simp only [yields_bind] at lowered
      obtain ⟨leftNode, first, leftLowered, rightNode, second, rightLowered, lowered⟩ := lowered
      obtain ⟨_, leftBrought, rightBrought, third, fourth, leftCast, rightCast, _, rfl⟩ :=
        binary_yields lowered
      have ofLeft := expr_closes left closed leftLowered
      have ofRight := expr_closes right ofLeft.closed rightLowered
      have brought := castTo_closes ofRight.closed leftCast
      have broughtBoth := castTo_closes brought.closed rightCast
      exact (ofLeft.trans ofRight).trans ((brought.trans broughtBoth).trans
        (Closed.pushed (.binary op leftBrought rightBrought) _ broughtBoth.closed
          (by simp [NodeOp.vars])))
  | unary key op operand =>
      rw [Lower.expr] at success
      refine once_closes closed success fun between lowered => ?_
      simp only [yields_bind] at lowered
      obtain ⟨node, first, operandLowered, lowered⟩ := lowered
      obtain ⟨_, widened, floated, second, third, widens, floats, _, rfl⟩ := unary_yields lowered
      have ofOperand := expr_closes operand closed operandLowered
      have ofWidened := castTo_closes ofOperand.closed widens
      have ofFloated := castTo_closes ofWidened.closed floats
      exact ofOperand.trans ((ofWidened.trans ofFloated).trans
        (Closed.pushed (.unary op floated) _ ofFloated.closed (by simp [NodeOp.vars])))
  | cast key operand type =>
      rw [Lower.expr] at success
      refine once_closes closed success fun between lowered => ?_
      simp only [yields_bind] at lowered
      obtain ⟨node, first, operandLowered, lowered⟩ := lowered
      have ofOperand := expr_closes operand closed operandLowered
      exact ofOperand.trans (add_closes ofOperand.closed rfl rfl lowered)
  | element key field indices | load key elementKey field indices =>
      rw [Lower.expr] at success
      refine once_closes closed success fun between lowered => ?_
      simp only [yields_bind, yields_leafAt] at lowered
      obtain ⟨leaf, first, ⟨found, _⟩, nodes, second, indicesLowered, lowered⟩ := lowered
      obtain ⟨_, rfl⟩ := yields_add.mp lowered
      have looks := leafOf_closes closed found
      have ofIndices := indexNodes_closes indices looks.closed indicesLowered
      exact looks.trans (ofIndices.trans
        (Closed.pushed (.load leaf.id nodes) _ ofIndices.closed (by simp [NodeOp.vars])))

theorem indexNodes_closes (indices : List Expr) {pending : List Nat} {state after : Lowering}
    {result : List Nat} (closed : state.Closed pending)
    (success : (indexNodes context indices).Yields state result after) :
    Closes pending [] state after := by
  cases indices with
  | nil =>
      rw [indexNodes] at success
      obtain ⟨_, rfl⟩ := yields_pure.mp success
      exact closed.refl
  | cons index rest =>
      rw [indexNodes] at success
      simp only [yields_bind, yields_checkIndex, yields_pure] at success
      obtain ⟨node, first, lowered, _, _, ⟨_, rfl⟩, nodes, _, restLowered, _, rfl⟩ := success
      have ofIndex := expr_closes index closed lowered
      exact ofIndex.trans (indexNodes_closes rest ofIndex.closed restLowered)

end

theorem value_closes (closed : state.Closed pending) {given : HostValue} {result : Nat}
    (success : (value context given).Yields state result after) :
    Closes pending [] state after := by
  cases given with
  | expr expr => exact expr_closes expr closed success
  | _ => simp [value] at success

/-- The leaf of an element is pending after the element was looked up. -/
theorem access_closes (closed : state.Closed pending) {place : Element} {leaf : Node}
    {between : Lowering} {nodes : List Nat}
    (found : (leafAt context place.key place.field place.indices.length).Yields state leaf
      between)
    (lowered : (indexNodes context place.indices).Yields between nodes after) :
    Closes (leaf.id :: pending) [] state after := by
  have looks := leafOf_closes closed (yields_leafAt.mp found).1
  exact looks.trans (indexNodes_closes place.indices looks.closed lowered)

theorem store_closes (closed : state.Closed pending) {place : Element} {stored : Expr} {op : Op}
    (success : (store context place stored).Yields state op after) :
    Closes (op.leaves ++ pending) op.vars state after := by
  simp only [store, yields_bind, yields_resolve, yields_pure] at success
  obtain ⟨leaf, first, found, nodes, second, indices, _, _, ⟨slots, _, rfl⟩, node, third,
    lowered, result, _, cast, rfl, rfl⟩ := success
  have accesses := access_closes closed found indices
  have fills := accesses.closed.fills slots second.lowered
  have ofValue := expr_closes stored fills.closed lowered
  exact (accesses.trans fills).trans (ofValue.trans (castTo_closes ofValue.closed cast))

theorem assign_closes (closed : state.Closed pending) {site? : Option Location} {var : Variable}
    {assigned : Expr} {op : Op}
    (success : (assign context site? var assigned).Yields state op after) :
    Closes (op.leaves ++ pending) op.vars state after := by
  obtain ⟨declared, node, first, type, slots, result, found, lowered, _, _, cast, rfl⟩ :=
    assign_yields success
  have ofValue := expr_closes assigned closed lowered
  have known : var.identifier.id ∈ first.varTypes :=
    ofValue.keeps _ (Std.TreeMap.mem_iff_isSome_getElem?.mpr (by rw [found]; rfl))
  have declares : Closes pending [var.identifier.id] first
      { first with
        varTypes :=
          if declared = .unknown then first.varTypes.insert var.identifier.id type
          else first.varTypes } := by
    split
    · exact ofValue.closed.declares var.identifier.id type
    · exact ⟨ofValue.closed, by simpa using known, fun _ => id⟩
  have fills := declares.closed.fills slots first.lowered
  have casts := castTo_closes fills.closed cast
  exact ofValue.trans (declares.trans (fills.trans casts))

theorem declareLoopVariables_closes (vars : List Variable) {state : Lowering} {result : Unit}
    (closed : state.Closed pending)
    (success : (declareLoopVariables vars).Yields state result after) :
    Closes pending (vars.map (·.identifier.id)) state after := by
  induction vars generalizing state with
  | nil =>
      obtain ⟨_, rfl⟩ := yields_pure.mp success
      exact closed.refl
  | cons var rest hypothesis =>
      rw [declareLoopVariables_cons] at success
      simp only [yields_bind, yields_declare, yields_resolve] at success
      obtain ⟨_, _, rfl, _, _, ⟨slots, _, rfl⟩, success⟩ := success
      have declares := closed.declares var.identifier.id .i32
      have fills := declares.closed.fills slots state.lowered
      exact (declares.trans fills).trans (hypothesis fills.closed success)

mutual

/-- Lowering a statement leaves the leaves of its operation pending for the listing of the
kernel, and the variables of the operation have types. -/
theorem stmt_closes (statement : Stmt) {pending : List Nat} {state after : Lowering} {op : Op}
    (counted : statement.Counted) (closed : state.Closed pending)
    (success : (stmt context statement).Yields state op after) :
    Closes (op.leaves ++ pending) op.vars state after := by
  cases statement with
  | alloca site? identifier type =>
      simp only [stmt, yields_bind, yields_declare, yields_pure] at success
      obtain ⟨_, _, rfl, rfl, rfl⟩ := success
      exact closed.declares identifier.id type
  | assign site? target value =>
      cases target with
      | identifier var =>
          rw [stmt] at success
          exact assign_closes closed success
      | element key field indices =>
          rw [stmt] at success
          exact store_closes closed success
      | _ => simp [stmt] at success
  | load site? place =>
      simp only [stmt, yields_bind, yields_pure] at success
      obtain ⟨leaf, first, found, nodes, second, lowered, rfl, rfl⟩ := success
      exact access_closes closed found lowered
  | store site? place value =>
      rw [stmt] at success
      exact store_closes closed success
  | print site? printed label =>
      obtain ⟨node, lowered, rfl⟩ := print_yields success
      exact value_closes closed lowered
  | branch site? condition onTrue onFalse =>
      simp only [stmt, yields_bind, yields_pure] at success
      obtain ⟨node, first, lowered, trueOps, second, lowersTrue, falseOps, third, lowersFalse, rfl,
        rfl⟩ := success
      have ofCondition := value_closes closed lowered
      have ofTrue := block_closes onTrue counted.1 ofCondition.closed lowersTrue
      have ofFalse := block_closes onFalse counted.2 ofTrue.closed lowersFalse
      have closes := ofCondition.trans (ofTrue.trans ofFalse)
      exact ⟨closes.closed.congr (by simp [Op.leaves, or_left_comm]), closes.declared,
        closes.keeps⟩
  | loop site? vars source schedule body =>
      cases source with
      | range first last =>
          simp only [stmt, yields_bind, yields_checkBound, yields_pure] at success
          obtain ⟨firstNode, between, lowersFirst, lastNode, second, lowersLast, _, _,
            ⟨_, rfl⟩, _, _, ⟨_, rfl⟩, _, third, declares, ops, _, lowers, rfl, rfl⟩ := success
          have ofFirst := expr_closes first closed lowersFirst
          have ofLast := expr_closes last ofFirst.closed lowersLast
          have ofVars := declareLoopVariables_closes vars ofLast.closed declares
          have ofBody := block_closes body counted.2 ofVars.closed lowers
          obtain ⟨var, rfl⟩ := List.length_eq_one_iff.mp counted.1
          exact (ofFirst.trans ofLast).trans (ofVars.trans ofBody)
      | elements field =>
          simp only [stmt, yields_bind, yields_checkArity, yields_pure] at success
          obtain ⟨leaf, first, found, _, _, ⟨_, rfl⟩, _, second, declares, ops, _, lowers, rfl,
            rfl⟩ := success
          have looks := leafOf_closes closed found
          have ofVars := declareLoopVariables_closes vars looks.closed declares
          have ofBody := block_closes body counted ofVars.closed lowers
          have closes := looks.trans (ofVars.trans ofBody)
          exact ⟨closes.closed.congr (by simp [Op.leaves, or_left_comm]), closes.declared,
            closes.keeps⟩
  | bare site? => simp [stmt] at success
  | endless => simp [stmt] at success

theorem block_closes (body : List Stmt) {pending : List Nat} {state after : Lowering}
    {ops : List Op} (counted : Stmt.BlockCounted body) (closed : state.Closed pending)
    (success : (block context body).Yields state ops after) :
    Closes (Op.blockLeaves ops ++ pending) (Op.blockVars ops) state after := by
  cases body with
  | nil =>
      rw [block] at success
      obtain ⟨rfl, rfl⟩ := yields_pure.mp success
      exact closed.refl
  | cons statement rest =>
      simp only [block, yields_bind, yields_pure] at success
      obtain ⟨op, first, lowered, ops, second, restLowered, rfl, rfl⟩ := success
      have ofFirst := stmt_closes statement counted.1 closed lowered
      have ofRest := block_closes rest counted.2 ofFirst.closed restLowered
      have closes := ofFirst.trans ofRest
      exact ⟨closes.closed.congr (by simp [Op.blockLeaves, or_left_comm]),
        closes.declared, closes.keeps⟩

end

end Lower

end FieldKernel
