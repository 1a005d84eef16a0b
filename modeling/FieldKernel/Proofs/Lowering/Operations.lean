import FieldKernel.Proofs.Lowering.Code

/-!
# What lowered operations perform

`Code.Performs` says which operation performs a statement with the nodes of a
table.  As for nodes, later code leaves it as it is.
-/

namespace FieldKernel

namespace Code

/-- Nodes compute the index of an element of a leaf that a field is placed at. -/
structure Accesses (code : Code) (field : Field) (indices : List Expr) (leaf : Node)
    (nodes : List Nat) : Prop where
  placed : code.typing.leafOf? field = some leaf
  touched : code.touched leaf.id
  arity : indices.length = leaf.lineage.axes.length
  computes : code.ComputesIndex indices nodes

/-- A node computes a value in the type of the elements it is stored among. -/
structure Stores (code : Code) (field : Field) (indices : List Expr) (value : Expr)
    (leaf : Node) (nodes : List Nat) (result : Nat) : Prop where
  accesses : code.Accesses field indices leaf nodes
  computes : ∃ node, code.Computes value node ∧
    code.Brings (code.typing.typeOf value) leaf.type node result

/-- A node computes a value in the type of a variable.  A value without a type
leaves a variable without a type as it is. -/
def Assigns (code : Code) (var : Nat) (value : Expr) (result : Nat) : Prop :=
  ∃ node, code.Computes value node ∧
    ((code.typing.typeOf value = .unknown ∧ node = result) ∨
      (code.typing.ofVariable var ≠ .unknown ∧
        code.Brings (code.typing.typeOf value) (code.typing.ofVariable var) node result))

mutual

/-- An operation performs a statement. -/
inductive Performs (code : Code) : Stmt → Op → Prop where
  | alloca {site? : Option Location} {identifier : Identifier} {type : DataType} :
      Performs code (.alloca site? identifier type) (.alloca identifier.id)
  | assign {site? : Option Location} {var : Variable} {value : Expr} {result : Nat}
      (assigns : code.Assigns var.identifier.id value result) :
      Performs code (.assign site? (.identifier var) value) (.assign var.identifier.id result)
  | assignElement {site? : Option Location} {key : Nat} {field : Field} {indices : List Expr}
      {value : Expr} {leaf : Node} {nodes : List Nat} {result : Nat}
      (stores : code.Stores field indices value leaf nodes result) :
      Performs code (.assign site? (.element key field indices) value)
        (.store leaf.id nodes result)
  | load {site? : Option Location} {place : Element} {leaf : Node} {nodes : List Nat}
      (accesses : code.Accesses place.field place.indices leaf nodes) :
      Performs code (.load site? place) (.load leaf.id nodes)
  | store {site? : Option Location} {place : Element} {value : Expr} {leaf : Node}
      {nodes : List Nat} {result : Nat}
      (stores : code.Stores place.field place.indices value leaf nodes result) :
      Performs code (.store site? place value) (.store leaf.id nodes result)
  | print {site? : Option Location} {value : Expr} {label : HostValue} {node : Nat}
      (computes : code.Computes value node) :
      Performs code (.print site? (.expr value) label) (.print node label)
  | branch {site? : Option Location} {condition : Expr} {node : Nat} {onTrue onFalse : List Stmt}
      {trueOps falseOps : List Op}
      (computes : code.Computes condition node)
      (performsTrue : PerformsAll code onTrue trueOps)
      (performsFalse : PerformsAll code onFalse falseOps) :
      Performs code (.branch site? (.expr condition) onTrue onFalse)
        (.branch node trueOps falseOps)
  | range {site? : Option Location} {vars : List Variable} {first last : Expr}
      {firstNode lastNode : Nat} {schedule : Schedule} {body : List Stmt} {ops : List Op}
      (computesFirst : code.Computes first firstNode)
      (computesLast : code.Computes last lastNode)
      (integral : (code.typing.typeOf first).isIntegral ∧ (code.typing.typeOf last).isIntegral)
      (counted : ∀ var ∈ vars, code.typing.ofVariable var.identifier.id = .i32)
      (performs : PerformsAll code body ops) :
      Performs code (.loop site? vars (.range first last) schedule body)
        (.rangeLoop (((vars.map (·.identifier.id)).head?).getD 0) firstNode lastNode ops
          schedule.entries)
  | elements {site? : Option Location} {vars : List Variable} {field : Field} {leaf : Node}
      {schedule : Schedule} {body : List Stmt} {ops : List Op}
      (placed : code.typing.leafOf? field = some leaf)
      (touched : code.touched leaf.id)
      (arity : vars.length = leaf.lineage.axes.length)
      (counted : ∀ var ∈ vars, code.typing.ofVariable var.identifier.id = .i32)
      (performs : PerformsAll code body ops) :
      Performs code (.loop site? vars (.elements field) schedule body)
        (.elementLoop (vars.map (·.identifier.id)) leaf.id ops schedule.entries)

/-- Operations perform the statements of a block one by one. -/
inductive PerformsAll (code : Code) : List Stmt → List Op → Prop where
  | nil : PerformsAll code [] []
  | cons {first : Stmt} {rest : List Stmt} {op : Op} {ops : List Op}
      (performs : Performs code first op) (later : PerformsAll code rest ops) :
      PerformsAll code (first :: rest) (op :: ops)

end

section Growth

variable {early late : Code}

theorem Accesses.mono (grows : early.Grows late) {field : Field} {indices : List Expr}
    {leaf : Node} {nodes : List Nat} (accesses : early.Accesses field indices leaf nodes) :
    late.Accesses field indices leaf nodes where
  placed := by rw [grows.leafOf?]; exact accesses.placed
  touched := grows.touched _ accesses.touched
  arity := accesses.arity
  computes := accesses.computes.mono grows indices

theorem Stores.mono (grows : early.Grows late) {field : Field} {indices : List Expr}
    {value : Expr} {leaf : Node} {nodes : List Nat} {result : Nat}
    (stores : early.Stores field indices value leaf nodes result) :
    late.Stores field indices value leaf nodes result := by
  obtain ⟨accesses, node, computes, brings⟩ := stores
  refine ⟨accesses.mono grows, node, computes.mono grows value, ?_⟩
  rw [computes.typeOf_eq grows value]
  exact brings.mono grows

theorem Assigns.mono (grows : early.Grows late) {var : Nat} {value : Expr} {result : Nat}
    (assigns : early.Assigns var value result) : late.Assigns var value result := by
  obtain ⟨node, computes, fits⟩ := assigns
  have type := computes.typeOf_eq grows value
  refine ⟨node, computes.mono grows value, ?_⟩
  rw [type]
  rcases fits with untyped | ⟨settled, brings⟩
  · exact .inl untyped
  · have kept := grows.ofVariable _ settled
    rw [kept]
    exact .inr ⟨settled, brings.mono grows⟩

theorem counted_mono (grows : early.Grows late) {vars : List Variable}
    (counted : ∀ var ∈ vars, early.typing.ofVariable var.identifier.id = .i32) :
    ∀ var ∈ vars, late.typing.ofVariable var.identifier.id = .i32 := by
  intro var member
  have i32 := counted var member
  rw [grows.ofVariable _ (by simp [i32]), i32]

mutual

/-- An operation goes on to perform what it performs. -/
theorem Performs.mono (grows : early.Grows late) (statement : Stmt) {op : Op}
    (performs : early.Performs statement op) : late.Performs statement op := by
  cases performs with
  | alloca => exact .alloca
  | assign assigns => exact .assign (assigns.mono grows)
  | assignElement stores => exact .assignElement (stores.mono grows)
  | load accesses => exact .load (accesses.mono grows)
  | store stores => exact .store (stores.mono grows)
  | print computes => exact .print (computes.mono grows _)
  | branch computes performsTrue performsFalse =>
      exact .branch (computes.mono grows _) (performsTrue.mono grows _)
        (performsFalse.mono grows _)
  | range computesFirst computesLast integral counted performs =>
      refine .range (computesFirst.mono grows _) (computesLast.mono grows _) ?_
        (counted_mono grows counted) (performs.mono grows _)
      rw [computesFirst.typeOf_eq grows, computesLast.typeOf_eq grows]
      exact integral
  | elements placed touched arity counted performs =>
      exact .elements (by rw [grows.leafOf?]; exact placed) (grows.touched _ touched) arity
        (counted_mono grows counted) (performs.mono grows _)

theorem PerformsAll.mono (grows : early.Grows late) (body : List Stmt) {ops : List Op}
    (performs : early.PerformsAll body ops) : late.PerformsAll body ops := by
  cases performs with
  | nil => exact .nil
  | cons performs later => exact .cons (performs.mono grows _) (later.mono grows _)

end

end Growth

end Code

end FieldKernel
