import FieldKernel.Proofs.Lowering.Steps

/-!
# What lowered nodes compute

`Code.Computes` says which node of a table computes an expression.  It follows
the expression, not the way lowering took: where the expression occurred, in
which order nodes were added and what was shared do not show.  Later nodes and
later types of variables leave it as it is.
-/

namespace FieldKernel

/-- A node table, read with the types of variables and fields. -/
structure Code where
  typing : Typing
  nodes : Array IRNode
  /-- The leaves that are recorded as accessed. -/
  touched : Nat → Prop

namespace Code

/-- Later code keeps the nodes and the types of earlier code. -/
structure Grows (early late : Code) : Prop where
  ofVariable (id : Nat) (settled : early.typing.ofVariable id ≠ .unknown) :
    late.typing.ofVariable id = early.typing.ofVariable id
  leafOf? : late.typing.leafOf? = early.typing.leafOf?
  nodes (id : Nat) (node : IRNode) (found : early.nodes[id]? = some node) :
    late.nodes[id]? = some node
  touched (leaf : Nat) (found : early.touched leaf) : late.touched leaf

theorem Grows.refl (code : Code) : code.Grows code :=
  ⟨fun _ _ => rfl, rfl, fun _ _ found => found, fun _ found => found⟩

theorem Grows.trans {early middle late : Code}
    (first : early.Grows middle) (second : middle.Grows late) : early.Grows late where
  ofVariable id settled := by
    have kept := first.ofVariable id settled
    rw [second.ofVariable id (by rwa [kept]), kept]
  leafOf? := second.leafOf?.trans first.leafOf?
  nodes id node found := second.nodes id node (first.nodes id node found)
  touched leaf found := second.touched leaf (first.touched leaf found)

theorem Grows.ofElements {early late : Code} (grows : early.Grows late) (field : Field) :
    late.typing.ofElements field = early.typing.ofElements field := by
  simp only [Typing.ofElements, grows.leafOf?]

/-- A node is brought from one type to another by a cast if the types differ. -/
def Brings (code : Code) (source target : DataType) (node result : Nat) : Prop :=
  (source = target ∧ node = result) ∨
    (source ≠ target ∧ code.nodes[result]? = some ⟨result, .cast node, target⟩)

theorem Brings.mono {early late : Code} (grows : early.Grows late)
    {source target : DataType} {node result : Nat}
    (brings : early.Brings source target node result) :
    late.Brings source target node result := by
  rcases brings with same | ⟨different, found⟩
  · exact .inl same
  · exact .inr ⟨different, grows.nodes _ _ found⟩

mutual

/-- A node computes an expression. -/
inductive Computes (code : Code) : Expr → Nat → Prop where
  | literal {key id : Nat} {value : Literal} {type : DataType}
      (found : code.nodes[id]? = some ⟨id, .const value, type⟩) :
      Computes code (.literal key value type) id
  | identifier {var : Variable} {id : Nat}
      (settled : code.typing.ofVariable var.identifier.id ≠ .unknown)
      (found : code.nodes[id]? =
        some ⟨id, .var var.identifier.id, code.typing.ofVariable var.identifier.id⟩) :
      Computes code (.identifier var) id
  | argument {key id : Nat} {position : Int} {type : DataType}
      (found : code.nodes[id]? = some ⟨id, .argument position, type⟩) :
      Computes code (.argument key position type) id
  | binary {key leftNode rightNode leftBrought rightBrought id : Nat} {op : BinaryOp}
      {left right : Expr} {type : DataType}
      (common : type =
        BinaryOp.operandType (code.typing.typeOf left) (code.typing.typeOf right))
      (integral : op.isBitwise →
        (code.typing.typeOf left).isIntegral ∧ (code.typing.typeOf right).isIntegral)
      (computesLeft : Computes code left leftNode)
      (computesRight : Computes code right rightNode)
      (bringsLeft : code.Brings (code.typing.typeOf left) type leftNode leftBrought)
      (bringsRight : code.Brings (code.typing.typeOf right) type rightNode rightBrought)
      (found : code.nodes[id]? =
        some ⟨id, .binary op leftBrought rightBrought, op.computedType type⟩) :
      Computes code (.binary key op left right) id
  | unary {key node first second id : Nat} {op : UnaryOp} {operand : Expr}
      {type : DataType}
      (widened : type = op.widened (code.typing.typeOf operand))
      (integral : op = .bitNot → type.isIntegral)
      (computes : Computes code operand node)
      (widens : code.Brings (code.typing.typeOf operand) type node first)
      (floats : code.Brings type (op.floated type) first second)
      (found : code.nodes[id]? =
        some ⟨id, .unary op second, op.computedType (op.floated type)⟩) :
      Computes code (.unary key op operand) id
  | cast {key node id : Nat} {operand : Expr} {type : DataType}
      (computes : Computes code operand node)
      (found : code.nodes[id]? = some ⟨id, .cast node, type⟩) :
      Computes code (.cast key operand type) id
  | element {key id : Nat} {field : Field} {indices : List Expr} {leaf : Node}
      {nodes : List Nat}
      (placed : code.typing.leafOf? field = some leaf)
      (touched : code.touched leaf.id)
      (arity : indices.length = leaf.lineage.axes.length)
      (computes : ComputesIndex code indices nodes)
      (found : code.nodes[id]? = some ⟨id, .load leaf.id nodes, leaf.type⟩) :
      Computes code (.element key field indices) id
  | load {key elementKey id : Nat} {field : Field} {indices : List Expr} {leaf : Node}
      {nodes : List Nat}
      (placed : code.typing.leafOf? field = some leaf)
      (touched : code.touched leaf.id)
      (arity : indices.length = leaf.lineage.axes.length)
      (computes : ComputesIndex code indices nodes)
      (found : code.nodes[id]? = some ⟨id, .load leaf.id nodes, leaf.type⟩) :
      Computes code (.load key elementKey field indices) id

/-- A row of nodes computes the whole numbers of an index. -/
inductive ComputesIndex (code : Code) : List Expr → List Nat → Prop where
  | nil : ComputesIndex code [] []
  | cons {index : Expr} {rest : List Expr} {node : Nat} {nodes : List Nat}
      (computes : Computes code index node)
      (integral : (code.typing.typeOf index).isIntegral)
      (later : ComputesIndex code rest nodes) :
      ComputesIndex code (index :: rest) (node :: nodes)

end

/-- The variables in an expression that was lowered have settled, so that its
type does not change any more. -/
theorem Computes.typeOf_eq {early late : Code} (grows : early.Grows late) (expr : Expr)
    {id : Nat} (computes : early.Computes expr id) :
    late.typing.typeOf expr = early.typing.typeOf expr := by
  cases expr with
  | literal => rfl
  | identifier var =>
      cases computes with
      | identifier settled _ => exact grows.ofVariable _ settled
  | argument => rfl
  | binary key op left right =>
      cases computes with
      | binary _ _ computesLeft computesRight _ _ _ =>
          simp only [Typing.typeOf, computesLeft.typeOf_eq grows left,
            computesRight.typeOf_eq grows right]
  | unary key op operand =>
      cases computes with
      | unary _ _ computes _ _ _ =>
          simp only [Typing.typeOf, computes.typeOf_eq grows operand]
  | cast => rfl
  | field => rfl
  | element key field indices => exact grows.ofElements field
  | load key elementKey field indices => exact grows.ofElements field

mutual

/-- A node goes on to compute what it computes. -/
theorem Computes.mono {early late : Code} (grows : early.Grows late) (expr : Expr)
    {id : Nat} (computes : early.Computes expr id) : late.Computes expr id := by
  cases expr with
  | literal key value type =>
      cases computes with
      | literal found => exact .literal (grows.nodes _ _ found)
  | identifier var =>
      cases computes with
      | identifier settled found =>
          have kept := grows.ofVariable _ settled
          exact .identifier (by rwa [kept]) (by rw [kept]; exact grows.nodes _ _ found)
  | argument key position type =>
      cases computes with
      | argument found => exact .argument (grows.nodes _ _ found)
  | binary key op left right =>
      cases computes with
      | binary common integral computesLeft computesRight bringsLeft bringsRight found =>
          have leftType := computesLeft.typeOf_eq grows left
          have rightType := computesRight.typeOf_eq grows right
          exact .binary (by rw [leftType, rightType]; exact common)
            (by rw [leftType, rightType]; exact integral)
            (computesLeft.mono grows left) (computesRight.mono grows right)
            (by rw [leftType]; exact bringsLeft.mono grows)
            (by rw [rightType]; exact bringsRight.mono grows) (grows.nodes _ _ found)
  | unary key op operand =>
      cases computes with
      | unary widened integral computes widens floats found =>
          have type := computes.typeOf_eq grows operand
          exact .unary (by rw [type]; exact widened) integral
            (computes.mono grows operand) (by rw [type]; exact widens.mono grows)
            (floats.mono grows) (grows.nodes _ _ found)
  | cast key operand type =>
      cases computes with
      | cast computes found => exact .cast (computes.mono grows operand) (grows.nodes _ _ found)
  | field field => cases computes
  | element key field indices =>
      cases computes with
      | element placed touched arity computes found =>
          exact .element (by rw [grows.leafOf?]; exact placed) (grows.touched _ touched) arity
            (computes.mono grows indices) (grows.nodes _ _ found)
  | load key elementKey field indices =>
      cases computes with
      | load placed touched arity computes found =>
          exact .load (by rw [grows.leafOf?]; exact placed) (grows.touched _ touched) arity
            (computes.mono grows indices) (grows.nodes _ _ found)

theorem ComputesIndex.mono {early late : Code} (grows : early.Grows late)
    (indices : List Expr) {nodes : List Nat} (computes : early.ComputesIndex indices nodes) :
    late.ComputesIndex indices nodes := by
  cases indices with
  | nil =>
      cases computes
      exact .nil
  | cons index rest =>
      cases computes with
      | cons computes integral later =>
          exact .cons (computes.mono grows index)
            (by rw [computes.typeOf_eq grows index]; exact integral) (later.mono grows rest)

end

/-- The node that computes an expression has the type of the expression. -/
theorem Computes.exists_node {code : Code} {expr : Expr} {id : Nat}
    (computes : code.Computes expr id) :
    ∃ op, code.nodes[id]? = some ⟨id, op, code.typing.typeOf expr⟩ := by
  cases computes with
  | literal found | identifier _ found | argument found | cast _ found => exact ⟨_, found⟩
  | binary common _ _ _ _ _ found =>
      subst common
      exact ⟨_, found⟩
  | unary widened _ _ _ _ found =>
      subst widened
      exact ⟨_, found⟩
  | element placed _ _ _ found | load placed _ _ _ found =>
      exact ⟨_, by simpa [Typing.typeOf, Typing.ofElements, placed] using found⟩

/-- The node that computes an expression is in the table. -/
theorem Computes.lt {code : Code} {expr : Expr} {id : Nat} (computes : code.Computes expr id) :
    id < code.nodes.size := by
  obtain ⟨op, found⟩ := computes.exists_node
  exact (Array.getElem?_eq_some_iff.mp found).1

theorem ComputesIndex.lt {code : Code} {indices : List Expr} {nodes : List Nat}
    (computes : code.ComputesIndex indices nodes) : ∀ node ∈ nodes, node < code.nodes.size := by
  induction indices generalizing nodes with
  | nil =>
      cases computes
      simp
  | cons index rest hypothesis =>
      cases computes with
      | cons computes integral later =>
          intro node member
          rcases List.mem_cons.mp member with rfl | member
          · exact computes.lt
          · exact hypothesis later node member

theorem Brings.lt {code : Code} {source target : DataType} {node result : Nat}
    (inside : node < code.nodes.size) (brings : code.Brings source target node result) :
    result < code.nodes.size := by
  rcases brings with ⟨_, rfl⟩ | ⟨_, found⟩
  · exact inside
  · exact (Array.getElem?_eq_some_iff.mp found).1

end Code

end FieldKernel
