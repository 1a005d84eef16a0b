import FieldKernel.Proofs.Lowering.Code

/-!
# Types of lowered nodes

`Code.Typed` says when the type of a node fits the types of the nodes that it
refers to, of the variables, and of the elements of the fields.  A node that
fits goes on to fit when code is added.
-/

namespace FieldKernel

namespace Code

/-- The table has a node of a type. -/
def Has (code : Code) (id : Nat) (type : DataType) : Prop :=
  ∃ node, code.nodes[id]? = some node ∧ node.type = type

/-- Nodes are an index of the elements of a leaf: a whole number for each
axis. -/
structure Indexes (code : Code) (leaf : Node) (indices : List Nat) : Prop where
  arity : indices.length = leaf.lineage.axes.length
  integral : ∀ index ∈ indices, ∃ type, code.Has index type ∧ type.isIntegral

/-- What a node computes has a type. -/
inductive Typed (occurs : Expr → Prop) (code : Code) : NodeOp → DataType → Prop where
  | const {value : Literal} {type : DataType} : Typed occurs code (.const value) type
  | var {id : Nat} {type : DataType} (settled : code.typing.ofVariable id = type)
      (known : type ≠ .unknown) : Typed occurs code (.var id) type
  | argument {key : Nat} {position : Int} {type : DataType}
      (known : occurs (.argument key position type)) :
      Typed occurs code (.argument position) type
  | binary {op : BinaryOp} {left right : Nat} {type : DataType}
      (ofLeft : code.Has left type) (ofRight : code.Has right type) :
      Typed occurs code (.binary op left right) (op.computedType type)
  | unary {op : UnaryOp} {operand : Nat} {type : DataType} (ofOperand : code.Has operand type) :
      Typed occurs code (.unary op operand) (op.computedType type)
  | cast {operand : Nat} {source type : DataType} (ofOperand : code.Has operand source) :
      Typed occurs code (.cast operand) type
  | load {field : Field} {leaf : Node} {indices : List Nat}
      (known : occurs (.field field)) (placed : code.typing.leafOf? field = some leaf)
      (indexes : code.Indexes leaf indices) :
      Typed occurs code (.load leaf.id indices) leaf.type

section Growth

variable {early late : Code}

theorem Has.mono (grows : early.Grows late) {id : Nat} {type : DataType}
    (has : early.Has id type) : late.Has id type := by
  obtain ⟨node, found, ofNode⟩ := has
  exact ⟨node, grows.nodes id node found, ofNode⟩

theorem Indexes.mono (grows : early.Grows late) {leaf : Node} {indices : List Nat}
    (indexes : early.Indexes leaf indices) : late.Indexes leaf indices where
  arity := indexes.arity
  integral index member := by
    obtain ⟨type, has, integral⟩ := indexes.integral index member
    exact ⟨type, has.mono grows, integral⟩

theorem Typed.mono (grows : early.Grows late) {occurs : Expr → Prop} {op : NodeOp}
    {type : DataType} (typed : early.Typed occurs op type) : late.Typed occurs op type := by
  cases typed with
  | const => exact .const
  | var settled known =>
      exact .var ((grows.ofVariable _ (by rwa [settled])).trans settled) known
  | argument known => exact .argument known
  | binary ofLeft ofRight => exact .binary (ofLeft.mono grows) (ofRight.mono grows)
  | unary ofOperand => exact .unary (ofOperand.mono grows)
  | cast ofOperand => exact .cast (ofOperand.mono grows)
  | load known placed indexes =>
      exact .load known (by rw [grows.leafOf?]; exact placed) (indexes.mono grows)

end Growth

variable {code : Code}

/-- An operator gets operands of one type. -/
theorem Typed.operands {occurs : Expr → Prop} {op : BinaryOp} {left right : Nat}
    {type : DataType} (typed : code.Typed occurs (.binary op left right) type) :
    ∃ common, code.Has left common ∧ code.Has right common := by
  cases typed with
  | binary ofLeft ofRight => exact ⟨_, ofLeft, ofRight⟩

theorem Typed.indexes {occurs : Expr → Prop} {id : Nat} {indices : List Nat} {type : DataType}
    (typed : code.Typed occurs (.load id indices) type) :
    ∃ leaf, code.Indexes leaf indices := by
  cases typed with
  | load _ _ indexes => exact ⟨_, indexes⟩

theorem has_of_lt {id : Nat} (inside : id < code.nodes.size) :
    code.Has id code.nodes[id].type :=
  ⟨_, Array.getElem?_eq_getElem inside, rfl⟩

theorem Computes.has {expr : Expr} {id : Nat} (computes : code.Computes expr id) :
    code.Has id (code.typing.typeOf expr) := by
  obtain ⟨op, found⟩ := computes.exists_node
  exact ⟨_, found, rfl⟩

/-- What a node is brought to has the type asked for. -/
theorem Brings.has {source target : DataType} {node result : Nat} (has : code.Has node source)
    (brings : code.Brings source target node result) : code.Has result target := by
  rcases brings with ⟨rfl, rfl⟩ | ⟨_, found⟩
  · exact has
  · exact ⟨_, found, rfl⟩

theorem ComputesIndex.indexes {indices : List Expr} {nodes : List Nat} {leaf : Node}
    (computes : code.ComputesIndex indices nodes)
    (arity : indices.length = leaf.lineage.axes.length) : code.Indexes leaf nodes := by
  have rows : nodes.length = indices.length ∧
      ∀ index ∈ nodes, ∃ type, code.Has index type ∧ type.isIntegral := by
    clear arity
    induction indices generalizing nodes with
    | nil =>
        cases computes
        simp
    | cons first rest hypothesis =>
        cases computes with
        | cons computes integral later =>
            obtain ⟨length, others⟩ := hypothesis later
            refine ⟨by simp [length], fun index member => ?_⟩
            rcases List.mem_cons.mp member with rfl | member
            · exact ⟨_, computes.has, integral⟩
            · exact others index member
  exact ⟨rows.1.trans arity, rows.2⟩

end Code

end FieldKernel
