import FieldKernel.Proofs.Lowering.Typing
import FieldKernel.Proofs.Recording.Nodes

/-!
# Sound states of lowering

A state of lowering is sound if the node it keeps for an expression computes
the expression, and if what it knows about variables is what follows from the
statements so far.  The primitive steps of lowering lead from sound states to
sound states.
-/

namespace FieldKernel

/-- A variable whose type is known keeps it, whatever slot is filled. -/
theorem TypeSlots.resolve_keeps {slots filled : TypeSlots} {expr : Expr} {type : DataType}
    (resolved : slots.resolve expr type = .ok filled) {var : Variable}
    (settled : slots.typeOf (.identifier var) ≠ .unknown) :
    filled.typeOf (.identifier var) = slots.typeOf (.identifier var) := by
  simp only [resolve] at resolved
  split at resolved
  · cases resolved
    rfl
  · split at resolved
    · cases resolved
    · next unresolved =>
      cases resolved
      have different : expr.key ≠ (Expr.identifier var).key := by
        intro same
        apply unresolved
        simp only [typeOf, same] at settled ⊢
        cases found : slots.filled[(Expr.identifier var).key]? with
        | none => simp [found, Expr.initialType] at settled
        | some type => simpa [found] using settled
      simp [typeOf, Std.TreeMap.getElem?_insert, different]

/-- A slot that could be filled was open or held the type already. -/
theorem TypeSlots.typeOf_of_resolved {slots filled : TypeSlots} {expr : Expr}
    {type : DataType} (resolved : slots.resolve expr type = .ok filled)
    (settled : slots.typeOf expr ≠ .unknown) : slots.typeOf expr = type := by
  simp only [resolve] at resolved
  split at resolved
  · assumption
  · cases resolved

/-- The leaf that lowering finds for a field. -/
def LoweringContext.leafOf? (context : LoweringContext) (field : Field) : Option Node :=
  (context.objects.layouts.leafOf? field).map (·.2)

namespace Lowering

/-- The code in a state of lowering. -/
def code (state : Lowering) (types : VariableTypes) (leafOf? : Field → Option Node) : Code :=
  ⟨types.typing leafOf?, state.nodes, (· ∈ state.leaves)⟩

/-- A state of lowering fits what is known about variables. -/
structure Sound (occurs : Expr → Prop) (leafOf? : Field → Option Node)
    (types : VariableTypes) (state : Lowering) : Prop where
  /-- A node refers to earlier ones. -/
  ordered {id : Nat} {node : IRNode} (found : state.nodes[id]? = some node) :
    ∀ input ∈ node.op.inputs, input < id
  computes {expr : Expr} {id : Nat} (known : occurs expr)
    (cached : state.lowered[expr.key]? = some id) :
    (state.code types leafOf?).Computes expr id
  declared (id : Nat) : (state.varTypes[id]?).getD .unknown = types.declared id
  slots {var : Variable} (known : occurs (.identifier var))
    (settled : types.settled var.identifier.id ≠ .unknown) :
    state.slots.typeOf (.identifier var) = types.settled var.identifier.id
  /-- A leaf is recorded as accessed for a field that occurs. -/
  touched {leaf : Nat} (found : leaf ∈ state.leaves) :
    ∃ field node, occurs (.field field) ∧ leafOf? field = some node ∧ node.id = leaf
  typed {id : Nat} {node : IRNode} (found : state.nodes[id]? = some node) :
    (state.code types leafOf?).Typed occurs node.op node.type

/-- One sound state leads to another, whose code has that of the first. -/
structure Leads (occurs : Expr → Prop) (leafOf? : Field → Option Node)
    (types : VariableTypes) (state : Lowering) (later : VariableTypes) (after : Lowering) :
    Prop where
  sound : after.Sound occurs leafOf? later
  grows : (state.code types leafOf?).Grows (after.code later leafOf?)

variable {occurs : Expr → Prop} {leafOf? : Field → Option Node}
  {types later last : VariableTypes} {state after final : Lowering}

theorem Leads.refl (sound : state.Sound occurs leafOf? types) :
    Leads occurs leafOf? types state types state :=
  ⟨sound, .refl _⟩

theorem Leads.trans (first : Leads occurs leafOf? types state later after)
    (second : Leads occurs leafOf? later after last final) :
    Leads occurs leafOf? types state last final :=
  ⟨second.sound, first.grows.trans second.grows⟩

theorem Leads.lt (leads : Leads occurs leafOf? types state later after) {id : Nat}
    (inside : id < state.nodes.size) : id < after.nodes.size := by
  have found : state.nodes[id]? = some state.nodes[id] := Array.getElem?_eq_getElem inside
  exact (Array.getElem?_eq_some_iff.mp (leads.grows.nodes id _ found)).1

/-- The node that computes an expression has the type of the expression. -/
theorem typeOf_of_computes {expr : Expr} {id : Nat}
    (computes : (state.code types leafOf?).Computes expr id) :
    state.typeOf id = (types.typing leafOf?).typeOf expr := by
  obtain ⟨op, found⟩ := computes.exists_node
  have found : state.nodes[id]? = some ⟨id, op, (types.typing leafOf?).typeOf expr⟩ := found
  simp [typeOf, found]

/-- What was pushed is found at the end of the table. -/
theorem found_pushed (state : Lowering) (op : NodeOp) (type : DataType) :
    (Lower.pushed state op type).nodes[state.nodes.size]? =
      some ⟨state.nodes.size, op, type⟩ := by
  simp [Lower.pushed]

theorem lt_of_computes {expr : Expr} {id : Nat}
    (computes : (state.code types leafOf?).Computes expr id) : id < state.nodes.size := by
  obtain ⟨op, found⟩ := computes.exists_node
  exact (Array.getElem?_eq_some_iff.mp found).1

theorem lt_of_computesIndex {indices : List Expr} {nodes : List Nat}
    (computes : (state.code types leafOf?).ComputesIndex indices nodes) :
    ∀ node ∈ nodes, node < state.nodes.size := by
  induction indices generalizing nodes with
  | nil =>
      cases computes
      simp
  | cons index rest hypothesis =>
      cases computes with
      | cons computes _ later =>
          intro node member
          rcases List.mem_cons.mp member with rfl | member
          · exact lt_of_computes computes
          · exact hypothesis later node member

namespace Sound

/-- The table can be extended by a node that refers to nodes of the table, if
its type fits theirs. -/
theorem pushed (sound : state.Sound occurs leafOf? types) (op : NodeOp) (type : DataType)
    (below : ∀ input ∈ op.inputs, input < state.nodes.size)
    (typed : (state.code types leafOf?).Typed occurs op type) :
    Leads occurs leafOf? types state types (Lower.pushed state op type) := by
  have grows : (state.code types leafOf?).Grows
      ((Lower.pushed state op type).code types leafOf?) := by
    refine ⟨fun _ _ => rfl, rfl, ?_, fun _ found => found⟩
    intro id node found
    have found : state.nodes[id]? = some node := found
    have inside := (Array.getElem?_eq_some_iff.mp found).1
    simp only [code, Lower.pushed, Array.getElem?_push, Nat.ne_of_lt inside, if_false, found]
  refine ⟨⟨?_, ?_, sound.declared, sound.slots, sound.touched, ?_⟩, grows⟩
  · intro id node found
    simp only [Lower.pushed, Array.getElem?_push] at found
    split at found
    · next same =>
      cases found
      rw [same]
      exact below
    · exact sound.ordered found
  · intro expr id known cached
    exact (sound.computes known cached).mono grows
  · intro id node found
    simp only [Lower.pushed, Array.getElem?_push] at found
    split at found
    · cases found
      exact typed.mono grows
    · exact (sound.typed found).mono grows

/-- A leaf can be recorded as accessed for a field that occurs. -/
theorem touches (sound : state.Sound occurs leafOf? types) {field : Field} {leaf : Node}
    (known : occurs (.field field)) (placed : leafOf? field = some leaf) :
    Leads occurs leafOf? types state types
      { state with leaves := state.leaves.insert leaf.id () } := by
  have grows : (state.code types leafOf?).Grows
      (code { state with leaves := state.leaves.insert leaf.id () } types leafOf?) := by
    refine ⟨fun _ _ => rfl, rfl, fun _ _ found => found, ?_⟩
    intro other found
    exact Std.TreeMap.mem_insert.mpr (.inr found)
  refine ⟨⟨sound.ordered, ?_, sound.declared, sound.slots, ?_, ?_⟩, grows⟩
  · intro expr id known cached
    exact (sound.computes known cached).mono grows
  · intro other found
    rcases Std.TreeMap.mem_insert.mp found with same | found
    · exact ⟨field, leaf, known, placed, by simpa using same⟩
    · exact sound.touched found
  · intro id node found
    exact (sound.typed found).mono grows

/-- Filling a slot leaves variables that have settled as they are. -/
theorem fills (sound : state.Sound occurs leafOf? types) {expr : Expr} {type : DataType}
    {slots : TypeSlots} (resolved : state.slots.resolve expr type = .ok slots) :
    Leads occurs leafOf? types state types { state with slots := slots } := by
  refine ⟨⟨sound.ordered, sound.computes, sound.declared, ?_, sound.touched, sound.typed⟩, .refl _⟩
  intro var known settled
  have slot := sound.slots known settled
  rw [← slot]
  exact TypeSlots.resolve_keeps resolved (by rwa [slot])

/-- An expression can be kept with a node that computes it. -/
theorem remember (sound : state.Sound occurs leafOf? types) (occurring : Occurring occurs)
    {expr : Expr} {id : Nat} (known : occurs expr)
    (computes : (state.code types leafOf?).Computes expr id) :
    Leads occurs leafOf? types state types
      { state with lowered := state.lowered.insert expr.key id } := by
  refine ⟨⟨sound.ordered, ?_, sound.declared, sound.slots, sound.touched, sound.typed⟩, .refl _⟩
  intro other otherId otherKnown cached
  simp only [Std.TreeMap.getElem?_insert, compare_eq_iff_eq] at cached
  split at cached
  · next same =>
    cases cached
    cases occurring.ofKey known otherKnown same
    exact computes
  · exact sound.computes otherKnown cached

/-- A declaration changes no variable that has settled. -/
theorem declares (sound : state.Sound occurs leafOf? types) (id : Nat) (type : DataType) :
    Leads occurs leafOf? types state (types.declare id type)
      { state with varTypes := state.varTypes.insert id type } := by
  refine ⟨⟨sound.ordered, sound.computes, ?_, sound.slots, sound.touched, sound.typed⟩, .refl _⟩
  intro other
  by_cases same : id = other
  · subst same
    simp [VariableTypes.declare]
  · simpa [VariableTypes.declare, Std.TreeMap.getElem?_insert, same, Ne.symm same] using
      sound.declared other

/-- A variable settles when its slot is filled with its declared type. -/
theorem settle (sound : state.Sound occurs leafOf? types) (occurring : Occurring occurs)
    {var : Variable} (slots : TypeSlots) (known : occurs (.identifier var))
    (resolved : state.slots.resolve (.identifier var) (types.declared var.identifier.id) =
      .ok slots) :
    Leads occurs leafOf? types state (types.settle var.identifier.id)
        { state with slots := slots } ∧
      (types.settle var.identifier.id).settled var.identifier.id =
        types.declared var.identifier.id := by
  have settles : (types.settle var.identifier.id).settled var.identifier.id =
      types.declared var.identifier.id := by
    unfold VariableTypes.settle
    split
    · simp
    · next settled =>
      have slot := sound.slots known settled
      rw [← slot]
      exact TypeSlots.typeOf_of_resolved resolved (by rwa [slot])
  have others (id : Nat) (settled : types.settled id ≠ .unknown) :
      (types.settle var.identifier.id).settled id = types.settled id := by
    unfold VariableTypes.settle
    split
    · next unsettled =>
      have different : id ≠ var.identifier.id := by
        rintro rfl
        exact settled unsettled
      simp [different]
    · rfl
  have grows : (state.code types leafOf?).Grows
      (code { state with slots := slots } (types.settle var.identifier.id) leafOf?) :=
    ⟨others, rfl, fun _ _ found => found, fun _ found => found⟩
  have typed {id : Nat} {node : IRNode} (found : state.nodes[id]? = some node) :
      (code { state with slots := slots } (types.settle var.identifier.id) leafOf?).Typed occurs
        node.op node.type :=
    (sound.typed found).mono grows
  refine ⟨⟨⟨sound.ordered, ?_, ?_, ?_, sound.touched, typed⟩, grows⟩, settles⟩
  · intro expr id known cached
    exact (sound.computes known cached).mono grows
  · intro id
    rw [sound.declared id]
    unfold VariableTypes.settle
    split <;> rfl
  · intro other otherKnown settled
    by_cases same : other.identifier.id = var.identifier.id
    · cases occurring.ofIdentifier otherKnown known same
      rw [settles]
      exact TypeSlots.typeOf_of_resolve resolved
    · have kept : (types.settle var.identifier.id).settled other.identifier.id =
          types.settled other.identifier.id := by
        unfold VariableTypes.settle
        split
        · simp [same]
        · rfl
      rw [kept] at settled ⊢
      have slot := sound.slots otherKnown settled
      rw [← slot]
      exact TypeSlots.resolve_keeps resolved (by rwa [slot])

/-- Bringing a node to a type casts it if need be. -/
theorem casts (sound : state.Sound occurs leafOf? types) {node result : Nat}
    {type : DataType} (inside : node < state.nodes.size)
    (cast : (Lower.castTo node type).Yields state result after) :
    Leads occurs leafOf? types state types after ∧
      (after.code types leafOf?).Brings (state.typeOf node) type node result ∧
      result < after.nodes.size := by
  rcases Lower.yields_castTo.mp cast with ⟨same, rfl, rfl⟩ | ⟨different, rfl, rfl⟩
  · exact ⟨.refl sound, .inl ⟨same, rfl⟩, inside⟩
  · have pushes := sound.pushed (.cast node) type (by simpa [NodeOp.inputs] using inside)
      (.cast (Code.has_of_lt inside))
    exact ⟨pushes, .inr ⟨different, found_pushed ..⟩, by simp [Lower.pushed]⟩

end Sound

end Lowering

end FieldKernel
