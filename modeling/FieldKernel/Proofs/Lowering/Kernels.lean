import FieldKernel.Proofs.Lowering.Statements

/-!
# Lowering kernels

A kernel that could be lowered has operations that perform its statements one
by one.  It lists the leaves of the fields in it, and the types that its
variables have at the end.
-/

namespace FieldKernel

theorem lookup_toList (map : Std.TreeMap Nat DataType) (key : Nat) :
    map.toList.lookup key = map[key]? := by
  cases found : map.toList.lookup key with
  | some type =>
      obtain ⟨before, after, split, _⟩ := List.lookup_eq_some_iff.mp found
      have member : (key, type) ∈ map.toList := by simp [split]
      exact (Std.TreeMap.mem_toList_iff_getElem?_eq_some.mp member).symm
  | none =>
      cases kept : map[key]? with
      | none => rfl
      | some type =>
          have member := Std.TreeMap.mem_toList_iff_getElem?_eq_some.mpr kept
          have missing := List.lookup_eq_none_iff.mp found _ member
          simp at missing

namespace Lowering

/-- Lowering starts in a sound state, whatever types are known from before. -/
theorem start_sound (occurs : Expr → Prop) (leafOf? : Field → Option Node) (slots : TypeSlots) :
    (start slots).Sound occurs leafOf? .none where
  ordered := by
    intro id node found
    simp [start] at found
  computes := by
    intro expr id known cached
    simp [start] at cached
  declared id := by simp [start, VariableTypes.none]
  slots := by
    intro var known settled
    exact absurd rfl settled
  touched := by
    intro leaf found
    simp [start] at found
  typed := by
    intro id node found
    simp [start] at found

end Lowering

namespace KernelIR

/-- The code of a lowered kernel. -/
def code (ir : KernelIR) (types : VariableTypes) (leafOf? : Field → Option Node) : Code :=
  ⟨types.typing leafOf?, ir.nodes, (· ∈ ir.leaves)⟩

/-- What is known about a lowered kernel and the body it was lowered from. -/
structure Lowers (ir : KernelIR) (leafOf? : Field → Option Node) (types : VariableTypes)
    (body : List Stmt) : Prop where
  performs : (ir.code types leafOf?).PerformsAll body ir.body
  ordered {id : Nat} {node : IRNode} (found : ir.nodes[id]? = some node) :
    ∀ input ∈ node.op.inputs, input < id
  declared (id : Nat) : (ir.varTypes.lookup id).getD .unknown = types.declared id
  touched {leaf : Nat} (found : leaf ∈ ir.leaves) :
    ∃ field node, Stmt.Occurs body (.field field) ∧ leafOf? field = some node ∧ node.id = leaf
  typed {id : Nat} {node : IRNode} (found : ir.nodes[id]? = some node) :
    (ir.code types leafOf?).Typed (Stmt.Occurs body) node.op node.type
  agrees (plain : Stmt.BlockPlain body) : types.Agrees

/-- The code of a lowered kernel has that of the last state of lowering. -/
theorem EndsIn.grows {ir : KernelIR} {state : Lowering} (ends : ir.EndsIn state)
    (types : VariableTypes) (leafOf? : Field → Option Node) :
    (state.code types leafOf?).Grows (ir.code types leafOf?) := by
  refine ⟨fun _ _ => rfl, rfl, fun id node found => ?_, fun leaf => (ends.leaves leaf).mpr⟩
  simp only [code, ends.nodes]
  exact found

section Body

variable {name : String} {target : ArchSetting} {context : LoweringContext} {body : List Stmt}
  {slots : TypeSlots} {ir : KernelIR}

/-- A kernel that could be lowered does what its body says. -/
theorem lowers_of_ofBody (occurring : Occurring (Stmt.Occurs body))
    (success : (ofBody name target context body slots).1 = .ok ir) :
    ir.Lowers context.leafOf? (.block context.leafOf? .none body) body ∧
      ir.argTypes = context.argTypes ∧ ir.name = name := by
  obtain ⟨state, lowered, ends, _, argTypes, same⟩ := exists_run success
  obtain ⟨leads, performs, agree⟩ :=
    Lower.block_sound occurring body (fun root member => .root member)
      (Lowering.start_sound _ _ slots) lowered
  have grows := ends.grows (.block context.leafOf? .none body) context.leafOf?
  refine ⟨⟨?_, ?_, ?_, ?_, ?_, ?_⟩, argTypes, same⟩
  · exact performs.mono grows body
  · intro id node found
    rw [ends.nodes] at found
    exact leads.sound.ordered found
  · intro id
    rw [ends.varTypes, lookup_toList]
    exact leads.sound.declared id
  · intro leaf found
    exact leads.sound.touched ((ends.leaves leaf).mp found)
  · intro id node found
    rw [ends.nodes] at found
    exact (leads.sound.typed found).mono grows
  · exact fun plain => agree plain VariableTypes.agrees_none

end Body

end KernelIR

end FieldKernel
