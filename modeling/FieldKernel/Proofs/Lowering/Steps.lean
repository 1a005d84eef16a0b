import FieldKernel.IR.Lowering
import FieldKernel.Proofs.Meaning.Types

/-!
# Successful steps of lowering

A step of lowering that succeeds yields a result and a later state.  The
equivalences below take a successful step apart into the steps it is made of,
so that statements about lowering never unfold its monad.
-/

namespace FieldKernel

namespace Lower

/-- A step succeeds with a result and leaves a state behind. -/
def Yields {α : Type} (step : Lower α) (state : Lowering) (result : α)
    (after : Lowering) : Prop :=
  step.run.run state = (.ok result, after)

section Structure

variable {α β : Type} {state after : Lowering}

@[simp] theorem yields_pure {value result : α} :
    (pure value : Lower α).Yields state result after ↔
      value = result ∧ state = after := by
  simp only [Yields, ExceptT.run_pure, StateT.run_pure]
  constructor
  · intro equality
    cases equality
    exact ⟨rfl, rfl⟩
  · rintro ⟨rfl, rfl⟩
    rfl

@[simp] theorem yields_bind {step : Lower α} {next : α → Lower β} {result : β} :
    (step >>= next).Yields state result after ↔
      ∃ value between, step.Yields state value between ∧
        (next value).Yields between result after := by
  simp only [Yields, ExceptT.run_bind, StateT.run_bind]
  rcases outcome : step.run.run state with ⟨error | value, between⟩
  · constructor
    · intro equality
      cases equality
    · rintro ⟨value, between, impossible, _⟩
      cases impossible
  · constructor
    · intro later
      exact ⟨value, between, rfl, later⟩
    · rintro ⟨value', between', same, later⟩
      cases same
      exact later

@[simp] theorem yields_throw {error : Error} {result : α} :
    ¬ (throw error : Lower α).Yields state result after := by
  intro equality
  cases equality

@[simp] theorem yields_get {result : Lowering} :
    (get : Lower Lowering).Yields state result after ↔
      state = result ∧ state = after := by
  constructor
  · intro equality
    cases equality
    exact ⟨rfl, rfl⟩
  · rintro ⟨rfl, same⟩
    cases same
    rfl

@[simp] theorem yields_set {next : Lowering} {result : PUnit} :
    (set next : Lower PUnit).Yields state result after ↔ next = after := by
  constructor
  · intro equality
    cases equality
    rfl
  · rintro rfl
    rfl

@[simp] theorem yields_modify {change : Lowering → Lowering} {result : PUnit} :
    (modify change : Lower PUnit).Yields state result after ↔
      change state = after := by
  constructor
  · intro equality
    cases equality
    rfl
  · rintro rfl
    rfl

@[simp] theorem yields_ofExcept {outcome : Except Error α} {result : α} :
    (ofExcept outcome).Yields state result after ↔
      outcome = .ok result ∧ state = after := by
  constructor
  · intro equality
    cases equality
    exact ⟨rfl, rfl⟩
  · rintro ⟨rfl, rfl⟩
    rfl

/-- A choice between two steps that go on alike is a step of its own. -/
theorem yields_choice {guard : Prop} [Decidable guard] {one other : Lower α}
    {next : α → Lower β} {result : β} :
    (if guard then one >>= next else other >>= next).Yields state result after ↔
      ∃ value between, (if guard then one else other).Yields state value between ∧
        (next value).Yields between result after := by
  split <;> exact yields_bind

end Structure

section Primitives

variable {state after : Lowering}

@[simp] theorem yields_typeOf {node : Nat} {result : DataType} :
    (typeOf node).Yields state result after ↔
      state.typeOf node = result ∧ state = after := by
  simp only [typeOf, yields_bind, yields_get, yields_pure]
  constructor
  · rintro ⟨_, _, ⟨rfl, rfl⟩, same, rfl⟩
    exact ⟨same, rfl⟩
  · rintro ⟨same, rfl⟩
    exact ⟨state, state, ⟨rfl, rfl⟩, same, rfl⟩

@[simp] theorem yields_varType? {var : Nat} {result : Option DataType} :
    (varType? var).Yields state result after ↔
      state.varTypes[var]? = result ∧ state = after := by
  simp only [varType?, yields_bind, yields_get, yields_pure]
  constructor
  · rintro ⟨_, _, ⟨rfl, rfl⟩, same, rfl⟩
    exact ⟨same, rfl⟩
  · rintro ⟨same, rfl⟩
    exact ⟨state, state, ⟨rfl, rfl⟩, same, rfl⟩

/-- The state with one more node in its table. -/
def pushed (state : Lowering) (op : NodeOp) (type : DataType) : Lowering :=
  { state with nodes := state.nodes.push ⟨state.nodes.size, op, type⟩ }

@[simp] theorem yields_add {op : NodeOp} {type : DataType} {result : Nat} :
    (add op type).Yields state result after ↔
      state.nodes.size = result ∧ pushed state op type = after := by
  constructor
  · intro equality
    cases equality
    exact ⟨rfl, rfl⟩
  · rintro ⟨rfl, rfl⟩
    rfl

theorem yields_castTo {node result : Nat} {type : DataType} :
    (castTo node type).Yields state result after ↔
      (state.typeOf node = type ∧ node = result ∧ state = after) ∨
        (state.typeOf node ≠ type ∧ state.nodes.size = result ∧
          pushed state (.cast node) type = after) := by
  simp only [castTo, yields_bind, yields_typeOf]
  constructor
  · rintro ⟨_, _, ⟨rfl, rfl⟩, rest⟩
    split at rest
    · next same => exact .inl ⟨same, by simpa using rest⟩
    · next different => exact .inr ⟨different, by simpa using rest⟩
  · rintro (⟨same, rfl, rfl⟩ | ⟨different, rfl, rfl⟩)
    · exact ⟨_, _, ⟨rfl, rfl⟩, by simp [same]⟩
    · exact ⟨_, _, ⟨rfl, rfl⟩, by simp [different]⟩

@[simp] theorem yields_resolve {expr : Expr} {type : DataType} {result : Unit} :
    (resolve expr type).Yields state result after ↔
      ∃ slots, state.slots.resolve expr type = .ok slots ∧
        { state with slots := slots } = after := by
  simp only [resolve, yields_bind, yields_get, yields_ofExcept, yields_set]
  constructor
  · rintro ⟨_, _, ⟨rfl, rfl⟩, slots, _, ⟨resolved, rfl⟩, rfl⟩
    exact ⟨slots, resolved, rfl⟩
  · rintro ⟨slots, resolved, rfl⟩
    exact ⟨state, state, ⟨rfl, rfl⟩, slots, state, ⟨resolved, rfl⟩, rfl⟩

@[simp] theorem yields_declare {var : Nat} {type : DataType} {result : Unit} :
    (declare var type).Yields state result after ↔
      { state with varTypes := state.varTypes.insert var type } = after := by
  simp [declare]

theorem yields_leafOf {context : LoweringContext} {field : Field}
    {site? : Option Location} {result : Node} :
    (leafOf context field site?).Yields state result after ↔
      ∃ tree, context.objects.layouts.leafOf? field = some (tree, result) ∧
        context.objects.layouts[tree]?.any (·.isSealed) ∧
        { state with leaves := state.leaves.insert result.id () } = after := by
  unfold leafOf
  cases placed : context.objects.layouts.leafOf? field with
  | none => simp
  | some entry =>
      obtain ⟨tree, leaf⟩ := entry
      by_cases isSealed : context.objects.layouts[tree]?.any (·.isSealed)
      · simp only [isSealed, if_true, yields_bind, yields_modify, yields_pure]
        constructor
        · rintro ⟨_, _, changed, rfl, rfl⟩
          exact ⟨tree, rfl, isSealed, changed⟩
        · rintro ⟨_, same, _, changed⟩
          cases same
          exact ⟨⟨⟩, after, changed, rfl, rfl⟩
      · simp only [isSealed, Bool.false_eq_true, if_false, yields_bind, yields_throw]
        constructor
        · rintro ⟨_, _, impossible, _⟩
          exact impossible.elim
        · rintro ⟨_, same, holds, _⟩
          cases same
          exact (isSealed holds).elim

@[simp] theorem yields_checkArity {leaf : Node} {count : Nat} {kind : String}
    {site? : Option Location} {result : Unit} :
    (checkArity leaf count kind site?).Yields state result after ↔
      count = leaf.lineage.axes.length ∧ state = after := by
  unfold checkArity
  by_cases same : count = leaf.lineage.axes.length <;> simp [same]

theorem yields_leafAt {context : LoweringContext} {key count : Nat} {field : Field}
    {result : Node} :
    (leafAt context key field count).Yields state result after ↔
      (leafOf context field context.locations[key]?).Yields state result after ∧
        count = result.lineage.axes.length := by
  simp only [leafAt, yields_bind, yields_checkArity, yields_pure]
  constructor
  · rintro ⟨_, _, found, _, _, ⟨arity, rfl⟩, rfl, rfl⟩
    exact ⟨found, arity⟩
  · rintro ⟨found, arity⟩
    exact ⟨result, after, found, ⟨⟩, after, ⟨arity, rfl⟩, rfl, rfl⟩

@[simp] theorem yields_checkIndex {context : LoweringContext} {index : Expr} {node : Nat}
    {result : Unit} :
    (checkIndex context index node).Yields state result after ↔
      (state.typeOf node).isIntegral ∧ state = after := by
  unfold checkIndex
  by_cases integral : (state.typeOf node).isIntegral <;> simp [integral]

@[simp] theorem yields_checkBound {site? : Option Location}
    {text : Except HostFault String} {bound : Nat} {result : Unit} :
    (checkBound site? text bound).Yields state result after ↔
      (state.typeOf bound).isIntegral ∧ state = after := by
  unfold checkBound
  by_cases integral : (state.typeOf bound).isIntegral <;> simp [integral]

/-- An expression is either known already, or lowered, given its type and kept. -/
theorem yields_once {expr : Expr} {lower : Lower Nat} {result : Nat} :
    (once expr lower).Yields state result after ↔
      (state.lowered[expr.key]? = some result ∧ state = after) ∨
        (state.lowered[expr.key]? = none ∧
          ∃ between slots, lower.Yields state result between ∧
            between.slots.resolve expr (between.typeOf result) = .ok slots ∧
            { between with
              slots := slots
              lowered := between.lowered.insert expr.key result } = after) := by
  cases known : state.lowered[expr.key]? with
  | some node =>
      simp only [once, yields_bind, yields_get, Option.some.injEq, reduceCtorEq, false_and,
        or_false]
      constructor
      · rintro ⟨_, _, ⟨rfl, rfl⟩, rest⟩
        simpa [known] using rest
      · intro same
        exact ⟨state, state, ⟨rfl, rfl⟩, by simpa [known] using same⟩
  | none =>
      simp only [once, yields_bind, yields_get, reduceCtorEq, false_and, false_or, true_and]
      constructor
      · rintro ⟨_, _, ⟨rfl, rfl⟩, rest⟩
        simp only [known, yields_bind, yields_typeOf, yields_resolve, yields_modify,
          yields_pure] at rest
        obtain ⟨_, between, lowered, _, _, ⟨rfl, rfl⟩, _, _, ⟨slots, resolved, rfl⟩, _, _,
          rfl, rfl, rfl⟩ := rest
        exact ⟨between, slots, lowered, resolved, rfl⟩
      · rintro ⟨between, slots, lowered, resolved, rfl⟩
        refine ⟨state, state, ⟨rfl, rfl⟩, ?_⟩
        simp only [known, yields_bind, yields_typeOf, yields_resolve, yields_modify,
          yields_pure]
        exact ⟨result, between, lowered, _, between, ⟨rfl, rfl⟩, ⟨⟩, _, ⟨slots, resolved, rfl⟩,
          ⟨⟩, _, rfl, rfl, rfl⟩

@[simp] theorem typeOf_pushed {op : NodeOp} {type : DataType} :
    (pushed state op type).typeOf state.nodes.size = type := by
  simp [Lowering.typeOf, pushed]

/-- What a node is brought to has the type that was asked for. -/
theorem typeOf_of_castTo {node result : Nat} {type : DataType}
    (cast : (castTo node type).Yields state result after) : after.typeOf result = type := by
  rcases yields_castTo.mp cast with ⟨same, rfl, rfl⟩ | ⟨_, rfl, rfl⟩
  · exact same
  · exact typeOf_pushed

theorem yields_castTo_same {node : Nat} {type : DataType} (same : state.typeOf node = type) :
    (castTo node type).Yields state node state :=
  yields_castTo.mpr (.inl ⟨same, rfl, rfl⟩)

end Primitives

section Operators

variable {state after : Lowering}

theorem binary_yields {site? : Option Location} {text : Except HostFault String}
    {op : BinaryOp} {left right result : Nat}
    (success : (binary site? text op left right).Yields state result after) :
    let type := BinaryOp.operandType (state.typeOf left) (state.typeOf right)
    (op.isBitwise → (state.typeOf left).isIntegral ∧ (state.typeOf right).isIntegral) ∧
      ∃ leftNode rightNode first second,
        (castTo left type).Yields state leftNode first ∧
        (castTo right type).Yields first rightNode second ∧
        second.nodes.size = result ∧
        pushed second (.binary op leftNode rightNode) (op.computedType type) = after := by
  simp only [binary, yields_bind, yields_typeOf] at success
  obtain ⟨_, _, ⟨rfl, rfl⟩, _, _, ⟨rfl, rfl⟩, rest⟩ := success
  split at rest
  · simp at rest
  · next accepted =>
    simp only [yields_bind, yields_add] at rest
    obtain ⟨leftNode, first, leftCast, rightNode, second, rightCast, size, pushes⟩ := rest
    refine ⟨?_, leftNode, rightNode, first, second, leftCast, rightCast, size, pushes⟩
    intro bitwise
    simpa [bitwise] using accepted

theorem unary_yields {site? : Option Location} {text : Except HostFault String}
    {op : UnaryOp} {operand result : Nat}
    (success : (unary site? text op operand).Yields state result after) :
    let widened := op.widened (state.typeOf operand)
    (op = .bitNot → widened.isIntegral) ∧
      ∃ first second widening floating,
        (castTo operand widened).Yields state first widening ∧
        (castTo first (op.floated widened)).Yields widening second floating ∧
        floating.nodes.size = result ∧
        pushed floating (.unary op second) (op.computedType (op.floated widened)) = after := by
  intro widened
  simp only [unary, yields_bind, yields_typeOf] at success
  obtain ⟨_, _, ⟨rfl, rfl⟩, rest⟩ := success
  rw [yields_choice] at rest
  obtain ⟨first, widening, widens, rest⟩ := rest
  have widens : (castTo operand widened).Yields state first widening := by
    split at widens
    · next wide => simpa [widened, UnaryOp.widened, wide] using widens
    · next same =>
      obtain ⟨rfl, rfl⟩ := yields_pure.mp widens
      exact yields_castTo_same (by simp only [widened, UnaryOp.widened, if_neg same])
  have firstType := typeOf_of_castTo widens
  simp only [yields_bind, yields_typeOf] at rest
  obtain ⟨_, _, ⟨rfl, rfl⟩, rest⟩ := rest
  split at rest
  · simp at rest
  · next accepted =>
    simp only [yields_bind, yields_typeOf] at rest
    obtain ⟨_, _, ⟨rfl, rfl⟩, rest⟩ := rest
    rw [yields_choice, firstType] at rest
    obtain ⟨second, floating, floats, rest⟩ := rest
    have floats : (castTo first (op.floated widened)).Yields widening second floating := by
      split at floats
      · next wide => simpa [UnaryOp.floated, wide] using floats
      · next same =>
        obtain ⟨rfl, rfl⟩ := yields_pure.mp floats
        exact yields_castTo_same (by rw [UnaryOp.floated, if_neg same, firstType])
    have secondType := typeOf_of_castTo floats
    simp only [yields_bind, yields_typeOf, yields_add] at rest
    obtain ⟨_, _, ⟨rfl, rfl⟩, size, pushes⟩ := rest
    refine ⟨?_, first, second, widening, floating, widens, floats, size, ?_⟩
    · intro bitNot
      simpa [bitNot, firstType] using accepted
    · rw [secondType] at pushes
      exact pushes

end Operators

end Lower

namespace KernelIR

/-- A lowered kernel has the nodes, the leaves and the variables of the last state of
lowering. -/
structure EndsIn (ir : KernelIR) (state : Lowering) : Prop where
  nodes : ir.nodes = state.nodes
  leaves (leaf : Nat) : leaf ∈ ir.leaves ↔ leaf ∈ state.leaves
  varTypes : ir.varTypes = state.varTypes.toList

/-- A kernel is lowered by lowering its body. -/
theorem exists_run {name : String} {target : ArchSetting} {context : LoweringContext}
    {body : List Stmt} {slots : TypeSlots} {ir : KernelIR}
    (success : (ofBody name target context body slots).1 = .ok ir) :
    ∃ state, (Lower.block context body).Yields (.start slots) ir.body state ∧ ir.EndsIn state ∧
      (ofBody name target context body slots).2 = state.slots ∧
      ir.argTypes = context.argTypes ∧ ir.name = name := by
  rcases outcome : (Lower.block context body).run.run (Lowering.start slots) with
    ⟨error | ops, state⟩
  · simp [ofBody, outcome, Except.map] at success
  · simp only [ofBody, outcome, Except.map, Except.ok.injEq] at success ⊢
    subst success
    refine ⟨state, outcome, ⟨rfl, fun leaf => ?_, rfl⟩, rfl, rfl, rfl⟩
    rw [Std.TreeMap.map_fst_toList_eq_keys, Std.TreeMap.mem_keys]

end KernelIR

end FieldKernel
