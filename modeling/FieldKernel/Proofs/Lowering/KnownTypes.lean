import FieldKernel.Proofs.Lowering.Demands
import FieldKernel.Proofs.Lowering.Soundness

/-!
# Types that lowering asks for

If no unknown type is written down, in a constant, a cast or an argument, or placed for a
field, then no node gets an unknown type, and none is asked of a slot.  A variable may be
without a type for a while, but it cannot be read then.
-/

namespace FieldKernel

/-- The type that is written down in an expression itself. -/
def Expr.writtenType? : Expr → Option DataType
  | .literal _ _ type => some type
  | .argument _ _ type => some type
  | .cast _ _ type => some type
  | _ => none

/-- No type is unknown that is written down in code or placed for a field in it. -/
structure LoweringContext.Knows (context : LoweringContext) (occurs : Expr → Prop) : Prop where
  written {expr : Expr} {type : DataType} (known : occurs expr)
    (spelled : expr.writtenType? = some type) : type ≠ .unknown
  placed {field : Field} {leaf : Node} (known : occurs (.field field))
    (found : context.leafOf? field = some leaf) : leaf.type ≠ .unknown

namespace BinaryOp

variable {left right type : DataType}

theorem operandType_ne (one : left ≠ .unknown) (two : right ≠ .unknown) :
    operandType left right ≠ .unknown :=
  fun unknown => (operandType_eq_unknown unknown).elim one two

theorem computedType_ne (op : BinaryOp) (known : type ≠ .unknown) :
    op.computedType type ≠ .unknown := by
  rw [computedType]
  split
  · exact nofun
  · exact known

end BinaryOp

theorem UnaryOp.computedType_ne (op : UnaryOp) {type : DataType} (known : type ≠ .unknown) :
    op.computedType type ≠ .unknown := by
  rw [computedType]
  split
  · exact nofun
  · exact known

namespace Lowering

/-- All nodes have types, and there are at least so many of them. -/
structure Typed (least : Nat) (state : Lowering) : Prop where
  enough : least ≤ state.nodes.size
  known {id : Nat} {node : IRNode} (found : state.nodes[id]? = some node) : node.type ≠ .unknown
  cached {key id : Nat} (found : state.lowered[key]? = some id) : id < state.nodes.size

variable {least : Nat} {state : Lowering}

namespace Typed

theorem start (slots : TypeSlots) : (Lowering.start slots).Typed 0 where
  enough := Nat.zero_le _
  known found := by simp [Lowering.start] at found
  cached found := by simp [Lowering.start] at found

theorem fewer {fewer : Nat} (typed : state.Typed least) (le : fewer ≤ least) :
    state.Typed fewer :=
  { typed with enough := le.trans typed.enough }

theorem typeOf_ne (typed : state.Typed least) {node : Nat} (inside : node < least) :
    state.typeOf node ≠ .unknown := by
  have bound : node < state.nodes.size := inside.trans_le typed.enough
  have found : state.nodes[node]? = some state.nodes[node] := Array.getElem?_eq_getElem bound
  rw [Lowering.typeOf, found]
  exact typed.known found

theorem pushed (typed : state.Typed least) (op : NodeOp) {type : DataType}
    (known : type ≠ .unknown) :
    (Lower.pushed state op type).Typed (max least (state.nodes.size + 1)) where
  enough := by
    simp only [Lower.pushed, Array.size_push]
    have enough := typed.enough
    omega
  known {id node} found := by
    simp only [Lower.pushed, Array.getElem?_push] at found
    split at found
    · cases found
      exact known
    · exact typed.known found
  cached {key id} found := by
    have inside := typed.cached found
    simp only [Lower.pushed, Array.size_push]
    omega

theorem kept (typed : state.Typed least) (key : Nat) {node : Nat} (inside : node < least) :
    { state with lowered := state.lowered.insert key node }.Typed least where
  enough := typed.enough
  known := typed.known
  cached {other id} found := by
    rw [Std.TreeMap.getElem?_insert] at found
    split at found
    · cases found
      exact inside.trans_le typed.enough
    · exact typed.cached found

end Typed

end Lowering

namespace Lower

variable {α β : Type} {occurs : Expr → Prop} {context : LoweringContext} {least : Nat}
  {before : Lowering → Prop} {after : α → Lowering → Prop}

/-- From states of a kind a step asks for types that are known, of expressions that occur,
whatever the slots hold, and leads to what is said. -/
def AsksKnown (occurs : Expr → Prop) (before : Lowering → Prop) (step : Lower α)
    (after : α → Lowering → Prop) : Prop :=
  ∀ state, before state → ∃ demands outcome final,
    (∀ demand ∈ demands, occurs demand.expr ∧ demand.type ≠ .unknown) ∧
      step.Asks state demands outcome final ∧ ∀ value, outcome = .ok value → after value final

/-- The state that a node has been added to, at the latest. -/
def TypedAt (least node : Nat) (state : Lowering) : Prop :=
  state.Typed (max least (node + 1))

theorem TypedAt.typed {node : Nat} {state : Lowering} (typed : TypedAt least node state) :
    state.Typed least :=
  typed.fewer (by omega)

theorem TypedAt.fewer {fewer node : Nat} {state : Lowering} (le : fewer ≤ least)
    (typed : TypedAt least node state) : TypedAt fewer node state :=
  Lowering.Typed.fewer typed (by omega)

namespace AsksKnown

theorem weaken {step : Lower α} {stronger : Lowering → Prop} {weaker : α → Lowering → Prop}
    (asks : AsksKnown occurs before step after) (begins : ∀ state, stronger state → before state)
    (ends : ∀ value state, after value state → weaker value state) :
    AsksKnown occurs stronger step weaker := by
  intro state starts
  obtain ⟨demands, outcome, final, known, asked, meets⟩ := asks state (begins state starts)
  exact ⟨demands, outcome, final, known, asked, fun value same => ends value final (meets value same)⟩

theorem bind {step : Lower α} {next : α → Lower β} {later : β → Lowering → Prop}
    (first : AsksKnown occurs before step after)
    (second : ∀ value, AsksKnown occurs (after value) (next value) later) :
    AsksKnown occurs before (step >>= next) later := by
  intro state starts
  obtain ⟨demands, outcome, middle, known, asks, meets⟩ := first state starts
  cases outcome with
  | error error => exact ⟨demands, .error error, middle, known, asks.bind_error, nofun⟩
  | ok value =>
      obtain ⟨more, outcome, final, knownMore, asksMore, ends⟩ :=
        second value middle (meets value rfl)
      refine ⟨demands ++ more, outcome, final, fun demand member => ?_, asks.bind asksMore, ends⟩
      exact (List.mem_append.mp member).elim (known demand) (knownMore demand)

/-- A step that has nothing to do with slots asks for nothing. -/
theorem quiet {step : Lower α} (outcome : Lowering → Except Error α) (change : Lowering → Lowering)
    (run : ∀ (state : Lowering) (slots : TypeSlots), step.run.run { state with slots := slots } =
      (outcome state, { change state with slots := slots }))
    (ends : ∀ state value, before state → outcome state = .ok value → after value (change state)) :
    AsksKnown occurs before step after :=
  fun state starts => ⟨[], outcome state, change state, by simp, run state,
    fun value same => ends state value starts same⟩

theorem pure {value : α} (ends : ∀ state, before state → after value state) :
    AsksKnown occurs before (Pure.pure value) after := by
  refine quiet (fun _ => .ok value) id (fun _ _ => rfl) ?_
  rintro state _ starts ⟨⟩
  exact ends state starts

theorem throw (error : Error) : AsksKnown occurs before (throw error : Lower α) after :=
  quiet (fun _ => .error error) id (fun _ _ => rfl) fun _ _ _ => nofun

/-- Nothing follows on what is thrown. -/
theorem refuse {error : Error} {next : α → Lower β} {later : β → Lowering → Prop} :
    AsksKnown occurs before (MonadExcept.throw error >>= next) later :=
  quiet (fun _ => .error error) id (fun _ _ => rfl) fun _ _ _ => nofun

/-- What follows on a choice between two steps. -/
theorem choice {guard : Prop} [Decidable guard] {one other : Lower α} {next : α → Lower β}
    {later : β → Lowering → Prop} (whenTrue : AsksKnown occurs before one after)
    (whenFalse : AsksKnown occurs before other after)
    (second : ∀ value, AsksKnown occurs (after value) (next value) later) :
    AsksKnown occurs before (if guard then one >>= next else other >>= next) later := by
  split
  · exact whenTrue.bind second
  · exact whenFalse.bind second

theorem forM {γ : Type} {step : γ → Lower Unit} (items : List γ)
    (round : ∀ item ∈ items, AsksKnown occurs before (step item) fun _ => before) :
    AsksKnown occurs before (items.forM step) fun _ => before := by
  induction items with
  | nil => exact pure fun _ => id
  | cons first rest hypothesis =>
      exact (round first (by simp)).bind fun _ =>
        hypothesis fun item member => round item (by simp [member])

end AsksKnown

/-- From states with so many nodes, all of which have types. -/
abbrev Types (occurs : Expr → Prop) (least : Nat) (step : Lower α)
    (after : α → Lowering → Prop) : Prop :=
  AsksKnown occurs (Lowering.Typed least) step after

/-- What follows on a look at a node may rely on its type. -/
theorem look_types {node : Nat} (inside : node < least) {next : DataType → Lower α}
    (later : ∀ type ≠ .unknown, Types occurs least (next type) after) :
    Types occurs least (typeOf node >>= next) after :=
  fun state typed => later (state.typeOf node) (typed.typeOf_ne inside) state typed

theorem varType?_types {var : Nat} {next : Option DataType → Lower α}
    (later : ∀ type?, Types occurs least (next type?) after) :
    Types occurs least (varType? var >>= next) after :=
  fun state typed => later state.varTypes[var]? state typed

theorem add_types (op : NodeOp) {type : DataType} (known : type ≠ .unknown) :
    Types occurs least (add op type) (TypedAt least) := by
  refine .quiet (fun state => .ok state.nodes.size) (fun state => pushed state op type)
    (fun _ _ => rfl) ?_
  rintro state _ typed ⟨⟩
  exact typed.pushed op known

theorem castTo_types {node : Nat} {type : DataType} (inside : node < least)
    (known : type ≠ .unknown) : Types occurs least (castTo node type) (TypedAt least) := by
  apply look_types inside
  intro found _
  split
  · apply AsksKnown.pure
    intro state typed
    exact typed.fewer (by omega)
  · exact add_types (.cast node) known

theorem declare_types (var : Nat) (type : DataType) :
    Types occurs least (declare var type) fun _ => Lowering.Typed least :=
  .quiet (fun _ => .ok ())
    (fun state => { state with varTypes := state.varTypes.insert var type }) (fun _ _ => rfl)
    fun _ _ typed _ => { typed with }

/-- This is the step that asks for a type. -/
theorem resolve_types {expr : Expr} {type : DataType} (occurring : occurs expr)
    (known : type ≠ .unknown) :
    Types occurs least (resolve expr type) fun _ => Lowering.Typed least :=
  fun state typed => ⟨_, _, state, by simpa using ⟨occurring, known⟩, .resolve state,
    fun _ _ => typed⟩

theorem run_once_of_cached {expr : Expr} {lower : Lower Nat} {state : Lowering} {node : Nat}
    (cached : state.lowered[expr.key]? = some node) :
    (once expr lower).run.run state = (.ok node, state) := by
  rw [once, run_run_get_bind, cached]
  rfl

theorem run_once_of_new {expr : Expr} {lower : Lower Nat} {state : Lowering}
    (new : state.lowered[expr.key]? = none) :
    (once expr lower).run.run state = (do
      let node ← lower
      resolve expr (← typeOf node)
      modify fun state => { state with lowered := state.lowered.insert expr.key node }
      return node : Lower Nat).run.run state := by
  rw [once, run_run_get_bind, new]

/-- An expression that is met for the first time is asked for the type of its node. -/
theorem once_types {expr : Expr} {lower : Lower Nat} (occurring : occurs expr)
    (lowers : Types occurs least lower (TypedAt least)) :
    Types occurs least (once expr lower) (TypedAt least) := by
  intro state typed
  cases cached : state.lowered[expr.key]? with
  | some node =>
      refine ⟨[], .ok node, state, by simp, fun slots => run_once_of_cached cached, ?_⟩
      rintro _ ⟨⟩
      exact { typed with enough := max_le typed.enough (typed.cached cached) }
  | none =>
      have lowers : Types occurs least (do
            let node ← lower
            resolve expr (← typeOf node)
            modify fun state => { state with lowered := state.lowered.insert expr.key node }
            return node) (TypedAt least) := by
        apply lowers.bind
        intro node
        have inside : node < max least (node + 1) := by omega
        apply look_types inside
        intro type known
        apply (resolve_types occurring known).bind
        intro _
        exact .quiet (fun _ => .ok node)
          (fun state => { state with lowered := state.lowered.insert expr.key node })
          (fun _ _ => rfl) fun state value typed same => by
            cases same
            exact typed.kept expr.key inside
      obtain ⟨demands, outcome, final, known, asks, ends⟩ := lowers state typed
      refine ⟨demands, outcome, final, known, fun slots => ?_, ends⟩
      have run : (once expr lower).run.run { state with slots := slots } = _ :=
        run_once_of_new cached
      rw [run]
      exact asks slots

theorem leafOf_types (field : Field) (site? : Option Location) :
    Types occurs least (leafOf context field site?) fun leaf state =>
      state.Typed least ∧ context.leafOf? field = some leaf := by
  rw [leafOf, LoweringContext.leafOf?]
  cases context.objects.layouts.leafOf? field with
  | none => exact .throw _
  | some found =>
      obtain ⟨tree, leaf⟩ := found
      dsimp only
      split
      · refine .quiet (fun _ => .ok leaf)
          (fun state => { state with leaves := state.leaves.insert leaf.id () }) (fun _ _ => rfl) ?_
        rintro state _ typed ⟨⟩
        exact ⟨{ typed with }, rfl⟩
      · exact .refuse

theorem checkArity_types (leaf : Node) (count : Nat) (kind : String) (site? : Option Location) :
    Types occurs least (checkArity leaf count kind site?) fun _ => Lowering.Typed least := by
  simp only [checkArity]
  split
  · exact .throw _
  · exact .pure fun _ => id

theorem leafAt_types {key : Nat} {field : Field} {count : Nat} {next : Node → Lower α}
    (later : ∀ leaf, context.leafOf? field = some leaf → Types occurs least (next leaf) after) :
    Types occurs least (leafAt context key field count >>= next) after := by
  have finds : Types occurs least (leafAt context key field count) fun leaf state =>
      state.Typed least ∧ context.leafOf? field = some leaf := by
    apply (leafOf_types field _).bind
    intro leaf state holds
    have checked : Types occurs least
        (checkArity leaf count "Subscript" context.locations[key]?) fun _ =>
          Lowering.Typed least := checkArity_types leaf count _ _
    exact (checked.bind fun _ => .pure fun _ typed => ⟨typed, holds.2⟩) state holds.1
  exact finds.bind fun leaf state holds => later leaf holds.2 state holds.1

/-- What is checked to be a whole number is looked at only for that. -/
theorem checkIntegral_types {node : Nat} {error : Error} (inside : node < least) :
    Types occurs least
      (do unless (← typeOf node).isIntegral do throw error : Lower Unit) fun _ =>
        Lowering.Typed least := by
  apply look_types inside
  intro type _
  split
  · exact .pure fun _ => id
  · exact .throw _

theorem binary_types (site? : Option Location) (text : Except HostFault String) (op : BinaryOp)
    {left right : Nat} (insideLeft : left < least) (insideRight : right < least) :
    Types occurs least (binary site? text op left right) (TypedAt least) := by
  apply look_types insideLeft
  intro leftType knownLeft
  apply look_types insideRight
  intro rightType knownRight
  have known := BinaryOp.operandType_ne knownLeft knownRight
  dsimp only
  split
  · exact .refuse
  · apply (castTo_types insideLeft known).bind
    intro leftNode
    have insideRight : right < max least (leftNode + 1) := by omega
    apply (castTo_types insideRight known).bind
    intro rightNode
    apply (add_types _ (op.computedType_ne known)).weaken (fun _ => id)
    exact fun node state typed => typed.fewer (by omega)

theorem unary_types (site? : Option Location) (text : Except HostFault String) (op : UnaryOp)
    {operand : Nat} (inside : operand < least) :
    Types occurs least (unary site? text op operand) (TypedAt least) := by
  have kept {node bound : Nat} (inside : node < bound) :
      Types occurs bound (pure node) (TypedAt bound) :=
    .pure fun _ typed => typed.fewer (by omega)
  apply look_types inside
  intro type _
  apply AsksKnown.choice (castTo_types inside (by decide)) (kept inside)
  intro widened
  have insideWidened : widened < max least (widened + 1) := by omega
  apply look_types insideWidened
  intro widenedType _
  dsimp only
  split
  · exact .refuse
  · apply look_types insideWidened
    intro sameType _
    apply AsksKnown.choice (castTo_types insideWidened (by decide)) (kept insideWidened)
    intro floated
    apply look_types (by omega)
    intro floatedType known
    apply (add_types _ (op.computedType_ne known)).weaken (fun _ => id)
    exact fun node state typed => typed.fewer (by omega)

mutual

/-- The node of an expression has a type, and so have all that are in it. -/
theorem expr_types (closed : Below occurs) (knows : context.Knows occurs) (least : Nat)
    (expr : Expr) (known : occurs expr) :
    Types occurs least (Lower.expr context expr) (TypedAt least) := by
  cases expr with
  | literal key value type =>
      rw [Lower.expr]
      exact once_types known (add_types _ (knows.written known rfl))
  | identifier var =>
      rw [Lower.expr]
      apply once_types known
      apply varType?_types
      intro type?
      cases type? with
      | none => exact .throw _
      | some type =>
          dsimp only
          split
          · exact .refuse
          · next different => exact add_types _ different
  | argument key position type =>
      rw [Lower.expr]
      apply once_types known
      dsimp only
      split
      · exact .refuse
      · exact add_types _ (knows.written known rfl)
  | binary key op left right =>
      rw [Lower.expr]
      apply once_types known
      apply (expr_types closed knows least left (closed known (by simp [Expr.operands]))).bind
      intro leftNode
      apply (expr_types closed knows (max least (leftNode + 1)) right
        (closed known (by simp [Expr.operands]))).bind
      intro rightNode
      apply (binary_types _ _ op (by omega) (by omega)).weaken (fun _ => id)
      exact fun node state typed => typed.fewer (by omega)
  | unary key op operand =>
      rw [Lower.expr]
      apply once_types known
      apply (expr_types closed knows least operand (closed known (by simp [Expr.operands]))).bind
      intro operandNode
      apply (unary_types _ _ op (by omega)).weaken (fun _ => id)
      exact fun node state typed => typed.fewer (by omega)
  | cast key operand type =>
      rw [Lower.expr]
      apply once_types known
      apply (expr_types closed knows least operand (closed known (by simp [Expr.operands]))).bind
      intro operandNode
      apply (add_types _ (knows.written known rfl)).weaken (fun _ => id)
      exact fun node state typed => typed.fewer (by omega)
  | element key field indices =>
      rw [Lower.expr]
      apply once_types known
      apply leafAt_types
      intro leaf found
      apply (indexNodes_types closed knows least indices fun index member =>
        closed known (by simp [Expr.operands, member])).bind
      intro nodes
      exact add_types _ (knows.placed (closed known (by simp [Expr.operands])) found)
  | load key elementKey field indices =>
      have element : occurs (.element elementKey field indices) :=
        closed known (by simp [Expr.operands])
      rw [Lower.expr]
      apply once_types known
      apply leafAt_types
      intro leaf found
      apply (indexNodes_types closed knows least indices fun index member =>
        closed element (by simp [Expr.operands, member])).bind
      intro nodes
      exact add_types _ (knows.placed (closed element (by simp [Expr.operands])) found)
  | field field =>
      rw [Lower.expr]
      exact once_types known (.throw _)

theorem indexNodes_types (closed : Below occurs) (knows : context.Knows occurs) (least : Nat)
    (indices : List Expr) (known : ∀ index ∈ indices, occurs index) :
    Types occurs least (indexNodes context indices) fun _ => Lowering.Typed least := by
  cases indices with
  | nil =>
      rw [indexNodes]
      exact .pure fun _ => id
  | cons index rest =>
      rw [indexNodes]
      apply (expr_types closed knows least index (known index (by simp))).bind
      intro node
      have inside : node < max least (node + 1) := by omega
      rw [checkIndex]
      refine AsksKnown.bind (checkIntegral_types inside) ?_
      intro _
      apply (indexNodes_types closed knows _ rest fun later member =>
        known later (by simp [member])).bind
      intro nodes
      exact .pure fun _ typed => typed.fewer (by omega)

end

section Statements

variable (closed : Below occurs) (knows : context.Knows occurs)

include closed knows

theorem value_types (least : Nat) (given : HostValue) (known : ∀ root ∈ given.roots, occurs root) :
    Types occurs least (value context given) (TypedAt least) := by
  cases given with
  | expr expr => exact expr_types closed knows least expr (known expr (by simp [HostValue.roots]))
  | _ => exact .throw _

theorem store_types (place : Element) (stored : Expr) (knownPlace : occurs (.ofElement place))
    (known : occurs stored) :
    Types occurs 0 (store context place stored) fun _ => Lowering.Typed 0 := by
  have placed : occurs (.field place.field) :=
    closed knownPlace (by simp [Expr.ofElement, Expr.operands])
  apply leafAt_types
  intro leaf found
  have knownLeaf := knows.placed placed found
  apply (indexNodes_types closed knows 0 place.indices fun index member =>
    closed knownPlace (by simp [Expr.ofElement, Expr.operands, member])).bind
  intro indices
  apply (resolve_types knownPlace knownLeaf).bind
  intro _
  apply (expr_types closed knows 0 stored known).bind
  intro node
  have inside : node < max 0 (node + 1) := by omega
  apply (castTo_types inside knownLeaf).bind
  intro result
  exact .pure fun _ typed => typed.typed.fewer (Nat.zero_le _)

theorem assign_types (site? : Option Location) (var : Variable) (value : Expr)
    (knownVar : occurs (.identifier var)) (known : occurs value) :
    Types occurs 0 (assign context site? var value) fun _ => Lowering.Typed 0 := by
  apply varType?_types
  intro declared?
  cases declared? with
  | none => exact .throw _
  | some declared =>
      apply (expr_types closed knows 0 value known).bind
      intro node
      have inside : node < max 0 (node + 1) := by omega
      have ends (type : DataType) (typeKnown : type ≠ .unknown) :
          Types occurs (max 0 (node + 1))
            (do resolve (.identifier var) type
                return Op.assign var.identifier.id (← castTo node type))
            fun _ => Lowering.Typed 0 := by
        apply (resolve_types knownVar typeKnown).bind
        intro _
        apply (castTo_types inside typeKnown).bind
        intro result
        exact .pure fun _ typed => typed.typed.fewer (Nat.zero_le _)
      dsimp only
      split
      · apply look_types inside
        intro type typeKnown
        exact (declare_types _ _).bind fun _ => ends type typeKnown
      · next declaredKnown => exact ends declared declaredKnown

omit closed knows in
theorem declareLoopVariables_types (vars : List Variable)
    (known : ∀ var ∈ vars, occurs (.identifier var)) :
    Types occurs 0 (declareLoopVariables vars) fun _ => Lowering.Typed 0 := by
  apply AsksKnown.forM
  intro var member
  apply (declare_types _ _).bind
  intro _
  exact resolve_types (known var member) (by decide)

end Statements

mutual

/-- All types that a statement asks for are known. -/
theorem stmt_types (closed : Below occurs) (knows : context.Knows occurs) (statement : Stmt)
    (known : ∀ root ∈ statement.roots, occurs root) :
    Types occurs 0 (stmt context statement) fun _ => Lowering.Typed 0 := by
  cases statement with
  | alloca site? identifier type =>
      rw [stmt]
      exact (declare_types _ _).bind fun _ => .pure fun _ => id
  | assign site? target value =>
      have knownTarget := known target (by simp [Stmt.roots])
      have knownValue := known value (by simp [Stmt.roots])
      cases target with
      | element key field indices =>
          simp only [stmt]
          exact store_types closed knows _ value knownTarget knownValue
      | identifier var =>
          simp only [stmt]
          exact assign_types closed knows site? var value knownTarget knownValue
      | _ =>
          simp only [stmt]
          exact .throw _
  | load site? place =>
      have knownPlace : occurs (.ofElement place) := known _ (by simp [Stmt.roots])
      rw [stmt]
      apply leafAt_types
      intro leaf _
      apply (indexNodes_types closed knows 0 place.indices fun index member =>
        closed knownPlace (by simp [Expr.ofElement, Expr.operands, member])).bind
      intro indices
      exact .pure fun _ => id
  | store site? place value =>
      rw [stmt]
      exact store_types closed knows place value (known _ (by simp [Stmt.roots]))
        (known _ (by simp [Stmt.roots]))
  | print site? printed label =>
      have prints := value_types closed knows 0 printed fun root member =>
        known root (by simpa [Stmt.roots] using member)
      rw [stmt]
      dsimp only
      split
      · exact .refuse
      · apply prints.bind
        intro node
        exact .pure fun _ typed => typed.typed
  | branch site? condition onTrue onFalse =>
      rw [stmt]
      apply (value_types closed knows 0 condition fun root member =>
        known root (by simp [Stmt.roots, member])).bind
      intro node
      apply ((block_types closed knows onTrue fun root member =>
        known root (by simp [Stmt.roots, member])).weaken
          (fun _ typed => TypedAt.typed typed) fun _ _ => id).bind
      intro trueOps
      apply (block_types closed knows onFalse fun root member =>
        known root (by simp [Stmt.roots, member])).bind
      intro falseOps
      exact .pure fun _ => id
  | loop site? vars source schedule body =>
      have inside := block_types closed knows body fun root member =>
        known root (by simp [Stmt.roots, member])
      have declares : Types occurs 0 (declareLoopVariables vars) fun _ => Lowering.Typed 0 :=
        declareLoopVariables_types vars fun var member => known _ (by simp [Stmt.roots, member])
      cases source with
      | elements field =>
          rw [stmt]
          apply ((leafOf_types field site?).weaken (fun _ => id) fun _ _ => And.left).bind
          intro leaf
          apply (checkArity_types leaf _ _ site?).bind
          intro _
          apply declares.bind
          intro _
          exact inside.bind fun _ => .pure fun _ => id
      | range first last =>
          rw [stmt]
          apply (expr_types closed knows 0 first
            (known first (by simp [Stmt.roots, LoopSource.roots]))).bind
          intro firstNode
          apply (expr_types closed knows (max 0 (firstNode + 1)) last
            (known last (by simp [Stmt.roots, LoopSource.roots]))).bind
          intro lastNode
          have insideFirst : firstNode < max (max 0 (firstNode + 1)) (lastNode + 1) := by omega
          have insideLast : lastNode < max (max 0 (firstNode + 1)) (lastNode + 1) := by omega
          refine AsksKnown.bind (checkIntegral_types insideFirst) ?_
          intro _
          refine AsksKnown.bind (checkIntegral_types insideLast) ?_
          intro _
          apply (declares.weaken (fun _ typed => typed.fewer (Nat.zero_le _)) fun _ _ => id).bind
          intro _
          exact inside.bind fun _ => .pure fun _ => id
  | bare site? =>
      rw [stmt]
      exact .throw _
  | endless =>
      rw [stmt]
      exact .throw _

theorem block_types (closed : Below occurs) (knows : context.Knows occurs) (body : List Stmt)
    (known : ∀ root ∈ Stmt.blockRoots body, occurs root) :
    Types occurs 0 (block context body) fun _ => Lowering.Typed 0 := by
  cases body with
  | nil =>
      rw [block]
      exact .pure fun _ => id
  | cons first rest =>
      rw [block]
      apply (stmt_types closed knows first fun root member =>
        known root (by simp [Stmt.blockRoots, member])).bind
      intro op
      apply (block_types closed knows rest fun root member =>
        known root (by simp [Stmt.blockRoots, member])).bind
      intro ops
      exact .pure fun _ => id

end

end Lower

/-- Lowering demands none but known types if all are known that are written down. -/
theorem KernelIR.exists_demands_known {occurs : Expr → Prop} {context : LoweringContext}
    (closed : Lower.Below occurs) (knows : context.Knows occurs) (name : String)
    (target : ArchSetting) (body : List Stmt) (known : ∀ root ∈ Stmt.blockRoots body, occurs root) :
    ∃ demands verdict, (∀ demand ∈ demands, occurs demand.expr ∧ demand.type ≠ .unknown) ∧
      Demands (ofBody name target context body) demands verdict := by
  obtain ⟨demands, outcome, final, typed, asks, -⟩ :=
    Lower.block_types closed knows body known (.start .empty) (.start .empty)
  exact ⟨demands, _, typed, demands_of_asks name target asks⟩

end FieldKernel
