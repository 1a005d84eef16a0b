import FieldKernel.Proofs.Lowering.Demands
import FieldKernel.Proofs.Lowering.Soundness

/-!
# What slots hold while lowering goes on

The slot of an expression that was lowered holds the type of its node, and goes on to
hold it.
-/

namespace FieldKernel

/-- The type that an expression has been lowered to cannot be followed by another.  A
variable that is read has a type, and an element that of its field. -/
def Expr.Settled (context : LoweringContext) (type : DataType) : Expr → Prop
  | .identifier _ => type ≠ .unknown
  | .element _ place _ => ∃ leaf, context.leafOf? place = some leaf ∧ type = leaf.type
  | _ => True

/-- A type can be asked of an expression whether or not it was lowered. -/
def Expr.Takes (context : LoweringContext) (type : DataType) : Expr → Prop
  | .identifier _ => True
  | .element _ place _ => ∃ leaf, context.leafOf? place = some leaf ∧ type = leaf.type
  | _ => False

namespace Lowering

/-- The slots of what was lowered hold the types of the nodes.  There are at least so many
nodes. -/
structure Filled (context : LoweringContext) (occurs : Expr → Prop) (least : Nat)
    (state : Lowering) : Prop where
  enough : least ≤ state.nodes.size
  held {expr : Expr} {id : Nat} (known : occurs expr)
    (cached : state.lowered[expr.key]? = some id) :
    id < state.nodes.size ∧ state.slots.typeOf expr = state.typeOf id ∧
      expr.Settled context (state.typeOf id)

variable {context : LoweringContext} {occurs : Expr → Prop} {least : Nat}
  {state : Lowering}

namespace Filled

theorem start (slots : TypeSlots) : (Lowering.start slots).Filled context occurs 0 where
  enough := Nat.zero_le _
  held _ cached := by simp [Lowering.start] at cached

theorem fewer {fewer : Nat} (filled : state.Filled context occurs least)
    (le : fewer ≤ least) : state.Filled context occurs fewer :=
  { filled with enough := le.trans filled.enough }

theorem pushed (filled : state.Filled context occurs least) (op : NodeOp)
    (type : DataType) :
    (Lower.pushed state op type).Filled context occurs
      (max least (state.nodes.size + 1)) where
  enough := by
    simp only [Lower.pushed, Array.size_push]
    have enough := filled.enough
    omega
  held {expr id} known cached := by
    obtain ⟨inside, holds, settled⟩ := filled.held known cached
    have kept : (Lower.pushed state op type).typeOf id = state.typeOf id := by
      simp only [Lowering.typeOf, Lower.pushed, Array.getElem?_push, inside.ne, if_false]
    rw [kept]
    refine ⟨?_, holds, settled⟩
    simp only [Lower.pushed, Array.size_push]
    omega

/-- A type that can be asked of an expression at any time changes no slot of what was
lowered. -/
theorem resolved (occurring : Occurring occurs)
    (filled : state.Filled context occurs least) {expr : Expr} {type : DataType}
    {slots : TypeSlots} (known : occurs expr) (takes : expr.Takes context type)
    (resolves : state.slots.resolve expr type = .ok slots) :
    { state with slots := slots }.Filled context occurs least where
  enough := filled.enough
  held {other id} knownOther cached := by
    obtain ⟨inside, holds, settled⟩ := filled.held knownOther cached
    refine ⟨inside, ?_, settled⟩
    by_cases same : other = expr
    · -- The slot is filled already, with the very type that it takes.
      cases same
      have asked := TypeSlots.typeOf_of_resolve resolves
      change slots.typeOf expr = state.typeOf id
      cases expr with
      | identifier var =>
          rw [asked, ← holds]
          exact (TypeSlots.typeOf_of_resolved resolves (holds ▸ settled)).symm
      | element key field indices =>
          obtain ⟨leaf, found, same⟩ := takes
          obtain ⟨leaf', found', same'⟩ := settled
          cases found.symm.trans found'
          rw [asked, same, same']
      | _ => exact takes.elim
    · exact (TypeSlots.typeOf_of_ne occurring known knownOther resolves same).trans holds

/-- An expression that is lowered gets the type of its node. -/
theorem kept (occurring : Occurring occurs) (filled : state.Filled context occurs least)
    {expr : Expr} {node : Nat} {slots : TypeSlots} (known : occurs expr) (inside : node < least)
    (settled : expr.Settled context (state.typeOf node))
    (resolves : state.slots.resolve expr (state.typeOf node) = .ok slots) :
    { state with slots := slots, lowered := state.lowered.insert expr.key node }.Filled context
      occurs least where
  enough := filled.enough
  held {other id} knownOther cached := by
    by_cases same : other = expr
    · cases same
      simp only [Std.TreeMap.getElem?_insert_self, Option.some.injEq] at cached
      cases cached
      exact ⟨inside.trans_le filled.enough, TypeSlots.typeOf_of_resolve resolves, settled⟩
    · have apart : expr.key ≠ other.key := fun equal =>
        same (occurring.ofKey knownOther known equal.symm)
      simp only [Std.TreeMap.getElem?_insert, Std.compare_eq_iff_eq, apart, if_false] at cached
      obtain ⟨inside, holds, settled⟩ := filled.held knownOther cached
      exact ⟨inside, (TypeSlots.typeOf_of_ne occurring known knownOther resolves same).trans holds,
        settled⟩

end Filled

end Lowering

namespace Lower

variable {α β : Type} {context : LoweringContext} {occurs : Expr → Prop}
  {least : Nat}

/-- From a state with filled slots, and at least so many nodes, a step leads to what is said,
if it does not fail. -/
abbrev Fills (context : LoweringContext) (occurs : Expr → Prop) (least : Nat)
    (step : Lower α) (after : α → Lowering → Prop) : Prop :=
  Ensures (Lowering.Filled context occurs least) step after
    fun _ _ => True

/-- The state that a node has been added to, at the latest. -/
def FilledAt (context : LoweringContext) (occurs : Expr → Prop) (least : Nat)
    (node : Nat) (state : Lowering) : Prop :=
  state.Filled context occurs (max least (node + 1))

theorem refuse_fills {error : Error} {next : α → Lower β} {after : β → Lowering → Prop} :
    Fills context occurs least (throw error >>= next) after :=
  fun _ _ => trivial

theorem look_fills {node : Nat} {next : DataType → Lower α} {after : α → Lowering → Prop}
    (later : ∀ type, Fills context occurs least (next type) after) :
    Fills context occurs least (typeOf node >>= next) after :=
  fun state filled => later (state.typeOf node) state filled

theorem add_fills (op : NodeOp) (type : DataType) :
    Fills context occurs least (add op type) fun node state =>
      FilledAt context occurs least node state ∧ state.typeOf node = type :=
  fun _ filled => ⟨filled.pushed op type, typeOf_pushed⟩

theorem castTo_fills {node : Nat} (type : DataType) (inside : node < least) :
    Fills context occurs least (castTo node type)
      (FilledAt context occurs least) := by
  apply look_fills
  intro found
  split
  · apply Ensures.pure
    intro state filled
    exact filled.fewer (by omega)
  · exact (add_fills (.cast node) type).weaken (fun _ => id) fun _ _ => And.left

theorem run_resolve (expr : Expr) (type : DataType) (state : Lowering) :
    (resolve expr type).run.run state =
      match state.slots.resolve expr type with
      | .ok slots => (.ok (), { state with slots := slots })
      | .error error => (.error error, state) := by
  cases resolves : state.slots.resolve expr type <;>
    simp only [resolve, run_run_get_bind, resolves] <;> rfl

theorem resolve_fills (occurring : Occurring occurs) {expr : Expr} {type : DataType}
    (known : occurs expr) (takes : expr.Takes context type) :
    Fills context occurs least (resolve expr type) fun _ =>
      Lowering.Filled context occurs least := by
  intro state filled
  rw [run_resolve]
  cases resolves : state.slots.resolve expr type with
  | ok slots => exact filled.resolved occurring known takes resolves
  | error error => trivial

/-- An expression that is met for the first time gets the type of its node. -/
theorem once_fills (occurring : Occurring occurs) {expr : Expr} {lower : Lower Nat}
    (known : occurs expr)
    (fills : Fills context occurs least lower fun node state =>
      FilledAt context occurs least node state ∧
        expr.Settled context (state.typeOf node)) :
    Fills context occurs least (once expr lower)
      (FilledAt context occurs least) := by
  apply Ensures.get
  intro state filled
  cases cached : state.lowered[expr.key]? with
  | some node =>
      apply Ensures.pure
      rintro _ rfl
      have inside := (filled.held known cached).1
      exact { filled with enough := max_le filled.enough inside }
  | none =>
      -- Should the expression have been lowered in between, its entry is replaced, and its slot
      -- holds the type of the new node all the same.
      have lowers : Ensures (· = state) lower (fun node state =>
          FilledAt context occurs least node state ∧
            expr.Settled context (state.typeOf node)) fun _ _ => True :=
        fills.weaken (fun _ same => same ▸ filled) fun _ _ => id
      apply lowers.bind
      intro node between holds
      obtain ⟨filled, settled⟩ := holds
      have run : (do
            resolve expr (← typeOf node)
            modify fun state => { state with lowered := state.lowered.insert expr.key node }
            return node : Lower Nat).run.run between =
          match between.slots.resolve expr (between.typeOf node) with
          | .ok slots =>
            (.ok node, { between with
              slots := slots
              lowered := between.lowered.insert expr.key node })
          | .error error => (.error error, between) := by
        change (resolve expr (between.typeOf node) >>= fun _ => _).run.run between = _
        rw [run_run_bind, run_resolve]
        cases between.slots.resolve expr (between.typeOf node) <;> rfl
      rw [run]
      have inside : node < max least (node + 1) := by omega
      cases resolves : between.slots.resolve expr (between.typeOf node) with
      | ok slots => exact filled.kept occurring known inside settled resolves
      | error error => trivial

theorem FilledAt.fewer {fewer node : Nat} {state : Lowering} (le : fewer ≤ least)
    (filled : FilledAt context occurs least node state) :
    FilledAt context occurs fewer node state :=
  Lowering.Filled.fewer filled (by omega)

theorem FilledAt.filled {node : Nat} {state : Lowering}
    (filled : FilledAt context occurs least node state) :
    state.Filled context occurs least :=
  Lowering.Filled.fewer filled (by omega)

/-- What follows on a choice between two steps. -/
theorem choice_fills {guard : Prop} [Decidable guard] {one other : Lower α} {next : α → Lower β}
    {between : α → Lowering → Prop} {after : β → Lowering → Prop}
    (whenTrue : Fills context occurs least one between)
    (whenFalse : Fills context occurs least other between)
    (later : ∀ value, Ensures (between value) (next value) after
      fun _ _ => True) :
    Fills context occurs least (if guard then one >>= next else other >>= next) after := by
  split
  · exact whenTrue.bind later
  · exact whenFalse.bind later

theorem leafOf_fills (field : Field) (site? : Option Location) :
    Fills context occurs least (leafOf context field site?) fun leaf state =>
      state.Filled context occurs least ∧ context.leafOf? field = some leaf := by
  rw [leafOf, LoweringContext.leafOf?]
  cases context.objects.layouts.leafOf? field with
  | none => exact Ensures.throw fun _ _ => trivial
  | some found =>
      obtain ⟨tree, leaf⟩ := found
      dsimp only
      split
      · exact fun _ filled => ⟨{ filled with }, rfl⟩
      · exact refuse_fills

theorem checkArity_fills (leaf : Node) (count : Nat) (kind : String) (site? : Option Location) :
    Fills context occurs least (checkArity leaf count kind site?) fun _ =>
      Lowering.Filled context occurs least := by
  simp only [checkArity]
  split
  · exact Ensures.throw fun _ _ => trivial
  · exact Ensures.pure fun _ => id

theorem leafAt_fills (key : Nat) (field : Field) (count : Nat) :
    Fills context occurs least (leafAt context key field count) fun leaf state =>
      state.Filled context occurs least ∧ context.leafOf? field = some leaf := by
  apply (leafOf_fills field _).bind
  intro leaf state holds
  have checked : Fills context occurs least
      (checkArity leaf count "Subscript" context.locations[key]?) fun _ =>
        Lowering.Filled context occurs least := checkArity_fills leaf count _ _
  exact (checked.bind fun _ => Ensures.pure fun _ filled => ⟨filled, holds.2⟩) state holds.1

theorem leafAt_bind_fills {key : Nat} {field : Field} {count : Nat} {next : Node → Lower α}
    {after : α → Lowering → Prop}
    (later : ∀ leaf, context.leafOf? field = some leaf →
      Fills context occurs least (next leaf) after) :
    Fills context occurs least (leafAt context key field count >>= next) after :=
  (leafAt_fills key field count).bind fun leaf state holds => later leaf holds.2 state holds.1

theorem varType?_fills {var : Nat} {next : Option DataType → Lower α}
    {after : α → Lowering → Prop}
    (later : ∀ type?, Fills context occurs least (next type?) after) :
    Fills context occurs least (varType? var >>= next) after :=
  fun state filled => later state.varTypes[var]? state filled

/-- What is checked to be a whole number is looked at only for that. -/
theorem checkIntegral_fills {node : Nat} {error : Error} :
    Fills context occurs least
      (do unless (← typeOf node).isIntegral do throw error : Lower Unit) fun _ =>
        Lowering.Filled context occurs least := by
  apply look_fills
  intro type
  split
  · exact Ensures.pure fun _ => id
  · exact Ensures.throw fun _ _ => trivial

theorem declare_fills (var : Nat) (type : DataType) :
    Fills context occurs least (declare var type) fun _ =>
      Lowering.Filled context occurs least :=
  fun _ filled => { filled with }

theorem binary_fills (site? : Option Location) (text : Except HostFault String) (op : BinaryOp)
    {left right : Nat} (insideLeft : left < least) (insideRight : right < least) :
    Fills context occurs least (binary site? text op left right)
      (FilledAt context occurs least) := by
  apply look_fills
  intro leftType
  apply look_fills
  intro rightType
  dsimp only
  split
  · exact refuse_fills
  · apply (castTo_fills _ insideLeft).bind
    intro leftNode
    apply (castTo_fills _ (by omega)).bind
    intro rightNode
    apply (add_fills _ _).weaken (fun _ => id)
    intro node state holds
    exact holds.1.fewer (by omega)

theorem unary_fills (site? : Option Location) (text : Except HostFault String) (op : UnaryOp)
    {operand : Nat} (inside : operand < least) :
    Fills context occurs least (unary site? text op operand)
      (FilledAt context occurs least) := by
  have kept {node bound : Nat} (inside : node < bound) :
      Fills context occurs bound (pure node) (FilledAt context occurs bound) :=
    Ensures.pure fun _ filled => filled.fewer (by omega)
  apply look_fills
  intro type
  apply choice_fills (castTo_fills _ inside) (kept inside)
  intro widened
  apply look_fills
  intro widenedType
  dsimp only
  split
  · exact refuse_fills
  · apply look_fills
    intro sameType
    apply choice_fills (castTo_fills _ (by omega)) (kept (by omega))
    intro floated
    apply look_fills
    intro floatedType
    apply (add_fills _ _).weaken (fun _ => id)
    intro node state holds
    exact holds.1.fewer (by omega)

mutual

/-- An expression is lowered to a node, and its slot gets the type of the node. -/
theorem expr_fills (occurring : Occurring occurs)
    (least : Nat) (expr : Expr) (known : occurs expr) :
    Fills context occurs least (Lower.expr context expr)
      (FilledAt context occurs least) := by
  cases expr with
  | literal key value type =>
      rw [Lower.expr]
      apply once_fills occurring known
      apply (add_fills _ _).weaken (fun _ => id)
      exact fun _ _ holds => ⟨holds.1, trivial⟩
  | identifier var =>
      rw [Lower.expr]
      apply once_fills occurring known
      apply varType?_fills
      intro type?
      cases type? with
      | none => exact Ensures.throw fun _ _ => trivial
      | some type =>
          dsimp only
          split
          · exact refuse_fills
          · next different =>
            apply (add_fills _ _).weaken (fun _ => id)
            intro node state holds
            exact ⟨holds.1, holds.2 ▸ different⟩
  | argument key position type =>
      rw [Lower.expr]
      apply once_fills occurring known
      dsimp only
      split
      · exact refuse_fills
      · apply (add_fills _ _).weaken (fun _ => id)
        exact fun _ _ holds => ⟨holds.1, trivial⟩
  | binary key op left right =>
      rw [Lower.expr]
      apply once_fills occurring known
      apply (expr_fills occurring least left
        (occurring.operand known (by simp [Expr.operands]))).bind
      intro leftNode
      apply (expr_fills occurring (max least (leftNode + 1)) right
        (occurring.operand known (by simp [Expr.operands]))).bind
      intro rightNode
      apply (binary_fills _ _ op (by omega) (by omega)).weaken (fun _ => id)
      exact fun node state filled => ⟨filled.fewer (by omega), trivial⟩
  | unary key op operand =>
      rw [Lower.expr]
      apply once_fills occurring known
      apply (expr_fills occurring least operand
        (occurring.operand known (by simp [Expr.operands]))).bind
      intro operandNode
      apply (unary_fills _ _ op (by omega)).weaken (fun _ => id)
      exact fun node state filled => ⟨filled.fewer (by omega), trivial⟩
  | cast key operand type =>
      rw [Lower.expr]
      apply once_fills occurring known
      apply (expr_fills occurring least operand
        (occurring.operand known (by simp [Expr.operands]))).bind
      intro operandNode
      apply (add_fills _ _).weaken (fun _ => id)
      exact fun node state holds => ⟨holds.1.fewer (by omega), trivial⟩
  | element key field indices =>
      rw [Lower.expr]
      apply once_fills occurring known
      apply leafAt_bind_fills
      intro leaf found
      apply (indexNodes_fills occurring least indices fun index member =>
        occurring.operand known (by simp [Expr.operands, member])).bind
      intro nodes
      have placed : occurs (.field field) :=
        occurring.operand known (by simp [Expr.operands])
      apply (add_fills _ _).weaken (fun _ => id)
      exact fun node state holds => ⟨holds.1, leaf, found, holds.2⟩
  | load key elementKey field indices =>
      have element : occurs (.element elementKey field indices) :=
        occurring.operand known (by simp [Expr.operands])
      rw [Lower.expr]
      apply once_fills occurring known
      apply leafAt_bind_fills
      intro leaf found
      apply (indexNodes_fills occurring least indices fun index member =>
        occurring.operand element (by simp [Expr.operands, member])).bind
      intro nodes
      have placed : occurs (.field field) :=
        occurring.operand element (by simp [Expr.operands])
      apply (add_fills _ _).weaken (fun _ => id)
      exact fun node state holds => ⟨holds.1, trivial⟩
  | field field =>
      rw [Lower.expr]
      apply once_fills occurring known
      exact fun _ _ => trivial

theorem indexNodes_fills (occurring : Occurring occurs)
    (least : Nat) (indices : List Expr)
    (known : ∀ index ∈ indices, occurs index) :
    Fills context occurs least (indexNodes context indices) fun _ =>
      Lowering.Filled context occurs least := by
  cases indices with
  | nil =>
      rw [indexNodes]
      exact Ensures.pure fun _ => id
  | cons index rest =>
      rw [indexNodes]
      apply (expr_fills occurring least index (known index (by simp))).bind
      intro node
      rw [checkIndex]
      refine Ensures.bind checkIntegral_fills ?_
      intro _
      apply (indexNodes_fills occurring _ rest fun later member =>
        known later (by simp [member])).bind
      intro nodes
      exact Ensures.pure fun _ filled => filled.fewer (by omega)

end

variable (occurring : Occurring occurs)

include occurring

theorem value_fills (least : Nat) (given : HostValue) (known : ∀ root ∈ given.roots, occurs root) :
    Fills context occurs least (value context given)
      (FilledAt context occurs least) := by
  cases given with
  | expr expr =>
      exact expr_fills occurring least expr (known expr (by simp [HostValue.roots]))
  | _ => exact Ensures.throw fun _ _ => trivial

theorem store_fills (place : Element) (stored : Expr) (knownPlace : occurs (.ofElement place))
    (known : occurs stored) :
    Fills context occurs 0 (store context place stored) fun _ =>
      Lowering.Filled context occurs 0 := by
  have placed : occurs (.field place.field) :=
    occurring.operand knownPlace (by simp [Expr.ofElement, Expr.operands])
  apply leafAt_bind_fills
  intro leaf found
  apply (indexNodes_fills occurring 0 place.indices fun index member =>
    occurring.operand knownPlace (by simp [Expr.ofElement, Expr.operands, member])).bind
  intro indices
  apply (resolve_fills occurring knownPlace ⟨leaf, found, rfl⟩).bind
  intro _
  apply (expr_fills occurring 0 stored known).bind
  intro node
  have inside : node < max 0 (node + 1) := by omega
  apply (castTo_fills _ inside).bind
  intro result
  exact Ensures.pure fun _ filled => filled.filled.fewer (by omega)

theorem assign_fills (site? : Option Location) (var : Variable) (value : Expr)
    (knownVar : occurs (.identifier var)) (known : occurs value) :
    Fills context occurs 0 (assign context site? var value) fun _ =>
      Lowering.Filled context occurs 0 := by
  apply varType?_fills
  intro declared?
  cases declared? with
  | none => exact Ensures.throw fun _ _ => trivial
  | some declared =>
      apply (expr_fills occurring 0 value known).bind
      intro node
      have inside : node < max 0 (node + 1) := by omega
      have ends (type : DataType) :
          Fills context occurs (max 0 (node + 1))
            (do resolve (.identifier var) type
                return Op.assign var.identifier.id (← castTo node type))
            fun _ => Lowering.Filled context occurs 0 := by
        apply (resolve_fills occurring knownVar trivial).bind
        intro _
        apply (castTo_fills _ inside).bind
        intro result
        exact Ensures.pure fun _ filled => filled.filled.fewer (by omega)
      dsimp only
      split
      · apply look_fills
        intro type
        exact (declare_fills _ _).bind fun _ => ends type
      · exact ends declared

theorem declareLoopVariables_fills (vars : List Variable)
    (known : ∀ var ∈ vars, occurs (.identifier var)) :
    Fills context occurs 0 (declareLoopVariables vars) fun _ =>
      Lowering.Filled context occurs 0 := by
  apply Ensures.forM
  intro var member
  apply (declare_fills _ _).bind
  intro _
  exact resolve_fills occurring (known var member) trivial

omit occurring in
mutual

/-- Lowering a statement keeps what slots hold of the expressions that were lowered. -/
theorem stmt_fills (occurring : Occurring occurs)
    (statement : Stmt) (known : ∀ root ∈ statement.roots, occurs root) :
    Fills context occurs 0 (stmt context statement) fun _ =>
      Lowering.Filled context occurs 0 := by
  cases statement with
  | alloca site? identifier type =>
      rw [stmt]
      exact (declare_fills _ _).bind fun _ => Ensures.pure fun _ => id
  | assign site? target value =>
      have knownTarget := known target (by simp [Stmt.roots])
      have knownValue := known value (by simp [Stmt.roots])
      cases target with
      | element key field indices =>
          simp only [stmt]
          exact store_fills occurring _ value knownTarget knownValue
      | identifier var =>
          simp only [stmt]
          exact assign_fills occurring site? var value knownTarget knownValue
      | _ =>
          simp only [stmt]
          exact Ensures.throw fun _ _ => trivial
  | load site? place =>
      have knownPlace : occurs (.ofElement place) := known _ (by simp [Stmt.roots])
      rw [stmt]
      apply leafAt_bind_fills
      intro leaf _
      apply (indexNodes_fills occurring 0 place.indices fun index member =>
        occurring.operand knownPlace (by simp [Expr.ofElement, Expr.operands, member])).bind
      intro indices
      exact Ensures.pure fun _ => id
  | store site? place value =>
      rw [stmt]
      exact store_fills occurring place value (known _ (by simp [Stmt.roots]))
        (known _ (by simp [Stmt.roots]))
  | print site? printed label =>
      rw [stmt]
      dsimp only
      split
      · exact refuse_fills
      · apply (value_fills occurring 0 printed fun root member =>
          known root (by simpa [Stmt.roots] using member)).bind
        intro node
        exact Ensures.pure fun _ filled => filled.filled
  | branch site? condition onTrue onFalse =>
      rw [stmt]
      apply (value_fills occurring 0 condition fun root member =>
        known root (by simp [Stmt.roots, member])).bind
      intro node
      apply ((block_fills occurring onTrue fun root member =>
        known root (by simp [Stmt.roots, member])).weaken
          (fun _ filled => FilledAt.filled filled) fun _ _ => id).bind
      intro trueOps
      apply (block_fills occurring onFalse fun root member =>
        known root (by simp [Stmt.roots, member])).bind
      intro falseOps
      exact Ensures.pure fun _ => id
  | loop site? vars source schedule body =>
      have inside := block_fills occurring body fun root member =>
        known root (by simp [Stmt.roots, member])
      have declares : Fills context occurs 0 (declareLoopVariables vars) fun _ =>
          Lowering.Filled context occurs 0 :=
        declareLoopVariables_fills occurring vars fun var member =>
          known _ (by simp [Stmt.roots, member])
      cases source with
      | elements field =>
          rw [stmt]
          apply ((leafOf_fills field site?).weaken (fun _ => id) fun _ _ => And.left).bind
          intro leaf
          apply (checkArity_fills leaf _ _ site?).bind
          intro _
          apply declares.bind
          intro _
          exact inside.bind fun _ => Ensures.pure fun _ => id
      | range first last =>
          rw [stmt]
          apply (expr_fills occurring 0 first
            (known first (by simp [Stmt.roots, LoopSource.roots]))).bind
          intro firstNode
          apply (expr_fills occurring (max 0 (firstNode + 1)) last
            (known last (by simp [Stmt.roots, LoopSource.roots]))).bind
          intro lastNode
          have insideFirst : firstNode < max (max 0 (firstNode + 1)) (lastNode + 1) := by omega
          have insideLast : lastNode < max (max 0 (firstNode + 1)) (lastNode + 1) := by omega
          refine Ensures.bind checkIntegral_fills ?_
          intro _
          refine Ensures.bind checkIntegral_fills ?_
          intro _
          apply (declares.weaken (fun _ filled => filled.fewer (Nat.zero_le _))
            fun _ _ => id).bind
          intro _
          exact inside.bind fun _ => Ensures.pure fun _ => id
  | bare site? =>
      rw [stmt]
      exact Ensures.throw fun _ _ => trivial
  | endless =>
      rw [stmt]
      exact Ensures.throw fun _ _ => trivial

theorem block_fills (occurring : Occurring occurs)
    (body : List Stmt) (known : ∀ root ∈ Stmt.blockRoots body, occurs root) :
    Fills context occurs 0 (block context body) fun _ =>
      Lowering.Filled context occurs 0 := by
  cases body with
  | nil =>
      rw [block]
      exact Ensures.pure fun _ => id
  | cons first rest =>
      rw [block]
      apply (stmt_fills occurring first fun root member =>
        known root (by simp [Stmt.blockRoots, member])).bind
      intro op
      apply (block_fills occurring rest fun root member =>
        known root (by simp [Stmt.blockRoots, member])).bind
      intro ops
      exact Ensures.pure fun _ => id

end

end Lower

end FieldKernel
