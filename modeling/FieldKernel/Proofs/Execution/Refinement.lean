import FieldKernel.Proofs.Execution.Evaluation
import FieldKernel.Proofs.Lowering.Statements
import FieldKernel.Proofs.Meaning.Interpretation

/-!
# Lowered code refines recorded code

An operation that performs a statement does what the interpretation of the
statement does: from every state the same outcome, and the same state is left
behind.  Both are parts of a run, so this is an equation between them.
-/

namespace FieldKernel

/-- A computation fails if what it goes on with fails. -/
theorem exists_error_of_bind {α β : Type} {attempt : Except Error α} {next : α → Except Error β}
    (fails : ∀ value, ∃ error, next value = .error error) :
    ∃ error, (attempt >>= next) = .error error := by
  cases attempt with
  | error error => exact ⟨error, rfl⟩
  | ok value => exact fails value

theorem Literal.convert_unknown (value : Literal) :
    ∃ error, value.convert .unknown = .error error := by
  unfold Literal.convert
  split
  · exact ⟨_, rfl⟩
  · exact ⟨_, rfl⟩
  · exact ⟨_, rfl⟩

/-- A run of lowered code and an interpretation of recorded code look up the
same things for the expressions that occur.  No argument is recorded, and no
field placed, without a type. -/
structure Code.Faithful (occurs : Expr → Prop) (code : Code) (context : RunContext)
    (meaning : Interpretation) : Prop where
  occurring : Occurring occurs
  loaded : code.LoadedIn context
  typing : meaning.typing = code.typing
  leafOf {field : Field} {leaf : Node} (known : occurs (.field field))
    (placed : code.typing.leafOf? field = some leaf) : meaning.leafOf field = .ok leaf
  leafType {field : Field} {leaf : Node} (known : occurs (.field field))
    (placed : code.typing.leafOf? field = some leaf) : leaf.type ≠ .unknown
  argumentType (key : Nat) (position : Int) : ¬ occurs (.argument key position .unknown)
  args : context.args = meaning.args
  rendering : context.rendering = meaning.rendering
  resetType (id : Nat) : (context.varTypes.lookup id).getD .unknown = meaning.resetType id

namespace Code

variable {occurs : Expr → Prop} {code : Code} {context : RunContext} {meaning : Interpretation}

section Values

/-- A node that was brought to a type has the value brought to the type. -/
theorem Brings.valueOf_eq (loaded : code.LoadedIn context) {source target : DataType}
    {node result : Nat} (brings : code.Brings source target node result) (run : Run) :
    context.valueOf run result =
      context.valueOf run node >>= Interpretation.bring source target := by
  rcases brings with ⟨rfl, rfl⟩ | ⟨different, found⟩
  · have same : Interpretation.bring source source = pure := by
      funext value
      simp only [Interpretation.bring, if_true]
      rfl
    rw [same, bind_pure]
  · have cast : Interpretation.bring source target = fun value => value.convert target := by
      funext value
      simp only [Interpretation.bring, if_neg different]
    rw [cast, loaded.valueOf_eq found]
    rfl

mutual

/-- The node that computes an expression has the value of the expression. -/
theorem Computes.valueOf_eq (faithful : code.Faithful occurs context meaning) (expr : Expr)
    {id : Nat} (known : occurs expr) (computes : code.Computes expr id) (run : Run) :
    context.valueOf run id = meaning.value run expr := by
  have below {part : Expr} (member : part ∈ expr.operands) : occurs part :=
    faithful.occurring.operand known member
  cases computes with
  | literal found =>
      rw [faithful.loaded.valueOf_eq found, Interpretation.value]
      rfl
  | identifier settled found =>
      rw [faithful.loaded.valueOf_eq found, Interpretation.value]
      rfl
  | @argument key _ position type found =>
      rw [faithful.loaded.valueOf_eq found, Interpretation.value]
      exact congrArg (fun args => Interpretation.argument { meaning with args := args } position)
        faithful.args
  | binary common integral computesLeft computesRight bringsLeft bringsRight found =>
      rw [faithful.loaded.valueOf_eq found, Interpretation.value]
      simp only [RunContext.computed, bringsLeft.valueOf_eq faithful.loaded run,
        bringsRight.valueOf_eq faithful.loaded run,
        computesLeft.valueOf_eq faithful _ (below (by simp [Expr.operands])) run,
        computesRight.valueOf_eq faithful _ (below (by simp [Expr.operands])) run, bind_assoc,
        faithful.typing, common]
  | unary widened integral computes widens floats found =>
      rw [faithful.loaded.valueOf_eq found, Interpretation.value]
      simp only [RunContext.computed, floats.valueOf_eq faithful.loaded run,
        widens.valueOf_eq faithful.loaded run,
        computes.valueOf_eq faithful _ (below (by simp [Expr.operands])) run, bind_assoc,
        faithful.typing, widened]
  | cast computes found =>
      rw [faithful.loaded.valueOf_eq found, Interpretation.value]
      simp only [RunContext.computed,
        computes.valueOf_eq faithful _ (below (by simp [Expr.operands])) run]
  | @element key id field indices leaf nodes placed touched arity computes found =>
      have positions := computes.index_eq faithful indices
        (fun index member => below (by simp [Expr.operands, member])) run
      rw [faithful.loaded.valueOf_eq found, Interpretation.value,
        faithful.leafOf (below (by simp [Expr.operands])) placed]
      simp only [RunContext.computed, positions]
      rfl
  | @load key elementKey id field indices leaf nodes placed touched arity computes found =>
      have element : occurs (.element elementKey field indices) :=
        below (by simp [Expr.operands])
      have inside {part : Expr} (member : part ∈ Expr.field field :: indices) : occurs part :=
        faithful.occurring.operand element member
      have positions := computes.index_eq faithful indices
        (fun index member => inside (by simp [member])) run
      rw [faithful.loaded.valueOf_eq found, Interpretation.value, faithful.leafOf (inside (by simp)) placed]
      simp only [RunContext.computed, positions]
      rfl

theorem ComputesIndex.index_eq (faithful : code.Faithful occurs context meaning)
    (indices : List Expr) {nodes : List Nat} (known : ∀ index ∈ indices, occurs index)
    (computes : code.ComputesIndex indices nodes) (run : Run) :
    nodes.mapM (fun node => do (← context.valueOf run node).index) =
      meaning.index run indices := by
  cases computes with
  | nil => rfl
  | cons computes integral later =>
      rw [List.mapM_cons, Interpretation.index,
        later.index_eq faithful _ (fun index member => known index (by simp [member])) run,
        computes.valueOf_eq faithful _ (known _ (by simp)) run]
      simp only [bind_assoc]

end

end Values

section Untyped

/-- There is no value for an expression without a type. -/
theorem Computes.value_of_untyped (faithful : code.Faithful occurs context meaning) (run : Run)
    (expr : Expr) {id : Nat} (known : occurs expr) (computes : code.Computes expr id)
    (untyped : code.typing.typeOf expr = .unknown) :
    ∃ error, meaning.value run expr = .error error := by
  have below {part : Expr} (member : part ∈ expr.operands) : occurs part :=
    faithful.occurring.operand known member
  cases computes with
  | @literal key id value type found =>
      have unknown : type = .unknown := untyped
      obtain ⟨error, refused⟩ := value.convert_unknown
      exact ⟨error, by rw [Interpretation.value, unknown, refused]; rfl⟩
  | identifier settled found => exact absurd untyped settled
  | @argument key id position type found =>
      have unknown : type = .unknown := untyped
      subst unknown
      exact absurd known (faithful.argumentType key position)
  | @binary key leftNode rightNode leftBrought rightBrought id op left right type common integral
      computesLeft computesRight bringsLeft bringsRight found =>
      have unknown : BinaryOp.operandType (code.typing.typeOf left) (code.typing.typeOf right) =
          .unknown := by
        simp only [Typing.typeOf, BinaryOp.computedType] at untyped
        split at untyped
        · cases untyped
        · exact untyped
      rw [Interpretation.value]
      rcases BinaryOp.operandType_eq_unknown unknown with leftUnknown | rightUnknown
      · obtain ⟨error, fails⟩ := computesLeft.value_of_untyped faithful run left
          (below (by simp [Expr.operands])) leftUnknown
        exact ⟨error, by rw [fails]; rfl⟩
      · obtain ⟨error, fails⟩ := computesRight.value_of_untyped faithful run right
          (below (by simp [Expr.operands])) rightUnknown
        rw [fails]
        exact exists_error_of_bind fun _ => exists_error_of_bind fun _ => ⟨error, rfl⟩
  | @unary key node first second id op operand type widened integral computes widens floats
      found =>
      have unknown : code.typing.typeOf operand = .unknown := by
        simp only [Typing.typeOf, UnaryOp.computedType, UnaryOp.floated, UnaryOp.widened]
          at untyped
        grind
      obtain ⟨error, fails⟩ := computes.value_of_untyped faithful run operand
        (below (by simp [Expr.operands])) unknown
      exact ⟨error, by rw [Interpretation.value, fails]; rfl⟩
  | @cast key node id operand type computes found =>
      have unknown : type = .unknown := untyped
      subst unknown
      rw [Interpretation.value]
      exact exists_error_of_bind fun value => ⟨.contract (.noRepresentation .unknown), rfl⟩
  | @element key id field indices leaf nodes placed touched arity computes found =>
      have unknown : leaf.type = .unknown := by
        simpa [Typing.typeOf, Typing.ofElements, placed] using untyped
      exact absurd unknown (faithful.leafType (below (by simp [Expr.operands])) placed)
  | @load key elementKey id field indices leaf nodes placed touched arity computes found =>
      have unknown : leaf.type = .unknown := by
        simpa [Typing.typeOf, Typing.ofElements, placed] using untyped
      have element : occurs (.element elementKey field indices) :=
        below (by simp [Expr.operands])
      have declared := faithful.occurring.operand element
        (List.mem_cons_self : Expr.field field ∈ _)
      exact absurd unknown (faithful.leafType declared placed)

end Untyped

section Operations

/-- An operation gets the value of the expression that a node computes. -/
theorem Computes.agrees (faithful : code.Faithful occurs context meaning) {expr : Expr}
    {id : Nat} (known : occurs expr) (computes : code.Computes expr id) (run : Run) :
    Evaluate.Agrees (context.Remembers run) (Execute.node context run id)
      (meaning.value run expr) := by
  rw [← computes.valueOf_eq faithful expr known run]
  exact faithful.loaded.agrees computes.lt run

theorem Brings.agrees (faithful : code.Faithful occurs context meaning) {expr : Expr}
    {target : DataType} {node result : Nat} (known : occurs expr)
    (computes : code.Computes expr node)
    (brings : code.Brings (code.typing.typeOf expr) target node result) (run : Run) :
    Evaluate.Agrees (context.Remembers run) (Execute.node context run result)
      (meaning.value run expr >>= Interpretation.bring (code.typing.typeOf expr) target) := by
  rw [← computes.valueOf_eq faithful expr known run, ← brings.valueOf_eq faithful.loaded run]
  exact faithful.loaded.agrees (brings.lt computes.lt) run

theorem ComputesIndex.agrees (faithful : code.Faithful occurs context meaning)
    {indices : List Expr} {nodes : List Nat} (known : ∀ index ∈ indices, occurs index)
    (computes : code.ComputesIndex indices nodes) (run : Run) :
    Evaluate.Agrees (context.Remembers run) (Execute.positions context run nodes)
      (meaning.index run indices) := by
  rw [← computes.index_eq faithful indices known run]
  exact faithful.loaded.positions_agree computes.lt run

/-- An operation stores what the statement stores, where it stores it. -/
theorem Stores.op_eq (faithful : code.Faithful occurs context meaning) (place : Element)
    {value : Expr} {leaf : Node} {nodes : List Nat} {result : Nat}
    (knownPlace : occurs (.ofElement place)) (knownValue : occurs value)
    (stores : code.Stores place.field place.indices value leaf nodes result) :
    Execute.op context (.store leaf.id nodes result) =
      meaning.store place.field place.indices value := by
  obtain ⟨⟨placed, touched, arity, computesIndex⟩, node, computes, brings⟩ := stores
  have inside {part : Expr} (member : part ∈ Expr.field place.field :: place.indices) :
      occurs part :=
    faithful.occurring.operand knownPlace member
  have type : meaning.typing.ofElements place.field = leaf.type := by
    simp [faithful.typing, Typing.ofElements, placed]
  rw [Execute.op, Interpretation.store, faithful.leafOf (inside (by simp)) placed, type,
    faithful.typing]
  refine bind_congr fun run => ?_
  have indexed := computesIndex.agrees faithful (fun index member => inside (by simp [member])) run
  have agrees := indexed.bind fun index _ =>
    (brings.agrees faithful knownValue computes run).bind fun box _ => .pure (index, box)
  rw [agrees.evaluate RunContext.remembers_empty]
  simp only [Execute.ofExcept_bind, bind_assoc, Execute.ofExcept_ok, pure_bind]

/-- An operation sets a variable to what the statement assigns to it. -/
theorem Assigns.op_eq (faithful : code.Faithful occurs context meaning) {var : Variable}
    {value : Expr} {result : Nat} (known : occurs value)
    (assigns : code.Assigns var.identifier.id value result) :
    Execute.op context (.assign var.identifier.id result) = meaning.assign var value := by
  obtain ⟨node, computes, fits⟩ := assigns
  rw [Execute.op, Interpretation.assign]
  refine bind_congr fun run => ?_
  rcases fits with ⟨untyped, rfl⟩ | ⟨settled, brings⟩
  · -- Without a type there is no value, and nothing is assigned.
    obtain ⟨error, fails⟩ := computes.value_of_untyped faithful run value known untyped
    rw [(computes.agrees faithful known run).evaluate RunContext.remembers_empty, fails]
    rfl
  · rw [(brings.agrees faithful known computes run).evaluate RunContext.remembers_empty,
      faithful.typing]
    simp only [Execute.ofExcept_bind, bind_assoc]

mutual

/-- An operation that performs a statement does what the statement means. -/
theorem Performs.op_eq (faithful : code.Faithful occurs context meaning) (statement : Stmt)
    {op : Op} (known : ∀ root ∈ statement.roots, occurs root)
    (performs : code.Performs statement op) :
    Execute.op context op = meaning.stmt statement := by
  cases performs with
  | alloca =>
      rewrite [Execute.op, Interpretation.stmt, faithful.resetType]
      cases meaning.resetType _ <;> rfl
  | assign assigns =>
      rw [Interpretation.stmt]
      exact assigns.op_eq faithful (known _ (by simp [Stmt.roots]))
  | @assignElement _ key field indices _ _ _ _ stores =>
      rw [Interpretation.stmt]
      exact stores.op_eq faithful ⟨key, field, indices⟩
        (known _ (by simp [Stmt.roots, Expr.ofElement])) (known _ (by simp [Stmt.roots]))
  | @load _ place _ _ accesses =>
      obtain ⟨placed, touched, arity, computes⟩ := accesses
      have inside {part : Expr} (member : part ∈ Expr.field place.field :: place.indices) :
          occurs part :=
        faithful.occurring.operand (known (.ofElement place) (by simp [Stmt.roots])) member
      rw [Execute.op, Interpretation.stmt, faithful.leafOf (inside (by simp)) placed]
      refine bind_congr fun run => ?_
      rw [(computes.agrees faithful (fun index member => inside (by simp [member])) run).evaluate
        RunContext.remembers_empty]
      rfl
  | store stores =>
      rw [Interpretation.stmt]
      exact stores.op_eq faithful _ (known _ (by simp [Stmt.roots]))
        (known _ (by simp [Stmt.roots]))
  | print computes =>
      rw [Execute.op, Interpretation.stmt]
      refine bind_congr fun run => ?_
      rw [(computes.agrees faithful (known _ (by simp [Stmt.roots, HostValue.roots])) run).evaluate
        RunContext.remembers_empty]
      refine bind_congr fun value => ?_
      simp only [RunContext.printed, faithful.rendering, Execute.ofExcept_bind, bind_assoc]
      rfl
  | branch computes performsTrue performsFalse =>
      rw [Execute.op, Interpretation.stmt,
        performsTrue.ops_eq faithful _
          (fun root member => known root (by simp [Stmt.roots, member])),
        performsFalse.ops_eq faithful _
          (fun root member => known root (by simp [Stmt.roots, member]))]
      refine bind_congr fun run => ?_
      rw [(computes.agrees faithful (known _ (by simp [Stmt.roots, HostValue.roots])) run).evaluate
        RunContext.remembers_empty]
      rfl
  | range computesFirst computesLast integral counted performs =>
      rw [Execute.op, Interpretation.stmt,
        performs.ops_eq faithful _
          (fun root member => known root (by simp [Stmt.roots, member]))]
      refine bind_congr fun run => ?_
      rw [(computesFirst.agrees faithful (known _ (by simp [Stmt.roots, LoopSource.roots]))
          run).evaluate RunContext.remembers_empty,
        (computesLast.agrees faithful (known _ (by simp [Stmt.roots, LoopSource.roots]))
          run).evaluate RunContext.remembers_empty]
      simp only [Execute.ofExcept_bind, bind_assoc, List.head?_map]
  | elements placed touched arity counted performs =>
      rw [Execute.op, Interpretation.stmt,
        faithful.leafOf (known _ (by simp [Stmt.roots, LoopSource.roots])) placed,
        performs.ops_eq faithful _
          (fun root member => known root (by simp [Stmt.roots, member]))]
      simp only [Execute.ofExcept_ok, pure_bind, List.zip_map_left, List.forM_eq_forM,
        List.forM_map, Prod.map, id]

theorem PerformsAll.ops_eq (faithful : code.Faithful occurs context meaning) (body : List Stmt)
    {ops : List Op} (known : ∀ root ∈ Stmt.blockRoots body, occurs root)
    (performs : code.PerformsAll body ops) :
    Execute.ops context ops = meaning.block body := by
  cases performs with
  | nil => rw [Execute.ops, Interpretation.block]
  | cons performs later =>
      rw [Execute.ops, Interpretation.block,
        performs.op_eq faithful _
          (fun root member => known root (by simp [Stmt.blockRoots, member])),
        later.ops_eq faithful _
          (fun root member => known root (by simp [Stmt.blockRoots, member]))]

end

end Operations

end Code

end FieldKernel
