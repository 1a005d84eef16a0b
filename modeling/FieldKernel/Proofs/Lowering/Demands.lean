import FieldKernel.IR.Lowering
import FieldKernel.Proofs.Lowering.Slots
import FieldKernel.Proofs.Lowering.Texts
import FieldKernel.Proofs.Triples

/-!
# What lowering demands of types

Lowering looks at the type slots only to fill them.  Which types it asks for, in
what order, and what it comes to if all of them can be filled in do not depend
on what the slots hold.  That is so for two contexts at once in which the same
is looked up, rule by rule.
-/

namespace FieldKernel

namespace Lower

variable {α β : Type}

/-- From a state without slots a step demands types, whatever the slots hold.
It comes to an outcome if all of them can be filled in, and breaks off at the
first that cannot. -/
def Asks (step : Lower α) (state : Lowering) (demands : List Demand) (outcome : Except Error α)
    (after : Lowering) : Prop :=
  ∀ slots : TypeSlots,
    match slots.fill demands with
    | (.ok (), filled) =>
      step.run.run { state with slots := slots } = (outcome, { after with slots := filled })
    | (.error error, filled) => ∃ broken : Lowering,
      step.run.run { state with slots := slots } = (.error error, { broken with slots := filled })

/-- What follows on a step asks for its types when the step is done. -/
theorem Asks.bind {step : Lower α} {next : α → Lower β} {state middle after : Lowering}
    {first second : List Demand} {value : α} {outcome : Except Error β}
    (asks : step.Asks state first (.ok value) middle)
    (later : (next value).Asks middle second outcome after) :
    (step >>= next).Asks state (first ++ second) outcome after := by
  intro slots
  have begins := asks slots
  rw [TypeSlots.fill_append, run_run_bind]
  revert begins
  rcases slots.fill first with ⟨error | _, filled⟩
  · rintro ⟨broken, run⟩
    exact ⟨broken, by rw [run]⟩
  · intro run
    dsimp only at run ⊢
    rw [run]
    exact later filled

/-- Nothing follows on a step that fails. -/
theorem Asks.bind_error {step : Lower α} {next : α → Lower β} {state middle : Lowering}
    {demands : List Demand} {error : Error} (asks : step.Asks state demands (.error error) middle) :
    (step >>= next).Asks state demands (.error error) middle := by
  intro slots
  have ends := asks slots
  rw [run_run_bind]
  revert ends
  rcases slots.fill demands with ⟨error | _, filled⟩
  · rintro ⟨broken, run⟩
    exact ⟨broken, by rw [run]⟩
  · intro run
    dsimp only at run ⊢
    rw [run]

/-- This is the step that asks for a type. -/
theorem Asks.resolve {expr : Expr} {type : DataType} (state : Lowering) :
    (resolve expr type).Asks state [⟨expr, type⟩] (.ok ()) state := by
  intro slots
  rw [TypeSlots.fill]
  have run : (Lower.resolve expr type).run.run { state with slots := slots } =
      (ofExcept (slots.resolve expr type) >>= fun filled =>
        (set { state with slots := filled } : Lower PUnit)).run.run
          { state with slots := slots } := rfl
  rw [run, run_run_bind]
  cases slots.resolve expr type with
  | error error => exact ⟨state, rfl⟩
  | ok filled => rfl

/-- Two steps ask for the same types, of expressions that occur, and come to the
same outcome. -/
def Together (occurs : Expr → Prop) (one other : Lower α) : Prop :=
  ∀ state, ∃ demands outcome after, (∀ demand ∈ demands, occurs demand.expr) ∧
    one.Asks state demands outcome after ∧ other.Asks state demands outcome after

namespace Together

variable {occurs : Expr → Prop}

theorem bind {one other : Lower α} {next nextOther : α → Lower β} (first : Together occurs one other)
    (second : ∀ value, Together occurs (next value) (nextOther value)) :
    Together occurs (one >>= next) (other >>= nextOther) := by
  intro state
  obtain ⟨demands, outcome, middle, known, asks, asksOther⟩ := first state
  cases outcome with
  | error error => exact ⟨demands, _, middle, known, asks.bind_error, asksOther.bind_error⟩
  | ok value =>
      obtain ⟨later, outcome, after, knownLater, asksLater, asksOtherLater⟩ := second value middle
      refine ⟨demands ++ later, outcome, after, fun demand member => ?_, asks.bind asksLater,
        asksOther.bind asksOtherLater⟩
      exact (List.mem_append.mp member).elim (known demand) (knownLater demand)

/-- A step that has nothing to do with slots asks for nothing. -/
theorem quiet {step : Lower α} (outcome : Lowering → Except Error α) (change : Lowering → Lowering)
    (run : ∀ (state : Lowering) (slots : TypeSlots), step.run.run { state with slots := slots } =
      (outcome state, { change state with slots := slots })) :
    Together occurs step step :=
  fun state => ⟨[], outcome state, change state, by simp, run state, run state⟩

theorem pure (value : α) : Together occurs (Pure.pure value) (Pure.pure value) :=
  quiet (fun _ => .ok value) id fun _ _ => rfl

theorem throw (error : Error) :
    Together occurs (throw error : Lower α) (throw error) :=
  quiet (fun _ => .error error) id fun _ _ => rfl

/-- What follows on a choice between two steps. -/
theorem choice {guard : Prop} [Decidable guard] {one other : Lower α} {next : α → Lower β}
    (whenTrue : Together occurs one one) (whenFalse : Together occurs other other)
    (after : ∀ value, Together occurs (next value) (next value)) :
    Together occurs (if guard then one >>= next else other >>= next)
      (if guard then one >>= next else other >>= next) := by
  split
  · exact whenTrue.bind after
  · exact whenFalse.bind after

/-- What follows on a look at something else than slots. -/
theorem get {one other : Lowering → Lower β}
    (blind : ∀ (state : Lowering) (slots : TypeSlots), one { state with slots := slots } = one state)
    (blindOther : ∀ (state : Lowering) (slots : TypeSlots),
      other { state with slots := slots } = other state)
    (after : ∀ state, Together occurs (one state) (other state)) :
    Together occurs (MonadState.get >>= one) (MonadState.get >>= other) := by
  intro state
  obtain ⟨demands, outcome, final, known, asks, asksOther⟩ := after state state
  refine ⟨demands, outcome, final, known, fun slots => ?_, fun slots => ?_⟩
  · have run : (MonadState.get >>= one : Lower β).run.run { state with slots := slots } =
        (one state).run.run { state with slots := slots } := by
      rw [← blind state slots]
      rfl
    rw [run]
    exact asks slots
  · have run : (MonadState.get >>= other : Lower β).run.run { state with slots := slots } =
        (other state).run.run { state with slots := slots } := by
      rw [← blindOther state slots]
      rfl
    rw [run]
    exact asksOther slots

theorem add (op : NodeOp) (type : DataType) : Together occurs (add op type) (add op type) :=
  quiet (fun state => .ok state.nodes.size)
    (fun state => { state with nodes := state.nodes.push ⟨state.nodes.size, op, type⟩ })
    fun _ _ => rfl

theorem typeOf (node : Nat) : Together occurs (typeOf node) (typeOf node) :=
  quiet (fun state => .ok (state.typeOf node)) id fun _ _ => rfl

theorem varType? (var : Nat) : Together occurs (varType? var) (varType? var) :=
  quiet (fun state => .ok state.varTypes[var]?) id fun _ _ => rfl

theorem modify {change : Lowering → Lowering}
    (blind : ∀ (state : Lowering) (slots : TypeSlots),
      change { state with slots := slots } = { change state with slots := slots }) :
    Together occurs (modify change : Lower Unit) (modify change) :=
  quiet (fun _ => .ok ()) change fun state slots => congrArg (Prod.mk _) (blind state slots)

theorem declare (var : Nat) (type : DataType) :
    Together occurs (declare var type) (declare var type) :=
  modify fun _ _ => rfl

theorem castTo (node : Nat) (type : DataType) :
    Together occurs (castTo node type) (castTo node type) := by
  refine (typeOf node).bind fun found => ?_
  split
  · exact pure node
  · exact add _ _

theorem resolve {expr : Expr} (known : occurs expr) (type : DataType) :
    Together occurs (resolve expr type) (resolve expr type) :=
  fun state => ⟨_, _, state, by simpa using known, .resolve state, .resolve state⟩

theorem forM {γ : Type} {items : List γ} {one other : γ → Lower Unit}
    (round : ∀ item ∈ items, Together occurs (one item) (other item)) :
    Together occurs (items.forM one) (items.forM other) := by
  induction items with
  | nil => exact pure ()
  | cons first rest hypothesis =>
      exact (round first (by simp)).bind fun _ =>
        hypothesis fun item member => round item (by simp [member])

end Together

end Lower

/-- Contexts in which the same is looked up, though values may be written in
another way. -/
structure LoweringContext.Shares (one other : LoweringContext) : Prop where
  arch : other.arch = one.arch
  argTypes : other.argTypes = one.argTypes
  locations : other.locations = one.locations
  layouts : other.objects.layouts = one.objects.layouts
  recording : other.objects.recording = one.objects.recording

namespace Lower

variable {occurs : Expr → Prop} {context other : LoweringContext}

theorem leafOf_together (shares : context.Shares other) (field : Field) (site? : Option Location) :
    Together occurs (leafOf context field site?) (leafOf other field site?) := by
  unfold leafOf
  rw [shares.layouts]
  cases context.objects.layouts.leafOf? field with
  | none => exact .throw _
  | some found =>
      obtain ⟨tree, leaf⟩ := found
      dsimp only
      split
      · exact .bind (.modify fun _ _ => rfl) fun _ => .pure leaf
      · exact .bind (.throw _) fun _ => .bind (.modify fun _ _ => rfl) fun _ => .pure leaf

theorem leafAt_together (shares : context.Shares other) (key : Nat) (field : Field) (count : Nat) :
    Together occurs (leafAt context key field count) (leafAt other key field count) := by
  unfold leafAt checkArity
  rw [shares.locations]
  refine .bind (leafOf_together shares field _) fun leaf => ?_
  dsimp only
  split
  · exact .bind (.throw _) fun _ => .pure leaf
  · exact .bind (.pure _) fun _ => .pure leaf

/-- An expression that is met for the first time is lowered, and given the type
of its node. -/
theorem once_together {expr : Expr} (known : occurs expr) {one other : Lower Nat}
    (lower : Together occurs one other) : Together occurs (once expr one) (once expr other) := by
  refine .get (fun _ _ => rfl) (fun _ _ => rfl) fun state => ?_
  split
  · exact .pure _
  · exact .bind lower fun node => .bind (.typeOf node) fun type =>
      .bind (.resolve known type) fun _ => .bind (.modify fun _ _ => rfl) fun _ => .pure node

theorem binary_together (site? : Option Location) (text : Except HostFault String)
    (op : BinaryOp) (left right : Nat) :
    Together occurs (binary site? text op left right) (binary site? text op left right) := by
  refine .bind (.typeOf left) fun leftType => .bind (.typeOf right) fun rightType => ?_
  dsimp only
  split
  · exact .bind (.throw _) fun _ => .bind (.castTo _ _) fun _ => .bind (.castTo _ _) fun _ => .add _ _
  · exact .bind (.castTo _ _) fun _ => .bind (.castTo _ _) fun _ => .add _ _

theorem unary_together (site? : Option Location) (text : Except HostFault String) (op : UnaryOp)
    (operand : Nat) :
    Together occurs (unary site? text op operand) (unary site? text op operand) := by
  refine .bind (.typeOf operand) fun type => .choice (.castTo _ _) (.pure _) fun operand =>
    .bind (.typeOf operand) fun type => ?_
  dsimp only
  split
  · exact .bind (.throw _) fun _ => .bind (.typeOf _) fun _ =>
      .choice (.castTo _ _) (.pure _) fun _ => .bind (.typeOf _) fun _ => .add _ _
  · exact .bind (.typeOf _) fun _ =>
      .choice (.castTo _ _) (.pure _) fun _ => .bind (.typeOf _) fun _ => .add _ _

/-- What is directly below an expression that occurs occurs as well. -/
def Below (occurs : Expr → Prop) : Prop :=
  ∀ {expr part : Expr}, occurs expr → part ∈ expr.operands → occurs part

mutual

/-- An expression asks for the types of what is in it. -/
theorem expr_together (shares : context.Shares other) (closed : Below occurs) (expr : Expr)
    (known : occurs expr) : Together occurs (Lower.expr context expr) (Lower.expr other expr) := by
  cases expr with
  | literal key value type =>
      rw [Lower.expr, Lower.expr]
      exact once_together known (.add _ _)
  | identifier var =>
      rw [Lower.expr, Lower.expr, shares.locations]
      refine once_together known (.bind (.varType? _) fun type? => ?_)
      cases type? with
      | none => exact .throw _
      | some type =>
          dsimp only
          split
          · exact .bind (.throw _) fun _ => .add _ _
          · exact .add _ _
  | argument key position type =>
      rw [Lower.expr, Lower.expr, shares.locations, shares.argTypes]
      refine once_together known ?_
      dsimp only
      split
      · exact .bind (.throw _) fun _ => .add _ _
      · exact .add _ _
  | binary key op left right =>
      rw [Lower.expr, Lower.expr, shares.locations]
      exact once_together known <|
        .bind (expr_together shares closed left (closed known (by simp [Expr.operands])))
          fun _ =>
        .bind (expr_together shares closed right (closed known (by simp [Expr.operands])))
          fun _ => binary_together _ _ _ _ _
  | unary key op operand =>
      rw [Lower.expr, Lower.expr, shares.locations]
      exact once_together known <|
        .bind (expr_together shares closed operand (closed known (by simp [Expr.operands])))
          fun _ => unary_together _ _ _ _
  | cast key operand type =>
      rw [Lower.expr, Lower.expr]
      exact once_together known <|
        .bind (expr_together shares closed operand (closed known (by simp [Expr.operands])))
          fun _ => .add _ _
  | element key field indices =>
      rw [Lower.expr, Lower.expr]
      exact once_together known <| .bind (leafAt_together shares _ _ _) fun _ =>
        .bind (indexNodes_together shares closed indices fun index member =>
          closed known (by simp [Expr.operands, member])) fun _ => .add _ _
  | load key elementKey field indices =>
      have place : occurs (.element elementKey field indices) :=
        closed known (by simp [Expr.operands])
      rw [Lower.expr, Lower.expr]
      exact once_together known <| .bind (leafAt_together shares _ _ _) fun _ =>
        .bind (indexNodes_together shares closed indices fun index member =>
          closed place (by simp [Expr.operands, member])) fun _ => .add _ _
  | field field =>
      rw [Lower.expr, Lower.expr, shares.locations]
      exact once_together known (.throw _)

theorem indexNodes_together (shares : context.Shares other) (closed : Below occurs)
    (indices : List Expr) (known : ∀ index ∈ indices, occurs index) :
    Together occurs (indexNodes context indices) (indexNodes other indices) := by
  cases indices with
  | nil =>
      rw [indexNodes, indexNodes]
      exact .pure _
  | cons index rest =>
      rw [indexNodes, indexNodes]
      refine .bind (expr_together shares closed index (known index (by simp))) fun node => ?_
      rw [checkIndex, checkIndex, shares.locations]
      refine .bind (.bind (.typeOf node) fun type => ?_) fun _ =>
        .bind (indexNodes_together shares closed rest fun later member =>
          known later (by simp [member])) fun _ => .pure _
      split
      · exact .pure _
      · exact .throw _

end

theorem value_together (shares : context.Shares other) (closed : Below occurs)
    (given : HostValue) (known : ∀ expr ∈ given.roots, occurs expr) :
    Together occurs (value context given) (value other given) := by
  unfold value
  cases given with
  | expr expr => exact expr_together shares closed expr (known expr (by simp [HostValue.roots]))
  | statement id =>
      dsimp only
      rw [shares.recording]
      exact .throw _
  | _ => exact .throw _

theorem store_together (shares : context.Shares other) (closed : Below occurs)
    (place : Element) (value : Expr) (knownPlace : occurs (.ofElement place))
    (known : occurs value) :
    Together occurs (store context place value) (store other place value) := by
  refine .bind (leafAt_together shares _ _ _) fun leaf =>
    .bind (indexNodes_together shares closed place.indices fun index member =>
      closed knownPlace (by simp [Expr.ofElement, Expr.operands, member])) fun indices =>
    .bind (.resolve knownPlace _) fun _ =>
    .bind (expr_together shares closed value known) fun _ =>
    .bind (.castTo _ _) fun _ => .pure _

theorem assign_together (shares : context.Shares other) (closed : Below occurs)
    (site? : Option Location) (var : Variable) (value : Expr)
    (knownVar : occurs (.identifier var)) (known : occurs value) :
    Together occurs (assign context site? var value) (assign other site? var value) := by
  refine .bind (.varType? _) fun declared? => ?_
  cases declared? with
  | none => exact .throw _
  | some declared =>
      refine .bind (expr_together shares closed value known) fun node =>
        .choice (.typeOf node) (.pure declared) fun type => ?_
      have ends : Together occurs
          (do resolve (.identifier var) type
              return Op.assign var.identifier.id (← castTo node type))
          (do resolve (.identifier var) type
              return Op.assign var.identifier.id (← castTo node type)) :=
        .bind (.resolve knownVar type) fun _ => .bind (.castTo _ _) fun _ => .pure _
      dsimp only
      split
      · exact .bind (.declare _ _) fun _ => ends
      · exact ends

theorem declareLoopVariables_together (vars : List Variable)
    (known : ∀ var ∈ vars, occurs (.identifier var)) :
    Together occurs (declareLoopVariables vars) (declareLoopVariables vars) :=
  .forM fun var member => .bind (.declare _ _) fun _ => .resolve (known var member) _

theorem checkBound_together (site? : Option Location) (text : Except HostFault String)
    (bound : Nat) :
    Together occurs (checkBound site? text bound) (checkBound site? text bound) := by
  refine .bind (.typeOf bound) fun type => ?_
  split
  · exact .pure _
  · exact .throw _

mutual

/-- A statement asks for the types of what is recorded in it. -/
theorem stmt_together (shares : context.Shares other) (closed : Below occurs)
    (statement : Stmt) (known : ∀ root ∈ statement.roots, occurs root)
    (alike : statement.Alike context.objects.rendering other.objects.rendering) :
    Together occurs (stmt context statement) (stmt other statement) := by
  cases statement with
  | alloca site? identifier type =>
      rw [stmt, stmt]
      exact .bind (.declare _ _) fun _ => .pure _
  | assign site? target value =>
      have knownTarget := known target (by simp [Stmt.roots])
      have knownValue := known value (by simp [Stmt.roots])
      cases target with
      | element key field indices =>
          simp only [stmt]
          exact store_together shares closed _ value knownTarget knownValue
      | identifier var =>
          simp only [stmt]
          exact assign_together shares closed site? var value knownTarget knownValue
      | _ =>
          simp only [stmt]
          exact .throw _
  | load site? place =>
      have knownPlace : occurs (.ofElement place) := known _ (by simp [Stmt.roots])
      rw [stmt, stmt]
      exact .bind (leafAt_together shares _ _ _) fun _ =>
        .bind (indexNodes_together shares closed place.indices fun index member =>
          closed knownPlace (by simp [Expr.ofElement, Expr.operands, member])) fun _ =>
        .pure _
  | store site? place value =>
      rw [stmt, stmt]
      exact store_together shares closed place value (known _ (by simp [Stmt.roots]))
        (known _ (by simp [Stmt.roots]))
  | print site? printed label =>
      simp only [Stmt.Alike, Stmt.text] at alike
      have ends : Together occurs (do return Op.print (← value context printed) label)
          (do return Op.print (← value other printed) label) :=
        .bind (value_together shares closed printed fun root member =>
          known root (by simpa [Stmt.roots] using member)) fun _ => .pure _
      rw [stmt, stmt, shares.arch, alike]
      dsimp only
      split
      · exact .bind (.throw _) fun _ => ends
      · exact ends
  | branch site? condition onTrue onFalse =>
      simp only [Stmt.Alike] at alike
      rw [stmt, stmt]
      exact .bind (value_together shares closed condition fun root member =>
          known root (by simp [Stmt.roots, member])) fun _ =>
        .bind (block_together shares closed onTrue (fun root member =>
          known root (by simp [Stmt.roots, member])) alike.2.1) fun _ =>
        .bind (block_together shares closed onFalse (fun root member =>
          known root (by simp [Stmt.roots, member])) alike.2.2) fun _ => .pure _
  | loop site? vars source schedule body =>
      simp only [Stmt.Alike] at alike
      have inside := block_together shares closed body (fun root member =>
        known root (by simp [Stmt.roots, member])) alike.2
      have declares : Together occurs (declareLoopVariables vars) (declareLoopVariables vars) :=
        declareLoopVariables_together vars fun var member =>
          known _ (by simp [Stmt.roots, member])
      cases source with
      | elements field =>
          rw [stmt, stmt]
          refine .bind (leafOf_together shares _ _) fun leaf => .bind ?_ fun _ =>
            .bind declares fun _ => .bind inside fun _ => .pure _
          unfold checkArity
          dsimp only
          split
          · exact .throw _
          · exact .pure _
      | range first last =>
          rw [stmt, stmt]
          refine .bind (expr_together shares closed first
              (known _ (by simp [Stmt.roots, LoopSource.roots]))) fun _ =>
            .bind (expr_together shares closed last
              (known _ (by simp [Stmt.roots, LoopSource.roots]))) fun _ => ?_
          rw [alike.1]
          exact .bind (checkBound_together _ _ _) fun _ => .bind (checkBound_together _ _ _) fun _ =>
            .bind declares fun _ => .bind inside fun _ => .pure _
  | bare site? =>
      rw [stmt, stmt]
      exact .throw _
  | endless =>
      rw [stmt, stmt]
      exact .throw _

/-- In contexts in which the same is looked up, lowering a block asks for the
same types and comes to the same. -/
theorem block_together (shares : context.Shares other) (closed : Below occurs)
    (body : List Stmt) (known : ∀ root ∈ Stmt.blockRoots body, occurs root)
    (alike : Stmt.BlockAlike context.objects.rendering other.objects.rendering body) :
    Together occurs (block context body) (block other body) := by
  cases body with
  | nil =>
      rw [block, block]
      exact .pure _
  | cons first rest =>
      rw [block, block]
      exact .bind (stmt_together shares closed first (fun root member =>
          known root (by simp [Stmt.blockRoots, member])) alike.1) fun _ =>
        .bind (block_together shares closed rest (fun root member =>
          known root (by simp [Stmt.blockRoots, member])) alike.2) fun _ => .pure _

end

end Lower

theorem LoweringContext.Shares.refl (context : LoweringContext) : context.Shares context :=
  ⟨rfl, rfl, rfl, rfl, rfl⟩

namespace KernelIR

/-- Lowering fills in the types that it demands, whatever the slots hold.  It
fails at the first that cannot be filled in, and comes to its verdict if there
is none. -/
def Demands (lower : TypeSlots → Except Error KernelIR × TypeSlots) (demands : List Demand)
    (verdict : Except Error KernelIR) : Prop :=
  ∀ slots, lower slots =
    match slots.fill demands with
    | (.ok (), filled) => (verdict, filled)
    | (.error error, filled) => (.error error, filled)

theorem Demands.answer {lower : TypeSlots → Except Error KernelIR × TypeSlots}
    {demands : List Demand} {verdict : Except Error KernelIR} (asked : Demands lower demands verdict)
    (slots : TypeSlots) : (lower slots).1 = (slots.fill demands).1.bind fun _ => verdict := by
  rw [asked slots]
  rcases slots.fill demands with ⟨error | _, filled⟩
  · rfl
  · rfl

theorem Demands.slots {lower : TypeSlots → Except Error KernelIR × TypeSlots}
    {demands : List Demand} {verdict : Except Error KernelIR} (asked : Demands lower demands verdict)
    (slots : TypeSlots) : (lower slots).2 = (slots.fill demands).2 := by
  rw [asked slots]
  rcases slots.fill demands with ⟨error | _, filled⟩
  · rfl
  · rfl

variable {occurs : Expr → Prop} {context other : LoweringContext}

theorem demands_of_asks (name : String) (target : ArchSetting) {body : List Stmt}
    {demands : List Demand} {outcome : Except Error (List Op)} {after : Lowering}
    (asks : (Lower.block context body).Asks (.start .empty) demands outcome after) :
    Demands (ofBody name target context body) demands
      (outcome.map fun ops =>
        { name := name
          target := target
          nodes := after.nodes
          body := ops
          argTypes := context.argTypes
          leaves := after.leaves.toList.map (·.1)
          varTypes := after.varTypes.toList }) := by
  intro slots
  have ends := asks slots
  rw [ofBody]
  change match slots.fill demands with
    | (.ok (), filled) => (Lower.block context body).run.run (.start slots) = _
    | (.error error, filled) => ∃ broken : Lowering,
      (Lower.block context body).run.run (.start slots) = _ at ends
  revert ends
  rcases slots.fill demands with ⟨error | _, filled⟩
  · rintro ⟨broken, run⟩
    rw [run]
    rfl
  · intro run
    dsimp only at run ⊢
    rw [run]

/-- In contexts in which the same is looked up, and for statements that are
written in the same way, lowering demands the same and comes to the same. -/
theorem exists_demands (shares : context.Shares other) (closed : Lower.Below occurs)
    (name : String) (target : ArchSetting) (body : List Stmt)
    (known : ∀ root ∈ Stmt.blockRoots body, occurs root)
    (alike : Stmt.BlockAlike context.objects.rendering other.objects.rendering body) :
    ∃ demands verdict, (∀ demand ∈ demands, occurs demand.expr) ∧
      Demands (ofBody name target context body) demands verdict ∧
      Demands (ofBody name target other body) demands verdict := by
  obtain ⟨demands, outcome, after, knows, asks, asksOther⟩ :=
    Lower.block_together shares closed body known alike (.start .empty)
  refine ⟨demands, _, knows, demands_of_asks name target asks, ?_⟩
  have demandsOther := demands_of_asks name target asksOther
  rw [shares.argTypes] at demandsOther
  exact demandsOther

/-- Lowering empties no slot. -/
theorem grows_ofBody (name : String) (target : ArchSetting) (context : LoweringContext)
    (body : List Stmt) (slots : TypeSlots) :
    slots.Grows (ofBody name target context body slots).2 := by
  have closed : Lower.Below fun _ => True := fun _ _ => trivial
  obtain ⟨demands, verdict, _, asked, _⟩ :=
    exists_demands (.refl context) closed name target body (fun _ _ => trivial) (.refl _ body)
  rw [asked slots]
  have grows := slots.grows_fill demands
  revert grows
  rcases slots.fill demands with ⟨error | _, filled⟩
  · exact id
  · exact id

end KernelIR

end FieldKernel
