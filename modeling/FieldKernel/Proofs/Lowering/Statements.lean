import FieldKernel.Proofs.Lowering.Expressions
import FieldKernel.Proofs.Lowering.Operations

/-!
# Lowering statements

Lowering a statement leads from sound states to sound states, and the
operation it yields performs the statement.  The types of variables follow the
statements in program order, whatever way a run takes later.
-/

namespace FieldKernel

namespace Lower

open Lowering (Sound Leads)

variable {occurs : Expr → Prop} {context : LoweringContext} {types : VariableTypes}
  {state after : Lowering}

/-- What a statement was given is lowered if it is an expression. -/
theorem value_sound (occurring : Occurring occurs)
    (sound : state.Sound occurs context.leafOf? types) {given : HostValue} {result : Nat}
    (known : ∀ root ∈ given.roots, occurs root)
    (success : (value context given).Yields state result after) :
    ∃ expr, given = .expr expr ∧
      Leads occurs context.leafOf? types state (types.readValue given) after ∧
      (after.code (types.readValue given) context.leafOf?).Computes expr result := by
  cases given with
  | expr expr =>
      exact ⟨expr, rfl, expr_sound occurring expr (known expr (by simp [HostValue.roots])) sound
        success⟩
  | _ => simp [value] at success

/-- An element is looked up before its indices are lowered. -/
theorem access_sound (occurring : Occurring occurs)
    (sound : state.Sound occurs context.leafOf? types) {place : Element} {leaf : Node}
    {between : Lowering} {nodes : List Nat} (known : occurs (.ofElement place))
    (found : (leafAt context place.key place.field place.indices.length).Yields state leaf
      between)
    (lowered : (indexNodes context place.indices).Yields between nodes after) :
    Leads occurs context.leafOf? types state (types.readAll place.indices) after ∧
      (after.code (types.readAll place.indices) context.leafOf?).Accesses place.field
        place.indices leaf nodes := by
  obtain ⟨found, arity⟩ := yields_leafAt.mp found
  obtain ⟨leadsLeaf, placed, touched⟩ :=
    leafOf_sound sound (occurring.operand known (by simp [Expr.ofElement, Expr.operands])) found
  obtain ⟨leads, computes⟩ :=
    indexNodes_sound occurring place.indices
      (fun index member =>
        occurring.operand known (by simp [Expr.ofElement, Expr.operands, member]))
      leadsLeaf.sound lowered
  exact ⟨leadsLeaf.trans leads, placed, leads.grows.touched _ touched, arity, computes⟩

theorem store_sound (occurring : Occurring occurs)
    (sound : state.Sound occurs context.leafOf? types) (place : Element) {stored : Expr} {op : Op}
    (knownPlace : occurs (.ofElement place)) (knownValue : occurs stored)
    (success : (store context place stored).Yields state op after) :
    ∃ leaf nodes result, op = .store leaf.id nodes result ∧
      Leads occurs context.leafOf? types state
        ((types.readAll place.indices).read stored) after ∧
      (after.code ((types.readAll place.indices).read stored) context.leafOf?).Stores
        place.field place.indices stored leaf nodes result := by
  simp only [store, yields_bind, yields_resolve, yields_pure] at success
  obtain ⟨leaf, first, found, nodes, second, indices, _, _, ⟨slots, resolved, rfl⟩, node, third,
    lowered, result, _, cast, rfl, rfl⟩ := success
  obtain ⟨leadsPlace, accesses⟩ := access_sound occurring sound knownPlace found indices
  have fills := leadsPlace.sound.fills resolved
  obtain ⟨leadsValue, computes⟩ :=
    expr_sound occurring stored knownValue fills.sound lowered
  obtain ⟨leadsCast, brings, _⟩ :=
    leadsValue.sound.casts (Lowering.lt_of_computes computes) cast
  rw [Lowering.typeOf_of_computes computes] at brings
  have leads := fills.trans (leadsValue.trans leadsCast)
  refine ⟨leaf, nodes, result, rfl, leadsPlace.trans leads, accesses.mono leads.grows, node,
    computes.mono leadsCast.grows stored, ?_⟩
  exact brings

/-- A declared variable, whose type may only follow from the assigned value,
gets a node of its type. -/
theorem assign_yields {site? : Option Location} {var : Variable} {assigned : Expr} {op : Op}
    (success : (assign context site? var assigned).Yields state op after) :
    ∃ declared node first type slots result,
      state.varTypes[var.identifier.id]? = some declared ∧
        (expr context assigned).Yields state node first ∧
        type = (if declared = .unknown then first.typeOf node else declared) ∧
        first.slots.resolve (.identifier var) type = .ok slots ∧
        (castTo node type).Yields
          { first with
            varTypes :=
              if declared = .unknown then first.varTypes.insert var.identifier.id type
              else first.varTypes
            slots := slots } result after ∧
        op = .assign var.identifier.id result := by
  simp only [assign, yields_bind, yields_varType?] at success
  obtain ⟨_, _, ⟨rfl, rfl⟩, success⟩ := success
  cases found : state.varTypes[var.identifier.id]? with
  | none => simp [found] at success
  | some declared =>
      simp only [found, yields_bind] at success
      obtain ⟨node, first, lowered, success⟩ := success
      refine ⟨declared, node, first,
        if declared = .unknown then first.typeOf node else declared, ?_⟩
      by_cases unknown : declared = .unknown
      · simp only [unknown, if_true, yields_bind, yields_typeOf, yields_declare, yields_resolve,
          yields_pure] at success ⊢
        obtain ⟨_, _, ⟨rfl, rfl⟩, _, _, rfl, _, _, ⟨slots, resolved, rfl⟩, result, _, cast, rfl,
          rfl⟩ := success
        exact ⟨slots, result, trivial, lowered, trivial, resolved, cast, rfl⟩
      · simp only [unknown, if_false, yields_bind, yields_resolve, yields_pure] at success ⊢
        obtain ⟨_, _, ⟨rfl, rfl⟩, _, _, ⟨slots, resolved, rfl⟩, result, _, cast, rfl,
          rfl⟩ := success
        exact ⟨slots, result, trivial, lowered, trivial, resolved, cast, rfl⟩

/-- A variable settles at its type when it is assigned to. -/
theorem assign_sound (occurring : Occurring occurs)
    (sound : state.Sound occurs context.leafOf? types) {site? : Option Location} {var : Variable}
    {assigned : Expr} {op : Op} (knownVar : occurs (.identifier var))
    (knownValue : occurs assigned)
    (success : (assign context site? var assigned).Yields state op after) :
    ∃ result, op = .assign var.identifier.id result ∧
      Leads occurs context.leafOf? types state
        (types.assign context.leafOf? var.identifier.id assigned) after ∧
      (after.code (types.assign context.leafOf? var.identifier.id assigned)
        context.leafOf?).Assigns var.identifier.id assigned result ∧
      (types.Agrees → (types.assign context.leafOf? var.identifier.id assigned).Agrees) := by
  obtain ⟨declared, node, first, type, slots, result, found, lowered, inferred, resolved, cast,
    rfl⟩ := assign_yields success
  obtain ⟨leadsValue, computes⟩ := expr_sound occurring assigned knownValue sound lowered
  have known : (types.read assigned).declared var.identifier.id = declared := by
    rw [types.read_declared, ← sound.declared, found, Option.getD_some]
  rw [Lowering.typeOf_of_computes computes] at inferred
  have assigns : types.assign context.leafOf? var.identifier.id assigned =
      ((types.read assigned).declare var.identifier.id type).settle var.identifier.id := by
    rw [VariableTypes.assign, known, ← inferred]
  -- An assignment declares a variable again only if its type was open.
  have declares : Leads occurs context.leafOf? (types.read assigned) first
      ((types.read assigned).declare var.identifier.id type)
      { first with
        varTypes :=
          if declared = .unknown then first.varTypes.insert var.identifier.id type
          else first.varTypes } := by
    by_cases unknown : declared = .unknown
    · simpa only [unknown, if_true] using leadsValue.sound.declares var.identifier.id type
    · rw [if_neg unknown] at inferred ⊢
      rw [inferred, ← known, VariableTypes.declare_self]
      exact .refl leadsValue.sound
  obtain ⟨settles, settled⟩ :=
    declares.sound.settle occurring slots knownVar
      (by simpa [VariableTypes.declare] using resolved)
  have computesBefore := computes.mono (declares.trans settles).grows assigned
  obtain ⟨leadsCast, brings, _⟩ :=
    settles.sound.casts (Lowering.lt_of_computes computesBefore) cast
  have leads := declares.trans (settles.trans leadsCast)
  have value := computes.typeOf_eq leads.grows assigned
  have ofVariable : (((types.read assigned).declare var.identifier.id type).settle
      var.identifier.id).settled var.identifier.id = type := by
    simpa [VariableTypes.declare] using settled
  rw [assigns]
  refine ⟨result, rfl, leadsValue.trans leads, ⟨node, computes.mono leads.grows assigned, ?_⟩,
    fun agrees => (agrees.read assigned).redeclare ofVariable⟩
  rw [Lowering.typeOf_of_computes computesBefore] at brings
  by_cases untyped : type = .unknown
  · have undeclared : declared = .unknown := by
      by_contra different
      rw [if_neg different] at inferred
      exact different (inferred.symm.trans untyped)
    rw [if_pos undeclared] at inferred
    have same := value.trans inferred.symm
    refine .inl ⟨same.trans untyped, ?_⟩
    rcases brings with ⟨_, kept⟩ | ⟨different, _⟩
    · exact kept
    · exact absurd same different
  · refine .inr ⟨?_, ?_⟩
    · simpa only [Lowering.code, VariableTypes.typing, ofVariable] using untyped
    · simpa only [Lowering.code, VariableTypes.typing, ofVariable] using brings

theorem declareLoopVariables_cons (var : Variable) (rest : List Variable) :
    declareLoopVariables (var :: rest) =
      (do
        declare var.identifier.id .i32
        resolve (.identifier var) .i32
        declareLoopVariables rest) := by
  simp [declareLoopVariables]

/-- The variables of a loop settle at `i32`. -/
theorem declareLoopVariables_sound (occurring : Occurring occurs) (vars : List Variable)
    {types : VariableTypes} {state : Lowering} {result : Unit}
    (known : ∀ var ∈ vars, occurs (.identifier var))
    (sound : state.Sound occurs context.leafOf? types)
    (success : (declareLoopVariables vars).Yields state result after) :
    Leads occurs context.leafOf? types state (types.count vars) after ∧
      (∀ var ∈ vars, (types.count vars).settled var.identifier.id = .i32) ∧
      (types.Agrees → (types.count vars).Agrees) := by
  induction vars generalizing types state with
  | nil =>
      obtain ⟨rfl, rfl⟩ := yields_pure.mp success
      exact ⟨.refl sound, by simp, id⟩
  | cons var rest hypothesis =>
      rw [declareLoopVariables_cons] at success
      simp only [yields_bind, yields_declare, yields_resolve] at success
      obtain ⟨_, _, rfl, _, _, ⟨slots, resolved, rfl⟩, success⟩ := success
      have declares := sound.declares var.identifier.id .i32
      obtain ⟨settles, settled⟩ :=
        declares.sound.settle occurring slots (known var (by simp))
          (by simpa [VariableTypes.declare] using resolved)
      obtain ⟨leads, counted, agree⟩ :=
        hypothesis (fun other member => known other (by simp [member])) settles.sound success
      have i32 : ((types.declare var.identifier.id .i32).settle
          var.identifier.id).settled var.identifier.id = .i32 := by
        simpa [VariableTypes.declare] using settled
      refine ⟨declares.trans (settles.trans leads), ?_, fun agrees => agree (agrees.redeclare i32)⟩
      intro other member
      rcases List.mem_cons.mp member with rfl | member
      · have kept := leads.grows.ofVariable other.identifier.id
          (by simp [Lowering.code, VariableTypes.typing, i32])
        exact kept.trans i32
      · exact counted other member

theorem print_yields {site? : Option Location} {printed label : HostValue} {op : Op}
    (success : (stmt context (.print site? printed label)).Yields state op after) :
    ∃ node, (value context printed).Yields state node after ∧ op = .print node label := by
  rw [stmt] at success
  split at success
  · simp at success
  · simp only [yields_bind, yields_pure] at success
    obtain ⟨node, _, lowered, rfl, rfl⟩ := success
    exact ⟨node, lowered, rfl⟩

mutual

/-- The operation that a statement is lowered to performs it.  If variables are
declared without types, what is declared of them goes on to agree with what
they have settled at. -/
theorem stmt_sound (occurring : Occurring occurs) (statement : Stmt) {types : VariableTypes}
    {state after : Lowering} {op : Op} (known : ∀ root ∈ statement.roots, occurs root)
    (sound : state.Sound occurs context.leafOf? types)
    (success : (stmt context statement).Yields state op after) :
    Leads occurs context.leafOf? types state (.stmt context.leafOf? types statement) after ∧
      (after.code (.stmt context.leafOf? types statement) context.leafOf?).Performs
        statement op ∧
      (statement.Plain → types.Agrees →
        (VariableTypes.stmt context.leafOf? types statement).Agrees) := by
  cases statement with
  | alloca site? identifier type =>
      simp only [stmt, yields_bind, yields_declare, yields_pure] at success
      obtain ⟨_, _, rfl, rfl, rfl⟩ := success
      refine ⟨sound.declares identifier.id type, .alloca, ?_⟩
      rintro rfl agrees
      exact agrees.undeclare identifier.id
  | assign site? target value =>
      have knownValue := known value (by simp [Stmt.roots])
      have knownTarget := known target (by simp [Stmt.roots])
      cases target with
      | identifier var =>
          rw [stmt] at success
          obtain ⟨result, rfl, leads, assigns, agree⟩ :=
            assign_sound occurring sound knownTarget knownValue success
          exact ⟨leads, .assign assigns, fun _ => agree⟩
      | element key field indices =>
          rw [stmt] at success
          obtain ⟨leaf, nodes, result, rfl, leads, stores⟩ :=
            store_sound occurring sound ⟨key, field, indices⟩ knownTarget knownValue
              success
          exact ⟨leads, .assignElement stores, fun _ agrees => (agrees.readAll indices).read value⟩
      | _ => simp [stmt] at success
  | load site? place =>
      simp only [stmt, yields_bind, yields_pure] at success
      obtain ⟨leaf, first, found, nodes, second, lowered, rfl, rfl⟩ := success
      obtain ⟨leads, accesses⟩ :=
        access_sound occurring sound (known _ (by simp [Stmt.roots])) found lowered
      exact ⟨leads, .load accesses, fun _ agrees => agrees.readAll place.indices⟩
  | store site? place value =>
      rw [stmt] at success
      obtain ⟨leaf, nodes, result, rfl, leads, stores⟩ :=
        store_sound occurring sound place (known _ (by simp [Stmt.roots]))
          (known _ (by simp [Stmt.roots])) success
      exact ⟨leads, .store stores, fun _ agrees => (agrees.readAll place.indices).read value⟩
  | print site? printed label =>
      obtain ⟨node, lowered, rfl⟩ := print_yields success
      obtain ⟨expr, rfl, leads, computes⟩ :=
        value_sound occurring sound (fun root member => known root (by simp [Stmt.roots, member]))
          lowered
      exact ⟨leads, .print computes, fun _ agrees => agrees.readValue _⟩
  | branch site? condition onTrue onFalse =>
      simp only [stmt, yields_bind, yields_pure] at success
      obtain ⟨node, first, lowered, trueOps, second, lowersTrue, falseOps, third, lowersFalse, rfl,
        rfl⟩ := success
      obtain ⟨expr, rfl, leads, computes⟩ :=
        value_sound occurring sound (fun root member => known root (by simp [Stmt.roots, member]))
          lowered
      obtain ⟨leadsTrue, performsTrue, agreeTrue⟩ :=
        block_sound occurring onTrue (fun root member => known root (by simp [Stmt.roots, member]))
          leads.sound lowersTrue
      obtain ⟨leadsFalse, performsFalse, agreeFalse⟩ :=
        block_sound occurring onFalse
          (fun root member => known root (by simp [Stmt.roots, member])) leadsTrue.sound lowersFalse
      rw [VariableTypes.stmt]
      refine ⟨leads.trans (leadsTrue.trans leadsFalse),
        .branch (computes.mono (leadsTrue.trans leadsFalse).grows expr)
          (performsTrue.mono leadsFalse.grows onTrue) performsFalse, ?_⟩
      rintro ⟨plainTrue, plainFalse⟩ agrees
      exact agreeFalse plainFalse (agreeTrue plainTrue (agrees.readValue _))
  | loop site? vars source schedule body =>
      cases source with
      | range first last =>
          simp only [stmt, yields_bind, yields_checkBound, yields_pure] at success
          obtain ⟨firstNode, between, lowersFirst, lastNode, second, lowersLast, _, _,
            ⟨integralFirst, rfl⟩, _, _, ⟨integralLast, rfl⟩, _, third, declares, ops, _, lowers,
            rfl, rfl⟩ := success
          obtain ⟨leadsFirst, computesFirst⟩ :=
            expr_sound occurring first (known _ (by simp [Stmt.roots, LoopSource.roots])) sound
              lowersFirst
          obtain ⟨leadsLast, computesLast⟩ :=
            expr_sound occurring last (known _ (by simp [Stmt.roots, LoopSource.roots]))
              leadsFirst.sound lowersLast
          have computesFirst := computesFirst.mono leadsLast.grows first
          obtain ⟨leadsVars, counted, agreeVars⟩ :=
            declareLoopVariables_sound occurring vars
              (fun var member => known _ (by simp [Stmt.roots, member])) leadsLast.sound declares
          obtain ⟨leadsBody, performs, agreeBody⟩ :=
            block_sound occurring body (fun root member => known root (by simp [Stmt.roots, member]))
              leadsVars.sound lowers
          rw [Lowering.typeOf_of_computes computesFirst] at integralFirst
          rw [Lowering.typeOf_of_computes computesLast] at integralLast
          have leads := leadsVars.trans leadsBody
          rw [VariableTypes.stmt, VariableTypes.readSource]
          refine ⟨leadsFirst.trans (leadsLast.trans leads), ?_, fun plain agrees =>
            agreeBody plain.2 (agreeVars ((agrees.read first).read last))⟩
          refine .range (computesFirst.mono leads.grows first)
            (computesLast.mono leads.grows last) ?_ (Code.counted_mono leadsBody.grows counted)
            performs
          rw [computesFirst.typeOf_eq leads.grows, computesLast.typeOf_eq leads.grows]
          exact ⟨integralFirst, integralLast⟩
      | elements field =>
          simp only [stmt, yields_bind, yields_checkArity, yields_pure] at success
          obtain ⟨leaf, first, found, _, _, ⟨arity, rfl⟩, _, second, declares, ops, _, lowers, rfl,
            rfl⟩ := success
          obtain ⟨leadsLeaf, placed, touched⟩ :=
            leafOf_sound sound (known _ (by simp [Stmt.roots, LoopSource.roots])) found
          obtain ⟨leadsVars, counted, agreeVars⟩ :=
            declareLoopVariables_sound occurring vars
              (fun var member => known _ (by simp [Stmt.roots, member])) leadsLeaf.sound declares
          obtain ⟨leadsBody, performs, agreeBody⟩ :=
            block_sound occurring body (fun root member => known root (by simp [Stmt.roots, member]))
              leadsVars.sound lowers
          have leads := leadsVars.trans leadsBody
          exact ⟨leadsLeaf.trans leads, .elements placed (leads.grows.touched _ touched) arity
            (Code.counted_mono leadsBody.grows counted) performs,
            fun plain agrees => agreeBody plain (agreeVars agrees)⟩
  | bare site? => simp [stmt] at success
  | endless => simp [stmt] at success

/-- The operations that a block is lowered to perform it. -/
theorem block_sound (occurring : Occurring occurs) (body : List Stmt) {types : VariableTypes}
    {state after : Lowering} {ops : List Op} (known : ∀ root ∈ Stmt.blockRoots body, occurs root)
    (sound : state.Sound occurs context.leafOf? types)
    (success : (block context body).Yields state ops after) :
    Leads occurs context.leafOf? types state (.block context.leafOf? types body) after ∧
      (after.code (.block context.leafOf? types body) context.leafOf?).PerformsAll
        body ops ∧
      (Stmt.BlockPlain body → types.Agrees →
        (VariableTypes.block context.leafOf? types body).Agrees) := by
  cases body with
  | nil =>
      rw [block] at success
      obtain ⟨rfl, rfl⟩ := yields_pure.mp success
      exact ⟨.refl sound, .nil, fun _ => id⟩
  | cons statement rest =>
      simp only [block, yields_bind, yields_pure] at success
      obtain ⟨op, first, lowered, ops, second, restLowered, rfl, rfl⟩ := success
      obtain ⟨leads, performs, agree⟩ :=
        stmt_sound occurring statement
          (fun root member => known root (by simp [Stmt.blockRoots, member])) sound lowered
      obtain ⟨leadsRest, performsRest, agreeRest⟩ :=
        block_sound occurring rest
          (fun root member => known root (by simp [Stmt.blockRoots, member])) leads.sound
          restLowered
      rw [VariableTypes.block]
      exact ⟨leads.trans leadsRest, .cons (performs.mono leadsRest.grows statement) performsRest,
        fun plain agrees => agreeRest plain.2 (agree plain.1 agrees)⟩

end

end Lower

end FieldKernel
