import FieldKernel.Proofs.Lowering.Soundness

/-!
# Lowering expressions

Lowering an expression leads from sound states to sound states, and the node
it yields computes the expression.
-/

namespace FieldKernel

mutual

/-- The variables in an expression with a node have settled, so that using
them again changes nothing. -/
theorem Code.Computes.read_eq {code : Code} {types : VariableTypes}
    {leafOf? : Field → Option Node} (typing : code.typing = types.typing leafOf?)
    (expr : Expr) {id : Nat} (computes : code.Computes expr id) :
    types.read expr = types := by
  cases expr with
  | literal | argument => rfl
  | identifier var =>
      cases computes with
      | identifier settled _ =>
          rw [typing] at settled
          exact if_neg settled
  | binary key op left right =>
      cases computes with
      | binary _ _ computesLeft computesRight _ _ _ =>
          rw [VariableTypes.read, computesLeft.read_eq typing left,
            computesRight.read_eq typing right]
  | unary key op operand =>
      cases computes with
      | unary _ _ computes _ _ _ => exact computes.read_eq typing operand
  | cast key operand type =>
      cases computes with
      | cast computes _ => exact computes.read_eq typing operand
  | field field => rfl
  | element key field indices =>
      cases computes with
      | element _ _ _ computes _ => exact computes.read_eq typing indices
  | load key elementKey field indices =>
      cases computes with
      | load _ _ _ computes _ => exact computes.read_eq typing indices

theorem Code.ComputesIndex.read_eq {code : Code} {types : VariableTypes}
    {leafOf? : Field → Option Node} (typing : code.typing = types.typing leafOf?)
    (indices : List Expr) {nodes : List Nat} (computes : code.ComputesIndex indices nodes) :
    types.readAll indices = types := by
  cases indices with
  | nil => rfl
  | cons index rest =>
      cases computes with
      | cons computes _ later =>
          rw [VariableTypes.readAll, computes.read_eq typing index, later.read_eq typing rest]

end

namespace Lower

open Lowering (Sound Leads)

variable {occurs : Expr → Prop} {context : LoweringContext} {types later : VariableTypes}
  {state after : Lowering}

/-- The look-up of a leaf records it as accessed. -/
theorem leafOf_sound (sound : state.Sound occurs context.leafOf? types) {field : Field}
    {site? : Option Location} {leaf : Node} (known : occurs (.field field))
    (success : (leafOf context field site?).Yields state leaf after) :
    Leads occurs context.leafOf? types state types after ∧
      context.leafOf? field = some leaf ∧ leaf.id ∈ after.leaves := by
  obtain ⟨tree, found, _, rfl⟩ := yields_leafOf.mp success
  have placed : context.leafOf? field = some leaf := by
    simp [LoweringContext.leafOf?, found]
  exact ⟨sound.touches known placed, placed, by simp⟩

/-- An expression is lowered once: later it is found as it was kept. -/
theorem once_sound (occurring : Occurring occurs)
    (sound : state.Sound occurs context.leafOf? types) {expr : Expr} {lower : Lower Nat}
    {result : Nat} (known : occurs expr) (success : (once expr lower).Yields state result after)
    (lowers : ∀ between, lower.Yields state result between →
      Leads occurs context.leafOf? types state (types.read expr) between ∧
        (between.code (types.read expr) context.leafOf?).Computes expr result) :
    Leads occurs context.leafOf? types state (types.read expr) after ∧
      (after.code (types.read expr) context.leafOf?).Computes expr result := by
  rcases yields_once.mp success with ⟨cached, rfl⟩ | ⟨_, between, slots, lowered, resolved, rfl⟩
  · have computes := sound.computes known cached
    rw [computes.read_eq rfl]
    exact ⟨.refl sound, computes⟩
  · obtain ⟨leads, computes⟩ := lowers between lowered
    have fills := leads.sound.fills resolved
    exact ⟨leads.trans (fills.trans (fills.sound.remember occurring known computes)), computes⟩

/-- A variable settles when it is lowered. -/
theorem identifier_sound (occurring : Occurring occurs)
    (sound : state.Sound occurs context.leafOf? types) {var : Variable} {result : Nat}
    (known : occurs (.identifier var))
    (success : (expr context (.identifier var)).Yields state result after) :
    Leads occurs context.leafOf? types state (types.read (.identifier var)) after ∧
      (after.code (types.read (.identifier var)) context.leafOf?).Computes
        (.identifier var) result := by
  rw [expr] at success
  rcases yields_once.mp success with ⟨cached, rfl⟩ | ⟨_, between, slots, lowered, resolved, rfl⟩
  · have computes := sound.computes known cached
    rw [computes.read_eq rfl]
    exact ⟨.refl sound, computes⟩
  · simp only [yields_bind, yields_varType?] at lowered
    obtain ⟨_, _, ⟨rfl, rfl⟩, lowered⟩ := lowered
    cases found : state.varTypes[var.identifier.id]? with
    | none => simp [found] at lowered
    | some type =>
        have declared : type = types.declared var.identifier.id := by
          rw [← sound.declared, found, Option.getD_some]
        by_cases unknown : type = .unknown
        · simp [found, unknown] at lowered
        · simp only [found, unknown, if_false, yields_add] at lowered
          obtain ⟨rfl, rfl⟩ := lowered
          rw [typeOf_pushed, declared] at resolved
          -- The slot is filled after the node was pushed, but only a variable that has settled
          -- gives its node a type.
          obtain ⟨settles, settled⟩ := sound.settle occurring slots known resolved
          have ofVariable : ((types.settle var.identifier.id).typing context.leafOf?).ofVariable
              var.identifier.id = type := settled.trans declared.symm
          have pushes := settles.sound.pushed (.var var.identifier.id) type
            (by simp [NodeOp.inputs]) (.var ofVariable unknown)
          have computes :
              ((pushed { state with slots := slots } (.var var.identifier.id) type).code
                (types.settle var.identifier.id) context.leafOf?).Computes
                (.identifier var) state.nodes.size := by
            refine .identifier ?_ ?_
            · simpa only [Lowering.code, ofVariable] using unknown
            · simpa only [Lowering.code, ofVariable] using
                Lowering.found_pushed { state with slots := slots } _ _
          have kept := pushes.sound.remember occurring known computes
          exact ⟨(settles.trans pushes).trans kept, computes⟩

/-- The nodes of a binary operation are brought to a common type. -/
theorem binary_sound (sound : state.Sound occurs context.leafOf? types)
    {site? : Option Location} {text : Except HostFault String}
    {key leftNode rightNode result : Nat} {op : BinaryOp} {left right : Expr}
    (computesLeft : (state.code types context.leafOf?).Computes left leftNode)
    (computesRight : (state.code types context.leafOf?).Computes right rightNode)
    (success : (binary site? text op leftNode rightNode).Yields state result after) :
    Leads occurs context.leafOf? types state types after ∧
      (after.code types context.leafOf?).Computes (.binary key op left right) result := by
  obtain ⟨integral, leftBrought, rightBrought, first, second, leftCast, rightCast, rfl, rfl⟩ :=
    binary_yields success
  have leftType := Lowering.typeOf_of_computes computesLeft
  have rightType := Lowering.typeOf_of_computes computesRight
  rw [leftType, rightType] at integral leftCast rightCast ⊢
  obtain ⟨leadsLeft, bringsLeft, leftInside⟩ :=
    sound.casts (Lowering.lt_of_computes computesLeft) leftCast
  have computesRight' := computesRight.mono leadsLeft.grows right
  obtain ⟨leadsRight, bringsRight, rightInside⟩ :=
    leadsLeft.sound.casts (Lowering.lt_of_computes computesRight') rightCast
  rw [leftType] at bringsLeft
  rw [Lowering.typeOf_of_computes computesRight'] at bringsRight
  have pushes := leadsRight.sound.pushed (.binary op leftBrought rightBrought)
    (op.computedType (BinaryOp.operandType ((types.typing context.leafOf?).typeOf left)
      ((types.typing context.leafOf?).typeOf right)))
    (by simpa [NodeOp.inputs] using ⟨leadsRight.lt leftInside, rightInside⟩)
    (.binary ((bringsLeft.has (computesLeft.has.mono leadsLeft.grows)).mono leadsRight.grows)
      (bringsRight.has (computesRight'.has.mono leadsRight.grows)))
  have leads := leadsLeft.trans (leadsRight.trans pushes)
  exact ⟨leads, .binary rfl integral (computesLeft.mono leads.grows left)
    (computesRight.mono leads.grows right)
    (bringsLeft.mono (leadsRight.trans pushes).grows) (bringsRight.mono pushes.grows)
    (Lowering.found_pushed ..)⟩

/-- The node of a unary operation is brought to the type the operator wants. -/
theorem unary_sound (sound : state.Sound occurs context.leafOf? types)
    {site? : Option Location} {text : Except HostFault String} {key node result : Nat}
    {op : UnaryOp} {operand : Expr}
    (computes : (state.code types context.leafOf?).Computes operand node)
    (success : (unary site? text op node).Yields state result after) :
    Leads occurs context.leafOf? types state types after ∧
      (after.code types context.leafOf?).Computes (.unary key op operand) result := by
  obtain ⟨integral, first, second, widening, floating, widens, floats, rfl, rfl⟩ :=
    unary_yields success
  have type := Lowering.typeOf_of_computes computes
  rw [type] at integral widens floats ⊢
  have firstType := typeOf_of_castTo widens
  obtain ⟨leadsWide, bringsWide, wideInside⟩ :=
    sound.casts (Lowering.lt_of_computes computes) widens
  obtain ⟨leadsFloat, bringsFloat, floatInside⟩ := leadsWide.sound.casts wideInside floats
  rw [type] at bringsWide
  rw [firstType] at bringsFloat
  have pushes := leadsFloat.sound.pushed (.unary op second)
    (op.computedType (op.floated (op.widened ((types.typing context.leafOf?).typeOf operand))))
    (by simpa [NodeOp.inputs] using floatInside)
    (.unary (bringsFloat.has ((bringsWide.has (computes.has.mono leadsWide.grows)).mono
      leadsFloat.grows)))
  have leads := leadsWide.trans (leadsFloat.trans pushes)
  exact ⟨leads, .unary rfl integral (computes.mono leads.grows operand)
    (bringsWide.mono (leadsFloat.trans pushes).grows) (bringsFloat.mono pushes.grows)
    (Lowering.found_pushed ..)⟩

mutual

/-- The node that an expression is lowered to computes it. -/
theorem expr_sound (occurring : Occurring occurs) (expr : Expr) {types : VariableTypes}
    {state after : Lowering} {result : Nat} (known : occurs expr)
    (sound : state.Sound occurs context.leafOf? types)
    (success : (Lower.expr context expr).Yields state result after) :
    Leads occurs context.leafOf? types state (types.read expr) after ∧
      (after.code (types.read expr) context.leafOf?).Computes expr result := by
  cases expr with
  | identifier var => exact identifier_sound occurring sound known success
  | literal key value type =>
      rw [Lower.expr] at success
      refine once_sound occurring sound known success ?_
      rintro between lowered
      obtain ⟨rfl, rfl⟩ := yields_add.mp lowered
      exact ⟨sound.pushed _ type (by simp [NodeOp.inputs]) .const,
        .literal (Lowering.found_pushed ..)⟩
  | argument key position type =>
      rw [Lower.expr] at success
      refine once_sound occurring sound known success ?_
      rintro between lowered
      split at lowered
      · simp at lowered
      · obtain ⟨rfl, rfl⟩ := yields_add.mp lowered
        exact ⟨sound.pushed _ type (by simp [NodeOp.inputs]) (.argument known),
          .argument (Lowering.found_pushed ..)⟩
  | binary key op left right =>
      rw [Lower.expr] at success
      refine once_sound occurring sound known success ?_
      intro between lowered
      simp only [yields_bind] at lowered
      obtain ⟨leftNode, first, leftLowered, rightNode, second, rightLowered, lowered⟩ := lowered
      obtain ⟨leadsLeft, computesLeft⟩ :=
        expr_sound occurring left (occurring.operand known (by simp [Expr.operands])) sound
          leftLowered
      obtain ⟨leadsRight, computesRight⟩ :=
        expr_sound occurring right (occurring.operand known (by simp [Expr.operands]))
          leadsLeft.sound rightLowered
      obtain ⟨leads, computes⟩ :=
        binary_sound leadsRight.sound (computesLeft.mono leadsRight.grows left) computesRight
          lowered
      exact ⟨leadsLeft.trans (leadsRight.trans leads), computes⟩
  | unary key op operand =>
      rw [Lower.expr] at success
      refine once_sound occurring sound known success ?_
      intro between lowered
      simp only [yields_bind] at lowered
      obtain ⟨node, first, operandLowered, lowered⟩ := lowered
      obtain ⟨leadsOperand, computes⟩ :=
        expr_sound occurring operand (occurring.operand known (by simp [Expr.operands])) sound
          operandLowered
      obtain ⟨leads, computes⟩ := unary_sound leadsOperand.sound computes lowered
      exact ⟨leadsOperand.trans leads, computes⟩
  | cast key operand type =>
      rw [Lower.expr] at success
      refine once_sound occurring sound known success ?_
      intro between lowered
      simp only [yields_bind] at lowered
      obtain ⟨node, first, operandLowered, lowered⟩ := lowered
      obtain ⟨rfl, rfl⟩ := yields_add.mp lowered
      obtain ⟨leads, computes⟩ :=
        expr_sound occurring operand (occurring.operand known (by simp [Expr.operands])) sound
          operandLowered
      have pushes := leads.sound.pushed (.cast node) type
        (by simpa [NodeOp.inputs] using Lowering.lt_of_computes computes) (.cast computes.has)
      exact ⟨leads.trans pushes,
        .cast (computes.mono pushes.grows operand) (Lowering.found_pushed ..)⟩
  | field field =>
      rw [Lower.expr] at success
      refine once_sound occurring sound known success ?_
      intro between lowered
      exact absurd lowered yields_throw
  | element key field indices =>
      rw [Lower.expr] at success
      refine once_sound occurring sound known success ?_
      intro between lowered
      simp only [yields_bind, yields_leafAt] at lowered
      obtain ⟨leaf, first, ⟨found, arity⟩, nodes, second, indicesLowered, lowered⟩ := lowered
      obtain ⟨rfl, rfl⟩ := yields_add.mp lowered
      have knownField := occurring.operand known (List.mem_cons_self ..)
      obtain ⟨leadsLeaf, placed, touched⟩ := leafOf_sound sound knownField found
      obtain ⟨leadsIndex, computes⟩ :=
        indexNodes_sound occurring indices
          (fun index member => occurring.operand known (by simp [Expr.operands, member]))
          leadsLeaf.sound indicesLowered
      have pushes := leadsIndex.sound.pushed (.load leaf.id nodes) leaf.type
        (by simpa [NodeOp.inputs] using Lowering.lt_of_computesIndex computes)
        (.load knownField (by rw [leadsIndex.grows.leafOf?]; exact placed) (computes.indexes arity))
      exact ⟨leadsLeaf.trans (leadsIndex.trans pushes),
        .element placed ((leadsIndex.trans pushes).grows.touched _ touched) arity
          (computes.mono pushes.grows indices) (Lowering.found_pushed ..)⟩
  | load key elementKey field indices =>
      rw [Lower.expr] at success
      refine once_sound occurring sound known success ?_
      intro between lowered
      have element : occurs (.element elementKey field indices) :=
        occurring.operand known (by simp [Expr.operands])
      simp only [yields_bind, yields_leafAt] at lowered
      obtain ⟨leaf, first, ⟨found, arity⟩, nodes, second, indicesLowered, lowered⟩ := lowered
      obtain ⟨rfl, rfl⟩ := yields_add.mp lowered
      have knownField := occurring.operand element (List.mem_cons_self ..)
      obtain ⟨leadsLeaf, placed, touched⟩ := leafOf_sound sound knownField found
      obtain ⟨leadsIndex, computes⟩ :=
        indexNodes_sound occurring indices
          (fun index member => occurring.operand element (by simp [Expr.operands, member]))
          leadsLeaf.sound indicesLowered
      have pushes := leadsIndex.sound.pushed (.load leaf.id nodes) leaf.type
        (by simpa [NodeOp.inputs] using Lowering.lt_of_computesIndex computes)
        (.load knownField (by rw [leadsIndex.grows.leafOf?]; exact placed) (computes.indexes arity))
      exact ⟨leadsLeaf.trans (leadsIndex.trans pushes),
        .load placed ((leadsIndex.trans pushes).grows.touched _ touched) arity
          (computes.mono pushes.grows indices) (Lowering.found_pushed ..)⟩

/-- The nodes that indices are lowered to compute them. -/
theorem indexNodes_sound (occurring : Occurring occurs) (indices : List Expr)
    {types : VariableTypes} {state after : Lowering} {result : List Nat}
    (known : ∀ index ∈ indices, occurs index)
    (sound : state.Sound occurs context.leafOf? types)
    (success : (indexNodes context indices).Yields state result after) :
    Leads occurs context.leafOf? types state (types.readAll indices) after ∧
      (after.code (types.readAll indices) context.leafOf?).ComputesIndex indices result := by
  cases indices with
  | nil =>
      rw [indexNodes] at success
      obtain ⟨rfl, rfl⟩ := yields_pure.mp success
      exact ⟨.refl sound, .nil⟩
  | cons index rest =>
      rw [indexNodes] at success
      simp only [yields_bind, yields_checkIndex, yields_pure] at success
      obtain ⟨node, first, lowered, _, _, ⟨integral, rfl⟩, nodes, _, restLowered, rfl, rfl⟩ :=
        success
      obtain ⟨leads, computes⟩ :=
        expr_sound occurring index (known index (by simp)) sound lowered
      obtain ⟨leadsRest, computesRest⟩ :=
        indexNodes_sound occurring rest (fun other member => known other (by simp [member]))
          leads.sound restLowered
      rw [Lowering.typeOf_of_computes computes] at integral
      have type := computes.typeOf_eq leadsRest.grows index
      rw [VariableTypes.readAll]
      exact ⟨leads.trans leadsRest,
        .cons (computes.mono leadsRest.grows index) (by rw [type]; exact integral) computesRest⟩

end

end Lower

end FieldKernel
