import FieldKernel.Proofs.Execution.Refinement
import FieldKernel.Proofs.Execution.Values
import FieldKernel.Proofs.Lowering.Sharing
import FieldKernel.Proofs.Scalar.Division

/-!
# Division in lowered kernels

The operands of a quotient and of a remainder can be of different types.  They
are brought to the type that both operations are lowered to, which depends on
the types of the operands alone, and divided there.  So a quotient and a
remainder of the same operands belong together, though they are computed by two
nodes, and maybe by two operations.
-/

namespace FieldKernel

/-- The common type of two types without fractions is one of them. -/
theorem DataType.promote_eq {left right : DataType} (integral : left.isIntegral)
    (integralRight : right.isIntegral) :
    left.promote right = left ∨ left.promote right = right := by
  have whole {type : DataType} (integral : type.isIntegral) :
      type.isFloat = false ∧ type ≠ .unknown := by
    cases type <;> simp_all [isIntegral, isFloat]
  simp only [promote, whole integral, whole integralRight]
  grind

/-- Whole numbers and truth values are brought to whole numbers. -/
theorem BinaryOp.exists_operandType {left right : DataType} (integral : left.isIntegral)
    (integralRight : right.isIntegral) : ∃ type, operandType left right = .integer type := by
  have widens {type : DataType} (integral : type.isIntegral) :
      ∃ whole, (if type = .u1 then .i32 else type) = .integer whole := by
    cases type with
    | integer type => exact ⟨type, rfl⟩
    | u1 => exact ⟨_, rfl⟩
    | _ => cases integral
  rcases DataType.promote_eq integral integralRight with same | same
  · rw [operandType, same]
    exact widens integral
  · rw [operandType, same]
    exact widens integralRight

namespace Scalar

/-- A scalar of any type is brought to an integer type. -/
theorem exists_converted (value : Scalar) (type : IntType) :
    ∃ number fits, value.convert? (.integer type) = some (.int type number fits) := by
  have known : (value.convert? (.integer type)).isSome := isSome_convert? (by simp)
  obtain ⟨result, converted⟩ := Option.isSome_iff_exists.mp known
  have ofType := type_of_convert? converted
  cases result with
  | int other number fits =>
      cases ofType
      exact ⟨number, fits, converted⟩
  | _ => cases ofType

/-- A single scalar is brought from its type to an integer type by converting it. -/
theorem bring_ofScalar {value converted : Scalar} {type : IntType}
    (conversion : value.convert? (.integer type) = some converted) :
    Interpretation.bring value.type (.integer type) (.ofScalar value) =
      .ok (.ofScalar converted) := by
  have ofType := type_of_convert? conversion
  unfold Interpretation.bring
  split
  · next same =>
    cases value with
    | int other number fits =>
        cases same
        rw [convert?, ofInt_of_inRange fits, Option.some.injEq] at conversion
        rw [conversion]
    | _ => cases same
  · simp [Box.convert, Box.ofGrid, Box.ofScalar, Grid.mapM, convert, conversion, ofType]

/-- An operator that is made for two scalars is made for the zeros of their types. -/
theorem exists_sample {op : BinaryOp} {left right result : Scalar}
    (combined : binary? op left right = some result) :
    ∃ one other sample, zero? left.type = some one ∧ zero? right.type = some other ∧
      binary? op one other = some sample := by
  cases left with
  | bool =>
      cases right with
      | bool => cases op <;> first | exact ⟨_, _, _, rfl, rfl, rfl⟩ | cases combined
      | _ => cases combined
  | int type =>
      cases right with
      | int other =>
          obtain ⟨rfl, combined⟩ : type = other ∧ _ := by simpa [binary?] using combined
          cases op <;> exact ⟨_, _, _, rfl, rfl, if_pos rfl⟩
      | _ => cases combined
  | f32 =>
      cases right with
      | f32 => cases op <;> first | exact ⟨_, _, _, rfl, rfl, rfl⟩ | cases combined
      | _ => cases combined
  | f64 =>
      cases right with
      | f64 => cases op <;> first | exact ⟨_, _, _, rfl, rfl, rfl⟩ | cases combined
      | _ => cases combined

end Scalar

/-- On single scalars an operator does what it does on scalars. -/
theorem Box.binary?_ofScalar {op : BinaryOp} {left right result : Scalar}
    (combined : Scalar.binary? op left right = some result) :
    binary? op (.ofScalar left) (.ofScalar right) = some (.ofScalar result) := by
  obtain ⟨one, other, sample, zeroLeft, zeroRight, sampled⟩ := Scalar.exists_sample combined
  have ofSample := Scalar.binary?_gives op one other sample sampled
  have ofResult := Scalar.binary?_gives op left right result combined
  rw [Scalar.zero?_gives _ _ zeroLeft, ← ofResult] at ofSample
  simp [binary?, ofScalar, zeroLeft, zeroRight, sampled, ofSample, Grid.zip?, Grid.mapM, combined]

namespace Code

variable {code : Code} {context : RunContext}

mutual

/-- All nodes that compute an expression have one value. -/
theorem Computes.valueOf_unique (loaded : code.LoadedIn context) (run : Run) (expr : Expr)
    {id other : Nat} (computes : code.Computes expr id) (again : code.Computes expr other) :
    context.valueOf run id = context.valueOf run other := by
  cases computes with
  | literal found =>
      cases again with
      | literal foundAgain =>
          rw [loaded.valueOf_eq found, loaded.valueOf_eq foundAgain]
          rfl
  | identifier _ found =>
      cases again with
      | identifier _ foundAgain =>
          rw [loaded.valueOf_eq found, loaded.valueOf_eq foundAgain]
          rfl
  | argument found =>
      cases again with
      | argument foundAgain =>
          rw [loaded.valueOf_eq found, loaded.valueOf_eq foundAgain]
          rfl
  | binary common _ computesLeft computesRight bringsLeft bringsRight found =>
      cases again with
      | binary commonAgain _ againLeft againRight broughtLeft broughtRight foundAgain =>
          subst common commonAgain
          rw [loaded.valueOf_eq found, loaded.valueOf_eq foundAgain]
          simp only [RunContext.computed, bringsLeft.valueOf_eq loaded,
            broughtLeft.valueOf_eq loaded, bringsRight.valueOf_eq loaded,
            broughtRight.valueOf_eq loaded,
            computesLeft.valueOf_unique loaded run _ againLeft,
            computesRight.valueOf_unique loaded run _ againRight]
  | unary widened _ computes widens floats found =>
      cases again with
      | unary widenedAgain _ again widensAgain floatsAgain foundAgain =>
          subst widened widenedAgain
          rw [loaded.valueOf_eq found, loaded.valueOf_eq foundAgain]
          simp only [RunContext.computed, floats.valueOf_eq loaded, floatsAgain.valueOf_eq loaded,
            widens.valueOf_eq loaded, widensAgain.valueOf_eq loaded,
            computes.valueOf_unique loaded run _ again]
  | cast computes found =>
      cases again with
      | cast again foundAgain =>
          rw [loaded.valueOf_eq found, loaded.valueOf_eq foundAgain]
          simp only [RunContext.computed, computes.valueOf_unique loaded run _ again]
  | element placed _ _ computes found =>
      cases again with
      | element placedAgain _ _ again foundAgain =>
          cases placed.symm.trans placedAgain
          rw [loaded.valueOf_eq found, loaded.valueOf_eq foundAgain]
          simp only [RunContext.computed, computes.positions_unique loaded run _ again]
  | load placed _ _ computes found =>
      cases again with
      | load placedAgain _ _ again foundAgain =>
          cases placed.symm.trans placedAgain
          rw [loaded.valueOf_eq found, loaded.valueOf_eq foundAgain]
          simp only [RunContext.computed, computes.positions_unique loaded run _ again]

theorem ComputesIndex.positions_unique (loaded : code.LoadedIn context) (run : Run)
    (indices : List Expr) {nodes others : List Nat} (computes : code.ComputesIndex indices nodes)
    (again : code.ComputesIndex indices others) :
    nodes.mapM (fun node => do (← context.valueOf run node).index) =
      others.mapM (fun node => do (← context.valueOf run node).index) := by
  cases computes with
  | nil =>
      cases again
      rfl
  | cons computes _ later =>
      cases again with
      | cons again _ laterAgain =>
          rw [List.mapM_cons, List.mapM_cons, computes.valueOf_unique loaded run _ again,
            later.positions_unique loaded run _ laterAgain]

end

/-- In a run an expression gives a value: it has a node, and a node that computes it
evaluates to the value. -/
structure Gives (code : Code) (context : RunContext) (run : Run) (expr : Expr) (value : Box) :
    Prop where
  computed : ∃ id, code.Computes expr id
  evaluates {id : Nat} (computes : code.Computes expr id) :
    Execute.evaluate (Execute.node context run id) = pure value

/-- What a node evaluates to is its value. -/
theorem LoadedIn.evaluate_eq_iff (loaded : code.LoadedIn context) {id : Nat}
    (inside : id < code.nodes.size) (run : Run) (value : Box) :
    Execute.evaluate (Execute.node context run id) = pure value ↔
      context.valueOf run id = .ok value := by
  rw [(loaded.agrees inside run).evaluate context.remembers_empty]
  constructor
  · intro same
    have outcomes := congrArg (fun attempt => (attempt.run.run run).1) same
    exact outcomes
  · intro same
    rw [same]
    rfl

/-- It is enough that one of the nodes that compute an expression evaluates to a value. -/
theorem LoadedIn.gives_iff (loaded : code.LoadedIn context) {run : Run} {expr : Expr} {id : Nat}
    (computes : code.Computes expr id) {value : Box} :
    code.Gives context run expr value ↔ context.valueOf run id = .ok value := by
  constructor
  · intro gives
    exact (loaded.evaluate_eq_iff computes.lt run value).mp (gives.evaluates computes)
  · intro same
    refine ⟨⟨id, computes⟩, fun {other} again => ?_⟩
    rw [loaded.evaluate_eq_iff again.lt, ← computes.valueOf_unique loaded run expr again]
    exact same

/-- A literal gives the scalar that it is converted to. -/
theorem LoadedIn.gives_literal (loaded : code.LoadedIn context) {run : Run} {key : Nat}
    {value : Literal} {type : DataType} {scalar : Scalar}
    (computed : ∃ id, code.Computes (.literal key value type) id)
    (converted : value.convert type = .ok scalar) :
    code.Gives context run (.literal key value type) (.ofScalar scalar) := by
  obtain ⟨id, computes⟩ := computed
  refine (loaded.gives_iff computes).mpr ?_
  cases computes with
  | literal found =>
      rw [loaded.valueOf_eq found]
      simp only [RunContext.computed, converted]
      rfl

/-- An operator gives what it computes from its operands, brought to its type. -/
theorem LoadedIn.gives_binary (loaded : code.LoadedIn context) {run : Run} {key : Nat}
    {op : BinaryOp} {left right : Expr} {one other : Scalar} {type : IntType} {first second : Int}
    {fits : type.InRange first} {fitsSecond : type.InRange second} {result : Scalar}
    (computed : ∃ id, code.Computes (.binary key op left right) id)
    (common : BinaryOp.operandType (code.typing.typeOf left) (code.typing.typeOf right) =
      .integer type)
    (ofLeft : one.type = code.typing.typeOf left) (ofRight : other.type = code.typing.typeOf right)
    (givesLeft : code.Gives context run left (.ofScalar one))
    (givesRight : code.Gives context run right (.ofScalar other))
    (converted : one.convert? (.integer type) = some (.int type first fits))
    (convertedRight : other.convert? (.integer type) = some (.int type second fitsSecond))
    (combined : Scalar.binary? op (.int type first fits) (.int type second fitsSecond) =
      some result) :
    code.Gives context run (.binary key op left right) (.ofScalar result) := by
  obtain ⟨id, computes⟩ := computed
  refine (loaded.gives_iff computes).mpr ?_
  cases computes with
  | binary same _ computesLeft computesRight bringsLeft bringsRight found =>
      rw [common] at same
      subst same
      have leftValue := (loaded.gives_iff computesLeft).mp givesLeft
      have rightValue := (loaded.gives_iff computesRight).mp givesRight
      rw [loaded.valueOf_eq found]
      simp only [RunContext.computed, bringsLeft.valueOf_eq loaded, bringsRight.valueOf_eq loaded,
        leftValue, rightValue, ← ofLeft, ← ofRight]
      change (do
        let left ← Interpretation.bring one.type (.integer type) (.ofScalar one)
        let right ← Interpretation.bring other.type (.integer type) (.ofScalar other)
        RunContext.applied (Box.binary? op left right)) = _
      rw [Scalar.bring_ofScalar converted, Scalar.bring_ofScalar convertedRight]
      change RunContext.applied (Box.binary? op _ _) = _
      rw [Box.binary?_ofScalar combined]
      rfl

/-- A node of a quotient or of a remainder has the type that its operands are brought to. -/
theorem Computes.type_of_division {key id : Nat} {op : BinaryOp} {left right : Expr}
    (division : op = .div ∨ op = .mod) (computes : code.Computes (.binary key op left right) id)
    {node : IRNode} (found : code.nodes[id]? = some node) :
    node.type =
      BinaryOp.operandType (code.typing.typeOf left) (code.typing.typeOf right) := by
  cases computes with
  | binary common _ _ _ _ _ foundAgain =>
      subst common
      cases found.symm.trans foundAgain
      rcases division with rfl | rfl <;> rfl

end Code

namespace KernelIR

variable {name : String} {target : ArchSetting} {context : LoweringContext} {body : List Stmt}
  {slots : TypeSlots} {ir : KernelIR}

/-- What a body takes the value of is computed by a node of the kernel. -/
theorem exists_computes (recorded : Stmt.Recorded body)
    (success : (ofBody name target context body slots).1 = .ok ir) {value : Expr}
    (member : value ∈ Stmt.blockValues body) :
    ∃ id, (ir.code (.block context.leafOf? .none body) context.leafOf?).Computes value id := by
  have occurring := recorded.occurring
  obtain ⟨final, ends, sound, takes⟩ := exists_takes occurring success
  obtain ⟨id, cached⟩ := takes.exists_node occurring member
  have known := occurring.allValues takes.known member
  exact ⟨id, (sound.computes known cached).mono (ends.grows _ _) value⟩

/-- A run that has the nodes of a kernel has the code of the kernel. -/
theorem loadedIn_of_ofBody (recorded : Stmt.Recorded body)
    (success : (ofBody name target context body slots).1 = .ok ir) {running : RunContext}
    (loaded : running.nodes = ir.nodes) :
    (ir.code (.block context.leafOf? .none body) context.leafOf?).LoadedIn running := by
  obtain ⟨lowers, _, _⟩ := lowers_of_ofBody recorded.occurring success
  exact ⟨loaded, fun id node found => lowers.ordered (loaded ▸ found)⟩

/-- A quotient and a remainder of operands of two types, in some code: both are of one integer
type, and wherever their operands have the same values, they belong together. -/
structure Divides (ir : KernelIR) (code : Code) (type : IntType)
    (left right quotient otherLeft otherRight remainder : Expr) : Prop where
  common : BinaryOp.operandType (code.typing.typeOf left) (code.typing.typeOf right) =
    .integer type
  typed {id : Nat} {node : IRNode} (found : ir.nodes[id]? = some node)
    (computes : code.Computes quotient id ∨ code.Computes remainder id) :
    node.type = .integer type
  divides {running : RunContext} (loaded : running.nodes = ir.nodes) {run otherRun : Run}
    {dividend divisor : Scalar}
    (ofLeft : dividend.type = code.typing.typeOf left)
    (ofRight : divisor.type = code.typing.typeOf right)
    (givesLeft : code.Gives running run left (.ofScalar dividend))
    (givesRight : code.Gives running run right (.ofScalar divisor))
    (givesOtherLeft : code.Gives running otherRun otherLeft (.ofScalar dividend))
    (givesOtherRight : code.Gives running otherRun otherRight (.ofScalar divisor)) :
    ∃ first second fits fitsSecond,
      dividend.convert? (.integer type) = some (.int type first fits) ∧
      divisor.convert? (.integer type) = some (.int type second fitsSecond) ∧
      (second ≠ 0 → ∃ whole rest fitsWhole fitsRest,
        code.Gives running run quotient (.ofScalar (.int type whole fitsWhole)) ∧
        code.Gives running otherRun remainder (.ofScalar (.int type rest fitsRest)) ∧
        type.Divides first second whole rest)

/-- A quotient and a remainder of operands of the same two types without fractions are
computed in one type, as truncated division has them. -/
theorem divisions_of_ofBody (recorded : Stmt.Recorded body)
    (success : (ofBody name target context body slots).1 = .ok ir) {code : Code}
    (ofKernel : code = ir.code (.block context.leafOf? .none body) context.leafOf?)
    {key otherKey : Nat} {left right otherLeft otherRight : Expr}
    (quotient : .binary key .div left right ∈ Stmt.blockValues body)
    (remainder : .binary otherKey .mod otherLeft otherRight ∈ Stmt.blockValues body)
    (integral : (code.typing.typeOf left).isIntegral)
    (integralRight : (code.typing.typeOf right).isIntegral)
    (sameLeft : code.typing.typeOf otherLeft = code.typing.typeOf left)
    (sameRight : code.typing.typeOf otherRight = code.typing.typeOf right) :
    ∃ type, ir.Divides code type left right (.binary key .div left right)
      otherLeft otherRight (.binary otherKey .mod otherLeft otherRight) := by
  subst ofKernel
  obtain ⟨type, common⟩ := BinaryOp.exists_operandType integral integralRight
  have commonOther := common
  rw [← sameLeft, ← sameRight] at commonOther
  refine ⟨type, common, ?_, ?_⟩
  · rintro id node found (computes | computes)
    · exact (computes.type_of_division (.inl rfl) found).trans common
    · exact (computes.type_of_division (.inr rfl) found).trans commonOther
  · intro running loaded run otherRun dividend divisor ofLeft ofRight givesLeft givesRight
      givesOtherLeft givesOtherRight
    have loadedIn := loadedIn_of_ofBody recorded success loaded
    obtain ⟨first, fits, converted⟩ := dividend.exists_converted type
    obtain ⟨second, fitsSecond, convertedSecond⟩ := divisor.exists_converted type
    refine ⟨first, second, fits, fitsSecond, converted, convertedSecond, fun nonzero => ?_⟩
    have whole := loadedIn.gives_binary (exists_computes recorded success quotient) common
      ofLeft ofRight givesLeft givesRight converted convertedSecond
      (Scalar.binary?_div nonzero)
    have rest := loadedIn.gives_binary (exists_computes recorded success remainder) commonOther
      (ofLeft.trans sameLeft.symm) (ofRight.trans sameRight.symm) givesOtherLeft givesOtherRight
      converted convertedSecond (Scalar.binary?_mod nonzero)
    exact ⟨_, _, _, _, whole, rest, IntType.divides_wrap fits fitsSecond nonzero⟩

end KernelIR

namespace Overflowing

def least : Expr :=
  .literal 0 (.int (-2147483648)) .i32

def unit : Expr :=
  .literal 1 (.int (-1)) .i8

def quotient : Expr :=
  .binary 2 .div least unit

def remainder : Expr :=
  .binary 3 .mod least unit

def body : List Stmt :=
  [.print none (.expr quotient) .none, .print none (.expr remainder) .none]

theorem recorded : Stmt.Recorded body := by
  have start : Recorder.Reached ⟨⟨.empty, #[], #[], #[], #[]⟩, ⟨0, 0⟩, .empty, 0, #[]⟩ [] :=
    .start rfl rfl rfl
  have one := start.step
    (.build (.constant (.literal 0 (.int (-2147483648))) (some (.text 0 "i32")))) (.expr least)
    (by simp [Operation.values, Building.values, HostValue.exprs]) (by cbv)
  have other := one.step
    (.build (.constant (.literal 0 (.int (-1))) (some (.text 0 "i8")))) (.expr unit)
    (by simp [Operation.values, Building.values, HostValue.exprs]) (by cbv)
  have divided := other.step (.build (.binaryOp .div (.expr least) (.expr unit)))
    (.expr quotient)
    (by simp [Operation.values, Building.values, HostValue.exprs]) rfl
  have rest := divided.step (.build (.binaryOp .mod (.expr least) (.expr unit)))
    (.expr remainder)
    (by simp [Operation.values, Building.values, HostValue.exprs]) rfl
  have kernel := rest.step (.newBlock "kernel k") (.block 0) (by simp [Operation.values]) rfl
  have scope := kernel.step (.enterRoot (.block 0)) (.guard 0 0 (.block 0))
    (by simp [Operation.values, HostValue.exprs]) rfl
  have printed := scope.step (.print (.expr quotient) .none) (.statement 0)
    (by simp [Operation.values, HostValue.exprs]) rfl
  have again := printed.step (.print (.expr remainder) .none) (.statement 1)
    (by simp [Operation.values, HostValue.exprs]) rfl
  exact ⟨_, _, 0, again, rfl⟩

def context : LoweringContext :=
  ⟨.x86, [], ⟨.empty, #[], #[], #[], #[]⟩, ∅⟩

theorem taken : quotient ∈ Stmt.blockValues body ∧ remainder ∈ Stmt.blockValues body ∧
    least ∈ Stmt.blockValues body ∧ unit ∈ Stmt.blockValues body := by
  simp [body, Stmt.blockValues, Stmt.blockTaken, Stmt.taken, HostValue.roots, Expr.allValues,
    Expr.values, quotient, remainder, least, unit]

/-- The least number divided by minus one, a number of a narrower type, is the least number
again, and there is no rest. -/
theorem division_wraps :
    Stmt.Recorded body ∧
      ∃ ir, (KernelIR.ofBody "k" (.member .x86) context body .empty).1 = .ok ir ∧
        ∀ (running : RunContext) (run : Run), running.nodes = ir.nodes →
          (ir.code (.block context.leafOf? .none body) context.leafOf?).Gives running run quotient
            (.ofScalar (.ofInt ⟨true, .w32⟩ (-2147483648))) ∧
          (ir.code (.block context.leafOf? .none body) context.leafOf?).Gives running run remainder
            (.ofScalar (.ofInt ⟨true, .w32⟩ 0)) := by
  have lowers : (KernelIR.ofBody "k" (.member .x86) context body .empty).1.isOk = true := by
    decide +kernel
  obtain ⟨ir, lowered⟩ := exists_ok lowers
  refine ⟨recorded, ir, lowered, fun running run loaded => ?_⟩
  have loadedIn := KernelIR.loadedIn_of_ofBody recorded lowered loaded
  obtain ⟨dividing, modulo, dividend, divisor⟩ := taken
  have givesLeast : Code.Gives _ running run least
      (.ofScalar (.ofInt ⟨true, .w32⟩ (-2147483648))) :=
    loadedIn.gives_literal (KernelIR.exists_computes recorded lowered dividend) rfl
  have givesUnit : Code.Gives _ running run unit (.ofScalar (.ofInt ⟨true, .w8⟩ (-1))) :=
    loadedIn.gives_literal (KernelIR.exists_computes recorded lowered divisor) rfl
  obtain ⟨type, divisions⟩ :=
    KernelIR.divisions_of_ofBody recorded lowered rfl dividing modulo rfl rfl rfl rfl
  obtain rfl : type = ⟨true, .w32⟩ := by
    cases divisions.common
    rfl
  obtain ⟨first, second, fits, fitsSecond, converted, convertedSecond, divides⟩ :=
    divisions.divides loaded rfl rfl givesLeast givesUnit givesLeast givesUnit
  cases converted
  cases convertedSecond
  obtain ⟨whole, rest, fitsWhole, fitsRest, givesWhole, givesRest, law⟩ := divides (by decide)
  obtain ⟨rfl, rfl⟩ := law.wraps (by decide)
  exact ⟨givesWhole, givesRest⟩

end Overflowing

end FieldKernel
