import FieldKernel.Proofs.Execution.Typing

/-!
# Runs keep the types of their kernel

If a kernel could be lowered, its nodes and variables have in every run the
types that lowering gave them.  The list of variables that goes with the kernel
has those types too, except that a declaration takes the type of a variable
from the list: then the list has none.
-/

namespace FieldKernel

theorem memberAt?_natCast {α : Type} (items : List α) (place : Nat) :
    memberAt? items place = items[place]? := by
  have positive : ¬ (place : Int) < 0 := by omega
  simp [memberAt?, positive]

namespace KernelIR

variable {name : String} {target : ArchSetting} {context : LoweringContext} {body : List Stmt}
  {slots : TypeSlots} {ir : KernelIR} {objects : Objects} {storage : Storage} {id : Nat}
  {tree : Tree} {hostArgs : List HostValue} {args : List Box}

/-- The state in which a run of a kernel ends, or fails. -/
def endOf (ir : KernelIR) (rendering : Rendering) (storage : Storage) (args : List Box) : Run :=
  ((Execute.ops (ir.contextFor rendering args) ir.body).run.run ⟨storage, ∅, #[]⟩).2

/-- A run of a kernel keeps the types of its nodes and, given types of variables,
those of the variables. -/
structure KeepsTypes (ir : KernelIR) (id : Nat) (tree : Tree) (ofVariable : Nat → DataType)
    (rendering : Rendering) (storage : Storage) (args : List Box) : Prop where
  /-- If the list of variables has a type for a variable, it is the right one. -/
  recorded (var : Nat) : ir.resetType var = .unknown ∨ ir.resetType var = ofVariable var
  operands {number left right : Nat} {node : IRNode} {op : BinaryOp}
    (found : ir.nodes[number]? = some node) (binary : node.op = .binary op left right) :
    ∃ one other, ir.nodes[left]? = some one ∧ ir.nodes[right]? = some other ∧
      one.type = other.type
  indices {number leaf : Nat} {node : IRNode} {positions : List Nat}
    (found : ir.nodes[number]? = some node) (load : node.op = .load leaf positions) :
    (ir.contextFor rendering args).Integral positions
  steps : ∀ step ∈ ir.steps rendering storage args,
    step.Typed (ir.contextFor rendering args) id tree ofVariable
  ends : (ir.endOf rendering storage args).Typed id tree ofVariable

/-- An argument has the type that it is loaded with. -/
theorem argument_hasType (argTypes : ir.argTypes = context.argTypes)
    (ownArguments : Stmt.OwnArguments context.argTypes body)
    (converted : (ir.convertArgs hostArgs).run objects = .ok args) {key : Nat} {position : Int}
    {type : DataType} (occurs : Stmt.Occurs body (.argument key position type)) {value : Box}
    (given : (ir.contextFor objects.rendering args).argument position = .ok value) :
    value.HasType type := by
  obtain ⟨place, rfl, taken⟩ := ownArguments key position type occurs
  have member : args[place]? = some value := by
    simp only [RunContext.argument, contextFor, memberAt?_natCast] at given
    split at given
    · next found =>
      cases given
      exact found
    · cases given
  obtain ⟨⟨arg, asked⟩, paired, answered⟩ := Ask.answered_at converted member
  have same := (List.getElem?_zip_eq_some.mp paired).2
  rw [argTypes, taken] at same
  cases same
  exact Ask.scalars_hasType answered

/-- A lowered kernel is typed in every run. -/
theorem typedIn (lowers : ir.Lowers context.leafOf? (.block context.leafOf? .none body) body)
    (composed : Stmt.Composed body) (argTypes : ir.argTypes = context.argTypes)
    (ownArguments : Stmt.OwnArguments context.argTypes body)
    (ownFields : Stmt.PlacedIn context.objects.layouts id body)
    (known : context.objects.layouts[id]? = some tree) (declared : tree.Declared)
    (converted : (ir.convertArgs hostArgs).run objects = .ok args) :
    (ir.code (.block context.leafOf? .none body) context.leafOf?).TypedIn (Stmt.Occurs body)
      (ir.contextFor objects.rendering args) tree where
  occurring := composed.recorded.occurring
  nodes := rfl
  typed := lowers.typed
  argument known given := argument_hasType argTypes ownArguments converted known given
  proper := declared.proper
  declared := ownFields.mem_declared known
  recorded var := by
    have agrees := lowers.agrees composed.plain var
    rw [← lowers.declared var] at agrees
    exact agrees.imp_right Eq.symm

/-- In every run of a kernel that was composed with builders and could be
lowered, a node evaluates to a value of its type, and both operands of an
operator have one type.  A variable has the type it has settled at, which is the
recorded one if a type is recorded.  What is stored has the type of its leaf,
indices and bounds have integral types, and no access fails for the number of
its indices. -/
theorem run_keeps_types
    (lowered : (ofBody name target context body slots).1 = .ok ir)
    (composed : Stmt.Composed body) (ownArguments : Stmt.OwnArguments context.argTypes body)
    (ownFields : Stmt.PlacedIn context.objects.layouts id body)
    (known : context.objects.layouts[id]? = some tree) (declared : tree.Declared)
    (reached : storage.Reached id tree)
    (checked : (ir.checkCall storage hostArgs).run objects = .ok args) :
    ir.KeepsTypes id tree (VariableTypes.none.block context.leafOf? body).settled
        objects.rendering storage args ∧
      ∀ path needed count,
        (ir.run objects storage hostArgs).outcome ≠ .error (.arity (.access path needed count)) := by
  obtain ⟨lowers, argTypes, _⟩ := lowers_of_ofBody composed.recorded.occurring lowered
  have converted := converted_of_checkCall checked
  have typed := typedIn lowers composed argTypes ownArguments ownFields known declared converted
  have walks : Execute.WalksTyped (ir.contextFor objects.rendering args) id tree
      (VariableTypes.none.block context.leafOf? body).settled
      (Execute.ops (ir.contextFor objects.rendering args) ir.body)
      (Execute.opsSteps (ir.contextFor objects.rendering args) ir.body) :=
    lowers.performs.walks typed body (fun root member => .root member) composed.plain
  have starts : Run.Typed id tree (VariableTypes.none.block context.leafOf? body).settled
      ⟨storage, ∅, #[]⟩ := ⟨reached, by simp⟩
  refine ⟨⟨typed.recorded, ?_, ?_, walks.each starts, walks.preserves.ends starts⟩, ?_⟩
  · intro number left right node op found binary
    have fits := lowers.typed found
    rw [binary] at fits
    obtain ⟨common, ⟨one, foundOne, ofOne⟩, ⟨other, foundOther, ofOther⟩⟩ := fits.operands
    exact ⟨one, other, foundOne, foundOther, ofOne.trans ofOther.symm⟩
  · intro number leaf node positions found load
    have fits := lowers.typed found
    rw [load] at fits
    obtain ⟨_, indexes⟩ := fits.indexes
    exact typed.integral indexes
  · intro path needed count fails
    rw [run, checked] at fails
    exact walks.preserves.fitsAxes starts fails path needed count rfl

end KernelIR

namespace Summation

/-- The kernel is called with the argument 4, on a new storage of the tree. -/
theorem sum_keeps_types :
    ∃ ir storage args,
      (KernelIR.ofBody "sum" (.member .x86) context body .empty).1 = .ok ir ∧
      Storage.ofTree 0 tree Tree.root = .ok storage ∧
      (ir.checkCall storage [.int 8 4]).run objects = .ok args ∧
      (ir.KeepsTypes 0 tree (VariableTypes.none.block context.leafOf? body).settled
          objects.rendering storage args ∧
        ∀ path needed count, (ir.run objects storage [.int 8 4]).outcome ≠
          .error (.arity (.access path needed count))) := by
  have made : Storage.ofTree 0 tree Tree.root = .ok _ := rfl
  have lowers : (KernelIR.ofBody "sum" (.member .x86) context body .empty).1.isOk = true := by
    decide +kernel
  obtain ⟨ir, lowered⟩ := exists_ok lowers
  obtain ⟨kept, argTypes, _⟩ := KernelIR.lowers_of_ofBody composed.recorded.occurring lowered
  have count : [HostValue.int 8 4].length = ir.argTypes.length := by rw [argTypes]; rfl
  obtain ⟨args, converted⟩ : ∃ args, (ir.convertArgs [.int 8 4]).run objects = .ok args := by
    rw [KernelIR.convertArgs, argTypes]
    exact exists_ok (by decide +kernel)
  have checked := (KernelIR.checkCall_eq count (KernelIR.leaves_kept kept ownFields rfl declared
    (Storage.of_ofTree made))).trans converted
  exact ⟨ir, _, args, lowered, made, checked,
    KernelIR.run_keeps_types lowered composed ownArguments ownFields rfl declared (.made made)
      checked⟩

end Summation

namespace Redeclared

def counter : Variable :=
  ⟨1, ⟨0, some "x"⟩⟩

/-- A variable counts in one branch, and is declared in the other, which was
recorded before. -/
def body : List Stmt :=
  [.branch none (.expr (.literal 0 (.int 1) .i32))
    [.loop none [counter] (.range (.literal 2 (.int 0) .i32) (.literal 3 (.int 3) .i32)) .empty []]
    [.alloca none counter.identifier .unknown]]

def context : LoweringContext :=
  ⟨.x86, [], Summation.objects, ∅⟩

def nodes : List Expr :=
  [.identifier counter, .literal 0 (.int 1) .i32, .literal 2 (.int 0) .i32, .literal 3 (.int 3) .i32]

theorem covers : ∀ root ∈ Stmt.blockRoots body, root ∈ nodes := by
  simp [body, nodes, Stmt.blockRoots, Stmt.roots, HostValue.roots, LoopSource.roots]

theorem closed : ∀ expr ∈ nodes, ∀ part ∈ expr.operands, part ∈ nodes := by
  simp [nodes, Expr.operands]

/-- The body is composed with a builder. -/
theorem composed : Stmt.Composed body := by
  have start : Recorder.Composed ⟨⟨.empty, #[], #[], #[], #[]⟩, ⟨0, 0⟩, .empty, 0, #[]⟩ [] :=
    .start rfl rfl rfl
  have block := start.step (.newBlock "kernel k") (.block 0) trivial
    (by simp [Operation.values]) rfl
  have scope := block.step (.enterRoot (.block 0)) (.guard 0 0 (.block 0)) trivial
    (by simp [Operation.values, HostValue.exprs]) rfl
  have branch := scope.step (.beginIf (.int 0 1)) (.statement 0) trivial
    (by simp [Operation.values, HostValue.exprs]) rfl
  have otherwise := branch.step (.enterBranch .onFalse) (.guard 0 1 (.block 2)) trivial
    (by simp [Operation.values]) rfl
  have declared := otherwise.step (.alloca (some "x")) (.expr (.identifier counter)) trivial
    (by simp [Operation.values]) rfl
  have outside := declared.step .popScope (.block 2) trivial (by simp [Operation.values]) rfl
  have inside := outside.step (.enterBranch .onTrue) (.guard 0 2 (.block 1)) trivial
    (by simp [Operation.values]) rfl
  have loop := inside.step (.beginRange (.expr (.identifier counter)) (.int 0 0) (.int 0 3))
    (.statement 2) trivial (by simp [Operation.values, HostValue.exprs]) rfl
  exact ⟨_, _, 0, loop, rfl⟩

theorem ownArguments : Stmt.OwnArguments context.argTypes body := by
  intro key position type occurs
  have member := occurs.mem covers closed
  simp [nodes] at member

theorem ownFields : Stmt.PlacedIn context.objects.layouts 0 body := by
  intro field occurs
  have member := occurs.mem covers closed
  simp [nodes] at member

/-- The kernel is accepted.  After a run the variable has the value that it
counted to, of the type `i32`, and the list of variables has no type for it. -/
theorem counter_unrecorded :
    Stmt.Composed body ∧ Stmt.OwnArguments context.argTypes body ∧
      Stmt.PlacedIn context.objects.layouts 0 body ∧
      ∃ ir storage value, (KernelIR.ofBody "k" (.member .x86) context body .empty).1 = .ok ir ∧
        Storage.ofTree 0 Summation.tree Tree.root = .ok storage ∧
        (ir.checkCall storage []).run context.objects = .ok [] ∧
        (ir.endOf context.objects.rendering storage []).frame[counter.identifier.id]? =
          some value ∧
        value.type = .i32 ∧ ir.varTypes.lookup counter.identifier.id = some .unknown := by
  have accepted : (KernelIR.ofBody "k" (.member .x86) context body .empty).1.toOption.any
      (fun ir => (Storage.ofTree 0 Summation.tree Tree.root).toOption.any fun storage =>
        ((ir.checkCall storage []).run context.objects).toOption.any List.isEmpty &&
        ((ir.endOf context.objects.rendering storage []).frame[counter.identifier.id]?).any
            (fun value => value.type = .i32) &&
          ir.varTypes.lookup counter.identifier.id = some .unknown) = true := by
    decide +kernel
  obtain ⟨ir, lowered, accepted⟩ := exists_ok_of_any accepted
  obtain ⟨storage, made, accepted⟩ := exists_ok_of_any accepted
  simp only [Bool.and_eq_true, decide_eq_true_eq] at accepted
  obtain ⟨⟨called, counted⟩, unrecorded⟩ := accepted
  obtain ⟨args, checked, noArgs⟩ := exists_ok_of_any called
  rw [List.isEmpty_iff.mp noArgs] at checked
  obtain ⟨value, found, type⟩ := (Option.any_eq_true _ _).mp counted
  exact ⟨composed, ownArguments, ownFields, ir, storage, value, lowered, made, checked, found,
    by simpa using type, unrecorded⟩

end Redeclared

end FieldKernel
