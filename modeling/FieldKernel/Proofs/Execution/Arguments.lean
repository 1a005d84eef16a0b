import FieldKernel.Proofs.Execution.Preservation
import FieldKernel.Proofs.Lowering.Sharing

/-!
# Arguments that a kernel loads

An argument is loaded from where its expression says, in the type that the expression
says.  Lowering looks only whether the position is below the number of arguments, so an
expression that was made for another kernel can be accepted.  A call answers it with the
argument of its own kernel, whose type may be another one.
-/

namespace FieldKernel

/-- An expression whose parts are needed as values.  If it loads an argument, it is needed
itself. -/
structure Expr.Covered (taken : List Expr) (expr : Expr) : Prop where
  parts : ∀ part ∈ expr.parts, part ∈ allValues taken
  argument {key : Nat} {position : Int} {type : DataType}
    (loads : expr = .argument key position type) : expr ∈ allValues taken

namespace Expr

variable {taken more : List Expr} {expr : Expr}

theorem covered_of_value (member : expr ∈ allValues taken) : expr.Covered taken where
  parts := by
    intro part below
    obtain ⟨root, among, member⟩ := mem_allValues.mp member
    exact mem_allValues.mpr ⟨root, among, part_mem_values member below⟩
  argument _ := member

theorem covered_of_mem (member : expr ∈ taken) : expr.Covered taken :=
  covered_of_value (mem_allValues.mpr ⟨expr, member, self_mem_values expr⟩)

theorem Covered.mono (covered : expr.Covered taken) (grows : taken ⊆ more) :
    expr.Covered more := by
  have values {value : Expr} (member : value ∈ allValues taken) : value ∈ allValues more := by
    obtain ⟨root, among, member⟩ := mem_allValues.mp member
    exact mem_allValues.mpr ⟨root, grows among, member⟩
  exact ⟨fun part below => values (covered.parts part below),
    fun loads => values (covered.argument loads)⟩

/-- A variable or a field has no parts, and loads nothing. -/
theorem covered_identifier (var : Variable) : (Expr.identifier var).Covered taken :=
  ⟨by simp [parts], by simp⟩

theorem covered_field (declared : Field) : (Expr.field declared).Covered taken :=
  ⟨by simp [parts], by simp⟩

/-- The place of an element loads nothing, but its indices are needed. -/
theorem covered_ofElement (place : Element) (among : place.indices ⊆ taken) :
    (ofElement place).Covered taken := by
  refine ⟨fun part below => ?_, by simp [ofElement]⟩
  exact mem_allValues.mpr ⟨part, among below, self_mem_values part⟩

/-- What is directly below a covered expression is covered. -/
theorem Covered.operand {part : Expr} (covered : expr.Covered taken)
    (below : part ∈ expr.operands) : part.Covered taken := by
  cases expr with
  | element key declared indices =>
      rcases List.mem_cons.mp below with rfl | below
      · exact covered_field declared
      · exact covered_of_value (covered.parts part below)
  | load key elementKey declared indices =>
      cases List.mem_singleton.mp below
      exact ⟨covered.parts, by simp⟩
  | binary | unary | cast => exact covered_of_value (covered.parts part below)
  | _ => simp [operands] at below

theorem Within.covered {roots : List Expr} (covers : ∀ root ∈ roots, root.Covered taken)
    (within : Within roots expr) : expr.Covered taken := by
  induction within with
  | root member => exact covers _ member
  | operand _ below hypothesis => exact hypothesis.operand below

end Expr

namespace Code

variable {code : Code}

mutual

/-- A statement that is performed needs the values of all that it was recorded with, except
for what is written to. -/
theorem Performs.covers (statement : Stmt) {op : Op} (performs : code.Performs statement op) :
    ∀ root ∈ statement.roots, root.Covered statement.taken := by
  intro root member
  cases performs with
  | alloca => simp [Stmt.roots] at member
  | assign _ =>
      simp only [Stmt.roots, List.mem_cons, List.not_mem_nil, or_false] at member
      rcases member with rfl | rfl
      · exact Expr.covered_identifier _
      · exact Expr.covered_of_mem (by simp [Stmt.taken])
  | @assignElement _ key field indices _ _ _ _ _ =>
      simp only [Stmt.roots, List.mem_cons, List.not_mem_nil, or_false] at member
      rcases member with rfl | rfl
      · exact Expr.covered_ofElement ⟨key, field, indices⟩ (by simp [Stmt.taken, Expr.parts])
      · exact Expr.covered_of_mem (by simp [Stmt.taken])
  | load _ =>
      cases List.mem_singleton.mp member
      exact Expr.covered_ofElement _ (by simp [Stmt.taken])
  | store _ =>
      simp only [Stmt.roots, List.mem_cons, List.not_mem_nil, or_false] at member
      rcases member with rfl | rfl
      · exact Expr.covered_ofElement _ (by simp [Stmt.taken])
      · exact Expr.covered_of_mem (by simp [Stmt.taken])
  | print _ => exact Expr.covered_of_mem member
  | @branch _ condition _ onTrue onFalse _ _ _ performsTrue performsFalse =>
      simp only [Stmt.roots, List.mem_append] at member
      rcases member with (member | member) | member
      · exact Expr.covered_of_mem (by simp [Stmt.taken, member])
      · exact (PerformsAll.covers onTrue performsTrue root member).mono (by simp [Stmt.taken])
      · exact (PerformsAll.covers onFalse performsFalse root member).mono (by simp [Stmt.taken])
  | @range _ vars first last _ _ _ body _ _ _ _ _ performs =>
      simp only [Stmt.roots, LoopSource.roots, List.mem_append, List.mem_map] at member
      rcases member with (member | ⟨var, _, rfl⟩) | member
      · exact Expr.covered_of_mem (List.mem_append_left _ (by simpa using member))
      · exact Expr.covered_identifier var
      · exact (PerformsAll.covers body performs root member).mono (by simp [Stmt.taken])
  | @elements _ vars field _ _ body _ _ _ _ _ performs =>
      simp only [Stmt.roots, LoopSource.roots, List.mem_append, List.mem_map,
        List.mem_singleton] at member
      rcases member with (rfl | ⟨var, _, rfl⟩) | member
      · exact Expr.covered_field field
      · exact Expr.covered_identifier var
      · exact PerformsAll.covers body performs root member

theorem PerformsAll.covers (body : List Stmt) {ops : List Op}
    (performs : code.PerformsAll body ops) :
    ∀ root ∈ Stmt.blockRoots body, root.Covered (Stmt.blockTaken body) := by
  intro root member
  cases performs with
  | nil => simp [Stmt.blockRoots] at member
  | @cons first rest _ _ performs later =>
      rcases List.mem_append.mp member with member | member
      · exact (Performs.covers first performs root member).mono (by simp [Stmt.blockTaken])
      · exact (PerformsAll.covers rest later root member).mono (by simp [Stmt.blockTaken])

end

end Code

/-- Rows that are related item by item are related at every position, and have the same
positions. -/
theorem memberAt?_related {α β : Type} {related : α → β → Prop} {items : List α}
    {others : List β} (rows : List.Forall₂ related items others) (position : Int) :
    Option.Rel related (memberAt? items position) (memberAt? others position) := by
  rw [memberAt?, memberAt?, rows.length_eq]
  generalize (if position < 0 then position + others.length else position) = place
  split
  · exact .none
  · by_cases inside : place.toNat < items.length
    · have insideOther : place.toNat < others.length := rows.length_eq ▸ inside
      rw [List.getElem?_eq_getElem inside, List.getElem?_eq_getElem insideOther]
      exact .some (rows.get inside insideOther)
    · have outside : ¬ place.toNat < others.length := rows.length_eq ▸ inside
      rw [List.getElem?_eq_none (not_lt.mp inside), List.getElem?_eq_none (not_lt.mp outside)]
      exact .none

/-- A run loads its arguments in the types of a row: from a position that the row has, which
counts from the end if it is negative, and it fails at any other. -/
def RunContext.LoadsIn (context : RunContext) (types : List DataType) : Prop :=
  ∀ position : Int,
    match memberAt? types position with
    | some type => ∃ value, context.argument position = .ok value ∧ value.HasType type
    | none => context.argument position = .error (.host (.position "tuple"))

/-- What is loaded has a type just if the row has that type at the position. -/
theorem RunContext.LoadsIn.hasType_iff {context : RunContext} {types : List DataType}
    (loads : context.LoadsIn types) (position : Int) (type : DataType) :
    (∃ value, context.argument position = .ok value ∧ value.HasType type) ↔
      memberAt? types position = some type := by
  have answers := loads position
  cases taken : memberAt? types position with
  | none =>
      rw [taken] at answers
      simp [answers]
  | some other =>
      rw [taken] at answers
      obtain ⟨value, answered, ofOther⟩ := answers
      constructor
      · rintro ⟨same, again, ofType⟩
        cases answered.symm.trans again
        rw [← ofType.tag, ofOther.tag]
      · intro same
        cases same
        exact ⟨value, answered, ofOther⟩

namespace KernelIR

variable {name : String} {target : ArchSetting} {context : LoweringContext} {body : List Stmt}
  {slots : TypeSlots} {ir : KernelIR} {objects : Objects} {storage : Storage}
  {hostArgs : List HostValue} {args : List Box}

/-- A call converts its arguments to the types that the kernel takes. -/
theorem args_haveTypes (checked : (ir.checkCall storage hostArgs).run objects = .ok args) :
    List.Forall₂ Box.HasType args ir.argTypes := by
  have count : hostArgs.length = ir.argTypes.length := by
    by_contra different
    rw [checkCall_count different] at checked
    cases checked
  have answered : List.Forall₂
      (fun (asked : HostValue × DataType) value =>
        (Ask.scalars asked.1 asked.2).run objects = .ok value)
      (hostArgs.zip ir.argTypes) args :=
    Ask.forall₂_of_mapM (converted_of_checkCall checked)
  have paired : List.Forall₂ (fun type value => Box.HasType value type)
      ((hostArgs.zip ir.argTypes).map Prod.snd) args :=
    List.forall₂_map_left_iff.mpr (answered.imp fun _ _ asked => Ask.scalars_hasType asked)
  rw [List.map_snd_zip count.ge] at paired
  exact paired.flip

/-- What comes of the arguments that are loaded in a body once it was lowered. -/
structure LoadsArguments (ir : KernelIR) (body : List Stmt) : Prop where
  /-- A node loads an argument for an expression of the body, from a position below the number
  of arguments. -/
  loads {id : Nat} {node : IRNode} {position : Int} (found : ir.nodes[id]? = some node)
    (load : node.op = .argument position) :
    position < ir.argTypes.length ∧ ∃ key, Stmt.Occurs body (.argument key position node.type)
  /-- Each expression that loads an argument has a node. -/
  loaded {key : Nat} {position : Int} {type : DataType}
    (occurs : Stmt.Occurs body (.argument key position type)) :
    ∃ id : Nat, ir.nodes[id]? = some ⟨id, .argument position, type⟩
  /-- All nodes load what the kernel takes just if all expressions do. -/
  own : (∀ (id : Nat) (node : IRNode) (position : Int), ir.nodes[id]? = some node →
      node.op = .argument position →
      ∃ place : Nat, position = place ∧ ir.argTypes[place]? = some node.type) ↔
    Stmt.OwnArguments ir.argTypes body
  /-- A node has the value of the argument, whatever an operation has computed before. -/
  evaluates {id : Nat} {node : IRNode} {position : Int} (found : ir.nodes[id]? = some node)
    (load : node.op = .argument position) (rendering : Rendering) (args : List Box) (run : Run) :
    Evaluate.Agrees ((ir.contextFor rendering args).Remembers run)
      (Execute.node (ir.contextFor rendering args) run id)
      ((ir.contextFor rendering args).argument position)
  /-- In a call the arguments have the types that the kernel takes them in, whatever the types
  of the nodes are. -/
  answers {objects : Objects} {storage : Storage} {hostArgs : List HostValue} {args : List Box}
    (checked : (ir.checkCall storage hostArgs).run objects = .ok args) :
    (ir.contextFor objects.rendering args).LoadsIn ir.argTypes
  /-- So a node has a value of its own type just if the kernel takes the argument in it. -/
  fits {objects : Objects} {storage : Storage} {hostArgs : List HostValue} {args : List Box}
    (checked : (ir.checkCall storage hostArgs).run objects = .ok args) (position : Int)
    (type : DataType) :
    (∃ value, (ir.contextFor objects.rendering args).argument position = .ok value ∧
      value.HasType type) ↔ memberAt? ir.argTypes position = some type

/-- The arguments of a call are loaded in the types that the kernel takes them in. -/
theorem call_loadsIn (checked : (ir.checkCall storage hostArgs).run objects = .ok args) :
    (ir.contextFor objects.rendering args).LoadsIn ir.argTypes := by
  intro position
  have related := memberAt?_related (args_haveTypes checked) position
  simp only [RunContext.argument, contextFor]
  generalize memberAt? args position = value? at related ⊢
  generalize memberAt? ir.argTypes position = type? at related ⊢
  cases related with
  | none => rfl
  | some ofType => exact ⟨_, rfl, ofType⟩

/-- A node that loads an argument has its value. -/
theorem argument_agrees
    (lowers : ir.Lowers context.leafOf? (.block context.leafOf? .none body) body) {id : Nat}
    {node : IRNode} {position : Int} (found : ir.nodes[id]? = some node)
    (load : node.op = .argument position) (rendering : Rendering) (args : List Box) (run : Run) :
    Evaluate.Agrees ((ir.contextFor rendering args).Remembers run)
      (Execute.node (ir.contextFor rendering args) run id)
      ((ir.contextFor rendering args).argument position) := by
  have ordered : (ir.contextFor rendering args).Ordered := fun id node => lowers.ordered
  have inside : id < ir.nodes.size := (Array.getElem?_eq_some_iff.mp found).1
  have agrees : Evaluate.Agrees ((ir.contextFor rendering args).Remembers run)
      (Execute.node (ir.contextFor rendering args) run id)
      ((ir.contextFor rendering args).valueOf run id) :=
    RunContext.eval_agrees ordered ir.nodes.size id inside
  rw [RunContext.valueOf_eq ordered found run, RunContext.computed, load] at agrees
  exact agrees

/-- An expression that loads an argument is lowered to a node, and accepted only at a position
below the number of arguments. -/
theorem argument_loaded (occurring : Occurring (Stmt.Occurs body))
    (success : (ofBody name target context body slots).1 = .ok ir) {key : Nat} {position : Int}
    {type : DataType} (occurs : Stmt.Occurs body (.argument key position type)) :
    position < context.argTypes.length ∧
      ∃ id : Nat, ir.nodes[id]? = some ⟨id, .argument position, type⟩ := by
  obtain ⟨lowers, _, _⟩ := lowers_of_ofBody occurring success
  obtain ⟨final, ends, sound, takes⟩ := exists_takes occurring success
  have covered := Expr.Within.covered (lowers.performs.covers body) occurs
  obtain ⟨id, cached⟩ := takes.exists_node occurring (covered.argument rfl)
  refine ⟨takes.shared.accepted occurs cached, id, ?_⟩
  rw [ends.nodes]
  cases sound.computes occurs cached with
  | argument found => exact found

/-- An expression that loads an argument from behind the arguments of a kernel is refused.
Any other is lowered as it is, and a call answers it with the argument at the position, in the
type that the kernel takes it in, whatever type the expression says. -/
theorem arguments_of_ofBody (recorded : Stmt.Recorded body) :
    (∀ key position type, Stmt.Occurs body (.argument key position type) →
        context.argTypes.length ≤ position →
        ∃ error, (ofBody name target context body slots).1 = .error error) ∧
      ∀ ir, (ofBody name target context body slots).1 = .ok ir →
        ir.argTypes = context.argTypes ∧ ir.LoadsArguments body := by
  have occurring := recorded.occurring
  constructor
  · intro key position type occurs behind
    rcases outcome : (ofBody name target context body slots).1 with error | ir
    · exact ⟨error, rfl⟩
    · have inside := (argument_loaded occurring outcome occurs).1
      omega
  · intro ir success
    obtain ⟨lowers, argTypes, _⟩ := lowers_of_ofBody occurring success
    have loads {id : Nat} {node : IRNode} {position : Int} (found : ir.nodes[id]? = some node)
        (load : node.op = .argument position) :
        ∃ key, Stmt.Occurs body (.argument key position node.type) := by
      have typed := lowers.typed found
      rw [load] at typed
      cases typed with
      | argument occurs => exact ⟨_, occurs⟩
    refine ⟨argTypes, ⟨?_, ?_, ⟨?_, ?_⟩, argument_agrees lowers, call_loadsIn,
      fun checked => (call_loadsIn checked).hasType_iff⟩⟩
    · intro id node position found load
      obtain ⟨key, occurs⟩ := loads found load
      rw [argTypes]
      exact ⟨(argument_loaded occurring success occurs).1, key, occurs⟩
    · intro key position type occurs
      exact (argument_loaded occurring success occurs).2
    · intro own key position type occurs
      obtain ⟨id, found⟩ := (argument_loaded occurring success occurs).2
      exact own id _ position found rfl
    · intro own id node position found load
      obtain ⟨key, occurs⟩ := loads found load
      exact own key position node.type occurs

end KernelIR

namespace Borrowed

/-- The argument of a kernel that takes a floating-point number. -/
def argument : Expr :=
  .argument 0 0 .f32

def kept : Variable :=
  ⟨1, ⟨0, some "x"⟩⟩

/-- A kernel is defined with its argument, and then another one with the same argument. -/
def body : List Stmt :=
  [.alloca none kept.identifier .unknown, .assign none (.identifier kept) argument]

theorem recorded : Stmt.Recorded body := by
  have start : Recorder.Reached ⟨⟨.empty, #[], #[], #[], #[]⟩, ⟨0, 0⟩, .empty, 0, #[]⟩ [] :=
    .start rfl rfl rfl
  have arguments := start.step (.build (.arguments [.f32])) (Building.row [argument])
    (by simp [Operation.values, Building.values]) rfl
  have lender := arguments.step (.newBlock "kernel a") (.block 0) (by simp [Operation.values]) rfl
  have opened := lender.step (.enterRoot (.block 0)) (.guard 0 0 (.block 0))
    (by simp [Operation.values, HostValue.exprs]) rfl
  have closed := opened.step .exitRoot (.block 0) (by simp [Operation.values]) rfl
  have borrower := closed.step (.newBlock "kernel b") (.block 1) (by simp [Operation.values]) rfl
  have inside := borrower.step (.enterRoot (.block 1)) (.guard 0 1 (.block 1))
    (by simp [Operation.values, HostValue.exprs]) rfl
  have declared := inside.step (.alloca (some "x")) (.expr (.identifier kept))
    (by simp [Operation.values]) rfl
  have assigned := declared.step (.assign (.expr (.identifier kept)) (.expr argument))
    (.statement 1)
    (by simp [Operation.values, HostValue.exprs, HostValue.allExprs, Building.row]) rfl
  exact ⟨_, _, 1, assigned, rfl⟩

/-- The other kernel takes a whole number. -/
def context : LoweringContext :=
  ⟨.x86, [.i32], Summation.objects, ∅⟩

theorem arguments_borrowed :
    Stmt.Recorded body ∧
      ∃ ir, (KernelIR.ofBody "b" (.member .x86) context body .empty).1 = .ok ir ∧
        ir.argTypes = context.argTypes ∧ ir.LoadsArguments body := by
  have accepted : (KernelIR.ofBody "b" (.member .x86) context body .empty).1.isOk = true := by
    decide +kernel
  obtain ⟨ir, lowered⟩ := exists_ok accepted
  exact ⟨recorded, ir, lowered, (KernelIR.arguments_of_ofBody recorded).2 ir lowered⟩

/-- The other kernel is accepted with a node for a floating-point number, whose value is a
whole number when the kernel is called. -/
theorem borrowed_type_differs :
    Stmt.Recorded body ∧ ∃ ir storage args,
      (KernelIR.ofBody "b" (.member .x86) context body .empty).1 = .ok ir ∧
        ir.argTypes = [.i32] ∧ (∃ id : Nat, ir.nodes[id]? = some ⟨id, .argument 0, .f32⟩) ∧
        (ir.checkCall storage [.int 0 3]).run context.objects = .ok args ∧
        ∃ value, (ir.contextFor context.objects.rendering args).argument 0 = .ok value ∧
          value.HasType .i32 := by
  have accepted : (KernelIR.ofBody "b" (.member .x86) context body .empty).1.toOption.any
      (fun ir => (Storage.ofTree 0 Summation.tree Tree.root).toOption.any fun storage =>
        ((ir.checkCall storage [.int 0 3]).run context.objects).isOk) = true := by
    decide +kernel
  obtain ⟨ir, lowered, accepted⟩ := exists_ok_of_any accepted
  obtain ⟨storage, _, called⟩ := exists_ok_of_any accepted
  obtain ⟨args, checked⟩ := exists_ok called
  obtain ⟨_, argTypes, _⟩ := KernelIR.lowers_of_ofBody recorded.occurring lowered
  have occurs : Stmt.Occurs body argument :=
    .root (by simp [body, Stmt.blockRoots, Stmt.roots])
  obtain ⟨_, loaded⟩ := KernelIR.argument_loaded recorded.occurring lowered occurs
  refine ⟨recorded, ir, storage, args, lowered, argTypes, loaded, checked, ?_⟩
  exact ((KernelIR.call_loadsIn checked).hasType_iff 0 .i32).mpr (by rw [argTypes]; rfl)

end Borrowed

end FieldKernel
