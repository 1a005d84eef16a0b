import FieldKernel.Proofs.Execution.Calls

/-!
# Fields of other layouts

Lowered code knows a leaf by its number alone, and the trees of two layouts
use the same numbers.  A kernel with a field of another layout is refused if
the number of the field's leaf is that of no leaf of the storage.  If all
numbers are, the kernel runs on the leaves that the storage has under them.
-/

namespace FieldKernel

namespace Code

variable {code : Code}

/-- What lowering has met with success: expressions that nodes compute, and
what needs no node where it stands. -/
inductive Meets (code : Code) : Expr → Prop where
  | computed {expr : Expr} {id : Nat} (computes : code.Computes expr id) : Meets code expr
  | identifier (var : Variable) : Meets code (.identifier var)
  | field {field : Field} {leaf : Node} (placed : code.typing.leafOf? field = some leaf)
      (touched : code.touched leaf.id) : Meets code (.field field)
  | element {key : Nat} {field : Field} {indices : List Expr} {leaf : Node} {nodes : List Nat}
      (accesses : code.Accesses field indices leaf nodes) :
      Meets code (.element key field indices)

/-- A field that was met is placed, and its leaf recorded as accessed. -/
theorem Meets.touched {field : Field} (meets : code.Meets (.field field)) :
    ∃ leaf, code.typing.leafOf? field = some leaf ∧ code.touched leaf.id := by
  cases meets with
  | computed computes => cases computes
  | field placed touched => exact ⟨_, placed, touched⟩

theorem ComputesIndex.meets {indices : List Expr} {nodes : List Nat}
    (computes : code.ComputesIndex indices nodes) : ∀ index ∈ indices, code.Meets index := by
  induction indices generalizing nodes with
  | nil => simp
  | cons index rest hypothesis =>
      cases computes with
      | cons computes _ later =>
          intro other member
          rcases List.mem_cons.mp member with rfl | member
          · exact .computed computes
          · exact hypothesis later other member

theorem Accesses.meets {field : Field} {indices : List Expr} {leaf : Node} {nodes : List Nat}
    (accesses : code.Accesses field indices leaf nodes) :
    ∀ part ∈ Expr.field field :: indices, code.Meets part := by
  intro part member
  rcases List.mem_cons.mp member with rfl | member
  · exact .field accesses.placed accesses.touched
  · exact accesses.computes.meets part member

/-- With an expression all below it was met. -/
theorem Meets.operand {expr part : Expr} (meets : code.Meets expr)
    (below : part ∈ expr.operands) : code.Meets part := by
  cases meets with
  | identifier var => simp [Expr.operands] at below
  | field placed touched => simp [Expr.operands] at below
  | element accesses => exact accesses.meets part below
  | computed computes =>
      cases computes with
      | literal | identifier | argument => simp [Expr.operands] at below
      | binary _ _ computesLeft computesRight _ _ _ =>
          simp only [Expr.operands, List.mem_cons, List.not_mem_nil, or_false] at below
          rcases below with rfl | rfl
          · exact .computed computesLeft
          · exact .computed computesRight
      | unary _ _ computes _ _ _ | cast computes _ =>
          simp only [Expr.operands, List.mem_singleton] at below
          subst below
          exact .computed computes
      | element placed touched arity computes _ =>
          exact Accesses.meets ⟨placed, touched, arity, computes⟩ part below
      | load placed touched arity computes _ =>
          simp only [Expr.operands, List.mem_singleton] at below
          subst below
          exact .element ⟨placed, touched, arity, computes⟩

mutual

/-- All that a statement is recorded with was met. -/
theorem Performs.meets (statement : Stmt) {op : Op} (performs : code.Performs statement op) :
    ∀ root ∈ statement.roots, code.Meets root := by
  intro root member
  cases performs with
  | alloca => simp [Stmt.roots] at member
  | assign assigns =>
      obtain ⟨node, computes, _⟩ := assigns
      simp only [Stmt.roots, List.mem_cons, List.not_mem_nil, or_false] at member
      rcases member with rfl | rfl
      · exact .identifier _
      · exact .computed computes
  | assignElement stores =>
      obtain ⟨accesses, node, computes, _⟩ := stores
      simp only [Stmt.roots, List.mem_cons, List.not_mem_nil, or_false] at member
      rcases member with rfl | rfl
      · exact .element accesses
      · exact .computed computes
  | load accesses =>
      simp only [Stmt.roots, List.mem_singleton] at member
      subst member
      exact .element accesses
  | store stores =>
      obtain ⟨accesses, node, computes, _⟩ := stores
      simp only [Stmt.roots, List.mem_cons, List.not_mem_nil, or_false] at member
      rcases member with rfl | rfl
      · exact .element accesses
      · exact .computed computes
  | print computes =>
      simp only [Stmt.roots, HostValue.roots, List.mem_singleton] at member
      subst member
      exact .computed computes
  | branch computes performsTrue performsFalse =>
      simp only [Stmt.roots, HostValue.roots, List.mem_append, List.mem_singleton] at member
      rcases member with (rfl | member) | member
      · exact .computed computes
      · exact performsTrue.meets _ root member
      · exact performsFalse.meets _ root member
  | range computesFirst computesLast _ _ performs =>
      simp only [Stmt.roots, LoopSource.roots, List.mem_append, List.mem_cons, List.not_mem_nil,
        or_false, List.mem_map] at member
      rcases member with ((rfl | rfl) | ⟨var, _, rfl⟩) | member
      · exact .computed computesFirst
      · exact .computed computesLast
      · exact .identifier var
      · exact performs.meets _ root member
  | elements placed touched _ _ performs =>
      simp only [Stmt.roots, LoopSource.roots, List.mem_append, List.mem_singleton,
        List.mem_map] at member
      rcases member with (rfl | ⟨var, _, rfl⟩) | member
      · exact .field placed touched
      · exact .identifier var
      · exact performs.meets _ root member

theorem PerformsAll.meets (body : List Stmt) {ops : List Op}
    (performs : code.PerformsAll body ops) :
    ∀ root ∈ Stmt.blockRoots body, code.Meets root := by
  intro root member
  cases performs with
  | nil => simp [Stmt.blockRoots] at member
  | cons performs later =>
      simp only [Stmt.blockRoots, List.mem_append] at member
      rcases member with member | member
      · exact performs.meets _ root member
      · exact later.meets _ root member

end

/-- Every field in a body that was lowered is placed, and its leaf recorded as
accessed. -/
theorem PerformsAll.touched {body : List Stmt} {ops : List Op}
    (performs : code.PerformsAll body ops) {field : Field}
    (occurs : Stmt.Occurs body (.field field)) :
    ∃ leaf, code.typing.leafOf? field = some leaf ∧ code.touched leaf.id := by
  have meets {expr : Expr} (within : Expr.Within (Stmt.blockRoots body) expr) :
      code.Meets expr := by
    induction within with
    | root member => exact performs.meets body _ member
    | operand _ below hypothesis => exact hypothesis.operand below
  exact (meets occurs).touched

end Code

/-- The leaf at which a field is placed, in whatever tree. -/
def Layouts.leafOf (layouts : Layouts) (field : Field) : Except Error Node :=
  match layouts.leafOf? field with
  | some (_, leaf) => .ok leaf
  | none => .error (.contract (.foreignField field.text))

/-- The leaves of all fields in a body have numbers that are those of leaves
of a storage too. -/
def Stmt.NumbersKept (layouts : Layouts) (storage : Storage) (body : List Stmt) : Prop :=
  ∀ (field : Field) (tree : Nat) (leaf : Node), Stmt.Occurs body (.field field) →
    layouts.leafOf? field = some (tree, leaf) → (storage.leaf? leaf.id).isSome

namespace KernelIR

variable {name : String} {target : ArchSetting} {context : LoweringContext} {body : List Stmt}
  {slots : TypeSlots} {ir : KernelIR} {objects : Objects} {storage : Storage} {id : Nat}
  {tree : Tree} {hostArgs : List HostValue}

/-- Every field in a body that was lowered is placed at a leaf that the kernel
lists. -/
theorem Lowers.placed {types : VariableTypes} (lowers : ir.Lowers context.leafOf? types body)
    {field : Field} (occurs : Stmt.Occurs body (.field field)) :
    ∃ other leaf, context.objects.layouts.leafOf? field = some (other, leaf) ∧
      leaf.id ∈ ir.leaves := by
  obtain ⟨leaf, found, touched⟩ := lowers.performs.touched occurs
  obtain ⟨⟨other, node⟩, placed, same⟩ := Option.map_eq_some_iff.mp found
  subst same
  exact ⟨other, node, placed, touched⟩

/-- The check of a call looks at the numbers of the leaves, and at no more. -/
theorem numbersKept_iff {types : VariableTypes} (lowers : ir.Lowers context.leafOf? types body) :
    Stmt.NumbersKept context.objects.layouts storage body ↔
      ∀ leaf ∈ ir.leaves, (storage.leaf? leaf).isSome := by
  constructor
  · intro numbers leaf listed
    obtain ⟨field, node, occurs, found, rfl⟩ := lowers.touched listed
    obtain ⟨⟨other, same⟩, placed, rfl⟩ := Option.map_eq_some_iff.mp found
    exact numbers field other same occurs placed
  · intro all field other leaf occurs placed
    obtain ⟨_, node, again, listed⟩ := lowers.placed occurs
    rw [placed] at again
    cases again
    exact all leaf.id listed

/-- A call of a lowered kernel whose fields are placed in any trees.  If the
number of some field's leaf is not that of a leaf of the storage, the call is
refused and nothing changes.  Otherwise it does what the interpretation of the
body does, in which every field stands for the leaf of the storage under its
own leaf's number: that is its own leaf if the field is placed in the tree of
the storage, and the leaf of another field, which host code is not given for
it, if the field is not. -/
theorem run_eq_by_number
    (lowered : (ofBody name target context body slots).1 = .ok ir)
    (recorded : Stmt.Recorded body)
    (ownArguments : Stmt.OwnArguments context.argTypes body)
    (known : context.objects.layouts[id]? = some tree)
    (declared : ∀ tree ∈ context.objects.layouts, tree.Declared)
    (kept : storage.Of id tree) (count : hostArgs.length = ir.argTypes.length) :
    (¬ Stmt.NumbersKept context.objects.layouts storage body →
      ir.run objects storage hostArgs = ⟨.error (.run (.foreignField name)), storage, #[]⟩) ∧
    (Stmt.NumbersKept context.objects.layouts storage body →
      (∀ args, (ir.convertArgs hostArgs).run objects = .ok args →
        ir.run objects storage hostArgs =
          (Interpretation.ofBody context.objects.layouts objects.rendering
            context.objects.layouts.leafOf args body).run storage body) ∧
      ∀ field, Stmt.Occurs body (.field field) → ∃ other leaf held,
        context.objects.layouts.leafOf? field = some (other, leaf) ∧
        storage.leaf? leaf.id = some held ∧
        (other = id → held = leaf) ∧
        (other ≠ id → storage.leafOf context.objects.layouts field =
          .error (.contract (.foreignField field.text)))) := by
  obtain ⟨lowers, argTypes, sameName⟩ := lowers_of_ofBody recorded.occurring lowered
  have declaredAt {other : Nat} {found : Tree}
      (at? : context.objects.layouts[other]? = some found) : found.Declared :=
    declared found (Array.mem_of_getElem? at?)
  refine ⟨?_, ?_⟩
  · intro missing
    rw [numbersKept_iff lowers] at missing
    rw [run, checkCall_missing count missing, sameName]
  · intro numbers
    refine ⟨?_, ?_⟩
    · intro args converted
      refine run_eq_of_faithful lowers.performs
        (faithful lowers recorded.occurring argTypes ownArguments ?_ ?_ count converted)
        ((checkCall_eq count ((numbersKept_iff lowers).mp numbers)).trans converted)
      all_goals
        intro field leaf occurs found
        obtain ⟨⟨other, node⟩, placed, same⟩ := Option.map_eq_some_iff.mp found
        subst same
      · simp only [Layouts.leafOf, placed]
      · obtain ⟨_, at?, held⟩ := Layouts.leafOf?_eq_some placed
        exact (declaredAt at?).proper.type_of_leafOf? held
    · intro field occurs
      obtain ⟨other, leaf, placed, _⟩ := lowers.placed occurs
      obtain ⟨held, found⟩ := Option.isSome_iff_exists.mp (numbers field other leaf occurs placed)
      refine ⟨other, leaf, held, placed, found, ?_, kept.leafOf_foreign placed⟩
      rintro rfl
      obtain ⟨_, at?, holds⟩ := Layouts.leafOf?_eq_some placed
      rw [known] at at?
      cases at?
      obtain ⟨member, isLeaf⟩ := Tree.mem_of_leafOf? holds
      have same := kept.leaf?_eq (declaredAt known).proper member isLeaf
      rw [found] at same
      exact Option.some.inj same

end KernelIR

namespace Collision

def own : Field :=
  ⟨0, ⟨0, some "a"⟩, .i32⟩

def foreign : Field :=
  ⟨1, ⟨1, some "b"⟩, .i32⟩

/-- A sealed tree with one field, whose leaf has the number 1. -/
def treeOf (field : Field) : Tree :=
  { ((Tree.new none).add Tree.root (.place field) []).1 with isSealed := true }

def objects : Objects :=
  ⟨.empty, #[], #[treeOf own, treeOf foreign], #[], #[]⟩

/-- The field of the second tree is set to 7. -/
def body : List Stmt :=
  [.assign none (.element 2 foreign []) (.literal 3 (.int 7) .i32)]

def context : LoweringContext :=
  ⟨.x86, [], objects, ∅⟩

def nodes : List Expr :=
  [.field foreign, .element 2 foreign [], .literal 3 (.int 7) .i32]

theorem covers : ∀ root ∈ Stmt.blockRoots body, root ∈ nodes := by
  simp [body, nodes, Stmt.blockRoots, Stmt.roots]

theorem closed : ∀ expr ∈ nodes, ∀ part ∈ expr.operands, part ∈ nodes := by
  simp [nodes, Expr.operands]

/-- The body is recorded with a builder, after both fields were made. -/
theorem recorded : Stmt.Recorded body := by
  have start : Recorder.Reached ⟨⟨.empty, #[], #[], #[], #[]⟩, ⟨0, 0⟩, .empty, 0, #[]⟩ [] :=
    .start rfl rfl rfl
  have first := start.step (.build (.field (.text 0 "a") (.text 0 "i32"))) (.expr (.field own))
    (by simp [Operation.values, Building.values, HostValue.exprs]) rfl
  have second := first.step (.build (.field (.text 0 "b") (.text 0 "i32")))
    (.expr (.field foreign)) (by simp [Operation.values, Building.values, HostValue.exprs]) rfl
  have block := second.step (.newBlock "kernel k") (.block 0) (by simp [Operation.values]) rfl
  have scope := block.step (.enterRoot (.block 0)) (.guard 0 0 (.block 0))
    (by simp [Operation.values, HostValue.exprs]) rfl
  have element := scope.step (.build (.subscript (.expr (.field foreign)) (.tuple 0 [])))
    (.expr (.element 2 foreign []))
    (by simp [Operation.values, Building.values, HostValue.exprs, HostValue.allExprs]) rfl
  have stored := element.step (.assign (.expr (.element 2 foreign [])) (.int 0 7)) (.statement 0)
    (by simp [Operation.values, HostValue.exprs]) rfl
  exact ⟨_, _, 0, stored, rfl⟩

theorem ownArguments : Stmt.OwnArguments [] body := by
  intro key position type occurs
  have member := occurs.mem covers closed
  simp [nodes] at member

theorem declared_treeOf (field : Field) (typed : field.type ≠ .unknown) :
    (treeOf field).Declared :=
  .sealed (.place (.new none) (by simp [Tree.declared_new]) rfl typed) rfl

theorem declared : ∀ tree ∈ context.objects.layouts, tree.Declared := by
  intro tree member
  have either : tree = treeOf own ∨ tree = treeOf foreign := by
    simpa [context, objects] using member
  rcases either with rfl | rfl
  · exact declared_treeOf own (by decide)
  · exact declared_treeOf foreign (by decide)

/-- A new storage of the first tree. -/
def storage : Storage :=
  ⟨some 0, [⟨[⟨0, .root, []⟩], ⟨1, .place own, []⟩⟩], [], ∅, ∅⟩

theorem ofTree_eq : Storage.ofTree 0 (treeOf own) Tree.root = .ok storage := by
  have walk : (treeOf own).walk Tree.root = (treeOf own).declared :=
    List.mergeSort_of_pairwise (by decide)
  simp only [Storage.ofTree, walk]
  rfl

theorem numbersKept : Stmt.NumbersKept context.objects.layouts storage body := by
  intro field tree leaf occurs placed
  have member := occurs.mem covers closed
  simp only [nodes, List.mem_cons, List.not_mem_nil, reduceCtorEq, Expr.field.injEq,
    or_false] at member
  subst member
  have second : context.objects.layouts.leafOf? foreign =
      some (1, ⟨[⟨0, .root, []⟩], ⟨1, .place foreign, []⟩⟩) := rfl
  rw [second] at placed
  cases placed
  rfl

/-- The kernel is called on a new storage of the first tree. -/
theorem run_by_number :
    ∃ ir, (KernelIR.ofBody "k" (.member .x86) context body .empty).1 = .ok ir ∧
      Storage.ofTree 0 (treeOf own) Tree.root = .ok storage ∧
      ir.run objects storage [] =
        (Interpretation.ofBody context.objects.layouts objects.rendering
          context.objects.layouts.leafOf [] body).run storage body := by
  have lowers : (KernelIR.ofBody "k" (.member .x86) context body .empty).1.isOk = true := by
    decide +kernel
  obtain ⟨ir, lowered⟩ := exists_ok lowers
  obtain ⟨_, argTypes, _⟩ := KernelIR.lowers_of_ofBody recorded.occurring lowered
  have count : ([] : List HostValue).length = ir.argTypes.length := by rw [argTypes]; rfl
  exact ⟨ir, lowered, ofTree_eq,
    ((KernelIR.run_eq_by_number lowered recorded ownArguments rfl declared
      (Storage.of_ofTree ofTree_eq) count).2 numbersKept).1 [] rfl⟩

/-- The element of the first field, as a whole number. -/
def ownElement (storage : Storage) : Option Int :=
  (storage.read 1 [] >>= fun value => (Box.ofScalar value).index).toOption

/-- The kernel sets a field that the storage does not hold.  It is not refused
as host code would be: it succeeds, and changes the field that the storage
does hold. -/
theorem run_changes_own_field :
    storage.leafOf objects.layouts foreign =
        .error (.contract (.foreignField foreign.text)) ∧
      storage.leafOf objects.layouts own = .ok ⟨[⟨0, .root, []⟩], ⟨1, .place own, []⟩⟩ ∧
      ownElement storage = some 0 ∧
      ∃ ir, (KernelIR.ofBody "k" (.member .x86) context body .empty).1 = .ok ir ∧
        (ir.run objects storage []).outcome.isOk ∧
        ownElement (ir.run objects storage []).storage = some 7 := by
  have changes : (KernelIR.ofBody "k" (.member .x86) context body .empty).1.toOption.any
      (fun ir => (ir.run objects storage []).outcome.isOk &&
        ownElement (ir.run objects storage []).storage = some 7) = true := by
    decide +kernel
  obtain ⟨ir, lowered, both⟩ := exists_ok_of_any changes
  simp only [Bool.and_eq_true, decide_eq_true_eq] at both
  exact ⟨rfl, rfl, by decide +kernel, ir, lowered, both.1, both.2⟩

end Collision

end FieldKernel
