import FieldKernel.Proofs.Execution.Refinement
import FieldKernel.Proofs.Lowering.Kernels
import FieldKernel.Proofs.Recording.Declarations
import FieldKernel.Proofs.Storage.Layout

/-!
# Calls of lowered kernels

A kernel is called with values of the host, which are converted before its
code runs.  If its fields are placed in the layout of the storage, a call does
what the interpretation of its body does.
-/

namespace FieldKernel

/-- The arguments that are loaded in a body are those that its kernel takes. -/
def Stmt.OwnArguments (argTypes : List DataType) (body : List Stmt) : Prop :=
  ∀ (key : Nat) (position : Int) (type : DataType),
    Stmt.Occurs body (.argument key position type) →
      ∃ place : Nat, position = place ∧ argTypes[place]? = some type

/-- The fields in a body are placed in one tree. -/
def Stmt.PlacedIn (layouts : Layouts) (id : Nat) (body : List Stmt) : Prop :=
  ∀ field : Field, Stmt.Occurs body (.field field) →
    ∃ leaf, layouts.leafOf? field = some (id, leaf)

/-- A field in a body is found in the tree that the fields are placed in. -/
theorem Stmt.PlacedIn.mem_declared {layouts : Layouts} {id : Nat} {body : List Stmt}
    (placed : Stmt.PlacedIn layouts id body) {tree : Tree} (known : layouts[id]? = some tree)
    {field : Field} {leaf : Node} (occurs : Stmt.Occurs body (.field field))
    (found : (layouts.leafOf? field).map (·.2) = some leaf) :
    leaf ∈ tree.declared ∧ leaf.isLeaf := by
  obtain ⟨other, foundOther⟩ := placed field occurs
  obtain ⟨_, foundTree, held⟩ := Layouts.leafOf?_eq_some foundOther
  rw [known] at foundTree
  cases foundTree
  rw [foundOther] at found
  cases found
  exact Tree.mem_of_leafOf? held

namespace Ask

variable {objects : Objects}

theorem run_bind {α β : Type} (question : Ask α) (next : α → Ask β) :
    (question >>= next).run objects =
      question.run objects >>= fun answer => (next answer).run objects :=
  rfl

/-- There is an answer for every item of a row if there is one for the row. -/
theorem answered_of_mapM {α β : Type} {question : α → Ask β} {items : List α}
    {answers : List β} (answered : (items.mapM question).run objects = .ok answers) :
    ∀ item ∈ items, ∃ answer, (question item).run objects = .ok answer := by
  induction items generalizing answers with
  | nil => simp
  | cons first rest hypothesis =>
      rw [List.mapM_cons] at answered
      cases head : (question first).run objects with
      | error error =>
          rw [run_bind, head] at answered
          cases answered
      | ok answer =>
          rw [run_bind, head] at answered
          cases tail : (rest.mapM question).run objects with
          | error error =>
              have fails : (rest.mapM question).run objects >>=
                  (fun answers => .ok (answer :: answers)) = .ok _ := answered
              rw [tail] at fails
              cases fails
          | ok answers =>
              intro item member
              rcases List.mem_cons.mp member with rfl | member
              · exact ⟨answer, head⟩
              · exact hypothesis tail item member

/-- The answers for a row are those for its items, each in its place. -/
theorem answered_at {α β : Type} {question : α → Ask β} {items : List α} {answers : List β}
    (answered : (items.mapM question).run objects = .ok answers) {place : Nat} {answer : β}
    (taken : answers[place]? = some answer) :
    ∃ item, items[place]? = some item ∧ (question item).run objects = .ok answer := by
  induction items generalizing answers place with
  | nil =>
      cases answered
      cases taken
  | cons first rest hypothesis =>
      rw [List.mapM_cons, run_bind] at answered
      obtain ⟨head, asked, answered⟩ := bind_eq_ok.mp answered
      obtain ⟨tail, asksRest, made⟩ := bind_eq_ok.mp answered
      cases made
      cases place with
      | zero =>
          cases taken
          exact ⟨first, rfl, asked⟩
      | succ place => exact hypothesis asksRest taken

/-- Nothing is a value of a type that is not known. -/
theorem scalars_unknown (objects : Objects) (value : HostValue) :
    ∃ error, (scalars value .unknown).run objects = .error error := by
  rw [scalars, run_bind]
  refine exists_error_of_bind fun numbers => ?_
  split
  · next number =>
    obtain ⟨error, refused⟩ := number.convert_unknown
    exact ⟨error, by rw [refused]; rfl⟩
  · split
    · exact ⟨_, rfl⟩
    · exact exists_error_of_bind fun written => ⟨_, rfl⟩

end Ask

namespace KernelIR

variable {name : String} {target : ArchSetting} {context : LoweringContext} {body : List Stmt}
  {slots : TypeSlots} {ir : KernelIR} {code : Code} {objects : Objects} {storage : Storage} {id : Nat}
  {tree : Tree} {hostArgs : List HostValue} {args : List Box}

/-- No argument that a value was converted to is without a type. -/
theorem argTypes_known (count : hostArgs.length = ir.argTypes.length)
    (converted : (ir.convertArgs hostArgs).run objects = .ok args) {place : Nat}
    {type : DataType} (found : ir.argTypes[place]? = some type) : type ≠ .unknown := by
  rintro rfl
  obtain ⟨inside, same⟩ := List.getElem?_eq_some_iff.mp found
  have member : (hostArgs[place], ir.argTypes[place]) ∈ hostArgs.zip ir.argTypes := by
    have zipped : place < (hostArgs.zip ir.argTypes).length := by
      simp only [List.length_zip]
      omega
    rw [← List.getElem_zip (h := zipped)]
    exact List.getElem_mem zipped
  obtain ⟨answer, answered⟩ := Ask.answered_of_mapM converted _ member
  obtain ⟨error, refused⟩ := Ask.scalars_unknown objects hostArgs[place]
  rw [same] at answered
  rw [refused] at answered
  cases answered

/-- The leaves that a kernel lists are kept by a storage of the tree that its
fields are placed in. -/
theorem leaves_kept (lowers : ir.Lowers context.leafOf? (.block context.leafOf? .none body) body)
    (placed : Stmt.PlacedIn context.objects.layouts id body)
    (known : context.objects.layouts[id]? = some tree) (declared : tree.Declared)
    (kept : storage.Of id tree) :
    ∀ leaf ∈ ir.leaves, (storage.leaf? leaf).isSome := by
  intro leaf touched
  obtain ⟨field, node, occurs, found, rfl⟩ := lowers.touched touched
  obtain ⟨member, isLeaf⟩ := placed.mem_declared known occurs found
  rw [kept.leaf?_eq declared.proper member isLeaf]
  rfl

/-- The check of a call passes the converted arguments on. -/
theorem checkCall_eq (count : hostArgs.length = ir.argTypes.length)
    (kept : ∀ leaf ∈ ir.leaves, (storage.leaf? leaf).isSome) :
    (ir.checkCall storage hostArgs).run objects = (ir.convertArgs hostArgs).run objects := by
  have all : ir.leaves.all (fun leaf => (storage.leaf? leaf).isSome) := List.all_eq_true.mpr kept
  simp only [checkCall, count, ne_eq, not_true_eq_false, if_false, all, if_true]

theorem checkCall_count (different : hostArgs.length ≠ ir.argTypes.length) :
    (ir.checkCall storage hostArgs).run objects =
      .error (.run (.argumentCount ir.name ir.argTypes.length hostArgs.length)) := by
  simp only [checkCall, different, ne_eq, not_false_eq_true, if_true]
  rfl

/-- A call that touches a leaf with a number that the storage lacks is refused. -/
theorem checkCall_missing (count : hostArgs.length = ir.argTypes.length)
    (missing : ¬ ∀ leaf ∈ ir.leaves, (storage.leaf? leaf).isSome) :
    (ir.checkCall storage hostArgs).run objects = .error (.run (.foreignField ir.name)) := by
  have notAll : ¬ ir.leaves.all (fun leaf => (storage.leaf? leaf).isSome) := by
    rwa [List.all_eq_true]
  simp only [checkCall, count, ne_eq, not_true_eq_false, if_false, notAll]
  rfl

/-- A call that is not refused is made with the converted arguments. -/
theorem converted_of_checkCall (checked : (ir.checkCall storage hostArgs).run objects = .ok args) :
    (ir.convertArgs hostArgs).run objects = .ok args := by
  by_cases count : hostArgs.length = ir.argTypes.length
  · by_cases kept : ∀ leaf ∈ ir.leaves, (storage.leaf? leaf).isSome
    · rwa [checkCall_eq count kept] at checked
    · rw [checkCall_missing count kept] at checked
      cases checked
  · rw [checkCall_count count] at checked
    cases checked

/-- The code of a kernel and an interpretation of its body look up the same
things, if the interpretation finds for every field the leaf it is placed at. -/
theorem faithful (lowers : ir.Lowers context.leafOf? (.block context.leafOf? .none body) body)
    (occurring : Occurring (Stmt.Occurs body)) (argTypes : ir.argTypes = context.argTypes)
    (ownArguments : Stmt.OwnArguments context.argTypes body)
    {leafOf : Field → Except Error Node}
    (finds : ∀ field leaf, Stmt.Occurs body (.field field) → context.leafOf? field = some leaf →
      leafOf field = .ok leaf)
    (typed : ∀ field leaf, Stmt.Occurs body (.field field) → context.leafOf? field = some leaf →
      leaf.type ≠ .unknown)
    (count : hostArgs.length = ir.argTypes.length)
    (converted : (ir.convertArgs hostArgs).run objects = .ok args) :
    (ir.code (.block context.leafOf? .none body) context.leafOf?).Faithful (Stmt.Occurs body)
      ⟨ir.nodes, ir.varTypes, args, objects.rendering⟩
      (.ofBody context.objects.layouts objects.rendering leafOf args body) := by
  refine ⟨occurring, ⟨rfl, fun id node => lowers.ordered⟩, rfl, finds _ _, typed _ _, ?_,
    rfl, rfl, lowers.declared⟩
  intro key position occurs
  obtain ⟨place, _, found⟩ := ownArguments key position _ occurs
  rw [← argTypes] at found
  exact argTypes_known count converted found rfl

/-- Converted arguments given, a call that is not refused does what the
interpretation does. -/
theorem run_eq_of_faithful {leafOf : Field → Except Error Node}
    (performs : code.PerformsAll body ir.body)
    (faithful : code.Faithful (Stmt.Occurs body)
      ⟨ir.nodes, ir.varTypes, args, objects.rendering⟩
      (.ofBody context.objects.layouts objects.rendering leafOf args body))
    (checked : (ir.checkCall storage hostArgs).run objects = .ok args) :
    ir.run objects storage hostArgs =
      (Interpretation.ofBody context.objects.layouts objects.rendering leafOf args body).run
        storage body := by
  have same := performs.ops_eq faithful body fun root member => .root member
  rewrite [run, checked, Interpretation.run, ← same]
  rfl

/-- A call of a lowered kernel on any state of a storage does what the
interpretation of the recorded body does: it ends the same way, leaves the same
elements and cells behind, and prints the same lines. -/
theorem run_eq_interpretation
    (lowered : (ofBody name target context body slots).1 = .ok ir)
    (recorded : Stmt.Recorded body)
    (ownArguments : Stmt.OwnArguments context.argTypes body)
    (ownFields : Stmt.PlacedIn context.objects.layouts id body)
    (known : context.objects.layouts[id]? = some tree) (declared : tree.Declared)
    (kept : storage.Of id tree) (count : hostArgs.length = ir.argTypes.length)
    (converted : (ir.convertArgs hostArgs).run objects = .ok args) :
    ir.run objects storage hostArgs =
      (Interpretation.ofBody context.objects.layouts objects.rendering
        (storage.leafOf context.objects.layouts) args body).run storage body := by
  obtain ⟨lowers, argTypes, _⟩ := lowers_of_ofBody recorded.occurring lowered
  have placed (field : Field) (leaf : Node) (occurs : Stmt.Occurs body (.field field))
      (found : context.leafOf? field = some leaf) :
      context.objects.layouts.leafOf? field = some (id, leaf) := by
    obtain ⟨other, foundOther⟩ := ownFields field occurs
    have same : other = leaf := by simpa [LoweringContext.leafOf?, foundOther] using found
    rw [foundOther, same]
  refine run_eq_of_faithful lowers.performs
    (faithful lowers recorded.occurring argTypes ownArguments ?_ ?_ count converted)
    ((checkCall_eq count (leaves_kept lowers ownFields known declared kept)).trans converted)
  · intro field leaf occurs found
    exact kept.leafOf_eq declared.proper known (placed field leaf occurs found)
  · intro field leaf occurs found
    obtain ⟨_, foundTree, held⟩ := Layouts.leafOf?_eq_some (placed field leaf occurs found)
    rw [known] at foundTree
    cases foundTree
    exact declared.proper.type_of_leafOf? held

end KernelIR

namespace Summation

/-- The field that a sum goes to, without axes. -/
def total : Field :=
  ⟨1, ⟨0, some "total"⟩, .i32⟩

def tree : Tree :=
  { ((Tree.new none).add Tree.root (.place total) []).1 with isSealed := true }

def objects : Objects :=
  ⟨.empty, #[], #[tree], #[], #[]⟩

/-- A variable without a type of its own. -/
def limit : Variable :=
  ⟨2, ⟨1, none⟩⟩

def counter : Variable :=
  ⟨3, ⟨2, some "i"⟩⟩

def argument : Expr :=
  .argument 0 0 .i32

def sum : Expr :=
  .binary 6 .add (.element 5 total []) (.identifier counter)

/-- The numbers below the argument are added to the field. -/
def body : List Stmt :=
  [.alloca none limit.identifier .unknown,
    .assign none (.identifier limit) argument,
    .loop none [counter] (.range (.literal 4 (.int 0) .i32) (.identifier limit)) .empty
      [.assign none (.element 5 total []) sum]]

/-- The body is composed with a builder. -/
theorem composed : Stmt.Composed body := by
  have start : Recorder.Composed ⟨⟨.empty, #[], #[], #[], #[]⟩, ⟨0, 0⟩, .empty, 0, #[]⟩ [] :=
    .start rfl rfl rfl
  have arguments := start.step (.build (.arguments [.i32])) (Building.row [argument])
    trivial (by simp [Operation.values, Building.values]) rfl
  have field := arguments.step (.build (.field (.text 0 "total") (.text 0 "i32")))
    (.expr (.field total))
    trivial (by simp [Operation.values, Building.values, HostValue.exprs]) rfl
  have block := field.step (.newBlock "kernel sum") (.block 0) trivial (by simp [Operation.values]) rfl
  have scope := block.step (.enterRoot (.block 0)) (.guard 0 0 (.block 0))
    trivial (by simp [Operation.values, HostValue.exprs]) rfl
  have declared := scope.step (.alloca none) (.expr (.identifier limit))
    trivial (by simp [Operation.values]) rfl
  have assigned := declared.step (.assign (.expr (.identifier limit)) (.expr argument))
    (.statement 1) trivial (by simp [Operation.values, HostValue.exprs, HostValue.allExprs, Building.row]) rfl
  have named := assigned.step (.build (.freshVariable (some "i"))) (.expr (.identifier counter))
    trivial (by simp [Operation.values, Building.values]) rfl
  have loop := named.step
    (.beginRange (.expr (.identifier counter)) (.int 0 0) (.expr (.identifier limit)))
    (.statement 2) trivial (by simp [Operation.values, HostValue.exprs]) rfl
  have inside := loop.step .enterBody (.guard 0 1 (.block 1)) trivial (by simp [Operation.values]) rfl
  have element := inside.step (.build (.subscript (.expr (.field total)) (.tuple 0 [])))
    (.expr (.element 5 total []))
    trivial (by simp [Operation.values, Building.values, HostValue.exprs, HostValue.allExprs]) rfl
  have added := element.step
    (.build (.operator .add (.expr (.element 5 total [])) (.expr (.identifier counter))))
    (.expr sum) trivial (by simp [Operation.values, Building.values, HostValue.exprs]) rfl
  have stored := added.step (.assign (.expr (.element 5 total [])) (.expr sum)) (.statement 3)
    trivial (by simp [Operation.values, HostValue.exprs]) rfl
  exact ⟨_, _, 0, stored, rfl⟩

theorem recorded : Stmt.Recorded body :=
  composed.recorded

def context : LoweringContext :=
  ⟨.x86, [.i32], objects, ∅⟩

/-- All that occurs in the body. -/
def nodes : List Expr :=
  [.field total, .identifier limit, .identifier counter, .element 5 total [], argument,
    .literal 4 (.int 0) .i32, sum]

theorem covers : ∀ root ∈ Stmt.blockRoots body, root ∈ nodes := by
  simp [body, nodes, Stmt.blockRoots, Stmt.roots, LoopSource.roots]

theorem closed : ∀ expr ∈ nodes, ∀ part ∈ expr.operands, part ∈ nodes := by
  simp [nodes, Expr.operands, argument, sum]

theorem ownArguments : Stmt.OwnArguments [.i32] body := by
  intro key position type occurs
  have member := occurs.mem covers closed
  simp only [nodes, argument, sum, List.mem_cons, List.not_mem_nil, reduceCtorEq,
    Expr.argument.injEq, false_or, or_false] at member
  obtain ⟨_, rfl, rfl⟩ := member
  exact ⟨0, rfl, rfl⟩

theorem ownFields : Stmt.PlacedIn context.objects.layouts 0 body := by
  intro field occurs
  have member := occurs.mem covers closed
  simp only [nodes, argument, sum, List.mem_cons, List.not_mem_nil, reduceCtorEq,
    Expr.field.injEq, or_false] at member
  subst member
  exact ⟨_, rfl⟩

theorem declared : tree.Declared :=
  .sealed (.place (.new none) (by simp [Tree.declared_new]) rfl (by decide)) rfl

/-- The kernel is called with the argument 4, on a new storage of the tree. -/
theorem run_interprets_body :
    ∃ ir storage args,
      (KernelIR.ofBody "sum" (.member .x86) context body .empty).1 = .ok ir ∧
      Storage.ofTree 0 tree Tree.root = .ok storage ∧
      (ir.convertArgs [.int 8 4]).run objects = .ok args ∧
      ir.run objects storage [.int 8 4] =
        (Interpretation.ofBody context.objects.layouts objects.rendering
          (storage.leafOf context.objects.layouts) args body).run storage body := by
  have lowers : (KernelIR.ofBody "sum" (.member .x86) context body .empty).1.isOk = true := by
    decide +kernel
  obtain ⟨ir, lowered⟩ := exists_ok lowers
  obtain ⟨_, argTypes, _⟩ := KernelIR.lowers_of_ofBody recorded.occurring lowered
  have count : [HostValue.int 8 4].length = ir.argTypes.length := by rw [argTypes]; rfl
  obtain ⟨args, converted⟩ : ∃ args, (ir.convertArgs [.int 8 4]).run objects = .ok args := by
    rw [KernelIR.convertArgs, argTypes]
    exact exists_ok (by decide +kernel)
  have made : Storage.ofTree 0 tree Tree.root = .ok _ := rfl
  exact ⟨ir, _, args, lowered, made, converted,
    KernelIR.run_eq_interpretation lowered recorded ownArguments ownFields rfl declared
      (Storage.of_ofTree made) count converted⟩

end Summation

end FieldKernel
