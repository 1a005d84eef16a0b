import FieldKernel.Proofs.Execution.Calls
import FieldKernel.Proofs.Execution.Lookups
import FieldKernel.Proofs.Execution.Triples
import FieldKernel.Proofs.Meaning.Paths

/-!
# Variables that are not set

Lowering accepts a variable that is declared somewhere before it is read, in
program order.  A run sets it only where it comes along.  A run finds every
variable if no path through the recorded code reads one before it sets it.
-/

namespace FieldKernel

/-- A storage holds what code touches, with as many axes as the code takes the
leaves to have. -/
structure Code.Fits (occurs : Expr → Prop) (code : Code) (context : RunContext)
    (storage : Storage) : Prop where
  loaded : code.LoadedIn context
  leaves {leaf : Nat} (touched : code.touched leaf) : (storage.leaf? leaf).isSome
  pointers : storage.KeepsPointers
  axes {field : Field} {leaf held : Node} (known : occurs (.field field))
    (placed : code.typing.leafOf? field = some leaf) (found : storage.leaf? leaf.id = some held) :
    held.lineage.axes.length = leaf.lineage.axes.length
  writing : context.rendering.Writing

/-- The type of the zero that a declaration sets a variable to in a run. -/
def RunContext.resetType (context : RunContext) (id : Nat) : DataType :=
  (context.varTypes.lookup id).getD .unknown

/-- A state of a run on a storage in which some variables are set. -/
structure Run.Binds (storage : Storage) (bound : List Nat) (run : Run) : Prop where
  alike : storage.Alike run.storage
  isSet {id : Nat} (member : id ∈ bound) : (run.frame[id]?).isSome

namespace Run

variable {storage : Storage} {bound more missing : List Nat} {run : Run}

theorem Binds.mono (binds : run.Binds storage more) (fewer : ∀ id ∈ bound, id ∈ more) :
    run.Binds storage bound :=
  ⟨binds.alike, fun member => binds.isSet (fewer _ member)⟩

/-- The look-up of a variable fails only if the variable is not set. -/
theorem Binds.finds_variable (binds : run.Binds storage bound) {id : Nat}
    (either : id ∈ bound ∨ id ∈ missing) : Finds missing (RunContext.variableValue run id) := by
  unfold RunContext.variableValue
  split
  · exact .ok _
  · next unset =>
    rcases either with member | member
    · simpa [unset] using binds.isSet member
    · intro error failure key same
      cases failure
      cases same
      exact ⟨id, member, rfl⟩

end Run

namespace Code

variable {occurs : Expr → Prop} {code : Code} {context : RunContext} {storage : Storage}

section Values

variable {bound missing : List Nat} {run : Run}

theorem Fits.leaf (fits : code.Fits occurs context storage) (binds : run.Binds storage bound)
    {leaf : Nat} (touched : code.touched leaf) : (run.storage.leaf? leaf).isSome := by
  rw [binds.alike.leaf?_eq]
  exact fits.leaves touched

theorem Brings.finds (fits : code.Fits occurs context storage) {source target : DataType}
    {node result : Nat} (finds : Finds missing (context.valueOf run node))
    (brings : code.Brings source target node result) : Finds missing (context.valueOf run result) := by
  rcases brings with ⟨_, rfl⟩ | ⟨_, found⟩
  · exact finds
  · rw [fits.loaded.valueOf_eq found]
    exact finds.bind fun value => value.finds_convert target

mutual

/-- The node of an expression whose variables are set finds what it looks
up. -/
theorem Computes.finds (fits : code.Fits occurs context storage) (binds : run.Binds storage bound)
    (expr : Expr) {id : Nat} (computes : code.Computes expr id)
    (reads : ∀ var ∈ expr.reads, var ∈ bound ∨ var ∈ missing) : Finds missing (context.valueOf run id) := by
  cases computes with
  | literal found =>
      rw [fits.loaded.valueOf_eq found]
      exact (Literal.finds_convert _ _).bind fun _ => .ok _
  | @identifier var _ settled found =>
      rw [fits.loaded.valueOf_eq found]
      exact binds.finds_variable (reads var.identifier.id (by simp [Expr.reads]))
  | argument found =>
      rw [fits.loaded.valueOf_eq found]
      exact context.finds_argument _
  | binary common integral computesLeft computesRight bringsLeft bringsRight found =>
      have left := bringsLeft.finds fits (computesLeft.finds fits binds _
        fun var member => reads var (by simp [Expr.reads, member]))
      have right := bringsRight.finds fits (computesRight.finds fits binds _
        fun var member => reads var (by simp [Expr.reads, member]))
      rw [fits.loaded.valueOf_eq found]
      exact left.bind fun _ => right.bind fun _ => RunContext.finds_applied _
  | unary widened integral computes widens floats found =>
      have operand := floats.finds fits (widens.finds fits (computes.finds fits binds _
        fun var member => reads var (by simpa [Expr.reads] using member)))
      rw [fits.loaded.valueOf_eq found]
      exact operand.bind fun _ => RunContext.finds_applied _
  | cast computes found =>
      have operand := computes.finds fits binds _
        fun var member => reads var (by simpa [Expr.reads] using member)
      rw [fits.loaded.valueOf_eq found]
      exact operand.bind fun value => value.finds_convert _
  | element placed touched arity computes found | load placed touched arity computes found =>
      have index := computes.finds fits binds _
        fun var member => reads var (by simpa [Expr.reads] using member)
      rw [fits.loaded.valueOf_eq found]
      refine index.bind fun position => ?_
      exact (Storage.finds_read (fits.leaf binds touched) position).bind fun _ => .ok _

theorem ComputesIndex.finds (fits : code.Fits occurs context storage)
    (binds : run.Binds storage bound) (indices : List Expr) {nodes : List Nat}
    (computes : code.ComputesIndex indices nodes)
    (reads : ∀ var ∈ Expr.rowReads indices, var ∈ bound ∨ var ∈ missing) :
    Finds missing (nodes.mapM fun node => do (← context.valueOf run node).index) := by
  cases computes with
  | nil => exact .ok []
  | cons computes integral later =>
      have first := computes.finds fits binds _
        fun var member => reads var (by simp [Expr.rowReads, member])
      have others := later.finds fits binds _
        fun var member => reads var (by simp [Expr.rowReads, member])
      rw [List.mapM_cons]
      refine (first.bind fun value => value.finds_index).bind fun _ => ?_
      exact others.bind fun _ => .ok _

end

end Values

end Code

/-- What follows on a computation that misses nothing else misses nothing else either. -/
theorem Ensures.finds {α β : Type} {missing : List Nat} {before : Run → Prop}
    {after : β → Run → Prop} {outcome : Except Error α} {next : α → Execute β} (found : Finds missing outcome)
    (ensures : ∀ result, outcome = .ok result → Ensures before (next result) after
      (fun error _ => Misses missing error)) :
    Ensures before (Execute.ofExcept outcome >>= next) after (fun error _ => Misses missing error) :=
  .compute (fun error fails _ _ => found error fails) ensures

namespace Execute

open Run (Binds)

variable {storage : Storage} {bound missing : List Nat}

theorem setVariable_binds (id : Nat) (value : Box) :
    Ensures (Binds storage bound) (setVariable id value) (fun _ => Binds storage (id :: bound))
      (fun error _ => Misses missing error) := by
  refine .modify fun run binds => ⟨binds.alike, fun {other} member => ?_⟩
  rw [Std.TreeMap.getElem?_insert]
  split
  · rfl
  · next different =>
    refine binds.isSet ((List.mem_cons.mp member).resolve_left fun same => different ?_)
    rw [same, Std.compare_self]

theorem setCounter_binds (id : Nat) (value : Int) :
    Ensures (Binds storage bound) (setCounter id value) (fun _ => Binds storage (id :: bound))
      (fun error _ => Misses missing error) :=
  .finds (Literal.finds_convert _ _) fun _ _ => setVariable_binds id _

/-- Every loop variable is set if there are as many positions. -/
theorem setCounters_binds (vars : List Nat) (index : List Nat)
    (enough : vars.length ≤ index.length) :
    Ensures (Binds storage bound)
      ((vars.zip index).forM fun (var, position) => setCounter var position)
      (fun _ => Binds storage (vars ++ bound)) (fun error _ => Misses missing error) := by
  induction vars generalizing index bound with
  | nil => exact .pure fun _ => id
  | cons var rest hypothesis =>
      cases index with
      | nil => simp at enough
      | cons position others =>
          refine (setCounter_binds var position).bind fun _ => ?_
          refine (hypothesis others (by simpa using enough)).weaken (fun _ => id) ?_
          intro _ run binds
          exact binds.mono (by simp; tauto)

theorem write_binds (pointers : storage.KeepsPointers) {leaf : Nat}
    (kept : (storage.leaf? leaf).isSome) (index : List Int) (value : Box) :
    Ensures (Binds storage bound) (write leaf index value) (fun _ => Binds storage bound)
      (fun error _ => Misses missing error) := by
  refine .write (fun run binds error fails => ?_) fun run binds _ =>
    ⟨binds.alike.trans (Storage.alike_write leaf index _), binds.isSet⟩
  have found : Finds missing (run.storage.write leaf index value.stored).1 :=
    Storage.finds_write (by rw [binds.alike.leaf?_eq]; exact kept)
      (binds.alike.keepsPointers pointers) index
      fun type => (value.finds_convert type).bind fun box => box.finds_element
  exact found error fails

end Execute

namespace Code

open Run (Binds)

variable {occurs : Expr → Prop} {code : Code} {context : RunContext} {storage : Storage}

section Operations

theorem Fits.evaluate (fits : code.Fits occurs context storage) {id : Nat}
    (inside : id < code.nodes.size) (run : Run) :
    Execute.evaluate (Execute.node context run id) = Execute.ofExcept (context.valueOf run id) :=
  (fits.loaded.agrees inside run).evaluate RunContext.remembers_empty

theorem Stores.finds (fits : code.Fits occurs context storage) {field : Field}
    {indices : List Expr} {value : Expr} {leaf : Node} {nodes : List Nat} {result : Nat}
    (stores : code.Stores field indices value leaf nodes result) {bound missing : List Nat}
    (reads : ∀ id ∈ Expr.rowReads indices ++ value.reads, id ∈ bound ∨ id ∈ missing) :
    Ensures (Binds storage bound) (Execute.op context (.store leaf.id nodes result))
      (fun _ => Binds storage bound) (fun error _ => Misses missing error) := by
  obtain ⟨⟨placed, touched, arity, computesIndex⟩, node, computes, brings⟩ := stores
  rw [Execute.op]
  refine .look fun run binds => ?_
  have agrees := (fits.loaded.positions_agree computesIndex.lt run).bind fun index _ =>
    (fits.loaded.agrees (brings.lt computes.lt) run).bind fun box _ => .pure (index, box)
  have index := computesIndex.finds fits binds indices fun id member => reads id (by simp [member])
  have box := brings.finds fits (computes.finds fits binds value
    fun id member => reads id (by simp [member]))
  rw [agrees.evaluate RunContext.remembers_empty]
  exact .finds (index.bind fun _ => box.bind fun _ => .ok _) fun result _ =>
    Execute.write_binds fits.pointers (fits.leaves touched) _ _

theorem Assigns.finds (fits : code.Fits occurs context storage) {var : Nat} {value : Expr}
    {result : Nat} (assigns : code.Assigns var value result) {bound missing : List Nat}
    (reads : ∀ id ∈ value.reads, id ∈ bound ∨ id ∈ missing) :
    Ensures (Binds storage bound) (Execute.op context (.assign var result))
      (fun _ => Binds storage (var :: bound)) (fun error _ => Misses missing error) := by
  obtain ⟨node, computes, brought⟩ := assigns
  rw [Execute.op]
  refine .look fun run binds => ?_
  have found := computes.finds fits binds value reads
  have both : result < code.nodes.size ∧ Finds missing (context.valueOf run result) := by
    rcases brought with ⟨_, rfl⟩ | ⟨_, brings⟩
    · exact ⟨computes.lt, found⟩
    · exact ⟨brings.lt computes.lt, brings.finds fits found⟩
  rw [fits.evaluate both.1]
  exact .finds both.2 fun box _ => Execute.setVariable_binds var box

mutual

/-- An operation whose statement needs no variable that is not set finds all
that it looks up, and sets what is assigned. -/
theorem Performs.finds (fits : code.Fits occurs context storage) (statement : Stmt) {op : Op}
    (known : ∀ root ∈ statement.roots, occurs root) (performs : code.Performs statement op)
    {bound missing : List Nat}
    (needs : ∀ id ∈ statement.needs context.resetType, id ∈ bound ∨ id ∈ missing) :
    Ensures (Binds storage bound) (Execute.op context op)
      (fun _ => Binds storage (statement.assigned context.resetType ++ bound)) (fun error _ => Misses missing error) := by
  cases performs with
  | @alloca site? identifier type =>
      rw [Execute.op, Stmt.assigned_eq_ownSets rfl, Stmt.ownSets, RunContext.resetType]
      split
      · next unknown =>
        rw [if_pos unknown]
        exact .pure fun _ => id
      · next unknown =>
        rw [if_neg unknown]
        exact .finds (Literal.finds_convert _ _) fun _ _ => Execute.setVariable_binds _ _
  | assign assigns =>
      exact assigns.finds fits needs
  | assignElement stores =>
      exact stores.finds fits needs
  | load accesses =>
      rw [Execute.op]
      refine .look fun run binds => ?_
      have agrees := fits.loaded.positions_agree accesses.computes.lt run
      rw [agrees.evaluate RunContext.remembers_empty]
      refine .finds (accesses.computes.finds fits binds _ needs) fun index _ => ?_
      exact .finds (Storage.finds_read (fits.leaf binds accesses.touched) index) fun _ _ =>
        .pure fun _ => id
  | store stores =>
      exact stores.finds fits needs
  | print computes =>
      rw [Execute.op]
      refine .look fun run binds => ?_
      rw [fits.evaluate computes.lt]
      refine .finds (computes.finds fits binds _ needs) fun value _ => ?_
      exact .finds (context.finds_printed fits.writing _ value) fun line _ => .modify fun _ binds =>
        ⟨binds.alike, binds.isSet⟩
  | branch computes performsTrue performsFalse =>
      simp only [Stmt.needs, HostValue.reads, List.mem_append] at needs
      rw [Execute.op]
      refine .look fun run binds => ?_
      rw [fits.evaluate computes.lt]
      refine .finds (computes.finds fits binds _ fun id member => needs id (.inl (.inl member)))
        fun value _ => .finds value.finds_isTrue fun isTrue _ => ?_
      split
      · refine (performsTrue.finds fits _ (fun root member => known root ?_)
          fun id member => needs id (.inl (.inr member))).weaken (fun _ => id) fun _ final binds => ?_
        · simp [Stmt.roots, member]
        · exact binds.mono (by simp [Stmt.assigned]; tauto)
      · refine (performsFalse.finds fits _ (fun root member => known root ?_)
          fun id member => needs id (.inr member)).weaken (fun _ => id) fun _ final binds => ?_
        · simp [Stmt.roots, member]
        · exact binds.mono (by simp [Stmt.assigned]; tauto)
  | @range site? vars first last firstNode lastNode schedule body ops computesFirst computesLast
      integral counted performs =>
      simp only [Stmt.needs, LoopSource.reads, LoopSource.counters, List.mem_append,
        List.mem_filter, List.mem_singleton, decide_eq_true_eq] at needs
      rw [Execute.op, List.head?_map]
      refine .look fun run binds => ?_
      rw [fits.evaluate computesFirst.lt, fits.evaluate computesLast.lt]
      refine .finds (computesFirst.finds fits binds _
        fun id member => needs id (.inl (.inl member))) fun begin _ => ?_
      refine .finds begin.finds_index fun begin _ => ?_
      refine .finds (computesLast.finds fits binds _
        fun id member => needs id (.inl (.inr member))) fun stop _ => ?_
      refine .finds stop.finds_index fun stop _ => .iterate (fun value => ?_) _ _
      refine (Execute.setCounter_binds _ value).bind fun _ => ?_
      refine (performs.finds fits _ (fun root member => known root ?_)
        fun id member => ?_).weaken (fun _ => id) fun _ final binds => ?_
      · simp [Stmt.roots, member]
      · rw [List.mem_cons, or_assoc]
        by_cases counter : id = (vars.head?.map (·.identifier.id)).getD 0
        · exact .inl counter
        · exact .inr (needs id (.inr ⟨member, counter⟩))
      · exact binds.mono (by simp; tauto)
  | @elements site? vars field leaf schedule body ops placed touched arity counted performs =>
      simp only [Stmt.needs, LoopSource.reads, LoopSource.counters, List.nil_append,
        List.mem_filter] at needs
      rw [Execute.op]
      refine .look fun run binds => ?_
      refine .finds (Storage.finds_activeIndices (fits.leaf binds touched)
        (binds.alike.keepsPointers fits.pointers)) fun indices listed =>
          .forM indices fun index member => ?_
      obtain ⟨held, found⟩ := Option.isSome_iff_exists.mp (fits.leaves touched)
      have sameAxes := fits.axes (known (.field field) (by simp [Stmt.roots, LoopSource.roots]))
        placed found
      rw [← binds.alike.leaf?_eq] at found
      have length := Storage.length_of_mem_activeIndices found listed member
      refine (Execute.setCounters_binds _ index ?_).bind fun _ => ?_
      · rw [List.length_map, arity, length, sameAxes]
      refine (performs.finds fits _ (fun root member => known root ?_)
        fun id member => ?_).weaken (fun _ => id) fun _ final binds => ?_
      · simp [Stmt.roots, member]
      · rw [List.mem_append, or_assoc]
        by_cases counter : id ∈ vars.map (·.identifier.id)
        · exact .inl counter
        · exact .inr (needs id ⟨member, by simpa using counter⟩)
      · exact binds.mono (by simp; tauto)

theorem PerformsAll.finds (fits : code.Fits occurs context storage) (body : List Stmt)
    {ops : List Op} (known : ∀ root ∈ Stmt.blockRoots body, occurs root)
    (performs : code.PerformsAll body ops) {bound missing : List Nat}
    (needs : ∀ id ∈ Stmt.blockNeeds context.resetType body, id ∈ bound ∨ id ∈ missing) :
    Ensures (Binds storage bound) (Execute.ops context ops)
      (fun _ => Binds storage (Stmt.blockAssigned context.resetType body ++ bound))
      (fun error _ => Misses missing error) := by
  cases performs with
  | nil =>
      rw [Execute.ops]
      exact .pure fun _ => id
  | @cons first rest op ops performs later =>
      simp only [Stmt.blockNeeds, List.mem_append, List.mem_filter, decide_eq_true_eq] at needs
      rw [Execute.ops]
      refine (performs.finds fits _ (fun root member => known root ?_)
        fun id member => needs id (.inl member)).bind fun _ => ?_
      · simp [Stmt.blockRoots, member]
      refine (later.finds fits _ (fun root member => known root ?_) ?_).weaken (fun _ => id)
        fun _ final binds => ?_
      · simp [Stmt.blockRoots, member]
      · intro id member
        rw [List.mem_append, or_assoc]
        by_cases assigned : id ∈ first.assigned context.resetType
        · exact .inl assigned
        · exact .inr (needs id (.inr ⟨member, assigned⟩))
      · exact binds.mono (by simp [Stmt.blockAssigned]; tauto)

end

end Operations

end Code

/-- The leaf of a storage with the number of a field's leaf has as many axes as
the field's leaf. -/
def Stmt.SameAxes (layouts : Layouts) (storage : Storage) (body : List Stmt) : Prop :=
  ∀ (field : Field) (tree : Nat) (leaf held : Node), Stmt.Occurs body (.field field) →
    layouts.leafOf? field = some (tree, leaf) → storage.leaf? leaf.id = some held →
      held.lineage.axes.length = leaf.lineage.axes.length

/-- A storage has the very leaves of the fields that are placed in its tree. -/
theorem Stmt.PlacedIn.sameAxes {layouts : Layouts} {id : Nat} {body : List Stmt}
    (placed : Stmt.PlacedIn layouts id body) {tree : Tree} (known : layouts[id]? = some tree)
    (declared : tree.Declared) {storage : Storage} (kept : storage.Of id tree) :
    Stmt.SameAxes layouts storage body := by
  intro field other leaf held occurs found keeps
  obtain ⟨own, foundOwn⟩ := placed field occurs
  rw [found] at foundOwn
  cases foundOwn
  obtain ⟨_, at?, holds⟩ := Layouts.leafOf?_eq_some found
  rw [known] at at?
  cases at?
  obtain ⟨member, isLeaf⟩ := Tree.mem_of_leafOf? holds
  rw [kept.leaf?_eq declared.proper member isLeaf] at keeps
  cases keeps
  rfl

namespace KernelIR

/-- The type of the zero that a declaration sets a variable to. -/
def resetType (ir : KernelIR) (id : Nat) : DataType :=
  (ir.varTypes.lookup id).getD .unknown

/-- A lowered kernel needs the variables that some path through its body reads
before it sets them.  Whatever way a run takes, no look-up by a key fails in it
but that of such a variable; a kernel that needs none finds every variable. -/
theorem run_misses_needed {name : String} {target : ArchSetting} {context : LoweringContext}
    {body : List Stmt} {slots : TypeSlots} {ir : KernelIR} {objects : Objects}
    {storage : Storage} {hostArgs : List HostValue} {args : List Box}
    (lowered : (ofBody name target context body slots).1 = .ok ir)
    (recorded : Stmt.Recorded body) (pointers : storage.KeepsPointers)
    (axes : Stmt.SameAxes context.objects.layouts storage body)
    (converted : (ir.convertArgs hostArgs).run objects = .ok args) :
    (∀ id, id ∈ Stmt.blockNeeds ir.resetType body ↔
      ∃ events, Stmt.BlockPath ir.resetType body events ∧ id ∈ Event.neededBy events) ∧
    ∀ key, (ir.run objects storage hostArgs).outcome = .error (.host (.lookup key)) →
      ∃ id ∈ Stmt.blockNeeds ir.resetType body, key = toString id := by
  refine ⟨fun id => Stmt.mem_blockNeeds_iff, fun key fails => ?_⟩
  obtain ⟨lowers, _, _⟩ := lowers_of_ofBody recorded.occurring lowered
  by_cases count : hostArgs.length = ir.argTypes.length
  · by_cases kept : ∀ leaf ∈ ir.leaves, (storage.leaf? leaf).isSome
    · have fits : (ir.code (.block context.leafOf? .none body) context.leafOf?).Fits
          (Stmt.Occurs body) ⟨ir.nodes, ir.varTypes, args, objects.rendering⟩ storage := by
        refine ⟨⟨rfl, fun id node => lowers.ordered⟩, fun touched => kept _ touched, pointers, ?_,
          objects.rendering_writing⟩
        intro field leaf held occurs found keeps
        obtain ⟨⟨other, node⟩, placed, same⟩ := Option.map_eq_some_iff.mp found
        subst same
        exact axes field other node held occurs placed keeps
      have needs : ∀ id ∈ Stmt.blockNeeds ir.resetType body,
          id ∈ ([] : List Nat) ∨ id ∈ Stmt.blockNeeds ir.resetType body :=
        fun id member => .inr member
      have ensures := lowers.performs.finds fits body (fun root member => .root member) needs
      have meets := ensures ⟨storage, ∅, #[]⟩ ⟨.refl storage, by simp⟩
      rw [run, checkCall_eq count kept, converted] at fails
      simp only [runWith] at fails
      revert meets fails
      rcases (Execute.ops _ ir.body).run.run _ with ⟨error | ⟨⟩, final⟩
      · exact fun fails misses => misses key (by simpa using fails)
      · exact fun fails => by cases fails
    · rw [run, checkCall_missing count kept] at fails
      cases fails
  · rw [run, checkCall_count count] at fails
    cases fails

end KernelIR

namespace Skipped

def inner : Variable :=
  ⟨1, ⟨1, some "x"⟩⟩

def outer : Variable :=
  ⟨3, ⟨2, some "y"⟩⟩

/-- A variable is declared in a branch and read after it. -/
def body : List Stmt :=
  [.branch none (.expr (.argument 0 0 .i32))
      [.alloca none inner.identifier .unknown,
        .assign none (.identifier inner) (.literal 2 (.int 5) .i32)] [],
    .alloca none outer.identifier .unknown,
    .assign none (.identifier outer) (.identifier inner)]

def context : LoweringContext :=
  ⟨.x86, [.i32], ⟨.empty, #[], #[], #[], #[]⟩, ∅⟩

def nodes : List Expr :=
  [.argument 0 0 .i32, .identifier inner, .identifier outer, .literal 2 (.int 5) .i32]

theorem covers : ∀ root ∈ Stmt.blockRoots body, root ∈ nodes := by
  simp [body, nodes, Stmt.blockRoots, Stmt.roots, HostValue.roots]

theorem closed : ∀ expr ∈ nodes, ∀ part ∈ expr.operands, part ∈ nodes := by
  simp [nodes, Expr.operands]

/-- The body is recorded with a builder. -/
theorem recorded : Stmt.Recorded body := by
  have start : Recorder.Reached ⟨⟨.empty, #[], #[], #[], #[]⟩, ⟨0, 1⟩, .empty, 0, #[]⟩ [] :=
    .start rfl rfl rfl
  have arguments := start.step (.build (.arguments [.i32]))
    (Building.row [.argument 0 0 .i32]) (by simp [Operation.values, Building.values]) rfl
  have block := arguments.step (.newBlock "kernel k") (.block 0) (by simp [Operation.values]) rfl
  have scope := block.step (.enterRoot (.block 0)) (.guard 0 0 (.block 0))
    (by simp [Operation.values, HostValue.exprs]) rfl
  have branch := scope.step (.beginIf (.expr (.argument 0 0 .i32))) (.statement 0)
    (by simp [Operation.values, HostValue.exprs, HostValue.allExprs, Building.row]) rfl
  have inside := branch.step (.enterBranch .onTrue) (.guard 0 1 (.block 1))
    (by simp [Operation.values]) rfl
  have declared := inside.step (.var (.int 0 5) (some "x")) (.expr (.identifier inner))
    (by simp [Operation.values, HostValue.exprs]) rfl
  have outside := declared.step .popScope (.block 1) (by simp [Operation.values]) rfl
  have again := outside.step (.var (.expr (.identifier inner)) (some "y"))
    (.expr (.identifier outer)) (by simp [Operation.values, HostValue.exprs]) rfl
  exact ⟨_, _, 0, again, rfl⟩

theorem sameAxes : Stmt.SameAxes context.objects.layouts .empty body := by
  intro field tree leaf held occurs
  have member := occurs.mem covers closed
  simp [nodes] at member

/-- The kernel is called with 0, on a storage without leaves. -/
theorem run_misses_skipped :
    ∃ ir args, (KernelIR.ofBody "k" (.member .x86) context body .empty).1 = .ok ir ∧
      (ir.convertArgs [.int 0 0]).run context.objects = .ok args ∧
      ((∀ id, id ∈ Stmt.blockNeeds ir.resetType body ↔
          ∃ events, Stmt.BlockPath ir.resetType body events ∧ id ∈ Event.neededBy events) ∧
        ∀ key, (ir.run context.objects .empty [.int 0 0]).outcome = .error (.host (.lookup key)) →
          ∃ id ∈ Stmt.blockNeeds ir.resetType body, key = toString id) := by
  have lowers : (KernelIR.ofBody "k" (.member .x86) context body .empty).1.isOk = true := by
    decide +kernel
  obtain ⟨ir, lowered⟩ := exists_ok lowers
  obtain ⟨_, argTypes, _⟩ := KernelIR.lowers_of_ofBody recorded.occurring lowered
  obtain ⟨args, converted⟩ :
      ∃ args, (ir.convertArgs [.int 0 0]).run context.objects = .ok args := by
    rw [KernelIR.convertArgs, argTypes]
    exact exists_ok (by decide +kernel)
  exact ⟨ir, args, lowered, converted,
    KernelIR.run_misses_needed lowered recorded Storage.keepsPointers_empty sameAxes converted⟩

/-- Whether a run ended because a variable was missing. -/
def missed (var : Variable) (result : RunResult) : Bool :=
  match result.outcome with
  | .error (.host (.lookup key)) => key = toString var.identifier.id
  | _ => false

/-- The kernel is accepted, and with 1 it completes.  With 0 the branch is
skipped, and the run fails at a variable that is not set. -/
theorem run_fails_when_skipped :
    ∃ ir, (KernelIR.ofBody "k" (.member .x86) context body .empty).1 = .ok ir ∧
      (ir.run context.objects .empty [.int 0 1]).outcome.isOk ∧
      missed inner (ir.run context.objects .empty [.int 0 0]) := by
  have ends : (KernelIR.ofBody "k" (.member .x86) context body .empty).1.toOption.any
      (fun ir => (ir.run context.objects .empty [.int 0 1]).outcome.isOk &&
        missed inner (ir.run context.objects .empty [.int 0 0])) = true := by
    decide +kernel
  obtain ⟨ir, lowered, both⟩ := exists_ok_of_any ends
  rw [Bool.and_eq_true] at both
  exact ⟨ir, lowered, both.1, both.2⟩

end Skipped

end FieldKernel
