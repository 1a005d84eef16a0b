import FieldKernel.Proofs.Execution.Steps
import FieldKernel.Proofs.Lowering.Kernels
import FieldKernel.Proofs.Storage.Contents

/-!
# What a run leaves alone

The fields that a body stores to can be read off it, inside conditionals and
loops as well, and lowering makes their leaves the targets of its stores.  A run
changes elements of these leaves only, and cells that come to exist belong to
the pointers above them, wherever the run breaks off.  Its other steps leave the
storage as it is.
-/

namespace FieldKernel

namespace Stmt

mutual

/-- The fields that a statement stores to. -/
def targets : Stmt → List Field
  | assign _ (.element _ field _) _ => [field]
  | store _ place _ => [place.field]
  | branch _ _ onTrue onFalse => blockTargets onTrue ++ blockTargets onFalse
  | loop _ _ _ _ body => blockTargets body
  | _ => []

/-- The fields that the statements of a block store to. -/
def blockTargets : List Stmt → List Field
  | [] => []
  | first :: rest => first.targets ++ blockTargets rest

end

/-- The fields that a body stores to are placed in one tree. -/
def StoresIn (layouts : Layouts) (id : Nat) (body : List Stmt) : Prop :=
  ∀ field ∈ blockTargets body, ∃ leaf, layouts.leafOf? field = some (id, leaf)

end Stmt

namespace Op

mutual

/-- The leaves that an operation stores to. -/
def stores : Op → List Nat
  | store leaf _ _ => [leaf]
  | branch _ onTrue onFalse => allStores onTrue ++ allStores onFalse
  | rangeLoop _ _ _ body _ => allStores body
  | elementLoop _ _ body _ => allStores body
  | _ => []

/-- The leaves that operations store to. -/
def allStores : List Op → List Nat
  | [] => []
  | first :: rest => first.stores ++ allStores rest

end

end Op

namespace Lower

variable {context : LoweringContext} {state after : Lowering}

/-- A leaf is that of one of some fields. -/
def Targeted (layouts : Layouts) (fields : List Field) (leaf : Nat) : Prop :=
  ∃ field ∈ fields, ∃ tree node, layouts.leafOf? field = some (tree, node) ∧ node.id = leaf

theorem Targeted.mono {layouts : Layouts} {fields more : List Field} {leaf : Nat}
    (targeted : Targeted layouts fields leaf) (among : fields ⊆ more) :
    Targeted layouts more leaf := by
  obtain ⟨field, member, placed⟩ := targeted
  exact ⟨field, among member, placed⟩

theorem store_targets (place : Element) {stored : Expr} {op : Op}
    (success : (store context place stored).Yields state op after) :
    ∀ leaf ∈ op.stores, Targeted context.objects.layouts [place.field] leaf := by
  simp only [store, yields_bind, yields_pure] at success
  obtain ⟨node, _, found, _, _, _, _, _, _, _, _, _, result, _, _, rfl, rfl⟩ := success
  obtain ⟨tree, placed, _⟩ := yields_leafOf.mp (yields_leafAt.mp found).1
  intro leaf member
  rw [Op.stores, List.mem_singleton] at member
  exact ⟨place.field, List.mem_singleton_self _, tree, node, placed, member.symm⟩

mutual

/-- A statement is lowered to stores to its targets. -/
theorem stmt_targets (statement : Stmt) {state after : Lowering} {op : Op}
    (success : (stmt context statement).Yields state op after) :
    ∀ leaf ∈ op.stores, Targeted context.objects.layouts statement.targets leaf := by
  cases statement with
  | alloca site? identifier type =>
      simp only [stmt, yields_bind, yields_pure] at success
      obtain ⟨_, _, _, rfl, _⟩ := success
      exact nofun
  | assign site? target value =>
      cases target with
      | identifier var =>
          rw [stmt] at success
          obtain ⟨_, _, _, _, _, result, _, _, _, _, _, rfl⟩ := assign_yields success
          exact nofun
      | element key field indices =>
          rw [stmt] at success
          exact store_targets ⟨key, field, indices⟩ success
      | _ => simp [stmt] at success
  | load site? place =>
      simp only [stmt, yields_bind, yields_pure] at success
      obtain ⟨_, _, _, _, _, _, rfl, _⟩ := success
      exact nofun
  | store site? place value =>
      rw [stmt] at success
      exact store_targets place success
  | print site? printed label =>
      obtain ⟨_, _, rfl⟩ := print_yields success
      exact nofun
  | branch site? condition onTrue onFalse =>
      simp only [stmt, yields_bind, yields_pure] at success
      obtain ⟨_, _, _, _, _, lowersTrue, _, _, lowersFalse, rfl, _⟩ := success
      intro leaf member
      rcases List.mem_append.mp member with inTrue | inFalse
      · exact (block_targets onTrue lowersTrue leaf inTrue).mono (List.subset_append_left _ _)
      · exact (block_targets onFalse lowersFalse leaf inFalse).mono
          (List.subset_append_right _ _)
  | loop site? vars source schedule body =>
      cases source with
      | range first last =>
          simp only [stmt, yields_bind, yields_pure] at success
          obtain ⟨_, _, _, _, _, _, _, _, _, _, _, _, _, _, _, _, _, lowers, rfl, _⟩ := success
          exact block_targets body lowers
      | elements field =>
          simp only [stmt, yields_bind, yields_pure] at success
          obtain ⟨_, _, _, _, _, _, _, _, _, _, _, lowers, rfl, _⟩ := success
          exact block_targets body lowers
  | bare site? => simp [stmt] at success
  | endless => simp [stmt] at success

theorem block_targets (body : List Stmt) {state after : Lowering} {ops : List Op}
    (success : (block context body).Yields state ops after) :
    ∀ leaf ∈ Op.allStores ops, Targeted context.objects.layouts (Stmt.blockTargets body) leaf := by
  cases body with
  | nil =>
      rw [block] at success
      obtain ⟨rfl, _⟩ := yields_pure.mp success
      exact nofun
  | cons statement rest =>
      simp only [block, yields_bind, yields_pure] at success
      obtain ⟨_, _, lowered, _, _, restLowered, rfl, _⟩ := success
      intro leaf member
      rcases List.mem_append.mp member with first | later
      · exact (stmt_targets statement lowered leaf first).mono (List.subset_append_left _ _)
      · exact (block_targets rest restLowered leaf later).mono (List.subset_append_right _ _)

end

end Lower

namespace Storage

/-- What becomes of a storage when nothing is stored but to some leaves. -/
structure Frame (leaves : List Nat) (before after : Storage) : Prop where
  alike : before.Alike after
  elements {leaf : Node} (other : leaf.id ∉ leaves) (index : List Nat) :
    after.get leaf index = before.get leaf index
  kept {pointer : Nat} {cell : List Nat} (existing : before.hasCell pointer cell) :
    after.hasCell pointer cell
  made {pointer : Nat} {cell : List Nat} (existing : after.hasCell pointer cell) :
    before.hasCell pointer cell ∨ ∃ leaf ∈ before.leaves, leaf.id ∈ leaves ∧
      ∃ above ∈ leaf.lineage.pointers, target above = pointer

theorem Frame.refl (leaves : List Nat) (storage : Storage) : storage.Frame leaves storage :=
  ⟨.refl storage, fun _ _ => rfl, id, .inl⟩

theorem Frame.trans {leaves : List Nat} {before middle after : Storage}
    (first : before.Frame leaves middle) (second : middle.Frame leaves after) :
    before.Frame leaves after where
  alike := first.alike.trans second.alike
  elements other index := (second.elements other index).trans (first.elements other index)
  kept existing := second.kept (first.kept existing)
  made existing := by
    rcases second.made existing with earlier | ⟨leaf, member, further⟩
    · exact first.made earlier
    · exact .inr ⟨leaf, first.alike.leaves ▸ member, further⟩

theorem Frame.mono {leaves more : List Nat} {before after : Storage}
    (frame : before.Frame leaves after) (among : leaves ⊆ more) : before.Frame more after where
  alike := frame.alike
  elements other index := frame.elements (fun member => other (among member)) index
  kept := frame.kept
  made existing := (frame.made existing).imp_right fun ⟨leaf, member, found, above⟩ =>
    ⟨leaf, member, among found, above⟩

/-- A write changes an element of its leaf, and makes cells above it. -/
theorem frame_write {storage : Storage} (keeps : storage.KeepsPointers) (id : Nat)
    (position : List Int) (convert : DataType → Except Error Scalar) :
    storage.Frame [id] (storage.write id position convert).2 := by
  cases ready : storage.prepared id position convert with
  | error error =>
      rw [write_of_error ready]
      exact .refl _ _
  | ok found =>
      obtain ⟨leaf, index, value⟩ := found
      have member := mem_leaves_of_prepared ready
      have number : leaf.id = id := by
        simpa using List.find?_some (found_of_prepared ready).1
      constructor
      case alike => exact alike_write id position convert
      case elements =>
          intro other different place
          have apart : ¬leaf.id :: index = other.id :: place := by
            intro same
            exact different (by simp [← number, (List.cons.inj same).1])
          rw [write_of_ok ready, get, get, written_activate, put, Std.TreeMap.getElem?_insert,
            if_neg (by simpa using apart)]
      case kept => exact fun existing => (hasCell_write keeps ready _ _).mpr (.inl existing)
      case made =>
          intro pointer cell existing
          refine ((hasCell_write keeps ready _ _).mp existing).imp_right ?_
          rintro ⟨above, among, same, _⟩
          exact ⟨leaf, member, by simp [number], above, among, same⟩

end Storage

/-- What a step leaves of a storage: a store changes its leaf, and all else that a
run comes to leaves the storage as it is. -/
def Step.Leaves (step : Step) (after : Storage) : Prop :=
  match step.task with
  | .operation (.store leaf _ _) => step.run.storage.Frame [leaf] after
  | _ => after = step.run.storage

/-- Steps lead from one state of a storage to another: each begins in what the one
before it leaves. -/
inductive Step.Lead : Storage → List Step → Storage → Prop where
  | done (storage : Storage) : Lead storage [] storage
  | step {storage middle final : Storage} {step : Step} {rest : List Step} :
      step.run.storage = storage → step.Leaves middle → Lead middle rest final →
      Lead storage (step :: rest) final

/-- A step stores to some leaves only, if it stores at all. -/
def Step.StoresAmong (step : Step) (leaves : List Nat) : Prop :=
  ∀ leaf indices value, step.task = .operation (.store leaf indices value) → leaf ∈ leaves

section Steps

variable {context : RunContext} {storage middle final : Storage} {steps later : List Step}

/-- A step may always leave a storage as it is. -/
theorem Step.leaves_same (step : Step) : step.Leaves step.run.storage := by
  rw [Step.Leaves]
  split
  · exact .refl _ _
  · rfl

/-- A step that stores is a store to that leaf. -/
theorem Step.leaves_write {step : Step} {leaf : Nat} {position : List Int}
    {convert : DataType → Except Error Scalar} (keeps : step.run.storage.KeepsPointers)
    (stores : step.request? context = some (.write leaf position convert)) :
    step.Leaves (step.run.storage.write leaf position convert).2 := by
  obtain ⟨task, run⟩ := step
  simp only [Step.request?] at stores
  split at stores
  · split at stores
    · cases stores
      exact Storage.frame_write keeps _ _ _
    · cases stores
  · cases stores

theorem Performed.leads (performed : Performed context storage steps middle)
    (keeps : storage.KeepsPointers)
    (goesOn : middle.KeepsPointers → Step.Lead middle later final) :
    Step.Lead storage (steps ++ later) final := by
  induction performed with
  | nil => exact goesOn keeps
  | @quiet storage middle step rest begins quiet performed hypothesis =>
      exact .step begins (begins ▸ step.leaves_same) (hypothesis keeps goesOn)
  | store begins stores completed performed hypothesis =>
      subst begins
      exact .step rfl (Step.leaves_write keeps stores)
        (hypothesis ((Storage.alike_write _ _ _).keepsPointers keeps) goesOn)

theorem Ends.leads {outcome : Except Error Unit} (ends : Ends context storage steps outcome final)
    (keeps : storage.KeepsPointers) : Step.Lead storage steps final := by
  cases ends with
  | completed performed =>
      rw [← List.append_nil steps]
      exact performed.leads keeps fun _ => .done final
  | @failed done failing error left performed same fails =>
      exact performed.leads keeps fun _ => .step same (same ▸ failing.leaves_same) (.done _)

/-- Steps that store to some leaves change nothing but what is about them. -/
theorem Step.Lead.frame {leaves : List Nat} (leads : Step.Lead storage steps final)
    (among : ∀ step ∈ steps, step.StoresAmong leaves) : storage.Frame leaves final := by
  induction leads with
  | done => exact .refl leaves _
  | @step storage middle final step rest begins leads _ hypothesis =>
      refine Storage.Frame.trans ?_ (hypothesis fun other member => among other (by simp [member]))
      subst begins
      simp only [Step.Leaves] at leads
      split at leads
      · next leaf indices value task =>
          exact leads.mono (by simpa using among step (by simp) leaf indices value task)
      · rw [leads]
        exact .refl leaves _

end Steps

namespace Execute

/-- All steps of a part of a run store to some leaves only. -/
def Among (leaves : List Nat) (steps : Run → List Step) : Prop :=
  ∀ run, ∀ step ∈ steps run, step.StoresAmong leaves

namespace Among

variable {leaves : List Nat} {context : RunContext}

theorem stepwise (leaves : List Nat) : Stepwise fun _ => Among leaves where
  nothing _ := nofun
  bind {first _ _ later} one two run step member := by
    rcases List.mem_append.mp member with earlier | further
    · exact one run step earlier
    · revert further
      rw [following]
      split
      · exact two _ step
      · exact nofun

/-- Steps that follow on a step that is no store. -/
theorem cons {steps : Run → List Step} (task : Task)
    (quiet : ∀ leaf indices value, task ≠ .operation (.store leaf indices value))
    (among : Among leaves steps) : Among leaves fun run => ⟨task, run⟩ :: steps run := by
  intro run step member
  rcases List.mem_cons.mp member with rfl | further
  · exact fun leaf indices value same => absurd same (quiet leaf indices value)
  · exact among run step further

theorem single (task : Task)
    (quiet : ∀ leaf indices value, task ≠ .operation (.store leaf indices value)) :
    Among leaves fun run => [⟨task, run⟩] :=
  cons task quiet fun _ => nofun

theorem succeeding {α : Type} {outcome : Run → Except Error α} {steps : α → Run → List Step}
    (among : ∀ result, Among leaves (steps result)) :
    Among leaves fun run => Execute.succeeding (outcome run) fun result => steps result run := by
  intro run step member
  cases ended : outcome run with
  | error error => simp [Execute.succeeding, ended] at member
  | ok result =>
      simp only [Execute.succeeding, ended] at member
      exact among result run step member

theorem of_eq {steps other : Run → List Step} (among : Among leaves steps)
    (listed : ∀ run, other run = steps run) : Among leaves other := by
  rw [show other = steps from funext listed]
  exact among

end Among

mutual

/-- An operation stores to the leaves that can be read off it. -/
theorem op_among (context : RunContext) (operation : Op) {leaves : List Nat}
    (among : operation.stores ⊆ leaves) : Among leaves (opSteps context operation) := by
  cases operation with
  | alloca var =>
      exact (Among.single (.operation (.alloca var)) nofun).of_eq fun run => by rw [opSteps]
  | assign var value =>
      exact (Among.single (.operation (.assign var value)) nofun).of_eq fun run => by rw [opSteps]
  | load leaf indices =>
      exact (Among.single (.operation (.load leaf indices)) nofun).of_eq fun run => by rw [opSteps]
  | print value label =>
      exact (Among.single (.operation (.print value label)) nofun).of_eq fun run => by rw [opSteps]
  | store leaf indices value =>
      intro run step member
      rw [opSteps, List.mem_singleton] at member
      subst member
      rintro _ _ _ ⟨⟩
      exact among (by simp [Op.stores])
  | branch node onTrue onFalse =>
      rw [Op.stores, List.append_subset] at among
      have branches (isTrue : Bool) : Among leaves fun run =>
          if isTrue then opsSteps context onTrue run else opsSteps context onFalse run := by
        cases isTrue with
        | true => exact ops_among context onTrue among.1
        | false => exact ops_among context onFalse among.2
      exact (Among.cons (.operation (.branch node onTrue onFalse)) nofun
        (.succeeding branches)).of_eq fun run => by rw [opSteps]
  | rangeLoop var first last body schedule =>
      have round (value : Int) :
          Among leaves (roundSteps [(var, value)] (opsSteps context body)) :=
        @Stepwise.round _ (Among.stepwise leaves) (ops context body) _ _
          (.single (.round [(var, value)]) nofun) (ops_among context body among)
      have rounds (range : Int × Int) : Among leaves
          (iterateSteps
            (fun value => do
              setCounter var value
              ops context body)
            (fun value => roundSteps [(var, value)] (opsSteps context body))
            (range.2 - range.1).toNat range.1) :=
        (Among.stepwise leaves).iterate round _ _
      exact (Among.cons (.operation (.rangeLoop var first last body schedule)) nofun
        (.succeeding rounds)).of_eq fun run => by rw [opSteps]
  | elementLoop vars leaf body schedule =>
      have round (index : List Nat) :
          Among leaves (roundSteps (counters vars index) (opsSteps context body)) :=
        @Stepwise.round _ (Among.stepwise leaves) (ops context body) _ _
          (.single (.round (counters vars index)) nofun) (ops_among context body among)
      have rounds (indices : List (List Nat)) : Among leaves
          (forSteps
            (fun (index : List Nat) => do
              (vars.zip index).forM fun (var, position) => setCounter var position
              ops context body)
            (fun index => roundSteps (counters vars index) (opsSteps context body)) indices) :=
        (Among.stepwise leaves).forM round indices
      exact (Among.cons (.operation (.elementLoop vars leaf body schedule)) nofun
        (.succeeding rounds)).of_eq fun run => by rw [opSteps]

theorem ops_among (context : RunContext) (operations : List Op) {leaves : List Nat}
    (among : Op.allStores operations ⊆ leaves) : Among leaves (opsSteps context operations) := by
  cases operations with
  | nil => exact ((Among.stepwise leaves).nothing).of_eq fun run => by rw [opsSteps]
  | cons first rest =>
      rw [Op.allStores, List.append_subset] at among
      have all := @Stepwise.bind _ (Among.stepwise leaves) (op context first) (ops context rest)
        _ _ (op_among context first among.1) (ops_among context rest among.2)
      exact Among.of_eq all fun run => by rw [opsSteps]

end

end Execute

/-- What a run of a body leaves of the storage of a tree. -/
structure Stmt.Frame (layouts : Layouts) (id : Nat) (tree : Tree) (body : List Stmt)
    (before after : Storage) : Prop where
  leaves : after.leaves = before.leaves
  pointers : after.pointers = before.pointers
  /-- Elements change only in leaves of fields that the body stores to. -/
  elements {leaf : Node} (member : leaf ∈ tree.declared) {index : List Nat}
    (changed : after.get leaf index ≠ before.get leaf index) :
    ∃ field ∈ blockTargets body, layouts.leafOf? field = some (id, leaf)
  kept {pointer : Nat} {cell : List Nat} (existing : before.hasCell pointer cell) :
    after.hasCell pointer cell
  /-- New cells belong to pointers above such leaves. -/
  made {pointer : Node} (member : pointer ∈ tree.declared) (kind : pointer.level.kind = .pointer)
    {cell : List Nat} (vacant : ¬before.hasCell pointer.id cell)
    (existing : after.hasCell pointer.id cell) :
    ∃ field ∈ blockTargets body, ∃ leaf, layouts.leafOf? field = some (id, leaf) ∧
      pointer.lineage <+: leaf.lineage

/-- The leaves that code stores to are those of the fields that its body stores
to. -/
theorem Storage.Frame.of_targets {layouts : Layouts} {id : Nat} {tree : Tree} {body : List Stmt}
    {numbers : List Nat} {before after : Storage} (frame : before.Frame numbers after)
    (proper : tree.Proper) (known : layouts[id]? = some tree) (kept : before.Of id tree)
    (own : Stmt.StoresIn layouts id body)
    (targeted : ∀ number ∈ numbers, Lower.Targeted layouts (Stmt.blockTargets body) number) :
    Stmt.Frame layouts id tree body before after := by
  have placed {leaf : Node} (member : leaf ∈ tree.declared) (among : leaf.id ∈ numbers) :
      ∃ field ∈ Stmt.blockTargets body, layouts.leafOf? field = some (id, leaf) := by
    obtain ⟨field, target, other, node, found, number⟩ := targeted leaf.id among
    obtain ⟨held, foundOwn⟩ := own field target
    rw [found] at foundOwn
    cases foundOwn
    obtain ⟨_, foundTree, holds⟩ := Layouts.leafOf?_eq_some found
    rw [known] at foundTree
    cases foundTree
    obtain rfl := proper.eq_of_id (Tree.mem_of_leafOf? holds).1 member number
    exact ⟨field, target, found⟩
  constructor
  case leaves => exact frame.alike.leaves
  case pointers => exact frame.alike.pointers
  case elements =>
      intro leaf member index changed
      refine placed member ?_
      by_contra other
      exact changed (frame.elements other index)
  case kept => exact frame.kept
  case made =>
      intro pointer member kind cell vacant existing
      rcases frame.made existing with earlier | ⟨leaf, leafMember, among, above, passes, number⟩
      · exact absurd earlier vacant
      · have declared := ((kept.mem_leaves proper).mp leafMember).1
        obtain ⟨field, target, found⟩ := placed declared among
        obtain ⟨rfl, within⟩ :=
          (Storage.mem_pointers_iff_target proper declared member kind).mp ⟨passes, number⟩
        exact ⟨field, target, leaf, found, within⟩

namespace KernelIR

variable {ir : KernelIR} {objects : Objects} {storage : Storage} {name : String}
  {target : ArchSetting} {context : LoweringContext} {body : List Stmt} {slots : TypeSlots}
  {id : Nat} {tree : Tree}

theorem targeted_of_ofBody (lowered : (ofBody name target context body slots).1 = .ok ir) :
    ∀ leaf ∈ Op.allStores ir.body,
      Lower.Targeted context.objects.layouts (Stmt.blockTargets body) leaf := by
  obtain ⟨state, lowered, _⟩ := exists_run lowered
  exact Lower.block_targets body lowered

/-- Whatever a run of a lowered kernel comes to, it leaves alone what its body does
not store to.  Either the call is refused, or the run comes to steps, and none but
the stores among them change the storage. -/
theorem run_frame (lowered : (ofBody name target context body slots).1 = .ok ir)
    (own : Stmt.StoresIn context.objects.layouts id body)
    (known : context.objects.layouts[id]? = some tree) (declared : tree.Declared)
    (kept : storage.Of id tree) (hostArgs : List HostValue) :
    Stmt.Frame context.objects.layouts id tree body storage
        (ir.run objects storage hostArgs).storage ∧
      ((∃ error, (ir.checkCall storage hostArgs).run objects = .error error ∧
          ir.run objects storage hostArgs = ⟨.error error, storage, #[]⟩) ∨
        ∃ args, (ir.checkCall storage hostArgs).run objects = .ok args ∧
          Step.Lead storage (ir.steps objects.rendering storage args)
            (ir.run objects storage hostArgs).storage) := by
  have targeted := targeted_of_ofBody lowered
  have keeps := kept.keepsPointers declared.proper
  rcases ir.run_ends objects hostArgs keeps with
    ⟨error, unchecked, refused⟩ | ⟨args, checked, ends⟩
  · rw [refused]
    exact ⟨(Storage.Frame.refl [] storage).of_targets declared.proper known kept own nofun,
      .inl ⟨error, unchecked, rfl⟩⟩
  · have leads := ends.leads keeps
    have among := Execute.ops_among (ir.contextFor objects.rendering args) ir.body
      (List.Subset.refl _) ⟨storage, ∅, #[]⟩
    exact ⟨(leads.frame among).of_targets declared.proper known kept own targeted,
      .inr ⟨args, checked, leads⟩⟩

end KernelIR

namespace Sparse

/-- A field that is not stored to. -/
def spared : Field :=
  ⟨1, ⟨0, some "a"⟩, .i32⟩

/-- A field that is stored to. -/
def stored : Field :=
  ⟨2, ⟨1, some "b"⟩, .i32⟩

def cells : Tree × Node :=
  (Tree.new none).add Tree.root .pointer [(0, 4)]

/-- Both fields are placed below a pointer with four cells. -/
def tree : Tree :=
  { ((cells.1.add cells.2 (.place spared) []).1.add cells.2 (.place stored) []).1 with
    isSealed := true }

def objects : Objects :=
  ⟨.empty, #[], #[tree], #[], #[]⟩

def context : LoweringContext :=
  ⟨.x86, [], objects, ∅⟩

/-- The second element is stored to, and then one that there is none of. -/
def body : List Stmt :=
  [.assign none (.element 3 stored [.literal 4 (.int 2) .i32]) (.literal 5 (.int 7) .i32),
    .assign none (.element 6 stored [.literal 7 (.int 9) .i32]) (.literal 5 (.int 7) .i32)]

theorem tree_declared : tree.Declared := by
  have cellsDeclared : cells.1.Declared :=
    .container (.new none) (by simp [Tree.declared_new]) rfl rfl
  have member : cells.2 ∈ cells.1.declared := by
    decide
  have placed : (cells.1.add cells.2 (.place spared) []).1.Declared :=
    .place cellsDeclared member rfl (by decide)
  have memberStill : cells.2 ∈ (cells.1.add cells.2 (.place spared) []).1.declared := by
    decide
  exact .sealed (.place placed memberStill rfl (by decide)) rfl

theorem storesIn : Stmt.StoresIn context.objects.layouts 0 body := by
  intro field member
  obtain rfl : field = stored := by
    simpa [body, Stmt.blockTargets, Stmt.targets] using member
  exact ⟨_, rfl⟩

/-- A new storage of the tree. -/
def storage : Storage :=
  ⟨some 0, tree.declared.filter Node.isLeaf, tree.declared.filter (·.level.kind = .pointer), ∅, ∅⟩

theorem ofTree_eq : Storage.ofTree 0 tree Tree.root = .ok storage := by
  have walk : tree.walk Tree.root = tree.declared :=
    List.mergeSort_of_pairwise (by decide)
  simp only [Storage.ofTree, walk]
  rfl

/-- The run fails after its first store, which has made a cell. -/
theorem run_frame_failing :
    ∃ ir, (KernelIR.ofBody "fill" (.member .x86) context body .empty).1 = .ok ir ∧
      (ir.run objects storage []).outcome.isOk = false ∧
      (ir.run objects storage []).storage.hasCell 1 [2] ∧
      Storage.ofTree 0 tree Tree.root = .ok storage ∧
      Stmt.Frame context.objects.layouts 0 tree body storage (ir.run objects storage []).storage ∧
      ((∃ error, (ir.checkCall storage []).run objects = .error error ∧
          ir.run objects storage [] = ⟨.error error, storage, #[]⟩) ∨
        ∃ args, (ir.checkCall storage []).run objects = .ok args ∧
          Step.Lead storage (ir.steps objects.rendering storage args)
            (ir.run objects storage []).storage) := by
  have fails : (KernelIR.ofBody "fill" (.member .x86) context body .empty).1.toOption.any
      (fun ir => !(ir.run objects storage []).outcome.isOk &&
        (ir.run objects storage []).storage.hasCell 1 [2]) = true := by
    decide +kernel
  obtain ⟨ir, lowered, both⟩ := exists_ok_of_any fails
  simp only [Bool.and_eq_true, Bool.not_eq_true'] at both
  exact ⟨ir, lowered, both.1, both.2, ofTree_eq, KernelIR.run_frame lowered storesIn rfl
    tree_declared (Storage.of_ofTree ofTree_eq) []⟩

end Sparse

end FieldKernel
