import FieldKernel.Proofs.Session.Courses
import FieldKernel.Proofs.Session.Declaring
import FieldKernel.Proofs.Session.Definitions
import FieldKernel.Proofs.Session.Fields

/-!
# What actions change

Recording with a builder apart, and the beginning and the end of programs, an
action changes a session in a few ways: it makes statements on their own, it adds
builders, trees and kernels, and it changes them without giving them to other
programs.  Whatever holds of each such change holds of what an action does.
-/

namespace FieldKernel

/-- What is done at once to a session. -/
inductive Session.Change : Session → Session → Prop where
  /-- Something is done to storages, types, the log and the like. -/
  | elsewhere {before after : Session} (same : before.Same after)
      (layouts : after.layouts = before.layouts) (recording : after.recording = before.recording)
      (guards : after.nextGuard = before.nextGuard) : Change before after
  | makes {session : Session} (operation : Operation) :
      Change session ((Action.recordFree operation.perform).run.run session).2
  | addsBuilder {session : Session} :
      Change session { session with builders := session.builders.push .empty }
  | addsTree {session : Session} (tree : Tree) :
      Change session { session with layouts := session.layouts.push tree }
  | setsTree {session : Session} (id : Nat) {tree : Tree}
      (owner : tree.program? = (session.tree id).program?) :
      Change session { session with layouts := session.layouts.modify id fun _ => tree }
  | addsKernel {session : Session} (entry : Kernel) :
      Change session { session with kernels := session.kernels.push entry }
  | kernel {session : Session} (id : Nat) {change : Kernel → Kernel}
      (owner : ∀ entry, (change entry).program = entry.program) :
      Change session { session with kernels := session.kernels.modify id change }
  /-- A program that has ended gets no storage. -/
  | program {session : Session} (id : Nat) {change : Program → Program}
      (builder : ∀ entry, (change entry).builder = entry.builder)
      (tree : ∀ entry, (change entry).tree = entry.tree)
      (alive : ∀ entry, (change entry).alive = entry.alive)
      (kernels : ∀ entry, (change entry).kernels = entry.kernels)
      (storage : (session.program id).alive = false →
        (change (session.program id)).storage? = (session.program id).storage?) :
      Change session { session with programs := session.programs.modify id change }

namespace Action

variable {α : Type} {first : Session}

/-- A session comes from another one by changes. -/
abbrev Changed (first : Session) : Session → Prop :=
  Relation.ReflTransGen Session.Change first

theorem changed_of_change {action : Action α}
    (changes : ∀ session : Session, Session.Change session (action.run.run session).2) :
    Keeps (Changed first) action :=
  keeps_iff.mpr fun session reached => reached.tail (changes session)

/-- What touches neither programs, builders and kernels nor layouts and recorded
code, and opens no scope. -/
theorem changed_elsewhere {action : Action α}
    (same : ∀ session : Session, session.Same (action.run.run session).2)
    (layouts : ∀ session, (action.run.run session).2.layouts = session.layouts)
    (recording : ∀ session, (action.run.run session).2.recording = session.recording)
    (guards : ∀ session, (action.run.run session).2.nextGuard = session.nextGuard) :
    Keeps (Changed first) action :=
  changed_of_change fun session =>
    .elsewhere (same session) (layouts session) (recording session) (guards session)

theorem report_changes (record : LogRecord) : Keeps (Changed first) (report record) :=
  changed_elsewhere (fun _ => ⟨rfl, rfl, rfl⟩) (fun _ => rfl) (fun _ => rfl) fun _ => rfl

theorem printLine_changes (line : String) : Keeps (Changed first) (printLine line) :=
  changed_elsewhere (fun _ => ⟨rfl, rfl, rfl⟩) (fun _ => rfl) (fun _ => rfl) fun _ => rfl

theorem addStorage_changes (storage : Storage) : Keeps (Changed first) (addStorage storage) :=
  changed_elsewhere (fun _ => ⟨rfl, rfl, rfl⟩) (fun _ => rfl) (fun _ => rfl) fun _ => rfl

theorem setStorage_changes (id : Nat) (storage : Storage) :
    Keeps (Changed first) (setStorage id storage) :=
  changed_elsewhere (fun _ => ⟨rfl, rfl, rfl⟩) (fun _ => rfl) (fun _ => rfl) fun _ => rfl

theorem addCompiled_changes (compiled : CompiledKernel) :
    Keeps (Changed first) (addCompiled compiled) :=
  changed_elsewhere (fun _ => ⟨rfl, rfl, rfl⟩) (fun _ => rfl) (fun _ => rfl) fun _ => rfl

theorem build_changes (attempt : Build α) : Keeps (Changed first) (build attempt) :=
  changed_elsewhere (fun _ => ⟨rfl, rfl, rfl⟩) (fun _ => rfl) (fun _ => rfl) fun _ => rfl

theorem make_changes (operation : Operation) :
    Keeps (Changed first) (recordFree operation.perform) :=
  changed_of_change fun _ => .makes operation

theorem addBuilder_changes : Keeps (Changed first) addBuilder :=
  changed_of_change fun _ => .addsBuilder

theorem addTree_changes (program? : Option Nat) : Keeps (Changed first) (addTree program?) :=
  changed_of_change fun _ => .addsTree _

theorem setState_changes (kernel : Nat) (state : KernelState) :
    Keeps (Changed first) (setState kernel state) :=
  changed_of_change fun _ => .kernel kernel fun _ => rfl

theorem checkAlive_changes (id : Nat) : Keeps (Changed first) (checkAlive id) :=
  keeps_iff.mpr fun session reached => by rwa [HostT.run_checkAlive]

theorem enter_changes (id : Nat) : Keeps (Changed first) (enter id) :=
  (checkAlive_changes id).bind fun _ =>
    changed_elsewhere (fun _ => ⟨rfl, rfl, rfl⟩) (fun _ => rfl) (fun _ => rfl) fun _ => rfl

theorem remove_changes (id : Nat) : Keeps (Changed first) (remove id) :=
  changed_elsewhere (fun _ => ⟨rfl, rfl, rfl⟩) (fun _ => rfl) (fun _ => rfl) fun _ => rfl

theorem root_changes (id : Nat) : Keeps (Changed first) (root id) :=
  (checkAlive_changes id).bind fun _ => .get fun _ => .pure _

/-- What counts for a program or sets its target is changed. -/
theorem modifyProgram_changes (id : Nat) {change : Program → Program}
    (same : ∀ entry, ∃ config calls hits misses, change entry =
      { entry with config := config, calls := calls, hits := hits, misses := misses }) :
    Keeps (Changed first) (modifyProgram id change) := by
  refine changed_of_change fun session => .program id ?_ ?_ ?_ ?_ ?_
  all_goals first
    | intro entry
      obtain ⟨_, _, _, _, same⟩ := same entry
      rw [same]
    | intro _
      obtain ⟨_, _, _, _, same⟩ := same (session.program id)
      rw [same]

section Kernels

theorem listCode_changes (entry : Kernel) (config : CompileConfig) (body : List Stmt)
    (ir : KernelIR) : Keeps (Changed first) (listCode entry config body ir) := by
  refine (Keeps.ask _).bind fun wanted => ?_
  cases wanted with
  | false => exact .pure ()
  | true =>
      exact .get fun _ => (Keeps.ask _).bind fun _ => (report_changes _).bind fun _ =>
        (Keeps.ofExcept _).bind fun _ => (Keeps.ask _).bind fun _ => report_changes _

theorem lowerKernel_changes (kernel : Nat) (arch : Arch) :
    Keeps (Changed first) (lowerKernel kernel arch) := by
  refine .get fun session => ?_
  dsimp only
  refine Keeps.bind (changed_elsewhere (fun _ => ⟨rfl, rfl, rfl⟩) (fun _ => rfl) (fun _ => rfl)
    fun _ => rfl) fun _ => ?_
  exact (Keeps.ofExcept _).bind fun _ => (listCode_changes _ _ _ _).bind fun _ =>
    (Keeps.ofExcept _).bind fun _ => .pure _

theorem fail_changes (kernel : Nat) (arch : Arch) (cause : Error) :
    Keeps (Changed first) (fail kernel arch cause) :=
  .get fun _ => (Keeps.ask _).bind fun _ => (Keeps.ofExcept _).bind fun _ =>
    Keeps.bind (changed_of_change fun _ => .kernel kernel fun _ => rfl) fun _ =>
      (report_changes _).bind fun _ => .pure _

theorem keep_changes (kernel : Nat) (arch : Arch) (ir : KernelIR) :
    Keeps (Changed first) (keep kernel arch ir) :=
  .get fun _ => (addCompiled_changes _).bind fun _ =>
    Keeps.bind (changed_of_change fun _ => .kernel kernel fun _ => rfl) fun _ =>
      (Keeps.ofExcept _).bind fun _ => (report_changes _).bind fun _ => .pure _

theorem countLookup_changes (id : Nat) (hit : Bool) :
    Keeps (Changed first) (countLookup id hit) := by
  refine modifyProgram_changes id fun entry => ?_
  cases hit
  · exact ⟨_, _, _, _, rfl⟩
  · exact ⟨_, _, _, _, rfl⟩

theorem compileFresh_changes (kernel : Nat) (arch : Arch) :
    Keeps (Changed first) (compileFresh kernel arch) := by
  refine .get fun session => (countLookup_changes _ _).bind fun _ => ?_
  split
  · exact (setState_changes _ _).bind fun _ => .throw _
  · refine (lowerKernel_changes kernel arch).observe.bind fun outcome => ?_
    split
    · exact keep_changes _ _ _
    · split
      · exact (fail_changes _ _ _).bind fun _ => .throw _
      · exact .throw _

theorem compile_changes (kernel : Nat) : Keeps (Changed first) (compile kernel) := by
  refine .get fun session => (checkAlive_changes _).bind fun _ => ?_
  by_cases unready : (session.kernel kernel).state = .defining
  · simp only [unready, if_true]
    exact fun _ reached => reached
  simp only [unready, if_false]
  refine (Keeps.ofExcept _).bind fun arch => ?_
  split
  · split
    · refine (countLookup_changes _ _).bind fun _ => ?_
      split
      · exact (setState_changes _ _).bind fun _ => .pure _
      · exact .pure _
    · exact compileFresh_changes _ _
  · exact compileFresh_changes _ _

/-- The storage of a program comes into being only while the program is alive. -/
theorem storageOf_changes (id : Nat) : Keeps (Changed first) (storageOf id) := by
  refine keeps_iff.mpr fun session reached => reached.trans ?_
  by_cases alive : (session.program id).alive
  swap
  · rw [storageOf, run_run_bind, HostT.run_checkAlive, if_neg alive]
  cases has : (session.program id).storage? with
  | some number => rw [storageOf_found alive has]
  | none =>
      rw [storageOf_missing alive has]
      split
      swap
      · exact .refl
      split
      · next storage _ =>
        have opens : Session.Change session { session with
            programs := session.programs.modify id fun entry =>
              { entry with storage? := some session.storages.size } } := by
          refine .program id (fun _ => rfl) (fun _ => rfl) (fun _ => rfl) (fun _ => rfl)
            fun dead => ?_
          rw [dead] at alive
          cases alive
        exact .tail (.single opens) (.elsewhere ⟨rfl, rfl, rfl⟩ rfl rfl rfl)
      · exact .refl

theorem storageFor_changes (id : Nat) (ir : KernelIR) :
    Keeps (Changed first) (storageFor id ir) := by
  refine .get fun session => ?_
  dsimp only
  split
  · exact addStorage_changes _
  · exact storageOf_changes id

theorem execute_changes (ir : KernelIR) (storage : Nat) (args : List HostValue) :
    Keeps (Changed first) (execute ir storage args) :=
  .get fun _ => (setStorage_changes _ _).bind fun _ =>
    Keeps.bind (Ensures.forM _ fun _ _ => printLine_changes _) fun _ => .ofExcept _

theorem executeOn_changes (ir : KernelIR) (target : HostValue) (args : List HostValue) :
    Keeps (Changed first) (executeOn ir target args) := by
  rw [executeOn.eq_def]
  split
  · exact execute_changes _ _ _
  · split
    · exact (addStorage_changes _).bind fun _ => execute_changes _ _ _
    · exact .ask _

theorem compiledTo_changes (id : Nat) : Keeps (Changed first) (compiledTo id) := by
  refine .get fun session => ?_
  split
  · exact .pure _
  · exact .throw _

theorem call_changes (kernel : Nat) (args : List HostValue) :
    Keeps (Changed first) (call kernel args) :=
  (compile_changes kernel).bind fun _ => (compiledTo_changes _).bind fun _ => .get fun _ =>
    (storageFor_changes _ _).bind fun _ => (execute_changes _ _ _).bind fun _ =>
      (modifyProgram_changes _ fun _ => ⟨_, _, _, _, rfl⟩).bind fun _ => setState_changes _ _

theorem addKernel_changes (id : Nat) (name : String) (types : List DataType) (number : Int) :
    Keeps (Changed first) (addKernel id name types number) :=
  Keeps.bind (changed_of_change fun _ => .makes (.newBlock ("kernel " ++ name))) fun _ =>
    changed_of_change fun _ => .addsKernel _

theorem nextKernel_changes (id : Nat) (name : String) (types : List DataType) :
    Keeps (Changed first) (nextKernel id name types) := by
  refine .get fun _ => .bind (changed_of_change fun session => ?_) fun _ =>
    addKernel_changes _ _ _ _
  exact .program id (fun _ => rfl) (fun _ => rfl) (fun _ => rfl) (fun _ => rfl) fun _ => rfl

theorem cacheStats_changes (id : Nat) (reset : Bool) :
    Keeps (Changed first) (cacheStats id reset) := by
  refine .get fun session => ?_
  dsimp only
  split
  · exact (modifyProgram_changes _ fun _ => ⟨_, _, _, _, rfl⟩).bind fun _ => .pure _
  · exact .pure _

theorem profile_changes (id : Nat) (reset : Bool) : Keeps (Changed first) (profile id reset) := by
  refine .get fun session => ?_
  split
  · exact (modifyProgram_changes _ fun _ => ⟨_, _, _, _, rfl⟩).bind fun _ => .pure _
  · exact .pure _

end Kernels

section Fields

theorem leafIn_changes (storage : Nat) (value : HostValue) :
    Keeps (Changed first) (leafIn storage value) :=
  (Keeps.ask _).bind fun _ => .get fun _ => .ofExcept _

theorem programOf_changes (ref : NodeRef) : Keeps (Changed first) (programOf ref) := by
  refine .get fun session => ?_
  split
  · exact .pure _
  · exact .throw _

theorem accessed_changes (field : Field) (index : List HostValue) :
    Keeps (Changed first) (accessed field index) := by
  refine .get fun session => ?_
  split
  · exact .throw _
  · exact (programOf_changes _).bind fun _ => (Keeps.ask _).bind fun _ => .pure _

theorem readLeaf_changes (storage : Nat) (leaf : Node) (index : List Int) :
    Keeps (Changed first) (readLeaf storage leaf index) :=
  .get fun _ => .ofExcept _

theorem writeLeaf_changes (storage : Nat) (leaf : Node) (index : List Int) (value : HostValue) :
    Keeps (Changed first) (writeLeaf storage leaf index value) :=
  .get fun _ => (setStorage_changes _ _).bind fun _ => .ofExcept _

theorem newStorage_changes (top? : Option NodeRef) : Keeps (Changed first) (newStorage top?) := by
  cases top? with
  | none => exact addStorage_changes _
  | some top => exact .get fun _ => (Keeps.ofExcept _).bind fun _ => addStorage_changes _

theorem readAt_changes (storage : Nat) (value : HostValue) (index : List HostValue) :
    Keeps (Changed first) (readAt storage value index) :=
  (leafIn_changes _ _).bind fun _ => (Keeps.ask _).bind fun _ => readLeaf_changes _ _ _

theorem writeAt_changes (storage : Nat) (field : HostValue) (index : List HostValue)
    (value : HostValue) : Keeps (Changed first) (writeAt storage field index value) :=
  (leafIn_changes _ _).bind fun _ => (Keeps.ask _).bind fun _ => writeLeaf_changes _ _ _ _

theorem readField_changes (target : HostValue) (index : List HostValue) :
    Keeps (Changed first) (readField target index) :=
  (Keeps.ask _).bind fun _ => (accessed_changes _ _).bind fun _ =>
    (storageOf_changes _).bind fun _ => (leafIn_changes _ _).bind fun _ => readLeaf_changes _ _ _

theorem writeField_changes (target : HostValue) (index : List HostValue) (value : HostValue) :
    Keeps (Changed first) (writeField target index value) :=
  (Keeps.ask _).bind fun _ => (accessed_changes _ _).bind fun _ =>
    (storageOf_changes _).bind fun _ => (leafIn_changes _ _).bind fun _ => writeLeaf_changes _ _ _ _

theorem activeAt_changes (storage : Nat) (value : HostValue) (index : List HostValue) :
    Keeps (Changed first) (activeAt storage value index) :=
  (leafIn_changes _ _).bind fun _ => (Keeps.ask _).bind fun _ => .get fun _ => .ofExcept _

theorem gridOf_changes (storage : Nat) (value : HostValue) :
    Keeps (Changed first) (gridOf storage value) :=
  (leafIn_changes _ _).bind fun _ => .get fun _ => .ofExcept _

theorem activeOf_changes (storage : Nat) (value : HostValue) :
    Keeps (Changed first) (activeOf storage value) :=
  (leafIn_changes _ _).bind fun _ => .get fun _ => (Keeps.ofExcept _).bind fun _ =>
    (Keeps.ofExcept _).bind fun _ => .pure _

end Fields

section Layouts

/-- A tree is replaced by one of the same program. -/
theorem setTree_changes {session : Session} (reached : Changed first session) (id : Nat)
    {tree : Tree} (owner : tree.program? = (session.tree id).program?) :
    Ensures (· = session) (setTree id tree) (fun _ => Changed first)
      (fun _ => Changed first) :=
  Ensures.modify fun _ here => here ▸ reached.tail (.setsTree id owner)

theorem declare_changes (above : NodeRef) (kind : LevelKind) (axes extents : HostValue) :
    Keeps (Changed first) (declare above kind axes extents) := by
  refine Ensures.get fun session reached => ?_
  have asks : Ensures (· = session)
      (liftM (Ask.declare (session.tree above.tree) (session.node above) kind axes extents) :
        Action (Tree × Node))
      (fun result state => state = session ∧
        result.1.program? = (session.tree above.tree).program?)
      (fun _ => Changed first) := by
    refine ensures_ask ?_ fun _ _ _ here => here ▸ reached
    rintro result _ answered rfl
    obtain ⟨_, bounds, _, _, added⟩ := Ask.declare_ok answered
    rw [added]
    exact ⟨rfl, rfl⟩
  refine asks.bind fun (tree, node) => ?_
  have sets : Ensures
      (fun state => state = session ∧ tree.program? = (session.tree above.tree).program?)
      (setTree above.tree tree) (fun _ => Changed first) (fun _ => Changed first) := by
    rintro _ ⟨rfl, owner⟩
    exact setTree_changes reached above.tree owner _ rfl
  exact sets.bind fun _ => (Keeps.ask _).bind fun _ => (report_changes _).bind fun _ => .pure _

theorem placeField_changes (above : NodeRef) (field : HostValue) :
    Keeps (Changed first) (placeField above field) := by
  rw [placeField]
  cases field.field? with
  | none => exact (Keeps.ask _).bind fun _ => .throw _
  | some field =>
      refine Ensures.get fun session reached => ?_
      dsimp only
      split
      · refine Ensures.bind (setTree_changes reached above.tree ?_) fun _ => Keeps.throw _
        rfl
      · refine Ensures.bind (setTree_changes reached above.tree ?_) fun _ =>
          (Keeps.ask _).bind fun _ => report_changes _
        rfl

theorem place_changes (above : NodeRef) (fields : List HostValue) :
    Keeps (Changed first) (place above fields) := by
  have loop : Keeps (Changed first) (fields.forM (placeField above)) :=
    Ensures.forM fields fun field _ => placeField_changes above field
  refine .get fun session => (Keeps.ofExcept _).bind fun _ => ?_
  split
  · exact .throw _
  · exact loop

theorem setSealed_changes {session : Session} (reached : Changed first session) (id : Nat)
    {tree : Tree} (owner : tree.program? = (session.tree id).program?) :
    Ensures (· = session) (setSealed id tree) (fun _ => Changed first)
      (fun _ => Changed first) := by
  refine (setTree_changes reached id owner).bind fun _ => ?_
  split
  · exact report_changes _
  · exact Keeps.pure _

/-- Sealing a tree leaves it to its program. -/
theorem sealing_changes {session : Session} (reached : Changed first session) (id : Nat)
    {outcome : Except Error Tree}
    (owner : ∀ tree, outcome = .ok tree → tree.program? = (session.tree id).program?) :
    Ensures (· = session) (ofExcept outcome >>= setSealed id) (fun _ => Changed first)
      (fun _ => Changed first) := by
  cases outcome with
  | error error => exact fun state here => here ▸ reached
  | ok tree => exact setSealed_changes reached id (owner tree rfl)

theorem program_of_sealed {tree after : Tree} (seals : tree.sealed = .ok after) :
    after.program? = tree.program? := by
  rw [Tree.sealed] at seals
  split at seals
  · cases seals
  · cases seals
    rfl

theorem sealTree_changes (ref : NodeRef) : Keeps (Changed first) (sealTree ref) :=
  Ensures.get fun _ reached => sealing_changes reached ref.tree fun _ => program_of_sealed

theorem sealLayout_changes (ref : NodeRef) : Keeps (Changed first) (sealLayout ref) := by
  refine Ensures.get fun session reached => sealing_changes reached ref.tree fun tree seals => ?_
  simp only [Tree.sealedAt] at seals
  split at seals
  · exact program_of_sealed seals
  · cases seals

end Layouts

end Action

namespace Call

variable {α : Type}

/-- A call records nothing with a builder and neither begins nor ends a program. -/
def plain : Call α → Bool
  | record _ _ => false
  | newProgram _ => false
  | teardown _ => false
  | _ => true

theorem changes {call : Call α} (plain : call.plain) (first : Session) :
    Action.Keeps (Action.Changed first) call.perform := by
  cases call with
  | record => cases plain
  | newProgram => cases plain
  | teardown => cases plain
  | make operation => exact Action.make_changes operation
  | newBuilder => exact Action.addBuilder_changes
  | enter program => exact Action.enter_changes program
  | setTarget program target =>
      exact Action.modifyProgram_changes program fun _ => ⟨_, _, _, _, rfl⟩
  | root program => exact Action.root_changes program
  | newTree program? => exact Action.addTree_changes program?
  | declare above kind axes extents => exact Action.declare_changes above kind axes extents
  | place above fields => exact Action.place_changes above fields
  | sealTree node => exact Action.sealTree_changes node
  | newKernel program name types id => exact Action.addKernel_changes program name types id
  | compile kernel => exact Action.compile_changes kernel
  | call kernel args => exact Action.call_changes kernel args
  | execute ir target args => exact Action.executeOn_changes ir target args
  | cacheStats program reset => exact Action.cacheStats_changes program reset
  | profile program reset => exact Action.profile_changes program reset
  | readField target index => exact Action.readField_changes target index
  | writeField target index value => exact Action.writeField_changes target index value
  | storageOf program => exact Action.storageOf_changes program
  | newStorage top? => exact Action.newStorage_changes top?
  | readAt storage field index => exact Action.readAt_changes storage field index
  | writeAt storage field index value => exact Action.writeAt_changes storage field index value
  | activeAt storage field index => exact Action.activeAt_changes storage field index
  | gridOf storage field => exact Action.gridOf_changes storage field
  | activeOf storage field => exact Action.activeOf_changes storage field

end Call

namespace HostT

variable {α : Type}

/-- A relation allows for changes. -/
def AdmitsChanges (relation : Session × List Turn → Session × List Turn → Prop) : Prop :=
  ∀ (before after : Session) (written : List Turn), Action.Changed before after →
    relation (before, written) (after, written)

/-- What a relation has to allow for, so that all that host code does keeps to
it. -/
structure Admits (relation : Session × List Turn → Session × List Turn → Prop) : Prop where
  turn (opens? : Option Nat) : Follows relation (turn opens?)
  changes : AdmitsChanges relation
  call {α : Type} (called : Call α) :
    Follows relation (HostT.turn called.opens? >>= fun _ => observe (lift called.perform))
  ends (program : Nat) : Follows relation (lift (Action.teardown program))
  leaves (builder : Nat) (guard : Guard) (failed : Bool) :
    Follows relation (lift (Action.record builder (Record.leave guard failed)))
  defines (program : Nat) (name : String) (types : List HostValue)
    {callback : List Expr → HostT (StateM (List Turn)) Unit}
    (follows : ∀ arguments, Follows relation (callback arguments)) :
    Follows relation (define program name types callback)

section Courses

variable {relation : Session × List Turn → Session × List Turn → Prop}

theorem AdmitsChanges.lift (admits : AdmitsChanges relation) {action : Action α}
    (keeps : ∀ first, Action.Keeps (Action.Changed first) action) :
    Follows relation (HostT.lift action) :=
  fun start => admits _ _ _ (Action.keeps_iff.mp (keeps start.1) start.1 .refl)

variable [IsPreorder (Session × List Turn) relation]

theorem AdmitsChanges.activated (admits : AdmitsChanges relation) (program : Nat)
    {inside : HostT (StateM (List Turn)) α} (follows : Follows relation inside) :
    Follows relation (activated program inside) := by
  refine (admits.lift fun _ => Action.enter_changes program).bind fun _ => .bind follows.observe
    fun outcome => (admits.lift fun _ => Action.remove_changes program).bind fun _ => ?_
  cases outcome with
  | ok result => exact .pure result
  | error error => exact .throw _

/-- The body of a kernel is recorded by its callback, and its scope is closed. -/
theorem AdmitsChanges.recorded (admits : AdmitsChanges relation) {builder : Nat}
    (exits : Follows relation (HostT.lift (Action.record builder Record.exitRoot)))
    (argTypes : List DataType) {callback : List Expr → HostT (StateM (List Turn)) Unit}
    (follows : ∀ arguments, Follows relation (callback arguments)) :
    Follows relation (recorded builder argTypes callback) :=
  (admits.lift fun _ => Action.build_changes _).bind fun arguments =>
    (follows arguments).bind fun _ => exits.bind fun _ => .pure ()

variable (admits : Admits relation)

include admits

theorem Admits.during (program : Nat) {inside : HostT (StateM (List Turn)) Unit}
    (follows : Follows relation inside) : Follows relation (during program inside) := by
  refine (admits.changes.lift fun _ => Action.enter_changes program).bind fun _ =>
    .bind follows.observe fun outcome => (admits.ends program).bind fun _ => ?_
  cases outcome with
  | ok result => exact .pure result
  | error error => exact .throw _

theorem Admits.inScope (builder : Nat) (guard : Guard) {inside : HostT (StateM (List Turn)) Unit}
    (follows : Follows relation inside) : Follows relation (inScope builder guard inside) := by
  refine .bind follows.observe fun outcome => (admits.leaves builder guard _).bind fun _ => ?_
  cases outcome with
  | ok result => exact .pure result
  | error error => exact .throw _

theorem Admits.layoutAt (root : HostValue)
    {callback : HostValue → HostT (StateM (List Turn)) Unit}
    (follows : ∀ root, Follows relation (callback root)) :
    Follows relation (declareLayout root callback) :=
  (follows root).bind fun _ => admits.changes.lift fun _ => (Action.Keeps.ask _).bind fun root =>
    (Action.sealLayout_changes root).bind fun _ => .pure root

theorem Admits.layout (program : Nat) {callback : HostValue → HostT (StateM (List Turn)) Unit}
    (follows : ∀ root, Follows relation (callback root)) :
    Follows relation (layout program callback) :=
  (admits.changes.lift fun _ => Action.root_changes program).bind fun root =>
    admits.layoutAt (.node root) follows

/-- Whatever host code does keeps to a relation that allows for each of its
calls. -/
theorem Admits.course (course : Course) : course.perform.Follows relation := by
  have turned {α : Type} {block : HostT (StateM (List Turn)) α}
      {next : Except Error α → HostT (StateM (List Turn)) Unit}
      (follows : block.Follows relation)
      (continues : ∀ outcome, (next outcome).Follows relation) :
      HostT.Follows relation (HostT.turn none >>= fun _ => HostT.observe block >>= next) :=
    (admits.turn none).bind fun _ => .bind follows.observe continues
  induction course with
  | finish => exact admits.turn none
  | raise error => exact (admits.turn none).bind fun _ => .throw error
  | call called next continues =>
      have whole : (Course.call called next).perform =
          (HostT.turn called.opens? >>= fun _ => HostT.observe (HostT.lift called.perform)) >>=
            fun outcome => (next outcome).perform := by
        rw [bind_assoc]
        rfl
      rw [whole]
      exact (admits.call called).bind continues
  | define program name types body next hypothesis continues =>
      exact turned (admits.defines program name types hypothesis) continues
  | activated program body next hypothesis continues =>
      exact turned (admits.changes.activated program hypothesis) continues
  | during program body next hypothesis continues =>
      exact turned (admits.during program hypothesis) continues
  | inScope builder guard body next hypothesis continues =>
      exact turned (admits.inScope builder guard hypothesis) continues
  | layout program body next hypothesis continues =>
      exact turned (admits.layout program hypothesis) continues
  | layoutAt root body next hypothesis continues =>
      exact turned (admits.layoutAt root hypothesis) continues

end Courses

end HostT

end FieldKernel
