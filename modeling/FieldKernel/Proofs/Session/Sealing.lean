import FieldKernel.Proofs.Recording.Builds
import FieldKernel.Proofs.Session.Declaring
import FieldKernel.Proofs.Written

/-!
# Sealing layouts

While a tree is open, a container is declared if there is a way to bind what it
is asked to bind; it then gets the next number, and one that is refused leaves
no trace.  A tree is sealed once, through any of its nodes.  From then on every
call on one of its nodes is refused, and nothing changes its nodes, its numbers
or the places of its fields.
-/

namespace FieldKernel

/-- Containers and fields are declared below what is no leaf, in an open tree. -/
theorem Tree.checkOpen_ok_iff {tree : Tree} {node : Node} {action : String} :
    tree.checkOpen node action = .ok () ↔ tree.isSealed = false ∧ node.isLeaf = false := by
  rw [checkOpen]
  cases tree.isSealed with
  | true => simp
  | false =>
      cases node.isLeaf with
      | true => simp
      | false => simp

namespace Ask

variable {objects : Objects}

/-- A value that stands for an axis. -/
inductive StandsForAxis : HostValue → Nat → Prop where
  | number (id axis : Nat) : StandsForAxis (.int id axis) axis
  | axis (id axis : Nat) : StandsForAxis (.axis id axis) axis

/-- A value that stands for an extent. -/
inductive StandsForExtent : HostValue → Nat → Prop where
  | number (id : Nat) {extent : Nat} (positive : 0 < extent) :
      StandsForExtent (.int id extent) extent

/-- Axes that differ are bound, and each of them gets an extent. -/
structure Binds (axes extents : HostValue) (bounds : List (Nat × Nat)) : Prop where
  axes : List.Forall₂ StandsForAxis (rowOf axes) (bounds.map Prod.fst)
  distinct : (bounds.map Prod.fst).Nodup
  extents : List.Forall₂ StandsForExtent (rowOf extents) (bounds.map Prod.snd)

theorem axisNumber_ok_iff {value : HostValue} {number : Nat} :
    axisNumber value objects = .ok number ↔ ∃ id, value = .int id number := by
  constructor
  · intro answered
    rw [axisNumber.eq_def] at answered
    split at answered
    · next id index =>
      split at answered
      · next positive =>
          cases answered
          exact ⟨id, by rw [Int.toNat_of_nonneg positive]⟩
      · obtain ⟨_, _, thrown⟩ := bind_eq_ok.mp answered
        cases thrown
    · obtain ⟨_, _, thrown⟩ := bind_eq_ok.mp answered
      cases thrown
  · rintro ⟨id, rfl⟩
    simp only [axisNumber, Int.natCast_nonneg, if_true]
    rfl

theorem axis_ok_iff {value : HostValue} {number : Nat} :
    axis value objects = .ok number ↔ StandsForAxis value number := by
  constructor
  · intro answered
    rw [axis.eq_def] at answered
    split at answered
    · next id index =>
        cases answered
        exact .axis id number
    · obtain ⟨id, rfl⟩ := axisNumber_ok_iff.mp answered
      exact .number id number
  · intro stands
    cases stands with
    | number id => exact axisNumber_ok_iff.mpr ⟨id, rfl⟩
    | axis id => rfl

theorem extentOf?_eq_some_iff {value : HostValue} {extent : Nat} :
    extentOf? value = some extent ↔ StandsForExtent value extent := by
  constructor
  · intro given
    rw [extentOf?.eq_def] at given
    split at given
    · next id number =>
      split at given
      · next positive =>
          cases given
          have same := Int.toNat_of_nonneg positive.le
          rw [← same]
          exact .number id (by omega)
      · cases given
    · cases given
  · rintro ⟨id, positive⟩
    simp [extentOf?, positive]

/-- Axes are read off one after the other. -/
theorem axes_ok_iff {values : List HostValue} {axes : List Nat} :
    values.mapM axis objects = .ok axes ↔ List.Forall₂ StandsForAxis values axes := by
  constructor
  · intro answered
    exact (forall₂_of_mapM answered).imp fun _ _ => axis_ok_iff.mp
  · intro stand
    induction stand with
    | nil => rfl
    | cons head _ hypothesis =>
        rw [List.mapM_cons]
        exact bind_eq_ok.mpr ⟨_, axis_ok_iff.mpr head, bind_eq_ok.mpr ⟨_, hypothesis, rfl⟩⟩

theorem extents_eq_some_iff {values : List HostValue} {extents : List Nat} :
    values.mapM extentOf? = some extents ↔ List.Forall₂ StandsForExtent values extents := by
  constructor
  · intro given
    induction values generalizing extents with
    | nil =>
        cases given
        exact .nil
    | cons first rest hypothesis =>
        rw [List.mapM_cons] at given
        obtain ⟨extent, head, tail⟩ := Option.bind_eq_some_iff.mp given
        obtain ⟨others, more, same⟩ := Option.bind_eq_some_iff.mp tail
        cases same
        exact .cons (extentOf?_eq_some_iff.mp head) (hypothesis more)
  · intro stand
    induction stand with
    | nil => rfl
    | cons head _ hypothesis =>
        rw [List.mapM_cons, extentOf?_eq_some_iff.mpr head, hypothesis]
        rfl

/-- What is bound is what there is a way to bind. -/
theorem bounds_ok_iff {container : String} {axes extents : HostValue} {bound : List (Nat × Nat)} :
    bounds container axes extents objects = .ok bound ↔ Binds axes extents bound := by
  constructor
  · intro answered
    obtain ⟨numbers, axesAnswered, rest⟩ := bind_eq_ok.mp answered
    have stand := axes_ok_iff.mp axesAnswered
    dsimp only at rest
    split at rest
    · cases rest
    next lengths =>
    replace lengths := not_not.mp lengths
    split at rest
    · obtain ⟨_, _, thrown⟩ := bind_eq_ok.mp rest
      cases thrown
    next distinct =>
    replace distinct := not_not.mp distinct
    cases given : (rowOf extents).mapM extentOf? with
    | none =>
        rw [given] at rest
        obtain ⟨_, _, thrown⟩ := bind_eq_ok.mp rest
        cases thrown
    | some sizes =>
        rw [given] at rest
        cases rest
        have positive := extents_eq_some_iff.mp given
        have length : numbers.length = sizes.length := lengths.trans positive.length_eq
        constructor
        · rwa [List.map_fst_zip length.le]
        · rwa [List.map_fst_zip length.le]
        · rwa [List.map_snd_zip length.ge]
  · intro binds
    refine bind_eq_ok.mpr ⟨_, axes_ok_iff.mpr binds.axes, ?_⟩
    have lengths : (bound.map Prod.fst).length = (rowOf extents).length := by
      rw [binds.extents.length_eq, List.length_map, List.length_map]
    dsimp only
    rw [if_neg (not_not.mpr lengths), if_neg (not_not.mpr binds.distinct),
      extents_eq_some_iff.mpr binds.extents]
    have whole : (bound.map Prod.fst).zip (bound.map Prod.snd) = bound := by
      rw [List.zip_map', List.map_id']
    exact congrArg Except.ok whole

/-- A container is declared exactly if it may be. -/
theorem declare_ok_iff {tree : Tree} {above : Node} {kind : LevelKind} {axes extents : HostValue}
    {result : Tree × Node} :
    declare tree above kind axes extents objects = .ok result ↔
      (tree.isSealed = false ∧ above.isLeaf = false) ∧
        ∃ bound, Binds axes extents bound ∧ result = tree.add above kind bound := by
  constructor
  · intro declared
    obtain ⟨⟨⟩, isOpen, rest⟩ := bind_eq_ok.mp declared
    obtain ⟨bound, answered, added⟩ := bind_eq_ok.mp rest
    cases added
    exact ⟨Tree.checkOpen_ok_iff.mp isOpen, bound, bounds_ok_iff.mp answered, rfl⟩
  · rintro ⟨isOpen, bound, binds, rfl⟩
    exact bind_eq_ok.mpr ⟨(), Tree.checkOpen_ok_iff.mpr isOpen,
      bind_eq_ok.mpr ⟨bound, bounds_ok_iff.mpr binds, rfl⟩⟩

end Ask

namespace Session

variable {id : Nat} {nodes : Array (Option Node)}

/-- A tree is sealed with its nodes. -/
def Sealed (id : Nat) (nodes : Array (Option Node)) (session : Session) : Prop :=
  ∃ tree, session.layouts[id]? = some tree ∧ tree.isSealed = true ∧ tree.nodes = nodes

/-- There is another tree now, and all others are as they were. -/
structure Replaced (session : Session) (id : Nat) (tree : Tree) (after : Session) : Prop where
  here : after.layouts[id]? = some tree
  elsewhere : ∀ other ≠ id, after.layouts[other]? = session.layouts[other]?

theorem replaced_modified {session : Session} {old : Tree} (found : session.layouts[id]? = some old)
    (tree : Tree) (log : Array LogRecord) :
    session.Replaced id tree
      { session with layouts := session.layouts.modify id fun _ => tree, log := log } := by
  constructor
  · rw [Array.getElem?_modify, if_pos rfl, found]
    rfl
  · intro other different
    rw [Array.getElem?_modify, if_neg (Ne.symm different)]

theorem Sealed.tree_eq {session : Session} (closed : session.Sealed id nodes) :
    (session.tree id).isSealed = true ∧ (session.tree id).nodes = nodes := by
  obtain ⟨tree, found, facts⟩ := closed
  rw [Objects.tree, found]
  exact facts

/-- A sealed tree stays one when another tree comes up. -/
theorem Sealed.pushed {session other : Session} (closed : session.Sealed id nodes) {tree : Tree}
    (same : other.layouts = session.layouts.push tree) : other.Sealed id nodes := by
  obtain ⟨old, found, facts⟩ := closed
  have inside : id < session.layouts.size := by
    by_contra outside
    simp [outside] at found
  refine ⟨old, ?_, facts⟩
  rw [same, Array.getElem?_push, if_neg inside.ne, found]

/-- A sealed tree stays one when a tree is replaced, if the new one is sealed
with the same nodes in case it is that one. -/
theorem Sealed.modified {session other : Session} (closed : session.Sealed id nodes) {place : Nat}
    {tree : Tree} (kept : place = id → tree.isSealed = true ∧ tree.nodes = nodes)
    (same : other.layouts = session.layouts.modify place fun _ => tree) :
    other.Sealed id nodes := by
  obtain ⟨old, found, facts⟩ := closed
  rw [Sealed, same]
  by_cases here : place = id
  · subst here
    exact ⟨tree, by rw [Array.getElem?_modify, if_pos rfl, found]; rfl, kept rfl⟩
  · exact ⟨old, by rw [Array.getElem?_modify, if_neg here, found], facts⟩

end Session

namespace Action

variable {id : Nat} {nodes : Array (Option Node)} {ref : NodeRef}

/-- What declaring a container comes to.  Its path is written when it is declared
already. -/
theorem run_declare (kind : LevelKind) (axes extents : HostValue) (session : Session) :
    (declare ref kind axes extents).run.run session =
      match Ask.declare (session.tree ref.tree) (session.node ref) kind axes extents
        session.toObjects with
      | .ok (tree, node) =>
        let layouts := session.layouts.modify ref.tree fun _ => tree
        match node.path with
        | .ok path => (.ok ⟨ref.tree, node.id⟩,
            { session with
              layouts := layouts
              log := session.log.push (.detail .layout ("declared " ++ path)) })
        | .error fault => (.error (.host fault), { session with layouts := layouts })
      | .error error => (.error error, session) := by
  rw [declare, run_run_get_bind, run_run_bind]
  have asked : (liftM (Ask.declare (session.tree ref.tree) (session.node ref) kind axes extents) :
      Action (Tree × Node)).run.run session =
    (Ask.declare (session.tree ref.tree) (session.node ref) kind axes extents session.toObjects,
      session) := rfl
  rw [asked]
  cases Ask.declare (session.tree ref.tree) (session.node ref) kind axes extents
      session.toObjects with
  | error error => rfl
  | ok result =>
      obtain ⟨tree, node⟩ := result
      dsimp only
      cases node.path with
      | error fault => rfl
      | ok path => rfl

/-- Whatever can be declared is there afterwards under the next number, and this
is the answer, unless its path cannot be written. -/
theorem declare_accepted {session : Session} (knows : session.Knows ref)
    (isOpen : (session.tree ref.tree).isSealed = false)
    (container : (session.node ref).isLeaf = false) (kind : LevelKind) {axes extents : HostValue}
    {bounds : List (Nat × Nat)} (binds : Ask.Binds axes extents bounds) {tree : Tree} {node : Node}
    (added : (session.tree ref.tree).add (session.node ref) kind bounds = (tree, node)) :
    ∃ outcome after, (declare ref kind axes extents).run.run session = (outcome, after) ∧
      session.Replaced ref.tree tree after ∧
      (node.Legible → outcome = .ok ⟨ref.tree, (session.tree ref.tree).nodes.size⟩) ∧
      (¬node.Legible → outcome = .error (.host (.value .longNumber))) := by
  have answered : Ask.declare (session.tree ref.tree) (session.node ref) kind axes extents
      session.toObjects = .ok (tree, node) :=
    Ask.declare_ok_iff.mpr ⟨⟨isOpen, container⟩, bounds, binds, added.symm⟩
  obtain ⟨old, found, _, _⟩ := knows.exists_node
  have numbered : node.id = (session.tree ref.tree).nodes.size := by
    cases added
    rfl
  rw [run_declare, answered]
  by_cases legible : node.Legible
  · obtain ⟨path, written⟩ := node.path_writesIf.written legible
    dsimp only
    rw [written, numbered]
    exact ⟨_, _, rfl, Session.replaced_modified found _ _, fun _ => rfl, absurd legible⟩
  · dsimp only
    rw [node.path_writesIf.refused legible]
    exact ⟨_, _, rfl, Session.replaced_modified found _ _, fun written => absurd written legible,
      fun _ => rfl⟩

/-- What is not declared leaves no trace. -/
theorem declare_refused {session : Session} (kind : LevelKind) (axes extents : HostValue)
    (unfit : (session.tree ref.tree).isSealed = true ∨ (session.node ref).isLeaf = true ∨
      ∀ bounds, ¬Ask.Binds axes extents bounds) :
    ∃ error, (declare ref kind axes extents).run.run session = (.error error, session) := by
  rw [run_declare]
  cases answered : Ask.declare (session.tree ref.tree) (session.node ref) kind axes extents
      session.toObjects with
  | error error => exact ⟨error, rfl⟩
  | ok result =>
      obtain ⟨⟨isOpen, container⟩, bounds, binds, _⟩ := Ask.declare_ok_iff.mp answered
      rcases unfit with closed | leaf | unbound
      · rw [isOpen] at closed
        cases closed
      · rw [container] at leaf
        cases leaf
      · exact absurd binds (unbound bounds)

/-- Nothing is placed below a node of a sealed tree. -/
theorem place_refused {session : Session} (closed : (session.tree ref.tree).isSealed = true)
    (fields : List HostValue) :
    ∃ error, (place ref fields).run.run session = (.error error, session) := by
  rw [place, run_run_get_bind, run_run_bind, run_ofExcept]
  cases checked : (session.tree ref.tree).checkOpen (session.node ref) "place" with
  | error error => exact ⟨error, rfl⟩
  | ok =>
      have isOpen := (Tree.checkOpen_ok_iff.mp checked).1
      rw [closed] at isOpen
      cases isOpen

/-- No tree is sealed twice. -/
theorem sealTree_refused {session : Session} (closed : (session.tree ref.tree).isSealed = true) :
    ∃ error, (sealTree ref).run.run session = (.error error, session) := by
  rw [sealTree, run_run_get_bind, Tree.sealed, if_pos closed]
  exact ⟨_, rfl⟩

theorem sealLayout_refused {session : Session} (closed : (session.tree ref.tree).isSealed = true) :
    ∃ error, (sealLayout ref).run.run session = (.error error, session) := by
  rw [sealLayout, run_run_get_bind, Tree.sealedAt]
  split
  · rw [Tree.sealed, if_pos closed]
    exact ⟨_, rfl⟩
  · exact ⟨_, rfl⟩

/-- Keeping a sealed tree replaces it, and at most reports that. -/
theorem run_setSealed (place : Nat) (tree : Tree) (session : Session) :
    ∃ log, (setSealed place tree).run.run session =
      (.ok (), { session with
        layouts := session.layouts.modify place fun _ => tree
        log := log }) := by
  rw [setSealed, run_run_bind]
  dsimp only [setTree]
  cases tree.node? 0 with
  | some root => exact ⟨_, rfl⟩
  | none => exact ⟨_, rfl⟩

/-- A tree that is open gets sealed. -/
theorem sealTree_accepted {session : Session} (knows : session.Knows ref)
    (isOpen : (session.tree ref.tree).isSealed = false) :
    ∃ after, (sealTree ref).run.run session = (.ok (), after) ∧
      session.Replaced ref.tree { session.tree ref.tree with isSealed := true } after := by
  obtain ⟨tree, found, _, _⟩ := knows.exists_node
  obtain ⟨log, run⟩ :=
    run_setSealed ref.tree { session.tree ref.tree with isSealed := true } session
  rw [sealTree, run_run_get_bind, Tree.sealed, if_neg (by simp [isOpen])]
  exact ⟨_, run, Session.replaced_modified found _ log⟩

section Elsewhere

variable {place : Nat}

/-- Only another tree is replaced. -/
theorem setTree_keeps_sealed (elsewhere : place ≠ id) (tree : Tree) :
    Keeps (Session.Sealed id nodes) (setTree place tree) :=
  Ensures.modify fun _ closed => closed.modified (fun here => absurd here elsewhere) rfl

theorem report_keeps_sealed (record : LogRecord) :
    Keeps (Session.Sealed id nodes) (report record) :=
  Ensures.modify fun _ closed => closed

theorem declare_keeps_sealed (elsewhere : ref.tree ≠ id) (kind : LevelKind)
    (axes extents : HostValue) :
    Keeps (Session.Sealed id nodes) (declare ref kind axes extents) :=
  .get fun _ => (Keeps.ask _).bind fun _ => (setTree_keeps_sealed elsewhere _).bind fun _ =>
    (Keeps.ask _).bind fun _ => (report_keeps_sealed _).bind fun _ => .pure _

theorem placeField_keeps_sealed (elsewhere : ref.tree ≠ id) (field : HostValue) :
    Keeps (Session.Sealed id nodes) (placeField ref field) := by
  rw [placeField]
  split
  · exact (Keeps.ask _).bind fun _ => .throw _
  · refine .get fun session => ?_
    dsimp only
    split
    · exact (setTree_keeps_sealed elsewhere _).bind fun _ => .throw _
    · exact (setTree_keeps_sealed elsewhere _).bind fun _ => (Keeps.ask _).bind fun _ =>
        report_keeps_sealed _

theorem place_keeps_sealed (elsewhere : ref.tree ≠ id) (fields : List HostValue) :
    Keeps (Session.Sealed id nodes) (Action.place ref fields) := by
  refine .get fun session => (Keeps.ofExcept _).bind fun _ => ?_
  have loop : Keeps (Session.Sealed id nodes) (fields.forM (placeField ref)) :=
    Ensures.forM fields fun field _ => placeField_keeps_sealed elsewhere field
  cases fields with
  | nil => exact .throw _
  | cons field rest => exact loop

theorem setSealed_keeps_sealed (elsewhere : place ≠ id) (tree : Tree) :
    Keeps (Session.Sealed id nodes) (setSealed place tree) := by
  refine (setTree_keeps_sealed elsewhere tree).bind fun _ => ?_
  split
  · exact report_keeps_sealed _
  · exact .pure _

theorem sealTree_keeps_sealed (elsewhere : ref.tree ≠ id) :
    Keeps (Session.Sealed id nodes) (sealTree ref) :=
  .get fun _ => (Keeps.ofExcept _).bind fun _ => setSealed_keeps_sealed elsewhere _

theorem sealLayout_keeps_sealed (elsewhere : ref.tree ≠ id) :
    Keeps (Session.Sealed id nodes) (sealLayout ref) :=
  .get fun _ => (Keeps.ofExcept _).bind fun _ => setSealed_keeps_sealed elsewhere _

end Elsewhere

/-- A program that ends gives its tree away as it is. -/
theorem teardown_keeps_sealed (program : Nat) :
    Keeps (Session.Sealed id nodes) (teardown program) := by
  refine .get fun session => ?_
  dsimp only
  split
  · have records : Keeps (Session.Sealed id nodes)
        (record (session.program program).builder Record.reset) :=
      keeps_iff.mpr fun _ closed => closed
    have ends : Keeps (Session.Sealed id nodes) (modifyProgram program fun entry =>
        { entry with alive := false, kernels := [], storage? := none }) :=
      Ensures.modify fun _ closed => closed
    have gives : Keeps (Session.Sealed id nodes) (do
        setTree (session.program program).tree
          { (← get).tree (session.program program).tree with program? := none }) := by
      refine Ensures.get fun state closed => .modify ?_
      rintro _ rfl
      refine closed.modified ?_ rfl
      rintro rfl
      exact closed.tree_eq
    have removes : Keeps (Session.Sealed id nodes) (remove program) :=
      Ensures.modify fun _ closed => closed
    exact records.bind fun _ => ends.bind fun _ => gives.bind fun _ => removes.bind fun _ =>
      report_keeps_sealed _
  · exact .pure _

end Action

namespace Declaration

variable {id : Nat} {nodes : Array (Option Node)}

/-- A call on a node of a sealed tree is refused and leaves no trace. -/
theorem refused (declaration : Declaration) {ref : NodeRef} (on : declaration.node? = some ref)
    {session : Session} (closed : (session.tree ref.tree).isSealed = true) :
    ∃ error, declaration.perform.run.run session = (.error error, session) := by
  cases declaration with
  | newProgram config? => cases on
  | newTree program? => cases on
  | dense above axes extents =>
      cases on
      obtain ⟨error, run⟩ := Action.declare_refused .dense axes extents (.inl closed)
      exact ⟨error, by rw [perform, run_run_bind, run]⟩
  | pointer above axes extents =>
      cases on
      obtain ⟨error, run⟩ := Action.declare_refused .pointer axes extents (.inl closed)
      exact ⟨error, by rw [perform, run_run_bind, run]⟩
  | place above fields =>
      cases on
      exact Action.place_refused closed fields
  | sealTree node =>
      cases on
      exact Action.sealTree_refused closed
  | sealLayout node =>
      cases on
      exact Action.sealLayout_refused closed
  | teardown program => cases on

/-- A call on a node of another tree leaves a sealed tree alone. -/
theorem keeps_sealed_elsewhere (declaration : Declaration)
    (elsewhere : ∀ ref, declaration.node? = some ref → ref.tree ≠ id) :
    Action.Keeps (Session.Sealed id nodes) declaration.perform := by
  cases declaration with
  | newProgram config? => exact fun session closed => closed.pushed rfl
  | newTree program? => exact fun session closed => closed.pushed rfl
  | dense above axes extents =>
      exact (Action.declare_keeps_sealed (elsewhere above rfl) _ _ _).bind fun _ => .pure _
  | pointer above axes extents =>
      exact (Action.declare_keeps_sealed (elsewhere above rfl) _ _ _).bind fun _ => .pure _
  | place above fields => exact Action.place_keeps_sealed (elsewhere above rfl) fields
  | sealTree node => exact Action.sealTree_keeps_sealed (elsewhere node rfl)
  | sealLayout node => exact Action.sealLayout_keeps_sealed (elsewhere node rfl)
  | teardown program => exact Action.teardown_keeps_sealed program

/-- No declaration whatsoever changes a sealed tree. -/
theorem keeps_sealed (declaration : Declaration) :
    Action.Keeps (Session.Sealed id nodes) declaration.perform := by
  rw [Action.keeps_iff]
  intro session closed
  by_cases on : ∃ ref, declaration.node? = some ref ∧ ref.tree = id
  · obtain ⟨ref, called, rfl⟩ := on
    obtain ⟨error, run⟩ := declaration.refused called closed.tree_eq.1
    rw [run]
    exact closed
  · refine Action.keeps_iff.mp (declaration.keeps_sealed_elsewhere ?_) session closed
    exact fun ref called here => on ⟨ref, called, here⟩

end Declaration

namespace Session

/-- What calls on a node come to while its tree is open. -/
structure Open (session : Session) (ref : NodeRef) : Prop where
  /-- A container that binds what can be bound gets the next number.  It is there
even if the call is broken off because its path cannot be written. -/
  declares (kind : LevelKind) {axes extents : HostValue} {bounds : List (Nat × Nat)}
    (container : (session.node ref).isLeaf = false) (binds : Ask.Binds axes extents bounds)
    {tree : Tree} {node : Node}
    (added : (session.tree ref.tree).add (session.node ref) kind bounds = (tree, node)) :
    ∃ outcome after, (Action.declare ref kind axes extents).run.run session = (outcome, after) ∧
      session.Replaced ref.tree tree after ∧
      (node.Legible → outcome = .ok ⟨ref.tree, (session.tree ref.tree).nodes.size⟩) ∧
      (¬node.Legible → outcome = .error (.host (.value .longNumber)))
  /-- Every other container is refused, and nothing has happened. -/
  refuses (kind : LevelKind) {axes extents : HostValue}
    (unfit : (session.node ref).isLeaf = true ∨ ∀ bounds, ¬Ask.Binds axes extents bounds) :
    ∃ error, (Action.declare ref kind axes extents).run.run session = (.error error, session)
  /-- The tree can be sealed, with the nodes it has. -/
  seals : ∃ after, (Action.sealTree ref).run.run session = (.ok (), after) ∧
    session.Replaced ref.tree { session.tree ref.tree with isSealed := true } after

/-- What has become of a sealed tree later on: its nodes, its numbers and the
places of its fields are what they were, and every call on one of its nodes is
refused. -/
structure Closed (session : Session) (id : Nat) (later : Session) : Prop where
  nodes : later.Sealed id (session.tree id).nodes
  places (field : Field) (leaf : Node) :
    later.layouts.leafOf? field = some (id, leaf) ↔
      session.layouts.leafOf? field = some (id, leaf)
  refuses (declaration : Declaration) {ref : NodeRef} (on : declaration.node? = some ref)
    (here : ref.tree = id) :
    ∃ error, declaration.perform.run.run later = (.error error, later)

theorem Lays.sealed {session later : Session} (lays : session.Lays later) {id : Nat}
    {nodes : Array (Option Node)} (closed : session.Sealed id nodes) : later.Sealed id nodes := by
  cases lays with
  | declares declaration _ => exact Action.keeps_iff.mp declaration.keeps_sealed session closed
  | aside same =>
      obtain ⟨tree, found, facts⟩ := closed
      exact ⟨tree, same ▸ found, facts⟩

theorem sealed_of_lays {session later : Session} (laid : Relation.ReflTransGen Lays session later)
    {id : Nat} {nodes : Array (Option Node)} (closed : session.Sealed id nodes) :
    later.Sealed id nodes := by
  induction laid with
  | refl => exact closed
  | tail _ lays hypothesis => exact lays.sealed hypothesis

/-- Where fields are placed in a tree depends on its nodes alone. -/
theorem places_of_nodes {session later : Session} (sound : session.layouts.Sound)
    (soundLater : later.layouts.Sound) {id : Nat} {tree other : Tree}
    (found : session.layouts[id]? = some tree) (foundLater : later.layouts[id]? = some other)
    (same : other.nodes = tree.nodes) (field : Field) (leaf : Node) :
    later.layouts.leafOf? field = some (id, leaf) ↔
      session.layouts.leafOf? field = some (id, leaf) := by
  have declared : other.declared = tree.declared := by rw [Tree.declared, same, Tree.declared]
  rw [sound.leafOf?_eq_some_iff, soundLater.leafOf?_eq_some_iff, found, foundLater]
  simp only [Option.some.injEq, exists_eq_left', declared]

/-- However layouts are declared from nothing: while a tree is open, containers
are declared below its nodes exactly as far as they can be bound, and those that
are refused leave no trace.  Once the tree is sealed, which can be done through
any of its nodes, every further call is refused, and the tree stays what it is. -/
theorem declarations_respect_seal {fresh session : Session} (unlaid : fresh.layouts = #[])
    (laid : Relation.ReflTransGen Lays fresh session) {ref : NodeRef}
    (knows : session.Knows ref) :
    ((session.tree ref.tree).isSealed = false → session.Open ref) ∧
      ((session.tree ref.tree).isSealed = true →
        ∀ later, Relation.ReflTransGen Lays session later → session.Closed ref.tree later) := by
  constructor
  · intro isOpen
    exact {
      declares := fun kind _ _ _ container binds _ _ added =>
        Action.declare_accepted knows isOpen container kind binds added
      refuses := fun kind _ _ unfit => Action.declare_refused kind _ _ (.inr unfit)
      seals := Action.sealTree_accepted knows isOpen }
  · intro isSealed later further
    obtain ⟨tree, found, same, _⟩ := knows.exists_node
    have closed : later.Sealed ref.tree (session.tree ref.tree).nodes :=
      sealed_of_lays further ⟨tree, found, same ▸ isSealed, by rw [same]⟩
    obtain ⟨other, foundLater, _, nodes⟩ := id closed
    rw [same] at nodes
    exact {
      nodes := closed
      places := places_of_nodes (layouts_sound unlaid laid)
        (layouts_sound unlaid (laid.trans further)) found foundLater nodes
      refuses := by
        rintro declaration other on here
        exact declaration.refused on (here ▸ closed.tree_eq.1) }

end Session

namespace Halfway

/-- A container in the box that would bind an axis twice. -/
def repeating : Declaration :=
  .dense ⟨0, 1⟩ (.tuple 0 [.int 0 1, .axis 0 1]) (.list 0 [.int 0 2, .int 0 4])

/-- A container in the box with an extent that has too many digits to be written. -/
def enormous : Declaration :=
  .dense ⟨0, 1⟩ (.axis 0 1) (.int 0 (10 ^ Text.digitLimit : Nat))

/-- That container is declared, although the call fails, and the next one gets the
number after its. -/
theorem enormous_declared :
    let after := (enormous.perform.run.run session).2
    (session.tree 0).isSealed = false ∧
      (match (enormous.perform.run.run session).1 with
        | .ok () => none
        | .error error => some error) = some (.host (.value .longNumber)) ∧
      ((session.tree 0).node? 4).isNone ∧ ((after.tree 0).node? 4).isSome ∧
      ((Action.declare ⟨0, 1⟩ .pointer (.axis 0 1) (.int 0 2)).run.run session).1.toOption =
        some ⟨0, 4⟩ ∧
      ((Action.declare ⟨0, 1⟩ .pointer (.axis 0 1) (.int 0 2)).run.run after).1.toOption =
        some ⟨0, 5⟩ := by
  decide +kernel

/-- The tree is open halfway, and closed for good when it is sealed. -/
theorem open_until_sealed :
    Session.start.layouts = #[] ∧ Relation.ReflTransGen Session.Lays .start session ∧
      session.Knows ⟨0, 1⟩ ∧ (session.tree 0).isSealed = false ∧ session.Open ⟨0, 1⟩ ∧
      Relation.ReflTransGen Session.Lays .start final ∧ final.Knows ⟨0, 1⟩ ∧
      (final.tree 0).isSealed = true ∧
      ∀ later, Relation.ReflTransGen Session.Lays final later → final.Closed 0 later := by
  have known : session.Knows ⟨0, 1⟩ := by decide +kernel
  have still : final.Knows ⟨0, 1⟩ := by decide +kernel
  have isOpen : (session.tree 0).isSealed = false := by decide +kernel
  have closed : (final.tree 0).isSealed = true := by decide +kernel
  have laid := session_laid.trans final_laid
  exact ⟨rfl, session_laid, known, isOpen,
    (Session.declarations_respect_seal rfl session_laid known).1 isOpen, laid, still, closed,
    (Session.declarations_respect_seal rfl laid still).2 closed⟩

/-- What would bind an axis twice has used up no number. -/
example :
    let after := (repeating.perform.run.run session).2
    (repeating.perform.run.run session).1.isOk = false ∧
      ((Action.declare ⟨0, 1⟩ .pointer (.axis 0 1) (.int 0 2)).run.run after).1.toOption =
        some ⟨0, 4⟩ := by
  decide +kernel

end Halfway

end FieldKernel
