import FieldKernel.Proofs.Layout.Routes
import FieldKernel.Proofs.Session.Actions
import FieldKernel.Proofs.Session.Scripts

/-!
# Declarations in a session

Layouts change only by what host code declares, seals and ends.  A declaration
that fails has added a node or used up a number as far as it got, or it has done
nothing; either way the trees have grown and are arranged as they should be.
-/

namespace FieldKernel

/-- What changes layouts: new trees, calls on their nodes, and the end of the
program that a tree belongs to. -/
inductive Declaration where
  | newProgram (config? : Option CompileConfig)
  | newTree (program? : Option Nat)
  | dense (above : NodeRef) (axes extents : HostValue)
  | pointer (above : NodeRef) (axes extents : HostValue)
  | place (above : NodeRef) (fields : List HostValue)
  | sealTree (node : NodeRef)
  | sealLayout (node : NodeRef)
  | teardown (program : Nat)

namespace Declaration

/-- What a declaration does. -/
def perform : Declaration → Action Unit
  | newProgram config? => do
    let _ ← Action.newProgram config?
  | newTree program? => do
    let _ ← Action.addTree program?
  | dense above axes extents => do
    let _ ← Action.declare above .dense axes extents
  | pointer above axes extents => do
    let _ ← Action.declare above .pointer axes extents
  | place above fields => Action.place above fields
  | sealTree node => Action.sealTree node
  | sealLayout node => Action.sealLayout node
  | teardown program => Action.teardown program

/-- The node that a declaration is called on. -/
def node? : Declaration → Option NodeRef
  | dense above _ _ => some above
  | pointer above _ _ => some above
  | place above _ => some above
  | sealTree node => some node
  | sealLayout node => some node
  | _ => none

end Declaration

namespace Session

/-- There is a node in a tree. -/
def Knows (session : Session) (ref : NodeRef) : Prop :=
  ((session.layouts[ref.tree]?).bind fun tree => tree.node? ref.node).isSome

instance (session : Session) (ref : NodeRef) : Decidable (session.Knows ref) :=
  inferInstanceAs (Decidable (_ = true))

/-- One step of a session: a declaration, which may fail, on a node that there is,
or anything that leaves the layouts alone. -/
inductive Lays (session : Session) : Session → Prop where
  | declares (declaration : Declaration) :
      (∀ ref, declaration.node? = some ref → session.Knows ref) →
      Lays session (declaration.perform.run.run session).2
  | aside {other : Session} : other.layouts = session.layouts → Lays session other

theorem Knows.exists_node {session : Session} {ref : NodeRef} (knows : session.Knows ref) :
    ∃ tree, session.layouts[ref.tree]? = some tree ∧ session.tree ref.tree = tree ∧
      tree.node? ref.node = some (session.node ref) := by
  obtain ⟨node, known⟩ := Option.isSome_iff_exists.mp knows
  obtain ⟨tree, found, held⟩ := Option.bind_eq_some_iff.mp known
  have same : session.tree ref.tree = tree := by
    rw [Objects.tree, found]
    rfl
  refine ⟨tree, found, same, ?_⟩
  rw [Objects.node, same, held]
  rfl

end Session

namespace Ask

variable {objects : Objects}

/-- As many extents are given as there are values, and all are positive. -/
theorem extents_given {values : List HostValue} {extents : List Nat}
    (given : values.mapM extentOf? = some extents) :
    extents.length = values.length ∧ ∀ extent ∈ extents, 0 < extent := by
  induction values generalizing extents with
  | nil =>
      cases given
      simp
  | cons first rest hypothesis =>
      rw [List.mapM_cons] at given
      obtain ⟨extent, head, tail⟩ := Option.bind_eq_some_iff.mp given
      obtain ⟨others, more, same⟩ := Option.bind_eq_some_iff.mp tail
      cases same
      have positive : 0 < extent := by
        simp only [extentOf?] at head
        split at head
        · split at head
          · cases head
            omega
          · cases head
        · cases head
      obtain ⟨length, rest⟩ := hypothesis more
      exact ⟨by simpa using length, by simpa using ⟨positive, rest⟩⟩

/-- A container binds axes that differ, with positive extents. -/
theorem bounds_ok {container : String} {axes extents : HostValue} {result : List (Nat × Nat)}
    (bound : bounds container axes extents objects = .ok result) :
    (result.map Prod.fst).Nodup ∧ ∀ entry ∈ result, 0 < entry.2 := by
  simp only [bounds, bind, ReaderT.bind, Except.bind] at bound
  split at bound
  · cases bound
  next numbers answered =>
  split at bound
  · cases bound
  next lengths =>
  split at bound
  · obtain ⟨_, _, thrown⟩ := bind_eq_ok.mp bound
    cases thrown
  next distinct =>
  cases given : (rowOf extents).mapM extentOf? with
  | none =>
      simp only [given, ReaderT.bind, bind, Except.bind] at bound
      split at bound
      · cases bound
      · cases bound
  | some extents =>
      simp only [given] at bound
      cases bound
      obtain ⟨length, positive⟩ := extents_given given
      constructor
      · rw [List.map_fst_zip (by omega)]
        exact not_not.mp distinct
      · exact fun entry member => positive entry.2 (List.of_mem_zip member).2

theorem declare_ok {tree : Tree} {above : Node} {kind : LevelKind} {axes extents : HostValue}
    {result : Tree × Node} (declared : declare tree above kind axes extents objects = .ok result) :
    above.isLeaf = false ∧ ∃ bounds, (bounds.map Prod.fst).Nodup ∧
      (∀ entry ∈ bounds, 0 < entry.2) ∧ result = tree.add above kind bounds := by
  simp only [declare, bind, ReaderT.bind, Except.bind, Ask.ofExcept] at declared
  split at declared
  · cases declared
  next isOpen =>
  split at declared
  · cases declared
  next bounds given =>
  cases declared
  obtain ⟨distinct, positive⟩ := bounds_ok given
  exact ⟨Tree.checkOpen_ok isOpen, bounds, distinct, positive, rfl⟩

end Ask

namespace Layouts

/-- A tree is replaced by one with the same nodes. If there is no tree of that
number, nothing happens. -/
theorem grown_modify (layouts : Layouts) (id : Nat) {other : Tree}
    (same : other.nodes = (layouts[id]?.getD (.new none)).nodes) :
    Relation.ReflTransGen Grows layouts (layouts.modify id fun _ => other) := by
  cases found : layouts[id]? with
  | some tree => exact .single (.alter found (by rw [same, found]; rfl))
  | none =>
      have unchanged : (layouts.modify id fun _ => other) = layouts := by
        refine Array.ext_getElem? fun number => ?_
        rw [Array.getElem?_modify]
        split
        · next here => rw [← here, found]; rfl
        · rfl
      rw [unchanged]

end Layouts

namespace Action

variable {first : Layouts} {above : NodeRef}

/-- The layouts have grown from others. -/
def Grown (first : Layouts) (session : Session) : Prop :=
  Relation.ReflTransGen Layouts.Grows first session.layouts

theorem Grown.step {session other : Session} (grown : Grown first session)
    (grows : session.layouts.Grows other.layouts) : Grown first other :=
  grown.tail grows

/-- The layouts have grown from others, and a container is known. -/
structure Below (first : Layouts) (above : NodeRef) (session : Session) : Prop where
  grown : Grown first session
  knows : session.Knows above
  container : (session.node above).isLeaf = false

/-- A container stays known when the trees grow. -/
theorem Below.step {session other : Session} (below : Below first above session)
    (grows : session.layouts.Grows other.layouts) : Below first above other := by
  obtain ⟨tree, found, same, known⟩ := below.knows.exists_node
  obtain ⟨later, foundLater, keeps⟩ := grows.keeps found
  have kept := keeps _ _ known
  have knows : other.Knows above := by
    rw [Session.Knows, foundLater, Option.bind_some, kept]
    rfl
  obtain ⟨tree, foundTree, _, still⟩ := knows.exists_node
  rw [foundLater] at foundTree
  cases foundTree
  rw [kept] at still
  refine ⟨below.grown.step grows, knows, ?_⟩
  rw [← Option.some.inj still]
  exact below.container

theorem report_grows (record : LogRecord) : Keeps (Grown first) (report record) :=
  Ensures.modify fun _ grown => grown

/-- Declaring a container adds a node, or does nothing. -/
theorem declare_grows {kind : LevelKind} (isContainer : kind = .dense ∨ kind = .pointer)
    (axes extents : HostValue) :
    Ensures (fun session => Grown first session ∧ session.Knows above)
      (declare above kind axes extents) (fun _ => Grown first) (fun _ => Grown first) := by
  refine .get fun session ⟨grown, knows⟩ => ?_
  obtain ⟨tree, found, same, known⟩ := knows.exists_node
  have asks : Ensures (· = session)
      (liftM (Ask.declare (session.tree above.tree) (session.node above) kind axes extents) :
        Action (Tree × Node))
      (fun result state => state = session ∧
        Ask.declare (session.tree above.tree) (session.node above) kind axes extents
          session.toObjects = .ok result)
      (fun _ => Grown first) := by
    refine ensures_ask ?_ ?_
    · rintro result _ answered rfl
      exact ⟨rfl, answered⟩
    · rintro error _ refused rfl
      exact grown
  refine asks.bind fun (other, node) => ?_
  have sets : Ensures (fun state => state = session ∧
        Ask.declare (session.tree above.tree) (session.node above) kind axes extents
          session.toObjects = .ok (other, node))
      (setTree above.tree other) (fun _ => Grown first) (fun _ => Grown first) := by
    refine .modify ?_
    rintro session ⟨rfl, answered⟩
    obtain ⟨container, bounds, distinct, positive, added⟩ := Ask.declare_ok answered
    obtain rfl : other = ((session.tree above.tree).add (session.node above) kind bounds).1 :=
      congrArg Prod.fst added
    refine grown.step ?_
    rw [same]
    exact .node found (Tree.mem_declared.mpr ⟨_, known⟩) container
      (.container isContainer distinct positive)
  exact sets.bind fun _ => (Keeps.ask _).bind fun _ => (report_grows _).bind fun _ => .pure _

/-- Placing a field adds a leaf or uses up a number. -/
theorem placeField_grows (field : HostValue) :
    Ensures (Below first above) (placeField above field) (fun _ => Below first above)
      (fun _ => Grown first) := by
  rw [placeField]
  cases field.field? with
  | none =>
      have asks : Ensures (Below first above) (liftM (Ask.listing field) : Action String)
          (fun _ => Grown first) (fun _ => Grown first) :=
        ensures_ask (fun _ _ _ below => below.grown) fun _ _ _ below => below.grown
      exact asks.bind fun _ => .throw fun _ grown => grown
  | some field =>
      refine .get fun session below => ?_
      obtain ⟨tree, found, same, known⟩ := below.knows.exists_node
      dsimp only
      rw [same]
      cases placed : session.layouts.leafOf? field with
      | some pair =>
          have skips : Ensures (· = session) (setTree above.tree tree.skip)
              (fun _ => Grown first) (fun _ => Grown first) := by
            refine .modify ?_
            rintro _ rfl
            exact below.grown.step (.skip found)
          exact skips.bind fun _ => .throw fun _ grown => grown
      | none =>
          have adds : Ensures (· = session)
              (setTree above.tree (tree.add (session.node above) (.place field) []).1)
              (fun _ => Below first above) (fun _ => Grown first) := by
            refine .modify ?_
            rintro _ rfl
            exact below.step (.node found (Tree.mem_declared.mpr ⟨_, known⟩) below.container
              (.place placed))
          have asks : Ensures (Below first above)
              (liftM (Ask.ofHost (tree.add (session.node above) (.place field) []).2.path) :
                Action String)
              (fun _ => Below first above) (fun _ => Grown first) :=
            ensures_ask (fun _ _ _ below => below) fun _ _ _ below => below.grown
          exact adds.bind fun _ => asks.bind fun _ => .modify fun _ below =>
            ⟨below.grown, below.knows, below.container⟩

/-- Fields are placed one after the other until one is refused. -/
theorem place_grows (fields : List HostValue) :
    Ensures (fun session => Grown first session ∧ session.Knows above) (place above fields)
      (fun _ => Grown first) (fun _ => Grown first) := by
  refine .get fun session ⟨grown, knows⟩ => ?_
  have checks : Ensures (· = session)
      (ofExcept ((session.tree above.tree).checkOpen (session.node above) "place"))
      (fun _ => Below first above) (fun _ => Grown first) := by
    refine ensures_ofExcept ?_ ?_
    · rintro _ _ isOpen rfl
      exact ⟨grown, knows, Tree.checkOpen_ok isOpen⟩
    · rintro _ _ _ rfl
      exact grown
  have loop : Ensures (Below first above) (fields.forM (placeField above))
      (fun _ => Grown first) (fun _ => Grown first) :=
    (Ensures.forM fields fun field _ => placeField_grows field).weaken (fun _ => id)
      fun _ _ below => below.grown
  refine checks.bind fun _ => ?_
  cases fields with
  | nil => exact .throw fun _ below => below.grown
  | cons field rest => exact loop

theorem setSealed_grows {session : Session} (grown : Grown first session) (id : Nat) {tree : Tree}
    (same : tree.nodes = (session.tree id).nodes) :
    Ensures (· = session) (setSealed id tree) (fun _ => Grown first) (fun _ => Grown first) := by
  have sets : Ensures (· = session) (setTree id tree) (fun _ => Grown first)
      (fun _ => Grown first) := by
    refine .modify ?_
    rintro _ rfl
    exact grown.trans (Layouts.grown_modify _ id same)
  refine sets.bind fun _ => ?_
  split
  · exact report_grows _
  · exact Keeps.pure _

/-- Sealing a tree keeps its nodes. -/
theorem sealing_grows {session : Session} (grown : Grown first session) (id : Nat)
    {outcome : Except Error Tree}
    (same : ∀ tree, outcome = .ok tree → tree.nodes = (session.tree id).nodes) :
    Ensures (· = session) (ofExcept outcome >>= setSealed id) (fun _ => Grown first)
      (fun _ => Grown first) := by
  cases outcome with
  | error error => exact fun state here => here ▸ grown
  | ok tree => exact setSealed_grows grown id (same tree rfl)

theorem sealTree_grows (ref : NodeRef) : Keeps (Grown first) (sealTree ref) :=
  Ensures.get fun _ grown => sealing_grows grown ref.tree fun _ => Tree.nodes_of_sealed

theorem sealLayout_grows (ref : NodeRef) : Keeps (Grown first) (sealLayout ref) := by
  refine Ensures.get fun session grown => sealing_grows grown ref.tree fun tree seals => ?_
  simp only [Tree.sealedAt] at seals
  split at seals
  · exact Tree.nodes_of_sealed seals
  · cases seals

/-- Recording leaves the layouts alone. -/
theorem record_grows {α : Type} (builder : Nat) (attempt : Record α) :
    Keeps (Grown first) (record builder attempt) := by
  intro session grown
  rw [HostT.run_record]
  rcases attempt.run.run (session.recorder (session.builder builder)) with
    ⟨error | result, recorder⟩
  · exact grown
  · exact grown

/-- A program that ends gives its tree away. -/
theorem teardown_grows (program : Nat) : Keeps (Grown first) (teardown program) := by
  refine Keeps.get fun session => ?_
  dsimp only
  split
  · have gives (state : Session) (grown : Grown first state) (id : Nat) :
        Ensures (· = state) (setTree id { state.tree id with program? := none })
          (fun _ => Grown first) (fun _ => Grown first) := by
      refine .modify ?_
      rintro _ rfl
      exact grown.trans (Layouts.grown_modify _ _ rfl)
    have removes : Keeps (Grown first) (remove program) :=
      Ensures.modify fun _ grown => grown
    have ends : Keeps (Grown first) (modifyProgram program fun entry =>
        { entry with alive := false, kernels := [], storage? := none }) :=
      Ensures.modify fun _ grown => grown
    exact (record_grows _ _).bind fun _ => ends.bind fun _ => Ensures.get fun state grown =>
      (gives state grown _).bind fun _ => removes.bind fun _ => report_grows _
  · exact .pure _

end Action

namespace Declaration

variable {first : Layouts}

/-- Whatever a declaration comes to, the trees have grown. -/
theorem perform_grows (declaration : Declaration) :
    Ensures (fun session => Action.Grown first session ∧
        ∀ ref, declaration.node? = some ref → session.Knows ref)
      declaration.perform (fun _ => Action.Grown first) (fun _ => Action.Grown first) := by
  cases declaration with
  | newProgram config? => exact fun session ⟨grown, _⟩ => grown.tail (.new _)
  | newTree program? => exact fun session ⟨grown, _⟩ => grown.tail (.new _)
  | dense above axes extents =>
      refine .bind ((Action.declare_grows (.inl rfl) axes extents).weaken ?_ fun _ _ => id)
        fun _ => .pure fun _ => id
      exact fun session ⟨grown, knows⟩ => ⟨grown, knows above rfl⟩
  | pointer above axes extents =>
      refine .bind ((Action.declare_grows (.inr rfl) axes extents).weaken ?_ fun _ _ => id)
        fun _ => .pure fun _ => id
      exact fun session ⟨grown, knows⟩ => ⟨grown, knows above rfl⟩
  | place above fields =>
      refine (Action.place_grows fields).weaken ?_ fun _ _ => id
      exact fun session ⟨grown, knows⟩ => ⟨grown, knows above rfl⟩
  | sealTree node =>
      exact (Action.sealTree_grows node).weaken (fun _ => And.left) fun _ _ => id
  | sealLayout node =>
      exact (Action.sealLayout_grows node).weaken (fun _ => And.left) fun _ _ => id
  | teardown program =>
      exact (Action.teardown_grows program).weaken (fun _ => And.left) fun _ _ => id

end Declaration

namespace Session

theorem Lays.grown {session later : Session} (lays : session.Lays later) :
    Relation.ReflTransGen Layouts.Grows session.layouts later.layouts := by
  cases lays with
  | aside same => rw [same]
  | declares declaration knows =>
      have grown := declaration.perform_grows session ⟨.refl, knows⟩
      revert grown
      rcases declaration.perform.run.run session with ⟨error | result, final⟩
      · exact id
      · exact id

theorem grown_of_lays {session later : Session}
    (laid : Relation.ReflTransGen Lays session later) :
    Relation.ReflTransGen Layouts.Grows session.layouts later.layouts := by
  induction laid with
  | refl => exact .refl
  | tail _ lays hypothesis => exact hypothesis.trans lays.grown

/-- What has been declared from nothing is sound. -/
theorem layouts_sound {fresh session : Session} (unlaid : fresh.layouts = #[])
    (laid : Relation.ReflTransGen Lays fresh session) : session.layouts.Sound := by
  have grown := grown_of_lays laid
  rw [unlaid] at grown
  exact Layouts.sound_empty.grown grown

/-- However layouts are declared from nothing, their nodes and fields are arranged
as they should be, and whatever is declared further, nodes stay what they are and
fields where they are. -/
theorem layouts_arranged {fresh session later : Session} (unlaid : fresh.layouts = #[])
    (laid : Relation.ReflTransGen Lays fresh session)
    (further : Relation.ReflTransGen Lays session later) :
    session.layouts.Arranged ∧ session.layouts.Kept later.layouts := by
  have sound : Layouts.Sound session.layouts := by
    refine Layouts.Sound.grown ?_ (grown_of_lays laid)
    rw [unlaid]
    exact Layouts.sound_empty
  exact ⟨sound.arranged, sound.kept (grown_of_lays further)⟩

end Session

namespace Halfway

/-- A field. -/
def field : Field :=
  ⟨0, ⟨0, some "a"⟩, .i32⟩

/-- A tree with a box of four elements. -/
def box : Session :=
  let tree := ((Declaration.newTree none).perform.run.run .start).2
  ((Declaration.dense ⟨0, 0⟩ (.int 0 0) (.int 1 4)).perform.run.run tree).2

/-- The field is to be placed in the box, once more, and never gets there again. -/
def placing : Declaration :=
  .place ⟨0, 1⟩ [.expr (.field field), .expr (.field field)]

/-- The session in which the field is placed once. -/
def session : Session :=
  (placing.perform.run.run box).2

/-- The session in which the tree is sealed. -/
def final : Session :=
  ((Declaration.sealTree ⟨0, 1⟩).perform.run.run session).2

theorem session_laid : Relation.ReflTransGen Session.Lays .start session := by
  refine .tail (.tail (.single (.declares (.newTree none) ?_)) (.declares (.dense ⟨0, 0⟩ _ _) ?_))
    (.declares placing ?_)
  · exact nofun
  all_goals
    rintro ref ⟨⟩
    decide +kernel

theorem final_laid : Relation.ReflTransGen Session.Lays session final := by
  refine .single (.declares (.sealTree ⟨0, 1⟩) ?_)
  rintro ref ⟨⟩
  decide +kernel

/-- The leaf of the first time is there, and it stays there. -/
theorem placed_halfway :
    (placing.perform.run.run box).1.isOk = false ∧
      (session.layouts.leafOf? field).map (·.2.id) = some 2 ∧
      Session.start.layouts = #[] ∧ Relation.ReflTransGen Session.Lays .start session ∧
      Relation.ReflTransGen Session.Lays session final ∧
      session.layouts.Arranged ∧ session.layouts.Kept final.layouts :=
  ⟨by decide +kernel, by decide +kernel, rfl, session_laid, final_laid,
    Session.layouts_arranged rfl session_laid final_laid⟩

end Halfway

end FieldKernel
