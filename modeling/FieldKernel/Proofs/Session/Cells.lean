import FieldKernel.Proofs.Layout.Cells
import FieldKernel.Proofs.Session.Declaring

/-!
# Divisors in a session

Host code asks for the divisors of a leaf and a container above it.  In whatever
way the tree has been declared, the answer leads from the elements of the leaf
exactly onto the cells of the container, and going up by way of another container
ends in the same cell.
-/

namespace FieldKernel

namespace Tree

/-- A route goes through the nodes above its end by routes of their own. -/
theorem Route.above {tree : Tree} {route : List Node} {node other : Node}
    (leads : tree.Route route node) (member : other ∈ route) :
    ∃ above, tree.Route above other ∧ above <+: route := by
  induction leads with
  | @root node found =>
      rw [List.mem_singleton.mp member]
      exact ⟨[node], .root found, List.prefix_rfl⟩
  | @child route above node leads child hypothesis =>
      rcases List.mem_append.mp member with earlier | last
      · obtain ⟨upper, further, within⟩ := hypothesis earlier
        exact ⟨upper, further, within.trans (List.prefix_append _ _)⟩
      · rw [List.mem_singleton.mp last]
        exact ⟨_, leads.child child, List.prefix_rfl⟩

theorem Sound.within_of_mem {tree : Tree} (sound : tree.Sound) {route : List Node}
    {node other : Node} (leads : tree.Route route node) (member : other ∈ route) :
    other.lineage <+: node.lineage := by
  obtain ⟨above, further, within⟩ := leads.above member
  rw [(sound.lineage_of_route leads).1, (sound.lineage_of_route further).1]
  exact within.map Node.level

end Tree

namespace Session

/-- Host code that asks for the divisors of a node and one above it gets these. -/
def Divides (session : Session) (id : Nat) (node above : Node) (divisors : List Nat) : Prop :=
  (Action.divisors ⟨id, node.id⟩ (.node ⟨id, above.id⟩)).run.run session = (.ok divisors, session)

theorem divides_of_within {session : Session} {id : Nat} {tree : Tree}
    (found : session.layouts[id]? = some tree) (sound : tree.Sound) {node above : Node}
    (member : node ∈ tree.declared) (aboveMember : above ∈ tree.declared)
    (within : above.lineage <+: node.lineage) :
    session.Divides id node above (node.lineage.divisors above.lineage) := by
  have known {other : Node} (declared : other ∈ tree.declared) :
      session.node ⟨id, other.id⟩ = other := by
    rw [Objects.node, Objects.tree, found]
    exact congrArg (Option.getD · _) (sound.mem_declared_iff.mp declared)
  have under : node.isUnder above := List.isPrefixOf_iff_prefix.mpr (within.map Level.id)
  rw [Divides, Action.divisors, run_run_get_bind]
  dsimp only
  rw [known member, known aboveMember, if_pos ⟨rfl, under⟩]
  rfl

/-- What has been declared from nothing is sound. -/
theorem sound_of_lays {fresh session : Session} (unlaid : fresh.layouts = #[])
    (laid : Relation.ReflTransGen Lays fresh session) {id : Nat} {tree : Tree}
    (found : session.layouts[id]? = some tree) : tree.Sound :=
  (layouts_sound unlaid laid).trees found

/-- The divisors of a leaf and a container above it lead from the elements of the
leaf exactly onto the cells of the container.  The cell of a container further
up is the same, whether it is found at once or from that cell. -/
theorem divisors_tile {fresh session : Session} (unlaid : fresh.layouts = #[])
    (laid : Relation.ReflTransGen Lays fresh session) {id : Nat} {tree : Tree}
    (found : session.layouts[id]? = some tree) {route above : List Node} {leaf container : Node}
    (down : tree.Route route leaf) (under : container ∈ route)
    (up : tree.Route above container) :
    ∃ divisors, session.Divides id leaf container divisors ∧
      leaf.lineage.Tiles container.lineage divisors ∧
      ∀ outer ∈ above, ∃ further whole, session.Divides id container outer further ∧
        session.Divides id leaf outer whole ∧
        ∀ index ∈ Lineage.indices leaf.lineage.shape,
          container.lineage.dividedBy outer.lineage further
              (leaf.lineage.dividedBy container.lineage divisors index) =
            leaf.lineage.dividedBy outer.lineage whole index := by
  have sound := sound_of_lays unlaid laid found
  have inner : leaf ∈ tree.declared := sound.mem_of_route down
  have middle : container ∈ tree.declared := sound.mem_of_route up
  have within := sound.within_of_mem down under
  refine ⟨_, divides_of_within found sound inner middle within,
    Lineage.tiles within (sound.agrees down).positive, fun outer upper => ?_⟩
  have outermost : outer ∈ tree.declared := (sound.lineage_of_route up).2 outer upper
  have further := sound.within_of_mem up upper
  refine ⟨_, _, divides_of_within found sound middle outermost further,
    divides_of_within found sound inner outermost (further.trans within), fun index _ => ?_⟩
  simp only [Lineage.dividedBy_divisors]
  exact Lineage.cell_cell further within index

end Session

namespace Interleaved

/-- A tree of three containers that bind two axes in turn, with a field at the
bottom. -/
def declarations : List Declaration :=
  [.newTree none,
    .dense ⟨0, 0⟩ (.tuple 0 [.int 1 1, .int 2 0]) (.tuple 3 [.int 4 4, .int 5 2]),
    .pointer ⟨0, 1⟩ (.int 6 1) (.int 7 3),
    .dense ⟨0, 2⟩ (.int 8 0) (.int 9 5),
    .place ⟨0, 3⟩ [.expr (.field ⟨0, ⟨0, some "a"⟩, .i32⟩)]]

def session : Session :=
  declarations.foldl (fun session declaration => (declaration.perform.run.run session).2) .start

/-- The nodes from the root down to the field. -/
def nodes : List Node :=
  (List.range 5).map fun number => session.node ⟨0, number⟩

theorem session_laid : Relation.ReflTransGen Session.Lays .start session := by
  have lays (before : Session) (declaration : Declaration)
      (knows : ∀ ref, declaration.node? = some ref → before.Knows ref) :
      before.Lays (declaration.perform.run.run before).2 :=
    .declares declaration knows
  refine .tail (.tail (.tail (.tail (.single (lays _ _ ?_)) (lays _ _ ?_)) (lays _ _ ?_))
    (lays _ _ ?_)) (lays _ _ ?_)
  · exact nofun
  all_goals
    rintro ref ⟨⟩
    decide +kernel

def tree : Tree :=
  session.tree 0

def leaf : Node :=
  session.node ⟨0, 4⟩

/-- The pointer, whose cells extend along both axes. -/
def pointer : Node :=
  session.node ⟨0, 2⟩

theorem found : session.layouts[0]? = some tree :=
  rfl

theorem route_pointer : tree.Route (nodes.take 3) pointer := by
  have first : tree.node? 0 = some (session.node ⟨0, 0⟩) := by decide +kernel
  have second : session.node ⟨0, 1⟩ ∈ tree.children (session.node ⟨0, 0⟩) := by decide +kernel
  have third : session.node ⟨0, 2⟩ ∈ tree.children (session.node ⟨0, 1⟩) := by decide +kernel
  exact ((Tree.Route.root first).child second).child third

theorem route_leaf : tree.Route nodes leaf := by
  have fourth : session.node ⟨0, 3⟩ ∈ tree.children pointer := by decide +kernel
  have last : leaf ∈ tree.children (session.node ⟨0, 3⟩) := by decide +kernel
  exact (route_pointer.child fourth).child last

/-- The axes are in ascending order, not in the order they are bound in. -/
theorem axes_pointer : pointer.lineage.axes = [0, 1] := by
  have bounds : pointer.lineage.bounds = [(1, 4), (0, 2), (1, 3)] := by decide +kernel
  rw [Lineage.axes, bounds]
  simp [List.eraseDups_cons, List.mergeSort]

/-- The field has ten times twelve elements, and five of them lie in each of the
twice twelve cells of the pointer. -/
theorem cells_interleaved :
    leaf.lineage.divisors pointer.lineage = [5, 1] ∧ Session.start.layouts = #[] ∧
      Relation.ReflTransGen Session.Lays .start session ∧ session.layouts[0]? = some tree ∧
      tree.Route nodes leaf ∧ pointer ∈ nodes ∧ tree.Route (nodes.take 3) pointer ∧
      ∃ divisors, session.Divides 0 leaf pointer divisors ∧
        leaf.lineage.Tiles pointer.lineage divisors ∧
        ∀ outer ∈ nodes.take 3, ∃ further whole, session.Divides 0 pointer outer further ∧
          session.Divides 0 leaf outer whole ∧
          ∀ index ∈ Lineage.indices leaf.lineage.shape,
            pointer.lineage.dividedBy outer.lineage further
                (leaf.lineage.dividedBy pointer.lineage divisors index) =
              leaf.lineage.dividedBy outer.lineage whole index := by
  have divisors : leaf.lineage.divisors pointer.lineage = [5, 1] := by
    rw [Lineage.divisors, axes_pointer]
    decide +kernel
  have under : pointer ∈ nodes := by decide +kernel
  exact ⟨divisors, rfl, session_laid, found, route_leaf, under, route_pointer,
    Session.divisors_tile rfl session_laid found route_leaf under route_pointer⟩

end Interleaved

end FieldKernel
