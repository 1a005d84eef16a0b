import FieldKernel.Proofs.Layout.Growth

/-!
# Routes through layout trees

A route leads from the root of a tree down to a node, from each node to one that
is declared directly below it.  There is one route to every declared node, and
what a node looks like is decided by the nodes on it: how deep the node lies,
which axes it has and how far they extend.
-/

namespace FieldKernel

/-- A way from the root of a tree down to a node. -/
inductive Tree.Route (tree : Tree) : List Node → Node → Prop where
  | root {node : Node} : tree.node? 0 = some node → Route tree [node] node
  | child {route : List Node} {above node : Node} :
      Route tree route above → node ∈ tree.children above → Route tree (route ++ [node]) node

namespace Node

/-- The extents that nodes declare for an axis. -/
def declaredExtents (nodes : List Node) (axis : Nat) : List Nat :=
  ((nodes.flatMap (·.level.bounds)).filter (·.1 = axis)).map (·.2)

/-- What a node looks like agrees with the nodes on a route to it. -/
structure Agrees (node : Node) (route : List Node) : Prop where
  depth : route.length = node.depth + 1
  ascending : node.lineage.axes.Pairwise (· < ·)
  axes (axis : Nat) :
    axis ∈ node.lineage.axes ↔ ∃ other ∈ route, axis ∈ other.level.bounds.map Prod.fst
  extent (axis : Nat) : node.lineage.extent axis = (declaredExtents route axis).prod
  positive (axis : Nat) : 0 < node.lineage.extent axis
  shape : node.lineage.shape =
    node.lineage.axes.map fun axis => (declaredExtents route axis).prod

end Node

namespace Tree

/-- How the nodes of a tree are arranged. -/
structure Arranged (tree : Tree) : Prop where
  numbers : (tree.declared.map Node.id).Nodup
  ascending {node child : Node} (member : node ∈ tree.declared)
    (below : child ∈ tree.children node) : node.id < child.id
  routed {node : Node} (member : node ∈ tree.declared) : ∃! route, tree.Route route node
  agrees {node : Node} {route : List Node} (leads : tree.Route route node) : node.Agrees route
  childless {leaf : Node} (member : leaf ∈ tree.declared) (isLeaf : leaf.isLeaf) :
    tree.children leaf = []

namespace Sound

variable {tree : Tree}

theorem mem_declared_iff (sound : tree.Sound) {node : Node} :
    node ∈ tree.declared ↔ tree.node? node.id = some node := by
  rw [mem_declared]
  constructor
  · rintro ⟨number, found⟩
    rwa [sound.numbered found]
  · exact fun found => ⟨node.id, found⟩

/-- The number of a node tells it from all others. -/
theorem eq_of_id (sound : tree.Sound) {one other : Node} (first : one ∈ tree.declared)
    (second : other ∈ tree.declared) (same : one.id = other.id) : one = other := by
  rw [sound.mem_declared_iff] at first second
  rw [same, second] at first
  exact (Option.some.inj first).symm

theorem nodup_ids (sound : tree.Sound) : (tree.declared.map Node.id).Nodup := by
  have ascending : tree.declared.Pairwise fun one other => one.id < other.id := by
    have places : tree.nodes.toList.Pairwise fun first second =>
        ∀ one, first = some one → ∀ other, second = some other → one.id < other.id := by
      refine List.pairwise_iff_getElem.mpr fun before after inside further earlier => ?_
      have numbered {position : Nat} (bound : position < tree.nodes.toList.length) {node : Node}
          (found : tree.nodes.toList[position] = some node) : node.id = position := by
        have listed : tree.node? position = some node := by
          rw [node?, ← Array.getElem?_toList, List.getElem?_eq_getElem bound, found]
          rfl
        exact sound.numbered listed
      intro one foundOne other foundOther
      rw [numbered inside foundOne, numbered further foundOther]
      exact earlier
    exact places.filterMap _ fun _ _ relation one foundOne other foundOther =>
      relation one foundOne other foundOther
  exact List.pairwise_map.mpr (ascending.imp fun smaller => smaller.ne)

theorem root_mem (sound : tree.Sound) : root ∈ tree.declared :=
  mem_declared.mpr ⟨0, sound.rooted⟩

/-- What is declared directly below a node has its lineage above it. -/
theorem of_child (sound : tree.Sound) {above node : Node} (member : above ∈ tree.declared)
    (child : node ∈ tree.children above) :
    node ∈ tree.declared ∧ node.above = above.lineage ∧ above.id < node.id ∧
      above.isLeaf = false := by
  obtain ⟨declared, parent⟩ := List.mem_filter.mp child
  have parent : node.parent? = some above.id := of_decide_eq_true parent
  have other : node ≠ root := by
    rintro rfl
    cases parent
  obtain ⟨upper, upperMember, container, smaller, lineage⟩ := sound.below declared other
  have upperId : node.parent? = some upper.id := by
    simp [Node.parent?, lineage, Node.lineage, Node.id]
  obtain rfl : upper = above :=
    sound.eq_of_id upperMember member (Option.some.inj (upperId.symm.trans parent))
  exact ⟨declared, lineage, smaller, container⟩

theorem mem_of_route (sound : tree.Sound) {route : List Node} {node : Node}
    (leads : tree.Route route node) : node ∈ tree.declared := by
  induction leads with
  | root found => exact mem_declared.mpr ⟨0, found⟩
  | child _ child hypothesis => exact (sound.of_child hypothesis child).1

/-- A lineage consists of the levels on the route. -/
theorem lineage_of_route (sound : tree.Sound) {route : List Node} {node : Node}
    (leads : tree.Route route node) :
    node.lineage = route.map Node.level ∧ ∀ other ∈ route, other ∈ tree.declared := by
  induction leads with
  | root found =>
      have isRoot := sound.rooted
      rw [found] at isRoot
      cases isRoot
      exact ⟨rfl, by simpa using sound.root_mem⟩
  | @child route above node leads child hypothesis =>
      obtain ⟨declared, lineage, _⟩ := sound.of_child (sound.mem_of_route leads) child
      constructor
      · rw [Node.lineage, lineage, hypothesis.1, List.map_append]
        rfl
      · intro other among
        rcases List.mem_append.mp among with earlier | last
        · exact hypothesis.2 other earlier
        · rwa [List.mem_singleton.mp last]

/-- The nodes above a node have smaller numbers, so going up from it ends at the
root. -/
theorem exists_route (sound : tree.Sound) {node : Node} (member : node ∈ tree.declared) :
    ∃ route, tree.Route route node := by
  induction number : node.id using Nat.strong_induction_on generalizing node with
  | _ number hypothesis =>
      by_cases isRoot : node = root
      · exact ⟨[node], .root (isRoot ▸ sound.rooted)⟩
      obtain ⟨above, aboveMember, _, smaller, lineage⟩ := sound.below member isRoot
      obtain ⟨route, leads⟩ := hypothesis above.id (number ▸ smaller) aboveMember rfl
      have child : node ∈ tree.children above := by
        refine List.mem_filter.mpr ⟨member, decide_eq_true ?_⟩
        simp [Node.parent?, lineage, Node.lineage, Node.id]
      exact ⟨route ++ [node], .child leads child⟩

theorem route_unique (sound : tree.Sound) {route other : List Node} {node : Node}
    (leads : tree.Route route node) (again : tree.Route other node) : route = other := by
  have inner {above node : Node} (found : tree.node? 0 = some node)
      (child : node ∈ tree.children above) : False := by
    have isRoot := sound.rooted
    rw [found] at isRoot
    cases isRoot
    exact nomatch of_decide_eq_true (List.mem_filter.mp child).2
  induction leads generalizing other with
  | root found =>
      cases again with
      | root => rfl
      | child _ child => exact (inner found child).elim
  | @child route above node leads child hypothesis =>
      cases again with
      | root found => exact (inner found child).elim
      | @child second upper _ further twin =>
          have first : node.parent? = some above.id :=
            of_decide_eq_true (List.mem_filter.mp child).2
          have second : node.parent? = some upper.id :=
            of_decide_eq_true (List.mem_filter.mp twin).2
          obtain rfl : above = upper :=
            sound.eq_of_id (sound.mem_of_route leads) (sound.mem_of_route further)
              (Option.some.inj (first.symm.trans second))
          rw [hypothesis further]

theorem agrees (sound : tree.Sound) {route : List Node} {node : Node}
    (leads : tree.Route route node) : node.Agrees route := by
  obtain ⟨lineage, members⟩ := sound.lineage_of_route leads
  have extent (axis : Nat) :
      node.lineage.extent axis = (Node.declaredExtents route axis).prod := by
    rw [Lineage.extent, Lineage.product_eq_prod, lineage, Lineage.bounds, List.flatMap_map,
      Node.declaredExtents]
  constructor
  case depth =>
      rw [← List.length_map (f := Node.level), ← lineage, Node.lineage, List.length_append]
      rfl
  case ascending => exact node.lineage.axes_ascending
  case axes =>
      intro axis
      rw [Lineage.mem_axes, lineage]
      simp only [List.mem_map, exists_exists_and_eq_and]
  case extent => exact extent
  case positive =>
      intro axis
      rw [extent]
      refine List.prod_pos fun value member => ?_
      simp only [Node.declaredExtents, List.mem_map, List.mem_filter, List.mem_flatMap] at member
      obtain ⟨bound, ⟨⟨other, among, bounds⟩, _⟩, rfl⟩ := member
      exact sound.positive (members other among) bounds
  case shape => exact List.map_congr_left fun axis _ => extent axis

theorem arranged (sound : tree.Sound) : tree.Arranged where
  numbers := sound.nodup_ids
  ascending member below := (sound.of_child member below).2.2.1
  routed member := by
    obtain ⟨route, leads⟩ := sound.exists_route member
    exact ⟨route, leads, fun other again => sound.route_unique again leads⟩
  agrees := sound.agrees
  childless {leaf} member isLeaf := by
    refine List.eq_nil_iff_forall_not_mem.mpr fun node child => ?_
    have container := (sound.of_child member child).2.2.2
    rw [isLeaf] at container
    cases container

end Sound

end Tree

/-- How all trees are arranged, and where fields are placed in them. -/
structure Layouts.Arranged (layouts : Layouts) : Prop where
  trees {id : Nat} {tree : Tree} (found : layouts[id]? = some tree) : tree.Arranged
  /-- A leaf holds a field that is placed there, of the same type. -/
  leaves {id : Nat} {tree : Tree} {leaf : Node} (found : layouts[id]? = some tree)
    (member : leaf ∈ tree.declared) (isLeaf : leaf.isLeaf) :
    ∃ field, leaf.field? = some field ∧ layouts.leafOf? field = some (id, leaf) ∧
      leaf.type = field.type
  /-- A field is placed where a leaf holds it. -/
  placed {field : Field} {id : Nat} {leaf : Node} :
    layouts.leafOf? field = some (id, leaf) ↔
      ∃ tree, layouts[id]? = some tree ∧ leaf ∈ tree.declared ∧ leaf.Holds field.key

theorem Layouts.Sound.arranged {layouts : Layouts} (sound : layouts.Sound) :
    layouts.Arranged where
  trees found := (sound.trees found).arranged
  leaves {id tree leaf} found member isLeaf := by
    obtain ⟨field, held⟩ := Option.isSome_iff_exists.mp isLeaf
    have held : leaf.field? = some field := held
    refine ⟨field, held, sound.leafOf?_eq_some_iff.mpr ⟨tree, found, member, field, held, rfl⟩, ?_⟩
    rw [Node.type, held]
  placed := sound.leafOf?_eq_some_iff

end FieldKernel
