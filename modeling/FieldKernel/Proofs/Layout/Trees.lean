import Mathlib
import FieldKernel.Layout.Tree
import FieldKernel.Proofs.Layout.Lineages

/-!
# Declared layout trees

Host code declares a tree node by node below its root.  However it does so,
the number of a node tells it from all others, and the lineage of a node is
made of the nodes above it.
-/

namespace FieldKernel

namespace Tree

/-- The root, which every tree starts with. -/
def root : Node :=
  ⟨[], ⟨0, .root, []⟩⟩

/-- The trees that can be declared. -/
inductive Declared : Tree → Prop where
  | new (program? : Option Nat) : Declared (.new program?)
  | container {tree : Tree} {above : Node} {kind : LevelKind} {bounds : List (Nat × Nat)}
      (declared : Declared tree) (member : above ∈ tree.declared)
      (isOpen : tree.checkOpen above "declare" = .ok ()) (container : kind.isPlace = false) :
      Declared (tree.add above kind bounds).1
  | place {tree : Tree} {above : Node} {field : Field}
      (declared : Declared tree) (member : above ∈ tree.declared)
      (isOpen : tree.checkOpen above "place" = .ok ()) (typed : field.type ≠ .unknown) :
      Declared (tree.add above (.place field) []).1
  | skip {tree : Tree} (declared : Declared tree) : Declared tree.skip
  | sealed {tree final : Tree} (declared : Declared tree) (seals : tree.sealed = .ok final) :
      Declared final
  | ownedBy {tree : Tree} (declared : Declared tree) (program? : Option Nat) :
      Declared { tree with program? := program? }

/-- What holds of the nodes of every declared tree. -/
structure Proper (tree : Tree) : Prop where
  numbered : (tree.declared.map Node.id).Nodup
  bounded {node : Node} (member : node ∈ tree.declared) : node.id < tree.nodes.size
  rooted {node : Node} (member : node ∈ tree.declared) : root.lineage <+: node.lineage
  /-- What lies above a node is declared as well. -/
  closed {node : Node} (member : node ∈ tree.declared) {above : Lineage}
    (within : above <+: node.lineage) (nonempty : above ≠ []) :
    ∃ other ∈ tree.declared, other.lineage = above
  typed {node : Node} (member : node ∈ tree.declared) {field : Field}
    (places : node.level.kind = .place field) : field.type ≠ .unknown

theorem declared_new (program? : Option Nat) : (new program?).declared = [root] :=
  rfl

theorem declared_add (tree : Tree) (above : Node) (kind : LevelKind)
    (bounds : List (Nat × Nat)) :
    (tree.add above kind bounds).1.declared =
      tree.declared ++ [⟨above.lineage, ⟨tree.nodes.size, kind, bounds⟩⟩] := by
  simp [declared, add]

theorem declared_skip (tree : Tree) : tree.skip.declared = tree.declared := by
  simp [declared, skip]

theorem proper_new (program? : Option Nat) : (new program?).Proper := by
  constructor
  · simp [declared_new]
  all_goals
    intro node member
    rw [declared_new, List.mem_singleton] at member
    subst member
  · simp [new, root, Node.id]
  · exact List.prefix_rfl
  · intro above within nonempty
    refine ⟨root, by simp [declared_new], (within.eq_of_length ?_).symm⟩
    have positive := List.length_pos_iff.mpr nonempty
    have short := within.length_le
    simp only [root, Node.lineage, List.nil_append, List.length_singleton] at short ⊢
    omega
  · rintro field places
    cases places

/-- A tree stays proper when a node is added below one of its nodes. -/
theorem Proper.add {tree : Tree} (proper : tree.Proper) {above : Node}
    (member : above ∈ tree.declared) {kind : LevelKind} {bounds : List (Nat × Nat)}
    (typed : ∀ field, kind = .place field → field.type ≠ .unknown) :
    (tree.add above kind bounds).1.Proper := by
  have size : (tree.add above kind bounds).1.nodes.size = tree.nodes.size + 1 := by
    simp [Tree.add]
  constructor
  · rw [declared_add, List.map_append, List.nodup_append]
    refine ⟨proper.numbered, by simp, ?_⟩
    intro id old other new same
    obtain ⟨node, oldMember, rfl⟩ := List.mem_map.mp old
    have below := proper.bounded oldMember
    simp only [List.map_cons, List.map_nil, List.mem_singleton] at new
    rw [same, new] at below
    exact absurd below (Nat.lt_irrefl _)
  all_goals
    intro node nodeMember
    rw [declared_add, List.mem_append, List.mem_singleton] at nodeMember
  · rw [size]
    rcases nodeMember with old | rfl
    · exact Nat.lt_succ_of_lt (proper.bounded old)
    · exact Nat.lt_succ_self _
  · rcases nodeMember with old | rfl
    · exact proper.rooted old
    · exact (proper.rooted member).trans (List.prefix_append _ _)
  · intro lineage within nonempty
    rw [declared_add]
    rcases nodeMember with old | rfl
    · obtain ⟨other, otherMember, same⟩ := proper.closed old within nonempty
      exact ⟨other, List.mem_append_left _ otherMember, same⟩
    · rcases List.prefix_concat_iff.mp within with whole | within
      · exact ⟨_, List.mem_append_right _ (List.mem_singleton_self _), whole.symm⟩
      · obtain ⟨other, otherMember, same⟩ := proper.closed member within nonempty
        exact ⟨other, List.mem_append_left _ otherMember, same⟩
  · intro field places
    rcases nodeMember with old | rfl
    · exact proper.typed old places
    · exact typed field places

/-- Only the nodes of a tree matter, and that their numbers are used up. -/
theorem Proper.of_declared {tree other : Tree} (proper : tree.Proper)
    (same : other.declared = tree.declared) (size : tree.nodes.size ≤ other.nodes.size) :
    other.Proper := by
  constructor
  · rw [same]
    exact proper.numbered
  all_goals
    intro node member
    rw [same] at member
  · exact Nat.lt_of_lt_of_le (proper.bounded member) size
  · exact proper.rooted member
  · intro above within nonempty
    rw [same]
    exact proper.closed member within nonempty
  · exact proper.typed member

theorem Declared.proper {tree : Tree} (declared : tree.Declared) : tree.Proper := by
  induction declared with
  | new program? => exact proper_new program?
  | container declared member isOpen container proper =>
      refine proper.add member ?_
      rintro field rfl
      cases container
  | place declared member isOpen typed proper =>
      refine proper.add member ?_
      rintro field same
      cases same
      exact typed
  | @skip tree declared proper =>
      exact proper.of_declared (declared_skip tree) (by simp [Tree.skip])
  | @sealed tree final declared seals proper =>
      simp only [Tree.sealed] at seals
      split at seals
      · cases seals
      · cases seals
        exact proper.of_declared rfl (Nat.le_refl _)
  | ownedBy declared program? proper => exact proper.of_declared rfl (Nat.le_refl _)

/-- The root is the first node. -/
theorem Declared.rooted {tree : Tree} (declared : tree.Declared) : tree.node? 0 = some root := by
  have pushed {tree : Tree} (found : tree.node? 0 = some root) (last : Option Node) :
      Tree.node? { tree with nodes := tree.nodes.push last } 0 = some root := by
    have below : 0 < tree.nodes.size := by
      by_contra empty
      rw [Tree.node?, Array.getElem?_eq_none (by omega)] at found
      cases found
    rw [Tree.node?, Array.getElem?_push_lt below, ← Array.getElem?_eq_getElem below]
    exact found
  induction declared with
  | new program? => rfl
  | container declared member isOpen container found => exact pushed found _
  | place declared member isOpen typed found => exact pushed found _
  | skip declared found => exact pushed found none
  | @sealed tree final declared seals found =>
      simp only [Tree.sealed] at seals
      split at seals
      · cases seals
      · cases seals
        exact found
  | ownedBy declared program? found => exact found

section Lookup

variable {tree : Tree}

/-- The number of a node tells it from all others. -/
theorem Proper.eq_of_id (proper : tree.Proper) {one other : Node} (first : one ∈ tree.declared)
    (second : other ∈ tree.declared) (same : one.id = other.id) : one = other :=
  List.inj_on_of_nodup_map proper.numbered first second same

/-- A walk from the root passes every node. -/
theorem Proper.mem_walk (proper : tree.Proper) {node : Node} :
    node ∈ tree.walk root ↔ node ∈ tree.declared := by
  simp only [walk, List.mem_mergeSort, List.mem_filter]
  constructor
  · exact And.left
  · intro member
    refine ⟨member, ?_⟩
    simp only [Node.isUnder, List.isPrefixOf_iff_prefix]
    exact (proper.rooted member).map Level.id

/-- What is found for a field is a leaf. -/
theorem mem_of_leafOf? {field : Field} {leaf : Node} (placed : tree.leafOf? field = some leaf) :
    leaf ∈ tree.declared ∧ leaf.isLeaf := by
  refine ⟨List.mem_of_find?_eq_some placed, ?_⟩
  have holds := List.find?_some placed
  cases found : leaf.field? with
  | none => simp [found] at holds
  | some other =>
      have isSome : leaf.level.kind.field?.isSome := by
        rw [show leaf.level.kind.field? = some other from found]
        rfl
      exact isSome

/-- The elements of a leaf have a type. -/
theorem Proper.type_known (proper : tree.Proper) {leaf : Node} (member : leaf ∈ tree.declared)
    (isLeaf : leaf.isLeaf) : leaf.type ≠ .unknown := by
  obtain ⟨above, id, kind, bounds⟩ := leaf
  cases kind with
  | place field => exact proper.typed member rfl
  | root | dense | pointer => cases isLeaf

theorem Proper.type_of_leafOf? (proper : tree.Proper) {field : Field} {leaf : Node}
    (placed : tree.leafOf? field = some leaf) : leaf.type ≠ .unknown := by
  obtain ⟨member, isLeaf⟩ := mem_of_leafOf? placed
  exact proper.type_known member isLeaf

/-- The pointers that a lineage passes through are declared. -/
theorem Proper.exists_pointer (proper : tree.Proper) {node : Node} (member : node ∈ tree.declared)
    {pointer : Lineage} (among : pointer ∈ node.lineage.pointers) :
    ∃ other ∈ tree.declared, other.lineage = pointer ∧ other.level.kind = .pointer := by
  obtain ⟨within, above, level, rfl, kind⟩ := Lineage.mem_pointers_iff.mp among
  obtain ⟨other, otherMember, same⟩ := proper.closed member within (by simp)
  have levels : [other.level] = [level] := (List.append_inj' same rfl).2
  exact ⟨other, otherMember, same, by rw [List.singleton_inj.mp levels, kind]⟩

end Lookup

end Tree

end FieldKernel
