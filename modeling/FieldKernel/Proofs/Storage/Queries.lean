import FieldKernel.Proofs.Storage.Contents

/-!
# One element and all elements

Whether an element is active can be asked of the element, of the grid of all
elements, and of the list of the active ones.  The three answers agree, and
the list is in ascending order and so without duplicates.
-/

namespace FieldKernel

/-- The positions in range are those of the indices of the box. -/
theorem Node.InRange.mem_indices {leaf : Node} {position : List Int}
    (inside : leaf.InRange position) :
    position.map Int.toNat ∈ Lineage.indices leaf.lineage.shape := by
  rw [Lineage.mem_indices, List.forall₂_map_left_iff]
  refine List.Forall₂.imp ?_ inside
  intro coordinate extent within
  obtain ⟨least, most⟩ := within
  omega

theorem Node.inRange_iff_mem_indices {leaf : Node} {index : List Nat} :
    leaf.InRange (index.map Int.ofNat) ↔ index ∈ Lineage.indices leaf.lineage.shape := by
  rw [Node.InRange, List.forall₂_map_left_iff, Lineage.mem_indices]
  have same (coordinate extent : Nat) : Within (Int.ofNat coordinate) extent ↔
      coordinate < extent :=
    ⟨fun within => Int.ofNat_lt.mp within.2,
      fun below => ⟨Int.natCast_nonneg coordinate, Int.ofNat_lt.mpr below⟩⟩
  simp only [same]

namespace Storage

variable {storage : Storage} {id : Nat} {tree : Tree} {leaf : Node}

section Answers

variable (kept : storage.Of id tree) (proper : tree.Proper) (member : leaf ∈ tree.declared)
  (isLeaf : leaf.isLeaf)

include kept proper member isLeaf

theorem Of.checkPointers_ok : storage.checkPointers leaf = .ok () :=
  Storage.checkPointers_ok
    (kept.keepsPointers proper leaf ((kept.mem_leaves proper).mpr ⟨member, isLeaf⟩))

theorem Of.leaf_eq : storage.leaf leaf.id = .ok leaf := by
  rw [Storage.leaf, kept.leaf?_eq proper member isLeaf]

theorem Of.activeGrid_eq :
    storage.activeGrid leaf.id =
      .ok (Grid.tabulate (storage.isActive leaf) leaf.lineage.shape []) := by
  rw [Storage.activeGrid_eq, kept.leaf_eq proper member isLeaf]
  simp only [bind, Except.bind, kept.checkPointers_ok proper member isLeaf]
  rfl

theorem Of.activeIndices_eq :
    storage.activeIndices leaf.id =
      .ok ((Lineage.indices leaf.lineage.shape).filter (storage.isActive leaf)) := by
  rw [Storage.activeIndices_eq, kept.leaf_eq proper member isLeaf]
  simp only [bind, Except.bind, kept.checkPointers_ok proper member isLeaf]
  rfl

end Answers

/-- On a storage of a declared tree, whatever cells exist: the grid and the
list of the active elements of a leaf can be asked for.  The list ascends
strictly, and what it lists is in range.  At every index in range, whether the
element is active can be asked, the grid has the same answer there, and the
index is listed if and only if the answer is yes. -/
theorem active_answers_agree (declared : tree.Declared) (kept : storage.Of id tree)
    (member : leaf ∈ tree.declared) (isLeaf : leaf.isLeaf) :
    ∃ grid listed, storage.activeGrid leaf.id = .ok grid ∧
      storage.activeIndices leaf.id = .ok listed ∧ listed.Pairwise (· < ·) ∧
      (∀ index ∈ listed, leaf.InRange (index.map Int.ofNat)) ∧
      ∀ position, leaf.InRange position → ∃ active,
        storage.queryActive leaf.id position = .ok active ∧
        grid.get? (position.map Int.toNat) = some active ∧
        (position.map Int.toNat ∈ listed ↔ active) := by
  have proper := declared.proper
  refine ⟨_, _, kept.activeGrid_eq proper member isLeaf, kept.activeIndices_eq proper member isLeaf,
    ?ascending, ?inside, ?agree⟩
  case ascending =>
    exact (Lineage.indices_ascending _).filter _
  case inside =>
    intro index listed
    exact Node.inRange_iff_mem_indices.mpr (List.mem_filter.mp listed).1
  case agree =>
    intro position inside
    have checked := checkIndex_eq_ok.mpr ⟨inside, rfl⟩
    have box := inside.mem_indices
    refine ⟨_, queryActive_eq proper kept member isLeaf checked, Grid.get?_tabulate box, ?_⟩
    rw [List.mem_filter]
    exact and_iff_right box

end Storage

namespace Blocks

theorem inRange : leaf.InRange [4] := by
  rw [Node.InRange, shape]
  exact .cons ⟨by decide, by decide⟩ .nil

/-- The answers about the element 4, after its neighbour was written. -/
theorem active_answers_in_block :
    ∃ storage, Storage.ofTree 0 tree Tree.root = .ok storage ∧
      ∃ grid listed, (storage.serveAll requests).activeGrid leaf.id = .ok grid ∧
        (storage.serveAll requests).activeIndices leaf.id = .ok listed ∧
        ∃ active, (storage.serveAll requests).queryActive leaf.id [4] = .ok active ∧
          grid.get? [4] = some active ∧ ([4] ∈ listed ↔ active) := by
  have made : Storage.ofTree 0 tree Tree.root = .ok _ := rfl
  have kept := (Storage.alike_serveAll requests).of (Storage.of_ofTree made)
  have member : leaf ∈ tree.declared := by decide
  obtain ⟨grid, listed, whole, list, _, _, agree⟩ :=
    Storage.active_answers_agree declared kept member rfl
  exact ⟨_, made, grid, listed, whole, list, agree [4] inRange⟩

end Blocks

end FieldKernel
