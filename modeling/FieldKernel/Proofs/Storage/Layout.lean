import FieldKernel.Proofs.Layout.Lineages
import FieldKernel.Proofs.Layout.Trees
import FieldKernel.Proofs.Storage.Grids

/-!
# Storages of a layout

A storage that was made for a sealed tree keeps the leaves and the pointers of
the tree, whatever is written later, and finds a leaf by its number.  For every
pointer above a leaf it keeps the cells, so that a write, once its value is
converted, does not fail half-way.
-/

namespace FieldKernel

/-- A field is found in the tree that it is placed in. -/
theorem Layouts.leafOf?_eq_some {layouts : Layouts} {field : Field} {id : Nat} {leaf : Node}
    (placed : layouts.leafOf? field = some (id, leaf)) :
    ∃ tree, layouts[id]? = some tree ∧ tree.leafOf? field = some leaf := by
  obtain ⟨other, _, found⟩ := List.exists_of_findSome?_eq_some placed
  obtain ⟨node, held, same⟩ := Option.map_eq_some_iff.mp found
  cases same
  exact Option.bind_eq_some_iff.mp held

namespace Storage

/-- A storage keeps the leaves and pointers of a tree. -/
structure Of (storage : Storage) (id : Nat) (tree : Tree) : Prop where
  tree? : storage.tree? = some id
  leaves : storage.leaves = (tree.walk Tree.root).filter Node.isLeaf
  pointers : storage.pointers = (tree.walk Tree.root).filter (·.level.kind = .pointer)

theorem of_ofTree {storage : Storage} {id : Nat} {tree : Tree}
    (made : Storage.ofTree id tree Tree.root = .ok storage) : storage.Of id tree := by
  simp only [ofTree] at made
  split at made
  · cases made
    exact ⟨rfl, rfl, rfl⟩
  · cases made

/-- Nothing is written in a new storage, and no cell exists. -/
theorem ofTree_blank {storage : Storage} {id : Nat} {tree : Tree} {top : Node}
    (made : Storage.ofTree id tree top = .ok storage) :
    storage.written = ∅ ∧ storage.cells = ∅ := by
  simp only [ofTree] at made
  split at made
  · cases made
    exact ⟨rfl, rfl⟩
  · cases made

namespace Of

variable {storage : Storage} {id : Nat} {tree : Tree}

theorem mem_leaves (kept : storage.Of id tree) (proper : tree.Proper) {leaf : Node} :
    leaf ∈ storage.leaves ↔ leaf ∈ tree.declared ∧ leaf.isLeaf := by
  rw [kept.leaves, List.mem_filter, proper.mem_walk]

/-- A leaf is found by its number. -/
theorem leaf?_eq (kept : storage.Of id tree) (proper : tree.Proper) {leaf : Node}
    (member : leaf ∈ tree.declared) (isLeaf : leaf.isLeaf) :
    storage.leaf? leaf.id = some leaf := by
  cases found : storage.leaf? leaf.id with
  | none =>
      have missing := List.find?_eq_none.mp found leaf ((kept.mem_leaves proper).mpr ⟨member, isLeaf⟩)
      simp at missing
  | some other =>
      have otherMember := ((kept.mem_leaves proper).mp (List.mem_of_find?_eq_some found)).1
      have same : other.id = leaf.id := by simpa using List.find?_some found
      rw [proper.eq_of_id otherMember member same]

/-- A number that is found belongs to a leaf of the tree. -/
theorem mem_of_leaf? (kept : storage.Of id tree) (proper : tree.Proper) {number : Nat}
    {leaf : Node} (found : storage.leaf? number = some leaf) :
    leaf ∈ tree.declared ∧ leaf.isLeaf ∧ leaf.id = number := by
  obtain ⟨member, isLeaf⟩ := (kept.mem_leaves proper).mp (List.mem_of_find?_eq_some found)
  exact ⟨member, isLeaf, by simpa using List.find?_some found⟩

/-- The leaf of a field of the tree is found as host code finds it. -/
theorem leafOf_eq (kept : storage.Of id tree) (proper : tree.Proper) {layouts : Layouts}
    (known : layouts[id]? = some tree) {field : Field} {leaf : Node}
    (placed : layouts.leafOf? field = some (id, leaf)) :
    storage.leafOf layouts field = .ok leaf := by
  obtain ⟨other, found, held⟩ := Layouts.leafOf?_eq_some placed
  rw [known] at found
  cases found
  obtain ⟨member, isLeaf⟩ := Tree.mem_of_leafOf? held
  simp only [leafOf, placed, kept.leaf?_eq proper member isLeaf, kept.tree?, if_true]

/-- A field of another tree is not found. -/
theorem leafOf_foreign (kept : storage.Of id tree) {layouts : Layouts} {field : Field}
    {other : Nat} {leaf : Node} (placed : layouts.leafOf? field = some (other, leaf))
    (foreign : other ≠ id) :
    storage.leafOf layouts field = .error (.contract (.foreignField field.text)) := by
  have different : ¬ some id = some other := fun same => foreign (Option.some.inj same).symm
  simp only [leafOf, placed, kept.tree?, if_neg different]
  split <;> rfl

end Of

/-- Two states of a storage have the same leaves and pointers. -/
structure Alike (one other : Storage) : Prop where
  tree? : other.tree? = one.tree?
  leaves : other.leaves = one.leaves
  pointers : other.pointers = one.pointers

theorem Alike.refl (storage : Storage) : storage.Alike storage :=
  ⟨rfl, rfl, rfl⟩

theorem Alike.trans {one middle other : Storage} (first : one.Alike middle)
    (second : middle.Alike other) : one.Alike other :=
  ⟨second.tree?.trans first.tree?, second.leaves.trans first.leaves,
    second.pointers.trans first.pointers⟩

section Alike

variable {one other : Storage}

theorem Alike.leaf?_eq (alike : one.Alike other) (id : Nat) : other.leaf? id = one.leaf? id := by
  rw [leaf?, leaf?, alike.leaves]

theorem Alike.knows_eq (alike : one.Alike other) (pointer : Lineage) :
    other.knows pointer = one.knows pointer := by
  rw [knows, knows, alike.pointers]

theorem Alike.of (alike : one.Alike other) {id : Nat} {tree : Tree} (kept : one.Of id tree) :
    other.Of id tree :=
  ⟨alike.tree?.trans kept.tree?, alike.leaves.trans kept.leaves,
    alike.pointers.trans kept.pointers⟩

end Alike

section Write

variable {storage : Storage} {leaf : Node} {index : List Nat}

theorem alike_put (value : Scalar) : storage.Alike (storage.put leaf index value) :=
  ⟨rfl, rfl, rfl⟩

theorem alike_activate (pointers : List Lineage) :
    storage.Alike (activate leaf index pointers storage).2 := by
  induction pointers generalizing storage with
  | nil => exact .refl storage
  | cons pointer rest hypothesis =>
      simp only [activate]
      split
      · have added : storage.Alike
            (storage.addCell (target pointer) (leaf.lineage.cell pointer index)) := ⟨rfl, rfl, rfl⟩
        exact added.trans hypothesis
      · exact .refl storage

/-- A write leaves the leaves and pointers as they are. -/
theorem alike_write (id : Nat) (position : List Int) (convert : DataType → Except Error Scalar) :
    storage.Alike (storage.write id position convert).2 := by
  simp only [write]
  split
  · exact .refl storage
  · exact (alike_put _).trans (alike_activate _)

end Write

/-- The cells of all pointers above the leaves are kept. -/
def KeepsPointers (storage : Storage) : Prop :=
  ∀ leaf ∈ storage.leaves, ∀ pointer ∈ leaf.lineage.pointers, storage.knows pointer

theorem Alike.keepsPointers {one other : Storage} (alike : one.Alike other)
    (keeps : one.KeepsPointers) : other.KeepsPointers := by
  intro leaf member pointer among
  rw [alike.leaves] at member
  rw [alike.knows_eq]
  exact keeps leaf member pointer among

theorem keepsPointers_empty : empty.KeepsPointers := by
  intro leaf member
  cases member

theorem target_lineage (node : Node) : target node.lineage = node.id := by
  simp [target, Node.lineage, Node.id]

/-- The storage of a tree keeps the cells of the pointers above its leaves,
because what lies above a leaf is declared. -/
theorem Of.keepsPointers {storage : Storage} {id : Nat} {tree : Tree} (kept : storage.Of id tree)
    (proper : tree.Proper) : storage.KeepsPointers := by
  intro leaf member pointer among
  obtain ⟨declared, _⟩ := (kept.mem_leaves proper).mp member
  obtain ⟨node, nodeMember, rfl, kind⟩ := proper.exists_pointer declared among
  rw [knows, kept.pointers, List.any_eq_true]
  refine ⟨node, List.mem_filter.mpr ⟨proper.mem_walk.mpr nodeMember, by simpa using kind⟩, ?_⟩
  simp [target_lineage]

/-- An index that is listed has a position for every axis. -/
theorem length_of_mem_activeIndices {storage : Storage} {id : Nat} {leaf : Node}
    (found : storage.leaf? id = some leaf) {listed : List (List Nat)}
    (active : storage.activeIndices id = .ok listed) {index : List Nat} (member : index ∈ listed) :
    index.length = leaf.lineage.axes.length := by
  simp only [activeIndices_eq, Storage.leaf, found, bind, Except.bind] at active
  split at active
  · cases active
  · cases active
    rw [Lineage.length_of_mem_indices (List.mem_filter.mp member).1, Lineage.shape, List.length_map]

section Success

variable {storage : Storage} {leaf : Node}

/-- If all pointers are kept, the cells of an element are made to exist. -/
theorem activate_ok {index : List Nat} {pointers : List Lineage}
    (known : ∀ pointer ∈ pointers, storage.knows pointer) :
    (activate leaf index pointers storage).1 = .ok () := by
  induction pointers generalizing storage with
  | nil => rfl
  | cons pointer rest hypothesis =>
      rw [activate, if_pos (known pointer (by simp))]
      exact hypothesis fun other member => known other (by simp [member])

theorem checkPointers_ok (known : ∀ pointer ∈ leaf.lineage.pointers, storage.knows pointer) :
    storage.checkPointers leaf = .ok () := by
  have none : leaf.lineage.pointers.find? (fun pointer => !storage.knows pointer) = none := by
    rw [List.find?_eq_none]
    intro pointer member
    simp [known pointer member]
  rw [checkPointers, none]

end Success

end Storage

end FieldKernel
