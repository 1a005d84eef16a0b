import FieldKernel.Proofs.Storage.Requests
import FieldKernel.Storage.Convert

/-!
# Activation

A cell of a pointer exists if and only if some accomplished write to a leaf
below the pointer fell in it.  As the cells of outer pointers hold those of
inner ones, an element is active as soon as its cell of the innermost pointer
exists.
-/

namespace FieldKernel

/-- A write to a leaf below a container that fell in one of its cells. -/
def Written.FellIn (written : Written) (container : Lineage) (cell : List Nat) : Prop :=
  container <+: written.leaf.lineage ∧ written.leaf.lineage.cell container written.index = cell

/-- A write that fell in the cell of an inner pointer fell in the cell of every
outer pointer that the inner cell lies in. -/
theorem Written.FellIn.outer {written : Written} {inner outer : Lineage} {cell : List Nat}
    (fell : written.FellIn inner cell) (within : outer <+: inner) :
    written.FellIn outer (inner.cell outer cell) := by
  obtain ⟨inside, rfl⟩ := fell
  exact ⟨within.trans inside, (Lineage.cell_cell within inside written.index).symm⟩

namespace Storage

/-- The cells of the pointers of a tree are those that writes fell in. -/
def Activates (tree : Tree) (storage : Storage) (past : List Written) : Prop :=
  ∀ pointer ∈ tree.declared, pointer.level.kind = .pointer → ∀ cell,
    storage.hasCell pointer.id cell ↔ ∃ written ∈ past, written.FellIn pointer.lineage cell

variable {storage : Storage} {id : Nat} {tree : Tree}

/-- A pointer that the lineage of a node passes through is known by its
number. -/
theorem mem_pointers_iff_target (proper : tree.Proper) {node pointer : Node}
    (member : node ∈ tree.declared) (pointerMember : pointer ∈ tree.declared)
    (kind : pointer.level.kind = .pointer) {lineage : Lineage} :
    lineage ∈ node.lineage.pointers ∧ target lineage = pointer.id ↔
      lineage = pointer.lineage ∧ pointer.lineage <+: node.lineage := by
  constructor
  · rintro ⟨among, number⟩
    obtain ⟨other, otherMember, rfl, _⟩ := proper.exists_pointer member among
    rw [target_lineage] at number
    rw [← proper.eq_of_id otherMember pointerMember number]
    exact ⟨rfl, (Lineage.mem_pointers_iff.mp among).1⟩
  · rintro ⟨rfl, within⟩
    exact ⟨Lineage.mem_pointers_iff.mpr ⟨within, _, _, rfl, kind⟩, target_lineage pointer⟩

/-- A request leaves the cells as they should be. -/
theorem Activates.serve (proper : tree.Proper) (kept : storage.Of id tree) {past : List Written}
    (activates : storage.Activates tree past) (request : Request) :
    (storage.serve request).Activates tree (past ++ storage.accomplished request) := by
  have keeps := kept.keepsPointers proper
  rcases serve_cases keeps request with
    ⟨nothing, same⟩ | ⟨number, position, convert, leaf, index, value, ready, one, after⟩
  · rw [nothing, same, List.append_nil]
    exact activates
  · have member := ((kept.mem_leaves proper).mp (mem_leaves_of_prepared ready)).1
    intro pointer pointerMember kind cell
    rw [after, one, hasCell_write keeps ready, activates pointer pointerMember kind]
    simp only [List.mem_append, List.mem_singleton, or_and_right, exists_or, exists_eq_left]
    refine or_congr_right ?_
    simp only [← and_assoc, mem_pointers_iff_target proper member pointerMember kind]
    simp [Written.FellIn]

/-- The cells that exist after a sequence of requests to a new storage. -/
theorem activates_serveAll (proper : tree.Proper)
    (made : Storage.ofTree id tree Tree.root = .ok storage) (requests : List Request) :
    (storage.serveAll requests).Activates tree (storage.history requests) := by
  have begins : storage.Activates tree [] := by
    intro pointer _ _ cell
    simp [hasCell, (ofTree_blank made).2]
  refine serveAll_induction (Activates tree) begins ?_ requests
  intro state before alike activates request
  exact activates.serve proper (alike.of (of_ofTree made)) request

/-- On a storage of a tree it can be asked whether an element is active. -/
theorem queryActive_eq (proper : tree.Proper) (kept : storage.Of id tree) {leaf : Node}
    (member : leaf ∈ tree.declared) (isLeaf : leaf.isLeaf) {position : List Int}
    {index : List Nat} (checked : checkIndex leaf position = .ok index) :
    storage.queryActive leaf.id position = .ok (storage.isActive leaf index) := by
  have pointers := kept.keepsPointers proper leaf ((kept.mem_leaves proper).mpr ⟨member, isLeaf⟩)
  simp only [queryActive, Storage.leaf, kept.leaf?_eq proper member isLeaf, bind, Except.bind,
    checked, checkPointers_ok pointers]
  rfl

section Elements

variable {past : List Written} {leaf : Node} {index : List Nat}

/-- With a cell of an inner pointer the cells of outer pointers exist that it
lies in. -/
theorem Activates.outer (activates : storage.Activates tree past) {inner outer : Node}
    (innerMember : inner ∈ tree.declared) (outerMember : outer ∈ tree.declared)
    (innerKind : inner.level.kind = .pointer) (outerKind : outer.level.kind = .pointer)
    (within : outer.lineage <+: inner.lineage) {cell : List Nat}
    (existing : storage.hasCell inner.id cell) :
    storage.hasCell outer.id (inner.lineage.cell outer.lineage cell) := by
  obtain ⟨written, member, fell⟩ := (activates inner innerMember innerKind cell).mp existing
  exact (activates outer outerMember outerKind _).mpr ⟨written, member, fell.outer within⟩

/-- An element is active if its cell of the innermost pointer was written to. -/
theorem Activates.isActive_iff (activates : storage.Activates tree past) (proper : tree.Proper)
    (member : leaf ∈ tree.declared) :
    storage.isActive leaf index ↔
      ∀ pointer, leaf.lineage.pointers.getLast? = some pointer →
        ∃ written ∈ past, written.FellIn pointer (leaf.lineage.cell pointer index) := by
  have existing {pointer : Lineage} (among : pointer ∈ leaf.lineage.pointers) :
      storage.hasCell (target pointer) (leaf.lineage.cell pointer index) ↔
        ∃ written ∈ past, written.FellIn pointer (leaf.lineage.cell pointer index) := by
    obtain ⟨node, nodeMember, rfl, kind⟩ := proper.exists_pointer member among
    rw [target_lineage]
    exact activates node nodeMember kind _
  have all : storage.isActive leaf index ↔ ∀ pointer ∈ leaf.lineage.pointers,
      storage.hasCell (target pointer) (leaf.lineage.cell pointer index) :=
    List.all_eq_true
  rw [all]
  constructor
  · intro every pointer last
    have among := List.mem_of_getLast? last
    exact (existing among).mp (every pointer among)
  · intro innermost pointer among
    cases last : leaf.lineage.pointers.getLast? with
    | none =>
        rw [List.getLast?_eq_none_iff.mp last] at among
        cases among
    | some inner =>
        obtain ⟨written, memberPast, fell⟩ := innermost inner last
        have innerWithin := (Lineage.mem_pointers_iff.mp (List.mem_of_getLast? last)).1
        have within := Lineage.prefix_innermost last among
        refine (existing among).mpr ⟨written, memberPast, ?_⟩
        rw [← Lineage.cell_cell within innerWithin]
        exact fell.outer within

end Elements

/-- On a new storage of a sealed tree, after any sequence of reads and writes:
whether an element is active can be asked, and it is if no pointer lies above
its leaf, or if an accomplished write to a leaf below the innermost pointer
fell in the element's cell of that pointer.  A cell of an inner pointer exists
only within existing cells of the outer ones.  Whatever comes later, an active
element stays active. -/
theorem queryActive_iff_written (declared : tree.Declared)
    (made : Storage.ofTree id tree Tree.root = .ok storage) (requests : List Request)
    {leaf : Node} (member : leaf ∈ tree.declared) (isLeaf : leaf.isLeaf) {position : List Int}
    {index : List Nat} (checked : checkIndex leaf position = .ok index) :
    (∃ active, (storage.serveAll requests).queryActive leaf.id position = .ok active ∧
      (active ↔ ∀ pointer, leaf.lineage.pointers.getLast? = some pointer →
        ∃ written ∈ storage.history requests,
          written.FellIn pointer (leaf.lineage.cell pointer index))) ∧
    (∀ inner ∈ tree.declared, ∀ outer ∈ tree.declared, inner.level.kind = .pointer →
      outer.level.kind = .pointer → outer.lineage <+: inner.lineage → ∀ cell,
        (storage.serveAll requests).hasCell inner.id cell →
          (storage.serveAll requests).hasCell outer.id (inner.lineage.cell outer.lineage cell)) ∧
    ∀ later, (storage.serveAll requests).queryActive leaf.id position = .ok true →
      (storage.serveAll (requests ++ later)).queryActive leaf.id position = .ok true := by
  have proper := declared.proper
  have activates := activates_serveAll proper made
  have query (requests : List Request) :
      (storage.serveAll requests).queryActive leaf.id position =
        .ok ((storage.serveAll requests).isActive leaf index) :=
    queryActive_eq proper ((alike_serveAll requests).of (of_ofTree made)) member isLeaf checked
  have active (requests : List Request) :
      (storage.serveAll requests).isActive leaf index ↔
        ∀ pointer, leaf.lineage.pointers.getLast? = some pointer →
          ∃ written ∈ storage.history requests,
            written.FellIn pointer (leaf.lineage.cell pointer index) :=
    (activates requests).isActive_iff proper member
  refine ⟨⟨_, query requests, active requests⟩, ?_, ?_⟩
  · intro inner innerMember outer outerMember innerKind outerKind within cell
    exact (activates requests).outer innerMember outerMember innerKind outerKind within
  · intro later now
    rw [query, Except.ok.injEq, active] at now ⊢
    intro pointer last
    obtain ⟨written, past, fell⟩ := now pointer last
    exact ⟨written, by simp [history_append, past], fell⟩

end Storage

namespace Blocks

def field : Field :=
  ⟨0, ⟨0, some "x"⟩, .i32⟩

/-- Four cells of a pointer, each of two elements. -/
def pointerTree : Tree × Node :=
  (Tree.new none).add Tree.root .pointer [(0, 4)]

def denseTree : Tree × Node :=
  pointerTree.1.add pointerTree.2 .dense [(0, 2)]

def tree : Tree :=
  { (denseTree.1.add denseTree.2 (.place field) []).1 with isSealed := true }

def leaf : Node :=
  (denseTree.1.add denseTree.2 (.place field) []).2

theorem declared : tree.Declared :=
  .sealed
    (.place
      (.container
        (.container (.new none) (by decide) rfl rfl)
        (by decide) rfl rfl)
      (by decide) rfl (by decide))
    rfl

theorem shape : leaf.lineage.shape = [8] := by
  have axes : leaf.lineage.axes = [0] := by
    simp [leaf, denseTree, pointerTree, Tree.add, Tree.root, Node.lineage, Lineage.axes,
      Lineage.bounds, List.eraseDups_cons]
  rw [Lineage.shape, axes]
  decide

theorem checked : Storage.checkIndex leaf [4] = .ok [4] := by
  rw [Storage.checkIndex, shape]
  rfl

/-- The element 5, which lies in the same cell as the element 4, is written. -/
def requests : List Request :=
  [.write leaf.id [5] fun type => (Literal.int 7).convert type]

/-- After the write it is asked whether the element 4 is active. -/
theorem queryActive_in_block :
    ∃ storage, Storage.ofTree 0 tree Tree.root = .ok storage ∧
      ∃ active, (storage.serveAll requests).queryActive leaf.id [4] = .ok active ∧
        (active ↔ ∀ pointer, leaf.lineage.pointers.getLast? = some pointer →
          ∃ written ∈ storage.history requests,
            written.FellIn pointer (leaf.lineage.cell pointer [4])) := by
  have made : Storage.ofTree 0 tree Tree.root = .ok _ := rfl
  exact ⟨_, made,
    (Storage.queryActive_iff_written declared made requests (by decide) rfl checked).1⟩

end Blocks

end FieldKernel
