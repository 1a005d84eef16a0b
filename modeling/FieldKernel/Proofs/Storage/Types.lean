import FieldKernel.Proofs.Execution.Triples
import FieldKernel.Proofs.Execution.Values
import FieldKernel.Proofs.Storage.Contents

/-!
# Types of stored elements

Every element of a leaf has the type of the leaf.  A new storage is like that,
and since a value is converted before it is kept, every request leaves it so.
-/

namespace FieldKernel

/-- A conversion to a type gives scalars of that type. -/
def Converts (convert : DataType → Except Error Scalar) : Prop :=
  ∀ type value, convert type = .ok value → value.type = type

/-- A conversion to boxes of a type converts what is the element of a box. -/
theorem converts_element {convert : DataType → Except Error Box}
    (converts : ∀ type box, convert type = .ok box → box.HasType type) :
    Converts (fun type => do (← convert type).element) := by
  intro type scalar
  dsimp only
  cases converted : convert type with
  | error error => exact fun failed => by cases failed
  | ok box => exact (Box.element_delivers (converts type box converted)).result

theorem Box.stored_delivers (box : Box) (type : DataType) :
    Delivers (fun value => value.type = type) (box.stored type) :=
  (box.convert_delivers type).bind fun _ => Box.element_delivers

theorem Box.stored_converts (box : Box) : Converts box.stored :=
  converts_element fun type _ => (box.convert_delivers type).result

namespace Storage

/-- Every element has the type of its leaf. -/
def Typed (storage : Storage) : Prop :=
  ∀ id leaf, storage.leaf? id = some leaf → ∀ index, (storage.get leaf index).type = leaf.type

variable {storage : Storage} {leaf : Node}

theorem id_of_leaf? {id : Nat} (found : storage.leaf? id = some leaf) : leaf.id = id := by
  simpa using List.find?_some found

/-- A new storage holds zeros of the types of its leaves. -/
theorem typed_ofTree {id : Nat} {tree : Tree} (proper : tree.Proper)
    (made : Storage.ofTree id tree Tree.root = .ok storage) : storage.Typed := by
  intro number leaf found index
  obtain ⟨member, isLeaf, _⟩ := (of_ofTree made).mem_of_leaf? proper found
  have known := proper.type_known member isLeaf
  rw [get, (ofTree_blank made).1]
  simp only [Std.TreeMap.getElem?_emptyc]
  revert known
  cases leaf.type with
  | unknown => exact fun known => absurd rfl known
  | _ => exact fun _ => rfl

theorem get_activate (pointers : List Lineage) (within leaf : Node) (element index : List Nat) :
    (activate within element pointers storage).2.get leaf index = storage.get leaf index := by
  rw [get, get, written_activate]

theorem Typed.put (typed : storage.Typed) {id : Nat} (found : storage.leaf? id = some leaf)
    (element : List Nat) {value : Scalar} (ofLeaf : value.type = leaf.type) :
    (storage.put leaf element value).Typed := by
  intro other node held index
  have held : storage.leaf? other = some node := held
  have kept := typed other node held index
  rw [get] at kept ⊢
  rw [Storage.put, Std.TreeMap.getElem?_insert]
  by_cases same : compare (leaf.id :: element) (node.id :: index) = .eq
  · rw [if_pos same]
    have number : leaf.id = node.id := (List.cons.inj (Std.compare_eq_iff_eq.mp same)).1
    rw [id_of_leaf? found, id_of_leaf? held] at number
    rw [number, held] at found
    cases found
    exact ofLeaf
  · rw [if_neg same]
    exact kept

theorem Typed.write (typed : storage.Typed) (id : Nat) (position : List Int)
    {convert : DataType → Except Error Scalar} (converts : Converts convert) :
    (storage.write id position convert).2.Typed := by
  cases ready : storage.prepared id position convert with
  | error error =>
      rw [write_of_error ready]
      exact typed
  | ok found =>
      obtain ⟨leaf, index, value⟩ := found
      obtain ⟨held, _, converted⟩ := found_of_prepared ready
      have put := typed.put held index (converts _ _ converted)
      rw [write_of_ok ready]
      intro other node found element
      rw [get_activate]
      rw [(alike_activate _).leaf?_eq] at found
      exact put other node found element

/-- The states that a storage of a tree can come to: host code and kernels write
to it, each with a conversion of their own. -/
inductive Reached (id : Nat) (tree : Tree) : Storage → Prop where
  | made {storage : Storage} (made : Storage.ofTree id tree Tree.root = .ok storage) :
      Reached id tree storage
  | hostWrite {storage : Storage} (reached : Reached id tree storage) (objects : Objects)
      (leaf : Nat) (position : List Int) (value : HostValue) :
      Reached id tree (storage.write leaf position fun type => do
        (← (Ask.scalars value type).run objects).element).2
  | kernelWrite {storage : Storage} (reached : Reached id tree storage) (leaf : Nat)
      (position : List Int) (value : Box) :
      Reached id tree (storage.write leaf position value.stored).2

namespace Reached

variable {id : Nat} {tree : Tree}

theorem of (reached : Reached id tree storage) : storage.Of id tree := by
  induction reached with
  | made made => exact of_ofTree made
  | hostWrite _ _ leaf position _ hypothesis | kernelWrite _ leaf position _ hypothesis =>
      exact (alike_write leaf position _).of hypothesis

theorem typed (proper : tree.Proper) (reached : Reached id tree storage) : storage.Typed := by
  induction reached with
  | made made => exact typed_ofTree proper made
  | hostWrite _ objects leaf position value hypothesis =>
      exact hypothesis.write leaf position (converts_element fun _ _ => Ask.scalars_hasType)
  | kernelWrite _ leaf position value hypothesis =>
      exact hypothesis.write leaf position value.stored_converts

end Reached

theorem checkPositions_delivers (path : Except HostFault String) (axis : Nat)
    (position : List Int) (extents : List Nat) :
    Delivers (fun _ => True) (checkPositions path axis position extents) := by
  induction position generalizing axis extents with
  | nil => exact .ok trivial
  | cons first rest hypothesis =>
      cases extents with
      | nil => exact .ok trivial
      | cons extent extents =>
          unfold checkPositions
          split
          · exact .error (.quoting fun _ => .quoting fun _ => .quoting (by simp [Error.FitsAxes]))
          · exact (hypothesis (axis + 1) extents).bind fun _ _ => .ok trivial

/-- An index with a position for each axis passes the check of its length. -/
theorem checkIndex_delivers {position : List Int}
    (arity : position.length = leaf.lineage.axes.length) :
    Delivers (fun _ => True) (checkIndex leaf position) := by
  have lengths : position.length = leaf.lineage.shape.length := by
    rw [arity, Lineage.shape, List.length_map]
  simp only [checkIndex, lengths, ne_eq, not_true_eq_false, if_false]
  exact checkPositions_delivers _ _ _ _

theorem leaf_delivers (found : storage.leaf? leaf.id = some leaf) :
    storage.leaf leaf.id = .ok leaf := by
  rw [Storage.leaf, found]

theorem read_delivers (typed : storage.Typed) (found : storage.leaf? leaf.id = some leaf)
    {position : List Int} (arity : position.length = leaf.lineage.axes.length) :
    Delivers (fun value => value.type = leaf.type) (storage.read leaf.id position) := by
  rw [read, leaf_delivers found]
  exact (checkIndex_delivers arity).bind fun index _ => .ok (typed leaf.id leaf found index)

theorem prepared_delivers (found : storage.leaf? leaf.id = some leaf) {position : List Int}
    (arity : position.length = leaf.lineage.axes.length) (box : Box) :
    Delivers (fun _ => True) (storage.prepared leaf.id position box.stored) := by
  rw [prepared, leaf_delivers found]
  exact (checkIndex_delivers arity).bind fun _ _ =>
    (box.stored_delivers leaf.type).bind fun _ _ => .ok trivial

theorem checkPointers_delivers (leaf : Node) :
    Delivers (fun _ => True) (storage.checkPointers leaf) := by
  unfold checkPointers
  split
  · exact .ok trivial
  · exact .error (by simp [Error.FitsAxes])

theorem activeIndices_delivers (id : Nat) :
    Delivers (fun _ => True) (storage.activeIndices id) := by
  rw [activeIndices_eq, Storage.leaf]
  split
  · exact (checkPointers_delivers _).bind fun _ _ => .ok trivial
  · exact .error (by simp [Error.FitsAxes])

end Storage

end FieldKernel
