import FieldKernel.Proofs.Storage.Layout

/-!
# Writes

A write first finds its leaf, checks the index and converts the value.  Where
the storage keeps all pointers nothing fails after that, so that a write
either fails and changes nothing, or sets its element and makes the cells that
the element lies in exist.
-/

namespace FieldKernel

namespace Storage

/-- What a write finds out before anything changes. -/
def prepared (storage : Storage) (id : Nat) (index : List Int)
    (convert : DataType → Except Error Scalar) : Except Error (Node × List Nat × Scalar) := do
  let leaf ← storage.leaf id
  let index ← checkIndex leaf index
  return (leaf, index, ← convert leaf.type)

variable {storage : Storage} {id : Nat} {position : List Int}
  {convert : DataType → Except Error Scalar} {leaf : Node} {index : List Nat} {value : Scalar}

theorem write_of_error {error : Error}
    (refused : storage.prepared id position convert = .error error) :
    storage.write id position convert = (.error error, storage) := by
  simp only [write, ← prepared.eq_1, refused]

theorem write_of_ok (ready : storage.prepared id position convert = .ok (leaf, index, value)) :
    storage.write id position convert =
      activate leaf index leaf.lineage.pointers (storage.put leaf index value) := by
  simp only [write, ← prepared.eq_1, ready]

/-- What a write finds is a leaf of the storage, one of its elements, and the
value that the write was given for it. -/
theorem found_of_prepared
    (ready : storage.prepared id position convert = .ok (leaf, index, value)) :
    storage.leaf? id = some leaf ∧ checkIndex leaf position = .ok index ∧
      convert leaf.type = .ok value := by
  cases found : storage.leaf? id with
  | none => simp [prepared, Storage.leaf, found, bind, Except.bind] at ready
  | some node =>
      cases checked : checkIndex node position with
      | error error => simp [prepared, Storage.leaf, found, checked, bind, Except.bind] at ready
      | ok positions =>
          cases converted : convert node.type with
          | error error =>
              simp [prepared, Storage.leaf, found, checked, converted, bind, Except.bind] at ready
          | ok scalar =>
              simp only [prepared, Storage.leaf, found, checked, converted, bind, Except.bind,
                pure, Except.pure, Except.ok.injEq, Prod.mk.injEq] at ready
              obtain ⟨rfl, rfl, rfl⟩ := ready
              exact ⟨rfl, checked, converted⟩

theorem mem_leaves_of_prepared
    (ready : storage.prepared id position convert = .ok (leaf, index, value)) :
    leaf ∈ storage.leaves :=
  List.mem_of_find?_eq_some (found_of_prepared ready).1

namespace KeepsPointers

/-- Once a write has found its element and value, it succeeds. -/
theorem write_ok (keeps : storage.KeepsPointers)
    (ready : storage.prepared id position convert = .ok (leaf, index, value)) :
    (storage.write id position convert).1 = .ok () := by
  rw [write_of_ok ready]
  exact activate_ok fun pointer among =>
    keeps leaf (mem_leaves_of_prepared ready) pointer among

/-- A write that fails changes nothing. -/
theorem unchanged (keeps : storage.KeepsPointers) {error : Error}
    (fails : (storage.write id position convert).1 = .error error) :
    storage.prepared id position convert = .error error ∧
      (storage.write id position convert).2 = storage := by
  cases ready : storage.prepared id position convert with
  | error other =>
      rw [write_of_error ready] at fails ⊢
      cases fails
      exact ⟨rfl, rfl⟩
  | ok found =>
      obtain ⟨leaf, index, value⟩ := found
      rw [keeps.write_ok ready] at fails
      cases fails

end KeepsPointers

section Cells

/-- After a write those cells exist that existed before, and those that the
element lies in. -/
theorem hasCell_activate {pointers : List Lineage}
    (known : ∀ pointer ∈ pointers, storage.knows pointer) (number : Nat) (cell : List Nat) :
    (activate leaf index pointers storage).2.hasCell number cell ↔
      storage.hasCell number cell ∨
        ∃ pointer ∈ pointers, target pointer = number ∧ leaf.lineage.cell pointer index = cell := by
  induction pointers generalizing storage with
  | nil => simp [activate]
  | cons pointer rest hypothesis =>
      have later : ∀ other ∈ rest,
          (storage.addCell (target pointer) (leaf.lineage.cell pointer index)).knows other :=
        fun other member => known other (by simp [member])
      rw [activate, if_pos (known pointer (by simp)), hypothesis later]
      simp only [hasCell, addCell, Std.TreeMap.contains_insert, List.mem_cons,
        exists_eq_or_imp, Bool.or_eq_true, beq_iff_eq, Std.compare_eq_iff_eq, List.cons.injEq]
      tauto

theorem hasCell_write (keeps : storage.KeepsPointers)
    (ready : storage.prepared id position convert = .ok (leaf, index, value)) (number : Nat)
    (cell : List Nat) :
    (storage.write id position convert).2.hasCell number cell ↔
      storage.hasCell number cell ∨
        ∃ pointer ∈ leaf.lineage.pointers, target pointer = number ∧
          leaf.lineage.cell pointer index = cell := by
  have known : ∀ pointer ∈ leaf.lineage.pointers,
      (storage.put leaf index value).knows pointer :=
    fun pointer among => keeps leaf (mem_leaves_of_prepared ready) pointer among
  rw [write_of_ok ready, hasCell_activate known]
  rfl

end Cells

end Storage

end FieldKernel
