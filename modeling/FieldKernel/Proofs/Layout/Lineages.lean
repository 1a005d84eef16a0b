import Mathlib
import FieldKernel.Layout.Lineage

/-!
# Cells along a lineage

The pointers of a lineage are the lineages of the pointers above, and the cell
of a container is found in steps as well: it is the cell that the cell of any
container between lies in.
-/

namespace FieldKernel

namespace Lineage

/-- The pointers of a lineage are what it begins with down to a pointer. -/
theorem mem_pointers_iff {lineage pointer : Lineage} :
    pointer ∈ lineage.pointers ↔
      pointer <+: lineage ∧ ∃ above level, pointer = above ++ [level] ∧ level.kind = .pointer := by
  simp only [pointers, List.mem_filterMap, List.mem_range, Option.ite_none_right_eq_some,
    Option.some.injEq, Option.any_eq_true, decide_eq_true_eq]
  constructor
  · rintro ⟨position, inside, ⟨level, found, kind⟩, rfl⟩
    refine ⟨List.take_prefix _ _, lineage.take position, level, ?_, kind⟩
    rw [List.take_add_one, found]
    rfl
  · rintro ⟨⟨below, rfl⟩, above, level, rfl, kind⟩
    refine ⟨above.length, by simp, ⟨level, by simp, kind⟩, ?_⟩
    rw [show above.length + 1 = (above ++ [level]).length by simp, List.take_left]

/-- Pointers that come later in a lineage lie below those that come earlier. -/
theorem pairwise_pointers (lineage : Lineage) : lineage.pointers.Pairwise (· <+: ·) := by
  refine List.Pairwise.filterMap _ ?_ (List.pairwise_lt_range (n := lineage.length))
  intro position other before pointer found below foundBelow
  simp only [Option.ite_none_right_eq_some, Option.some.injEq] at found foundBelow
  rw [← found.2, ← foundBelow.2]
  exact List.take_prefix_take_left (by omega)

/-- The last pointer of a lineage lies below all others. -/
theorem prefix_innermost {lineage inner pointer : Lineage}
    (last : lineage.pointers.getLast? = some inner) (member : pointer ∈ lineage.pointers) :
    pointer <+: inner := by
  obtain ⟨outer, split⟩ := List.getLast?_eq_some_iff.mp last
  have ascending := pairwise_pointers lineage
  rw [split] at member ascending
  rcases List.mem_append.mp member with earlier | same
  · exact (List.pairwise_append.mp ascending).2.2 pointer earlier inner (by simp)
  · rw [List.mem_singleton.mp same]

theorem mem_axes_of_within {lineage container : Lineage} (within : container <+: lineage)
    {axis : Nat} (member : axis ∈ container.axes) : axis ∈ lineage.axes := by
  obtain ⟨below, rfl⟩ := within
  simp only [axes, bounds, List.flatMap_append, List.map_append, List.mem_mergeSort,
    List.mem_eraseDups, List.mem_append] at member ⊢
  exact .inl member

/-- The coordinate on an axis that is given by a function of the axes. -/
theorem coordinate_map {lineage : Lineage} {axis : Nat} (member : axis ∈ lineage.axes)
    (position : Nat → Nat) :
    lineage.coordinate (lineage.axes.map position) axis = position axis := by
  have lookup (axes : List Nat) (member : axis ∈ axes) :
      (axes.zip (axes.map position)).lookup axis = some (position axis) := by
    induction axes with
    | nil => cases member
    | cons first rest hypothesis =>
        rw [List.map_cons, List.zip_cons_cons, List.lookup_cons]
        by_cases same : axis = first
        · simp [same]
        · have later := hypothesis ((List.mem_cons.mp member).resolve_left same)
          have different : (axis == first) = false := beq_eq_false_iff_ne.mpr same
          simpa [different] using later
  rw [coordinate, lookup _ member]
  rfl

/-- Divisors multiply along a lineage. -/
theorem divisor_mul {lineage inner outer : Lineage} (outerWithin : outer <+: inner)
    (innerWithin : inner <+: lineage) (axis : Nat) :
    lineage.divisor outer axis = inner.divisor outer axis * lineage.divisor inner axis := by
  obtain ⟨middle, rfl⟩ := outerWithin
  obtain ⟨below, rfl⟩ := innerWithin
  simp [divisor, extent_append]

/-- The cell of a container is the one that the cell of a container between
lies in. -/
theorem cell_cell {lineage inner outer : Lineage} (outerWithin : outer <+: inner)
    (innerWithin : inner <+: lineage) (index : List Nat) :
    inner.cell outer (lineage.cell inner index) = lineage.cell outer index := by
  refine List.map_congr_left fun axis member => ?_
  rw [cell, coordinate_map (mem_axes_of_within outerWithin member),
    Nat.div_div_eq_div_mul, divisor_mul outerWithin innerWithin, Nat.mul_comm]

theorem nodup_eraseDups (items : List Nat) : items.eraseDups.Nodup := by
  cases items with
  | nil => simp
  | cons first rest =>
      rw [List.eraseDups_cons, List.nodup_cons]
      exact ⟨by simp, nodup_eraseDups _⟩
termination_by items.length
decreasing_by
  have shorter := rest.length_filter_le fun other => !other == first
  rw [List.length_cons]
  omega

/-- Every axis is listed once, the smallest first. -/
theorem axes_ascending (lineage : Lineage) : lineage.axes.Pairwise (· < ·) := by
  have sorted : lineage.axes.Pairwise (· ≤ ·) := by
    refine (List.pairwise_mergeSort ?_ ?_ _).imp of_decide_eq_true
    · simpa using fun first second third => Nat.le_trans
    · simpa using Nat.le_total
  have distinct : lineage.axes.Nodup :=
    (List.mergeSort_perm _ _).nodup_iff.mpr (nodup_eraseDups _)
  exact (sorted.and distinct).imp fun both => both.1.lt_of_ne both.2

theorem mem_axes {lineage : Lineage} {axis : Nat} :
    axis ∈ lineage.axes ↔ ∃ level ∈ lineage, axis ∈ level.bounds.map Prod.fst := by
  simp only [axes, bounds, List.mem_mergeSort, List.mem_eraseDups, List.map_flatMap,
    List.mem_flatMap]

theorem product_eq_prod (extents : List Nat) : product extents = extents.prod := by
  induction extents with
  | nil => rfl
  | cons first rest hypothesis => rw [product, hypothesis, List.prod_cons]

/-- The indices of a box stay below the extents. -/
theorem mem_indices {shape index : List Nat} :
    index ∈ indices shape ↔ List.Forall₂ (· < ·) index shape := by
  induction shape generalizing index with
  | nil => simp [indices]
  | cons extent rest hypothesis =>
      simp only [indices, List.mem_flatMap, List.mem_range, List.mem_map,
        List.forall₂_cons_right_iff]
      constructor
      · rintro ⟨first, below, others, inside, rfl⟩
        exact ⟨first, others, below, hypothesis.mp inside, rfl⟩
      · rintro ⟨first, others, below, inside, rfl⟩
        exact ⟨first, below, others, hypothesis.mpr inside, rfl⟩

/-- An index of a box has a position for every extent. -/
theorem length_of_mem_indices {shape index : List Nat} (member : index ∈ indices shape) :
    index.length = shape.length :=
  (mem_indices.mp member).length_eq

/-- What bounds the extents of a box bounds the positions in it. -/
theorem lt_of_mem_indices {shape index : List Nat} {bound : Nat}
    (small : ∀ extent ∈ shape, extent ≤ bound) (inside : index ∈ indices shape) :
    ∀ position ∈ index, position < bound := by
  rw [mem_indices] at inside
  induction inside with
  | nil =>
      intro position member
      cases member
  | cons below _ hypothesis =>
      intro position member
      rcases List.mem_cons.mp member with rfl | later
      · exact below.trans_le (small _ List.mem_cons_self)
      · exact hypothesis (fun extent among => small extent (List.mem_cons_of_mem _ among))
          position later

/-- The indices of a box are listed in ascending order. -/
theorem indices_ascending (shape : List Nat) : (indices shape).Pairwise (· < ·) := by
  induction shape with
  | nil => simp [indices]
  | cons extent rest hypothesis =>
      rw [indices, List.pairwise_flatMap]
      constructor
      · intro first _
        rw [List.pairwise_map]
        exact hypothesis.imp fun before => List.cons_lt_cons_self.mpr before
      · refine List.pairwise_lt_range.imp ?_
        intro first second before index member other otherMember
        obtain ⟨_, _, rfl⟩ := List.mem_map.mp member
        obtain ⟨_, _, rfl⟩ := List.mem_map.mp otherMember
        exact List.cons_lt_cons_iff.mpr (.inl before)

theorem lookup_zip {axes index : List Nat} (length : index.length = axes.length) (axis : Nat) :
    (axes.zip index).lookup axis = index[axes.idxOf axis]? := by
  induction axes generalizing index with
  | nil => simp [List.length_eq_zero_iff.mp length]
  | cons first rest hypothesis =>
      cases index with
      | nil => cases length
      | cons position others =>
          rw [List.zip_cons_cons, List.lookup_cons, List.idxOf_cons]
          by_cases same : axis = first
          · simp [same]
          · have later := hypothesis (Nat.succ.inj length)
            simpa [beq_eq_false_iff_ne.mpr same, beq_eq_false_iff_ne.mpr (Ne.symm same)] using later

/-- A coordinate stands in the index where its axis stands among the axes. -/
theorem coordinate_eq {lineage : Lineage} {index : List Nat}
    (length : index.length = lineage.axes.length) (axis : Nat) :
    lineage.coordinate index axis = index[lineage.axes.idxOf axis]?.getD 0 := by
  rw [coordinate, lookup_zip length]

end Lineage

end FieldKernel
