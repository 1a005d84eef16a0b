import FieldKernel.Proofs.Layout.Routes

/-!
# How elements lie in cells

The index of an element, divided by the divisors of a container above it, is the
index of a cell.  The cells of a container are all of one size: along each axis
a cell covers as many positions as the divisor says, and an axis that the
container does not bind lies in the cell as a whole.
-/

namespace FieldKernel

namespace Lineage

/-- The cell of a container that an element lies in, by divisors that are
given: each coordinate on an axis of the container is divided by its own. -/
def dividedBy (lineage container : Lineage) (divisors index : List Nat) : List Nat :=
  List.zipWith (· / ·) (container.axes.map (lineage.coordinate index)) divisors

theorem dividedBy_divisors (lineage container : Lineage) (index : List Nat) :
    lineage.dividedBy container (lineage.divisors container) index =
      lineage.cell container index := by
  rw [dividedBy, divisors, List.zipWith_map_left, List.zipWith_map_right, List.zipWith_self]
  rfl

/-- Divisors lead from the elements of a lineage exactly onto the cells of a
container. -/
structure Tiles (lineage container : Lineage) (divisors : List Nat) : Prop where
  length : divisors.length = container.axes.length
  positive : ∀ divisor ∈ divisors, 0 < divisor
  extents : container.axes.map lineage.extent =
    List.zipWith (· * ·) container.shape divisors
  /-- The cell of an element is within the container. -/
  inside : ∀ index ∈ indices lineage.shape,
    lineage.dividedBy container divisors index ∈ indices container.shape
  /-- The elements are shared out evenly among the cells. -/
  shares : container.shape.prod ∣ lineage.shape.prod
  even : ∀ cell ∈ indices container.shape,
    (indices lineage.shape).countP (lineage.dividedBy container divisors · = cell) =
      lineage.shape.prod / container.shape.prod

/-- The indices of a box with a condition on each position are as many as the
positions that meet theirs, multiplied. -/
theorem countP_indices (axes : List Nat) (extent : Nat → Nat) (meets : Nat → Nat → Bool) :
    (indices (axes.map extent)).countP
        (fun index => (axes.zip index).all fun entry => meets entry.1 entry.2) =
      (axes.map fun axis => (List.range (extent axis)).countP (meets axis)).prod := by
  induction axes with
  | nil => rfl
  | cons axis rest hypothesis =>
      have inner (first : Nat) :
          (indices (rest.map extent)).countP (fun index =>
              ((axis :: rest).zip (first :: index)).all fun entry => meets entry.1 entry.2) =
            if meets axis first then
              (rest.map fun axis => (List.range (extent axis)).countP (meets axis)).prod
            else 0 := by
        rw [← hypothesis]
        cases met : meets axis first with
        | true =>
            rw [if_pos rfl]
            refine List.countP_congr fun index _ => ?_
            rw [List.zip_cons_cons, List.all_cons, met, Bool.true_and]
        | false =>
            rw [if_neg Bool.false_ne_true]
            refine List.countP_eq_zero.mpr fun index _ => ?_
            rw [List.zip_cons_cons, List.all_cons, met, Bool.false_and]
            exact Bool.false_ne_true
      have sums (positions : List Nat) (size : Nat) :
          (positions.map fun first => if meets axis first then size else 0).sum =
            positions.countP (meets axis) * size := by
        induction positions with
        | nil => simp
        | cons first others hypothesis =>
            rw [List.map_cons, List.sum_cons, hypothesis, List.countP_cons]
            split
            · rw [Nat.succ_mul, Nat.add_comm]
            · rw [Nat.zero_add, Nat.add_zero]
      rw [List.map_cons, indices, List.countP_flatMap, List.map_cons, List.prod_cons, ← sums]
      refine congrArg List.sum (List.map_congr_left fun first _ => ?_)
      rw [Function.comp_apply, List.countP_map]
      exact inner first

/-- Dividing by the width of the cells, as many positions as a cell is wide lead
to each cell. -/
theorem countP_range_div {extent divisor cell : Nat} (positive : 0 < divisor)
    (inside : cell < extent) :
    (List.range (extent * divisor)).countP (· / divisor = cell) = divisor := by
  have interval : (Finset.range (extent * divisor)).filter (· / divisor = cell) =
      Finset.Ico (cell * divisor) ((cell + 1) * divisor) := by
    ext position
    rw [Finset.mem_filter, Finset.mem_range, Finset.mem_Ico, Nat.div_eq_iff positive]
    have within : (cell + 1) * divisor ≤ extent * divisor :=
      Nat.mul_le_mul_right divisor inside
    rw [Nat.succ_mul] at within ⊢
    omega
  calc
    (List.range (extent * divisor)).countP (· / divisor = cell) =
        ((Finset.range (extent * divisor)).filter (· / divisor = cell)).card := by
      rw [List.countP_eq_length_filter]
      rfl
    _ = divisor := by
      rw [interval, Nat.card_Ico, Nat.succ_mul, Nat.add_sub_cancel_left]

section

variable {lineage container : Lineage} {index : List Nat} {axis : Nat}

/-- An axis that is not bound does not extend. -/
theorem extent_of_unbound (unbound : axis ∉ lineage.axes) : lineage.extent axis = 1 := by
  have none : lineage.bounds.filter (·.1 = axis) = [] := by
    refine List.filter_eq_nil_iff.mpr fun bound member same => unbound ?_
    obtain ⟨level, among, bounds⟩ := List.mem_flatMap.mp member
    exact mem_axes.mpr ⟨level, among, List.mem_map.mpr ⟨bound, bounds, of_decide_eq_true same⟩⟩
  rw [extent, none]
  rfl

theorem extent_mul_divisor (within : container <+: lineage) (axis : Nat) :
    lineage.extent axis = container.extent axis * lineage.divisor container axis := by
  obtain ⟨below, rfl⟩ := within
  exact extent_eq_mul_divisor container below axis

/-- An index consists of its coordinates. -/
theorem map_coordinate (length : index.length = lineage.axes.length) :
    lineage.axes.map (lineage.coordinate index) = index := by
  have distinct : lineage.axes.Nodup := lineage.axes_ascending.imp Nat.ne_of_lt
  refine List.ext_getElem (by rw [List.length_map, length]) fun position inside bound => ?_
  rw [List.getElem_map, coordinate_eq length, distinct.idxOf_getElem,
    List.getElem?_eq_getElem bound]
  rfl

theorem coordinate_of_unbound (length : index.length = lineage.axes.length)
    (unbound : axis ∉ lineage.axes) : lineage.coordinate index axis = 0 := by
  rw [coordinate_eq length, List.idxOf_eq_length unbound, ← length,
    List.getElem?_eq_none (Nat.le_refl _)]
  rfl

/-- The coordinates of an element stay below the extents. -/
theorem coordinate_lt (inside : index ∈ indices lineage.shape) (axis : Nat) :
    lineage.coordinate index axis < lineage.extent axis := by
  have length : index.length = lineage.axes.length := by
    rw [length_of_mem_indices inside, shape, List.length_map]
  by_cases bound : axis ∈ lineage.axes
  · rw [mem_indices, ← map_coordinate length, shape, List.forall₂_map_left_iff,
      List.forall₂_map_right_iff, List.forall₂_same] at inside
    exact inside axis bound
  · rw [coordinate_of_unbound length bound, extent_of_unbound bound]
    exact Nat.one_pos

theorem coordinate_div_lt (within : container <+: lineage)
    (inside : index ∈ indices lineage.shape) (axis : Nat) :
    lineage.coordinate index axis / lineage.divisor container axis < container.extent axis := by
  apply Nat.div_lt_of_lt_mul
  rw [Nat.mul_comm, ← extent_mul_divisor within]
  exact coordinate_lt inside axis

theorem cell_mem_indices (within : container <+: lineage)
    (inside : index ∈ indices lineage.shape) :
    lineage.cell container index ∈ indices container.shape := by
  rw [mem_indices, cell, shape, List.forall₂_map_left_iff, List.forall₂_map_right_iff,
    List.forall₂_same]
  exact fun axis _ => coordinate_div_lt within inside axis

/-- An element lies in a cell if it does so along every axis of its own: along
an axis that the container does not bind, there is one cell only. -/
theorem cell_eq_iff (within : container <+: lineage) (inside : index ∈ indices lineage.shape)
    {cell : List Nat} (among : cell ∈ indices container.shape) :
    lineage.cell container index = cell ↔
      ∀ axis ∈ lineage.axes, lineage.coordinate index axis / lineage.divisor container axis =
        container.coordinate cell axis := by
  have length : cell.length = container.axes.length := by
    rw [length_of_mem_indices among, shape, List.length_map]
  have eachAxis : lineage.cell container index = cell ↔
      ∀ axis ∈ container.axes, lineage.coordinate index axis / lineage.divisor container axis =
        container.coordinate cell axis := by
    conv_lhs => rw [← map_coordinate length]
    exact List.map_inj_left
  rw [eachAxis]
  constructor
  · intro agree axis _
    by_cases bound : axis ∈ container.axes
    · exact agree axis bound
    · have single := coordinate_div_lt within inside axis
      rw [extent_of_unbound bound] at single
      rw [coordinate_of_unbound length bound]
      exact Nat.lt_one_iff.mp single
  · exact fun agree axis bound => agree axis (mem_axes_of_within within bound)

/-- A cell holds as many elements as its width along every axis allows. -/
theorem countP_cell (within : container <+: lineage)
    (positive : ∀ axis, 0 < lineage.divisor container axis) {cell : List Nat}
    (among : cell ∈ indices container.shape) :
    (indices lineage.shape).countP (lineage.cell container · = cell) =
      (lineage.axes.map (lineage.divisor container)).prod := by
  let meets (axis position : Nat) : Bool :=
    position / lineage.divisor container axis = container.coordinate cell axis
  have condition : ∀ index ∈ indices lineage.shape,
      decide (lineage.cell container index = cell) =
        (lineage.axes.zip index).all fun entry => meets entry.1 entry.2 := by
    intro index inside
    have length : index.length = lineage.axes.length := by
      rw [length_of_mem_indices inside, shape, List.length_map]
    rw [Bool.eq_iff_iff, decide_eq_true_iff, cell_eq_iff within inside among, List.all_eq_true]
    have entries : lineage.axes.zip index =
        lineage.axes.map fun axis => (axis, lineage.coordinate index axis) := by
      conv_lhs => rw [← map_coordinate length]
      rw [List.zip_eq_zipWith, List.zipWith_map_right, List.zipWith_self]
    rw [entries]
    simp only [List.mem_map, forall_exists_index, and_imp, forall_apply_eq_imp_iff₂, meets,
      decide_eq_true_iff]
  calc
    (indices lineage.shape).countP (lineage.cell container · = cell) =
        (indices lineage.shape).countP
          fun index => (lineage.axes.zip index).all fun entry => meets entry.1 entry.2 :=
      List.countP_congr fun index inside => by rw [condition index inside]
    _ = (lineage.axes.map fun axis =>
          (List.range (lineage.extent axis)).countP (meets axis)).prod :=
      countP_indices lineage.axes lineage.extent meets
    _ = (lineage.axes.map (lineage.divisor container)).prod := by
      refine congrArg List.prod (List.map_congr_left fun axis _ => ?_)
      rw [extent_mul_divisor within]
      exact countP_range_div (positive axis) (coordinate_lt among axis)

/-- The extents of a container multiply to the same over the axes below it,
since it does not extend along the others. -/
theorem prod_extents (within : container <+: lineage) :
    (lineage.axes.map container.extent).prod = container.shape.prod := by
  have distinct (lineage : Lineage) : lineage.axes.Nodup :=
    lineage.axes_ascending.imp Nat.ne_of_lt
  rw [shape, ← List.prod_toFinset _ (distinct lineage), ← List.prod_toFinset _ (distinct container)]
  symm
  apply Finset.prod_subset
  · intro axis bound
    rw [List.mem_toFinset] at bound ⊢
    exact mem_axes_of_within within bound
  · intro axis _ unbound
    rw [List.mem_toFinset] at unbound
    exact extent_of_unbound unbound

theorem prod_shape (within : container <+: lineage) :
    lineage.shape.prod =
      container.shape.prod * (lineage.axes.map (lineage.divisor container)).prod := by
  rw [← prod_extents within, ← List.prod_map_mul, shape]
  exact congrArg List.prod (List.map_congr_left fun axis _ => extent_mul_divisor within axis)

theorem divisor_pos (within : container <+: lineage)
    (positive : ∀ axis, 0 < lineage.extent axis) (axis : Nat) :
    0 < lineage.divisor container axis := by
  have reaches := positive axis
  rw [extent_mul_divisor within] at reaches
  exact Nat.pos_of_mul_pos_left reaches

/-- The divisors of a container above lead exactly onto its cells. -/
theorem tiles (within : container <+: lineage) (positive : ∀ axis, 0 < lineage.extent axis) :
    lineage.Tiles container (lineage.divisors container) := by
  have wide := divisor_pos within positive
  constructor
  case length => exact List.length_map ..
  case positive =>
      intro divisor member
      obtain ⟨axis, _, rfl⟩ := List.mem_map.mp member
      exact wide axis
  case extents =>
      rw [shape, divisors, List.zipWith_map_left, List.zipWith_map_right, List.zipWith_self]
      exact List.map_congr_left fun axis _ => extent_mul_divisor within axis
  case inside =>
      intro index inside
      rw [dividedBy_divisors]
      exact cell_mem_indices within inside
  case shares => exact ⟨_, prod_shape within⟩
  case even =>
      intro cell among
      have cells : 0 < container.shape.prod := by
        refine List.prod_pos fun extent member => ?_
        obtain ⟨axis, _, rfl⟩ := List.mem_map.mp member
        have reaches := positive axis
        rw [extent_mul_divisor within] at reaches
        exact Nat.pos_of_mul_pos_right reaches
      simp only [dividedBy_divisors]
      rw [countP_cell within wide among, prod_shape within, Nat.mul_div_cancel_left _ cells]

end

end Lineage

end FieldKernel
