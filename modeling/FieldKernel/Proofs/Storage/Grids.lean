import FieldKernel.Proofs.Layout.Lineages
import FieldKernel.Storage.Basic

/-!
# Queries of whole grids

The active elements of a leaf are found for all elements at once, by combining
boxes of coordinates and boxes of cells.  Every box that is made on the way is
the table of a function of the index, or a single value where the function is
constant.  Reading the tables back, the whole grid says of each element what
is said of the element alone.
-/

namespace FieldKernel

namespace Grid

section Tables

variable {α β γ : Type} {valueAt : List Nat → α} {shape index : List Nat}

theorem tabulate_congr {otherAt : List Nat → α}
    (same : ∀ rest, rest.length = shape.length →
      valueAt (index ++ rest) = otherAt (index ++ rest)) :
    tabulate valueAt shape index = tabulate otherAt shape index := by
  induction shape generalizing index with
  | nil =>
      have here := same [] rfl
      rw [List.append_nil] at here
      rw [tabulate, tabulate, here]
  | cons extent rest hypothesis =>
      rw [tabulate, tabulate]
      refine congrArg row (List.map_congr_left fun next _ => hypothesis ?_)
      intro later length
      simpa using same (next :: later) (by simp [length])

theorem mapRowsM_map {m : Type → Type} [Monad m] [LawfulMonad m] {ι : Type}
    {action : α → m β} {before : ι → Grid α} {after : ι → Grid β} (items : List ι)
    (each : ∀ item, (before item).mapM action = pure (after item)) :
    mapRowsM action (items.map before) = pure (items.map after) := by
  induction items with
  | nil => rfl
  | cons item rest hypothesis => simp [mapRowsM, each, hypothesis]

/-- The values of a table are replaced where they stand. -/
theorem mapM_tabulate {m : Type → Type} [Monad m] [LawfulMonad m] (change : α → β) :
    (tabulate valueAt shape index).mapM (fun value => (pure (change value) : m β)) =
      pure (tabulate (fun index => change (valueAt index)) shape index) := by
  induction shape generalizing index with
  | nil => simp [tabulate, mapM]
  | cons extent rest hypothesis =>
      rw [tabulate, mapM, mapRowsM_map _ fun next => hypothesis]
      simp [tabulate]

theorem map_tabulate (change : α → β) :
    (tabulate valueAt shape index).map change =
      tabulate (fun index => change (valueAt index)) shape index := by
  rw [map, mapM_tabulate]
  rfl

/-- The extents up to the first axis without elements, which are those that can be seen. -/
def seen : List Nat → List Nat
  | [] => []
  | 0 :: _ => [0]
  | (extent + 1) :: rest => (extent + 1) :: seen rest

theorem rowShape_of_alike {rows : List (Grid α)} {common : List Nat} (nonempty : rows ≠ [])
    (alike : ∀ row ∈ rows, row.shape = .ok common) : rowShape rows = .ok common := by
  induction rows with
  | nil => exact absurd rfl nonempty
  | cons first rest hypothesis =>
      cases rest with
      | nil => simpa [rowShape] using alike
      | cons second others =>
          have later : rowShape (second :: others) = .ok common :=
            hypothesis (by simp) fun row member => alike row (List.mem_cons_of_mem _ member)
          simp [rowShape, alike first, later, agreed]

theorem shape_tabulate : (tabulate valueAt shape index).shape = .ok (seen shape) := by
  induction shape generalizing index with
  | nil => rfl
  | cons extent rest hypothesis =>
      cases extent with
      | zero => rfl
      | succ extent =>
          have rows : ∀ row ∈ (List.range (extent + 1)).map fun next =>
              tabulate valueAt rest (index ++ [next]), row.shape = .ok (seen rest) := by
            intro row member
            obtain ⟨next, _, rfl⟩ := List.mem_map.mp member
            exact hypothesis
          rw [tabulate, Grid.shape, rowShape_of_alike (by simp) rows]
          simp [seen, Except.map, Except.mapError]

theorem pairs?_map {ι : Type} (items : List ι) (left : ι → α) (right : ι → β) :
    pairs? (items.map left) (items.map right) =
      some (items.map fun item => (left item, right item)) := by
  match items with
  | [] => rfl
  | [_] => rfl
  | _ :: _ :: _ => simp [pairs?, List.zip_map']

/-- Two tables are combined to a table. -/
theorem zipBoxes?_tabulate {otherAt : List Nat → β} (combine : α → β → γ) :
    zipBoxes? (fun one other => some (combine one other)) (seen shape).length
        (tabulate valueAt shape index) (tabulate otherAt shape index) =
      some (tabulate (fun index => combine (valueAt index) (otherAt index)) shape index) := by
  induction shape generalizing index with
  | nil => rfl
  | cons extent rest hypothesis =>
      cases extent with
      | zero => rfl
      | succ extent =>
          have rows : ((List.range (extent + 1)).mapM fun next =>
              zipBoxes? (fun one other => some (combine one other)) (seen rest).length
                (tabulate valueAt rest (index ++ [next]))
                (tabulate otherAt rest (index ++ [next]))) =
              some ((List.range (extent + 1)).map fun next =>
                tabulate (fun index => combine (valueAt index) (otherAt index)) rest
                  (index ++ [next])) := by
            simp only [hypothesis]
            exact List.mapM_pure
          simp only [seen, List.length_cons, tabulate, zipBoxes?, pairs?_map, bind,
            Option.bind_some, List.mapM_map, Function.comp_def, rows]
          rfl

end Tables

section Covers

variable {α β γ : Type} {valueAt : List Nat → α} {shape : List Nat}

/-- A grid has certain values at the indices of a shape: it is their table, or
a single value that they all are. -/
def Covers (grid : Grid α) (shape : List Nat) (valueAt : List Nat → α) : Prop :=
  grid = tabulate valueAt shape [] ∨ ∃ only, grid = value only ∧ ∀ index, valueAt index = only

theorem Covers.map {grid : Grid α} (covers : grid.Covers shape valueAt) (change : α → β) :
    (grid.map change).Covers shape fun index => change (valueAt index) := by
  rcases covers with rfl | ⟨only, rfl, constant⟩
  · exact .inl (map_tabulate change)
  · exact .inr ⟨change only, rfl, fun index => congrArg change (constant index)⟩

/-- A table goes with every grid that covers its shape. -/
theorem Covers.zip? {otherAt : List Nat → β} {grid : Grid β} (covers : grid.Covers shape otherAt)
    (combine : α → β → γ) :
    Grid.zip? (fun one other => some (combine one other)) (tabulate valueAt shape []) grid =
      some (tabulate (fun index => combine (valueAt index) (otherAt index)) shape []) := by
  rcases covers with rfl | ⟨only, rfl, constant⟩
  · cases shape with
    | nil => rfl
    | cons extent rest =>
        have box := @zipBoxes?_tabulate α β γ valueAt (extent :: rest) [] otherAt combine
        rw [← box]
        simp only [tabulate, Grid.zip?, extents]
        rw [← tabulate, shape_tabulate]
  · simp only [constant]
    cases shape with
    | nil => rfl
    | cons extent rest => exact mapM_tabulate (m := Option) fun one => combine one only

/-- Tables that are stacked give rows with a value from each of them. -/
theorem stack?_covers {ι : Type} (items : List ι) (tableOf : ι → List Nat → α) :
    ∃ stacked, stack? (items.map fun item => tabulate (tableOf item) shape []) = some stacked ∧
      stacked.Covers shape fun index => items.map (tableOf · index) := by
  induction items with
  | nil => exact ⟨value [], rfl, .inr ⟨[], rfl, fun _ => rfl⟩⟩
  | cons item rest hypothesis =>
      obtain ⟨stacked, found, covers⟩ := hypothesis
      refine ⟨_, ?_, .inl rfl⟩
      rw [List.map_cons, stack?, found]
      exact covers.zip? List.cons

end Covers

section Indices

variable {holds : List Nat → Bool}

theorem trueIndicesFrom_map (tables : Nat → Grid Bool) (start count : Nat) :
    trueIndicesFrom start ((List.range' start count).map tables) =
      (List.range' start count).flatMap fun next =>
        (tables next).trueIndices.map (next :: ·) := by
  induction count generalizing start with
  | zero => rfl
  | succ count hypothesis =>
      rw [List.range'_succ, List.map_cons, trueIndicesFrom, hypothesis, List.flatMap_cons]

/-- The true values of a table stand at the indices where the function holds. -/
theorem trueIndices_tabulate {shape index : List Nat} :
    (tabulate holds shape index).trueIndices =
      (Lineage.indices shape).filter fun rest => holds (index ++ rest) := by
  induction shape generalizing index with
  | nil =>
      rw [tabulate, Lineage.indices, List.filter_singleton, List.append_nil]
      cases holds index with
      | false => rfl
      | true => rfl
  | cons extent rest hypothesis =>
      rw [tabulate, trueIndices, List.range_eq_range', trueIndicesFrom_map, Lineage.indices,
        List.range_eq_range', List.filter_flatMap]
      refine List.flatMap_congr fun next _ => ?_
      rw [hypothesis, List.filter_map]
      simp [Function.comp_def]

end Indices

/-- The value of a grid at an index. -/
def get? {α : Type} : List Nat → Grid α → Option α
  | [], value only => some only
  | next :: rest, row rows => rows[next]?.bind (get? rest)
  | _, _ => none

/-- A table has the values of its function. -/
theorem get?_tabulate {α : Type} {valueAt : List Nat → α} {shape index rest : List Nat}
    (inside : rest ∈ Lineage.indices shape) :
    (tabulate valueAt shape index).get? rest = some (valueAt (index ++ rest)) := by
  rw [Lineage.mem_indices] at inside
  induction inside generalizing index with
  | nil => simp [tabulate, get?]
  | cons below _ hypothesis => simp [tabulate, get?, below, hypothesis]

end Grid

namespace Storage

variable {storage : Storage} {leaf : Node}

/-- Whether the cell of a pointer exists that an element lies in. -/
def inCell (storage : Storage) (leaf : Node) (pointer : Lineage) (index : List Nat) : Bool :=
  storage.hasCell (target pointer)
    (pointer.axes.map fun axis =>
      index[leaf.lineage.axes.idxOf axis]?.getD 0 / leaf.lineage.divisor pointer axis)

theorem cellMask?_covers (storage : Storage) (leaf : Node) (pointer : Lineage) :
    ∃ mask, storage.cellMask? leaf pointer = some mask ∧
      mask.Covers leaf.lineage.shape (storage.inCell leaf pointer) := by
  have pieces : cellGrids leaf pointer = pointer.axes.map fun axis =>
      Grid.tabulate (fun index => index[leaf.lineage.axes.idxOf axis]?.getD 0 /
        leaf.lineage.divisor pointer axis) leaf.lineage.shape [] := by
    simp only [cellGrids, Grid.coordinates, Grid.map_tabulate]
  obtain ⟨stacked, found, covers⟩ := Grid.stack?_covers pointer.axes fun axis (index : List Nat) =>
    index[leaf.lineage.axes.idxOf axis]?.getD 0 / leaf.lineage.divisor pointer axis
  rw [← pieces] at found
  refine ⟨_, ?_, covers.map (storage.hasCell (target pointer))⟩
  rw [cellMask?, found]
  rfl

/-- What is left of a table after some pointers. -/
theorem narrow?_tabulate (pointers : List Lineage) (holds : List Nat → Bool) :
    storage.narrow? leaf pointers (Grid.tabulate holds leaf.lineage.shape []) =
      some (Grid.tabulate
        (fun index => holds index && pointers.all fun pointer => storage.inCell leaf pointer index)
        leaf.lineage.shape []) := by
  induction pointers generalizing holds with
  | nil => simp [narrow?]
  | cons pointer rest hypothesis =>
      obtain ⟨mask, found, covers⟩ := storage.cellMask?_covers leaf pointer
      simp only [narrow?, found, bind, Option.bind_some, covers.zip? (· && ·), hypothesis,
        List.all_cons, Bool.and_assoc]

theorem all_inCell_eq {index : List Nat} (length : index.length = leaf.lineage.axes.length) :
    leaf.lineage.pointers.all (fun pointer => storage.inCell leaf pointer index) =
      storage.isActive leaf index := by
  simp only [isActive, inCell, Lineage.cell, Lineage.coordinate_eq length]
  rfl

/-- The grid of the active elements is the table of what is asked of one. -/
theorem activeGrid_eq (id : Nat) :
    storage.activeGrid id = (do
      let leaf ← storage.leaf id
      storage.checkPointers leaf
      return Grid.tabulate (storage.isActive leaf) leaf.lineage.shape []) := by
  refine bind_congr fun leaf => bind_congr fun _ => ?_
  simp only [narrow?_tabulate]
  refine congrArg pure (Grid.tabulate_congr fun index length => ?_)
  rw [List.nil_append, Bool.true_and, all_inCell_eq (by simpa [Lineage.shape] using length)]

/-- The active elements are those of the whole box that are active. -/
theorem activeIndices_eq (id : Nat) :
    storage.activeIndices id = (do
      let leaf ← storage.leaf id
      storage.checkPointers leaf
      return (Lineage.indices leaf.lineage.shape).filter (storage.isActive leaf)) := by
  simp only [activeIndices, activeGrid_eq, bind_assoc, pure_bind, Grid.trueIndices_tabulate,
    List.nil_append]

end Storage

end FieldKernel
