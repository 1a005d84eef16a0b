/-!
# Grids

A grid is a single value, or a row of grids. It is a box if its rows agree at every depth, and then
it has a shape. Boxes are combined value by value; a single value goes with every value of a box,
and a row of one with every row.
-/

namespace FieldKernel

/-- A single value, or a row of grids. -/
inductive Grid (α : Type) where
  | value (value : α)
  | row (rows : List (Grid α))

namespace Grid

/-- What two shapes have in common before they differ. -/
def common : List Nat → List Nat → List Nat
  | left :: lefts, right :: rights => if left = right then left :: common lefts rights else []
  | _, _ => []

/-- The shape that two rows agree on, or else what they agree on before they differ. -/
def agreed (left right : Except (List Nat) (List Nat)) : Except (List Nat) (List Nat) :=
  match left, right with
  | .ok left, .ok right => if left = right then .ok left else .error (common left right)
  | .ok left, .error right => .error (common left right)
  | .error left, .ok right => .error (common left right)
  | .error left, .error right => .error (common left right)

mutual

/-- The shape of a box, or else the part of it that all rows of the grid agree on. -/
def shape {α : Type} : Grid α → Except (List Nat) (List Nat)
  | value _ => .ok []
  | row rows => (rowShape rows).map (rows.length :: ·) |>.mapError (rows.length :: ·)

/-- The shape of the rows of a grid. -/
def rowShape {α : Type} : List (Grid α) → Except (List Nat) (List Nat)
  | [] => .ok []
  | [only] => only.shape
  | first :: rest => agreed first.shape (rowShape rest)

end

/-- The extents on the axes of a box. -/
def extents {α : Type} (grid : Grid α) : List Nat :=
  match grid.shape with
  | .ok shape => shape
  | .error shape => shape

mutual

/-- The values of a grid in the order they are written. -/
def toList {α : Type} : Grid α → List α
  | value only => [only]
  | row rows => rowsToList rows

/-- The values of the rows of a grid in the order they are written. -/
def rowsToList {α : Type} : List (Grid α) → List α
  | [] => []
  | first :: rest => first.toList ++ rowsToList rest

end

mutual

/-- A grid with each value replaced, one after the other. -/
def mapM {m : Type → Type} [Monad m] {α β : Type} (action : α → m β) : Grid α → m (Grid β)
  | value only => value <$> action only
  | row rows => row <$> mapRowsM action rows

/-- The rows of a grid with each value replaced, one after the other. -/
def mapRowsM {m : Type → Type} [Monad m] {α β : Type} (action : α → m β) :
    List (Grid α) → m (List (Grid β))
  | [] => return []
  | first :: rest => do
    let first ← first.mapM action
    let rest ← mapRowsM action rest
    return first :: rest

end

/-- The rows that go together with each other: a row of one goes with every row. -/
def pairs? {α β : Type} (lefts : List α) (rights : List β) : Option (List (α × β)) :=
  match lefts, rights with
  | [left], rights => some (rights.map (left, ·))
  | lefts, [right] => some (lefts.map (·, right))
  | lefts, rights => if lefts.length = rights.length then some (lefts.zip rights) else none

/-- Two boxes of a number of axes combined value by value, if their shapes and values allow it. -/
def zipBoxes? {α β γ : Type} (combine : α → β → Option γ) :
    Nat → Grid α → Grid β → Option (Grid γ)
  | 0, value left, value right => value <$> combine left right
  | axes + 1, row lefts, row rights => do
    let pairs ← pairs? lefts rights
    row <$> pairs.mapM fun (left, right) => zipBoxes? combine axes left right
  | _, _, _ => none

/-- Two boxes combined value by value; a single value goes with every value of the other box. -/
def zip? {α β γ : Type} (combine : α → β → Option γ) (left : Grid α) (right : Grid β) :
    Option (Grid γ) :=
  match left, right with
  | value left, right => right.mapM (combine left)
  | left, value right => left.mapM (combine · right)
  | left, right => zipBoxes? combine left.extents.length left right

/-- The values at all indices of a box that begin with the given ones. -/
def tabulate {α : Type} (valueAt : List Nat → α) : List Nat → List Nat → Grid α
  | [], index => .value (valueAt index)
  | extent :: rest, index =>
    .row ((List.range extent).map fun next => tabulate valueAt rest (index ++ [next]))

def map {α β : Type} (change : α → β) (grid : Grid α) : Grid β :=
  Id.run (grid.mapM fun value => pure (change value))

/-- For every index of a box, its coordinate on the axis at a position. -/
def coordinates (shape : List Nat) (position : Nat) : Grid Nat :=
  tabulate (fun index => index[position]?.getD 0) shape []

/-- Boxes as one box of rows, which have a member from each of them. -/
def stack? {α : Type} : List (Grid α) → Option (Grid (List α))
  | [] => some (.value [])
  | first :: rest => do zip? (fun head tail => some (head :: tail)) first (← stack? rest)

mutual

/-- The indices at which a grid has true values, in ascending order. -/
def trueIndices : Grid Bool → List (List Nat)
  | value true => [[]]
  | value false => []
  | row rows => trueIndicesFrom 0 rows

/-- The indices of true values in rows, the first of which has a given position. -/
def trueIndicesFrom : Nat → List (Grid Bool) → List (List Nat)
  | _, [] => []
  | position, first :: rest =>
    first.trueIndices.map (position :: ·) ++ trueIndicesFrom (position + 1) rest

end

end Grid

end FieldKernel
