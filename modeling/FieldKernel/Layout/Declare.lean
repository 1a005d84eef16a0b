import FieldKernel.Objects

/-!
# What declarations bind

A container is declared with axes and extents as host code gives them: as single values or as rows.
As many extents as axes are needed, and no axis may occur twice.
-/

namespace FieldKernel.Ask

/-- An axis is given by its number. -/
def axisNumber (value : HostValue) : Ask Nat := do
  let refused : Ask Nat := do throw (.type (.axis (← listing value)))
  match value with
  | .int _ index => if 0 ≤ index then return index.toNat else refused
  | _ => refused

/-- An axis is given by its number or by an axis value. -/
def axis (value : HostValue) : Ask Nat :=
  match value with
  | .axis _ index => pure index
  | value => axisNumber value

/-- A row of values, where a single value stands for a row of one. -/
def rowOf : HostValue → List HostValue
  | .list _ items => items
  | .tuple _ items => items
  | value => [value]

/-- The listing of a row as a tuple; a tuple is that already, and can come up inside itself. -/
def rowListing (value : HostValue) : Ask String := do
  match value with
  | .tuple _ _ => listing value
  | value => return Listing.row (← (rowOf value).mapM listing)

/-- An extent is a positive number. -/
def extentOf? : HostValue → Option Nat
  | .int _ extent => if 0 < extent then some extent.toNat else none
  | _ => none

/-- The axes with extents that a declaration binds. -/
def bounds (container : String) (axes extents : HostValue) : Ask (List (Nat × Nat)) := do
  let axes ← (rowOf axes).mapM axis
  let given := rowOf extents
  if axes.length ≠ given.length then
    throw (.contract (.axisCount container axes.length given.length))
  if ¬axes.Nodup then
    let axes ← ofHost (axes.mapM fun (axis : Nat) => Text.decimal axis)
    throw (.contract (.repeatedAxis container (Listing.row axes)))
  match given.mapM extentOf? with
  | some extents => return axes.zip extents
  | none => throw (.contract (.extents container (← rowListing extents)))

/-- A tree with a container declared below a node. -/
def declare (tree : Tree) (above : Node) (kind : LevelKind) (axes extents : HostValue) :
    Ask (Tree × Node) := do
  ofExcept (tree.checkOpen above ("declare " ++ kind.name))
  return tree.add above kind (← bounds kind.name axes extents)

end FieldKernel.Ask
