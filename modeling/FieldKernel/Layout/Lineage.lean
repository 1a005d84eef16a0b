import FieldKernel.Expr

/-!
# Lineages of layout nodes

A layout is a tree of levels: containers bind axes, each with an extent, and a place holds one
field. What a node looks like is decided by its lineage, the levels from the root down to it: the
extent of an axis is the product of what its levels declare, and the index of an element gives the
cell of an enclosing container by dividing by the extents declared below that container.
-/

namespace FieldKernel

/-- What a level of a layout is. -/
inductive LevelKind where
  | root
  /-- All elements of the box exist. -/
  | dense
  /-- A cell exists once something below it has been written. -/
  | pointer
  | place (field : Field)
  deriving DecidableEq, Repr

namespace LevelKind

def name : LevelKind → String
  | root => "root"
  | dense => "dense"
  | pointer => "pointer"
  | place _ => "place"

/-- The field that a level holds. -/
def field? : LevelKind → Option Field
  | place field => some field
  | _ => none

/-- Whether a level holds a field, so that nothing can be declared below it. -/
def isPlace (kind : LevelKind) : Bool :=
  kind.field?.isSome

end LevelKind

/-- One level of a layout: its number in the tree, and the axes it binds with their extents. -/
structure Level where
  id : Nat
  kind : LevelKind
  bounds : List (Nat × Nat)
  deriving DecidableEq, Repr

namespace Level

/-- An axis with its extent. -/
def boundText (bound : Nat × Nat) : Except HostFault String := do
  return "i" ++ (← Text.decimal bound.1) ++ "=" ++ (← Text.decimal bound.2)

def text (level : Level) : Except HostFault String := do
  match level.kind with
  | .root => return "root"
  | .place field => return "place(" ++ field.text ++ ")"
  | kind =>
    return kind.name ++ "(" ++ ",".intercalate (← level.bounds.mapM boundText) ++ ")"

end Level

/-- The levels from the root down to a node. -/
abbrev Lineage := List Level

namespace Lineage

def path (lineage : Lineage) : Except HostFault String := do
  return ".".intercalate (← lineage.mapM Level.text)

def ids (lineage : Lineage) : List Nat :=
  lineage.map Level.id

/-- All axes with extents that are declared in a lineage, from the root down. -/
def bounds (lineage : Lineage) : List (Nat × Nat) :=
  lineage.flatMap Level.bounds

def product : List Nat → Nat
  | [] => 1
  | extent :: rest => extent * product rest

/-- The extent of an axis: the product of the extents that are declared for it. -/
def extent (lineage : Lineage) (axis : Nat) : Nat :=
  product ((lineage.bounds.filter (·.1 = axis)).map (·.2))

/-- The axes that a lineage binds, in ascending order. Indices are given in this order. -/
def axes (lineage : Lineage) : List Nat :=
  (lineage.bounds.map (·.1)).eraseDups.mergeSort (· ≤ ·)

/-- The extents of the axes, in their order. -/
def shape (lineage : Lineage) : List Nat :=
  lineage.axes.map lineage.extent

/-- The lineages of the pointers that a lineage passes through, the outermost first. -/
def pointers (lineage : Lineage) : List Lineage :=
  (List.range lineage.length).filterMap fun position =>
    if lineage[position]?.any (·.kind = .pointer) then some (lineage.take (position + 1))
    else none

/-- What indices of a node are divided by, on an axis, to get to the cells of a container. -/
def divisor (lineage container : Lineage) (axis : Nat) : Nat :=
  extent (lineage.drop container.length) axis

def divisors (lineage container : Lineage) : List Nat :=
  container.axes.map (lineage.divisor container)

/-- The coordinate on an axis of an element that is given by its index. -/
def coordinate (lineage : Lineage) (index : List Nat) (axis : Nat) : Nat :=
  ((lineage.axes.zip index).lookup axis).getD 0

/-- The cell of a container that an element lies in. -/
def cell (lineage container : Lineage) (index : List Nat) : List Nat :=
  container.axes.map fun axis =>
    lineage.coordinate index axis / lineage.divisor container axis

/-- All index tuples of a box, the last position varying fastest. -/
def indices : List Nat → List (List Nat)
  | [] => [[]]
  | extent :: rest =>
    (List.range extent).flatMap fun first => (indices rest).map (first :: ·)

/-- The extent of an axis in a lineage is the one above a node times the one below it. -/
theorem extent_append (above below : Lineage) (axis : Nat) :
    extent (above ++ below) axis = extent above axis * extent below axis := by
  have productAppend (left right : List Nat) :
      product (left ++ right) = product left * product right := by
    induction left with
    | nil => simp [product]
    | cons first rest hypothesis => simp [product, hypothesis, Nat.mul_assoc]
  simp [extent, bounds, productAppend]

/-- Dividing by the divisor leads from the extent of a node to the extent of a container. -/
theorem extent_eq_mul_divisor (container below : Lineage) (axis : Nat) :
    extent (container ++ below) axis =
      extent container axis * divisor (container ++ below) container axis := by
  simp [extent_append, divisor]

end Lineage

end FieldKernel
