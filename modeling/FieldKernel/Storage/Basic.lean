import Std.Data.TreeMap
import FieldKernel.Layout.Tree
import FieldKernel.Scalar.Grid

/-!
# Field storage

A storage holds the elements of the leaves of a sealed layout, and for each pointer of the layout
the cells that exist. An element that was never written is zero. Writing an element makes the cells
of all pointers above it exist, and an element is active if all those cells do.
-/

namespace FieldKernel

/-- The contents of the fields of a layout. -/
structure Storage where
  /-- The layout, unless there is none. -/
  tree? : Option Nat
  leaves : List Node
  pointers : List Node
  /-- The elements that were written, by the leaf and then the index. -/
  written : Std.TreeMap (List Nat) Scalar
  /-- The cells that exist, by the pointer and then the cell's index. -/
  cells : Std.TreeMap (List Nat) Unit

namespace Storage

def empty : Storage :=
  ⟨none, [], [], ∅, ∅⟩

/-- A storage for the leaves at or below a node of a sealed layout, all elements zero. -/
def ofTree (id : Nat) (tree : Tree) (top : Node) : Except Error Storage :=
  if tree.isSealed then
    let nodes := tree.walk top
    .ok ⟨some id, nodes.filter Node.isLeaf, nodes.filter (·.level.kind = .pointer), ∅, ∅⟩
  else .error (.contract .storageOpen)

def leaf? (storage : Storage) (id : Nat) : Option Node :=
  storage.leaves.find? (·.id = id)

/-- The leaf with a given number, which has to exist. -/
def leaf (storage : Storage) (id : Nat) : Except Error Node :=
  match storage.leaf? id with
  | some leaf => .ok leaf
  | none => .error (.host (.lookup (toString id)))

/-- The leaf that holds a field, if the field is placed in this layout. -/
def leafOf (storage : Storage) (layouts : Layouts) (field : Field) : Except Error Node :=
  let foreign := .error (.contract (.foreignField field.text))
  match layouts.leafOf? field with
  | some (tree, node) =>
    match storage.leaf? node.id with
    | some leaf => if storage.tree? = some tree then .ok leaf else foreign
    | none => foreign
  | none => foreign

def get (storage : Storage) (leaf : Node) (index : List Nat) : Scalar :=
  match storage.written[leaf.id :: index]? with
  | some value => value
  | none => (Scalar.zero? leaf.type).getD (.bool false)

def hasCell (storage : Storage) (pointer : Nat) (cell : List Nat) : Bool :=
  storage.cells.contains (pointer :: cell)

/-- Whether all cells exist that an element lies in. -/
def isActive (storage : Storage) (leaf : Node) (index : List Nat) : Bool :=
  leaf.lineage.pointers.all fun pointer =>
    storage.hasCell ((pointer.getLast?.map Level.id).getD 0) (leaf.lineage.cell pointer index)

/-- The error of a position outside the extent of its axis. -/
def outside (path : Except HostFault String) (position : Nat) (index : Int) (extent : Nat) :
    Error :=
  .quoting (Text.decimal index) fun index =>
    .quoting (Text.decimal extent) fun extent =>
      .quoting path fun path => .run (.outOfRange index extent position path)

/-- Checks the positions on the axes one by one. -/
def checkPositions (path : Except HostFault String) :
    Nat → List Int → List Nat → Except Error (List Nat)
  | position, index :: rest, extent :: extents => do
    if index < 0 ∨ (extent : Int) ≤ index then
      throw (outside path position index extent)
    let others ← checkPositions path (position + 1) rest extents
    return index.toNat :: others
  | _, _, _ => return []

/-- The index of an element: one position for each axis, and each within its extent. -/
def checkIndex (leaf : Node) (index : List Int) : Except Error (List Nat) := do
  let shape := leaf.lineage.shape
  if index.length ≠ shape.length then
    throw (.quoting leaf.path fun path => .arity (.access path shape.length index.length))
  checkPositions leaf.path 0 index shape

/-- Reads an element. Inactive elements were never written, so they are zero. -/
def read (storage : Storage) (id : Nat) (index : List Int) : Except Error Scalar := do
  let leaf ← storage.leaf id
  return storage.get leaf (← checkIndex leaf index)

def put (storage : Storage) (leaf : Node) (index : List Nat) (value : Scalar) : Storage :=
  { storage with written := storage.written.insert (leaf.id :: index) value }

def addCell (storage : Storage) (pointer : Nat) (cell : List Nat) : Storage :=
  { storage with cells := storage.cells.insert (pointer :: cell) () }

/-- The number of the node that a lineage leads to. -/
def target (lineage : Lineage) : Nat :=
  (lineage.getLast?.map Level.id).getD 0

/-- Whether the storage keeps the cells of a pointer. -/
def knows (storage : Storage) (pointer : Lineage) : Bool :=
  storage.pointers.any (·.id = target pointer)

/-- Makes the cells of pointers exist that an element lies in, the outermost first. -/
def activate (leaf : Node) (index : List Nat) :
    List Lineage → Storage → Except Error Unit × Storage
  | [], storage => (.ok (), storage)
  | pointer :: rest, storage =>
    if storage.knows pointer then
      activate leaf index rest
        (storage.addCell (target pointer) (leaf.lineage.cell pointer index))
    else (.error (.host (.lookup (toString (target pointer)))), storage)

/-- Writes an element: the value is converted before anything changes. -/
def write (storage : Storage) (id : Nat) (index : List Int)
    (convert : DataType → Except Error Scalar) : Except Error Unit × Storage :=
  let prepared : Except Error (Node × List Nat × Scalar) := do
    let leaf ← storage.leaf id
    let index ← checkIndex leaf index
    return (leaf, index, ← convert leaf.type)
  match prepared with
  | .error error => (.error error, storage)
  | .ok (leaf, index, value) =>
    activate leaf index leaf.lineage.pointers (storage.put leaf index value)

/-- Checks that the cells of all pointers above a leaf are kept. -/
def checkPointers (storage : Storage) (leaf : Node) : Except Error Unit :=
  match leaf.lineage.pointers.find? (fun pointer => !storage.knows pointer) with
  | none => .ok ()
  | some pointer => .error (.host (.lookup (toString (target pointer))))

/-- Whether an element is active. -/
def queryActive (storage : Storage) (id : Nat) (index : List Int) : Except Error Bool := do
  let leaf ← storage.leaf id
  let index ← checkIndex leaf index
  storage.checkPointers leaf
  return storage.isActive leaf index

/-- The cells of a pointer that the elements of a leaf lie in, one box for each axis of the pointer:
the coordinates of all elements on that axis, divided by the extent of a cell. -/
def cellGrids (leaf : Node) (pointer : Lineage) : List (Grid Nat) :=
  pointer.axes.map fun axis =>
    (Grid.coordinates leaf.lineage.shape (leaf.lineage.axes.idxOf axis)).map
      (· / leaf.lineage.divisor pointer axis)

/-- Whether the cells of a pointer exist that the elements of a leaf lie in. A pointer without axes
has a single cell, in which all elements lie. -/
def cellMask? (storage : Storage) (leaf : Node) (pointer : Lineage) : Option (Grid Bool) :=
  (Grid.stack? (cellGrids leaf pointer)).map (·.map (storage.hasCell (target pointer)))

/-- The elements of a box that exist in the cells of some pointers too. -/
def narrow? (storage : Storage) (leaf : Node) : List Lineage → Grid Bool → Option (Grid Bool)
  | [], active => some active
  | pointer :: rest, active => do
    let mask ← storage.cellMask? leaf pointer
    storage.narrow? leaf rest (← Grid.zip? (fun one other => some (one && other)) active mask)

/-- Which elements of a leaf are active, computed for all elements at once. -/
def activeGrid (storage : Storage) (id : Nat) : Except Error (Grid Bool) := do
  let leaf ← storage.leaf id
  storage.checkPointers leaf
  let all := Grid.tabulate (fun _ => true) leaf.lineage.shape []
  match storage.narrow? leaf leaf.lineage.pointers all with
  | some active => return active
  | none => throw (.host (.operand .scalars))

/-- The indices of the active elements of a leaf, in ascending order. -/
def activeIndices (storage : Storage) (id : Nat) : Except Error (List (List Nat)) := do
  return (← storage.activeGrid id).trueIndices

def grid (storage : Storage) (id : Nat) : Except Error (Grid Scalar) := do
  let leaf ← storage.leaf id
  return Grid.tabulate (storage.get leaf) leaf.lineage.shape []

end Storage

end FieldKernel
