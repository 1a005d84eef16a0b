import FieldKernel.Session.Program

/-!
# Access to field contents

Host code reads and writes the elements of placed fields through the program that the layout
belongs to. The storage of a program comes into being at the first access.
-/

namespace FieldKernel.Action

/-- The storage of a program, which needs a sealed layout. -/
def storageOf (program : Nat) : Action Nat := do
  checkAlive program
  let session ← get
  let entry := session.program program
  match entry.storage? with
  | some storage => return storage
  | none =>
    let tree := session.tree entry.tree
    unless tree.isSealed do
      throw (.contract .layoutOpen)
    let storage ← ofExcept (Storage.ofTree entry.tree tree (session.node ⟨entry.tree, 0⟩))
    let id ← addStorage storage
    modifyProgram program fun entry => { entry with storage? := some id }
    report (.detail .program s!"materialized {storage.leaves.length} field(s)")
    return id

/-- Makes a storage for a part of a layout, or one without leaves. -/
def newStorage (top? : Option NodeRef) : Action Nat := do
  match top? with
  | none => addStorage .empty
  | some top =>
    let session ← get
    addStorage (← ofExcept (Storage.ofTree top.tree (session.tree top.tree) (session.node top)))

/-- The leaf of a storage that a field is placed at. -/
def leafIn (storage : Nat) (value : HostValue) : Action Node := do
  let field ← Ask.field value "snode"
  let session ← get
  ofExcept ((session.storage storage).leafOf session.layouts field)

def positions (index : List HostValue) : Ask (List Int) :=
  index.mapM Ask.position

/-- The program that a field's layout belongs to, for an access to an element. -/
def accessed (field : Field) (index : List HostValue) : Action (Nat × List Int) := do
  match (← get).layouts.leafOf? field with
  | none => throw (.contract (.notPlaced field.text))
  | some (tree, leaf) =>
    let program ← programOf ⟨tree, leaf.id⟩
    return (program, ← positions index)

/-- Reads the element at a leaf of a storage. -/
def readLeaf (storage : Nat) (leaf : Node) (index : List Int) : Action Scalar := do
  ofExcept (((← get).storage storage).read leaf.id index)

/-- Writes the element at a leaf of a storage. -/
def writeLeaf (storage : Nat) (leaf : Node) (index : List Int) (value : HostValue) :
    Action Unit := do
  let session ← get
  let (outcome, written) := (session.storage storage).write leaf.id index fun type => do
    (← (Ask.scalars value type).run session.toObjects).element
  setStorage storage written
  ofExcept outcome

def readAt (storage : Nat) (field : HostValue) (index : List HostValue) : Action Scalar := do
  let leaf ← leafIn storage field
  readLeaf storage leaf (← positions index)

def writeAt (storage : Nat) (field : HostValue) (index : List HostValue) (value : HostValue) :
    Action Unit := do
  let leaf ← leafIn storage field
  writeLeaf storage leaf (← positions index) value

def readField (target : HostValue) (index : List HostValue) : Action Scalar := do
  let field ← Ask.field target "val"
  let (program, index) ← accessed field index
  let storage ← storageOf program
  readLeaf storage (← leafIn storage target) index

def writeField (target : HostValue) (index : List HostValue) (value : HostValue) :
    Action Unit := do
  let field ← Ask.field target "set_val"
  let (program, index) ← accessed field index
  let storage ← storageOf program
  writeLeaf storage (← leafIn storage target) index value

def activeAt (storage : Nat) (value : HostValue) (index : List HostValue) : Action Bool := do
  let leaf ← leafIn storage value
  let index ← positions index
  ofExcept (((← get).storage storage).queryActive leaf.id index)

def gridOf (storage : Nat) (value : HostValue) : Action (Grid Scalar) := do
  let leaf ← leafIn storage value
  ofExcept (((← get).storage storage).grid leaf.id)

/-- The indices of the active elements of a field in a storage, and which elements are active. -/
def activeOf (storage : Nat) (value : HostValue) : Action (List (List Nat) × Grid Bool) := do
  let leaf ← leafIn storage value
  let contents := (← get).storage storage
  return (← ofExcept (contents.activeIndices leaf.id), ← ofExcept (contents.activeGrid leaf.id))

end FieldKernel.Action
