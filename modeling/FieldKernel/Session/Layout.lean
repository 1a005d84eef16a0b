import FieldKernel.Layout.Declare
import FieldKernel.Session.State

/-!
# Declaring layouts

Containers and fields are declared below the nodes of a tree until it is sealed. A layout callback
declares below the root, and the tree is sealed after it.
-/

namespace FieldKernel.Action

def reportLayout (message : String) : Action Unit :=
  report (.detail .layout message)

def declare (above : NodeRef) (kind : LevelKind) (axes extents : HostValue) : Action NodeRef := do
  let session ← get
  let (tree, node) ←
    Ask.declare (session.tree above.tree) (session.node above) kind axes extents
  setTree above.tree tree
  reportLayout ("declared " ++ (← Ask.ofHost node.path))
  return ⟨above.tree, node.id⟩

/-- Places one field. A field that is placed already is refused, but the number of the leaf that was
meant for it is used up. -/
def placeField (above : NodeRef) (field : HostValue) : Action Unit := do
  match field.field? with
  | none => throw (.type (.placed (← Ask.listing field)))
  | some field =>
    let session ← get
    let tree := session.tree above.tree
    match session.layouts.leafOf? field with
    | some (_, leaf) =>
      setTree above.tree tree.skip
      throw (.quoting leaf.path fun path => .contract (.alreadyPlaced field.text path))
    | none =>
      let (tree, leaf) := tree.add (session.node above) (.place field) []
      setTree above.tree tree
      reportLayout ("placed " ++ (← Ask.ofHost leaf.path))

/-- Places fields one after the other; those before one that is refused stay placed. -/
def place (above : NodeRef) (fields : List HostValue) : Action Unit := do
  let session ← get
  ofExcept ((session.tree above.tree).checkOpen (session.node above) "place")
  if fields.isEmpty then
    throw (.contract .placeNothing)
  fields.forM (placeField above)

/-- Keeps a tree that was sealed. -/
def setSealed (id : Nat) (tree : Tree) : Action Unit := do
  setTree id tree
  match tree.node? 0 with
  | some root =>
    reportLayout s!"sealed layout with {(tree.walk root).length} nodes"
  | none => return

/-- Seals a tree through any of its nodes. -/
def sealTree (ref : NodeRef) : Action Unit := do
  setSealed ref.tree (← ofExcept ((← get).tree ref.tree).sealed)

/-- Seals a tree through its root. -/
def sealLayout (ref : NodeRef) : Action Unit := do
  let session ← get
  setSealed ref.tree (← ofExcept ((session.tree ref.tree).sealedAt (session.node ref)))

/-- The program that a layout belongs to. -/
def programOf (ref : NodeRef) : Action Nat := do
  match ((← get).tree ref.tree).program? with
  | some program => return program
  | none => throw (.program .detachedTree)

/-- What the indices of a node are divided by to get to the cells of a node above it. Looking for
the latter among the former's ancestors compares it with the root first, and an expression records
that comparison, which has no place for a node. -/
def divisors (leaf : NodeRef) (container : HostValue) : Action (List Nat) := do
  let session ← get
  let root : HostValue := .node ⟨leaf.tree, 0⟩
  let refused : Action (List Nat) := do
    throw (.host (.value (.notAncestor (← Ask.listing container))))
  match container with
  | .node above =>
    let inner := session.node leaf
    let outer := session.node above
    if leaf.tree = above.tree ∧ inner.isUnder outer then
      return inner.lineage.divisors outer.lineage
    else refused
  | .expr _ => throw (.type (.notExpression root.className (← Ask.listing root)))
  | _ => refused

end FieldKernel.Action

namespace FieldKernel.HostT

/-- Runs a callback on a node and then seals the tree, which only the root can be asked for. -/
def declareLayout {m : Type → Type} [Monad m] (root : HostValue)
    (callback : HostValue → HostT m Unit) : HostT m NodeRef := do
  callback root
  lift do
    let root ← Ask.node root "type"
    Action.sealLayout root
    return root

end FieldKernel.HostT
