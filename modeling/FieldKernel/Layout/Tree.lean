import FieldKernel.Error
import FieldKernel.Layout.Lineage

/-!
# Layout trees

A tree numbers its nodes in the order they are declared and keeps the lineage of each. Nothing of
a declared node changes later: declaring appends nodes, and sealing ends declaring. A field that
is refused a place has used up a number all the same. The order of a walk is not kept but follows
from the lineages: every node comes before what lies below it, and siblings in order of declaration.
-/

namespace FieldKernel

/-- A declared node: its own level below those of its ancestors. -/
structure Node where
  above : Lineage
  level : Level
  deriving DecidableEq, Repr

namespace Node

/-- The levels from the root down to the node. -/
def lineage (node : Node) : Lineage :=
  node.above ++ [node.level]

def id (node : Node) : Nat :=
  node.level.id

def parent? (node : Node) : Option Nat :=
  node.above.getLast?.map Level.id

def depth (node : Node) : Nat :=
  node.above.length

def path (node : Node) : Except HostFault String :=
  node.lineage.path

def text (node : Node) : Except HostFault String := do
  return "SNode#" ++ toString node.id ++ "<" ++ (← node.path) ++ ">"

def field? (node : Node) : Option Field :=
  node.level.kind.field?

def isLeaf (node : Node) : Bool :=
  node.level.kind.isPlace

/-- The type of the elements at a node; only leaves have elements. -/
def type (node : Node) : DataType :=
  match node.field? with
  | some field => field.type
  | none => .unknown

/-- Whether a node is another one or lies below it. -/
def isUnder (node top : Node) : Bool :=
  top.lineage.ids.isPrefixOf node.lineage.ids

/-- Whether a node comes before another in a walk, or is the same. -/
def walksBefore (left right : Node) : Bool :=
  (compare left.lineage.ids right.lineage.ids).isLE

end Node

/-- A layout tree. A number that was used up by a refused field has no node. -/
structure Tree where
  nodes : Array (Option Node)
  isSealed : Bool
  /-- The program that the layout belongs to, while it is alive. -/
  program? : Option Nat

namespace Tree

/-- A tree with nothing but its root. -/
def new (program? : Option Nat) : Tree :=
  ⟨#[some ⟨[], ⟨0, .root, []⟩⟩], false, program?⟩

def node? (tree : Tree) (id : Nat) : Option Node :=
  tree.nodes[id]?.join

/-- The nodes in the order of their declaration. -/
def declared (tree : Tree) : List Node :=
  tree.nodes.toList.filterMap fun node? => node?

/-- A node and all below it, each before what lies below it. -/
def walk (tree : Tree) (top : Node) : List Node :=
  (tree.declared.filter (·.isUnder top)).mergeSort Node.walksBefore

/-- The nodes directly below a node. -/
def children (tree : Tree) (node : Node) : List Node :=
  tree.declared.filter (·.parent? = some node.id)

/-- The leaves at or below a node, in the order of a walk. -/
def leaves (tree : Tree) (top : Node) : List Node :=
  (tree.walk top).filter Node.isLeaf

def leafOf? (tree : Tree) (field : Field) : Option Node :=
  tree.declared.find? fun node => node.field?.any (·.key = field.key)

/-- Adds a node below another one. -/
def add (tree : Tree) (above : Node) (kind : LevelKind) (bounds : List (Nat × Nat)) :
    Tree × Node :=
  let node : Node := ⟨above.lineage, ⟨tree.nodes.size, kind, bounds⟩⟩
  ({ tree with nodes := tree.nodes.push (some node) }, node)

/-- Uses up a number. -/
def skip (tree : Tree) : Tree :=
  { tree with nodes := tree.nodes.push none }

/-- Whether something can be declared below a node. -/
def checkOpen (tree : Tree) (node : Node) (action : String) : Except Error Unit :=
  if tree.isSealed then .error (.quoting node.path fun path => .sealed (.change action path))
  else if node.isLeaf then
    .error (.quoting node.path fun path => .contract (.underLeaf action path))
  else .ok ()

def sealed (tree : Tree) : Except Error Tree :=
  if tree.isSealed then .error (.sealed .again) else .ok { tree with isSealed := true }

/-- Seals a tree through its root, which is the only node that can be asked for it. -/
def sealedAt (tree : Tree) (node : Node) : Except Error Tree :=
  if node.level.kind = .root then tree.sealed
  else .error (.quoting node.path fun path => .contract (.notRoot path))

end Tree

/-- All layout trees, each under its number. -/
abbrev Layouts := Array Tree

namespace Layouts

/-- The leaf at which a field is placed, with the number of its tree. -/
def leafOf? (layouts : Layouts) (field : Field) : Option (Nat × Node) :=
  (List.range layouts.size).findSome? fun tree =>
    (layouts[tree]?.bind (·.leafOf? field)).map (tree, ·)

end Layouts

end FieldKernel
