import Mathlib
import FieldKernel.Recording.Stmt

/-!
# The nodes of recorded code

Nodes that occur more than once in recorded code are shared.  A node is known
by its key, wherever it occurs, and a variable by the number of its identifier.
-/

namespace FieldKernel

/-- The expression that a host value is, if it is one. -/
def HostValue.roots : HostValue → List Expr
  | .expr value => [value]
  | _ => []

/-- The expressions that a loop runs over. -/
def LoopSource.roots : LoopSource → List Expr
  | .range first last => [first, last]
  | .elements field => [.field field]

mutual

/-- The expressions that a statement is recorded with, and those of the
statements inside it. -/
def Stmt.roots : Stmt → List Expr
  | .alloca _ _ _ => []
  | .assign _ target value => [target, value]
  | .load _ place => [.ofElement place]
  | .store _ place value => [.ofElement place, value]
  | .print _ value _ => value.roots
  | .branch _ condition onTrue onFalse =>
    condition.roots ++ Stmt.blockRoots onTrue ++ Stmt.blockRoots onFalse
  | .loop _ vars source _ body =>
    source.roots ++ vars.map .identifier ++ Stmt.blockRoots body
  | .bare _ => []
  | .endless => []

/-- The expressions that the statements of a block are recorded with. -/
def Stmt.blockRoots : List Stmt → List Expr
  | [] => []
  | first :: rest => first.roots ++ Stmt.blockRoots rest

end

/-- Expressions that occur in recorded code.  With an expression all below it
occurs.  An expression is told from others by its key, and a variable by the
number of its identifier. -/
structure Occurring (occurs : Expr → Prop) : Prop where
  operand {expr part : Expr} (whole : occurs expr) (below : part ∈ expr.operands) :
    occurs part
  ofKey {expr other : Expr} (one : occurs expr) (two : occurs other)
    (same : expr.key = other.key) : expr = other
  ofIdentifier {var other : Variable} (one : occurs (.identifier var))
    (two : occurs (.identifier other)) (same : var.identifier.id = other.identifier.id) :
    var = other

/-- What occurs in the expressions of a row, at any depth. -/
inductive Expr.Within (roots : List Expr) : Expr → Prop where
  | root {expr : Expr} (member : expr ∈ roots) : Within roots expr
  | operand {expr part : Expr} (whole : Within roots expr) (below : part ∈ expr.operands) :
      Within roots part

/-- What occurs in the statements of a body. -/
def Stmt.Occurs (body : List Stmt) : Expr → Prop :=
  Expr.Within (Stmt.blockRoots body)

/-- Nothing occurs beyond a row that holds all roots and, with an expression,
what is directly below it. -/
theorem Expr.Within.mem {roots all : List Expr} (covers : ∀ root ∈ roots, root ∈ all)
    (closed : ∀ expr ∈ all, ∀ part ∈ expr.operands, part ∈ all) {expr : Expr}
    (within : Expr.Within roots expr) : expr ∈ all := by
  induction within with
  | root member => exact covers _ member
  | operand _ below hypothesis => exact closed _ hypothesis _ below

end FieldKernel
