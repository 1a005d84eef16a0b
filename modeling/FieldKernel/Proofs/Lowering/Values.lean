import FieldKernel.Recording.Stmt
import FieldKernel.Proofs.Recording.Nodes
import FieldKernel.IR.Basic

/-!
# Values

The value of an expression is computed from those of its parts.  A statement takes the
values of some of the expressions it was recorded with, and an operation those of some
nodes, in the same order.
-/

namespace FieldKernel

namespace Expr

/-- The nodes below a node that its value is computed from.  Neither a field nor the place
that a load reads from has a value of its own. -/
def parts : Expr → List Expr
  | binary _ _ left right => [left, right]
  | unary _ _ operand => [operand]
  | cast _ operand _ => [operand]
  | element _ _ indices => indices
  | load _ _ _ indices => indices
  | _ => []

mutual

/-- An expression with all that its value is computed from, at any depth. -/
def values : Expr → List Expr
  | binary key op left right => binary key op left right :: (left.values ++ right.values)
  | unary key op operand => unary key op operand :: operand.values
  | cast key operand type => cast key operand type :: operand.values
  | element key declared indices => element key declared indices :: allValues indices
  | load key elementKey declared indices =>
    load key elementKey declared indices :: allValues indices
  | leaf => [leaf]

def allValues : List Expr → List Expr
  | [] => []
  | first :: rest => first.values ++ allValues rest

end

theorem allValues_eq (exprs : List Expr) : allValues exprs = exprs.flatMap values := by
  induction exprs with
  | nil => rfl
  | cons first rest hypothesis => rw [allValues, hypothesis, List.flatMap_cons]

@[simp] theorem allValues_append (front back : List Expr) :
    allValues (front ++ back) = allValues front ++ allValues back := by
  simp [allValues_eq]

theorem mem_allValues {exprs : List Expr} {value : Expr} :
    value ∈ allValues exprs ↔ ∃ expr ∈ exprs, value ∈ expr.values := by
  rw [allValues_eq, List.mem_flatMap]

theorem values_eq (expr : Expr) : expr.values = expr :: allValues expr.parts := by
  cases expr <;> simp [values, parts, allValues]

theorem self_mem_values (expr : Expr) : expr ∈ expr.values := by
  simp [values_eq]

theorem sizeOf_part {expr part : Expr} (below : part ∈ expr.parts) :
    sizeOf part < sizeOf expr := by
  cases expr with
  | element key declared indices | load key elementKey declared indices =>
      have smaller : sizeOf part < sizeOf indices := List.sizeOf_lt_of_mem below
      simp only [element.sizeOf_spec, load.sizeOf_spec]
      omega
  | binary | unary | cast =>
      simp only [parts, List.mem_cons, List.not_mem_nil, or_false] at below
      rcases below with rfl | rfl <;> simp <;> omega
  | _ => simp [parts] at below

/-- What passes on from a node to its parts holds of all that a value is computed from. -/
theorem of_mem_values (holds : Expr → Prop)
    (passes : ∀ {whole part : Expr}, holds whole → part ∈ whole.parts → holds part) (expr : Expr)
    {value : Expr} (start : holds expr) (member : value ∈ expr.values) : holds value := by
  rw [values_eq, List.mem_cons, mem_allValues] at member
  rcases member with rfl | ⟨part, below, member⟩
  · exact start
  · exact of_mem_values holds passes part (passes start below) member
termination_by sizeOf expr
decreasing_by exact sizeOf_part below

/-- What a value is computed from is a value that the whole is computed from. -/
theorem part_mem_values {expr value part : Expr} (member : value ∈ expr.values)
    (below : part ∈ value.parts) : part ∈ expr.values := by
  rw [values_eq, List.mem_cons, mem_allValues] at member ⊢
  rcases member with rfl | ⟨between, inside, member⟩
  · exact .inr ⟨part, below, self_mem_values part⟩
  · exact .inr ⟨between, inside, part_mem_values member below⟩
termination_by sizeOf expr
decreasing_by exact sizeOf_part inside

/-- Nothing is computed from itself. -/
theorem not_mem_allValues_parts (expr : Expr) : expr ∉ allValues expr.parts := by
  intro member
  obtain ⟨part, below, member⟩ := mem_allValues.mp member
  have smaller := sizeOf_part below
  have within : sizeOf expr ≤ sizeOf part :=
    of_mem_values (fun value => sizeOf value ≤ sizeOf part)
      (fun bound below => (sizeOf_part below).le.trans bound) part le_rfl member
  omega

end Expr

namespace Occurring

variable {occurs : Expr → Prop} (occurring : Occurring occurs)

include occurring

theorem part {expr part : Expr} (known : occurs expr) (below : part ∈ expr.parts) :
    occurs part := by
  cases expr with
  | load key elementKey field indices =>
      have place : occurs (.element elementKey field indices) :=
        occurring.operand known (by simp [Expr.operands])
      exact occurring.operand place (List.mem_cons_of_mem _ below)
  | element key field indices => exact occurring.operand known (List.mem_cons_of_mem _ below)
  | binary | unary | cast => exact occurring.operand known below
  | _ => simp [Expr.parts] at below

theorem allValues {exprs : List Expr} (known : ∀ expr ∈ exprs, occurs expr) {value : Expr}
    (member : value ∈ Expr.allValues exprs) : occurs value := by
  obtain ⟨expr, among, member⟩ := Expr.mem_allValues.mp member
  exact Expr.of_mem_values occurs occurring.part expr (known expr among) member

end Occurring

mutual

/-- The expressions whose values a statement takes, in the order it takes them.  The target
of an assignment is not among them, but its indices are. -/
def Stmt.taken : Stmt → List Expr
  | .alloca _ _ _ => []
  | .assign _ target value => target.parts ++ [value]
  | .load _ place => place.indices
  | .store _ place value => place.indices ++ [value]
  | .print _ value _ => value.roots
  | .branch _ condition onTrue onFalse =>
    condition.roots ++ Stmt.blockTaken onTrue ++ Stmt.blockTaken onFalse
  | .loop _ _ (.range first last) _ body => [first, last] ++ Stmt.blockTaken body
  | .loop _ _ (.elements _) _ body => Stmt.blockTaken body
  | .bare _ => []
  | .endless => []

def Stmt.blockTaken : List Stmt → List Expr
  | [] => []
  | first :: rest => first.taken ++ Stmt.blockTaken rest

end

/-- The expressions of a block whose values are needed, be it for others. -/
abbrev Stmt.blockValues (body : List Stmt) : List Expr :=
  Expr.allValues (Stmt.blockTaken body)

mutual

/-- How many assignments and stores there are in a statement. -/
def Stmt.writes : Stmt → Nat
  | .assign _ _ _ => 1
  | .store _ _ _ => 1
  | .branch _ _ onTrue onFalse => Stmt.blockWrites onTrue + Stmt.blockWrites onFalse
  | .loop _ _ _ _ body => Stmt.blockWrites body
  | _ => 0

def Stmt.blockWrites : List Stmt → Nat
  | [] => 0
  | first :: rest => first.writes + Stmt.blockWrites rest

end

mutual

/-- The nodes whose values an operation takes, in the order it takes them. -/
def Op.taken : Op → List Nat
  | .alloca _ => []
  | .assign _ value => [value]
  | .load _ indices => indices
  | .store _ indices value => indices ++ [value]
  | .branch condition onTrue onFalse =>
    [condition] ++ Op.blockTaken onTrue ++ Op.blockTaken onFalse
  | .rangeLoop _ first last body _ => [first, last] ++ Op.blockTaken body
  | .elementLoop _ _ body _ => Op.blockTaken body
  | .print value _ => [value]

def Op.blockTaken : List Op → List Nat
  | [] => []
  | first :: rest => first.taken ++ Op.blockTaken rest

end

end FieldKernel
