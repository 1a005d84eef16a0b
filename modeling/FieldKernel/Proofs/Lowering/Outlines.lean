import FieldKernel.Proofs.Lowering.Operations
import FieldKernel.Proofs.Recording.Declarations

/-!
# Outlines of recorded and of lowered code

The outline of a statement leaves out its expressions.  What remains is what
is done, to which variables, under which label or hints, and what is inside.
An operation has an outline too, and it is that of the statement it performs.
-/

namespace FieldKernel

/-- What a statement and its operation have in common. -/
inductive Outline where
  | declaration (var : Nat)
  | assignment (var : Nat)
  | load
  | store
  | print (label : HostValue)
  | branch (onTrue onFalse : List Outline)
  | rangeLoop (vars : List Nat) (body : List Outline) (schedule : List (HintKind × HintValue))
  | elementLoop (vars : List Nat) (body : List Outline) (schedule : List (HintKind × HintValue))
  /-- What no operation does. -/
  | refused

mutual

def Stmt.outline : Stmt → Outline
  | .alloca _ identifier _ => .declaration identifier.id
  | .assign _ (.identifier var) _ => .assignment var.identifier.id
  | .assign _ (.element _ _ _) _ => .store
  | .assign _ _ _ => .refused
  | .load _ _ => .load
  | .store _ _ _ => .store
  | .print _ _ label => .print label
  | .branch _ _ onTrue onFalse => .branch (Stmt.outlines onTrue) (Stmt.outlines onFalse)
  | .loop _ vars (.range _ _) schedule body =>
    .rangeLoop (vars.map (·.identifier.id)) (Stmt.outlines body) schedule.entries
  | .loop _ vars (.elements _) schedule body =>
    .elementLoop (vars.map (·.identifier.id)) (Stmt.outlines body) schedule.entries
  | .bare _ => .refused
  | .endless => .refused

/-- The outlines of the statements in a block, one for each and in order. -/
def Stmt.outlines : List Stmt → List Outline
  | [] => []
  | first :: rest => first.outline :: Stmt.outlines rest

end

mutual

def Op.outline : Op → Outline
  | .alloca var => .declaration var
  | .assign var _ => .assignment var
  | .load _ _ => .load
  | .store _ _ _ => .store
  | .branch _ onTrue onFalse => .branch (Op.outlines onTrue) (Op.outlines onFalse)
  | .rangeLoop var _ _ body schedule => .rangeLoop [var] (Op.outlines body) schedule
  | .elementLoop vars _ body schedule => .elementLoop vars (Op.outlines body) schedule
  | .print _ label => .print label

/-- The outlines of the operations in a block, one for each and in order. -/
def Op.outlines : List Op → List Outline
  | [] => []
  | first :: rest => first.outline :: Op.outlines rest

end

/-- The operation of a loop over a range counts with the one variable of the loop. -/
theorem Stmt.eq_head_of_counted {vars : List Variable} (counted : vars.length = 1) :
    vars.map (·.identifier.id) = [((vars.map (·.identifier.id)).head?).getD 0] := by
  obtain ⟨var, rfl⟩ := List.length_eq_one_iff.mp counted
  rfl

namespace Code

variable {code : Code}

mutual

/-- An operation has the outline of the statement that it performs. -/
theorem Performs.outline_eq {statement : Stmt} {op : Op} (performs : code.Performs statement op)
    (counted : statement.Counted) : op.outline = statement.outline := by
  cases performs with
  | alloca | assign | assignElement | load | store | print => rfl
  | branch _ performsTrue performsFalse =>
      rw [Op.outline, Stmt.outline, performsTrue.outlines_eq counted.1,
        performsFalse.outlines_eq counted.2]
  | range _ _ _ _ performs =>
      rw [Op.outline, Stmt.outline, performs.outlines_eq counted.2,
        ← Stmt.eq_head_of_counted counted.1]
  | elements _ _ _ _ performs => rw [Op.outline, Stmt.outline, performs.outlines_eq counted]

theorem PerformsAll.outlines_eq {body : List Stmt} {ops : List Op}
    (performs : code.PerformsAll body ops) (counted : Stmt.BlockCounted body) :
    Op.outlines ops = Stmt.outlines body := by
  cases performs with
  | nil => rfl
  | cons performs later =>
      rw [Op.outlines, Stmt.outlines, performs.outline_eq counted.1, later.outlines_eq counted.2]

end

end Code

end FieldKernel
