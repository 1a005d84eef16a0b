import FieldKernel.Proofs.Lowering.Contexts
import FieldKernel.Proofs.Lowering.Demands

/-!
# What lowering demands for different targets

Printing is refused where it is not supported, and nothing else in lowering looks at
the target.  So what is demanded of types for a target without printing is demanded for
one with it as well, in the same order, and more can only follow where lowering breaks
off.
-/

namespace FieldKernel

/-- The context for a target. -/
def LoweringContext.on (context : LoweringContext) (arch : Arch) : LoweringContext :=
  { context with arch := arch }

theorem LoweringContext.on_agrees (context : LoweringContext) (one other : Arch) :
    (context.on one).Agrees (context.on other) :=
  ⟨rfl, rfl, rfl⟩

namespace Lower

variable {α β : Type} {occurs : Expr → Prop}

/-- One step asks for the same types as another and comes to the same outcome, or it
breaks off where the other goes on. -/
structure Curbs (occurs : Expr → Prop) (one other : Lower α) : Prop where
  steady : Together occurs other other
  asks (state : Lowering) : ∃ demands outcome after, (∀ demand ∈ demands, occurs demand.expr) ∧
    one.Asks state demands outcome after ∧
      (other.Asks state demands outcome after ∨
        (∃ error, outcome = .error error) ∧ ∃ more later final,
          (∀ demand ∈ more, occurs demand.expr) ∧ other.Asks state (demands ++ more) later final)

namespace Curbs

theorem of_together {step : Lower α} (steady : Together occurs step step) :
    Curbs occurs step step where
  steady := steady
  asks state := by
    obtain ⟨demands, outcome, after, known, asks, -⟩ := steady state
    exact ⟨demands, outcome, after, known, asks, .inl asks⟩

/-- A step that breaks off at once asks for nothing. -/
theorem throw {error : Error} {step : Lower α} (steady : Together occurs step step) :
    Curbs occurs (throw error) step where
  steady := steady
  asks state := by
    obtain ⟨more, later, final, known, asks, -⟩ := steady state
    have fails : (MonadExcept.throw error : Lower α).Asks state [] (.error error) state :=
      fun _ => rfl
    exact ⟨[], _, state, by simp, fails, .inr ⟨⟨error, rfl⟩, more, later, final, known, asks⟩⟩

theorem bind {one other : Lower α} {next nextOther : α → Lower β} (first : Curbs occurs one other)
    (second : ∀ value, Curbs occurs (next value) (nextOther value)) :
    Curbs occurs (one >>= next) (other >>= nextOther) where
  steady := first.steady.bind fun value => (second value).steady
  asks state := by
    obtain ⟨demands, outcome, middle, known, asks, both | ⟨⟨error, rfl⟩, more, later, final,
      knownMore, asksOther⟩⟩ := first.asks state
    · cases outcome with
      | error error =>
          exact ⟨demands, _, middle, known, asks.bind_error, .inl both.bind_error⟩
      | ok value =>
          obtain ⟨rest, outcome, after, knownRest, asksRest, restOther⟩ :=
            (second value).asks middle
          refine ⟨demands ++ rest, outcome, after, ?_, asks.bind asksRest, ?_⟩
          · intro demand member
            exact (List.mem_append.mp member).elim (known demand) (knownRest demand)
          · apply restOther.imp both.bind
            rintro ⟨broken, more, later, final, knownMore, asksOther⟩
            refine ⟨broken, more, later, final, knownMore, ?_⟩
            rw [List.append_assoc]
            exact both.bind asksOther
    · -- The first step breaks off in the one, and whatever follows is done in the other only.
      refine ⟨demands, _, middle, known, asks.bind_error, .inr ⟨⟨error, rfl⟩, ?_⟩⟩
      cases later with
      | error fault => exact ⟨more, _, final, knownMore, asksOther.bind_error⟩
      | ok value =>
          obtain ⟨rest, outcome, after, knownRest, asksRest, -⟩ := (second value).steady final
          refine ⟨more ++ rest, outcome, after, ?_, ?_⟩
          · intro demand member
            exact (List.mem_append.mp member).elim (knownMore demand) (knownRest demand)
          · rw [← List.append_assoc]
            exact asksOther.bind asksRest

end Curbs

variable {context : LoweringContext}

theorem value_on (context : LoweringContext) (one other : Arch) (given : HostValue) :
    value (context.on one) given = value (context.on other) given := by
  cases given with
  | expr value => exact expr_agrees (context.on_agrees other one) value
  | _ => rfl

theorem checkArity_together (leaf : Node) (count : Nat) (kind : String)
    (site? : Option Location) :
    Together occurs (checkArity leaf count kind site?) (checkArity leaf count kind site?) := by
  unfold checkArity
  dsimp only
  split
  · exact .throw _
  · exact .pure _

theorem print_on_gpu (context : LoweringContext) (site? : Option Location)
    (printed label : HostValue) :
    ∃ error, stmt (context.on .gpu) (.print site? printed label) = throw error := by
  simp only [stmt, LoweringContext.on, if_true]
  cases Stmt.printText context.objects.rendering printed label with
  | ok text => exact ⟨_, rfl⟩
  | error fault => exact ⟨_, rfl⟩

mutual

/-- A statement without printing in it is lowered in the same way for both targets. -/
theorem stmt_curbs (closed : Below occurs) (statement : Stmt)
    (known : ∀ root ∈ statement.roots, occurs root) :
    Curbs occurs (stmt (context.on .gpu) statement) (stmt (context.on .x86) statement) := by
  have steady : Together occurs (stmt (context.on .x86) statement)
      (stmt (context.on .x86) statement) :=
    stmt_together (.refl _) closed statement known (.refl _ _)
  have agrees := context.on_agrees .x86 .gpu
  cases statement with
  | print site? printed label =>
      obtain ⟨error, refuses⟩ := print_on_gpu context site? printed label
      rw [refuses]
      exact .throw steady
  | branch site? condition onTrue onFalse =>
      have knownTrue : ∀ root ∈ Stmt.blockRoots onTrue, occurs root := fun root member =>
        known root (by simp [Stmt.roots, member])
      have knownFalse : ∀ root ∈ Stmt.blockRoots onFalse, occurs root := fun root member =>
        known root (by simp [Stmt.roots, member])
      have condition : Together occurs (value (context.on .x86) condition)
          (value (context.on .x86) condition) :=
        value_together (.refl _) closed condition fun root member =>
          known root (by simp [Stmt.roots, member])
      rw [stmt, stmt, value_on context .gpu .x86]
      apply Curbs.bind (.of_together condition)
      intro node
      apply Curbs.bind (block_curbs closed onTrue knownTrue)
      intro trueOps
      apply Curbs.bind (block_curbs closed onFalse knownFalse)
      intro falseOps
      exact .of_together (.pure _)
  | loop site? vars source schedule body =>
      have inside := block_curbs closed body fun root member =>
        known root (by simp [Stmt.roots, member])
      have declares : Together occurs (declareLoopVariables vars) (declareLoopVariables vars) :=
        declareLoopVariables_together vars fun var member =>
          known _ (by simp [Stmt.roots, member])
      cases source with
      | elements field =>
          simp only [stmt, leafOf_agrees agrees]
          apply Curbs.bind (.of_together (leafOf_together (.refl _) _ _))
          intro leaf
          apply Curbs.bind (.of_together (checkArity_together _ _ _ _))
          intro _
          apply Curbs.bind (.of_together declares)
          intro _
          exact inside.bind fun _ => .of_together (.pure _)
      | range first last =>
          have bound {bound : Expr} (member : bound ∈ [first, last]) :
              Together occurs (expr (context.on .x86) bound) (expr (context.on .x86) bound) :=
            expr_together (.refl _) closed bound
              (known bound (by
                simp only [Stmt.roots, LoopSource.roots, List.append_assoc]
                exact List.mem_append_left _ member))
          simp only [stmt, expr_agrees agrees]
          apply Curbs.bind (.of_together (bound (by simp)))
          intro firstNode
          apply Curbs.bind (.of_together (bound (by simp)))
          intro lastNode
          apply Curbs.bind (.of_together (checkBound_together _ _ _))
          intro _
          apply Curbs.bind (.of_together (checkBound_together _ _ _))
          intro _
          apply Curbs.bind (.of_together declares)
          intro _
          exact inside.bind fun _ => .of_together (.pure _)
  | alloca site? identifier type =>
      simp only [stmt] at steady ⊢
      exact .of_together steady
  | assign site? target value =>
      cases target <;> simp only [stmt, store_agrees agrees, assign_agrees agrees] at steady ⊢ <;>
        exact .of_together steady
  | load site? place =>
      simp only [stmt, leafAt_agrees agrees, indexNodes_agrees agrees] at steady ⊢
      exact .of_together steady
  | store site? place value =>
      simp only [stmt, store_agrees agrees] at steady ⊢
      exact .of_together steady
  | bare site? =>
      simp only [stmt] at steady ⊢
      exact .of_together steady
  | endless =>
      simp only [stmt] at steady ⊢
      exact .of_together steady

theorem block_curbs (closed : Below occurs) (body : List Stmt)
    (known : ∀ root ∈ Stmt.blockRoots body, occurs root) :
    Curbs occurs (block (context.on .gpu) body) (block (context.on .x86) body) := by
  cases body with
  | nil =>
      rw [block, block]
      exact .of_together (.pure _)
  | cons first rest =>
      rw [block, block]
      apply Curbs.bind (stmt_curbs closed first fun root member =>
        known root (by simp [Stmt.blockRoots, member]))
      intro op
      apply Curbs.bind (block_curbs closed rest fun root member =>
        known root (by simp [Stmt.blockRoots, member]))
      intro ops
      exact .of_together (.pure _)

end

end Lower

/-- All targets demand the first of the same types, one for another. -/
theorem KernelIR.exists_demands_on {occurs : Expr → Prop} (closed : Lower.Below occurs)
    (name : String) (context : LoweringContext) (body : List Stmt)
    (known : ∀ root ∈ Stmt.blockRoots body, occurs root) :
    ∃ all : List Demand, (∀ demand ∈ all, occurs demand.expr) ∧
      ∀ arch, ∃ given more verdict, given ++ more = all ∧
        Demands (ofBody name (.member arch) (context.on arch) body) given verdict := by
  have curbs : Lower.Curbs occurs (Lower.block (context.on .gpu) body)
      (Lower.block (context.on .x86) body) := Lower.block_curbs closed body known
  obtain ⟨demands, outcome, after, knows, asks, asksOther | ⟨-, more, later, final, knowsMore,
    asksOther⟩⟩ := curbs.asks (.start .empty)
  · refine ⟨demands, knows, fun arch => ⟨demands, [], ?_⟩⟩
    cases arch with
    | gpu => exact ⟨_, List.append_nil _, demands_of_asks name (.member .gpu) asks⟩
    | x86 => exact ⟨_, List.append_nil _, demands_of_asks name (.member .x86) asksOther⟩
  · refine ⟨demands ++ more, ?_, fun arch => ?_⟩
    · intro demand member
      exact (List.mem_append.mp member).elim (knows demand) (knowsMore demand)
    · cases arch with
      | gpu => exact ⟨demands, more, _, rfl, demands_of_asks name (.member .gpu) asks⟩
      | x86 =>
          exact ⟨demands ++ more, [], _, List.append_nil _,
            demands_of_asks name (.member .x86) asksOther⟩

end FieldKernel
