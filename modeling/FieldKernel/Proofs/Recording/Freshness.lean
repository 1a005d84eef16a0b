import FieldKernel.Proofs.Recording.Operations
import FieldKernel.Proofs.Triples

/-!
# Fresh keys and identifiers

Every node takes a key that no node had before, and every variable an
identifier.  So the expressions that were made can always be told apart, and an
attempt to make more leads from such expressions to such expressions.
-/

namespace FieldKernel

/-- The numbers of the expressions that were made have been taken from a
supply. -/
structure Ledger (made : Set Expr) (supply : Supply) : Prop where
  occurring : Occurring (· ∈ made)
  key_lt {expr : Expr} (member : expr ∈ made) : expr.key < supply.key
  identifier_lt {var : Variable} (member : .identifier var ∈ made) :
    var.identifier.id < supply.identifier

namespace Ledger

variable {made : Set Expr} {supply : Supply}

theorem empty (supply : Supply) : Ledger ∅ supply :=
  ⟨⟨fun whole => whole.elim, fun one => one.elim, fun one => one.elim⟩,
    fun member => member.elim, fun member => member.elim⟩

/-- Numbers that were taken for something else are missed by nobody. -/
theorem skip (ledger : Ledger made supply) {later : Supply} (keys : supply.key ≤ later.key)
    (identifiers : supply.identifier ≤ later.identifier) : Ledger made later :=
  ⟨ledger.occurring, fun member => (ledger.key_lt member).trans_le keys,
    fun member => (ledger.identifier_lt member).trans_le identifiers⟩

/-- A node with a fresh key over expressions that were made is made. -/
theorem insert (ledger : Ledger made supply) {expr : Expr} (key : expr.key = supply.key)
    (operands : ∀ part ∈ expr.operands, part ∈ made)
    (identifier : ∀ var, expr = .identifier var → var.identifier.id = supply.identifier)
    {later : Supply} (keys : supply.key < later.key)
    (identifiers : supply.identifier ≤ later.identifier)
    (taken : ∀ var, expr = .identifier var → supply.identifier < later.identifier) :
    Ledger (insert expr made) later := by
  refine ⟨⟨?_, ?_, ?_⟩, ?_, ?_⟩
  · rintro whole part (rfl | member) below
    · exact .inr (operands part below)
    · exact .inr (ledger.occurring.operand member below)
  · rintro one two (rfl | memberOne) (rfl | memberTwo) same
    · rfl
    · exact absurd (ledger.key_lt memberTwo) (by omega)
    · exact absurd (ledger.key_lt memberOne) (by omega)
    · exact ledger.occurring.ofKey memberOne memberTwo same
  · rintro one two (equalOne | memberOne) (equalTwo | memberTwo) same
    · cases equalOne.trans equalTwo.symm
      rfl
    · have fresh := identifier one equalOne.symm
      exact absurd (ledger.identifier_lt memberTwo) (by omega)
    · have fresh := identifier two equalTwo.symm
      exact absurd (ledger.identifier_lt memberOne) (by omega)
    · exact ledger.occurring.ofIdentifier memberOne memberTwo same
  · rintro other (rfl | member)
    · omega
    · exact (ledger.key_lt member).trans keys
  · rintro var (equal | member)
    · have fresh := identifier var equal.symm
      have below := taken var equal.symm
      omega
    · exact (ledger.identifier_lt member).trans_le identifiers

end Ledger

/-- An attempt makes more expressions at most, and answers with something about
those that there are then. -/
def Makes {σ α : Type} (sound : Set Expr → σ → Prop) (made : Set Expr)
    (attempt : ExceptT Error (StateM σ) α) (answers : Set Expr → α → Prop) : Prop :=
  Ensures (sound made) attempt
    (fun result state => ∃ more, made ⊆ more ∧ sound more state ∧ answers more result)
    (fun _ state => ∃ more, made ⊆ more ∧ sound more state)

namespace Makes

variable {σ α β : Type} {sound : Set Expr → σ → Prop} {made : Set Expr}
  {answers : Set Expr → α → Prop} {finds : Set Expr → β → Prop}

theorem pure {result : α} (holds : answers made result) :
    Makes sound made (pure result) answers :=
  fun _ now => ⟨made, subset_rfl, now, holds⟩

theorem throw {error : Error} : Makes sound made (throw error) answers :=
  fun _ now => ⟨made, subset_rfl, now⟩

theorem bind {attempt : ExceptT Error (StateM σ) α} {next : α → ExceptT Error (StateM σ) β}
    (first : Makes sound made attempt answers)
    (second : ∀ more result, made ⊆ more → answers more result →
      Makes sound more (next result) finds) :
    Makes sound made (attempt >>= next) finds := by
  refine Ensures.bind first ?_
  rintro result state ⟨more, grows, now, holds⟩
  have ends := second more result grows holds state now
  revert ends
  rcases (next result).run.run state with ⟨error | found, final⟩
  · rintro ⟨most, growsOn, now⟩
    exact ⟨most, grows.trans growsOn, now⟩
  · rintro ⟨most, growsOn, now, holds⟩
    exact ⟨most, grows.trans growsOn, now, holds⟩

theorem map {attempt : ExceptT Error (StateM σ) α} {change : α → β}
    (first : Makes sound made attempt answers)
    (holds : ∀ more result, answers more result → finds more (change result)) :
    Makes sound made (change <$> attempt) finds := by
  rw [map_eq_pure_bind]
  exact first.bind fun more result _ answer => .pure (holds more result answer)

end Makes

end FieldKernel
