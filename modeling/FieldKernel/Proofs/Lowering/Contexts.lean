import FieldKernel.IR.Lowering

/-!
# What lowering looks up

Expressions are lowered with a look at the layouts, at the types of the arguments
and at the places where expressions were made.  The target, the recording and how
values are written matter to statements alone.
-/

namespace FieldKernel

/-- Contexts in which expressions find the same. -/
structure LoweringContext.Agrees (one other : LoweringContext) : Prop where
  argTypes : other.argTypes = one.argTypes
  locations : other.locations = one.locations
  layouts : other.objects.layouts = one.objects.layouts

namespace Lower

variable {context other : LoweringContext} (agrees : context.Agrees other)

include agrees

theorem leafOf_agrees (field : Field) (site? : Option Location) :
    leafOf other field site? = leafOf context field site? := by
  rw [leafOf, leafOf, agrees.layouts]

theorem leafAt_agrees (key : Nat) (field : Field) (count : Nat) :
    leafAt other key field count = leafAt context key field count := by
  rw [leafAt, leafAt, agrees.locations, leafOf_agrees agrees]

theorem checkIndex_agrees (index : Expr) (node : Nat) :
    checkIndex other index node = checkIndex context index node := by
  rw [checkIndex, checkIndex, agrees.locations]

mutual

theorem expr_agrees (value : Expr) : expr other value = expr context value := by
  cases value with
  | literal key value type => rw [expr, expr]
  | identifier var => rw [expr, expr, agrees.locations]
  | argument key position type => rw [expr, expr, agrees.locations, agrees.argTypes]
  | binary key op left right =>
      rw [expr, expr, agrees.locations, expr_agrees left, expr_agrees right]
  | unary key op operand => rw [expr, expr, agrees.locations, expr_agrees operand]
  | cast key operand type => rw [expr, expr, expr_agrees operand]
  | element key field indices =>
      rw [expr, expr, leafAt_agrees agrees, indexNodes_agrees indices]
  | load key elementKey field indices =>
      rw [expr, expr, leafAt_agrees agrees, indexNodes_agrees indices]
  | field field => rw [expr, expr, agrees.locations]

theorem indexNodes_agrees (indices : List Expr) :
    indexNodes other indices = indexNodes context indices := by
  cases indices with
  | nil => rw [indexNodes, indexNodes]
  | cons index rest =>
      rw [indexNodes, indexNodes, expr_agrees index, indexNodes_agrees rest]
      simp only [checkIndex_agrees agrees]

end

theorem store_agrees (place : Element) (value : Expr) :
    store other place value = store context place value := by
  simp only [store, leafAt_agrees agrees, indexNodes_agrees agrees, expr_agrees agrees]

theorem assign_agrees (site? : Option Location) (var : Variable) (value : Expr) :
    assign other site? var value = assign context site? var value := by
  simp only [assign, expr_agrees agrees]

end Lower

end FieldKernel
