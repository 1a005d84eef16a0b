import FieldKernel.Scalar.Arithmetic
import FieldKernel.Scalar.Grid

/-!
# Boxes of scalars

What a kernel computes with is a box of scalars that have one type, mostly a single scalar. The type
is known also if there are no scalars in the box, and an operator that is not made for it refuses an
empty box too.
-/

namespace FieldKernel

/-- A box of scalars of a type. -/
structure Box where
  type : DataType
  grid : Grid Scalar

namespace Box

def ofScalar (value : Scalar) : Box :=
  ⟨value.type, .value value⟩

/-- An operator on two boxes. What it makes of the zeros of their types shows what it is made
for. -/
def binary? (op : BinaryOp) (left right : Box) : Option Box := do
  let sample ← Scalar.binary? op (← Scalar.zero? left.type) (← Scalar.zero? right.type)
  return ⟨sample.type, ← Grid.zip? (Scalar.binary? op) left.grid right.grid⟩

def unary? (op : UnaryOp) (operand : Box) : Option Box := do
  let sample ← Scalar.unary? op (← Scalar.zero? operand.type)
  return ⟨sample.type, ← operand.grid.mapM (Scalar.unary? op)⟩

end Box

end FieldKernel
