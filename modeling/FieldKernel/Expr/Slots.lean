import Std.Data.TreeMap
import FieldKernel.Error

/-!
# Type slots

The type of some nodes is not known when they are built. Each node has a slot for it, which is
filled once: filling it again with the same type changes nothing, and with another type is refused.
-/

namespace FieldKernel

/-- The types that were filled in after their nodes were built, by key. -/
structure TypeSlots where
  filled : Std.TreeMap Nat DataType

namespace TypeSlots

def empty : TypeSlots :=
  ⟨∅⟩

/-- The type of a node as far as it is known. -/
def typeOf (slots : TypeSlots) (expr : Expr) : DataType :=
  (slots.filled[expr.key]?).getD expr.initialType

/-- The error of a node that is to have another type than its slot holds. -/
def conflict (slots : TypeSlots) (expr : Expr) (type : DataType) : Error :=
  .quoting expr.text fun text => .type (.resolved text (slots.typeOf expr) type)

def resolve (slots : TypeSlots) (expr : Expr) (type : DataType) : Except Error TypeSlots :=
  let current := slots.typeOf expr
  if current = type then .ok slots
  else if current ≠ .unknown then .error (slots.conflict expr type)
  else .ok ⟨slots.filled.insert expr.key type⟩

/-- A slot that was filled holds the type it was filled with. -/
theorem typeOf_of_resolve {slots filled : TypeSlots} {expr : Expr} {type : DataType}
    (resolved : slots.resolve expr type = .ok filled) : filled.typeOf expr = type := by
  simp only [resolve] at resolved
  split at resolved
  · next same =>
    cases resolved
    exact same
  · split at resolved
    · cases resolved
    · cases resolved
      simp [typeOf]

end TypeSlots

end FieldKernel
