import FieldKernel.Scalar.Arithmetic
import Mathlib.Data.Int.ModEq

/-!
# Division of whole numbers

Quotients are truncated and remainders have the sign of the dividend.  Both fit
in the type of the operands, with one exception: the least number of a signed
type has no opposite in it, and dividing it by minus one wraps around.
-/

namespace FieldKernel

namespace IntType

/-- The quotient is one more than the greatest number. -/
def Overflows (type : IntType) (dividend divisor : Int) : Prop :=
  type.signed = true ∧ dividend = type.least ∧ divisor = -1

instance (type : IntType) (dividend divisor : Int) : Decidable (type.Overflows dividend divisor) :=
  inferInstanceAs (Decidable (_ ∧ _ ∧ _))

/-- A quotient and a remainder, in an integer type, as truncated division has them. -/
structure Divides (type : IntType) (dividend divisor quotient remainder : Int) : Prop where
  law : quotient * divisor + remainder ≡ dividend [ZMOD type.modulus]
  sign : remainder = 0 ∨ remainder.sign = dividend.sign
  small : remainder.natAbs < divisor.natAbs
  truncated (fits : ¬ type.Overflows dividend divisor) :
    quotient = dividend.tdiv divisor ∧ quotient * divisor + remainder = dividend
  wraps (overflows : type.Overflows dividend divisor) : quotient = type.least ∧ remainder = 0

theorem wrap_modEq (type : IntType) (value : Int) :
    type.wrap value ≡ value [ZMOD type.modulus] := by
  unfold wrap
  split
  · exact Int.bmod_emod
  · exact Int.mod_modEq value type.modulus

/-- The numbers of a signed type reach one further down than up. -/
theorem bounds (type : IntType) :
    (type.signed = true ∧ type.least = -(type.greatest + 1) ∧ 0 < type.greatest) ∨
      (type.signed = false ∧ type.least = 0 ∧ 0 < type.greatest) := by
  obtain ⟨signed, width⟩ := type
  cases signed <;> cases width <;> decide

variable {type : IntType} {dividend divisor : Int}

/-- A remainder is on the side of zero that the dividend is on. -/
theorem tmod_sides (dividend divisor : Int) :
    (0 ≤ dividend → 0 ≤ dividend.tmod divisor) ∧ (dividend ≤ 0 → dividend.tmod divisor ≤ 0) := by
  refine ⟨Int.tmod_nonneg divisor, fun nonpos => ?_⟩
  have opposite := Int.tmod_nonneg divisor (Int.neg_nonneg_of_nonpos nonpos)
  rw [Int.neg_tmod] at opposite
  omega

theorem sign_tmod (dividend divisor : Int) :
    dividend.tmod divisor = 0 ∨ (dividend.tmod divisor).sign = dividend.sign := by
  obtain ⟨nonneg, nonpos⟩ := tmod_sides dividend divisor
  rcases lt_trichotomy dividend 0 with negative | rfl | positive
  · rcases (nonpos negative.le).lt_or_eq with below | zero
    · exact .inr (by rw [Int.sign_eq_neg_one_of_neg below, Int.sign_eq_neg_one_of_neg negative])
    · exact .inl zero
  · exact .inl (Int.zero_tmod divisor)
  · rcases (nonneg positive.le).lt_or_eq with above | zero
    · exact .inr (by rw [Int.sign_eq_one_of_pos above, Int.sign_eq_one_of_pos positive])
    · exact .inl zero.symm

/-- A remainder lies between zero and the dividend. -/
theorem inRange_tmod (fits : type.InRange dividend) (divisor : Int) :
    type.InRange (dividend.tmod divisor) := by
  have size : (dividend.tmod divisor).natAbs ≤ dividend.natAbs := by
    rw [Int.natAbs_tmod]
    exact Nat.mod_le _ _
  have sides := tmod_sides dividend divisor
  have bounds := type.bounds
  unfold InRange at fits ⊢
  omega

/-- A divisor beyond minus one and one halves the dividend, so that its sign does not
matter; only minus one changes nothing but the sign. -/
theorem inRange_tdiv (fits : type.InRange dividend) (fitsDivisor : type.InRange divisor)
    (exact : ¬ type.Overflows dividend divisor) : type.InRange (dividend.tdiv divisor) := by
  have bounds := type.bounds
  have size : (dividend.tdiv divisor).natAbs = dividend.natAbs / divisor.natAbs :=
    Int.natAbs_tdiv ..
  have other (signed : type.signed = true) (unit : divisor = -1) : dividend ≠ type.least :=
    fun least => exact ⟨signed, least, unit⟩
  unfold InRange at fits fitsDivisor ⊢
  by_cases unit : divisor.natAbs ≤ 1
  · have units : divisor = 0 ∨ divisor = 1 ∨ divisor = -1 := by omega
    rcases units with rfl | rfl | rfl
    · simp only [Int.tdiv_zero]
      omega
    · simpa only [Int.tdiv_one] using fits
    · have opposite : dividend.tdiv (-1) = -dividend := by rw [Int.tdiv_neg, Int.tdiv_one]
      rcases bounds with ⟨signed, reach⟩ | ⟨_, reach⟩
      · have different := other signed rfl
        omega
      · omega
  · have half : dividend.natAbs / divisor.natAbs ≤ dividend.natAbs / 2 :=
      Nat.div_le_div_left (by omega) (by decide)
    rcases bounds with signed | unsigned
    · omega
    · have sign := Int.tdiv_nonneg (show 0 ≤ dividend by omega) (show 0 ≤ divisor by omega)
      omega

/-- What integer arithmetic makes of truncated division is truncated division, the one
exception apart. -/
theorem divides_wrap (fits : type.InRange dividend) (fitsDivisor : type.InRange divisor)
    (nonzero : divisor ≠ 0) :
    type.Divides dividend divisor (type.wrap (dividend.tdiv divisor))
      (type.wrap (dividend.tmod divisor)) := by
  have whole := Int.tdiv_mul_add_tmod dividend divisor
  rw [wrap_of_inRange (inRange_tmod fits divisor)]
  refine ⟨?_, ?_, ?_, ?_, ?_⟩
  · have product := ((type.wrap_modEq (dividend.tdiv divisor)).mul_right divisor).add_right
      (dividend.tmod divisor)
    rwa [whole] at product
  · exact sign_tmod dividend divisor
  · rw [Int.natAbs_tmod]
    exact Nat.mod_lt _ (by omega)
  · intro exact
    rw [wrap_of_inRange (inRange_tdiv fits fitsDivisor exact)]
    exact ⟨rfl, whole⟩
  · rintro ⟨signed, rfl, rfl⟩
    obtain ⟨isSigned, width⟩ := type
    cases signed
    cases width <;> decide

end IntType

namespace Scalar

variable {type : IntType} {left right : Int} {fits : type.InRange left}
  {fitsRight : type.InRange right}

theorem binary?_div (nonzero : right ≠ 0) :
    binary? .div (.int type left fits) (.int type right fitsRight) =
      some (ofInt type (left.tdiv right)) := by
  simp [binary?, intBinary?, BinaryOp.isComparison, intResult?, nonzero]

theorem binary?_mod (nonzero : right ≠ 0) :
    binary? .mod (.int type left fits) (.int type right fitsRight) =
      some (ofInt type (left.tmod right)) := by
  simp [binary?, intBinary?, BinaryOp.isComparison, intResult?, nonzero]

end Scalar

end FieldKernel
