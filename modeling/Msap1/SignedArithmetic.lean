import Mathlib.Tactic

/-! Signed arithmetic of 64 bits that must not overflow, and division that rounds toward zero. -/

namespace Msap1.SignedArithmetic

/-- The result of an operation whose behaviour is defined only while it fits. -/
inductive Undefined where
  | signedOverflow
  deriving DecidableEq, Repr

def Fits64 (value : Int) : Prop := -2 ^ 63 ≤ value ∧ value < 2 ^ 63

instance (value : Int) : Decidable (Fits64 value) := by
  unfold Fits64
  infer_instance

def signed64 (value : Int) : Except Undefined Int :=
  if Fits64 value then .ok value else .error .signedOverflow

theorem signed64_ok {value result : Int} (done : signed64 value = .ok result) :
    Fits64 value ∧ result = value := by
  unfold signed64 at done
  split at done
  · next fits =>
      cases done
      exact ⟨fits, rfl⟩
  · cases done

theorem signed64_fits {value : Int} (fits : Fits64 value) : signed64 value = .ok value :=
  if_pos fits

/-- The two's complement reading of a 64-bit word. -/
theorem toInt64_toInt (word : UInt64) :
    word.toInt64.toInt =
      if word.toNat < 2 ^ 63 then (word.toNat : Int) else word.toNat - 2 ^ 64 := by
  change word.toBitVec.toInt = _
  rw [BitVec.toInt_eq_toNat_cond]
  change (if 2 * word.toNat < 2 ^ 64 then (word.toNat : Int) else _) = _
  split <;> split <;> first | rfl | omega

/-- A difference of words, read as a signed number. -/
theorem toInt64_sub (left right : UInt64) : (left - right).toInt64.toInt =
    if (left.toNat : Int) - right.toNat < -2 ^ 63 then (left.toNat : Int) - right.toNat + 2 ^ 64
    else if (left.toNat : Int) - right.toNat < 2 ^ 63 then (left.toNat : Int) - right.toNat
    else (left.toNat : Int) - right.toNat - 2 ^ 64 := by
  have small := left.toNat_lt
  have other := right.toNat_lt
  rw [toInt64_toInt, UInt64.toNat_sub]
  split <;> split <;> omega

/-- A quotient rounded toward zero may be taken apart into whole and remaining parts. -/
theorem tdiv_parts {dividend divisor : Int} (positive : 0 < divisor) (scale : Int)
    (forward : 0 ≤ scale) :
    dividend.tdiv divisor * scale + (dividend.tmod divisor * scale).tdiv divisor =
      (dividend * scale).tdiv divisor := by
  have ahead : ∀ value : Int, 0 ≤ value → value.tdiv divisor * scale +
      (value.tmod divisor * scale).tdiv divisor = (value * scale).tdiv divisor := by
    intro value sign
    rw [Int.tdiv_eq_ediv_of_nonneg sign, Int.tmod_eq_emod_of_nonneg sign,
      Int.tdiv_eq_ediv_of_nonneg (Int.mul_nonneg (Int.emod_nonneg _ positive.ne') forward),
      Int.tdiv_eq_ediv_of_nonneg (Int.mul_nonneg sign forward)]
    have split : value * scale = value % divisor * scale + divisor * (value / divisor * scale) := by
      have whole := Int.emod_add_mul_ediv value divisor
      linear_combination (-scale) * whole
    rw [split, Int.add_mul_ediv_left _ _ positive.ne', Int.add_comm]
  rcases Int.le_total 0 dividend with sign | sign
  · exact ahead dividend sign
  · have mirrored := ahead (-dividend) (Int.neg_nonneg_of_nonpos sign)
    rw [Int.neg_tdiv, Int.neg_tmod, Int.neg_mul, Int.neg_mul, Int.neg_tdiv, Int.neg_mul,
      Int.neg_tdiv] at mirrored
    linarith

end Msap1.SignedArithmetic
