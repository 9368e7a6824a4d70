import Mathlib.Algebra.Order.Round
import Mathlib.Data.Rat.Floor
import Mathlib.Tactic

/-! Rounding a rational to the nearest integer, with ties to the even one or away from zero. -/

namespace Msap1.Rounding

/-- The nearest integer, and the even one of two that are as near. -/
structure NearestEven (exact : ℚ) (value : ℤ) : Prop where
  near : |exact - value| ≤ 1 / 2
  tie : |exact - value| = 1 / 2 → Even value

namespace NearestEven

variable {exact : ℚ} {value other : ℤ}

/-- Two neighbours are as near as each other only when one of them is odd. -/
theorem not_below (nearest : NearestEven exact value) (another : NearestEven exact other) :
    ¬value < other := by
  intro below
  have high := (abs_le.mp nearest.near).2
  have low := (abs_le.mp another.near).1
  have step : (value : ℚ) + 1 ≤ other := by exact_mod_cast below
  have left : exact - value = 1 / 2 := by linarith
  have right : exact - other = -(1 / 2) := by linarith
  have next : other = value + 1 := by
    have cast : (other : ℚ) = value + 1 := by linarith
    exact_mod_cast cast
  have even := nearest.tie (by rw [left]; norm_num)
  have odd := another.tie (by rw [right]; norm_num)
  rw [next] at odd
  exact Int.not_even_iff_odd.mpr even.add_one odd

theorem unique (nearest : NearestEven exact value) (another : NearestEven exact other) :
    value = other := by
  have below := nearest.not_below another
  have above := another.not_below nearest
  omega

theorem mono {larger : ℚ} (nearest : NearestEven exact value) (another : NearestEven larger other)
    (ordered : exact ≤ larger) : value ≤ other := by
  by_contra above
  have low := (abs_le.mp nearest.near).1
  have high := (abs_le.mp another.near).2
  have step : (other : ℚ) + 1 ≤ value := by exact_mod_cast Int.not_le.mp above
  have same : larger = exact := by linarith
  rw [same] at another
  exact above (le_of_eq (nearest.unique another))

end NearestEven

/-- A quotient of whole numbers, with the remainder compared to what it lacks. -/
def divideTiesToEven (numerator denominator : Nat) : Nat :=
  let quotient := numerator / denominator
  let remainder := numerator % denominator
  let complement := denominator - remainder
  quotient + if complement < remainder ∨ remainder = complement ∧ quotient % 2 = 1 then 1 else 0

theorem divideTiesToEven_nearest (numerator : Nat) {denominator : Nat}
    (positive : 0 < denominator) :
    NearestEven ((numerator : ℚ) / denominator) (divideTiesToEven numerator denominator) := by
  have parts := Nat.div_add_mod numerator denominator
  have small := Nat.mod_lt numerator positive
  unfold divideTiesToEven
  dsimp only
  generalize numerator / denominator = quotient at parts ⊢
  generalize numerator % denominator = remainder at parts small ⊢
  have wide : (0 : ℚ) < denominator := by exact_mod_cast positive
  have exact : (numerator : ℚ) / denominator = quotient + (remainder : ℚ) / denominator := by
    rw [← parts]
    push_cast
    field_simp
  have low : (0 : ℚ) ≤ (remainder : ℚ) / denominator := by positivity
  have high : (remainder : ℚ) / denominator < 1 := by
    rw [div_lt_one wide]
    exact_mod_cast small
  rw [exact]
  split
  · next up =>
      have half : (1 : ℚ) / 2 ≤ (remainder : ℚ) / denominator := by
        rw [div_le_div_iff₀ (by norm_num) wide]
        have double : denominator ≤ remainder * 2 := by omega
        exact_mod_cast (by omega : 1 * denominator ≤ remainder * 2)
      refine ⟨?_, ?_⟩
      · rw [abs_le]
        push_cast
        constructor <;> linarith
      · intro tie
        have equal : (remainder : ℚ) / denominator = 1 / 2 := by
          push_cast at tie
          rw [abs_of_nonpos (by linarith)] at tie
          linarith
        rw [div_eq_div_iff wide.ne' (by norm_num)] at equal
        have whole : remainder * 2 = 1 * denominator := by exact_mod_cast equal
        rw [Int.natCast_add, Nat.cast_one]
        exact_mod_cast (Nat.even_iff.mpr (by omega) : Even (quotient + 1))
  · next down =>
      have half : (remainder : ℚ) / denominator ≤ 1 / 2 := by
        rw [div_le_div_iff₀ wide (by norm_num)]
        exact_mod_cast (by omega : remainder * 2 ≤ 1 * denominator)
      refine ⟨?_, ?_⟩
      · rw [abs_le]
        push_cast
        constructor <;> linarith
      · intro tie
        have equal : (remainder : ℚ) / denominator = 1 / 2 := by
          push_cast at tie
          rw [abs_of_nonneg (by linarith)] at tie
          linarith
        rw [div_eq_div_iff wide.ne' (by norm_num)] at equal
        have whole : remainder * 2 = 1 * denominator := by exact_mod_cast equal
        rw [Nat.add_zero]
        exact_mod_cast (Nat.even_iff.mpr (by omega) : Even quotient)

theorem divideTiesToEven_zero (numerator : Nat) {denominator : Nat} (positive : 0 < denominator) :
    divideTiesToEven numerator denominator = 0 ↔ 2 * numerator ≤ denominator := by
  have parts := Nat.div_add_mod numerator denominator
  have small := Nat.mod_lt numerator positive
  unfold divideTiesToEven
  dsimp only
  rcases Nat.eq_zero_or_pos (numerator / denominator) with none | some
  · rw [none, Nat.mul_zero, Nat.zero_add] at parts
    rw [none, parts]
    split <;> omega
  · have reached := (Nat.le_div_iff_mul_le positive).mp some
    split <;> omega

/-- The nearest integer, and of two that are as near the one farther from zero. -/
def awayFromZero (exact : ℚ) : ℤ :=
  if 0 ≤ exact then ⌊exact + 1 / 2⌋ else -⌊-exact + 1 / 2⌋

theorem awayFromZero_nonneg_iff (exact : ℚ) : 0 ≤ awayFromZero exact ↔ -(1 / 2) < exact := by
  unfold awayFromZero
  split
  · next positive =>
      have floor : 0 ≤ ⌊exact + 1 / 2⌋ := Int.floor_nonneg.mpr (by linarith)
      exact iff_of_true floor (by linarith)
  · rw [Int.neg_nonneg, ← Int.lt_add_one_iff, zero_add, Int.floor_lt]
    push_cast
    constructor <;> intro small <;> linarith

theorem le_awayFromZero_iff {value : ℤ} (positive : 0 < value) (exact : ℚ) :
    value ≤ awayFromZero exact ↔ (value : ℚ) - 1 / 2 ≤ exact := by
  have whole : (1 : ℚ) ≤ value := by exact_mod_cast positive
  unfold awayFromZero
  split
  · rw [Int.le_floor]
    constructor <;> intro reached <;> linarith
  · next negative =>
      have floor : 0 ≤ ⌊-exact + 1 / 2⌋ := Int.floor_nonneg.mpr (by linarith)
      exact iff_of_false (by omega) (by linarith)

theorem awayFromZero_lt_iff {value : ℤ} (positive : 0 < value) (exact : ℚ) :
    awayFromZero exact < value ↔ exact < (value : ℚ) - 1 / 2 := by
  rw [← not_le, le_awayFromZero_iff positive, not_le]

theorem awayFromZero_le {exact : ℚ} {high : ℤ} (below : exact ≤ high) :
    awayFromZero exact ≤ high := by
  unfold awayFromZero
  split
  · rw [← Int.lt_add_one_iff, Int.floor_lt]
    push_cast
    linarith
  · rw [neg_le, Int.le_floor]
    push_cast
    linarith

theorem le_awayFromZero {exact : ℚ} {low : ℤ} (above : low ≤ exact) :
    low ≤ awayFromZero exact := by
  unfold awayFromZero
  split
  · rw [Int.le_floor]
    linarith
  · rw [le_neg, ← Int.lt_add_one_iff, Int.floor_lt]
    push_cast
    linarith

/-- A boundary between two integers lies between the two numbers, so that they round apart. -/
def Apart (low high : ℚ) : Prop := ∃ value : ℤ, low < value + 1 / 2 ∧ (value : ℚ) + 1 / 2 ≤ high

theorem awayFromZero_lt_awayFromZero_iff {low high : ℚ} (positive : 0 ≤ low) :
    awayFromZero low < awayFromZero high ↔ Apart low high := by
  have start : 0 ≤ awayFromZero low := le_awayFromZero (by exact_mod_cast positive)
  constructor
  · intro less
    refine ⟨awayFromZero low, ?_, ?_⟩
    · have above := (awayFromZero_lt_iff (by omega) low).mp (Int.lt_add_one_iff.mpr (le_refl _))
      push_cast at above
      linarith
    · have reached := (le_awayFromZero_iff (by omega) high).mp (Int.add_one_le_of_lt less)
      push_cast at reached
      linarith
  · rintro ⟨value, below, above⟩
    have whole : 0 ≤ value := by
      have wide : (0 : ℚ) < value + 1 / 2 + 1 / 2 := by linarith
      have cast : (0 : ℚ) < ((value + 1 : ℤ) : ℚ) := by push_cast; linarith
      have positive : 0 < value + 1 := by exact_mod_cast cast
      omega
    have first : awayFromZero low < value + 1 := by
      rw [awayFromZero_lt_iff (by omega)]
      push_cast
      linarith
    have second : value + 1 ≤ awayFromZero high := by
      rw [le_awayFromZero_iff (by omega)]
      push_cast
      linarith
    omega

/-- `static_cast<std::uint32_t>` of a rounded number. -/
def unsigned (exact : ℚ) : UInt32 := ⟨BitVec.ofInt 32 (awayFromZero exact)⟩

/-- `static_cast<std::int32_t>` of a rounded number. -/
def signed (exact : ℚ) : Int32 := Int32.ofInt (awayFromZero exact)

theorem unsigned_toNat (exact : ℚ) :
    ((unsigned exact).toNat : ℤ) = awayFromZero exact % 2 ^ 32 := by
  have wrapped : ((BitVec.ofInt 32 (awayFromZero exact)).toNat : ℤ) =
      awayFromZero exact % 2 ^ 32 := by
    rw [BitVec.toNat_ofInt]
    norm_num
    omega
  exact wrapped

theorem unsigned_exact_iff (exact : ℚ) :
    ((unsigned exact).toNat : ℤ) = awayFromZero exact ↔
      -(1 / 2) < exact ∧ exact < 2 ^ 32 - 1 / 2 := by
  rw [unsigned_toNat, ← awayFromZero_nonneg_iff]
  have upper : awayFromZero exact < 2 ^ 32 ↔ exact < 2 ^ 32 - 1 / 2 := by
    have bound : awayFromZero exact < ((2 ^ 32 : ℤ)) ↔ exact < ((2 ^ 32 : ℤ) : ℚ) - 1 / 2 :=
      awayFromZero_lt_iff (by norm_num) exact
    norm_num at bound ⊢
    exact bound
  rw [← upper]
  constructor
  · intro same
    rw [← same]
    exact ⟨Int.emod_nonneg _ (by norm_num), Int.emod_lt_of_pos _ (by norm_num)⟩
  · rintro ⟨low, high⟩
    exact Int.emod_eq_of_lt low high

theorem unsigned_exact {exact : ℚ} (low : 0 ≤ exact) (high : exact ≤ 2 ^ 32 - 1) :
    ((unsigned exact).toNat : ℤ) = awayFromZero exact :=
  (unsigned_exact_iff exact).mpr ⟨by linarith, by linarith⟩

theorem signed_exact {exact : ℚ} (low : -2 ^ 31 ≤ exact) (high : exact ≤ 2 ^ 31 - 1) :
    (signed exact).toInt = awayFromZero exact := by
  have above : -2 ^ 31 ≤ awayFromZero exact := le_awayFromZero (by push_cast; linarith)
  have below : awayFromZero exact ≤ 2 ^ 31 - 1 := awayFromZero_le (by push_cast; linarith)
  rw [signed, Int32.toInt_ofInt]
  exact Int.bmod_eq_of_le (by norm_num; omega) (by norm_num; omega)

end Msap1.Rounding
