import Mathlib.Algebra.Order.Group.Int
import Mathlib.Data.Nat.Bitwise
import Mathlib.Tactic

/-! Number facts shared by the stores: nested floor divisions, clamped sums and
fixed-width positional numerals. Nothing here names a component of the meter. -/

namespace Msap1.Arithmetic

/-- Dividing by a rounded quotient twice recovers the first quotient. -/
theorem div_div_div_self (total rate : Nat) (positive : 0 < total / rate) :
    total / (total / (total / rate)) = total / rate := by
  have ratePositive : 0 < rate := by
    rcases Nat.eq_zero_or_pos rate with zero | pos
    · simp [zero] at positive
    · exact pos
  have reached : rate ≤ total / (total / rate) := by
    rw [Nat.le_div_iff_mul_le positive]
    exact Nat.mul_div_le total rate
  apply Nat.le_antisymm
  · exact Nat.div_le_div_left reached ratePositive
  · rw [Nat.le_div_iff_mul_le (lt_of_lt_of_le ratePositive reached)]
    exact Nat.mul_div_le total (total / rate)

/-- A rounded rate exceeds the true one by a factor of at most `quotient + 1`. -/
theorem div_div_le (total rate : Nat) (positive : 0 < total / rate) :
    total / (total / rate) ≤ rate + rate / (total / rate) := by
  have ratePositive : 0 < rate := by
    rcases Nat.eq_zero_or_pos rate with zero | pos
    · simp [zero] at positive
    · exact pos
  have remainder : total < rate * (total / rate) + rate := by
    have decomposition := Nat.div_add_mod total rate
    have small := Nat.mod_lt total ratePositive
    omega
  calc
    total / (total / rate) ≤ (rate + rate * (total / rate)) / (total / rate) :=
      Nat.div_le_div_right (by omega)
    _ = rate / (total / rate) + rate := Nat.add_mul_div_right rate rate positive
    _ = rate + rate / (total / rate) := Nat.add_comm _ _

/-- A clamped running total is the clamped total. -/
theorem min_add_clamp (limit total delta : Int) (nonnegative : 0 ≤ delta) :
    min limit (min limit total + delta) = min limit (total + delta) := by
  rcases le_total limit total with high | low
  · rw [min_eq_left high, min_eq_left (by omega), min_eq_left (by omega)]
  · rw [min_eq_right low]

/-- Value of a numeral written most significant digit first. -/
def positional (base : Nat) (digits : List Nat) : Nat :=
  digits.foldl (fun value digit => value * base + digit) 0

/-- The lowest `width` digits of `value`, most significant first. -/
def digitsOf (base width value : Nat) : List Nat :=
  (List.range width).reverse.map (fun place => value / base ^ place % base)

theorem foldl_positional (base start : Nat) (digits : List Nat) :
    digits.foldl (fun value digit => value * base + digit) start =
      start * base ^ digits.length + positional base digits := by
  unfold positional
  induction digits using List.reverseRecOn with
  | nil => simp
  | append_singleton front digit ih =>
      simp only [List.foldl_append, List.foldl_cons, List.foldl_nil, ih, List.length_append,
        List.length_singleton, pow_succ]
      ring

theorem positional_digitsOf (base width value : Nat) :
    positional base (digitsOf base width value) = value % base ^ width := by
  induction width with
  | zero => simp [positional, digitsOf, Nat.mod_one]
  | succ width ih =>
      have shape : digitsOf base (width + 1) value =
          (value / base ^ width % base) :: digitsOf base width value := by
        simp [digitsOf, List.range_succ]
      have length : (digitsOf base width value).length = width := by simp [digitsOf]
      rw [shape, positional, List.foldl_cons, foldl_positional, length, ih, Nat.mod_pow_succ]
      ring

/-- Byte `place` of a word, as a shift and a mask read it. -/
def byteAt (word place : Nat) : Nat := (word >>> (place * 8)) &&& 0xff

/-- The word put together from its bytes, one `or` of a shifted byte at a time. -/
def wordOf (bytes : Nat → Nat) (width : Nat) : Nat :=
  (List.range width).foldl (fun word place => word ||| bytes place <<< (place * 8)) 0

theorem byteAt_eq (word place : Nat) : byteAt word place = word / 256 ^ place % 256 := by
  have mask : (0xff : Nat) = 2 ^ 8 - 1 := rfl
  have power : (2 : Nat) ^ (place * 8) = 256 ^ place := by
    rw [Nat.mul_comm, pow_mul]
    norm_num
  rw [byteAt, mask, Nat.and_two_pow_sub_one_eq_mod, Nat.shiftRight_eq_div_pow, power]

theorem byteAt_lt (word place : Nat) : byteAt word place < 256 := by
  rw [byteAt_eq]
  exact Nat.mod_lt _ (by decide)

theorem wordOf_byteAt (word width : Nat) :
    wordOf (byteAt word) width = word % 256 ^ width := by
  induction width with
  | zero => simp [wordOf, Nat.mod_one]
  | succ width ih =>
      have unfolded : wordOf (byteAt word) (width + 1) =
          wordOf (byteAt word) width ||| byteAt word width <<< (width * 8) := by
        simp only [wordOf, List.range_succ, List.foldl_append, List.foldl_cons, List.foldl_nil]
      have power : (2 : Nat) ^ (width * 8) = 256 ^ width := by
        rw [Nat.mul_comm, pow_mul]
        norm_num
      have low : word % 256 ^ width < 2 ^ (width * 8) := by
        rw [power]
        exact Nat.mod_lt _ (by positivity)
      rw [unfolded, ih, Nat.lor_comm, ← Nat.shiftLeft_add_eq_or_of_lt low, Nat.shiftLeft_eq,
        power, byteAt_eq, Nat.mod_pow_succ]
      ring

end Msap1.Arithmetic
