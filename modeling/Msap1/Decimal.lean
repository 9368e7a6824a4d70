import Mathlib.Data.List.DropRight
import Mathlib.Data.Rat.Floor
import Mathlib.Tactic

/-! Decimals in the one canonical form, and what the digits of a long division stand for. -/

namespace Msap1

/-- No zero ends the fraction, and no sign stands before a zero. -/
structure Decimal where
  negative : Bool
  whole : Nat
  fraction : List Nat
  digits : ∀ digit ∈ fraction, digit < 10
  trimmed : fraction.getLast? ≠ some 0
  signed : negative = true → whole ≠ 0 ∨ fraction ≠ []

namespace Decimal

/-- The digits behind the point. -/
def fractionValue : List Nat → ℚ
  | [] => 0
  | digit :: digits => (digit + fractionValue digits) / 10

def magnitude (number : Decimal) : ℚ := number.whole + fractionValue number.fraction

def value (number : Decimal) : ℚ :=
  if number.negative then -number.magnitude else number.magnitude

/-- Cut towards zero behind some places. -/
def truncated (places : Nat) (exact : ℚ) : ℚ :=
  if exact < 0 then ⌈exact * 10 ^ places⌉ / 10 ^ places else ⌊exact * 10 ^ places⌋ / 10 ^ places

theorem fractionValue_nonneg (digits : List Nat) : 0 ≤ fractionValue digits := by
  induction digits with
  | nil => exact le_refl 0
  | cons digit digits ih =>
      unfold fractionValue
      positivity

theorem fractionValue_lt_one {digits : List Nat} (small : ∀ digit ∈ digits, digit < 10) :
    fractionValue digits < 1 := by
  induction digits with
  | nil => exact zero_lt_one
  | cons digit digits ih =>
      have own : (digit : ℚ) ≤ 9 := by
        exact_mod_cast Nat.le_of_lt_succ (small digit List.mem_cons_self)
      have rest := ih fun other member => small other (List.mem_cons_of_mem _ member)
      rw [fractionValue, div_lt_one (by norm_num)]
      linarith

theorem fractionValue_pos {digits : List Nat} (trimmed : digits.getLast? ≠ some 0)
    (some_digits : digits ≠ []) : 0 < fractionValue digits := by
  induction digits with
  | nil => exact absurd rfl some_digits
  | cons digit digits ih =>
      rw [fractionValue]
      cases digits with
      | nil =>
          have positive : 0 < digit := by
            rw [List.getLast?_singleton] at trimmed
            exact Nat.pos_of_ne_zero fun zero => trimmed (congrArg some zero)
          simp only [fractionValue, add_zero]
          positivity
      | cons next rest =>
          rw [List.getLast?_cons_cons] at trimmed
          have later := ih trimmed (List.cons_ne_nil _ _)
          positivity

/-- Two numbers below one behind whole numbers add up to the same only when they are the same. -/
theorem whole_injective {left right : Nat} {first second : ℚ} (low : 0 ≤ first)
    (high : first < 1) (otherLow : 0 ≤ second) (otherHigh : second < 1)
    (same : (left : ℚ) + first = right + second) : left = right ∧ first = second := by
  have equal : left = right := by
    by_contra differs
    rcases Nat.lt_or_gt_of_ne differs with less | greater
    · have apart : (left : ℚ) + 1 ≤ right := by exact_mod_cast less
      linarith
    · have apart : (right : ℚ) + 1 ≤ left := by exact_mod_cast greater
      linarith
  refine ⟨equal, ?_⟩
  rw [equal] at same
  linarith

theorem fractionValue_injective {left right : List Nat} (small : ∀ digit ∈ left, digit < 10)
    (otherSmall : ∀ digit ∈ right, digit < 10) (trimmed : left.getLast? ≠ some 0)
    (otherTrimmed : right.getLast? ≠ some 0) (same : fractionValue left = fractionValue right) :
    left = right := by
  induction left generalizing right with
  | nil =>
      by_contra differs
      have positive := fractionValue_pos otherTrimmed (Ne.symm differs)
      rw [← same] at positive
      exact lt_irrefl 0 positive
  | cons digit digits ih =>
      cases right with
      | nil =>
          have positive := fractionValue_pos trimmed (List.cons_ne_nil _ _)
          rw [same] at positive
          exact absurd positive (lt_irrefl 0)
      | cons other others =>
          have later : ∀ digit ∈ digits, digit < 10 :=
            fun digit member => small digit (List.mem_cons_of_mem _ member)
          have otherLater : ∀ digit ∈ others, digit < 10 :=
            fun digit member => otherSmall digit (List.mem_cons_of_mem _ member)
          have sums : (digit : ℚ) + fractionValue digits = other + fractionValue others := by
            rw [fractionValue, fractionValue] at same
            linarith
          obtain ⟨rfl, rest⟩ := whole_injective (fractionValue_nonneg _)
            (fractionValue_lt_one later) (fractionValue_nonneg _)
            (fractionValue_lt_one otherLater) sums
          have behind : ∀ {digits : List Nat}, (digit :: digits).getLast? ≠ some 0 →
              digits.getLast? ≠ some 0 := by
            intro digits ends zero
            cases digits with
            | nil => cases zero
            | cons next rest => exact ends (List.getLast?_cons_cons.trans zero)
          rw [ih later otherLater (behind trimmed) (behind otherTrimmed) rest]

theorem magnitude_nonneg (number : Decimal) : 0 ≤ number.magnitude := by
  have rest := fractionValue_nonneg number.fraction
  unfold magnitude
  positivity

theorem magnitude_pos (number : Decimal) (negative : number.negative = true) :
    0 < number.magnitude := by
  have rest := fractionValue_nonneg number.fraction
  unfold magnitude
  rcases number.signed negative with whole | fraction
  · have positive : (0 : ℚ) < number.whole := by exact_mod_cast Nat.pos_of_ne_zero whole
    positivity
  · have positive := fractionValue_pos number.trimmed fraction
    positivity

theorem value_injective {left right : Decimal} (same : left.value = right.value) :
    left = right := by
  have signs : left.negative = right.negative := by
    have first := left.magnitude_nonneg
    have second := right.magnitude_nonneg
    unfold value at same
    cases negative : left.negative <;> cases otherNegative : right.negative
    · rfl
    · have positive := right.magnitude_pos otherNegative
      simp only [negative, otherNegative, if_true, Bool.false_eq_true, if_false] at same
      linarith
    · have positive := left.magnitude_pos negative
      simp only [negative, otherNegative, if_true, Bool.false_eq_true, if_false] at same
      linarith
    · rfl
  have magnitudes : left.magnitude = right.magnitude := by
    unfold value at same
    rw [signs] at same
    split at same
    · exact neg_inj.mp same
    · exact same
  obtain ⟨whole, rest⟩ := whole_injective (fractionValue_nonneg _)
    (fractionValue_lt_one left.digits) (fractionValue_nonneg _)
    (fractionValue_lt_one right.digits) magnitudes
  have fractions := fractionValue_injective left.digits right.digits left.trimmed right.trimmed rest
  cases left
  cases right
  simp_all

/-- The digits of a long division, up to where it comes out even. -/
def expansion : Nat → Nat → Nat → List Nat
  | 0, _, _ => []
  | places + 1, remainder, divisor =>
      if remainder = 0 then []
      else remainder * 10 / divisor :: expansion places (remainder * 10 % divisor) divisor

theorem expansion_digits {places remainder divisor : Nat} (proper : remainder < divisor) :
    ∀ digit ∈ expansion places remainder divisor, digit < 10 := by
  induction places generalizing remainder with
  | zero => exact fun digit member => nomatch member
  | succ places ih =>
      intro digit member
      rw [expansion] at member
      split at member
      · cases member
      · rcases List.mem_cons.mp member with rfl | member
        · rw [Nat.div_lt_iff_lt_mul (by omega)]
          omega
        · exact ih (Nat.mod_lt _ (by omega)) digit member

theorem expansion_value (places : Nat) {remainder divisor : Nat} (proper : remainder < divisor) :
    fractionValue (expansion places remainder divisor) =
      (remainder * 10 ^ places / divisor : ℕ) / 10 ^ places := by
  induction places generalizing remainder with
  | zero => simp [expansion, fractionValue, Nat.div_eq_of_lt proper]
  | succ places ih =>
      rw [expansion]
      split
      · next zero => simp [zero, fractionValue]
      · have positive : 0 < divisor := by omega
        have carried : remainder * 10 ^ (places + 1) / divisor =
            remainder * 10 / divisor * 10 ^ places +
              remainder * 10 % divisor * 10 ^ places / divisor := by
          have parts : remainder * 10 ^ (places + 1) =
              divisor * (remainder * 10 / divisor * 10 ^ places) +
                remainder * 10 % divisor * 10 ^ places := by
            rw [pow_succ', ← Nat.mul_assoc, ← Nat.mul_assoc, ← Nat.add_mul, Nat.div_add_mod]
          rw [parts, Nat.mul_add_div positive]
        rw [fractionValue, ih (Nat.mod_lt _ positive), carried]
        push_cast
        field_simp
        ring

theorem fractionValue_append_zero (digits : List Nat) :
    fractionValue (digits ++ [0]) = fractionValue digits := by
  induction digits with
  | nil => simp [fractionValue]
  | cons digit digits ih => rw [List.cons_append, fractionValue, ih, fractionValue]

def trim (digits : List Nat) : List Nat := digits.rdropWhile fun digit => digit = 0

theorem mem_of_trim {digits : List Nat} {digit : Nat} (member : digit ∈ trim digits) :
    digit ∈ digits := (List.rdropWhile_prefix _ digits).subset member

theorem trim_ends (digits : List Nat) : (trim digits).getLast? ≠ some 0 := by
  intro zero
  have some_digits : trim digits ≠ [] := by
    intro empty
    rw [empty] at zero
    cases zero
  have last := List.rdropWhile_last_not _ digits some_digits
  rw [List.getLast?_eq_some_getLast some_digits, Option.some.injEq] at zero
  exact last (decide_eq_true zero)

theorem trim_value (digits : List Nat) : fractionValue (trim digits) = fractionValue digits := by
  induction digits using List.reverseRecOn with
  | nil => rfl
  | append_singleton digits digit ih =>
      rw [trim, List.rdropWhile_concat]
      split
      · next zero => rw [of_decide_eq_true zero, fractionValue_append_zero, ← ih, trim]
      · rfl

/-- A quotient cut behind some places. -/
def ofRatio (places : Nat) (negative : Bool) (numerator divisor : Nat) (positive : 0 < divisor) :
    Decimal where
  negative := negative && (numerator / divisor ≠ 0 ||
    trim (expansion places (numerator % divisor) divisor) ≠ [])
  whole := numerator / divisor
  fraction := trim (expansion places (numerator % divisor) divisor)
  digits := fun digit member =>
    expansion_digits (Nat.mod_lt _ positive) digit (mem_of_trim member)
  trimmed := trim_ends _
  signed := by
    intro signed
    exact (Bool.or_eq_true_iff.mp (Bool.and_eq_true_iff.mp signed).2).imp of_decide_eq_true
      of_decide_eq_true

theorem ofRatio_magnitude (places : Nat) (negative : Bool) (numerator divisor : Nat)
    (positive : 0 < divisor) :
    (ofRatio places negative numerator divisor positive).magnitude =
      (numerator * 10 ^ places / divisor : ℕ) / 10 ^ places := by
  have carried : numerator * 10 ^ places / divisor =
      numerator / divisor * 10 ^ places + numerator % divisor * 10 ^ places / divisor := by
    have parts : numerator * 10 ^ places =
        divisor * (numerator / divisor * 10 ^ places) + numerator % divisor * 10 ^ places := by
      rw [← Nat.mul_assoc, ← Nat.add_mul, Nat.div_add_mod]
    rw [parts, Nat.mul_add_div positive]
  rw [magnitude, ofRatio, trim_value, expansion_value _ (Nat.mod_lt _ positive), carried]
  push_cast
  field_simp

theorem ofRatio_signed (places : Nat) (negative : Bool) (numerator divisor : Nat)
    (positive : 0 < divisor) :
    (ofRatio places negative numerator divisor positive).value =
      if negative then -(ofRatio places negative numerator divisor positive).magnitude
      else (ofRatio places negative numerator divisor positive).magnitude := by
  cases negative with
  | false => rfl
  | true =>
      rw [if_pos rfl, value]
      split
      · rfl
      · next unsigned =>
          have zero : numerator / divisor = 0 ∧
              trim (expansion places (numerator % divisor) divisor) = [] := by
            by_contra some_digit
            apply unsigned
            simp only [ofRatio, Bool.true_and, Bool.or_eq_true, decide_eq_true_eq]
            exact not_and_or.mp some_digit
          simp [magnitude, ofRatio, zero.1, zero.2, fractionValue]

theorem floor_ratio (numerator divisor : Nat) :
    ((⌊(numerator : ℚ) / divisor⌋ : ℤ) : ℚ) = (numerator / divisor : ℕ) := by
  rw [Rat.floor_natCast_div_natCast, ← Int.natCast_ediv, Int.cast_natCast]

theorem ofRatio_value (places : Nat) (numerator : Int) (divisor : Nat) (positive : 0 < divisor) :
    (ofRatio places (numerator < 0) numerator.natAbs divisor positive).value =
      truncated places (numerator / divisor) := by
  have below : (0 : ℚ) < divisor := by exact_mod_cast positive
  rw [ofRatio_signed, ofRatio_magnitude, truncated]
  by_cases negative : numerator < 0
  · have own : (numerator : ℚ) < 0 := by exact_mod_cast negative
    have low : (numerator : ℚ) / divisor < 0 := div_neg_of_neg_of_pos own below
    have opposite : (numerator : ℚ) = -(numerator.natAbs : ℕ) := by
      rw [← Int.cast_natCast, Int.natCast_natAbs, abs_of_neg negative]
      push_cast
      ring
    have scaled : (numerator : ℚ) / divisor * 10 ^ places =
        -(((numerator.natAbs * 10 ^ places : ℕ) : ℚ) / (divisor : ℕ)) := by
      rw [opposite]
      push_cast
      ring
    rw [if_pos (decide_eq_true negative), if_pos low, scaled, Int.ceil_neg, Int.cast_neg,
      floor_ratio, neg_div]
  · have high : ¬(numerator : ℚ) / divisor < 0 := by
      have own : (0 : ℚ) ≤ numerator := by exact_mod_cast not_lt.mp negative
      exact not_lt.mpr (by positivity)
    have same : (numerator : ℚ) = (numerator.natAbs : ℕ) := by
      rw [← Int.cast_natCast, Int.natCast_natAbs, abs_of_nonneg (not_lt.mp negative)]
    have scaled : (numerator : ℚ) / divisor * 10 ^ places =
        ((numerator.natAbs * 10 ^ places : ℕ) : ℚ) / (divisor : ℕ) := by
      rw [same]
      push_cast
      ring
    rw [if_neg (by simpa using negative), if_neg high, scaled, floor_ratio]

end Decimal

end Msap1
