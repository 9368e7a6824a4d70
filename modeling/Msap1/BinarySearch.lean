import Mathlib.Tactic

/-! The loop of a binary search over indices, for a test that holds below a point and fails
from it on. -/

namespace Msap1

/-- Narrow `[first, last)` to the first index at which the test fails. -/
def partitionPoint (test : Nat → Bool) : Nat → Nat → Nat → Nat
  | 0, first, _ => first
  | fuel + 1, first, last =>
      if first < last then
        let middle := first + (last - first) / 2
        if test middle then partitionPoint test fuel (middle + 1) last
        else partitionPoint test fuel first middle
      else first

/-- The index lies in the interval, after indices that pass and before ones that fail. -/
structure Splits (test : Nat → Bool) (first last point : Nat) : Prop where
  lower : first ≤ point
  upper : point ≤ last
  passes : ∀ index, first ≤ index → index < point → test index = true
  fails : ∀ index, point ≤ index → index < last → test index = false

theorem partitionPoint_splits {test : Nat → Bool} {first last : Nat} (fuel : Nat)
    (downward : ∀ low high, low ≤ high → high < last → test high = true → test low = true)
    (ordered : first ≤ last) (enough : last - first ≤ fuel) :
    Splits test first last (partitionPoint test fuel first last) := by
  induction fuel generalizing first last with
  | zero =>
      have same : first = last := by omega
      rw [partitionPoint, same]
      exact ⟨le_rfl, le_rfl, fun _ _ _ => by omega, fun _ _ _ => by omega⟩
  | succ fuel ih =>
      rw [partitionPoint]
      split
      · next wide =>
        have inside : first + (last - first) / 2 < last := by omega
        generalize middle_eq : first + (last - first) / 2 = middle at inside ⊢
        have above : first ≤ middle := by omega
        simp only
        split
        · next passed =>
          have right := ih downward (show middle + 1 ≤ last by omega) (by omega)
          refine ⟨by have := right.lower; omega, right.upper, ?_, right.fails⟩
          intro index atLeast below
          by_cases later : middle + 1 ≤ index
          · exact right.passes index later below
          · exact downward index middle (by omega) inside passed
        · next failed =>
          have narrower : ∀ low high, low ≤ high → high < middle → test high = true →
              test low = true :=
            fun low high order bound => downward low high order (by omega)
          have left := ih narrower above (by omega)
          refine ⟨left.lower, by have := left.upper; omega, left.passes, ?_⟩
          intro index atLeast below
          by_cases earlier : index < middle
          · exact left.fails index atLeast earlier
          · cases passed : test index with
            | false => rfl
            | true => exact absurd (downward middle index (by omega) below passed) failed
      · next closed =>
        exact ⟨le_rfl, ordered, fun _ _ _ => by omega, fun _ _ _ => by omega⟩

end Msap1
