import Mathlib.Data.List.Range
import Mathlib.Data.Nat.ModEq
import Mathlib.Tactic

/-! Values under consecutive numbers in a ring of slots: writing a run of them, and copying a
window out again piece by piece. Numbers are counted modulo `modulus`. -/

namespace Msap1.RingBuffer

variable {Value : Type} (modulus capacity : Nat)

/-- Each value goes to the slot of its number. -/
def writeFrom : (Nat → Value) → Nat → List Value → Nat → Value
  | slots, _, [] => slots
  | slots, number, value :: values =>
      writeFrom (Function.update slots (number % capacity) value) ((number + 1) % modulus) values

/-- Copy up to the end of the ring, then go on at its beginning. -/
def copyFrom (slots : Nat → Value) : Nat → Nat → Nat → List Value
  | 0, _, _ => []
  | fuel + 1, number, remaining =>
      if remaining = 0 then []
      else
        let offset := number % capacity
        let count := min remaining (capacity - offset)
        (List.range count).map (fun index => slots (offset + index)) ++
          copyFrom slots fuel ((number + count) % modulus) (remaining - count)

variable {modulus capacity}

/-- Numbers less than a capacity apart have slots of their own. -/
theorem slot_injective {first left right : Nat} (leftAbove : first ≤ left)
    (leftBelow : left < first + capacity) (rightAbove : first ≤ right)
    (rightBelow : right < first + capacity) (same : left % capacity = right % capacity) :
    left = right := by
  rcases Nat.le_total left right with order | order
  · have divides := (Nat.modEq_iff_dvd' order).mp same
    rcases divides with ⟨laps, apart⟩
    cases laps with
    | zero => omega
    | succ laps =>
        have lap : capacity ≤ capacity * (laps + 1) := Nat.le_mul_of_pos_right _ (Nat.succ_pos _)
        omega
  · have divides := (Nat.modEq_iff_dvd' order).mp same.symm
    rcases divides with ⟨laps, apart⟩
    cases laps with
    | zero => omega
    | succ laps =>
        have lap : capacity ≤ capacity * (laps + 1) := Nat.le_mul_of_pos_right _ (Nat.succ_pos _)
        omega

theorem writeFrom_other (slots : Nat → Value) {first : Nat} {values : List Value} {slot : Nat}
    (unwrapped : first + values.length ≤ modulus)
    (apart : ∀ number, first ≤ number → number < first + values.length →
      number % capacity ≠ slot) :
    writeFrom modulus capacity slots first values slot = slots slot := by
  induction values generalizing slots first with
  | nil => rfl
  | cons value values ih =>
      rw [List.length_cons] at unwrapped apart
      have head : first % capacity ≠ slot := apart first (le_refl _) (by omega)
      rw [writeFrom]
      cases values with
      | nil => exact Function.update_of_ne (Ne.symm head) _ _
      | cons next values =>
          rw [List.length_cons] at unwrapped apart
          have counted : (first + 1) % modulus = first + 1 := Nat.mod_eq_of_lt (by omega)
          rw [counted, ih]
          · exact Function.update_of_ne (Ne.symm head) _ _
          · rw [List.length_cons]
            omega
          · intro number above below
            rw [List.length_cons] at below
            exact apart number (by omega) (by omega)

theorem writeFrom_get (slots : Nat → Value) {first : Nat} {values : List Value}
    (unwrapped : first + values.length ≤ modulus) (fits : values.length ≤ capacity)
    {index : Nat} (inside : index < values.length) :
    some (writeFrom modulus capacity slots first values ((first + index) % capacity)) =
      values[index]? := by
  induction values generalizing slots first index with
  | nil => simp at inside
  | cons value values ih =>
      rw [List.length_cons] at unwrapped fits inside
      rw [writeFrom]
      cases index with
      | zero =>
          cases values with
          | nil => simp [writeFrom]
          | cons next values =>
              rw [List.length_cons] at unwrapped fits
              have counted : (first + 1) % modulus = first + 1 := Nat.mod_eq_of_lt (by omega)
              rw [counted, Nat.add_zero, writeFrom_other]
              · simp
              · rw [List.length_cons]
                omega
              · intro number above below same
                rw [List.length_cons] at below
                have equal := slot_injective (show first ≤ number by omega) (by omega)
                  (le_refl first) (by omega) same
                omega
      | succ index =>
          have counted : (first + 1) % modulus = first + 1 := Nat.mod_eq_of_lt (by omega)
          rw [counted, List.getElem?_cons_succ,
            show first + (index + 1) = first + 1 + index by omega]
          exact ih _ (by omega) (by omega) (by omega)

theorem copyFrom_eq (slots : Nat → Value) (positive : 0 < capacity) {fuel number remaining : Nat}
    (enough : remaining ≤ fuel) (unwrapped : number + remaining ≤ modulus) :
    copyFrom modulus capacity slots fuel number remaining =
      (List.range remaining).map (fun index => slots ((number + index) % capacity)) := by
  induction fuel generalizing number remaining with
  | zero =>
      have none : remaining = 0 := by omega
      rw [none]
      rfl
  | succ fuel ih =>
      rw [copyFrom]
      split
      · next none =>
          rw [none]
          rfl
      · next some =>
          have offset : number % capacity < capacity := Nat.mod_lt _ positive
          generalize taken : min remaining (capacity - number % capacity) = count
          have progress : 0 < count := by omega
          have within : count ≤ remaining := by omega
          have piece : (List.range count).map (fun index => slots (number % capacity + index)) =
              (List.range count).map (fun index => slots ((number + index) % capacity)) := by
            apply List.map_congr_left
            intro index member
            have below := List.mem_range.mp member
            have small : index % capacity = index := Nat.mod_eq_of_lt (by omega)
            rw [Nat.add_mod_of_add_mod_lt (by omega), small]
          dsimp only
          rw [taken, piece]
          by_cases last : remaining - count = 0
          · have all : count = remaining := by omega
            rw [last, all]
            cases fuel with
            | zero => simp [copyFrom]
            | succ fuel => simp [copyFrom]
          · have counted : (number + count) % modulus = number + count :=
              Nat.mod_eq_of_lt (by omega)
            rw [counted, ih (by omega) (by omega)]
            have split : remaining = count + (remaining - count) := by omega
            conv_rhs => rw [split, List.range_add, List.map_append, List.map_map]
            simp only [Function.comp_def, Nat.add_assoc]

end Msap1.RingBuffer
