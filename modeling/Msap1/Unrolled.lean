import Mathlib.Order.Interval.Finset.Nat
import Mathlib.Tactic

/-! The readings of a cyclic counter, newest first, laid out on the line: each lies as far behind
the one before it as it was ahead of it on the circle. What lies between the first and the newest
and was never read is missed. -/

namespace Msap1.Unrolled

variable {Reading : Type} (ahead : Reading → Reading → Nat)

/-- The place of the newest reading, with the first at 0. -/
def place : List Reading → Nat
  | newest :: previous :: older => place (previous :: older) + ahead previous newest
  | _ => 0

def places : List Reading → Finset Nat
  | [] => ∅
  | newest :: older => insert (place ahead (newest :: older)) (places older)

def missed (readings : List Reading) : Nat :=
  (Finset.Ioo 0 (place ahead readings) \ places ahead readings).card

@[simp] theorem missed_nil : missed ahead [] = 0 := rfl

@[simp] theorem missed_single (only : Reading) : missed ahead [only] = 0 := rfl

theorem places_le (readings : List Reading) :
    ∀ taken ∈ places ahead readings, taken ≤ place ahead readings := by
  induction readings with
  | nil => simp [places]
  | cons newest older ih =>
      intro taken member
      rw [places, Finset.mem_insert] at member
      rcases member with rfl | member
      · exact Nat.le_refl _
      · cases older with
        | nil => simp [places] at member
        | cons previous older => exact Nat.le_trans (ih taken member) (Nat.le_add_right _ _)

theorem place_mem (newest : Reading) (older : List Reading) :
    place ahead (newest :: older) ∈ places ahead (newest :: older) :=
  Finset.mem_insert_self _ _

/-- A new reading misses what lies between it and the one before. -/
theorem missed_cons (newest previous : Reading) (older : List Reading) :
    missed ahead (newest :: previous :: older) =
      missed ahead (previous :: older) + (ahead previous newest - 1) := by
  let before := place ahead (previous :: older)
  have split : Finset.Ioo 0 (before + ahead previous newest) \
      places ahead (newest :: previous :: older) =
        (Finset.Ioo 0 before \ places ahead (previous :: older)) ∪
          Finset.Ioo before (before + ahead previous newest) := by
    ext number
    have bounded : number ∈ places ahead (previous :: older) → number ≤ before :=
      places_le ahead _ number
    have newestRead : before ∈ places ahead (previous :: older) := place_mem ahead previous older
    rw [Finset.mem_sdiff, Finset.mem_union, Finset.mem_sdiff, Finset.mem_Ioo, Finset.mem_Ioo,
      Finset.mem_Ioo, places, Finset.mem_insert, place]
    constructor
    · rintro ⟨⟨positive, below⟩, unread⟩
      rw [not_or] at unread
      rcases Nat.lt_trichotomy number before with early | same | late
      · exact Or.inl ⟨⟨positive, early⟩, unread.2⟩
      · exact absurd (same ▸ newestRead) unread.2
      · exact Or.inr ⟨late, below⟩
    · rintro (⟨⟨positive, early⟩, unread⟩ | ⟨late, below⟩)
      · exact ⟨⟨positive, by omega⟩, not_or.mpr ⟨by omega, unread⟩⟩
      · exact ⟨⟨by omega, below⟩, not_or.mpr ⟨by omega, fun read => by have := bounded read; omega⟩⟩
  have apart : Disjoint (Finset.Ioo 0 before \ places ahead (previous :: older))
      (Finset.Ioo before (before + ahead previous newest)) := by
    rw [Finset.disjoint_left]
    intro number early late
    rw [Finset.mem_sdiff, Finset.mem_Ioo] at early
    rw [Finset.mem_Ioo] at late
    omega
  rw [missed, missed, place, split, Finset.card_union_of_disjoint apart, Nat.card_Ioo]
  have width : before + ahead previous newest - before - 1 = ahead previous newest - 1 := by omega
  rw [width]

end Msap1.Unrolled
