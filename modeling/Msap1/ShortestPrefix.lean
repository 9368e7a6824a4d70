import Mathlib.Data.List.Infix
import Mathlib.Tactic

/-! Items that are given up from the front of a list until a total is within a limit. -/

namespace Msap1.ShortestPrefix

variable {Item : Type} (weight : Item → Nat)

def weigh (items : List Item) : Nat := (items.map weight).sum

/-- The first items, until the total without them is within the limit. -/
def evict (limit : Nat) : Nat → List Item → List Item
  | _, [] => []
  | total, item :: items =>
      if total ≤ limit then [] else item :: evict limit (total - weight item) items

/-- A prefix that brings the total within the limit, and no shorter one does. -/
structure Shortest (limit total : Nat) (items removed : List Item) : Prop where
  initial : removed <+: items
  enough : total ≤ limit + weigh weight removed
  least : ∀ shorter, shorter <+: items → total ≤ limit + weigh weight shorter →
    removed <+: shorter

variable {weight}

@[simp] theorem weigh_nil : weigh weight [] = 0 := rfl

@[simp] theorem weigh_cons (item : Item) (items : List Item) :
    weigh weight (item :: items) = weight item + weigh weight items := by
  simp [weigh]

@[simp] theorem weigh_append (first second : List Item) :
    weigh weight (first ++ second) = weigh weight first + weigh weight second := by
  simp [weigh]

theorem weigh_perm {first second : List Item} (same : first.Perm second) :
    weigh weight first = weigh weight second := (same.map weight).sum_eq

theorem weigh_filter (keep : Item → Bool) (items : List Item) :
    weigh weight (items.filter keep) + weigh weight (items.filter fun item => !keep item) =
      weigh weight items := by
  induction items with
  | nil => rfl
  | cons item items ih =>
      cases kept : keep item <;> simp [kept] <;> omega

theorem evict_within {limit total : Nat} (within : total ≤ limit) (items : List Item) :
    evict weight limit total items = [] := by
  cases items with
  | nil => rfl
  | cons item items => rw [evict, if_pos within]

theorem evict_leading (limit total : Nat) (items : List Item) :
    evict weight limit total items <+: items := by
  induction items generalizing total with
  | nil => exact List.prefix_refl _
  | cons item items ih =>
      rw [evict]
      split
      · exact List.nil_prefix
      · exact List.prefix_cons_inj item |>.mpr (ih _)

/-- Where all items are too little, all of them go. -/
theorem evict_all {limit total : Nat} {items : List Item}
    (short : limit + weigh weight items < total) : evict weight limit total items = items := by
  induction items generalizing total with
  | nil => rfl
  | cons item items ih =>
      rw [weigh_cons] at short
      rw [evict, if_neg (by omega), ih (by omega)]

theorem evict_least {limit total : Nat} {items shorter : List Item} (initial : shorter <+: items)
    (enough : total ≤ limit + weigh weight shorter) :
    evict weight limit total items <+: shorter := by
  induction items generalizing total shorter with
  | nil => exact List.nil_prefix
  | cons item items ih =>
      rw [evict]
      split
      · exact List.nil_prefix
      · next more =>
          cases shorter with
          | nil =>
              rw [weigh_nil] at enough
              omega
          | cons head rest =>
              obtain ⟨rfl, inner⟩ := List.cons_prefix_cons.mp initial
              rw [weigh_cons] at enough
              exact List.prefix_cons_inj head |>.mpr (ih inner (by omega))

theorem evict_enough {limit total : Nat} {items : List Item}
    (enough : total ≤ limit + weigh weight items) :
    total ≤ limit + weigh weight (evict weight limit total items) := by
  induction items generalizing total with
  | nil => exact enough
  | cons item items ih =>
      rw [evict]
      rw [weigh_cons] at enough
      split
      · next within => simpa using within
      · have less : total - weight item ≤ limit + weigh weight items := by omega
        have rest := ih less
        rw [weigh_cons]
        omega

theorem evict_shortest {limit total : Nat} {items : List Item}
    (enough : total ≤ limit + weigh weight items) :
    Shortest weight limit total items (evict weight limit total items) where
  initial := evict_leading limit total items
  enough := evict_enough enough
  least := fun _ initial enough => evict_least initial enough

theorem evict_surplus (limit total : Nat) (items : List Item) :
    evict weight limit total items = evict weight 0 (total - limit) items := by
  induction items generalizing total with
  | nil => rfl
  | cons item items ih =>
      rw [evict, evict, ih]
      have same : total - weight item - limit = total - limit - weight item := by omega
      rw [same]
      split
      · next within => rw [if_pos (by omega)]
      · next more => rw [if_neg (by omega)]

/-- Two lists one after the other, as long as the total is not yet within the limit. -/
theorem evict_append (limit total : Nat) (first second : List Item) :
    evict weight limit total (first ++ second) =
      evict weight limit total first ++
        evict weight limit (total - weigh weight (evict weight limit total first)) second := by
  induction first generalizing total with
  | nil => simp [evict]
  | cons item first ih =>
      rw [List.cons_append, evict, evict]
      split
      · next within => simp [evict_within within]
      · rw [ih, weigh_cons, List.cons_append, Nat.sub_sub]

/-- What goes from a list is all that goes from itself. -/
theorem evict_evict (limit total : Nat) (items : List Item) :
    evict weight limit total (evict weight limit total items) =
      evict weight limit total items := by
  induction items generalizing total with
  | nil => rfl
  | cons item items ih =>
      rw [evict]
      split
      · rfl
      · next more => rw [evict, if_neg more, ih]

end Msap1.ShortestPrefix
