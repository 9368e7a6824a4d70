import Mathlib.Data.List.Sort
import Mathlib.Tactic

/-! Merge sort by a key keeps the order of ties, so that it commutes with filters. -/

namespace Msap1.StableSort

variable {Item : Type} (key : Item → Int)

def byKey (left right : Item) : Bool := decide (key left ≤ key right)

theorem byKey_trans (first second third : Item) (before : byKey key first second = true)
    (after : byKey key second third = true) : byKey key first third = true := by
  simp only [byKey, decide_eq_true_eq] at before after ⊢
  omega

theorem byKey_total (first second : Item) :
    (byKey key first second || byKey key second first) = true := by
  simp only [byKey, Bool.or_eq_true, decide_eq_true_eq]
  omega

theorem mergeSort_ordered (items : List Item) :
    (items.mergeSort (byKey key)).Pairwise fun left right => key left ≤ key right := by
  have sorted := List.pairwise_mergeSort (byKey_trans key) (byKey_total key) items
  exact sorted.imp fun ordered => of_decide_eq_true ordered

theorem mergeSort_ties (items : List Item) (value : Int) :
    (items.mergeSort (byKey key)).filter (fun item => decide (key item = value)) =
      items.filter fun item => decide (key item = value) := by
  have tied : (items.filter fun item => decide (key item = value)).Pairwise
      (fun left right => byKey key left right = true) := by
    apply List.pairwise_of_forall_mem_list
    intro left first right second
    have leftKey := of_decide_eq_true (List.mem_filter.mp first).2
    have rightKey := of_decide_eq_true (List.mem_filter.mp second).2
    simp only [byKey, decide_eq_true_eq]
    omega
  have inside := List.sublist_mergeSort (byKey_trans key) (byKey_total key) tied
    List.filter_sublist
  have among := inside.filter fun item => decide (key item = value)
  rw [List.filter_filter] at among
  simp only [Bool.and_self] at among
  have sameLength := ((List.mergeSort_perm items (byKey key)).filter
    fun item => decide (key item = value)).length_eq
  exact (among.eq_of_length sameLength.symm).symm

/-- Ordered lists with the same items for every key are equal. -/
theorem eq_of_ties {first second : List Item}
    (firstOrdered : first.Pairwise fun left right => key left ≤ key right)
    (secondOrdered : second.Pairwise fun left right => key left ≤ key right)
    (ties : ∀ value, first.filter (fun item => decide (key item = value)) =
      second.filter fun item => decide (key item = value)) : first = second := by
  induction first generalizing second with
  | nil =>
      cases second with
      | nil => rfl
      | cons item rest =>
          have none := ties (key item)
          rw [List.filter_nil, List.filter_cons_of_pos (by simp)] at none
          cases none
  | cons head first ih =>
      cases second with
      | nil =>
          have none := ties (key head)
          rw [List.filter_nil, List.filter_cons_of_pos (by simp)] at none
          cases none
      | cons other second =>
          rw [List.pairwise_cons] at firstOrdered secondOrdered
          have headMember : head ∈ (other :: second).filter
              fun item => decide (key item = key head) := by
            rw [← ties, List.filter_cons_of_pos (by simp)]
            exact List.mem_cons_self
          have otherMember : other ∈ (head :: first).filter
              fun item => decide (key item = key other) := by
            rw [ties, List.filter_cons_of_pos (by simp)]
            exact List.mem_cons_self
          have sameKey : key head = key other := by
            rcases List.mem_cons.mp (List.mem_filter.mp headMember).1 with same | later
            · rw [same]
            · rcases List.mem_cons.mp (List.mem_filter.mp otherMember).1 with same | behind
              · rw [same]
              · exact le_antisymm (firstOrdered.1 _ behind) (secondOrdered.1 _ later)
          have starts := ties (key head)
          rw [List.filter_cons_of_pos (by simp), List.filter_cons_of_pos (by simp [sameKey])]
            at starts
          obtain ⟨rfl, sameTies⟩ := List.cons.inj starts
          refine congrArg (head :: ·) (ih firstOrdered.2 secondOrdered.2 ?_)
          intro value
          by_cases own : key head = value
          · rw [← own]
            exact sameTies
          · have all := ties value
            rwa [List.filter_cons_of_neg (by simpa using own),
              List.filter_cons_of_neg (by simpa using own)] at all

theorem mergeSort_filter (items : List Item) (keep : Item → Bool) :
    (items.filter keep).mergeSort (byKey key) = (items.mergeSort (byKey key)).filter keep := by
  apply eq_of_ties key (mergeSort_ordered key _) ((mergeSort_ordered key _).filter _)
  intro value
  calc
    _ = (items.filter keep).filter fun item => decide (key item = value) := mergeSort_ties key _ _
    _ = (items.filter fun item => decide (key item = value)).filter keep := List.filter_comm ..
    _ = ((items.mergeSort (byKey key)).filter
        fun item => decide (key item = value)).filter keep := by
      rw [mergeSort_ties]
    _ = _ := List.filter_comm ..

end Msap1.StableSort
