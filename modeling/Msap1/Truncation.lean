import Mathlib.Data.List.Sort
import Mathlib.Tactic

/-! The first items of a list that is ordered by a key, largest first, where the order of ties is
open: which items are kept in every such order and which pairs some order splits. -/

namespace Msap1.Truncation

variable {Item : Type} [DecidableEq Item] {key : Item → Nat} {limit : Nat}

structure Descending (key : Item → Nat) (items sorted : List Item) : Prop where
  rearranged : sorted.Perm items
  ordered : sorted.Pairwise fun before after => key after ≤ key before

/-- How many items have a larger key. -/
def above (key : Item → Nat) (items : List Item) (item : Item) : Nat :=
  (items.filter fun other => decide (key item < key other)).length

/-- How many items have a key that is not smaller, the item among them. -/
def atLeast (key : Item → Nat) (items : List Item) (item : Item) : Nat :=
  (items.filter fun other => decide (key item ≤ key other)).length

section Every

variable {items sorted : List Item} (descending : Descending key items sorted)

omit [DecidableEq Item] in
include descending in
theorem counted (limit : Nat) (keep : Item → Bool) :
    (items.filter keep).length =
      ((sorted.take limit).filter keep).length + ((sorted.drop limit).filter keep).length := by
  rw [← (descending.rearranged.filter keep).length_eq, ← List.length_append, ← List.filter_append,
    List.take_append_drop]

omit [DecidableEq Item] in
include descending in
theorem split_ordered {before after : Item} (first : before ∈ sorted.take limit)
    (second : after ∈ sorted.drop limit) : key after ≤ key before := by
  have ordered := descending.ordered
  rw [← List.take_append_drop limit sorted, List.pairwise_append] at ordered
  exact ordered.2.2 before first after second

omit [DecidableEq Item] in
include descending in
theorem kept_of_atLeast {item : Item} (member : item ∈ items)
    (few : atLeast key items item ≤ limit) : item ∈ sorted.take limit := by
  have inside := descending.rearranged.mem_iff.mpr member
  rw [← List.take_append_drop limit sorted, List.mem_append] at inside
  rcases inside with kept | dropped
  · exact kept
  · have all : (sorted.take limit).filter (fun other => decide (key item ≤ key other)) =
        sorted.take limit := by
      apply List.filter_eq_self.mpr
      intro other first
      exact decide_eq_true (split_ordered descending first dropped)
    have own : item ∈ (sorted.drop limit).filter fun other => decide (key item ≤ key other) :=
      List.mem_filter.mpr ⟨dropped, decide_eq_true (Nat.le_refl _)⟩
    have positive := List.length_pos_of_mem own
    have present := List.length_pos_of_mem dropped
    have count := counted descending limit fun other => decide (key item ≤ key other)
    rw [all] at count
    rw [List.length_drop] at present
    rw [List.length_take] at count
    unfold atLeast at few
    omega

omit [DecidableEq Item] in
include descending in
/-- An item that enough others exceed is dropped. -/
theorem dropped_of_above {item : Item} (many : limit ≤ above key items item) :
    item ∉ sorted.take limit := by
  intro kept
  have none : (sorted.drop limit).filter (fun other => decide (key item < key other)) = [] := by
    apply List.filter_eq_nil_iff.mpr
    intro other second
    have below := split_ordered descending kept second
    simpa using below
  have count := counted descending limit fun other => decide (key item < key other)
  have fewer : ((sorted.take limit).filter fun other => decide (key item < key other)).length <
      (sorted.take limit).length := by
    apply List.length_filter_lt_length_iff_exists.mpr
    exact ⟨item, kept, by simp⟩
  rw [none, List.length_nil] at count
  rw [List.length_take] at fewer
  unfold above at many
  omega

end Every

section Some

variable {items : List Item} (key) (first last : Item)

/-- Where one item and another stand among their ties. -/
def place (item : Item) : Nat := if item = first then 0 else if item = last then 2 else 1

def placed (left right : Item) : Prop :=
  key right < key left ∨ key left = key right ∧ place first last left ≤ place first last right

instance : DecidableRel (placed key first last) := fun _ _ =>
  inferInstanceAs (Decidable (_ ∨ _))

instance : Std.Total (placed key first last) where
  total left right := by
    unfold placed
    omega

instance : IsTrans Item (placed key first last) where
  trans one two three := by
    unfold placed
    omega

theorem placed_descending (items : List Item) :
    Descending key items (items.insertionSort (placed key first last)) where
  rearranged := List.perm_insertionSort _ items
  ordered := by
    have sorted := List.pairwise_insertionSort (placed key first last) items
    apply sorted.imp
    intro left right order
    unfold placed at order
    omega

variable {first last}

/-- Between two items that neither bound decides, some order keeps the first and drops the last. -/
theorem some_order_splits (distinct : items.Nodup) (firstMember : first ∈ items)
    (apart : first ≠ last) (few : above key items first < limit)
    (many : limit < atLeast key items last) :
    ∃ sorted, Descending key items sorted ∧ first ∈ sorted.take limit ∧
      last ∉ sorted.take limit := by
  have descending := placed_descending key first last items
  have sorted := List.pairwise_insertionSort (placed key first last) items
  have same := descending.rearranged
  have sortedDistinct := same.nodup_iff.mpr distinct
  generalize items.insertionSort (placed key first last) = ordered at *
  rw [← List.take_append_drop limit ordered] at sorted sortedDistinct
  have parted := (List.nodup_append.mp sortedDistinct).2.2
  have across := (List.pairwise_append.mp sorted).2.2
  refine ⟨ordered, descending, ?_, ?_⟩
  · have inside := same.mem_iff.mpr firstMember
    rw [← List.take_append_drop limit ordered, List.mem_append] at inside
    rcases inside with kept | dropped
    · exact kept
    · exfalso
      have all : (ordered.take limit).filter (fun other => decide (key first < key other)) =
          ordered.take limit := by
        apply List.filter_eq_self.mpr
        intro other early
        have order := across other early first dropped
        have different := parted other early first dropped
        simp only [placed, place, if_true, if_neg different] at order
        split at order <;> simp <;> omega
      have count := counted descending limit fun other => decide (key first < key other)
      have present := List.length_pos_of_mem dropped
      rw [List.length_drop] at present
      rw [all, List.length_take] at count
      unfold above at few
      omega
  · intro kept
    have none : (ordered.drop limit).filter (fun other => decide (key last ≤ key other)) = [] := by
      apply List.filter_eq_nil_iff.mpr
      intro other late
      have order := across last kept other late
      have different := (parted last kept other late).symm
      simp only [placed, place, if_neg apart.symm, if_true, if_neg different] at order
      split at order <;> simp <;> omega
    have count := counted descending limit fun other => decide (key last ≤ key other)
    have most := List.length_filter_le (fun other => decide (key last ≤ key other))
      (ordered.take limit)
    rw [none, List.length_nil] at count
    rw [List.length_take] at most
    unfold atLeast at many
    omega

/-- Every order that keeps the first item keeps the last one, exactly when the first is never kept
or the last always is. -/
theorem keeps_iff (distinct : items.Nodup) (firstMember : first ∈ items)
    (lastMember : last ∈ items) (apart : first ≠ last) :
    (∀ sorted, Descending key items sorted → first ∈ sorted.take limit →
      last ∈ sorted.take limit) ↔
      limit ≤ above key items first ∨ atLeast key items last ≤ limit := by
  constructor
  · intro keeps
    by_contra undecided
    rw [not_or, Nat.not_le, Nat.not_le] at undecided
    obtain ⟨sorted, descending, kept, dropped⟩ := some_order_splits key distinct firstMember
      apart undecided.1 undecided.2
    exact dropped (keeps sorted descending kept)
  · rintro (many | few) sorted descending kept
    · exact absurd kept (dropped_of_above descending many)
    · exact kept_of_atLeast descending lastMember few

end Some

end Msap1.Truncation
