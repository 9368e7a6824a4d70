import Msap1.Historian.HarmonicStore
import Msap1.ShortestPrefix
import Msap1.StableSort

/-! `delete_oldest_blocks`, `delete_oldest_harmonic_families` and the loops around them: rows go in
batches of the oldest, and the size of the period is kept along with them. -/

namespace Msap1.Historian

open Meter
open ShortestPrefix StableSort

/-- What retention reads of a row. -/
structure RetainedRows (Row : Type) where
  period : Row → MeasurementPeriod
  measuredAt : Row → Int
  bytes : Row → Nat
  occupied : ∀ row, 0 < bytes row

/-- A table and the cached size of the period that is appended to. -/
structure Tracked (Row : Type) where
  table : List Row
  tracked : Nat

def deletionBatch : Nat := 256

section Loops

variable {Row : Type} (rows : RetainedRows Row) (period : MeasurementPeriod)

/-- The rows of a period before a cutoff, if there is one, by their time. -/
def oldestFirst (cutoff : Option Int) (table : List Row) : List Row :=
  (table.filter fun row => rows.period row = period &&
    cutoff.all fun limit => decide (rows.measuredAt row < limit)).mergeSort (byKey rows.measuredAt)

/-- The loop over the selected rows, which stops once enough is removed. -/
def victims (needed : Nat) : Nat → List Row → List Row
  | _, [] => []
  | removed, row :: selected =>
      row :: if needed ≤ removed + rows.bytes row then []
        else victims needed (removed + rows.bytes row) selected

section Selection

variable {rows period}

theorem sub_removed (tracked removed : Nat) :
    tracked - min tracked removed = tracked - removed := by
  omega

theorem victims_eq {needed removed : Nat} (more : removed < needed) (selected : List Row) :
    victims rows needed removed selected = evict rows.bytes 0 (needed - removed) selected := by
  induction selected generalizing removed with
  | nil => rfl
  | cons row selected ih =>
      have missing : ¬ needed - removed ≤ 0 := by omega
      rw [victims, evict, if_neg missing]
      split
      · rw [evict_within (by omega)]
      · rw [ih (by omega), Nat.sub_sub]

theorem victims_leading (needed removed : Nat) (selected : List Row) :
    victims rows needed removed selected <+: selected := by
  induction selected generalizing removed with
  | nil => exact List.prefix_refl _
  | cons row selected ih =>
      rw [victims, List.prefix_cons_inj]
      split
      · exact List.nil_prefix
      · exact ih _

theorem victims_weight {needed removed : Nat} {selected : List Row}
    (none : weigh rows.bytes (victims rows needed removed selected) = 0) : selected = [] := by
  cases selected with
  | nil => rfl
  | cons row selected =>
      have positive := rows.occupied row
      rw [victims, weigh_cons] at none
      omega

variable (rows period) in
theorem oldestFirst_mem (cutoff : Option Int) (table : List Row) (row : Row) :
    row ∈ oldestFirst rows period cutoff table ↔
      row ∈ table ∧ rows.period row = period ∧ ∀ limit ∈ cutoff, rows.measuredAt row < limit := by
  rw [oldestFirst, List.mem_mergeSort, List.mem_filter]
  cases cutoff <;> simp

theorem oldestFirst_perm (table : List Row) :
    (oldestFirst rows period none table).Perm
      (table.filter fun row => rows.period row = period) := by
  have all := List.mergeSort_perm (table.filter fun row => rows.period row = period &&
    (none : Option Int).all fun limit => decide (rows.measuredAt row < limit))
      (byKey rows.measuredAt)
  simpa [oldestFirst] using all

theorem oldestFirst_length (cutoff : Option Int) (table : List Row) :
    (oldestFirst rows period cutoff table).length ≤ table.length := by
  rw [oldestFirst, List.length_mergeSort]
  exact List.length_filter_le _ _

variable (rows period) in
theorem oldestFirst_nodup (cutoff : Option Int) {table : List Row} (distinct : table.Nodup) :
    (oldestFirst rows period cutoff table).Nodup :=
  (List.mergeSort_perm _ _).nodup_iff.mpr (distinct.filter _)

theorem oldestFirst_filter (cutoff : Option Int) (table : List Row) (keep : Row → Bool) :
    oldestFirst rows period cutoff (table.filter keep) =
      (oldestFirst rows period cutoff table).filter keep := by
  rw [oldestFirst, List.filter_comm, mergeSort_filter]
  rfl

variable (rows period) in
theorem victims_first (cutoff : Option Int) (needed : Nat) (table : List Row) :
    victims rows needed 0 ((oldestFirst rows period cutoff table).take deletionBatch) <+:
      oldestFirst rows period cutoff table :=
  (victims_leading _ _ _).trans (List.take_prefix _ _)

theorem victims_none {cutoff : Option Int} {needed : Nat} {table : List Row}
    (none : weigh rows.bytes (victims rows needed 0
      ((oldestFirst rows period cutoff table).take deletionBatch)) = 0) :
    oldestFirst rows period cutoff table = [] := by
  have empty := victims_weight none
  rw [List.take_eq_nil_iff] at empty
  exact empty.resolve_left (by decide)

theorem rest_shorter {gone rest : List Row} {passes : Nat} (removes : weigh rows.bytes gone ≠ 0)
    (enough : (gone ++ rest).length ≤ passes + 1) : rest.length ≤ passes := by
  cases gone with
  | nil => exact absurd rfl removes
  | cons row gone =>
      rw [List.cons_append, List.length_cons, List.length_append] at enough
      omega

variable (rows period) in
theorem victims_capped {maximum tracked : Nat} (more : maximum < tracked) (table : List Row) :
    let gone := victims rows (tracked - maximum) 0
      ((oldestFirst rows period none table).take deletionBatch)
    evict rows.bytes maximum tracked gone = gone := by
  dsimp only
  rw [victims_eq (by omega), Nat.sub_zero, ← evict_surplus, evict_evict]

end Selection

variable [DecidableEq Row]

/-- One deletion: the rows that stay and the bytes that went. -/
def deleteOldest (cutoff : Option Int) (needed : Nat) (table : List Row) : List Row × Nat :=
  let gone := victims rows needed 0 ((oldestFirst rows period cutoff table).take deletionBatch)
  (table.filter fun row => !gone.contains row, weigh rows.bytes gone)

/-- The loop of the age cap; every pass but the last removes a row. -/
def expire (cutoff : Int) : Nat → Tracked Row → Tracked Row
  | 0, store => store
  | passes + 1, store =>
      let (table, removed) := deleteOldest rows period (some cutoff) (2 ^ 64 - 1) store.table
      if removed = 0 then { store with table }
      else expire cutoff passes { table, tracked := store.tracked - min store.tracked removed }

def trim (maximum : Nat) : Nat → Tracked Row → Tracked Row
  | 0, store => store
  | passes + 1, store =>
      if store.tracked ≤ maximum then store
      else
        let (table, removed) := deleteOldest rows period none (store.tracked - maximum) store.table
        if removed = 0 then { store with table }
        else trim maximum passes { table, tracked := store.tracked - min store.tracked removed }

def enforce (policy : Spool.RetentionPolicy) (measuredAt : Int) (store : Tracked Row) :
    Tracked Row :=
  let young := match policy.maximumAgeSeconds with
    | none => store
    | some age =>
        expire rows period (Spool.ageCutoff measuredAt age) store.table.length store
  match policy.maximumBytes with
  | none => young
  | some maximum => trim rows period maximum young.table.length young

variable {rows period}

theorem filter_behind {gone rest : List Row} (distinct : (gone ++ rest).Nodup) :
    ((gone ++ rest).filter fun row => !gone.contains row) = rest := by
  have apart := (List.nodup_append.mp distinct).2.2
  have none : (gone.filter fun row => !gone.contains row) = [] := by
    apply List.filter_eq_nil_iff.mpr
    intro row member
    simp [member]
  have all : (rest.filter fun row => !gone.contains row) = rest := by
    apply List.filter_eq_self.mpr
    intro row member
    have outside : row ∉ gone := fun inside => apart row inside row member rfl
    simp [outside]
  rw [List.filter_append, none, all, List.nil_append]

theorem filter_none (table : List Row) :
    (table.filter fun row => !([] : List Row).contains row) = table := by
  simp

theorem filter_both (table first second : List Row) :
    ((table.filter fun row => !first.contains row).filter fun row => !second.contains row) =
      table.filter fun row => !(first ++ second).contains row := by
  rw [List.filter_filter]
  apply List.filter_congr
  intro row _
  simp [Bool.and_comm]

/-- A deletion takes the start of the ordered rows and leaves the rest of them in order. -/
theorem oldestFirst_deleted {cutoff : Option Int} {table gone rest : List Row}
    (distinct : table.Nodup) (ordered : oldestFirst rows period cutoff table = gone ++ rest) :
    oldestFirst rows period cutoff (table.filter fun row => !gone.contains row) = rest := by
  have apart := oldestFirst_nodup rows period cutoff distinct
  rw [ordered] at apart
  rw [oldestFirst_filter, ordered, filter_behind apart]

theorem expire_eq {cutoff : Int} {passes : Nat} (store : Tracked Row) (distinct : store.table.Nodup)
    (enough : (oldestFirst rows period (some cutoff) store.table).length ≤ passes) :
    expire rows period cutoff passes store =
      let gone := oldestFirst rows period (some cutoff) store.table
      { table := store.table.filter fun row => !gone.contains row
        tracked := store.tracked - weigh rows.bytes gone } := by
  induction passes generalizing store with
  | zero =>
      have none := List.eq_nil_of_length_eq_zero (Nat.le_zero.mp enough)
      simp [expire, none]
  | succ passes ih =>
      obtain ⟨rest, ordered⟩ := victims_first rows period (some cutoff)
        (2 ^ 64 - 1) store.table
      rw [expire]
      dsimp only [deleteOldest]
      rw [sub_removed]
      split
      · next none =>
          rw [victims_none none]
          simp [victims]
      · next some =>
          have later := oldestFirst_deleted distinct ordered.symm
          have fewer : rest.length ≤ passes := rest_shorter some (by rw [ordered]; exact enough)
          rw [ih _ (distinct.filter _) (by rw [later]; exact fewer)]
          dsimp only
          rw [later]
          generalize victims rows (2 ^ 64 - 1) 0
            ((oldestFirst rows period (.some cutoff) store.table).take deletionBatch) = gone at *
          rw [← ordered, filter_both, weigh_append, Nat.sub_sub]

theorem trim_eq {maximum passes : Nat} (store : Tracked Row) (distinct : store.table.Nodup)
    (enough : (oldestFirst rows period none store.table).length ≤ passes) :
    trim rows period maximum passes store =
      let gone := evict rows.bytes maximum store.tracked (oldestFirst rows period none store.table)
      { table := store.table.filter fun row => !gone.contains row
        tracked := store.tracked - weigh rows.bytes gone } := by
  induction passes generalizing store with
  | zero =>
      have none := List.eq_nil_of_length_eq_zero (Nat.le_zero.mp enough)
      simp [trim, none, evict]
  | succ passes ih =>
      obtain ⟨rest, ordered⟩ := victims_first rows period none
        (store.tracked - maximum) store.table
      rw [trim]
      split
      · next within =>
          rw [evict_within within]
          simp
      · next more =>
          dsimp only [deleteOldest]
          rw [sub_removed]
          split
          · next none =>
              rw [victims_none none]
              simp [victims, evict]
          · next some =>
              have later := oldestFirst_deleted distinct ordered.symm
              have fewer : rest.length ≤ passes :=
                rest_shorter some (by rw [ordered]; exact enough)
              have capped := victims_capped rows period (by omega : maximum < store.tracked)
                store.table
              dsimp only at capped
              rw [ih _ (distinct.filter _) (by rw [later]; exact fewer)]
              dsimp only
              rw [later]
              generalize victims rows (store.tracked - maximum) 0
                ((oldestFirst rows period .none store.table).take deletionBatch) = gone at *
              rw [filter_both, ← ordered, evict_append, capped, weigh_append, Nat.sub_sub]

end Loops

section Caps

variable {Row : Type} [DecidableEq Row] (rows : RetainedRows Row) (period : MeasurementPeriod)

def logicalSize (table : List Row) : Nat :=
  weigh rows.bytes (table.filter fun row => rows.period row = period)

def youngRows (policy : Spool.RetentionPolicy) (measuredAt : Int) (table : List Row) : List Row :=
  match policy.maximumAgeSeconds with
  | none => table
  | some age => table.filter fun row => !(rows.period row = period &&
      decide (rows.measuredAt row < Spool.ageCutoff measuredAt age))

def surplusRows (policy : Spool.RetentionPolicy) (table : List Row) : List Row :=
  match policy.maximumBytes with
  | none => []
  | some maximum =>
      evict rows.bytes maximum (logicalSize rows period table) (oldestFirst rows period none table)

variable {rows period}

omit [DecidableEq Row] in
theorem logicalSize_oldest (table : List Row) :
    logicalSize rows period table = weigh rows.bytes (oldestFirst rows period none table) :=
  (weigh_perm (oldestFirst_perm table)).symm

theorem logicalSize_removed {table gone : List Row} (distinct : table.Nodup)
    (first : gone <+: oldestFirst rows period none table) :
    logicalSize rows period (table.filter fun row => !gone.contains row) =
      logicalSize rows period table - weigh rows.bytes gone := by
  obtain ⟨rest, ordered⟩ := first
  rw [logicalSize_oldest, logicalSize_oldest, oldestFirst_deleted distinct ordered.symm, ← ordered,
    weigh_append]
  omega

omit [DecidableEq Row] in
theorem logicalSize_expired {cutoff : Int} (table : List Row) :
    logicalSize rows period (table.filter fun row => !(rows.period row = period &&
      decide (rows.measuredAt row < cutoff))) =
      logicalSize rows period table -
        weigh rows.bytes (oldestFirst rows period (some cutoff) table) := by
  have split : weigh rows.bytes _ + weigh rows.bytes _ = weigh rows.bytes _ :=
    weigh_filter (fun row => decide (rows.measuredAt row < cutoff))
      (table.filter fun row => rows.period row = period)
  have gone : weigh rows.bytes (oldestFirst rows period (some cutoff) table) =
      weigh rows.bytes ((table.filter fun row => rows.period row = period).filter
        fun row => decide (rows.measuredAt row < cutoff)) := by
    rw [oldestFirst, weigh_perm (List.mergeSort_perm _ _), List.filter_filter]
    simp [Bool.and_comm]
  have kept : (table.filter fun row => !(rows.period row = period &&
      decide (rows.measuredAt row < cutoff))).filter (fun row => rows.period row = period) =
      (table.filter fun row => rows.period row = period).filter
        fun row => !decide (rows.measuredAt row < cutoff) := by
    rw [List.filter_filter, List.filter_filter]
    apply List.filter_congr
    intro row _
    by_cases own : rows.period row = period <;> simp [own]
  rw [logicalSize, kept, logicalSize, gone]
  omega

theorem expired_rows (cutoff : Int) (table : List Row) :
    (table.filter fun row => !(oldestFirst rows period (some cutoff) table).contains row) =
      table.filter fun row => !(rows.period row = period &&
        decide (rows.measuredAt row < cutoff)) := by
  apply List.filter_congr
  intro row member
  have inside := oldestFirst_mem rows period (some cutoff) table row
  by_cases own : rows.period row = period <;>
    by_cases before : rows.measuredAt row < cutoff <;> simp_all

theorem expire_exact {cutoff : Int} {table : List Row} (distinct : table.Nodup) :
    expire rows period cutoff table.length ⟨table, logicalSize rows period table⟩ =
      let young := table.filter fun row => !(rows.period row = period &&
        decide (rows.measuredAt row < cutoff))
      ⟨young, logicalSize rows period young⟩ := by
  refine (expire_eq ⟨table, _⟩ distinct (oldestFirst_length _ _)).trans ?_
  dsimp only
  rw [expired_rows, logicalSize_expired]

theorem trim_exact {maximum : Nat} {table : List Row} (distinct : table.Nodup) :
    trim rows period maximum table.length ⟨table, logicalSize rows period table⟩ =
      let kept := table.filter fun row => !(evict rows.bytes maximum
        (logicalSize rows period table) (oldestFirst rows period none table)).contains row
      ⟨kept, logicalSize rows period kept⟩ := by
  refine (trim_eq ⟨table, _⟩ distinct (oldestFirst_length _ _)).trans ?_
  dsimp only
  rw [logicalSize_removed distinct (evict_leading _ _ _)]

omit [DecidableEq Row] in
variable (rows period) in
theorem youngRows_nodup (policy : Spool.RetentionPolicy) (measuredAt : Int) {table : List Row}
    (distinct : table.Nodup) : (youngRows rows period policy measuredAt table).Nodup := by
  unfold youngRows
  split
  · exact distinct
  · exact distinct.filter _

/-- Both loops over an exactly tracked table keep it exactly tracked: the age cap removes what is
too old, the byte cap the shortest start of what is left. -/
theorem enforce_eq {policy : Spool.RetentionPolicy} {measuredAt : Int} {table : List Row}
    (distinct : table.Nodup) :
    enforce rows period policy measuredAt ⟨table, logicalSize rows period table⟩ =
      let young := youngRows rows period policy measuredAt table
      let kept := young.filter fun row => !(surplusRows rows period policy young).contains row
      ⟨kept, logicalSize rows period kept⟩ := by
  have youngDistinct := youngRows_nodup rows period policy measuredAt distinct
  have aged : (match policy.maximumAgeSeconds with
      | none => (⟨table, logicalSize rows period table⟩ : Tracked Row)
      | some age => expire rows period (Spool.ageCutoff measuredAt age) table.length
          ⟨table, logicalSize rows period table⟩) =
      ⟨youngRows rows period policy measuredAt table,
        logicalSize rows period (youngRows rows period policy measuredAt table)⟩ := by
    unfold youngRows
    cases policy.maximumAgeSeconds with
    | none => rfl
    | some age => exact expire_exact distinct
  rw [enforce, aged]
  generalize youngRows rows period policy measuredAt table = young at *
  unfold surplusRows
  cases policy.maximumBytes with
  | none => simp
  | some maximum => exact trim_exact youngDistinct

omit [DecidableEq Row] in
theorem surplusRows_shortest {policy : Spool.RetentionPolicy} {maximum : Nat}
    (capped : policy.maximumBytes = some maximum) (table : List Row) :
    Shortest rows.bytes maximum (logicalSize rows period table)
      (oldestFirst rows period none table) (surplusRows rows period policy table) := by
  rw [surplusRows, capped]
  apply evict_shortest
  rw [logicalSize_oldest]
  omega

end Caps

end Msap1.Historian
