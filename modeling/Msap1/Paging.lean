import Mathlib.Data.List.Sort
import Mathlib.Tactic

/-! Keyset paging: bounded pages of a table in the order of a key, each of them after the last
row of the one before, over a table that may change between two pages. -/

namespace Msap1.Paging

variable {Row Key : Type} [LinearOrder Key] (key : Row → Key)

/-- No two rows have the same key. -/
def Keyed (rows : List Row) : Prop := rows.Pairwise fun left right => key left ≠ key right

def ordered (rows : List Row) : List Row :=
  rows.mergeSort fun left right => decide (key left ≤ key right)

/-- The rows after a key, or all of them. -/
def following (after : Option Key) (rows : List Row) : List Row :=
  rows.filter fun row => after.all fun cursor => decide (cursor < key row)

def page (limit : Nat) (after : Option Key) (rows : List Row) : List Row :=
  (ordered key (following key after rows)).take limit

/-- Pages until one is shorter than the limit; the table at each call is given, and the answer
is missing when the calls run out before. -/
def follow (limit : Nat) (tables : Nat → List Row) : Nat → Nat → Option Key → Option (List Row)
  | 0, _, _ => none
  | fuel + 1, call, after =>
      let rows := page key limit after (tables call)
      if rows.length < limit then some rows
      else match rows.getLast? with
        | none => none
        | some last => (follow limit tables fuel (call + 1) (some (key last))).map (rows ++ ·)

section Order

theorem mem_following {after : Option Key} {rows : List Row} {row : Row} :
    row ∈ following key after rows ↔ row ∈ rows ∧ ∀ cursor ∈ after, cursor < key row := by
  unfold following
  rw [List.mem_filter]
  cases after <;> simp

theorem ordered_perm (rows : List Row) : (ordered key rows).Perm rows :=
  List.mergeSort_perm rows _

theorem mem_ordered {rows : List Row} {row : Row} : row ∈ ordered key rows ↔ row ∈ rows :=
  (ordered_perm key rows).mem_iff

theorem ordered_weakly (rows : List Row) :
    (ordered key rows).Pairwise fun left right => key left ≤ key right := by
  have sorted : (ordered key rows).Pairwise
      fun left right => decide (key left ≤ key right) = true := by
    apply List.pairwise_mergeSort
    · intro first second third before later
      exact decide_eq_true ((of_decide_eq_true before).trans (of_decide_eq_true later))
    · intro first second
      rw [Bool.or_eq_true, decide_eq_true_eq, decide_eq_true_eq]
      exact le_total _ _
  exact sorted.imp fun before => of_decide_eq_true before

omit [LinearOrder Key] in
theorem keyed_perm {first second : List Row} (same : first.Perm second)
    (keyed : Keyed key second) : Keyed key first :=
  (same.pairwise_iff fun apart => apart.symm).mpr keyed

omit [LinearOrder Key] in
theorem keyed_filter {rows : List Row} (keyed : Keyed key rows) (kept : Row → Bool) :
    Keyed key (rows.filter kept) :=
  keyed.sublist List.filter_sublist

theorem ordered_strictly {rows : List Row} (keyed : Keyed key rows) :
    (ordered key rows).Pairwise fun left right => key left < key right := by
  have apart := keyed_perm key (ordered_perm key rows) keyed
  exact (ordered_weakly key rows).imp₂ (fun _ _ before different => lt_of_le_of_ne before different)
    apart

/-- The strictly increasing arrangement of some rows is their order. -/
theorem ordered_unique {rows arranged : List Row} (same : arranged.Perm rows)
    (increasing : arranged.Pairwise fun left right => key left < key right) :
    ordered key rows = arranged := by
  have keyed : Keyed key rows :=
    keyed_perm key same.symm (increasing.imp fun before => ne_of_lt before)
  apply List.Perm.eq_of_pairwise _ (ordered_strictly key keyed) increasing
    ((ordered_perm key rows).trans same.symm)
  intro left right _ _ before after
  exact absurd before (lt_asymm after)

theorem ordered_filter {rows : List Row} (keyed : Keyed key rows) (kept : Row → Bool) :
    ordered key (rows.filter kept) = (ordered key rows).filter kept :=
  ordered_unique key ((ordered_perm key rows).filter kept)
    ((ordered_strictly key keyed).sublist List.filter_sublist)

theorem ordered_append {rows low high : List Row} (parts : (low ++ high).Perm rows)
    (keyed : Keyed key rows) (below : ∀ left ∈ low, ∀ right ∈ high, key left < key right) :
    ordered key rows = ordered key low ++ ordered key high := by
  have apart := List.pairwise_append.mp (keyed_perm key parts keyed)
  apply ordered_unique
  · exact ((ordered_perm key low).append (ordered_perm key high)).trans parts
  · rw [List.pairwise_append]
    refine ⟨ordered_strictly key apart.1, ordered_strictly key apart.2.1, ?_⟩
    intro left leftMember right rightMember
    exact below left ((mem_ordered key).mp leftMember) right ((mem_ordered key).mp rightMember)

end Order

section Follow

variable {limit : Nat}

theorem keyed_following {rows : List Row} (keyed : Keyed key rows) (after : Option Key) :
    Keyed key (following key after rows) := keyed_filter key keyed _

/-- What follows the last row of a full page is what the page left. -/
theorem following_last {rows : List Row} (keyed : Keyed key rows) {after : Option Key}
    {front rest : List Row} {last : Row}
    (split : ordered key (following key after rows) = (front ++ [last]) ++ rest) :
    ordered key (following key (some (key last)) rows) = rest := by
  have increasing := ordered_strictly key (keyed_following key keyed after)
  rw [split] at increasing
  rcases List.pairwise_append.mp increasing with ⟨first, -, across⟩
  have member : last ∈ following key after rows := by
    rw [← mem_ordered key, split]
    simp
  have later : following key (some (key last)) rows =
      (following key after rows).filter fun row => decide (key last < key row) := by
    unfold following
    rw [List.filter_filter]
    apply List.filter_congr
    intro row _
    have beyond := ((mem_following key).mp member).2
    cases after with
    | none => simp
    | some cursor =>
        rw [Bool.eq_iff_iff]
        simp only [Option.all_some, decide_eq_true_eq, Bool.and_eq_true]
        constructor
        · exact fun above => ⟨above, (beyond cursor rfl).trans above⟩
        · exact fun both => both.1
  have passed : (front ++ [last]).filter (fun row => decide (key last < key row)) = [] := by
    rw [List.filter_eq_nil_iff]
    intro row inside above
    rcases List.mem_append.mp inside with early | single
    · have before := (List.pairwise_append.mp first).2.2 row early last List.mem_cons_self
      exact lt_asymm before (of_decide_eq_true above)
    · rw [List.mem_singleton.mp single] at above
      exact lt_irrefl _ (of_decide_eq_true above)
  have remaining : rest.filter (fun row => decide (key last < key row)) = rest := by
    rw [List.filter_eq_self]
    intro row inside
    exact decide_eq_true (across last (by simp) row inside)
  rw [later, ordered_filter key (keyed_following key keyed after), split, List.filter_append,
    passed, remaining, List.nil_append]

theorem full_page {rows : List Row} {after : Option Key} (positive : 0 < limit)
    (full : ¬(page key limit after rows).length < limit) :
    ∃ front last rest, page key limit after rows = front ++ [last] ∧
      ordered key (following key after rows) = (front ++ [last]) ++ rest := by
  have nonempty : page key limit after rows ≠ [] := by
    intro nothing
    rw [nothing] at full
    exact full positive
  rcases List.eq_nil_or_concat (page key limit after rows) with nothing | ⟨front, last, shape⟩
  · exact absurd nothing nonempty
  · rw [List.concat_eq_append] at shape
    refine ⟨front, last, (ordered key (following key after rows)).drop limit, shape, ?_⟩
    rw [← shape, page, List.take_append_drop]

/-- Over a table that stays as it is, the pages are the table in order. -/
theorem follow_constant {rows : List Row} (keyed : Keyed key rows) (positive : 0 < limit)
    {fuel : Nat} (call : Nat) (after : Option Key)
    (enough : (following key after rows).length < fuel) :
    follow key limit (fun _ => rows) fuel call after =
      some (ordered key (following key after rows)) := by
  induction fuel generalizing call after with
  | zero => omega
  | succ fuel ih =>
      have whole := (ordered_perm key (following key after rows)).length_eq
      unfold follow
      by_cases short : (page key limit after rows).length < limit
      · simp only [short, if_true]
        rw [page, List.take_of_length_le]
        rw [page, List.length_take] at short
        omega
      · simp only [short, if_false]
        rcases full_page key positive short with ⟨front, last, rest, shape, split⟩
        have later := following_last key keyed split
        have remaining := (ordered_perm key (following key (some (key last)) rows)).length_eq
        rw [split, List.length_append, List.length_append, List.length_singleton] at whole
        rw [later] at remaining
        have step := ih (call + 1) (some (key last)) (by omega)
        rw [shape, List.getLast?_concat]
        simp only [step, later, split, Option.map_some]

/-- The parts of a run of pages: a last short page, or a full one and the run after it. -/
theorem follow_cases {tables : Nat → List Row} {fuel call : Nat} {after : Option Key}
    {result : List Row} (positive : 0 < limit)
    (finished : follow key limit tables fuel call after = some result) :
    ∃ less, fuel = less + 1 ∧
      ((result = ordered key (following key after (tables call))) ∨
        ∃ front last rest later,
          ordered key (following key after (tables call)) = (front ++ [last]) ++ rest ∧
            follow key limit tables less (call + 1) (some (key last)) = some later ∧
              result = (front ++ [last]) ++ later) := by
  cases fuel with
  | zero => cases finished
  | succ fuel =>
      refine ⟨fuel, rfl, ?_⟩
      unfold follow at finished
      by_cases short : (page key limit after (tables call)).length < limit
      · left
        simp only [short, if_true, Option.some.injEq] at finished
        rw [← finished, page, List.take_of_length_le]
        rw [page, List.length_take] at short
        omega
      · right
        rcases full_page key positive short with ⟨front, last, rest, shape, split⟩
        simp only [short, if_false] at finished
        rw [shape, List.getLast?_concat] at finished
        rcases Option.map_eq_some_iff.mp finished with ⟨later, ran, same⟩
        exact ⟨front, last, rest, later, split, ran, same.symm⟩

variable {tables : Nat → List Row}

/-- Whatever happens to the table between the pages, the keys of the rows increase. -/
theorem follow_increasing (keyed : ∀ call, Keyed key (tables call)) (positive : 0 < limit)
    {fuel call : Nat} {after : Option Key} {result : List Row}
    (finished : follow key limit tables fuel call after = some result) :
    (result.Pairwise fun left right => key left < key right) ∧
      ∀ row ∈ result, ∀ cursor ∈ after, cursor < key row := by
  induction fuel generalizing call after result with
  | zero => cases finished
  | succ fuel ih =>
      have increasing := ordered_strictly key (keyed_following key (keyed call) after)
      have beyond : ∀ row ∈ ordered key (following key after (tables call)),
          ∀ cursor ∈ after, cursor < key row := by
        intro row member
        exact ((mem_following key).mp ((mem_ordered key).mp member)).2
      rcases follow_cases key positive finished with ⟨less, same, rfl |
        ⟨front, last, rest, later, split, ran, rfl⟩⟩
      · exact ⟨increasing, beyond⟩
      · cases Nat.succ.inj same
        rcases ih ran with ⟨laterIncreasing, laterBeyond⟩
        rw [split] at increasing beyond
        have first := (List.pairwise_append.mp increasing).1
        constructor
        · rw [List.pairwise_append]
          refine ⟨first, laterIncreasing, ?_⟩
          intro left leftMember right rightMember
          have above := laterBeyond right rightMember (key last) rfl
          rcases List.mem_append.mp leftMember with early | single
          · exact ((List.pairwise_append.mp first).2.2 left early last
              List.mem_cons_self).trans above
          · rw [List.mem_singleton.mp single]
            exact above
        · intro row member cursor bound
          rcases List.mem_append.mp member with early | late
          · exact beyond row (List.mem_append_left rest early) cursor bound
          · exact (beyond last (by simp) cursor bound).trans (laterBeyond row late (key last) rfl)

/-- A key that the table has at every call is reached. -/
theorem follow_reaches (keyed : ∀ call, Keyed key (tables call)) (positive : 0 < limit)
    {cursor : Key}
    (throughout : ∀ call, ∃ row ∈ tables call, key row = cursor) {fuel call : Nat}
    {after : Option Key} {result : List Row} (ahead : ∀ passed ∈ after, passed < cursor)
    (finished : follow key limit tables fuel call after = some result) :
    ∃ row ∈ result, key row = cursor := by
  induction fuel generalizing call after result with
  | zero => cases finished
  | succ fuel ih =>
      rcases throughout call with ⟨row, stored, here⟩
      have member : row ∈ ordered key (following key after (tables call)) := by
        rw [mem_ordered key, mem_following key, here]
        exact ⟨stored, ahead⟩
      rcases follow_cases key positive finished with ⟨less, same, rfl |
        ⟨front, last, rest, later, split, ran, rfl⟩⟩
      · exact ⟨row, member, here⟩
      · cases Nat.succ.inj same
        have increasing := ordered_strictly key (keyed_following key (keyed call) after)
        rw [split] at member increasing
        rcases List.mem_append.mp member with early | late
        · exact ⟨row, List.mem_append_left later early, here⟩
        · have passed := (List.pairwise_append.mp increasing).2.2 last (by simp) row late
          rw [here] at passed
          have reached := ih (fun cursor same => Option.some.inj same ▸ passed) ran
          rcases reached with ⟨found, inside, same⟩
          exact ⟨found, List.mem_append_right _ inside, same⟩

/-- Every row of the pages was in the table at some call. -/
theorem follow_stored (positive : 0 < limit) {fuel call : Nat} {after : Option Key}
    {result : List Row} (finished : follow key limit tables fuel call after = some result)
    {row : Row} (member : row ∈ result) : ∃ earlier, row ∈ tables earlier := by
  induction fuel generalizing call after result with
  | zero => cases finished
  | succ fuel ih =>
      have stored : ∀ row ∈ ordered key (following key after (tables call)), row ∈ tables call :=
        fun row inside => ((mem_following key).mp ((mem_ordered key).mp inside)).1
      rcases follow_cases key positive finished with ⟨less, same, rfl |
        ⟨front, last, rest, later, split, ran, rfl⟩⟩
      · exact ⟨call, stored row member⟩
      · cases Nat.succ.inj same
        rw [split] at stored
        rcases List.mem_append.mp member with early | late
        · exact ⟨call, stored row (List.mem_append_left rest early)⟩
        · exact ih ran late

end Follow

end Msap1.Paging
