import Mathlib.Data.List.Basic
import Mathlib.Tactic

/-! Frames whose length shows in a prefix of theirs, cut out of a growing string. -/

namespace Msap1

/-- A length that, once it shows, stays, and that shows before the frame ends. What shows no
length up to the limit never shows one. -/
structure Framing (Symbol : Type) where
  size : List Symbol → Option Nat
  limit : Nat
  size_positive : ∀ {known : List Symbol} {length : Nat}, size known = some length → 0 < length
  size_append : ∀ {known : List Symbol} {length : Nat} (later : List Symbol),
    size known = some length → size (known ++ later) = some length
  size_take : ∀ {known : List Symbol} {length count : Nat},
    size known = some length → length ≤ count → size (known.take count) = some length
  size_late : ∀ {known : List Symbol} (later : List Symbol),
    size known = none → limit < known.length → size (known ++ later) = none

namespace Framing

variable {Symbol : Type} (framing : Framing Symbol)

/-- The string is longer than any frame, or announces a frame that is. -/
def Overlong (bytes : List Symbol) : Prop :=
  match framing.size bytes with
  | none => framing.limit < bytes.length
  | some length => framing.limit < length

instance (bytes : List Symbol) : Decidable (framing.Overlong bytes) := by
  unfold Overlong
  split <;> infer_instance

/-- The length of the first frame, if all of it is there and within the limit. -/
def first (bytes : List Symbol) : Option Nat :=
  (framing.size bytes).filter fun length => length ≤ framing.limit ∧ length ≤ bytes.length

variable {framing}

theorem first_eq_some {bytes : List Symbol} {length : Nat} :
    framing.first bytes = some length ↔
      framing.size bytes = some length ∧ length ≤ framing.limit ∧ length ≤ bytes.length := by
  simp [first, Option.filter_eq_some_iff]

theorem first_positive {bytes : List Symbol} {length : Nat}
    (found : framing.first bytes = some length) : 0 < length :=
  framing.size_positive (first_eq_some.mp found).1

theorem drop_shorter {bytes : List Symbol} {length : Nat}
    (found : framing.first bytes = some length) : (bytes.drop length).length < bytes.length := by
  have positive := first_positive found
  have within := (first_eq_some.mp found).2.2
  rw [List.length_drop]
  omega

variable (framing)

/-- The frames at the start of a string, and what is behind them. -/
def scan (bytes : List Symbol) : List (List Symbol) × List Symbol :=
  match _found : framing.first bytes with
  | none => ([], bytes)
  | some length =>
      let (frames, rest) := scan (bytes.drop length)
      (bytes.take length :: frames, rest)
termination_by bytes.length
decreasing_by exact drop_shorter _found

variable {framing}

theorem scan_none {bytes : List Symbol} (absent : framing.first bytes = none) :
    framing.scan bytes = ([], bytes) := by
  rw [scan]
  split
  · rfl
  · next found =>
      rw [absent] at found
      cases found

theorem scan_some {bytes : List Symbol} {length : Nat}
    (found : framing.first bytes = some length) :
    framing.scan bytes =
      (bytes.take length :: (framing.scan (bytes.drop length)).1,
        (framing.scan (bytes.drop length)).2) := by
  rw [scan]
  split
  · next absent =>
      rw [found] at absent
      cases absent
  · next other same =>
      rw [found] at same
      cases same
      rfl

theorem scan_flatten (bytes : List Symbol) :
    (framing.scan bytes).1.flatten ++ (framing.scan bytes).2 = bytes := by
  induction bytes using scan.induct framing with
  | case1 bytes absent => rw [scan_none absent, List.flatten_nil, List.nil_append]
  | case2 bytes length found frames rest scanned ih =>
      rw [scan_some found, List.flatten_cons, List.append_assoc, ih, List.take_append_drop]

theorem scan_rest (bytes : List Symbol) : framing.first (framing.scan bytes).2 = none := by
  induction bytes using scan.induct framing with
  | case1 bytes absent => rw [scan_none absent, absent]
  | case2 bytes length found frames rest scanned ih => rw [scan_some found, ih]

theorem first_append {bytes : List Symbol} {length : Nat} (later : List Symbol)
    (found : framing.first bytes = some length) :
    framing.first (bytes ++ later) = some length := by
  obtain ⟨shown, small, within⟩ := first_eq_some.mp found
  rw [first_eq_some, List.length_append]
  exact ⟨framing.size_append later shown, small, by omega⟩

/-- What comes later only meets what the frames have left over. -/
theorem scan_append (bytes later : List Symbol) :
    framing.scan (bytes ++ later) =
      ((framing.scan bytes).1 ++ (framing.scan ((framing.scan bytes).2 ++ later)).1,
        (framing.scan ((framing.scan bytes).2 ++ later)).2) := by
  induction bytes using scan.induct framing with
  | case1 bytes absent => rw [scan_none absent, List.nil_append]
  | case2 bytes length found frames rest scanned ih =>
      have within := (first_eq_some.mp found).2.2
      rw [scan_some (first_append later found), scan_some found,
        List.take_append_of_le_length within, List.drop_append_of_le_length within, ih]
      rfl

theorem overlong_append {bytes : List Symbol} (later : List Symbol)
    (overlong : framing.Overlong bytes) : framing.Overlong (bytes ++ later) := by
  unfold Overlong at overlong ⊢
  cases shown : framing.size bytes with
  | none =>
      rw [shown] at overlong
      rw [framing.size_late later shown overlong, List.length_append]
      exact Nat.lt_add_right _ overlong
  | some length =>
      rw [shown] at overlong
      rw [framing.size_append later shown]
      exact overlong

theorem first_overlong {bytes : List Symbol} (overlong : framing.Overlong bytes) :
    framing.first bytes = none := by
  unfold Overlong at overlong
  cases found : framing.first bytes with
  | none => rfl
  | some length =>
      obtain ⟨shown, small, -⟩ := first_eq_some.mp found
      rw [shown] at overlong
      exact absurd small (Nat.not_le.mpr overlong)

theorem scan_overlong {bytes : List Symbol} (later : List Symbol)
    (overlong : framing.Overlong bytes) : framing.scan (bytes ++ later) = ([], bytes ++ later) :=
  scan_none (first_overlong (overlong_append later overlong))

/-- A frame that one more symbol completes is all there is. -/
theorem first_snoc {bytes : List Symbol} {symbol : Symbol} {length : Nat}
    (quiet : framing.first bytes = none)
    (found : framing.first (bytes ++ [symbol]) = some length) : length = bytes.length + 1 := by
  obtain ⟨shown, small, within⟩ := first_eq_some.mp found
  rw [List.length_append, List.length_singleton] at within
  by_contra differs
  have early : length ≤ bytes.length := by omega
  have known := framing.size_take shown early
  rw [List.take_left] at known
  rw [first_eq_some.mpr ⟨known, small, early⟩] at quiet
  cases quiet

/-- A string whose first frame ends in its beginning has that frame in its beginning. -/
theorem first_of_leading {bytes later : List Symbol} {length : Nat}
    (found : framing.first (bytes ++ later) = some length) (within : length ≤ bytes.length) :
    framing.first bytes = some length := by
  obtain ⟨shown, small, -⟩ := first_eq_some.mp found
  have known := framing.size_take shown within
  rw [List.take_left] at known
  exact first_eq_some.mpr ⟨known, small, within⟩

/-- Frames that end within a string without a complete frame are none. -/
theorem frames_of_prefix {bytes later tail : List Symbol} (quiet : framing.first bytes = none)
    (same : bytes = (framing.scan (bytes ++ later)).1.flatten ++ tail) :
    (framing.scan (bytes ++ later)).1 = [] := by
  cases found : framing.first (bytes ++ later) with
  | none => rw [scan_none found]
  | some length =>
      have within := (first_eq_some.mp found).2.2
      have long := congrArg List.length same
      rw [scan_some found, List.flatten_cons, List.length_append, List.length_append,
        List.length_take, Nat.min_eq_left within] at long
      rw [first_of_leading found (by omega)] at quiet
      cases quiet

end Framing

end Msap1
