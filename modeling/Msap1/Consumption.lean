import Mathlib.Algebra.BigOperators.Group.Finset.Basic
import Mathlib.Tactic

/-! Registers that count up within a session and start again in the next one, and what was
consumed since they were last cleared. Logs are kept newest first. -/

namespace Msap1.Consumption

variable {Session Lane : Type} [DecidableEq Session]

inductive Entry (Session Lane : Type) where
  | reading (session : Session) (counters : Lane → Int)
  | reset

/-- The newest reading of a session, zero when it has none. -/
def lastReading (session : Session) (lane : Lane) : List (Entry Session Lane) → Int
  | [] => 0
  | .reading other counters :: log =>
      if other = session then counters lane else lastReading session lane log
  | .reset :: log => lastReading session lane log

def sinceReset : List (Entry Session Lane) → List (Entry Session Lane)
  | [] => []
  | .reading session counters :: log => .reading session counters :: sinceReset log
  | .reset :: _ => []

/-- The log as it stood at the last reset, empty when there was none. -/
def beforeReset : List (Entry Session Lane) → List (Entry Session Lane)
  | [] => []
  | .reading _ _ :: log => beforeReset log
  | .reset :: log => log

def sessions : List (Entry Session Lane) → List Session
  | [] => []
  | .reading session _ :: log => session :: sessions log
  | .reset :: log => sessions log

/-- Growth of every session read since the last reset, over its reading at that reset. -/
def consumed (log : List (Entry Session Lane)) (lane : Lane) : Int :=
  ∑ session ∈ (sessions (sinceReset log)).toFinset,
    (lastReading session lane log - lastReading session lane (beforeReset log))

/-- No session comes back after another one was read. -/
def NoReturn (sessions : List Session) : Prop :=
  ∀ first second, [first, second, first].Sublist sessions → second = first

omit [DecidableEq Session] in
theorem noReturn_sublist {shorter longer : List Session} (inside : shorter.Sublist longer)
    (separate : NoReturn longer) : NoReturn shorter :=
  fun first second found => separate first second (found.trans inside)

omit [DecidableEq Session] in
/-- A session that follows another one was never read before. -/
theorem noReturn_fresh {current next : Session} {earlier : List Session}
    (separate : NoReturn (next :: current :: earlier)) (different : next ≠ current) :
    next ∉ current :: earlier := by
  intro member
  rcases List.mem_cons.mp member with same | inside
  · exact different same
  · have found : [next, current, next].Sublist (next :: current :: earlier) :=
      ((List.singleton_sublist.mpr inside).cons_cons current).cons_cons next
    exact different (separate next current found).symm

theorem lastReading_absent {session : Session} {lane : Lane} {log : List (Entry Session Lane)}
    (absent : session ∉ sessions log) : lastReading session lane log = 0 := by
  induction log with
  | nil => rfl
  | cons entry log ih =>
      cases entry with
      | reading other counters =>
          rw [sessions, List.mem_cons, not_or] at absent
          rw [lastReading, if_neg (Ne.symm absent.1)]
          exact ih absent.2
      | reset => exact ih absent

/-- A session not read since the last reset still stands where it stood then. -/
theorem lastReading_sinceReset {session : Session} {lane : Lane}
    {log : List (Entry Session Lane)} (absent : session ∉ sessions (sinceReset log)) :
    lastReading session lane log = lastReading session lane (beforeReset log) := by
  induction log with
  | nil => rfl
  | cons entry log ih =>
      cases entry with
      | reading other counters =>
          rw [sinceReset, sessions, List.mem_cons, not_or] at absent
          rw [lastReading, if_neg (Ne.symm absent.1), beforeReset]
          exact ih absent.2
      | reset => rfl

theorem consumed_reset (log : List (Entry Session Lane)) (lane : Lane) :
    consumed (.reset :: log) lane = 0 := by
  simp [consumed, sinceReset, sessions]

/-- A new reading adds exactly what its session grew by. -/
theorem consumed_reading (session : Session) (counters : Lane → Int)
    (log : List (Entry Session Lane)) (lane : Lane) :
    consumed (.reading session counters :: log) lane =
      consumed log lane + (counters lane - lastReading session lane log) := by
  have others : ∀ other ∈ (sessions (sinceReset log)).toFinset.erase session,
      lastReading other lane (.reading session counters :: log) -
          lastReading other lane (beforeReset log) =
        lastReading other lane log - lastReading other lane (beforeReset log) := by
    intro other member
    rw [lastReading, if_neg (Ne.symm (Finset.ne_of_mem_erase member))]
  have own : lastReading session lane (.reading session counters :: log) = counters lane :=
    if_pos rfl
  unfold consumed
  rw [sinceReset, sessions, beforeReset, List.toFinset_cons]
  by_cases member : session ∈ (sessions (sinceReset log)).toFinset
  · rw [Finset.insert_eq_of_mem member, ← Finset.add_sum_erase _ _ member,
      ← Finset.add_sum_erase _ _ member, Finset.sum_congr rfl others, own]
    ring
  · have absent : session ∉ sessions (sinceReset log) := by simpa using member
    rw [Finset.sum_insert member, own, lastReading_sinceReset absent]
    rw [Finset.erase_eq_of_notMem member] at others
    rw [Finset.sum_congr rfl others]
    ring

end Msap1.Consumption
