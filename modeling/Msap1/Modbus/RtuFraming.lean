import Msap1.Framing
import Msap1.Modbus.RequestHandler

/-! `RtuFrameAssembler`: requests out of the bytes of a serial line, as the reads of the driver
bring them. -/

namespace Msap1.Modbus

def maximumRtuFrameSize : Nat := 256

namespace RtuFrameAssembler

/-- An unsupported function has no length; the silence ends its frame. -/
def frameSize (bytes : Bytes) : Option Nat :=
  match bytes[1]? with
  | none => none
  | some function =>
      if function = 3 ∨ function = 4 ∨ function = 6 then some 8
      else if function = 16 then (bytes[6]?).map fun count => 9 + count.toNat
      else none

/-- What `push` throws. -/
inductive LengthError where
  | frameExceedsBound
  deriving DecidableEq, Repr

/-- The loop of `push`, one frame for each unit of fuel. Frames are not empty, so that the length
of the buffer is enough. -/
def drain : Nat → Bytes → List Bytes → Bytes × Except LengthError (List Bytes)
  | 0, buffer, frames => (buffer, .ok frames)
  | fuel + 1, buffer, frames =>
      match frameSize buffer with
      | none =>
          if maximumRtuFrameSize < buffer.length then ([], .error .frameExceedsBound)
          else (buffer, .ok frames)
      | some size =>
          if maximumRtuFrameSize < size then ([], .error .frameExceedsBound)
          else if buffer.length < size then (buffer, .ok frames)
          else drain fuel (buffer.drop size) (frames ++ [buffer.take size])

def push (buffer bytes : Bytes) : Bytes × Except LengthError (List Bytes) :=
  drain (buffer ++ bytes).length (buffer ++ bytes) []

def finishOnSilence (buffer : Bytes) : Option Bytes := if buffer = [] then none else some buffer

/-- Successive reads, up to the first that throws: the frames returned before, and the buffer
behind the last read when none throws. -/
def pushes : Bytes → List Bytes → List Bytes × Option Bytes
  | buffer, [] => ([], some buffer)
  | buffer, chunk :: chunks =>
      match push buffer chunk with
      | (_, .error _) => ([], none)
      | (after, .ok frames) => (frames ++ (pushes after chunks).1, (pushes after chunks).2)

def bytewise (bytes : Bytes) : List Bytes := bytes.map fun byte => [byte]

theorem frameSize_eq_some {bytes : Bytes} {size : Nat} :
    frameSize bytes = some size ↔
      ∃ function, bytes[1]? = some function ∧
        (((function = 3 ∨ function = 4 ∨ function = 6) ∧ size = 8) ∨
          (function = 16 ∧ ∃ count, bytes[6]? = some count ∧ size = 9 + count.toNat)) := by
  unfold frameSize
  cases shown : bytes[1]? with
  | none => simp
  | some function =>
      by_cases short : function = 3 ∨ function = 4 ∨ function = 6
      · have other : function ≠ 16 := by
          rcases short with rfl | rfl | rfl <;> decide
        simp [short, other, eq_comm]
      · by_cases multiple : function = 16
        · simp [multiple, eq_comm]
        · simp [short, multiple]

theorem getElem?_append_of_some {bytes : Bytes} {index : Nat} {byte : UInt8} (later : Bytes)
    (found : bytes[index]? = some byte) : (bytes ++ later)[index]? = some byte := by
  obtain ⟨within, _⟩ := List.getElem?_eq_some_iff.mp found
  rw [List.getElem?_append_left within, found]

def framing : Framing UInt8 where
  size := frameSize
  limit := maximumRtuFrameSize
  size_positive := by
    intro known length shown
    obtain ⟨function, -, ⟨-, rfl⟩ | ⟨-, count, -, rfl⟩⟩ := frameSize_eq_some.mp shown <;> omega
  size_append := by
    intro known length later shown
    obtain ⟨function, second, rest⟩ := frameSize_eq_some.mp shown
    refine frameSize_eq_some.mpr ⟨function, getElem?_append_of_some later second, ?_⟩
    rcases rest with short | ⟨multiple, count, seventh, rfl⟩
    · exact Or.inl short
    · exact Or.inr ⟨multiple, count, getElem?_append_of_some later seventh, rfl⟩
  size_take := by
    intro known length count shown enough
    obtain ⟨function, second, rest⟩ := frameSize_eq_some.mp shown
    refine frameSize_eq_some.mpr ⟨function, ?_, ?_⟩
    · rw [List.getElem?_take_of_lt, second]
      rcases rest with ⟨-, rfl⟩ | ⟨-, _, -, rfl⟩ <;> omega
    · rcases rest with short | ⟨multiple, number, seventh, rfl⟩
      · exact Or.inl short
      · exact Or.inr ⟨multiple, number, by rw [List.getElem?_take_of_lt (by omega), seventh], rfl⟩
  size_late := by
    intro known later absent long
    have enough : 6 < known.length := Nat.lt_trans (by decide) long
    rw [frameSize, List.getElem?_append_left (by omega), List.getElem?_append_left enough]
    exact absent

open Framing

theorem drain_eq (fuel : Nat) (buffer : Bytes) (frames : List Bytes)
    (enough : buffer.length ≤ fuel) :
    drain fuel buffer frames =
      if framing.Overlong (framing.scan buffer).2 then ([], .error .frameExceedsBound)
      else ((framing.scan buffer).2, .ok (frames ++ (framing.scan buffer).1)) := by
  induction fuel generalizing buffer frames with
  | zero =>
      obtain rfl := List.length_eq_zero_iff.mp (Nat.le_zero.mp enough)
      rw [scan_none (by decide), if_neg (by decide), List.append_nil]
      rfl
  | succ fuel ih =>
      have shown : framing.size buffer = frameSize buffer := rfl
      rw [drain]
      cases known : frameSize buffer with
      | none =>
          rw [known] at shown
          rw [scan_none (by rw [first, shown]; rfl)]
          simp only [Overlong, shown, List.append_nil]
          rfl
      | some size =>
          rw [known] at shown
          by_cases long : maximumRtuFrameSize < size
          · have overlong : framing.Overlong buffer := by
              rw [Overlong, shown]
              exact long
            simp only [long, if_true, scan_none (first_overlong overlong), overlong]
          · by_cases short : buffer.length < size
            · have absent : framing.first buffer = none := by
                rw [Option.eq_none_iff_forall_ne_some]
                intro length found
                obtain ⟨same, -, within⟩ := first_eq_some.mp found
                rw [shown] at same
                cases same
                omega
              have quiet : ¬framing.Overlong buffer := by
                rw [Overlong, shown]
                exact long
              simp only [long, short, if_true, if_false, scan_none absent, quiet, List.append_nil]
            · have found : framing.first buffer = some size :=
                first_eq_some.mpr ⟨shown, Nat.not_lt.mp long, Nat.not_lt.mp short⟩
              have shorter := drop_shorter found
              simp only [long, short, if_false, scan_some found]
              rw [ih _ _ (by omega), List.append_assoc]
              rfl

theorem push_eq (buffer bytes : Bytes) :
    push buffer bytes =
      if framing.Overlong (framing.scan (buffer ++ bytes)).2 then
        ([], .error .frameExceedsBound)
      else ((framing.scan (buffer ++ bytes)).2, .ok (framing.scan (buffer ++ bytes)).1) := by
  rw [push, drain_eq _ _ _ (Nat.le_refl _), List.nil_append]

theorem pushes_overlong {buffer chunk : Bytes} {chunks : List Bytes}
    (overlong : framing.Overlong (framing.scan (buffer ++ chunk)).2) :
    pushes buffer (chunk :: chunks) = ([], none) := by
  rw [pushes, push_eq, if_pos overlong]

theorem pushes_quiet {buffer chunk : Bytes} {chunks : List Bytes}
    (quiet : ¬framing.Overlong (framing.scan (buffer ++ chunk)).2) :
    pushes buffer (chunk :: chunks) =
      ((framing.scan (buffer ++ chunk)).1 ++ (pushes (framing.scan (buffer ++ chunk)).2 chunks).1,
        (pushes (framing.scan (buffer ++ chunk)).2 chunks).2) := by
  rw [pushes, push_eq, if_neg quiet]

/-- What the assembler holds between two reads. -/
structure Quiet (buffer : Bytes) : Prop where
  incomplete : framing.first buffer = none
  bounded : ¬framing.Overlong buffer

theorem quiet_nil : Quiet [] := ⟨by decide, by decide⟩

theorem pushes_bounded (buffer : Bytes) (chunks : List Bytes) (quiet : Quiet buffer)
    (bounded : ¬framing.Overlong (framing.scan (buffer ++ chunks.flatten)).2) :
    pushes buffer chunks =
      ((framing.scan (buffer ++ chunks.flatten)).1,
        some (framing.scan (buffer ++ chunks.flatten)).2) := by
  induction chunks generalizing buffer with
  | nil =>
      rw [List.flatten_nil, List.append_nil, scan_none quiet.incomplete]
      rfl
  | cons chunk chunks ih =>
      rw [List.flatten_cons, ← List.append_assoc, scan_append] at bounded ⊢
      have early : ¬framing.Overlong (framing.scan (buffer ++ chunk)).2 := by
        intro overlong
        rw [scan_overlong _ overlong] at bounded
        exact bounded (overlong_append _ overlong)
      rw [pushes_quiet early, ih _ ⟨scan_rest _, early⟩ bounded]

/-- Some of the reads bring the complete requests and a tail that shows no overflow yet. -/
def BoundaryBetween (buffer : Bytes) (chunks : List Bytes) : Prop :=
  ∃ earlier tail, earlier <+: chunks ∧
    buffer ++ earlier.flatten =
      (framing.scan (buffer ++ chunks.flatten)).1.flatten ++ tail ∧ ¬framing.Overlong tail

theorem boundary_nil {buffer tail : Bytes} {chunks : List Bytes} (quiet : Quiet buffer)
    (same : buffer = (framing.scan (buffer ++ chunks.flatten)).1.flatten ++ tail) :
    (framing.scan (buffer ++ chunks.flatten)).1 = [] :=
  frames_of_prefix quiet.incomplete same

/-- Before an overlong tail a cut returns the complete requests just when it has a boundary
between them and the overflow. -/
theorem pushes_overflow (buffer : Bytes) (chunks : List Bytes) (quiet : Quiet buffer)
    (overlong : framing.Overlong (framing.scan (buffer ++ chunks.flatten)).2) :
    (pushes buffer chunks).2 = none ∧
      ((pushes buffer chunks).1 <+: (framing.scan (buffer ++ chunks.flatten)).1) ∧
      ((pushes buffer chunks).1 = (framing.scan (buffer ++ chunks.flatten)).1 ↔
        BoundaryBetween buffer chunks) := by
  induction chunks generalizing buffer with
  | nil =>
      rw [List.flatten_nil, List.append_nil, scan_none quiet.incomplete] at overlong
      exact absurd overlong quiet.bounded
  | cons chunk chunks ih =>
      have joined : buffer ++ (chunk :: chunks).flatten = (buffer ++ chunk) ++ chunks.flatten := by
        rw [List.flatten_cons, List.append_assoc]
      have whole : framing.scan (buffer ++ (chunk :: chunks).flatten) =
          ((framing.scan (buffer ++ chunk)).1 ++
              (framing.scan ((framing.scan (buffer ++ chunk)).2 ++ chunks.flatten)).1,
            (framing.scan ((framing.scan (buffer ++ chunk)).2 ++ chunks.flatten)).2) := by
        rw [joined]
        exact scan_append (buffer ++ chunk) chunks.flatten
      have taken :
          (framing.scan (buffer ++ chunk)).1.flatten ++ (framing.scan (buffer ++ chunk)).2 =
            buffer ++ chunk := scan_flatten (buffer ++ chunk)
      by_cases early : framing.Overlong (framing.scan (buffer ++ chunk)).2
      · have frames : (framing.scan (buffer ++ (chunk :: chunks).flatten)).1 =
            (framing.scan (buffer ++ chunk)).1 := by
          rw [whole, scan_overlong _ early, List.append_nil]
        rw [pushes_overlong early]
        refine ⟨rfl, List.nil_prefix, ?_⟩
        constructor
        · intro none
          refine ⟨[], buffer, List.nil_prefix, ?_, quiet.bounded⟩
          rw [← none, List.flatten_nil, List.append_nil, List.nil_append]
        · rintro ⟨earlier, tail, inside, same, bounded⟩
          cases earlier with
          | nil =>
              rw [List.flatten_nil, List.append_nil] at same
              exact (boundary_nil quiet same).symm
          | cons head rest =>
              obtain ⟨rfl, inside⟩ := List.cons_prefix_cons.mp inside
              have shared : (framing.scan (buffer ++ head)).1.flatten ++
                    ((framing.scan (buffer ++ head)).2 ++ rest.flatten) =
                  (framing.scan (buffer ++ head)).1.flatten ++ tail := by
                rw [← List.append_assoc, taken, List.append_assoc, ← List.flatten_cons, same,
                  frames]
              rw [← List.append_cancel_left shared] at bounded
              exact absurd (overlong_append _ early) bounded
      · have rest := ih (framing.scan (buffer ++ chunk)).2 ⟨scan_rest _, early⟩
          (by rw [whole] at overlong; exact overlong)
        obtain ⟨throws, returned, boundary⟩ := rest
        have frames : (framing.scan (buffer ++ (chunk :: chunks).flatten)).1 =
            (framing.scan (buffer ++ chunk)).1 ++
              (framing.scan ((framing.scan (buffer ++ chunk)).2 ++ chunks.flatten)).1 := by
          rw [whole]
        rw [pushes_quiet early, frames]
        refine ⟨throws, (List.prefix_append_right_inj _).mpr returned, ?_⟩
        rw [List.append_cancel_left_eq, boundary]
        constructor
        · rintro ⟨earlier, tail, inside, same, bounded⟩
          refine ⟨chunk :: earlier, tail, List.cons_prefix_cons.mpr ⟨rfl, inside⟩, ?_, bounded⟩
          calc
            buffer ++ (chunk :: earlier).flatten
                = (framing.scan (buffer ++ chunk)).1.flatten ++
                    ((framing.scan (buffer ++ chunk)).2 ++ earlier.flatten) := by
                  rw [← List.append_assoc, taken, List.append_assoc, List.flatten_cons]
            _ = (framing.scan (buffer ++ (chunk :: chunks).flatten)).1.flatten ++ tail := by
                  rw [same, frames, List.flatten_append, List.append_assoc]
        · rintro ⟨earlier, tail, inside, same, bounded⟩
          cases earlier with
          | nil =>
              rw [List.flatten_nil, List.append_nil] at same
              have none := boundary_nil quiet same
              rw [frames, List.append_eq_nil_iff] at none
              refine ⟨[], (framing.scan (buffer ++ chunk)).2, List.nil_prefix, ?_, early⟩
              rw [none.2, List.flatten_nil, List.append_nil, List.nil_append]
          | cons head rest =>
              obtain ⟨rfl, within⟩ := List.cons_prefix_cons.mp inside
              refine ⟨rest, tail, within, ?_, bounded⟩
              have shared : (framing.scan (buffer ++ head)).1.flatten ++
                    ((framing.scan (buffer ++ head)).2 ++ rest.flatten) =
                  (framing.scan (buffer ++ head)).1.flatten ++
                    ((framing.scan
                      ((framing.scan (buffer ++ head)).2 ++ chunks.flatten)).1.flatten ++
                      tail) := by
                rw [← List.append_assoc, taken, List.append_assoc, ← List.flatten_cons, same,
                  frames, List.flatten_append, List.append_assoc]
              exact List.append_cancel_left shared

theorem scan_snoc_overlong {buffer : Bytes} {byte : UInt8} (quiet : Quiet buffer)
    (overlong : framing.Overlong (framing.scan (buffer ++ [byte])).2) :
    framing.scan (buffer ++ [byte]) = ([], buffer ++ [byte]) := by
  cases found : framing.first (buffer ++ [byte]) with
  | none => exact scan_none found
  | some length =>
      have all := first_snoc quiet.incomplete found
      have rest : (buffer ++ [byte]).drop length = [] := by
        rw [all, List.drop_eq_nil_iff, List.length_append, List.length_singleton]
      rw [scan_some found, rest, scan_none quiet_nil.incomplete] at overlong
      exact absurd overlong quiet_nil.bounded

theorem bytewise_flatten (bytes : Bytes) : (bytewise bytes).flatten = bytes := by
  induction bytes with
  | nil => rfl
  | cons byte bytes ih => exact congrArg (byte :: ·) ih

theorem pushes_bytewise_overflow (buffer bytes : Bytes) (quiet : Quiet buffer)
    (overlong : framing.Overlong (framing.scan (buffer ++ bytes)).2) :
    pushes buffer (bytewise bytes) = ((framing.scan (buffer ++ bytes)).1, none) := by
  induction bytes generalizing buffer with
  | nil =>
      rw [List.append_nil, scan_none quiet.incomplete] at overlong
      exact absurd overlong quiet.bounded
  | cons byte bytes ih =>
      rw [List.append_cons buffer byte bytes, scan_append] at overlong ⊢
      by_cases early : framing.Overlong (framing.scan (buffer ++ [byte])).2
      · rw [scan_overlong _ early, scan_snoc_overlong quiet early]
        exact pushes_overlong early
      · have later := ih (framing.scan (buffer ++ [byte])).2 ⟨scan_rest _, early⟩ overlong
        calc
          pushes buffer (bytewise (byte :: bytes))
              = ((framing.scan (buffer ++ [byte])).1 ++
                  (pushes (framing.scan (buffer ++ [byte])).2 (bytewise bytes)).1,
                (pushes (framing.scan (buffer ++ [byte])).2 (bytewise bytes)).2) :=
                pushes_quiet early
          _ = _ := by rw [later]

theorem finishOnSilence_rest (buffer : Bytes) : (finishOnSilence buffer).getD [] = buffer := by
  unfold finishOnSilence
  split
  · next empty => rw [empty]; rfl
  · rfl

/-- The cut shows neither in the frames nor in what the silence ends, and an overflow takes no
request that one byte at a time would have returned. -/
structure CutIndependent (chunks : List Bytes) : Prop where
  bounded : ∀ {single : List Bytes} {rest : Bytes},
    pushes [] (bytewise chunks.flatten) = (single, some rest) →
      ∃ after, pushes [] chunks = (single, some after) ∧
        finishOnSilence after = finishOnSilence rest ∧
        single.flatten ++ (finishOnSilence after).getD [] = chunks.flatten
  overflowing : ∀ {single : List Bytes},
    pushes [] (bytewise chunks.flatten) = (single, none) → single <+: (pushes [] chunks).1

theorem pushes_cut_independent_iff (chunks : List Bytes) :
    CutIndependent chunks ↔
      (framing.Overlong (framing.scan chunks.flatten).2 → BoundaryBetween [] chunks) := by
  have joined : ([] : Bytes) ++ chunks.flatten = chunks.flatten := List.nil_append _
  by_cases overlong : framing.Overlong (framing.scan chunks.flatten).2
  · have single := pushes_bytewise_overflow [] chunks.flatten quiet_nil overlong
    obtain ⟨throws, returned, boundary⟩ := pushes_overflow [] chunks quiet_nil overlong
    rw [joined] at single returned boundary
    constructor
    · intro independent _
      exact boundary.mp (returned.sublist.antisymm (independent.overflowing single).sublist)
    · intro between
      constructor
      · intro frames rest same
        rw [single] at same
        cases same
      · intro frames same
        rw [single] at same
        cases same
        rw [boundary.mpr (between overlong)]
  · have cut := pushes_bounded [] chunks quiet_nil overlong
    have single := pushes_bounded [] (bytewise chunks.flatten) quiet_nil
      (by rw [bytewise_flatten]; exact overlong)
    rw [bytewise_flatten, joined] at single
    rw [joined] at cut
    constructor
    · intro _ reached
      exact absurd reached overlong
    · intro _
      constructor
      · intro frames rest same
        rw [single] at same
        cases same
        refine ⟨_, cut, rfl, ?_⟩
        rw [finishOnSilence_rest, scan_flatten]
      · intro frames same
        rw [single] at same
        cases same

/-- A request to read one register, and the start of one to write 124 of them. -/
def requestAndOverlongWrite : Bytes :=
  [0x01, 0x03, 0x00, 0x00, 0x00, 0x01, 0x84, 0x0a] ++ [0x01, 0x10, 0x00, 0x00, 0x00, 0x7c, 0xf8]

theorem push_loses_request :
    pushes [] (bytewise requestAndOverlongWrite) =
        ([[0x01, 0x03, 0x00, 0x00, 0x00, 0x01, 0x84, 0x0a]], none) ∧
      pushes [] [requestAndOverlongWrite] = ([], none) ∧
      ¬CutIndependent [requestAndOverlongWrite] := by
  have single : pushes [] (bytewise requestAndOverlongWrite) =
      ([[0x01, 0x03, 0x00, 0x00, 0x00, 0x01, 0x84, 0x0a]], none) := by decide +kernel
  have cut : pushes [] [requestAndOverlongWrite] = ([], none) := by decide +kernel
  refine ⟨single, cut, ?_⟩
  intro independent
  have returned := independent.overflowing single
  rw [cut, List.prefix_nil] at returned
  cases returned

end RtuFrameAssembler

end Msap1.Modbus
