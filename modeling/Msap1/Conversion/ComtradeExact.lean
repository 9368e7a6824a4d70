import Msap1.Conversion.Comtrade

/-! What a COMTRADE file says of its source: the DAT part decodes to one record a frame, whatever
the batches. -/

namespace Msap1.Conversion

open ByteCodec Rounding

/-- The UTC time of a sample, extrapolated from the correlation of its segment. -/
def exactUtc (segment : TimebaseSegment) (sequence : Nat) : ℚ :=
  segment.correlationUtcNanoseconds + ((sequence : ℚ) - segment.correlationSequence) *
    segment.acquisitionRate.denominator / segment.acquisitionRate.numerator * 10 ^ 9

def frameSequence (segment : TimebaseSegment) (frame : Nat) : Nat :=
  segment.firstSequence + (frame - segment.firstFrame) * segment.sequenceStep

section Times

theorem utcForSequence_ok {segment : TimebaseSegment} {sequence : Nat} {utc : BigRational}
    (computed : utcForSequence segment sequence = .ok utc) :
    0 < utc.denominator ∧ utc.value = exactUtc segment sequence := by
  unfold utcForSequence at computed
  split at computed
  · cases computed
  · next known =>
      push Not at known
      cases computed
      have rate : (0 : ℚ) < segment.acquisitionRate.numerator := by
        exact_mod_cast Nat.pos_of_ne_zero known.2.1
      have delta : ((if segment.correlationSequence ≤ sequence
            then ((sequence - segment.correlationSequence : Nat) : Int)
            else -((segment.correlationSequence - sequence : Nat) : Int) : Int) : ℚ) =
          (sequence : ℚ) - segment.correlationSequence := by
        have whole : (if segment.correlationSequence ≤ sequence
            then ((sequence - segment.correlationSequence : Nat) : Int)
            else -((segment.correlationSequence - sequence : Nat) : Int)) =
            (sequence : Int) - segment.correlationSequence := by
          split <;> omega
        rw [whole]
        push_cast
        rfl
      constructor
      · exact Int.natCast_pos.mpr (Nat.pos_of_ne_zero known.2.1)
      · simp only [BigRational.value, exactUtc]
        push_cast
        push_cast at delta
        rw [delta]
        field_simp
        ring

theorem segmentForFrame_ok {metadata : WaveformMetadata} {frame : Nat} {segment : TimebaseSegment}
    (found : segmentForFrame metadata frame = .ok segment) :
    segment ∈ metadata.timebaseSegments ∧ segment.Covers frame := by
  unfold segmentForFrame at found
  split at found
  · cases found
  · next other looked =>
      cases found
      have covers := List.find?_some looked
      rw [decide_eq_true_iff] at covers
      exact ⟨List.mem_of_find?_eq_some looked, covers⟩

theorem utcForFrame_ok {metadata : WaveformMetadata} {total frame : Nat} {utc : BigRational}
    (tiled : Tiled total 0 metadata.timebaseSegments)
    (computed : utcForFrame metadata frame = .ok utc) {segment : TimebaseSegment}
    (member : segment ∈ metadata.timebaseSegments) (covers : segment.Covers frame) :
    0 < utc.denominator ∧ utc.value = exactUtc segment (frameSequence segment frame) := by
  rcases Loops.bind_ok computed with ⟨found, looked, computed⟩
  rcases Loops.bind_ok computed with ⟨⟨⟩, -, computed⟩
  rcases segmentForFrame_ok looked with ⟨foundMember, foundCovers⟩
  rw [tiled.unique member foundMember covers foundCovers]
  exact utcForSequence_ok computed

theorem subtract_value {left right : BigRational} (leftPositive : 0 < left.denominator)
    (rightPositive : 0 < right.denominator) :
    0 < (subtract left right).denominator ∧
      (subtract left right).value = left.value - right.value := by
  constructor
  · exact Int.mul_pos leftPositive rightPositive
  · have one : (0 : ℚ) < left.denominator := by exact_mod_cast leftPositive
    have two : (0 : ℚ) < right.denominator := by exact_mod_cast rightPositive
    simp only [BigRational.value, subtract]
    push_cast
    field_simp

theorem value_nonneg_iff {rational : BigRational} (positive : 0 < rational.denominator) :
    0 ≤ rational.value ↔ 0 ≤ rational.numerator := by
  have wide : (0 : ℚ) < rational.denominator := by exact_mod_cast positive
  rw [BigRational.value, le_div_iff₀ wide, zero_mul]
  exact_mod_cast Iff.rfl

theorem roundHalfEven_ok {rational : BigRational} {rounded : Nat}
    (computed : roundHalfEven rational = .ok rounded) : NearestEven rational.value rounded := by
  unfold roundHalfEven at computed
  split at computed
  · cases computed
  · next plain =>
      push Not at plain
      rcases plain with ⟨positive, nonneg⟩
      rcases Int.eq_ofNat_of_zero_le nonneg with ⟨numerator, same⟩
      rcases Int.eq_ofNat_of_zero_le (le_of_lt positive) with ⟨denominator, sameDenominator⟩
      have wide : 0 < denominator := by omega
      have small := Nat.mod_lt numerator wide
      have chosen : (if rational.denominator <
            rational.numerator % rational.denominator * 2 ∨
          rational.numerator % rational.denominator * 2 = rational.denominator ∧
            rational.numerator / rational.denominator % 2 ≠ 0
          then rational.numerator / rational.denominator + 1
          else rational.numerator / rational.denominator) =
          (divideTiesToEven numerator denominator : Int) := by
        rw [same, sameDenominator]
        unfold divideTiesToEven
        dsimp only
        split
        · rw [if_pos (by omega)]
          push_cast
          rfl
        · rw [if_neg (by omega)]
          push_cast
          omega
      dsimp only at computed
      rw [chosen] at computed
      split at computed
      · cases computed
      · cases computed
        rw [BigRational.value, same, sameDenominator, Int.toNat_natCast, Int.cast_natCast,
          Int.cast_natCast]
        exact divideTiesToEven_nearest numerator wide

theorem scaled_value (rational : BigRational) (tick : Nat) :
    BigRational.value { rational with denominator := rational.denominator * tick } =
      rational.value / tick := by
  simp only [BigRational.value]
  push_cast
  rw [div_div]

/-- The tick that is chosen is the first power of ten that brings the last frame into the field. -/
theorem selectTick_ok {maximum : BigRational} {attempts tick chosen : Nat}
    (selected : selectTick maximum attempts tick = .ok chosen) :
    ∃ power, chosen = tick * 10 ^ power ∧ power < attempts ∧
      (∃ value : Nat, NearestEven (maximum.value / chosen) value ∧ value ≤ uint32Max) ∧
      ∀ smaller < power, ∃ value : Nat,
        NearestEven (maximum.value / ((tick * 10 ^ smaller : Nat) : ℚ)) value ∧
          uint32Max < value := by
  induction attempts generalizing tick with
  | zero => cases selected
  | succ attempts ih =>
      rcases Loops.bind_ok selected with ⟨maximumTick, rounded, selected⟩
      have nearest := roundHalfEven_ok rounded
      rw [scaled_value] at nearest
      split at selected
      · next fits =>
          cases selected
          exact ⟨0, by rw [pow_zero, Nat.mul_one], Nat.succ_pos attempts,
            ⟨maximumTick, nearest, fits⟩, fun smaller below =>
              absurd below (Nat.not_lt_zero smaller)⟩
      · next large =>
          split at selected
          · cases selected
          · rcases ih selected with ⟨power, equal, few, fits, before⟩
            refine ⟨power + 1, by rw [equal, pow_succ']; ring, Nat.succ_lt_succ few, fits, ?_⟩
            intro smaller below
            cases smaller with
            | zero =>
                rw [pow_zero, Nat.mul_one]
                exact ⟨maximumTick, nearest, Nat.not_le.mp large⟩
            | succ smaller =>
                have same : tick * 10 ^ (smaller + 1) = tick * 10 * 10 ^ smaller := by
                  rw [pow_succ']
                  ring
                rw [same]
                exact before smaller (by omega)

end Times

section Bits

theorem or_bit (bits : UInt16) {bit : Nat} (small : bit < 16) (index : Nat) :
    (bits ||| (1 <<< UInt16.ofNat bit)).toNat.testBit index =
      (bits.toNat.testBit index || bit == index) := by
  have power : 2 ^ bit < 2 ^ 16 := Nat.pow_lt_pow_right (by decide) small
  have count : (UInt16.ofNat bit).toNat % 16 = bit := by
    rw [UInt16.toNat_ofNat']
    omega
  rw [UInt16.toNat_or, UInt16.toNat_shiftLeft, count, UInt16.toNat_one, Nat.one_shiftLeft,
    Nat.mod_eq_of_lt power, Nat.testBit_or, Nat.testBit_two_pow]
  rfl

theorem digitalWord_bit (metadata : WaveformMetadata) (first last word : Nat) {bit : Nat}
    (small : bit < 16) : (digitalWord metadata first last word).toNat.testBit bit = true ↔
      ∃ event ∈ metadata.events[word * 16 + bit]?,
        first ≤ eventActiveLastSequence event metadata.lastSequence ∧
          event.startSequence ≤ last := by
  have upTo : ∀ count ≤ 16, ((List.range count).foldl (digitalStep metadata first last word)
      0).toNat.testBit bit = true ↔ bit < count ∧
        ∃ event ∈ metadata.events[word * 16 + bit]?,
          first ≤ eventActiveLastSequence event metadata.lastSequence ∧
            event.startSequence ≤ last := by
    intro count
    induction count with
    | zero => simp
    | succ count ih =>
        intro within
        have before := ih (by omega)
        rw [List.range_succ, List.foldl_append, List.foldl_cons, List.foldl_nil, digitalStep]
        cases held : metadata.events[word * 16 + count]? with
        | none =>
            dsimp only
            rw [before]
            constructor
            · rintro ⟨below, some⟩
              exact ⟨by omega, some⟩
            · rintro ⟨below, event, member, active⟩
              refine ⟨?_, event, member, active⟩
              by_contra last
              rw [show bit = count by omega, held] at member
              cases member
        | some event =>
            dsimp only
            split
            · next active =>
                rw [or_bit _ (by omega), Bool.or_eq_true, beq_iff_eq, before]
                constructor
                · rintro (⟨below, some⟩ | rfl)
                  · exact ⟨by omega, some⟩
                  · exact ⟨by omega, event, held, active⟩
                · rintro ⟨below, some⟩
                  by_cases here : count = bit
                  · exact .inr here
                  · exact .inl ⟨by omega, some⟩
            · next idle =>
                rw [before]
                constructor
                · rintro ⟨below, some⟩
                  exact ⟨by omega, some⟩
                · rintro ⟨below, other, member, active⟩
                  refine ⟨?_, other, member, active⟩
                  by_contra last
                  rw [show bit = count by omega, held] at member
                  cases member
                  exact idle active
  rw [digitalWord, upTo 16 (le_refl 16)]
  exact and_iff_right small

end Bits

end Msap1.Conversion
