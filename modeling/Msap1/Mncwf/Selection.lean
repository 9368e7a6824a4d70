import Msap1.Mncwf.Reader

/-! Which frames of a capture an event selects, as `make_mncwf_v4_event_selection` computes them
from the timebase segments. -/

namespace Msap1.Mncwf

theorem rejectIf_ok {bad : Bool} {reason : String} {done : Unit}
    (passed : rejectIf bad reason = .ok done) : bad = false := by
  cases bad with
  | false => rfl
  | true => cases passed

theorem checkedAdd_ok {left right result : Nat} {label : String}
    (added : checkedAdd left right label = .ok result) : result = left + right := by
  unfold checkedAdd at added
  split at added
  · exact (Except.ok.inj added).symm
  · cases added

theorem checkedMultiply_ok {left right result : Nat} {label : String}
    (multiplied : checkedMultiply left right label = .ok result) : result = left * right := by
  unfold checkedMultiply at multiplied
  split at multiplied
  · exact (Except.ok.inj multiplied).symm
  · cases multiplied

def eventLastSequence (event : MncwfV4EventDescriptor) : UInt64 :=
  if flagged event.flags eventEndValid then event.endSequence
  else if flagged event.flags eventCurrentValid then event.currentSequence
  else event.startSequence

/-- The loop variables of the selection. -/
structure FrameRange where
  firstFrame : Option Nat := none
  lastFrameExclusive : Nat := 0

/-- One segment: the frames of it that hold samples between the two sequences. -/
def growRange (requestedFirst requestedLast : Nat) (frames : FrameRange)
    (segment : MncwfV4TimebaseSegment) : Checked FrameRange := do
  let firstSequence := segment.firstSequence.toNat
  let segmentLast ← checkedAdd firstSequence (segment.sourceFrameCount.toNat - 1)
    "virtual segment sequence range"
  if requestedLast < firstSequence ∨ segmentLast < requestedFirst then
    .ok frames
  else do
    let divisor := segment.decimationDivisor.toNat
    let localFirst := if requestedFirst ≤ firstSequence then 0
      else (requestedFirst - firstSequence) / divisor
    let localLast := if segmentLast ≤ requestedLast then segment.frameCount.toNat - 1
      else (requestedLast - firstSequence) / divisor
    let absoluteFirst ← checkedAdd segment.firstFrame.toNat localFirst "virtual first frame"
    let absoluteLast ← checkedAdd segment.firstFrame.toNat (localLast + 1) "virtual last frame"
    .ok {
      firstFrame := some (frames.firstFrame.elim absoluteFirst fun first =>
        min first absoluteFirst)
      lastFrameExclusive := max frames.lastFrameExclusive absoluteLast }

def eventFrames (contents : Contents) (eventUuid : MncwfUuid) : Checked (Nat × Nat) := do
  rejectIf (allZero eventUuid.val) "virtual slice event UUID is zero"
  match contents.events.find? fun event => event.eventUuid == eventUuid with
  | none => reject "virtual slice event UUID is not in the capture"
  | some selected => do
      let frames ← contents.timebaseSegments.foldlM
        (growRange selected.startSequence.toNat (eventLastSequence selected).toNat) {}
      match frames.firstFrame with
      | none => reject "virtual slice event has no sample frames"
      | some first => do
          rejectIf (frames.lastFrameExclusive ≤ first) "virtual slice event has no sample frames"
          .ok (first, frames.lastFrameExclusive - first)

/-- A segment inside the covered frames, which its source frames fill but for the last group. -/
structure SegmentInside (covered : Nat) (segment : MncwfV4TimebaseSegment) : Prop where
  frames : segment.firstFrame.toNat + segment.frameCount.toNat ≤ covered
  some : 0 < segment.frameCount.toNat
  source : 0 < segment.sourceFrameCount.toNat
  groups : segment.sourceFrameCount.toNat ≤
    segment.frameCount.toNat * segment.decimationDivisor.toNat

theorem checkSegmentGeometry_ok {segment : MncwfV4TimebaseSegment} {done : Unit}
    (some : 0 < segment.frameCount.toNat)
    (checked : checkSegmentGeometry segment = .ok done) :
    0 < segment.sourceFrameCount.toNat ∧ segment.sourceFrameCount.toNat ≤
      segment.frameCount.toNat * segment.decimationDivisor.toNat := by
  unfold checkSegmentGeometry at checked
  split at checked
  · have plain := rejectIf_ok checked
    simp only [Bool.or_eq_false_iff, bne_eq_false_iff_eq] at plain
    rcases plain with ⟨⟨divisor, -⟩, source⟩
    rw [divisor, source]
    exact ⟨some, by simp⟩
  · rcases Loops.bind_ok checked with ⟨⟨⟩, -, checked⟩
    rcases Loops.bind_ok checked with ⟨complete, completed, checked⟩
    rcases Loops.bind_ok checked with ⟨minimum, least, checked⟩
    rcases Loops.bind_ok checked with ⟨maximum, most, checked⟩
    have bounds := rejectIf_ok checked
    simp only [Bool.or_eq_false_iff, decide_eq_false_iff_not, not_lt] at bounds
    have low := checkedAdd_ok least
    have high := checkedMultiply_ok most
    constructor
    · omega
    · rw [← high]
      exact bounds.2

theorem checkSegment_ok {cursor after : TimebaseCursor} {segment : MncwfV4TimebaseSegment}
    (checked : checkSegment cursor segment = .ok after) :
    segment.firstFrame.toNat = cursor.expectedFirstFrame ∧
      after.expectedFirstFrame = segment.firstFrame.toNat + segment.frameCount.toNat ∧
      SegmentInside after.expectedFirstFrame segment := by
  rcases Loops.bind_ok checked with ⟨⟨⟩, valid, checked⟩
  rcases Loops.bind_ok checked with ⟨⟨⟩, geometry, checked⟩
  rcases Loops.bind_ok checked with ⟨matching, -, checked⟩
  rcases Loops.bind_ok checked with ⟨⟨⟩, -, checked⟩
  rcases Loops.bind_ok checked with ⟨⟨⟩, -, checked⟩
  rcases Loops.bind_ok checked with ⟨⟨⟩, -, checked⟩
  have ends : ∃ expectedNextSequence covered,
      checkedAdd segment.firstFrame.toNat segment.frameCount.toNat "timebase frame coverage" =
          .ok covered ∧
        after = { expectedFirstFrame := covered, expectedNextSequence,
                  previous := some segment } := by
    split at checked
    · rcases Loops.bind_ok checked with ⟨⟨⟩, -, checked⟩
      rcases Loops.bind_ok checked with ⟨expected, -, checked⟩
      rcases Loops.bind_ok checked with ⟨covered, extended, checked⟩
      exact ⟨_, covered, extended, (Except.ok.inj checked).symm⟩
    · rcases Loops.bind_ok checked with ⟨changed, -, checked⟩
      rcases Loops.bind_ok checked with ⟨⟨⟩, -, checked⟩
      rcases Loops.bind_ok checked with ⟨expected, -, checked⟩
      rcases Loops.bind_ok checked with ⟨covered, extended, checked⟩
      exact ⟨_, covered, extended, (Except.ok.inj checked).symm⟩
  rcases ends with ⟨expected, covered, extended, rfl⟩
  have plain := rejectIf_ok valid
  simp only [Bool.or_eq_false_iff, bne_eq_false_iff_eq, beq_eq_false_iff_ne] at plain
  have first := plain.1.1.1.1.1.1.1.1.1.1.1
  have positive := plain.1.1.1.1.1.1.1.1.1.1.2
  have some : 0 < segment.frameCount.toNat := by
    by_contra nothing
    exact positive (UInt64.toNat_inj.mp (by rw [UInt64.toNat_zero]; omega))
  have grown := checkedAdd_ok extended
  rcases checkSegmentGeometry_ok some geometry with ⟨source, groups⟩
  exact ⟨first, grown, ⟨le_of_eq grown.symm, some, source, groups⟩⟩

theorem segmentInside_mono {covered more : Nat} {segment : MncwfV4TimebaseSegment}
    (inside : SegmentInside covered segment) (grown : covered ≤ more) :
    SegmentInside more segment :=
  ⟨le_trans inside.frames grown, inside.some, inside.source, inside.groups⟩

theorem checkSegments_ok {cursor : TimebaseCursor} {segments : List MncwfV4TimebaseSegment}
    {covered : Nat} (checked : checkSegments cursor segments = .ok covered) :
    cursor.expectedFirstFrame ≤ covered ∧
      ∀ segment ∈ segments, SegmentInside covered segment := by
  induction segments generalizing cursor with
  | nil =>
      cases checked
      exact ⟨le_refl _, fun _ member => absurd member List.not_mem_nil⟩
  | cons segment segments ih =>
      rcases Loops.bind_ok checked with ⟨next, stepped, rest⟩
      rcases checkSegment_ok stepped with ⟨first, grown, inside⟩
      rcases ih rest with ⟨reached, later⟩
      constructor
      · omega
      · intro other member
        rcases List.mem_cons.mp member with rfl | tail
        · exact segmentInside_mono inside reached
        · exact later other tail

theorem growRange_ok {requestedFirst requestedLast covered : Nat} {frames after : FrameRange}
    {segment : MncwfV4TimebaseSegment} (inside : SegmentInside covered segment)
    (bounded : frames.lastFrameExclusive ≤ covered)
    (grown : growRange requestedFirst requestedLast frames segment = .ok after) :
    after.lastFrameExclusive ≤ covered := by
  rcases Loops.bind_ok grown with ⟨segmentLast, reached, grown⟩
  have last := checkedAdd_ok reached
  split at grown
  · cases grown
    exact bounded
  · next overlapping =>
      rcases Loops.bind_ok grown with ⟨absoluteFirst, -, grown⟩
      rcases Loops.bind_ok grown with ⟨absoluteLast, ended, grown⟩
      cases grown
      have final := checkedAdd_ok ended
      have frames := inside.frames
      have some := inside.some
      have source := inside.source
      have groups := inside.groups
      have within : absoluteLast ≤ covered := by
        rw [final]
        split
        · omega
        · have quotient : (requestedLast - segment.firstSequence.toNat) /
              segment.decimationDivisor.toNat < segment.frameCount.toNat := by
            apply Nat.div_lt_of_lt_mul
            rw [Nat.mul_comm]
            omega
          omega
      exact max_le bounded within

theorem growRange_run {requestedFirst requestedLast covered : Nat} {frames after : FrameRange}
    {segments : List MncwfV4TimebaseSegment}
    (inside : ∀ segment ∈ segments, SegmentInside covered segment)
    (bounded : frames.lastFrameExclusive ≤ covered)
    (grown : segments.foldlM (growRange requestedFirst requestedLast) frames = .ok after) :
    after.lastFrameExclusive ≤ covered := by
  induction segments generalizing frames with
  | nil =>
      cases grown
      exact bounded
  | cons segment segments ih =>
      rw [List.foldlM_cons] at grown
      rcases Loops.bind_ok grown with ⟨middle, first, rest⟩
      have step := growRange_ok (inside segment List.mem_cons_self) bounded first
      exact ih (fun other member => inside other (List.mem_cons_of_mem segment member)) step rest

theorem eventFrames_inside {contents : Contents} {eventUuid : MncwfUuid} {first count covered : Nat}
    (inside : ∀ segment ∈ contents.timebaseSegments, SegmentInside covered segment)
    (selected : eventFrames contents eventUuid = .ok (first, count)) :
    first + count ≤ covered := by
  rcases Loops.bind_ok selected with ⟨⟨⟩, -, selected⟩
  split at selected
  · cases selected
  · rcases Loops.bind_ok selected with ⟨frames, grown, selected⟩
    have bounded := growRange_run inside (Nat.zero_le covered) grown
    split at selected
    · cases selected
    · rcases Loops.bind_ok selected with ⟨⟨⟩, nonempty, selected⟩
      cases selected
      have some := rejectIf_ok nonempty
      simp only [decide_eq_false_iff_not, not_le] at some
      omega

end Msap1.Mncwf
