import Mathlib.Data.List.Basic
import Mathlib.Tactic
import Msap1.ByteCodec
import Msap1.Loops

/-! What a waveform converter is given: the metadata of a selection, the samples behind it and
`validate_conversion_source`. Integers are natural numbers below their width's bound, and the
products of the source are unbounded there as well. -/

namespace Msap1.Conversion

open ByteCodec

inductive ConversionErrorCode where
  | invalidOptions
  | sourceInvalid
  | sourceNotReady
  | sourceEventNotFound
  | sourceDiscontinuityUnsupported
  | sampleOutOfRange
  | timestampOutOfRange
  | outputTooLarge
  | outputWriteFailed
  | conversionCancelled
  deriving DecidableEq, Repr

structure ConversionError where
  code : ConversionErrorCode
  message : String
  missingFields : List String := []
  deriving DecidableEq, Repr

abbrev Checked := Except ConversionError

inductive ExportFormat where
  | comtrade
  | pqdif
  | comtradeZip
  deriving DecidableEq, Repr

inductive ExportScope where
  | capture
  | event
  deriving DecidableEq, Repr

inductive Phase where
  | none
  | a
  | b
  | c
  | neutral
  | ab
  | bc
  | ca
  deriving DecidableEq, Repr

inductive SiUnit where
  | dimensionless
  | ampere
  | volt
  | hertz
  deriving DecidableEq, Repr

inductive Topology where
  | unknown
  | wye
  | delta
  deriving DecidableEq, Repr

inductive CalibrationStatus where
  | unknown
  | valid
  | expired
  | invalid
  deriving DecidableEq, Repr

inductive DecimationMethod where
  | none
  | boxcarMeanTowardZero
  | other (code : UInt16)
  deriving DecidableEq, Repr

inductive ClockSource where
  | unknown
  | system
  | ptp
  | gnss
  | manual
  deriving DecidableEq, Repr

inductive TimeQuality where
  | unknown
  | unlocked
  | holdover
  | locked
  deriving DecidableEq, Repr

inductive EventLifecycle where
  | start
  | update
  | finish
  | abort
  | complete
  deriving DecidableEq, Repr

inductive LineageRelation where
  | parent
  | previousContinuation
  | nextContinuation
  | event
  | virtualSlice
  deriving DecidableEq, Repr

abbrev Uuid := BitVec 128

structure SignedRational where
  numerator : Int := 0
  denominator : Nat := 1
  deriving DecidableEq, Repr

structure UnsignedRational where
  numerator : Nat := 0
  denominator : Nat := 1
  deriving DecidableEq, Repr

structure CaptureMetadata where
  captureUuid : Uuid := 0
  sourceCaptureUuid : Uuid := 0
  deviceUuid : Uuid := 0
  configurationSha256 : Bytes := List.replicate 32 0
  sensorProfileSha256 : Bytes := List.replicate 32 0
  nominalFrequency : UnsignedRational := {}
  topology : Topology := .unknown
  calibrationStatus : CalibrationStatus := .unknown
  stationName : Bytes := []
  circuitName : Bytes := []
  deviceModel : Bytes := []
  firmwareVersion : Bytes := []
  softwareBuildId : Bytes := []
  sensorProfileId : Bytes := []
  configurationId : Bytes := []
  calibrationId : Bytes := []
  deviceSerial : Bytes := []
  comments : Bytes := []
  deriving DecidableEq, Repr

structure TimebaseSegment where
  firstFrame : Nat := 0
  frameCount : Nat := 0
  firstSequence : Nat := 0
  sequenceStep : Nat := 0
  acquisitionRate : UnsignedRational := {}
  persistedRate : UnsignedRational := {}
  correlationSequence : Nat := 0
  correlationUtcNanoseconds : Nat := 0
  uncertaintyNanoseconds : Nat := 0
  decimationDivisor : Nat := 1
  decimationMethod : DecimationMethod := .none
  clockSource : ClockSource := .unknown
  timeQuality : TimeQuality := .unknown
  flags : UInt16 := 0
  utcOffsetSeconds : Int := 0
  sourceFrameCount : Nat := 0
  deriving DecidableEq, Repr

structure ChannelDefinition where
  stableId : Uuid := 0
  sourceChannel : Nat := 0
  flags : UInt32 := 0
  phase : Phase := .none
  siUnit : SiUnit := .dimensionless
  storageBits : Nat := 0
  validBits : Nat := 0
  gain : SignedRational := {}
  offset : SignedRational := {}
  primarySecondaryRatio : UnsignedRational := { numerator := 1, denominator := 1 }
  rangeMinimum : SignedRational := {}
  rangeMaximum : SignedRational := {}
  clippingLow : Int := 0
  clippingHigh : Int := 0
  name : Bytes := []
  unitSymbol : Bytes := []
  deriving DecidableEq, Repr

structure EventDescriptor where
  eventUuid : Uuid := 0
  lifecycle : EventLifecycle := .start
  flags : UInt32 := 0
  phaseMask : Nat := 0
  triggerSource : Nat := 0
  configurationGeneration : Nat := 0
  severity : Nat := 0
  startSequence : Nat := 0
  currentSequence : Nat := 0
  endSequence : Nat := 0
  triggerSequence : Nat := 0
  triggerUtcNanoseconds : Nat := 0
  uncertaintyNanoseconds : Nat := 0
  referenceMicroUnits : Int := 0
  thresholdMicroUnits : Int := 0
  hysteresisMicroUnits : Int := 0
  extremaMicroUnits : Int × Int × Int := (0, 0, 0)
  durationSamples : Nat := 0
  updateCount : Nat := 0
  status : Nat := 0
  taxonomyName : Bytes := []
  label : Bytes := []
  settingsSnapshotJson : Bytes := []
  deriving DecidableEq, Repr

structure QualityInterval where
  firstFrame : Nat := 0
  frameCount : Nat := 0
  firstSequence : Nat := 0
  lastSequence : Nat := 0
  channelMask : Nat := 0
  flags : UInt32 := 0
  severity : Nat := 0
  source : Nat := 0
  detailCode : Nat := 0
  deriving DecidableEq, Repr

structure LineageEntry where
  relation : LineageRelation := .parent
  relatedCaptureUuid : Uuid := 0
  relatedEventUuid : Uuid := 0
  firstSequence : Nat := 0
  lastSequence : Nat := 0
  partIndex : Nat := 0
  partCount : Nat := 0
  deriving DecidableEq, Repr

structure WaveformMetadata where
  capture : CaptureMetadata := {}
  timebaseSegments : List TimebaseSegment := []
  channels : List ChannelDefinition := []
  events : List EventDescriptor := []
  qualityIntervals : List QualityInterval := []
  lineage : List LineageEntry := []
  selectedEventUuid : Option Uuid := none
  firstSequence : Nat := 0
  lastSequence : Nat := 0
  deriving DecidableEq, Repr

def timeUtcOffsetKnown : UInt16 := 1
def timePositiveLeapPending : UInt16 := 2
def timeNegativeLeapPending : UInt16 := 4
def timeSequenceGapBefore : UInt16 := 16
def channelTransformValid : UInt32 := 2
def channelRatioValid : UInt32 := 4
def eventCurrentValid : UInt32 := 2
def eventEndValid : UInt32 := 4
def eventTriggerValid : UInt32 := 8
def eventUtcValid : UInt32 := 32
def qualityGap : UInt32 := 1
def qualityTransportLoss : UInt32 := 8

/-- A source of frames. A read returns frames from the first one on, as many as it likes, or
fails. -/
structure WaveformSource where
  metadata : WaveformMetadata
  frameCount : Nat
  channelCount : Nat
  samples : Nat → List Int64
  readFrames : Nat → Nat → Checked (List (List Int64))
  width : ∀ frame, (samples frame).length = channelCount
  reads : ∀ first capacity rows, readFrames first capacity = .ok rows →
    rows = (List.range' first rows.length).map samples

structure ConversionOptions where
  format : ExportFormat := .comtrade
  scope : ExportScope := .capture
  selectedEventUuid : Option Uuid := none
  maximumOutputBytes : Nat := 2 ^ 30
  frameBatchSize : Nat := 4096
  deriving DecidableEq, Repr

def fail {α : Type} (code : ConversionErrorCode) (message : String) : Checked α :=
  .error { code, message }

def failIf (bad : Bool) (code : ConversionErrorCode) (message : String) : Checked Unit :=
  if bad then fail code message else .ok ()

/-- The loop variables of the walk over the segments. -/
structure TimebaseCursor where
  expectedFrame : Nat := 0
  expectedSequence : Option Nat := none
  deriving DecidableEq, Repr

def validateSegmentGeometry (segment : TimebaseSegment) : Checked Unit :=
  match segment.decimationMethod with
  | .none =>
      failIf (segment.decimationDivisor != 1 || segment.sequenceStep != 1 ||
        segment.sourceFrameCount != segment.frameCount) .sourceInvalid
        "non-decimated waveform timebase geometry is invalid"
  | .boxcarMeanTowardZero =>
      let minimum := (segment.frameCount - 1) * segment.decimationDivisor + 1
      let maximum := segment.frameCount * segment.decimationDivisor
      failIf (segment.sequenceStep != segment.decimationDivisor ||
        segment.sourceFrameCount < minimum || maximum < segment.sourceFrameCount) .sourceInvalid
        "boxcar waveform timebase geometry is invalid"
  | .other _ => fail .sourceInvalid "waveform timebase uses an unknown decimation method"

def validateSegment (cursor : TimebaseCursor) (segment : TimebaseSegment) :
    Checked TimebaseCursor := do
  failIf (segment.firstFrame != cursor.expectedFrame || segment.frameCount == 0 ||
    segment.sequenceStep == 0 || segment.sourceFrameCount == 0 ||
    segment.acquisitionRate.numerator == 0 || segment.acquisitionRate.denominator == 0 ||
    segment.persistedRate.numerator == 0 || segment.persistedRate.denominator == 0 ||
    segment.decimationDivisor == 0) .sourceInvalid "waveform source has invalid timebase geometry"
  failIf (segment.flags &&& timeSequenceGapBefore != 0) .sourceDiscontinuityUnsupported
    "selected waveform interval contains a timebase gap or discontinuity"
  failIf (cursor.expectedSequence.any (segment.firstSequence != ·)) .sourceDiscontinuityUnsupported
    "selected waveform interval contains a sequence discontinuity"
  validateSegmentGeometry segment
  failIf (segment.persistedRate.numerator * segment.acquisitionRate.denominator *
    segment.decimationDivisor != segment.acquisitionRate.numerator *
      segment.persistedRate.denominator) .sourceInvalid
    "persisted waveform rate does not match acquisition rate and decimation"
  let sequenceEnd := segment.firstSequence + segment.sourceFrameCount
  failIf (2 ^ 64 - 1 < sequenceEnd) .sourceInvalid
    "waveform timebase sequence range overflows"
  failIf (2 ^ 64 - 1 - cursor.expectedFrame < segment.frameCount) .sourceInvalid
    "waveform timebase frame count overflows"
  .ok { expectedFrame := cursor.expectedFrame + segment.frameCount
        expectedSequence := some sequenceEnd }

def validateInterval (frameCount : Nat) (interval : QualityInterval) : Checked Unit := do
  failIf (interval.frameCount == 0 || frameCount < interval.firstFrame ||
    frameCount - interval.firstFrame < interval.frameCount) .sourceInvalid
    "waveform quality interval is outside the selected frames"
  failIf (interval.flags &&& (qualityGap ||| qualityTransportLoss) != 0)
    .sourceDiscontinuityUnsupported
    "selected waveform interval contains a sequence gap or transport loss"

def requestedEvent (metadata : WaveformMetadata) (options : ConversionOptions) : Option Uuid :=
  options.selectedEventUuid.or metadata.selectedEventUuid

def validateConversionSource (source : WaveformSource) (options : ConversionOptions) :
    Checked Unit := do
  let metadata := source.metadata
  failIf (options.maximumOutputBytes == 0 || options.frameBatchSize == 0) .invalidOptions
    "conversion output and frame-batch limits must be nonzero"
  failIf (source.frameCount == 0 || source.channelCount == 0 ||
    source.channelCount != metadata.channels.length) .sourceInvalid
    "waveform source has invalid sample geometry"
  failIf metadata.timebaseSegments.isEmpty .sourceInvalid "waveform source has no timebase"
  let cursor ← metadata.timebaseSegments.foldlM validateSegment {}
  failIf (cursor.expectedFrame != source.frameCount) .sourceInvalid
    "waveform timebase does not cover every selected frame"
  failIf (metadata.timebaseSegments.head?.any (metadata.firstSequence != ·.firstSequence) ||
    cursor.expectedSequence.all (· == 0) ||
    cursor.expectedSequence.any (metadata.lastSequence != · - 1) ||
    metadata.lastSequence < metadata.firstSequence) .sourceInvalid
    "waveform selection sequence bounds disagree with its timebase"
  metadata.qualityIntervals.forM (validateInterval source.frameCount)
  if options.scope = .event then
    failIf ((requestedEvent metadata options).all (· == 0)) .invalidOptions
      "event export requires a selected event UUID"
    failIf (!metadata.events.any fun event =>
      some event.eventUuid == requestedEvent metadata options)
      .sourceEventNotFound "selected event is not present in the waveform interval"

theorem failIf_ok {bad : Bool} {code : ConversionErrorCode} {message : String} {done : Unit}
    (passed : failIf bad code message = .ok done) : bad = false := by
  cases bad with
  | false => rfl
  | true => cases passed

section Timebase

/-- The sequences of the source samples behind a frame of a segment. -/
def TimebaseSegment.Samples (segment : TimebaseSegment) (frame sequence : Nat) : Prop :=
  segment.firstSequence + (frame - segment.firstFrame) * segment.sequenceStep ≤ sequence ∧
    sequence < segment.firstSequence + (frame - segment.firstFrame + 1) * segment.sequenceStep ∧
    sequence < segment.firstSequence + segment.sourceFrameCount

def TimebaseSegment.Covers (segment : TimebaseSegment) (frame : Nat) : Prop :=
  segment.firstFrame ≤ frame ∧ frame - segment.firstFrame < segment.frameCount

instance (segment : TimebaseSegment) (frame : Nat) : Decidable (segment.Covers frame) := by
  unfold TimebaseSegment.Covers
  infer_instance

/-- A segment whose source samples fill its frames, but for the last one. -/
structure TimebaseSegment.Valid (segment : TimebaseSegment) : Prop where
  frames : 0 < segment.frameCount
  step : 0 < segment.sequenceStep
  rate : 0 < segment.acquisitionRate.numerator
  begun : (segment.frameCount - 1) * segment.sequenceStep < segment.sourceFrameCount
  filled : segment.sourceFrameCount ≤ segment.frameCount * segment.sequenceStep

/-- Segments that follow one another from a frame on. -/
inductive Tiled (total : Nat) : Nat → List TimebaseSegment → Prop where
  | done : Tiled total total []
  | segment {segment : TimebaseSegment} {rest : List TimebaseSegment} (valid : segment.Valid)
      (later : Tiled total (segment.firstFrame + segment.frameCount) rest) :
      Tiled total segment.firstFrame (segment :: rest)

theorem validateSegment_ok {cursor after : TimebaseCursor} {segment : TimebaseSegment}
    (validated : validateSegment cursor segment = .ok after) :
    segment.firstFrame = cursor.expectedFrame ∧ segment.Valid ∧
      after.expectedFrame = segment.firstFrame + segment.frameCount ∧
      after.expectedSequence = some (segment.firstSequence + segment.sourceFrameCount) ∧
      ∀ expected ∈ cursor.expectedSequence, segment.firstSequence = expected := by
  rcases Loops.bind_ok validated with ⟨⟨⟩, plain, validated⟩
  rcases Loops.bind_ok validated with ⟨⟨⟩, -, validated⟩
  rcases Loops.bind_ok validated with ⟨⟨⟩, continuous, validated⟩
  rcases Loops.bind_ok validated with ⟨⟨⟩, geometry, validated⟩
  rcases Loops.bind_ok validated with ⟨⟨⟩, -, validated⟩
  rcases Loops.bind_ok validated with ⟨⟨⟩, -, validated⟩
  rcases Loops.bind_ok validated with ⟨⟨⟩, -, validated⟩
  cases validated
  have follows : ∀ expected ∈ cursor.expectedSequence, segment.firstSequence = expected := by
    intro expected known
    have same := failIf_ok continuous
    rw [Option.mem_def.mp known, Option.any_some, bne_eq_false_iff_eq] at same
    exact same
  have fields := failIf_ok plain
  simp only [Bool.or_eq_false_iff, bne_eq_false_iff_eq, beq_eq_false_iff_ne] at fields
  rcases fields with ⟨⟨⟨⟨⟨⟨⟨⟨first, frames⟩, step⟩, -⟩, rate⟩, -⟩, -⟩, -⟩, -⟩
  refine ⟨first, ⟨by omega, by omega, by omega, ?_, ?_⟩, by rw [first], rfl, follows⟩
  all_goals
    unfold validateSegmentGeometry at geometry
    split at geometry
    · have checks := failIf_ok geometry
      simp only [Bool.or_eq_false_iff, bne_eq_false_iff_eq] at checks
      rw [checks.1.2, checks.2]
      omega
    · have checks := failIf_ok geometry
      simp only [Bool.or_eq_false_iff, bne_eq_false_iff_eq, decide_eq_false_iff_not,
        not_lt] at checks
      rw [checks.1.1]
      omega
    · cases geometry

theorem tiled_of_validate {cursor after : TimebaseCursor} {segments : List TimebaseSegment}
    (validated : segments.foldlM validateSegment cursor = .ok after) :
    Tiled after.expectedFrame cursor.expectedFrame segments := by
  induction segments generalizing cursor with
  | nil =>
      cases validated
      exact .done
  | cons segment segments ih =>
      rw [List.foldlM_cons] at validated
      rcases Loops.bind_ok validated with ⟨next, first, rest⟩
      rcases validateSegment_ok first with ⟨begins, valid, follows, -⟩
      have later := ih rest
      rw [follows] at later
      rw [← begins]
      exact .segment valid later

theorem sequences_of_validate {cursor after : TimebaseCursor} {segments : List TimebaseSegment}
    (validated : segments.foldlM validateSegment cursor = .ok after) :
    (∀ segment ∈ segments, ∀ finish ∈ after.expectedSequence,
      segment.firstSequence + segment.sourceFrameCount ≤ finish) ∧
    ∀ begun ∈ cursor.expectedSequence, ∃ finish ∈ after.expectedSequence, begun ≤ finish := by
  induction segments generalizing cursor with
  | nil =>
      cases validated
      exact ⟨fun _ member => absurd member List.not_mem_nil, fun begun known =>
        ⟨begun, known, le_refl begun⟩⟩
  | cons segment segments ih =>
      rw [List.foldlM_cons] at validated
      rcases Loops.bind_ok validated with ⟨next, first, rest⟩
      rcases validateSegment_ok first with ⟨-, -, -, reached, follows⟩
      rcases ih rest with ⟨later, grown⟩
      rcases grown _ reached with ⟨finish, known, above⟩
      constructor
      · intro other member last same
        rcases List.mem_cons.mp member with rfl | tail
        · cases Option.mem_unique known same
          exact above
        · exact later other tail last same
      · intro begun started
        refine ⟨finish, known, ?_⟩
        rw [← follows begun started]
        omega

theorem Tiled.first_le {total first : Nat} {segments : List TimebaseSegment}
    (tiled : Tiled total first segments) {segment : TimebaseSegment}
    (member : segment ∈ segments) :
    first ≤ segment.firstFrame ∧ segment.firstFrame + segment.frameCount ≤ total ∧
      segment.Valid := by
  have reach : ∀ {start rest}, Tiled total start rest → start ≤ total := by
    intro start rest tiled
    induction tiled with
    | done => exact le_refl total
    | segment valid later ih => omega
  induction tiled with
  | done => exact absurd member List.not_mem_nil
  | @segment head rest valid later ih =>
      rcases List.mem_cons.mp member with rfl | tail
      · exact ⟨le_refl _, reach later, valid⟩
      · rcases ih tail with ⟨after, below, fits⟩
        exact ⟨by omega, below, fits⟩

theorem Tiled.covered {total first frame : Nat} {segments : List TimebaseSegment}
    (tiled : Tiled total first segments) (low : first ≤ frame) (high : frame < total) :
    ∃ segment ∈ segments, segment.Covers frame := by
  induction tiled with
  | done => omega
  | @segment head rest valid later ih =>
      by_cases here : frame < head.firstFrame + head.frameCount
      · exact ⟨head, List.mem_cons_self, by unfold TimebaseSegment.Covers; omega⟩
      · rcases ih (by omega) with ⟨segment, member, covers⟩
        exact ⟨segment, List.mem_cons_of_mem head member, covers⟩

theorem Tiled.unique {total first frame : Nat} {segments : List TimebaseSegment}
    (tiled : Tiled total first segments) {one two : TimebaseSegment} (oneMember : one ∈ segments)
    (twoMember : two ∈ segments) (oneCovers : one.Covers frame) (twoCovers : two.Covers frame) :
    one = two := by
  unfold TimebaseSegment.Covers at oneCovers twoCovers
  induction tiled with
  | done => exact absurd oneMember List.not_mem_nil
  | @segment head rest valid later ih =>
      rcases List.mem_cons.mp oneMember with rfl | oneTail
      · rcases List.mem_cons.mp twoMember with rfl | twoTail
        · rfl
        · have after := (later.first_le twoTail).1
          omega
      · rcases List.mem_cons.mp twoMember with rfl | twoTail
        · have after := (later.first_le oneTail).1
          omega
        · exact ih oneTail twoTail

theorem Tiled.boundary {total first frame : Nat} {segments : List TimebaseSegment}
    (tiled : Tiled total first segments) {one two : TimebaseSegment} (oneMember : one ∈ segments)
    (twoMember : two ∈ segments) (oneCovers : one.Covers frame)
    (twoCovers : two.Covers (frame + 1)) :
    one = two ∨ two ∈ segments.tail ∧ two.firstFrame = frame + 1 := by
  unfold TimebaseSegment.Covers at oneCovers twoCovers
  induction tiled with
  | done => exact absurd oneMember List.not_mem_nil
  | @segment head rest valid later ih =>
      rcases List.mem_cons.mp oneMember with rfl | oneTail
      · rcases List.mem_cons.mp twoMember with rfl | twoTail
        · exact .inl rfl
        · have after := (later.first_le twoTail).1
          exact .inr ⟨twoTail, by omega⟩
      · rcases List.mem_cons.mp twoMember with rfl | twoTail
        · have after := (later.first_le oneTail).1
          omega
        · rcases ih oneTail twoTail with same | ⟨tail, edge⟩
          · exact .inl same
          · exact .inr ⟨twoTail, edge⟩

theorem validated_tiled {source : WaveformSource} {options : ConversionOptions} {done : Unit}
    (validated : validateConversionSource source options = .ok done) :
    Tiled source.frameCount 0 source.metadata.timebaseSegments ∧ 0 < source.frameCount ∧
      0 < options.frameBatchSize ∧ source.channelCount = source.metadata.channels.length ∧
      ∀ segment ∈ source.metadata.timebaseSegments,
        segment.firstSequence + segment.sourceFrameCount ≤ source.metadata.lastSequence + 1 := by
  rcases Loops.bind_ok validated with ⟨⟨⟩, limits, validated⟩
  rcases Loops.bind_ok validated with ⟨⟨⟩, geometry, validated⟩
  rcases Loops.bind_ok validated with ⟨⟨⟩, -, validated⟩
  rcases Loops.bind_ok validated with ⟨cursor, walked, validated⟩
  rcases Loops.bind_ok validated with ⟨⟨⟩, covered, validated⟩
  rcases Loops.bind_ok validated with ⟨⟨⟩, bounds, -⟩
  have whole := failIf_ok covered
  have sizes := failIf_ok geometry
  have nonzero := failIf_ok limits
  rw [bne_eq_false_iff_eq] at whole
  simp only [Bool.or_eq_false_iff, bne_eq_false_iff_eq, beq_eq_false_iff_ne] at sizes nonzero
  have tiled := tiled_of_validate walked
  rw [whole] at tiled
  refine ⟨tiled, Nat.pos_of_ne_zero sizes.1.1, Nat.pos_of_ne_zero nonzero.2, sizes.2, ?_⟩
  intro segment member
  have agreed := failIf_ok bounds
  simp only [Bool.or_eq_false_iff] at agreed
  rcases agreed with ⟨⟨⟨-, some⟩, last⟩, -⟩
  cases known : cursor.expectedSequence with
  | none =>
      rw [known] at some
      cases some
  | some finish =>
      rw [known, Option.all_some, beq_eq_false_iff_ne] at some
      rw [known, Option.any_some, bne_eq_false_iff_eq] at last
      have below := (sequences_of_validate walked).1 segment member finish known
      omega

end Timebase

end Msap1.Conversion
