import Msap1.Meter.Updates
import Msap1.Rounding

/-! `decode_frequency_10s_meter_record`: the ten-second frequency and the evidence it must agree
with. -/

namespace Msap1.Meter

open Rounding SignedArithmetic

namespace Frequency10s

/-- The flags of the status word, in the order of their bits. -/
inductive Status where
  | arithmeticError
  | resultValid
  | timeAligned
  | profileSupported
  | timeSynchronized
  | filterReady
  | referenceValid
  | discontinuity
  | crossingOverflow
  | observerDrop
  | insufficientCrossings
  | outOfRange
  | transportGap
  | calibrationValid
  | sampleRateValid
  | resynchronized
  deriving DecidableEq, Repr

def Status.bit : Status → UInt32
  | arithmeticError => 0x1
  | resultValid => 0x2
  | timeAligned => 0x4
  | profileSupported => 0x8
  | timeSynchronized => 0x10
  | filterReady => 0x20
  | referenceValid => 0x40
  | discontinuity => 0x80
  | crossingOverflow => 0x100
  | observerDrop => 0x200
  | insufficientCrossings => 0x400
  | outOfRange => 0x800
  | transportGap => 0x1000
  | calibrationValid => 0x2000
  | sampleRateValid => 0x4000
  | resynchronized => 0x8000

inductive Reason where
  | unsupportedProfile
  | timeUnsynchronized
  | timeUncertainty
  | filterWarmup
  | referenceInvalid
  | discontinuity
  | crossingOverflow
  | observerDrop
  | sampleRateInvalid
  | boundaryInvalid
  | calibrationInvalid
  | insufficientCrossings
  | outOfRange
  | arithmetic
  | transportGap
  | cycleGeometry
  | timeGeometry
  deriving DecidableEq, Repr

def Reason.bit : Reason → UInt32
  | unsupportedProfile => 0x1
  | timeUnsynchronized => 0x2
  | timeUncertainty => 0x4
  | filterWarmup => 0x8
  | referenceInvalid => 0x10
  | discontinuity => 0x20
  | crossingOverflow => 0x40
  | observerDrop => 0x80
  | sampleRateInvalid => 0x100
  | boundaryInvalid => 0x200
  | calibrationInvalid => 0x400
  | insufficientCrossings => 0x10000
  | outOfRange => 0x20000
  | arithmetic => 0x40000
  | transportGap => 0x80000
  | cycleGeometry => 0x100000
  | timeGeometry => 0x200000

def statusMask : UInt32 := 0x0000ffff
def reasonMask : UInt32 := 0x003f07ff
def sourceStatusMask : UInt32 := 0x000007ff
def guardFlagsMask : UInt32 := 0x0000000f
def maxObservedCrossings : UInt32 := 1024

end Frequency10s

open Frequency10s

namespace MeterRecord

variable (record : MeterRecord)

def frequency10sNominalHz : UInt8 := (record.word 13).toUInt8
def frequency10sReferenceChannel : UInt8 := (record.word 13 >>> 8).toUInt8
def frequency10sFilterProfile : UInt8 := (record.word 13 >>> 16).toUInt8
def frequency10sCalibrationProfile : UInt8 := (record.word 13 >>> 24).toUInt8
def frequency10sLastSampleIndex : UInt64 := record.unsigned64 14
def frequency10sValue : UInt32 := record.word 16
def frequency10sCycleCount : UInt32 := record.word 17
def frequency10sDurationQ16 : UInt64 := record.unsigned64 18
def frequency10sFirstCrossingQ16 : Int64 := record.signed64 20
def frequency10sLastCrossingQ16 : Int64 := record.signed64 22
def frequency10sEndSampleIndex : UInt64 := record.unsigned64 24
def frequency10sUtcStartNanoseconds : UInt64 := record.unsigned64 26
def frequency10sUtcEndNanoseconds : UInt64 := record.unsigned64 28
def frequency10sUtcUncertaintyNanoseconds : UInt64 := record.unsigned64 30
def frequency10sMeasuredRate : UInt32 := record.word 32
def frequency10sSourceSequence : UInt32 := record.word 33
def frequency10sBoundaryGeneration : UInt32 := record.word 34
def frequency10sSourceStatus : UInt32 := record.word 35
def frequency10sReasons : UInt32 := record.word 36
def frequency10sObserverDrops : UInt32 := record.word 37
def frequency10sGuardFlags : UInt32 := record.word 38
def frequency10sObservedCrossings : UInt32 := record.word 39
def frequency10sIncludedCrossings : UInt32 := record.word 40
def frequency10sRejectedCycles : UInt32 := record.word 41

end MeterRecord

namespace Frequency10s

variable (record : MeterRecord)

/-- Whether the observer of the PL raised a bit of its status. -/
def source (bit : UInt32) : Bool := carries record.frequency10sSourceStatus bit

/-- `expected_frequency_10s_status`. -/
def expectedStatus (reasons : UInt32) : UInt32 :=
  raised [
    (carries reasons Reason.arithmetic.bit, Status.arithmeticError.bit),
    (reasons == 0, Status.resultValid.bit),
    (source record 0x1, Status.timeAligned.bit),
    (source record 0x400, Status.profileSupported.bit),
    (source record 0x2, Status.timeSynchronized.bit),
    (source record 0x8, Status.filterReady.bit),
    (source record 0x10, Status.referenceValid.bit),
    (source record (0x20 ||| 0x100), Status.discontinuity.bit),
    (source record 0x40, Status.crossingOverflow.bit),
    (source record 0x80 || record.frequency10sObserverDrops != 0, Status.observerDrop.bit),
    (carries reasons Reason.insufficientCrossings.bit, Status.insufficientCrossings.bit),
    (carries reasons (Reason.outOfRange.bit ||| Reason.cycleGeometry.bit), Status.outOfRange.bit),
    (carries reasons Reason.transportGap.bit, Status.transportGap.bit),
    (source record 0x200, Status.calibrationValid.bit),
    (source record 0x4, Status.sampleRateValid.bit),
    (source record 0x100, Status.resynchronized.bit)]

def sampleSpan : UInt64 := record.frequency10sEndSampleIndex - record.firstSampleIndex

def expectedMillisamples : UInt64 := record.frequency10sMeasuredRate.toUInt64 * 10

def actualMillisamples : UInt64 := sampleSpan record * 1000

def spanError : UInt64 :=
  if expectedMillisamples record > actualMillisamples record then
    expectedMillisamples record - actualMillisamples record
  else actualMillisamples record - expectedMillisamples record

/-- The reasons that the profile, the observer and the time of a record call for. -/
def mandatoryReasons : UInt32 :=
  raised [
    (record.sampleRateHz != 128000 || record.frequency10sReferenceChannel != 6 ||
      record.frequency10sFilterProfile != 1 || record.frequency10sCalibrationProfile != 1 ||
      !source record 0x400, Reason.unsupportedProfile.bit),
    (!source record 0x1, Reason.boundaryInvalid.bit),
    (!source record 0x2, Reason.timeUnsynchronized.bit),
    (!source record 0x4, Reason.sampleRateInvalid.bit),
    (!source record 0x8, Reason.filterWarmup.bit),
    (!source record 0x10, Reason.referenceInvalid.bit),
    (!source record 0x200, Reason.calibrationInvalid.bit),
    (source record (0x20 ||| 0x100), Reason.discontinuity.bit),
    (source record 0x40, Reason.crossingOverflow.bit),
    (source record 0x80 || record.emitDrops != 0, Reason.observerDrop.bit),
    (record.frequency10sUtcUncertaintyNanoseconds > 1000000, Reason.timeUncertainty.bit),
    (spanError record > 2000, Reason.timeGeometry.bit)]

def intervalQ16 : UInt64 := sampleSpan record <<< 16

def crossingSpan : UInt64 :=
  (record.frequency10sLastCrossingQ16 - record.frequency10sFirstCrossingQ16).toUInt64

def insufficient : Bool :=
  record.frequency10sCycleCount == 0 || record.frequency10sDurationQ16 == 0

def scaledRate : UInt64 := record.frequency10sMeasuredRate.toUInt64 <<< 16

/-- `rounded_divide_ties_to_even`; its callers have a duration. -/
def roundedDivideTiesToEven (numerator denominator : UInt64) : UInt64 :=
  let quotient := numerator / denominator
  let remainder := numerator % denominator
  let complement := denominator - remainder
  quotient + if remainder > complement ∨ remainder = complement ∧ quotient &&& 1 ≠ 0 then 1 else 0

def calculatedFrequency : UInt64 :=
  if insufficient record then 0
  else roundedDivideTiesToEven (scaledRate record * record.frequency10sCycleCount.toUInt64)
    record.frequency10sDurationQ16

def minimumMillihz : UInt64 := if record.frequency10sNominalHz = 50 then 42500 else 51000

def maximumMillihz : UInt64 := if record.frequency10sNominalHz = 50 then 57500 else 69000

def outOfRange : Bool :=
  calculatedFrequency record != 0 && (calculatedFrequency record < minimumMillihz record ||
    calculatedFrequency record > maximumMillihz record)

/-- Whether the anchors, the times and the flags of a record are well formed. -/
def checkEnvelope : Except Failure Unit := do
  reject (¬record.headerValid ∨ record.recordFormat ≠ some .frequency10s)
    "invalid frequency 10-second record"
  reject (record.word 12 ≠ 0) "frequency 10-second reserved envelope word is nonzero"
  reject (¬record.zeroWords 42 63) "frequency 10-second reserved tail is nonzero"
  reject (record.frequency10sNominalHz ≠ 50 ∧ record.frequency10sNominalHz ≠ 60)
    "frequency 10-second nominal frequency is invalid"
  reject (record.sampleRateHz = 0) "frequency 10-second sample rate is zero"
  reject (record.frequency10sEndSampleIndex ≤ record.firstSampleIndex)
    "frequency 10-second sample interval is empty or reversed"
  reject (sampleSpan record > 0xffffffff ∨
      record.blockSampleCount.toUInt64 ≠ sampleSpan record ∨
      record.frequency10sLastSampleIndex ≠ record.frequency10sEndSampleIndex - 1)
    "frequency 10-second sample anchors disagree"
  reject (record.frequency10sUtcEndNanoseconds ≤ record.frequency10sUtcStartNanoseconds ∨
      record.frequency10sUtcEndNanoseconds - record.frequency10sUtcStartNanoseconds ≠ 10000000000 ∨
      record.frequency10sUtcEndNanoseconds > int64Max)
    "frequency 10-second UTC interval is not exactly ten seconds"
  reject (record.frequency10sSourceSequence ≠ record.sequence)
    "frequency 10-second source sequence disagrees"
  reject (record.emitDrops ≠ record.frequency10sObserverDrops)
    "frequency 10-second observer drop counters disagree"
  reject (carries record.frequency10sSourceStatus (~~~sourceStatusMask) ∨
      carries record.frequency10sReasons (~~~reasonMask) ∨
      carries record.status (~~~statusMask) ∨
      carries record.frequency10sGuardFlags (~~~guardFlagsMask))
    "frequency 10-second flags use reserved bits"

def checkCrossings : Except Failure Unit :=
  if record.frequency10sIncludedCrossings = 0 then
    reject (record.frequency10sFirstCrossingQ16 ≠ 0 ∨ record.frequency10sLastCrossingQ16 ≠ 0 ∨
        record.frequency10sDurationQ16 ≠ 0)
      "frequency 10-second empty crossing geometry is nonzero"
  else
    reject (record.frequency10sFirstCrossingQ16 < 0 ∨
        record.frequency10sLastCrossingQ16 < record.frequency10sFirstCrossingQ16 ∨
        record.frequency10sLastCrossingQ16.toUInt64 > intervalQ16 record ∨
        record.frequency10sDurationQ16 ≠
          (if record.frequency10sIncludedCrossings ≥ 2 then crossingSpan record else 0))
      "frequency 10-second crossing geometry is invalid"

/-- Whether the crossings of a record, its reasons and its result agree. -/
def checkResult : Except Failure Unit := do
  reject (record.status ≠ expectedStatus record record.frequency10sReasons)
    "frequency 10-second status and reasons disagree"
  reject (record.frequency10sReasons &&& mandatoryReasons record ≠ mandatoryReasons record)
    "frequency 10-second record omits a mandatory rejection reason"
  reject (record.frequency10sObservedCrossings > maxObservedCrossings ∨
      record.frequency10sIncludedCrossings > record.frequency10sObservedCrossings ∨
      record.frequency10sCycleCount ≠ (if record.frequency10sIncludedCrossings = 0 then 0
        else record.frequency10sIncludedCrossings - 1) ∨
      record.frequency10sRejectedCycles > record.frequency10sCycleCount)
    "frequency 10-second crossing counts disagree"
  checkCrossings record
  reject (carries record.frequency10sReasons Reason.insufficientCrossings.bit ≠
        insufficient record ∨
      carries record.frequency10sReasons Reason.cycleGeometry.bit ≠
        (record.frequency10sRejectedCycles != 0))
    "frequency 10-second geometry reasons disagree"
  reject (¬insufficient record ∧
      scaledRate record > 0xffffffffffffffff / record.frequency10sCycleCount.toUInt64)
    "frequency 10-second arithmetic overflows"
  reject (carries record.frequency10sReasons Reason.outOfRange.bit ≠ outOfRange record)
    "frequency 10-second range reason disagrees"
  reject (carries record.frequency10sReasons Reason.arithmetic.bit)
    "frequency 10-second impossible arithmetic reason"
  reject (record.validMask ≠ (if record.frequency10sReasons = 0 then 0x40 else 0) ∨
      (record.frequency10sReasons = 0 ∧
        record.frequency10sValue.toUInt64 ≠ calculatedFrequency record) ∨
      (record.frequency10sReasons ≠ 0 ∧ record.frequency10sValue ≠ 0))
    "frequency 10-second result validity disagrees"

def quality : MeasurementQuality :=
  if record.frequency10sReasons = 0 then .valid
  else if carries record.frequency10sReasons Reason.arithmetic.bit then .arithmeticError
  else if carries record.frequency10sReasons
      (Reason.outOfRange.bit ||| Reason.cycleGeometry.bit) then .outOfRange
  else .invalid

def reading : Reading where
  value := record.frequency10sValue.toUInt64.toInt64
  quality := quality record
  sourceSequence := record.sequence.toUInt64
  measuredAt := record.frequency10sUtcEndNanoseconds.toInt64
  calculationWindow := ⟨record.blockSampleCount, 10000000000⟩

def blockTiming : BlockTiming where
  sequence := record.sequence.toUInt64
  configurationGeneration := record.configurationGeneration
  firstSampleIndex := record.firstSampleIndex
  sampleCount := record.blockSampleCount
  sampleRateHz := record.sampleRateHz
  cycleCount := record.frequency10sCycleCount.toUInt16
  nominalFrequency := if record.frequency10sNominalHz = 50 then .hz50 else .hz60
  timeQuality :=
    if carries record.status Status.timeSynchronized.bit ∧
        record.frequency10sUtcUncertaintyNanoseconds ≤ 1000000 then .synchronized
    else .unsynchronized
  utcStart := some record.frequency10sUtcStartNanoseconds.toInt64
  utcUncertaintyNs := some record.frequency10sUtcUncertaintyNanoseconds

def metadata : Frequency10sMetadata where
  intervalEndSampleIndex := record.frequency10sEndSampleIndex
  utcStartNanoseconds := record.frequency10sUtcStartNanoseconds
  utcEndNanoseconds := record.frequency10sUtcEndNanoseconds
  utcUncertaintyNanoseconds := record.frequency10sUtcUncertaintyNanoseconds
  measuredSampleRateMillihz := record.frequency10sMeasuredRate
  sourceSequence := record.frequency10sSourceSequence
  boundaryGeneration := record.frequency10sBoundaryGeneration
  sourceStatus := record.frequency10sSourceStatus
  status := record.status
  reasons := record.frequency10sReasons
  observerDropCount := record.frequency10sObserverDrops
  guardFlags := record.frequency10sGuardFlags.toUInt8
  observedCrossings := record.frequency10sObservedCrossings
  includedCrossings := record.frequency10sIncludedCrossings
  rejectedCycles := record.frequency10sRejectedCycles
  durationQ16Samples := record.frequency10sDurationQ16
  firstCrossingQ16Samples := record.frequency10sFirstCrossingQ16
  lastCrossingQ16Samples := record.frequency10sLastCrossingQ16
  nominalFrequencyHz := record.frequency10sNominalHz
  referenceChannel := record.frequency10sReferenceChannel
  filterProfile := record.frequency10sFilterProfile
  calibrationProfile := record.frequency10sCalibrationProfile

end Frequency10s

def decodeFrequency10sMeterRecord (record : MeterRecord) : Except Failure MeterUpdate := do
  checkEnvelope record
  checkResult record
  return {
    period := .seconds10
    kind := .frequency10s
    sequence := record.sequence.toUInt64
    configurationGeneration := record.configurationGeneration
    fundamental := some { frequency := Frequency10s.reading record }
    frequency10s := some (Frequency10s.metadata record)
    timing := some (blockTiming record) }

namespace Frequency10s

variable {record : MeterRecord}

/-- What the decoder has checked when it returns. -/
structure Checked (record : MeterRecord) : Prop where
  nominal : record.frequency10sNominalHz = 50 ∨ record.frequency10sNominalHz = 60
  ordered : record.firstSampleIndex < record.frequency10sEndSampleIndex
  narrow : sampleSpan record ≤ 0xffffffff
  later : record.frequency10sUtcStartNanoseconds < record.frequency10sUtcEndNanoseconds
  status : record.status = expectedStatus record record.frequency10sReasons
  mandatory : record.frequency10sReasons &&& mandatoryReasons record = mandatoryReasons record
  included : record.frequency10sIncludedCrossings ≤ record.frequency10sObservedCrossings
  cycles : record.frequency10sCycleCount = if record.frequency10sIncludedCrossings = 0 then 0
    else record.frequency10sIncludedCrossings - 1
  crossings : record.frequency10sIncludedCrossings ≠ 0 →
    0 ≤ record.frequency10sFirstCrossingQ16 ∧
      record.frequency10sFirstCrossingQ16 ≤ record.frequency10sLastCrossingQ16 ∧
      record.frequency10sLastCrossingQ16.toUInt64 ≤ intervalQ16 record ∧
      record.frequency10sDurationQ16 =
        if record.frequency10sIncludedCrossings ≥ 2 then crossingSpan record else 0
  missing : carries record.frequency10sReasons Reason.insufficientCrossings.bit =
    insufficient record
  rejected : carries record.frequency10sReasons Reason.cycleGeometry.bit =
    (record.frequency10sRejectedCycles != 0)
  product : insufficient record = false →
    scaledRate record ≤ 0xffffffffffffffff / record.frequency10sCycleCount.toUInt64
  range : carries record.frequency10sReasons Reason.outOfRange.bit = outOfRange record
  arithmetic : carries record.frequency10sReasons Reason.arithmetic.bit = false
  mask : record.validMask = if record.frequency10sReasons = 0 then 0x40 else 0
  value : record.frequency10sValue.toUInt64 =
    if record.frequency10sReasons = 0 then calculatedFrequency record else 0

theorem checkCrossings_ok (passed : checkCrossings record = .ok ()) :
    record.frequency10sIncludedCrossings ≠ 0 →
      0 ≤ record.frequency10sFirstCrossingQ16 ∧
        record.frequency10sFirstCrossingQ16 ≤ record.frequency10sLastCrossingQ16 ∧
        record.frequency10sLastCrossingQ16.toUInt64 ≤ intervalQ16 record ∧
        record.frequency10sDurationQ16 =
          if record.frequency10sIncludedCrossings ≥ 2 then crossingSpan record else 0 := by
  intro some
  rw [checkCrossings, if_neg some] at passed
  have sound := not_rejected passed
  simp only [not_or, ne_eq, not_not] at sound
  obtain ⟨first, last, inside, duration⟩ := sound
  exact ⟨Int64.not_lt.mp first, Int64.not_lt.mp last, UInt64.not_lt.mp inside, duration⟩

theorem checkEnvelope_ok (passed : checkEnvelope record = .ok ()) :
    (record.frequency10sNominalHz = 50 ∨ record.frequency10sNominalHz = 60) ∧
      record.firstSampleIndex < record.frequency10sEndSampleIndex ∧
      sampleSpan record ≤ 0xffffffff ∧
      record.frequency10sUtcStartNanoseconds < record.frequency10sUtcEndNanoseconds := by
  obtain ⟨-, passed⟩ := reject_ok passed
  obtain ⟨-, passed⟩ := reject_ok passed
  obtain ⟨-, passed⟩ := reject_ok passed
  obtain ⟨nominal, passed⟩ := reject_ok passed
  obtain ⟨-, passed⟩ := reject_ok passed
  obtain ⟨ordered, passed⟩ := reject_ok passed
  obtain ⟨anchors, passed⟩ := reject_ok passed
  obtain ⟨times, -⟩ := reject_ok passed
  rw [not_or] at anchors times
  refine ⟨?_, UInt64.not_le.mp ordered, UInt64.not_lt.mp anchors.1, UInt64.not_le.mp times.1⟩
  by_contra neither
  exact nominal (not_or.mp neither)

theorem decoded_checked {update : MeterUpdate}
    (decoded : decodeFrequency10sMeterRecord record = .ok update) : Checked record := by
  obtain ⟨_, envelope, decoded⟩ := Loops.bind_ok decoded
  obtain ⟨_, result, -⟩ := Loops.bind_ok decoded
  obtain ⟨nominal, ordered, narrow, later⟩ := checkEnvelope_ok envelope
  obtain ⟨status, result⟩ := reject_ok result
  obtain ⟨mandatory, result⟩ := reject_ok result
  obtain ⟨counts, result⟩ := reject_ok result
  obtain ⟨_, geometry, result⟩ := Loops.bind_ok result
  obtain ⟨agreed, result⟩ := reject_ok result
  obtain ⟨product, result⟩ := reject_ok result
  obtain ⟨range, result⟩ := reject_ok result
  obtain ⟨arithmetic, result⟩ := reject_ok result
  have valid := not_rejected result
  simp only [not_or, not_and, ne_eq, not_not, Bool.not_eq_true] at *
  obtain ⟨-, included, cycles, -⟩ := counts
  refine ⟨nominal, ordered, narrow, later, status, mandatory, UInt32.not_lt.mp included, cycles,
    checkCrossings_ok geometry, agreed.1, agreed.2, fun enough => UInt64.not_lt.mp (product enough),
    range, arithmetic, valid.1, ?_⟩
  split
  · next none => exact valid.2.1 none
  · next some =>
      rw [valid.2.2 some]
      rfl

abbrev rate (record : MeterRecord) : Nat := record.frequency10sMeasuredRate.toNat
abbrev cycles (record : MeterRecord) : Nat := record.frequency10sCycleCount.toNat
abbrev duration (record : MeterRecord) : Nat := record.frequency10sDurationQ16.toNat
abbrev span (record : MeterRecord) : Nat :=
  record.frequency10sEndSampleIndex.toNat - record.firstSampleIndex.toNat

/-- No sum, product or shift of the decoder leaves its 64 bits. -/
structure Unwrapped (record : MeterRecord) : Prop where
  ordered : record.firstSampleIndex.toNat < record.frequency10sEndSampleIndex.toNat
  sampleSpan : (sampleSpan record).toNat = span record
  lastSample : (record.frequency10sEndSampleIndex - 1).toNat =
    record.frequency10sEndSampleIndex.toNat - 1
  utcSpan : (record.frequency10sUtcEndNanoseconds - record.frequency10sUtcStartNanoseconds).toNat +
    record.frequency10sUtcStartNanoseconds.toNat = record.frequency10sUtcEndNanoseconds.toNat
  expected : (expectedMillisamples record).toNat = rate record * 10
  actual : (actualMillisamples record).toNat = span record * 1000
  error : ((spanError record).toNat : Int) = |(rate record * 10 : Int) - span record * 1000|
  interval : (intervalQ16 record).toNat = span record * 2 ^ 16
  crossings : record.frequency10sIncludedCrossings ≠ 0 → ((crossingSpan record).toNat : Int) =
    record.frequency10sLastCrossingQ16.toInt - record.frequency10sFirstCrossingQ16.toInt
  scaled : (scaledRate record).toNat = rate record * 2 ^ 16
  product : insufficient record = false →
    (scaledRate record * record.frequency10sCycleCount.toUInt64).toNat =
      rate record * 2 ^ 16 * cycles record
  rounded : insufficient record = false → (calculatedFrequency record).toNat =
    divideTiesToEven (rate record * 2 ^ 16 * cycles record) (duration record)

theorem sampleSpan_eq (checked : Checked record) : (sampleSpan record).toNat = span record :=
  UInt64.toNat_sub_of_le _ _ (UInt64.le_of_lt checked.ordered)

theorem span_narrow (checked : Checked record) : span record < 2 ^ 32 := by
  have narrow := UInt64.le_iff_toNat_le.mp checked.narrow
  rw [sampleSpan_eq checked] at narrow
  exact Nat.lt_succ_of_le narrow

theorem expected_eq : (expectedMillisamples record).toNat = rate record * 10 := by
  have small := record.frequency10sMeasuredRate.toNat_lt
  have ten : (10 : UInt64).toNat = 10 := rfl
  rw [expectedMillisamples, UInt64.toNat_mul, UInt32.toNat_toUInt64, ten]
  exact Nat.mod_eq_of_lt (by omega)

theorem actual_eq (checked : Checked record) :
    (actualMillisamples record).toNat = span record * 1000 := by
  have small := span_narrow checked
  have thousand : (1000 : UInt64).toNat = 1000 := rfl
  rw [actualMillisamples, UInt64.toNat_mul, sampleSpan_eq checked, thousand]
  exact Nat.mod_eq_of_lt (by omega)

theorem spanError_eq (checked : Checked record) :
    ((spanError record).toNat : Int) = |(rate record * 10 : Int) - span record * 1000| := by
  have expected : (expectedMillisamples record).toNat = rate record * 10 := expected_eq
  have actual := actual_eq checked
  unfold spanError
  split
  · next above =>
      have less := UInt64.lt_iff_toNat_lt.mp above
      rw [UInt64.toNat_sub_of_le _ _ (UInt64.le_of_lt above), abs_of_nonneg (by omega)]
      omega
  · next below =>
      have most := UInt64.le_iff_toNat_le.mp (UInt64.not_lt.mp below)
      rw [UInt64.toNat_sub_of_le _ _ (UInt64.not_lt.mp below), abs_of_nonpos (by omega)]
      omega

theorem interval_eq (checked : Checked record) :
    (intervalQ16 record).toNat = span record * 2 ^ 16 := by
  have small := span_narrow checked
  rw [intervalQ16, UInt64.toNat_shiftLeft, sampleSpan_eq checked]
  have sixteen : (16 : UInt64).toNat % 64 = 16 := rfl
  rw [sixteen, Nat.shiftLeft_eq]
  exact Nat.mod_eq_of_lt (by omega)

theorem scaled_eq : (scaledRate record).toNat = rate record * 2 ^ 16 := by
  have small := record.frequency10sMeasuredRate.toNat_lt
  rw [scaledRate, UInt64.toNat_shiftLeft, UInt32.toNat_toUInt64]
  have sixteen : (16 : UInt64).toNat % 64 = 16 := rfl
  rw [sixteen, Nat.shiftLeft_eq]
  exact Nat.mod_eq_of_lt (by omega)

theorem word_eq {value : Int64} (positive : 0 ≤ value) :
    (value.toUInt64.toNat : Int) = value.toInt := by
  have sign := Int64.le_iff_toInt_le.mp positive
  have zero : (0 : Int64).toInt = 0 := rfl
  have small := value.toUInt64.toNat_lt
  have read := toInt64_toInt value.toUInt64
  rw [Int64.toInt64_toUInt64] at read
  split at read <;> omega

theorem crossings_eq (checked : Checked record)
    (some : record.frequency10sIncludedCrossings ≠ 0) : ((crossingSpan record).toNat : Int) =
      record.frequency10sLastCrossingQ16.toInt - record.frequency10sFirstCrossingQ16.toInt := by
  obtain ⟨positive, ordered, -, -⟩ := checked.crossings some
  have first := word_eq positive
  have last := word_eq (Int64.le_trans positive ordered)
  have order := Int64.le_iff_toInt_le.mp ordered
  rw [crossingSpan, Int64.toUInt64_sub, UInt64.toNat_sub_of_le]
  · omega
  · rw [UInt64.le_iff_toNat_le]
    omega

theorem product_eq (checked : Checked record) (enough : insufficient record = false) :
    (scaledRate record * record.frequency10sCycleCount.toUInt64).toNat =
      rate record * 2 ^ 16 * cycles record := by
  have guarded := UInt64.le_iff_toNat_le.mp (checked.product enough)
  have some : 0 < cycles record := by
    have nonzero := (Bool.or_eq_false_iff.mp enough).1
    rw [beq_eq_false_iff_ne, ne_eq, ← UInt32.toNat_inj] at nonzero
    exact Nat.pos_of_ne_zero nonzero
  rw [UInt64.toNat_div, UInt32.toNat_toUInt64, Nat.le_div_iff_mul_le some, scaled_eq] at guarded
  rw [UInt64.toNat_mul, UInt32.toNat_toUInt64, scaled_eq]
  exact Nat.mod_eq_of_lt (Nat.lt_succ_of_le guarded)

theorem roundedDivideTiesToEven_eq {numerator denominator : UInt64}
    (positive : 0 < denominator.toNat) : (roundedDivideTiesToEven numerator denominator).toNat =
      divideTiesToEven numerator.toNat denominator.toNat := by
  have small := Nat.mod_lt numerator.toNat positive
  have parts := Nat.div_add_mod numerator.toNat denominator.toNat
  have bound := numerator.toNat_lt
  have odd : numerator / denominator &&& 1 ≠ 0 ↔ numerator.toNat / denominator.toNat % 2 = 1 := by
    rw [ne_eq, ← UInt64.toNat_inj, UInt64.toNat_and, UInt64.toNat_div]
    have one : (1 : UInt64).toNat = 1 := rfl
    have zero : (0 : UInt64).toNat = 0 := rfl
    rw [one, zero, Nat.and_one_is_mod]
    omega
  have lacking : (denominator - numerator % denominator).toNat =
      denominator.toNat - numerator.toNat % denominator.toNat := by
    rw [UInt64.toNat_sub_of_le, UInt64.toNat_mod]
    rw [UInt64.le_iff_toNat_le, UInt64.toNat_mod]
    exact small.le
  have same : (numerator % denominator > denominator - numerator % denominator ∨
      numerator % denominator = denominator - numerator % denominator ∧
        numerator / denominator &&& 1 ≠ 0) ↔
      denominator.toNat - numerator.toNat % denominator.toNat <
          numerator.toNat % denominator.toNat ∨
        numerator.toNat % denominator.toNat =
            denominator.toNat - numerator.toNat % denominator.toNat ∧
          numerator.toNat / denominator.toNat % 2 = 1 := by
    rw [odd, gt_iff_lt, UInt64.lt_iff_toNat_lt, ← UInt64.toNat_inj, lacking, UInt64.toNat_mod]
  unfold roundedDivideTiesToEven divideTiesToEven
  simp only [same]
  rw [UInt64.toNat_add, UInt64.toNat_div]
  split
  · next up =>
      have one : (1 : UInt64).toNat = 1 := rfl
      have two : 2 ≤ denominator.toNat := by omega
      have half : numerator.toNat / denominator.toNat ≤ numerator.toNat / 2 :=
        Nat.div_le_div_left two (by omega)
      rw [one]
      exact Nat.mod_eq_of_lt (by omega)
  · have zero : (0 : UInt64).toNat = 0 := rfl
    rw [zero]
    exact Nat.mod_eq_of_lt (Nat.lt_of_le_of_lt (Nat.div_le_self _ _) bound)

theorem duration_positive (enough : insufficient record = false) : 0 < duration record := by
  have nonzero := (Bool.or_eq_false_iff.mp enough).2
  rw [beq_eq_false_iff_ne, ne_eq, ← UInt64.toNat_inj] at nonzero
  exact Nat.pos_of_ne_zero nonzero

theorem calculated_eq (checked : Checked record) (enough : insufficient record = false) :
    (calculatedFrequency record).toNat =
      divideTiesToEven (rate record * 2 ^ 16 * cycles record) (duration record) := by
  rw [calculatedFrequency, enough, if_neg Bool.false_ne_true,
    roundedDivideTiesToEven_eq (duration_positive enough), product_eq checked enough]

theorem checked_unwrapped (checked : Checked record) : Unwrapped record where
  ordered := UInt64.lt_iff_toNat_lt.mp checked.ordered
  sampleSpan := sampleSpan_eq checked
  lastSample := by
    have order := UInt64.lt_iff_toNat_lt.mp checked.ordered
    have one : (1 : UInt64).toNat = 1 := rfl
    rw [UInt64.toNat_sub_of_le, one]
    rw [UInt64.le_iff_toNat_le, one]
    omega
  utcSpan := by
    have order := UInt64.lt_iff_toNat_lt.mp checked.later
    rw [UInt64.toNat_sub_of_le _ _ (UInt64.le_of_lt checked.later)]
    omega
  expected := expected_eq
  actual := actual_eq checked
  error := spanError_eq checked
  interval := interval_eq checked
  crossings := crossings_eq checked
  scaled := scaled_eq
  product := product_eq checked
  rounded := calculated_eq checked

/-- What a valid reading promises; a zero is not judged by its range. -/
structure Standardized (record : MeterRecord) (reading : Reading) : Prop where
  exact : NearestEven ((rate record * 2 ^ 16 * cycles record : ℚ) / duration record)
    reading.value.toInt
  range : reading.value ≠ 0 →
    record.frequency10sNominalHz = 50 ∧ 42500 ≤ reading.value.toInt ∧
        reading.value.toInt ≤ 57500 ∨
      record.frequency10sNominalHz = 60 ∧ 51000 ≤ reading.value.toInt ∧
        reading.value.toInt ≤ 69000
  span : |(span record : ℚ) - rate record / 1000 * 10| ≤ 2
  crossings : 2 ≤ record.frequency10sIncludedCrossings.toNat
  inside : 0 ≤ record.frequency10sFirstCrossingQ16.toInt ∧
    record.frequency10sFirstCrossingQ16.toInt < record.frequency10sLastCrossingQ16.toInt ∧
    record.frequency10sLastCrossingQ16.toInt ≤ Frequency10s.span record * 2 ^ 16

def yieldedReasons (record : MeterRecord) : UInt32 :=
  mandatoryReasons record ||| raised [
    (insufficient record, Reason.insufficientCrossings.bit),
    (outOfRange record, Reason.outOfRange.bit),
    (record.frequency10sRejectedCycles != 0, Reason.cycleGeometry.bit)]

/-- Value, mask and status follow from the fields and the reasons, and the reasons leave none out
that the fields give. The producer may give more, of which three and the arithmetic one are its
fields' alone. -/
structure Consistent (record : MeterRecord) : Prop where
  value : record.frequency10sValue.toNat = if record.frequency10sReasons = 0 then
    divideTiesToEven (rate record * 2 ^ 16 * cycles record) (duration record) else 0
  mask : record.validMask = if record.frequency10sReasons = 0 then 0x40 else 0
  status : record.status = expectedStatus record record.frequency10sReasons
  yielded : record.frequency10sReasons &&& yieldedReasons record = yieldedReasons record
  missing : carries record.frequency10sReasons Reason.insufficientCrossings.bit =
    insufficient record
  range : carries record.frequency10sReasons Reason.outOfRange.bit = outOfRange record
  geometry : carries record.frequency10sReasons Reason.cycleGeometry.bit =
    (record.frequency10sRejectedCycles != 0)
  arithmetic : carries record.frequency10sReasons Reason.arithmetic.bit = false

theorem carries_zero (flag : UInt32) : carries 0 flag = false := by
  rw [carries, UInt32.zero_and]
  rfl

theorem enough_of_valid (checked : Checked record) (valid : record.frequency10sReasons = 0) :
    insufficient record = false := by
  rw [← checked.missing, valid, carries_zero]

theorem value_eq (checked : Checked record) (valid : record.frequency10sReasons = 0) :
    record.frequency10sValue.toNat =
      divideTiesToEven (rate record * 2 ^ 16 * cycles record) (duration record) := by
  have own := checked.value
  rw [if_pos valid] at own
  rw [← calculated_eq checked (enough_of_valid checked valid), ← own, UInt32.toNat_toUInt64]

theorem reading_value : (reading record).value.toInt = record.frequency10sValue.toNat := by
  have small := record.frequency10sValue.toNat_lt
  change record.frequency10sValue.toUInt64.toInt64.toInt = _
  rw [toInt64_toInt, UInt32.toNat_toUInt64, if_pos (by omega)]

theorem quality_valid : quality record = .valid ↔ record.frequency10sReasons = 0 := by
  unfold quality
  split
  · next none => exact ⟨fun _ => none, fun _ => rfl⟩
  · next some =>
      refine ⟨?_, fun none => absurd none some⟩
      intro graded
      split at graded
      · cases graded
      · split at graded <;> cases graded

theorem range_valid (checked : Checked record) (valid : record.frequency10sReasons = 0)
    (some : (reading record).value ≠ 0) :
    record.frequency10sNominalHz = 50 ∧ 42500 ≤ (reading record).value.toInt ∧
        (reading record).value.toInt ≤ 57500 ∨
      record.frequency10sNominalHz = 60 ∧ 51000 ≤ (reading record).value.toInt ∧
        (reading record).value.toInt ≤ 69000 := by
  have inside : outOfRange record = false := by
    rw [← checked.range, valid, carries_zero]
  have own := checked.value
  rw [if_pos valid] at own
  have nonzero : calculatedFrequency record ≠ 0 := by
    intro zero
    apply some
    change record.frequency10sValue.toUInt64.toInt64 = 0
    rw [own, zero]
    rfl
  unfold outOfRange at inside
  rw [bne_iff_ne.mpr nonzero, Bool.true_and, Bool.or_eq_false_iff, decide_eq_false_iff_not,
    decide_eq_false_iff_not, UInt64.not_lt, UInt64.not_lt, UInt64.le_iff_toNat_le,
    UInt64.le_iff_toNat_le, ← own, UInt32.toNat_toUInt64] at inside
  rw [reading_value]
  rcases checked.nominal with fifty | sixty
  · left
    rw [minimumMillihz, maximumMillihz, if_pos fifty, if_pos fifty] at inside
    have low : (42500 : UInt64).toNat = 42500 := rfl
    have high : (57500 : UInt64).toNat = 57500 := rfl
    exact ⟨fifty, by omega, by omega⟩
  · right
    have other : record.frequency10sNominalHz ≠ 50 := by
      rw [sixty]
      decide
    rw [minimumMillihz, maximumMillihz, if_neg other, if_neg other] at inside
    have low : (51000 : UInt64).toNat = 51000 := rfl
    have high : (69000 : UInt64).toNat = 69000 := rfl
    exact ⟨sixty, by omega, by omega⟩

theorem span_valid (checked : Checked record) (valid : record.frequency10sReasons = 0) :
    |(span record : ℚ) - rate record / 1000 * 10| ≤ 2 := by
  have none := checked.mandatory
  rw [valid, UInt32.zero_and] at none
  have nonzero : Reason.timeGeometry.bit ≠ 0 := by decide
  have geometry := raised_zero none.symm (decide (spanError record > 2000), Reason.timeGeometry.bit)
    (by simp) nonzero
  have small := UInt64.le_iff_toNat_le.mp (UInt64.not_lt.mp (of_decide_eq_false geometry))
  have error := spanError_eq checked
  have limit : (2000 : UInt64).toNat = 2000 := rfl
  have near : |(rate record * 10 : Int) - span record * 1000| ≤ 2000 := by omega
  have close : |(rate record * 10 : ℚ) - span record * 1000| ≤ 2000 := by exact_mod_cast near
  rw [abs_le] at close ⊢
  constructor <;> linarith [close.1, close.2]

theorem crossings_valid (checked : Checked record) (valid : record.frequency10sReasons = 0) :
    2 ≤ record.frequency10sIncludedCrossings.toNat ∧
      0 ≤ record.frequency10sFirstCrossingQ16.toInt ∧
      record.frequency10sFirstCrossingQ16.toInt < record.frequency10sLastCrossingQ16.toInt ∧
      record.frequency10sLastCrossingQ16.toInt ≤ span record * 2 ^ 16 := by
  have enough := enough_of_valid checked valid
  have counted := (Bool.or_eq_false_iff.mp enough).1
  rw [beq_eq_false_iff_ne] at counted
  have long := duration_positive enough
  have cycles := checked.cycles
  split at cycles
  · exact absurd cycles counted
  · next some =>
      obtain ⟨positive, ordered, inside, duration⟩ := checked.crossings some
      have span := crossings_eq checked some
      have last := word_eq (Int64.le_trans positive ordered)
      have sign := Int64.le_iff_toInt_le.mp positive
      have zero : (0 : Int64).toInt = 0 := rfl
      rw [UInt64.le_iff_toNat_le, interval_eq checked] at inside
      split at duration
      · next two =>
          have most := UInt32.le_iff_toNat_le.mp two
          have pair : (2 : UInt32).toNat = 2 := rfl
          have same := congrArg UInt64.toNat duration
          change 0 < record.frequency10sDurationQ16.toNat at long
          refine ⟨by omega, by omega, by omega, by omega⟩
      · rw [Frequency10s.duration, duration] at long
        exact absurd long (Nat.lt_irrefl _)

theorem decoded_fundamental {update : MeterUpdate}
    (decoded : decodeFrequency10sMeterRecord record = .ok update) :
    update.fundamental = some { frequency := reading record } := by
  obtain ⟨_, -, decoded⟩ := Loops.bind_ok decoded
  obtain ⟨_, -, decoded⟩ := Loops.bind_ok decoded
  cases decoded
  rfl

theorem checked_consistent (checked : Checked record) : Consistent record where
  value := by
    split
    · next valid => exact value_eq checked valid
    · next invalid =>
        have own := checked.value
        rw [if_neg invalid] at own
        exact congrArg UInt64.toNat own
  mask := checked.mask
  status := checked.status
  yielded := by
    rw [yieldedReasons, and_or_distrib, checked.mandatory]
    congr 1
    apply raised_within
    intro flag member set
    rcases List.mem_cons.mp member with rfl | member
    · exact carried_bit (rfl : UInt32.toNat _ = 2 ^ 16) (checked.missing.trans set)
    rcases List.mem_cons.mp member with rfl | member
    · exact carried_bit (rfl : UInt32.toNat _ = 2 ^ 17) (checked.range.trans set)
    rw [List.mem_singleton] at member
    subst member
    exact carried_bit (rfl : UInt32.toNat _ = 2 ^ 20) (checked.rejected.trans set)
  missing := checked.missing
  range := checked.range
  geometry := checked.rejected
  arithmetic := checked.arithmetic

/-- What an accepted record says is computed without overflow, agrees with its fields, and is a
standardized frequency where it is valid. -/
theorem ten_second_frequency (record : MeterRecord) (update : MeterUpdate)
    (accepted : decodeFrequency10sMeterRecord record = .ok update) :
    Unwrapped record ∧ Consistent record ∧
      ∃ values, update.fundamental = some values ∧
        (values.frequency.quality = .valid ↔ record.frequency10sReasons = 0) ∧
        (values.frequency.quality = .valid → Standardized record values.frequency) := by
  have checked := decoded_checked accepted
  refine ⟨checked_unwrapped checked, checked_consistent checked, _, decoded_fundamental accepted,
    quality_valid, ?_⟩
  intro graded
  have valid := quality_valid.mp graded
  have enough := enough_of_valid checked valid
  obtain ⟨two, inside⟩ := crossings_valid checked valid
  refine ⟨?_, range_valid checked valid, span_valid checked valid, two, inside⟩
  have nearest := divideTiesToEven_nearest (rate record * 2 ^ 16 * cycles record)
    (duration_positive enough)
  rw [reading_value, value_eq checked valid]
  exact_mod_cast nearest

theorem valid_zero_iff (checked : Checked record) (valid : record.frequency10sReasons = 0) :
    record.frequency10sValue.toNat = 0 ↔
      rate record = 0 ∨ rate record = 1 ∧ cycles record = 1 ∧ duration record = 2 ^ 17 := by
  have long := duration_positive (enough_of_valid checked valid)
  rw [value_eq checked valid, divideTiesToEven_zero _ long]
  obtain ⟨two, positive, ordered, inside⟩ := crossings_valid checked valid
  have counted := (Bool.or_eq_false_iff.mp (enough_of_valid checked valid)).1
  have some : 1 ≤ cycles record := by
    rw [beq_eq_false_iff_ne, ne_eq, ← UInt32.toNat_inj] at counted
    exact Nat.pos_of_ne_zero counted
  have within : duration record ≤ span record * 2 ^ 16 := by
    have nonempty : record.frequency10sIncludedCrossings ≠ 0 := by
      intro none
      rw [none] at two
      exact absurd two (by decide)
    have crossed := crossings_eq checked nonempty
    have agreed := (checked.crossings nonempty).2.2.2
    have pair : record.frequency10sIncludedCrossings ≥ 2 := by
      rw [ge_iff_le, UInt32.le_iff_toNat_le]
      exact two
    rw [if_pos pair] at agreed
    have same := congrArg UInt64.toNat agreed
    change record.frequency10sDurationQ16.toNat ≤ _
    omega
  have near : |(rate record * 10 : Int) - span record * 1000| ≤ 2000 := by
    have close := span_valid checked valid
    have scaled : |(rate record * 10 : ℚ) - span record * 1000| ≤ 2000 := by
      rw [abs_le] at close ⊢
      constructor <;> linarith [close.1, close.2]
    exact_mod_cast scaled
  rw [abs_le] at near
  constructor
  · intro small
    rcases Nat.eq_zero_or_pos (rate record) with none | moving
    · exact .inl none
    · right
      have most : rate record ≤ rate record * cycles record := Nat.le_mul_of_pos_right _ some
      have reached : 2 * (rate record * cycles record) ≤ span record := by
        have folded : rate record * 2 ^ 16 * cycles record =
            rate record * cycles record * 2 ^ 16 := by ring
        omega
      have one : rate record = 1 := by omega
      rw [one, Nat.one_mul] at reached
      have single : cycles record = 1 := by omega
      rw [one, single] at small
      exact ⟨one, single, by omega⟩
  · rintro (none | ⟨one, single, exactly⟩)
    · rw [none, Nat.zero_mul, Nat.zero_mul]
      exact Nat.zero_le _
    · rw [one, single, exactly]
      decide

theorem decoded_of_checks (record : MeterRecord) (envelope : checkEnvelope record = .ok ())
    (result : checkResult record = .ok ()) :
    ∃ update, decodeFrequency10sMeterRecord record = .ok update := by
  rw [decodeFrequency10sMeterRecord, envelope, result]
  exact ⟨_, rfl⟩

def fiftyHertz : List (Fin 64 × UInt32) :=
  [(0, 0x3152544d), (1, 0x00280001), (2, 256), (3, 7), (4, 0x12345678), (5, 128000), (6, 1280000),
    (7, 0x40), (8, 0x607e), (9, 10000), (13, 0x01010632), (14, 1289999), (16, 50000), (17, 500),
    (18, 0x88000000), (19, 0x13), (22, 0x88000000), (23, 0x13), (24, 1290000), (26, 908722176),
    (27, 395812094), (28, 2318787584), (29, 395812096), (30, 250), (32, 128000000), (33, 7),
    (34, 9), (35, 0x61f), (38, 0xc), (39, 501), (40, 501)]

theorem fifty_hertz_standardized :
    ∃ update values, decodeFrequency10sMeterRecord (.ofWords fiftyHertz) = .ok update ∧
      update.fundamental = some values ∧ values.frequency.quality = .valid ∧
        Standardized (.ofWords fiftyHertz) values.frequency := by
  obtain ⟨update, accepted⟩ := decoded_of_checks (.ofWords fiftyHertz)
    (by decide +kernel) (by decide +kernel)
  obtain ⟨-, -, values, own, graded, standard⟩ := ten_second_frequency _ update accepted
  have valid := graded.mpr (by decide +kernel)
  exact ⟨update, values, accepted, own, valid, standard valid⟩

/-- One sample in ten seconds, at a measured rate of zero. -/
def stoppedRecord : MeterRecord :=
  .ofWords ([(6, 1), (14, 10000), (16, 0), (17, 1), (18, 65536), (19, 0), (22, 65536), (23, 0),
    (24, 10001), (32, 0), (39, 2), (40, 2)] ++ fiftyHertz)

def gapRecord : MeterRecord :=
  .ofWords ([(7, 0), (8, 0x707c), (16, 0), (36, 0x80000)] ++ fiftyHertz)

theorem stopped_record_is_valid :
    (∃ update values, decodeFrequency10sMeterRecord stoppedRecord = .ok update ∧
      update.fundamental = some values ∧ values.frequency.quality = .valid ∧
        values.frequency.value = 0 ∧ stoppedRecord.frequency10sNominalHz = 50) ∧
    (∃ update, decodeFrequency10sMeterRecord gapRecord = .ok update) ∧
      gapRecord.frequency10sReasons ≠ yieldedReasons gapRecord := by
  obtain ⟨stopped, decoded⟩ := decoded_of_checks stoppedRecord
    (by decide +kernel) (by decide +kernel)
  refine ⟨⟨stopped, _, decoded, decoded_fundamental decoded, by decide +kernel, by decide +kernel,
    by decide +kernel⟩, decoded_of_checks gapRecord (by decide +kernel) (by decide +kernel),
    by decide +kernel⟩

end Frequency10s

end Msap1.Meter
