import Msap1.Meter.Updates

/-! The decoders of the fundamental, power, phasor and unbalance records of the six tiers. -/

namespace Msap1.Meter

/-- The hardware lanes: Ia, Ib, Ic, In, Vc, Vb, Va, debug. -/
abbrev Lane := Fin 8

namespace Phase

def index : Phase → Nat
  | a => 0
  | b => 1
  | c => 2

def voltageLane : Phase → Lane
  | a => 6
  | b => 5
  | c => 4

def currentLane : Phase → Lane
  | a => 0
  | b => 1
  | c => 2

/-- The second phase of the pair that the first one names: AB, BC, CA. -/
def partner : Phase → Phase
  | a => b
  | b => c
  | c => a

end Phase

open Phase

def slot (base stride item : Nat) : Fin 64 := Fin.ofNat 64 (base + stride * item)

def bitSet (word : UInt32) (place : Nat) : Bool := word.toBitVec.getLsbD place

structure MeterTimingWord where
  nominalFrequencyHz : UInt8
  cycleCount : UInt8
  cycleLocked : Bool
  freeRunFallback : Bool
  firstBlockAfterApply : Bool
  utcResynchronized : Bool

structure MeterAggregateStatus where
  arithmeticError : Bool
  complete : Bool
  frequencyValid : Bool
  utcOverlap : Bool
  utcResynchronized : Bool

structure MeterAggregateComposition where
  basicBlockCount : UInt8
  nominalFrequencyHz : UInt8
  cycleCount : UInt16

structure MeterTenMinuteStatus where
  arithmeticError : Bool
  complete : Bool
  timeAligned : Bool
  contaminated : Bool
  boundaryValid : Bool
  openInterval : Bool
  nonNormative : Bool

structure MeterTenMinuteComposition where
  basicBlockCount : UInt16
  nominalFrequencyHz : UInt8
  cycleCount : UInt32

structure MeterFrequencyReading where
  valid : Bool
  outOfRange : Bool
  timedOut : Bool
  arithmeticError : Bool
  millihz : UInt32

namespace MeterRecord

variable (record : MeterRecord)

def laneValid (lane : Lane) : Bool := record.validMask.toBitVec.getLsbD lane

def timing : MeterTimingWord where
  nominalFrequencyHz := (record.word 13).toUInt8
  cycleCount := (record.word 13 >>> 8).toUInt8
  cycleLocked := bitSet (record.word 13) 16
  freeRunFallback := bitSet (record.word 13) 17
  firstBlockAfterApply := bitSet (record.word 13) 18
  utcResynchronized := bitSet (record.word 13) 19

def aggregateStatus : MeterAggregateStatus where
  arithmeticError := bitSet record.status 0
  complete := bitSet record.status 1
  frequencyValid := bitSet record.status 2
  utcOverlap := bitSet record.status 3
  utcResynchronized := bitSet record.status 4

def aggregateComposition : MeterAggregateComposition where
  basicBlockCount := (record.word 13).toUInt8
  nominalFrequencyHz := (record.word 13 >>> 8).toUInt8
  cycleCount := (record.word 13 >>> 16).toUInt16

def tenMinuteStatus : MeterTenMinuteStatus where
  arithmeticError := bitSet record.status 0
  complete := bitSet record.status 1
  timeAligned := bitSet record.status 2
  contaminated := bitSet record.status 3
  boundaryValid := bitSet record.status 4
  openInterval := bitSet record.status 5
  nonNormative := bitSet record.status 6

def tenMinuteComposition : MeterTenMinuteComposition where
  basicBlockCount := (record.word 13).toUInt16
  nominalFrequencyHz := (record.word 13 >>> 16).toUInt8
  cycleCount := record.word 41

def frequency : MeterFrequencyReading where
  valid := bitSet (record.word 57) 1
  outOfRange := bitSet (record.word 57) 5
  timedOut := bitSet (record.word 57) 6
  arithmeticError := bitSet (record.word 57) 7
  millihz := record.word 56

def firstBasicSequence : UInt32 := record.word 14
def lastBasicSequence : UInt32 := record.word 15
def aggregateLastSampleIndex : UInt64 := record.unsigned64 36
def tenMinuteTargetSampleIndex : UInt64 := record.unsigned64 42
def tenMinuteOvershootSamples : UInt32 := record.word 44

def unsigned (index : Fin 64) : Int64 := (record.word index).toUInt64.toInt64

/-- A word of 32 bits in two's complement as a reading's value. -/
def signed (index : Fin 64) : Int64 := (record.word index).toInt32.toInt64

end MeterRecord

/-- What the payload of an interval record says about the interval. -/
structure AggregatePayloadState where
  arithmeticError : Bool := false
  invalid : Bool := false
  deriving DecidableEq

def isInterval (period : MeasurementPeriod) : Bool :=
  period = .min10 || period = .hour2 || period = .min10Live || period = .hour2Live

def isPreview (period : MeasurementPeriod) : Bool := period = .min10Live || period = .hour2Live

/-- `two_hour_status` is `ten_minute_status`. -/
def aggregatePayloadState (record : MeterRecord) (period : MeasurementPeriod) :
    AggregatePayloadState :=
  if isInterval period then
    let status := record.tenMinuteStatus
    let previewContractInvalid := isPreview period &&
      (status.complete || !status.openInterval || !status.nonNormative)
    let incomplete := (record.recordFormat = some (.interval .tenMinute .fundamental) ||
      record.recordFormat = some (.interval .twoHour .fundamental)) && !status.complete
    { arithmeticError := status.arithmeticError
      invalid := incomplete || previewContractInvalid || !status.timeAligned ||
        status.contaminated || !status.boundaryValid }
  else {}

/-- The grade of a reading whose inputs are there or not. -/
def grade (arithmeticError invalid available : Bool) : MeasurementQuality :=
  if arithmeticError then .arithmeticError
  else if invalid then .invalid
  else if available then .valid
  else .unavailable

/-- What a decoder knows about all readings of a record. -/
structure Source where
  sequence : UInt64
  receivedAt : Int64
  window : SampleWindow

def Source.of (record : MeterRecord) (receivedAt : Int64) : Source where
  sequence := record.sequence.toUInt64
  receivedAt := receivedAt
  window := sampleWindow record.blockSampleCount record.sampleRateHz

def Source.reading (source : Source) (value : Int64) (quality : MeasurementQuality) : Reading :=
  ⟨value, quality, source.sequence, source.receivedAt, source.window⟩

section Fundamental

variable (record : MeterRecord) (source : Source)

def pairValid (pair : Phase) : Bool :=
  record.laneValid pair.voltageLane && record.laneValid pair.partner.voltageLane

/-- `reading`: valid with its lane, else unavailable. -/
def basicReading (value : Int64) (valid : Bool) : Reading :=
  source.reading value (if valid then .valid else .unavailable)

def frequencyQuality (frequency : MeterFrequencyReading) : MeasurementQuality :=
  if frequency.valid then .valid
  else if frequency.arithmeticError then .arithmeticError
  else if frequency.outOfRange then .outOfRange
  else if frequency.timedOut then .timedOut
  else .unavailable

def decodeFundamentalValues : FundamentalValues :=
  let channel (lane : Lane) : Reading :=
    basicReading source (record.signed64 (slot 19 5 lane)) (record.laneValid lane)
  { frequency := source.reading record.frequency.millihz.toUInt64.toInt64
      (frequencyQuality record.frequency)
    current := ⟨fun phase => channel phase.currentLane, channel 3⟩
    voltageLn := fun phase => channel phase.voltageLane
    voltageLl := fun pair =>
      basicReading source (record.unsigned (slot 51 1 pair.index)) (pairValid record pair) }

def decodeAggregateFundamentalValues (arithmeticError forceInvalid : Bool) : FundamentalValues :=
  let aggregateReading (value : Int64) (valid : Bool) : Reading :=
    source.reading value (grade arithmeticError forceInvalid valid)
  let channel (lane : Lane) : Reading :=
    aggregateReading (record.signed64 (slot 16 2 lane)) (record.laneValid lane)
  { frequency := source.reading (record.unsigned 32) .unavailable
    current := ⟨fun phase => channel phase.currentLane, channel 3⟩
    voltageLn := fun phase => channel phase.voltageLane
    voltageLl := fun pair =>
      aggregateReading (record.unsigned (slot 38 1 pair.index)) (pairValid record pair) }

end Fundamental

/-- The envelope checks that the power, phasor and unbalance decoders share. -/
def checkSibling (record : MeterRecord) (expected : RecordFormat) (name : String) :
    Except Failure Unit := do
  reject (¬record.headerValid ∨ record.recordFormat ≠ some expected) s!"invalid {name} record"
  reject (record.blockSampleCount = 0) s!"{name} record has a zero sample count"
  reject (record.firstSampleIndex = 0) s!"{name} record has a zero first-sample index"

def phaseLanesValid (record : MeterRecord) (phase : Phase) : Bool :=
  record.laneValid phase.voltageLane && record.laneValid phase.currentLane

def powerValues (record : MeterRecord) (source : Source) (period : MeasurementPeriod) :
    PowerValues :=
  let state := aggregatePayloadState record period
  let payloadReading (value : Int64) (available : Bool) : Reading :=
    source.reading value (grade state.arithmeticError state.invalid available)
  let totalsValid := record.laneValid 6 && record.laneValid 0
  let crest (lane : Lane) : Reading :=
    payloadReading (record.unsigned (slot 36 1 lane)) (record.laneValid lane)
  { activePower := fun phase =>
      payloadReading (record.signed64 (slot 16 5 phase.index)) (phaseLanesValid record phase)
    apparentPower := fun phase =>
      payloadReading (record.signed64 (slot 18 5 phase.index)) (phaseLanesValid record phase)
    powerFactor := fun phase =>
      payloadReading (record.signed (slot 20 5 phase.index))
        (phaseLanesValid record phase && record.signed64 (slot 18 5 phase.index) != 0)
    totalActivePower := payloadReading (record.signed64 31) totalsValid
    totalApparentPower := payloadReading (record.signed64 33) totalsValid
    totalPowerFactor := payloadReading (record.signed 35)
      (totalsValid && record.signed64 33 != 0)
    voltageCrest := fun phase => crest phase.voltageLane
    currentCrest := ⟨fun phase => crest phase.currentLane, crest 3⟩ }

def decodePowerPayload (record : MeterRecord) (receivedAt : Int64) (expected : RecordFormat)
    (period : MeasurementPeriod) : Except Failure MeterUpdate := do
  checkSibling record expected "power"
  return {
    period := period
    kind := .power
    sequence := record.sequence.toUInt64
    configurationGeneration := record.configurationGeneration
    power := some (powerValues record (.of record receivedAt) period) }

def loadNature (flags : UInt32) (place : Nat) : LoadNature :=
  match bitSet flags (place + 1), bitSet flags place with
  | false, false => .undefined
  | false, true => .unity
  | true, false => .lagging
  | true, true => .leading

/-- Status bit 1: the values of the block lacked a frequency reference. -/
def blockInvalid (record : MeterRecord) (state : AggregatePayloadState) : Bool :=
  bitSet record.status 1 || state.invalid

def phasorValues (record : MeterRecord) (source : Source) (period : MeasurementPeriod) :
    PhasorValues :=
  let state := aggregatePayloadState record period
  let flags := record.word 51
  let referenceValid := bitSet flags 8
  let reading (value : Int64) (available : Bool) : Reading :=
    source.reading value (grade state.arithmeticError (blockInvalid record state) available)
  let fundOf (lane : Lane) : Int64 := record.unsigned (slot 16 2 lane)
  let fund (lane : Lane) : Reading := reading (fundOf lane) (record.laneValid lane)
  let angle (lane : Lane) : Reading := reading (record.unsigned (slot 17 2 lane))
    (record.laneValid lane && referenceValid && fundOf lane != 0)
  let pairFund (pair : Phase) : Int64 := record.unsigned (slot 30 2 pair.index)
  let totalsValid := record.laneValid 6 && record.laneValid 0
  { fundamentalVoltage := fun phase => fund phase.voltageLane
    fundamentalCurrent := ⟨fun phase => fund phase.currentLane, fund 3⟩
    voltageAngle := fun phase => angle phase.voltageLane
    currentAngle := ⟨fun phase => angle phase.currentLane, angle 3⟩
    fundamentalVoltageLl := fun pair => reading (pairFund pair) (pairValid record pair)
    voltageLlAngle := fun pair => reading (record.unsigned (slot 31 2 pair.index))
      (pairValid record pair && referenceValid && pairFund pair != 0)
    displacementAngle := fun phase => reading (record.unsigned (slot 36 1 phase.index))
      (phaseLanesValid record phase && fundOf phase.voltageLane != 0 &&
        fundOf phase.currentLane != 0)
    reactivePower := fun phase => reading (record.signed64 (slot 39 2 phase.index))
      (phaseLanesValid record phase)
    fundamentalActivePower := fun phase => reading (record.signed64 (slot 52 2 phase.index))
      (phaseLanesValid record phase)
    displacementPowerFactor := fun phase => reading (record.signed (slot 47 1 phase.index))
      (phaseLanesValid record phase && loadNature flags (2 * phase.index) != .undefined)
    loadNature := fun phase => loadNature flags (2 * phase.index)
    totalLoadNature := loadNature flags 6
    totalReactivePower := reading (record.signed64 45) totalsValid
    totalFundamentalActivePower := reading (record.signed64 58) totalsValid
    totalDisplacementPowerFactor := reading (record.signed 50)
      (totalsValid && loadNature flags 6 != .undefined)
    angleReferenceValid := referenceValid
    phasorInvalid := blockInvalid record state }

def decodePhasorPayload (record : MeterRecord) (receivedAt : Int64) (expected : RecordFormat)
    (period : MeasurementPeriod) : Except Failure MeterUpdate := do
  checkSibling record expected "phasor"
  return {
    period := period
    kind := .phasor
    sequence := record.sequence.toUInt64
    configurationGeneration := record.configurationGeneration
    phasor := some (phasorValues record (.of record receivedAt) period) }

def Sequence.index : Sequence → Nat
  | zero => 0
  | positive => 1
  | negative => 2

def unbalanceValues (record : MeterRecord) (source : Source) (period : MeasurementPeriod) :
    UnbalanceValues :=
  let state := aggregatePayloadState record period
  let flags := record.word 32
  let referenceValid := bitSet flags 8
  -- `(valid_mask & 0x70) == 0x70` and `(valid_mask & 0x07) == 0x07`
  let voltageLanes := record.laneValid 4 && record.laneValid 5 && record.laneValid 6
  let currentLanes := record.laneValid 0 && record.laneValid 1 && record.laneValid 2
  let reading (value : Int64) (available : Bool) : Reading :=
    source.reading value (grade state.arithmeticError (blockInvalid record state) available)
  let magnitude (base : Nat) (lanes : Bool) (component : Sequence) : Reading :=
    reading (record.unsigned (slot base 2 component.index)) lanes
  let angle (base : Nat) (lanes : Bool) (component : Sequence) : Reading :=
    reading (record.unsigned (slot (base + 1) 2 component.index))
      (lanes && referenceValid && record.unsigned (slot base 2 component.index) != 0)
  { voltageSequence := magnitude 16 voltageLanes
    voltageAngle := angle 16 voltageLanes
    currentSequence := magnitude 22 currentLanes
    currentAngle := angle 22 currentLanes
    voltageZeroRatio := reading (record.unsigned 28) (voltageLanes && bitSet flags 0)
    voltageUnbalance := reading (record.unsigned 29) (voltageLanes && bitSet flags 0)
    currentZeroRatio := reading (record.unsigned 30) (currentLanes && bitSet flags 1)
    currentUnbalance := reading (record.unsigned 31) (currentLanes && bitSet flags 1)
    angleReferenceValid := referenceValid
    phasorInvalid := blockInvalid record state }

def decodeUnbalancePayload (record : MeterRecord) (receivedAt : Int64) (expected : RecordFormat)
    (period : MeasurementPeriod) : Except Failure MeterUpdate := do
  checkSibling record expected "unbalance"
  return {
    period := period
    kind := .unbalance
    sequence := record.sequence.toUInt64
    configurationGeneration := record.configurationGeneration
    unbalance := some (unbalanceValues record (.of record receivedAt) period) }

end Msap1.Meter
