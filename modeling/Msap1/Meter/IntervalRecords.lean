import Msap1.Meter.QuantityRecords

/-! The decoders of the fundamental records, and the decoder of each tier and quantity. -/

namespace Msap1.Meter

def nominalFrequency (hz : UInt8) : NominalFrequency := if hz = 50 then .hz50 else .hz60

def cyclesPerBasicBlock : NominalFrequency → UInt32
  | .hz50 => 10
  | .hz60 => 12

def basicBlocksPerAggregate : UInt32 := 15

def cyclesPerAggregate (nominal : NominalFrequency) : UInt32 :=
  basicBlocksPerAggregate * cyclesPerBasicBlock nominal

def uint64Max : UInt64 := 0xffffffffffffffff

section Decoders

variable (record : MeterRecord) (receivedAt : Int64)

def checkPeriodic : Except Failure Unit := do
  let timing := record.timing
  reject (¬record.headerValid ∨ record.recordFormat ≠ some (.interval .basic .fundamental))
    "invalid basic record"
  reject (timing.nominalFrequencyHz ≠ 50 ∧ timing.nominalFrequencyHz ≠ 60)
    "invalid nominal frequency in 10/12-cycle basic timing word"
  reject (record.blockSampleCount = 0) "10/12-cycle basic interval has a zero sample count"
  reject (record.firstSampleIndex = 0) "10/12-cycle basic interval has a zero first-sample index"
  reject (record.firstSampleIndex > uint64Max - record.blockSampleCount.toUInt64)
    "10/12-cycle basic sample range overflows the 64-bit counter"
  reject (timing.cycleLocked ∧ ¬timing.freeRunFallback ∧ timing.cycleCount.toUInt32 ≠
      cyclesPerBasicBlock (nominalFrequency timing.nominalFrequencyHz))
    "10/12-cycle basic interval has an impossible cycle count"

def decodePeriodicMeterRecord : Except Failure MeterUpdate := do
  checkPeriodic record
  let timing := record.timing
  return {
    period := .basic
    kind := .fundamental
    sequence := record.sequence.toUInt64
    configurationGeneration := record.configurationGeneration
    fundamental := some (decodeFundamentalValues record (.of record receivedAt))
    timing := some {
      sequence := record.sequence.toUInt64
      configurationGeneration := record.configurationGeneration
      firstSampleIndex := record.firstSampleIndex
      sampleCount := record.blockSampleCount
      sampleRateHz := record.sampleRateHz
      cycleCount := timing.cycleCount.toUInt16
      nominalFrequency := nominalFrequency timing.nominalFrequencyHz
      cycleLocked := timing.cycleLocked
      freeRunFallback := timing.freeRunFallback
      firstBlockAfterApply := timing.firstBlockAfterApply
      utcResynchronized := timing.utcResynchronized } }

/-- The last sample of the range that starts at the first one and has the counted samples. -/
def expectedLastSample : UInt64 :=
  record.firstSampleIndex + record.blockSampleCount.toUInt64 - 1

def checkAggregateRange : Except Failure Unit :=
  if record.aggregateStatus.utcOverlap then
    reject (record.aggregateLastSampleIndex < record.firstSampleIndex ∨
        record.aggregateLastSampleIndex > expectedLastSample record)
      "150/180-cycle UTC-overlap range exceeds its contribution span"
  else
    reject (record.aggregateLastSampleIndex ≠ expectedLastSample record)
      "150/180-cycle aggregate sample range is discontinuous"

def checkAggregate : Except Failure Unit := do
  let status := record.aggregateStatus
  let composition := record.aggregateComposition
  reject (¬record.headerValid ∨ record.recordFormat ≠ some (.interval .aggregate .fundamental))
    "invalid 150/180-cycle aggregate record"
  reject (¬status.complete) "150/180-cycle aggregate is not marked complete"
  reject (composition.nominalFrequencyHz ≠ 50 ∧ composition.nominalFrequencyHz ≠ 60)
    "invalid nominal frequency in 150/180-cycle aggregate composition word"
  reject (composition.basicBlockCount.toUInt32 ≠ basicBlocksPerAggregate)
    "150/180-cycle aggregate is not built from exactly 15 basic intervals"
  reject (composition.cycleCount.toUInt32 ≠
      cyclesPerAggregate (nominalFrequency composition.nominalFrequencyHz))
    "150/180-cycle aggregate cycle count does not match its nominal frequency"
  reject (record.lastBasicSequence - record.firstBasicSequence ≠ basicBlocksPerAggregate - 1)
    "150/180-cycle aggregate does not span 15 consecutive basic intervals"
  reject (record.blockSampleCount = 0) "150/180-cycle aggregate has a zero sample count"
  reject (record.firstSampleIndex = 0) "150/180-cycle aggregate has a zero first-sample index"
  reject (record.firstSampleIndex > uint64Max - record.blockSampleCount.toUInt64)
    "150/180-cycle aggregate sample range overflows the 64-bit counter"
  reject (status.utcOverlap ∧ status.utcResynchronized)
    "150/180-cycle aggregate has conflicting UTC provenance"
  checkAggregateRange record

def decodeAggregateMeterRecord : Except Failure MeterUpdate := do
  checkAggregate record
  let status := record.aggregateStatus
  let composition := record.aggregateComposition
  return {
    period := .cycles150And180
    kind := .fundamental
    sequence := record.sequence.toUInt64
    configurationGeneration := record.configurationGeneration
    fundamental := some (decodeAggregateFundamentalValues record (.of record receivedAt)
      status.arithmeticError false)
    aggregateTiming := some {
      sequence := record.sequence.toUInt64
      configurationGeneration := record.configurationGeneration
      firstSampleIndex := record.firstSampleIndex
      lastSampleIndex := record.aggregateLastSampleIndex
      sampleCount := record.blockSampleCount
      sampleRateHz := record.sampleRateHz
      firstBasicSequence := record.firstBasicSequence
      lastBasicSequence := record.lastBasicSequence
      basicBlockCount := composition.basicBlockCount.toUInt16
      cycleCount := composition.cycleCount.toUInt32
      nominalFrequency := nominalFrequency composition.nominalFrequencyHz
      arithmeticError := status.arithmeticError
      frequencyValid := status.frequencyValid
      utcOverlap := status.utcOverlap
      utcResynchronized := status.utcResynchronized } }

/-- The interval of a ten-minute, two-hour or open record is one that must not be used. -/
def invalidInterval : Bool :=
  let status := record.tenMinuteStatus
  status.contaminated || !status.timeAligned || !status.boundaryValid

/-- What the decoders of the interval records build once their checks have passed. -/
def intervalUpdate (period : MeasurementPeriod) (overshoot : UInt32) : MeterUpdate :=
  let status := record.tenMinuteStatus
  let composition := record.tenMinuteComposition
  { period := period
    kind := .fundamental
    sequence := record.sequence.toUInt64
    configurationGeneration := record.configurationGeneration
    fundamental := some (decodeAggregateFundamentalValues record (.of record receivedAt)
      status.arithmeticError (invalidInterval record))
    aggregateTiming := some {
      sequence := record.sequence.toUInt64
      configurationGeneration := record.configurationGeneration
      firstSampleIndex := record.firstSampleIndex
      lastSampleIndex := record.aggregateLastSampleIndex
      sampleCount := record.blockSampleCount
      sampleRateHz := record.sampleRateHz
      firstBasicSequence := record.firstBasicSequence
      lastBasicSequence := record.lastBasicSequence
      basicBlockCount := composition.basicBlockCount
      cycleCount := composition.cycleCount
      nominalFrequency := nominalFrequency composition.nominalFrequencyHz
      arithmeticError := status.arithmeticError
      timeAligned := status.timeAligned
      contaminated := status.contaminated
      boundaryValid := status.boundaryValid
      targetSampleIndex := some record.tenMinuteTargetSampleIndex
      overshootSamples := some overshoot } }

def checkOpenInterval (expected : RecordFormat) : Except Failure Unit := do
  let status := record.tenMinuteStatus
  let composition := record.tenMinuteComposition
  reject (¬record.headerValid ∨ record.recordFormat ≠ some expected) "invalid open aggregate record"
  reject (status.complete ∨ ¬status.openInterval ∨ ¬status.nonNormative)
    "open aggregate lacks its non-normative interval markers"
  reject ((composition.nominalFrequencyHz ≠ 50 ∧ composition.nominalFrequencyHz ≠ 60) ∨
      composition.basicBlockCount = 0 ∨ composition.cycleCount = 0)
    "open aggregate has an invalid composition"
  reject (record.lastBasicSequence - record.firstBasicSequence ≠
      composition.basicBlockCount.toUInt32 - 1)
    "open aggregate source sequence span is not consecutive"
  reject (record.blockSampleCount = 0 ∨ record.firstSampleIndex = 0 ∨
      record.firstSampleIndex > uint64Max - (record.blockSampleCount - 1).toUInt64)
    "open aggregate has an invalid sample range"
  reject (record.aggregateLastSampleIndex ≠ expectedLastSample record)
    "open aggregate last sample does not match its range"
  reject (record.tenMinuteTargetSampleIndex < record.aggregateLastSampleIndex ∨
      record.tenMinuteOvershootSamples ≠ 0)
    "open aggregate expected end or overshoot is inconsistent"

def decodeOpenIntervalMeterRecord (expected : RecordFormat) (period : MeasurementPeriod) :
    Except Failure MeterUpdate := do
  checkOpenInterval record expected
  return intervalUpdate record receivedAt period 0

/-- How far the actual end of an interval lies behind its target. -/
def overshoot : UInt64 := record.aggregateLastSampleIndex - record.tenMinuteTargetSampleIndex

/-- The checks of the sample range that the ten-minute and the two-hour decoder share. -/
def checkRange (name : String) : Except Failure Unit := do
  reject (record.blockSampleCount = 0 ∨ record.firstSampleIndex = 0)
    s!"{name} aggregate has an empty sample range"
  reject (record.firstSampleIndex > uint64Max - (record.blockSampleCount - 1).toUInt64)
    s!"{name} sample range overflows the 64-bit counter"
  reject (record.aggregateLastSampleIndex ≠ expectedLastSample record)
    s!"{name} actual boundary does not match its sample range"
  reject (record.tenMinuteTargetSampleIndex > record.aggregateLastSampleIndex)
    s!"{name} target boundary follows its actual boundary"
  reject (overshoot record > 0xffffffff ∨
      record.tenMinuteOvershootSamples.toUInt64 ≠ overshoot record)
    s!"{name} boundary overshoot is inconsistent"

def checkTenMinute : Except Failure Unit := do
  let composition := record.tenMinuteComposition
  reject (¬record.headerValid ∨ record.recordFormat ≠ some (.interval .tenMinute .fundamental))
    "invalid ten-minute aggregate record"
  reject (¬record.tenMinuteStatus.complete) "ten-minute aggregate is not marked complete"
  reject (composition.nominalFrequencyHz ≠ 50 ∧ composition.nominalFrequencyHz ≠ 60)
    "invalid nominal frequency in ten-minute composition"
  reject (composition.basicBlockCount = 0 ∨ composition.cycleCount = 0)
    "ten-minute aggregate has an empty composition"
  reject (composition.cycleCount.toUInt64 ≠ composition.basicBlockCount.toUInt64 *
      (cyclesPerBasicBlock (nominalFrequency composition.nominalFrequencyHz)).toUInt64)
    "ten-minute aggregate cycle count does not match its blocks"
  reject (record.lastBasicSequence - record.firstBasicSequence ≠
      composition.basicBlockCount.toUInt32 - 1)
    "ten-minute basic sequence span is not consecutive"
  checkRange record "ten-minute"

def decodeTenMinuteMeterRecord : Except Failure MeterUpdate := do
  checkTenMinute record
  return intervalUpdate record receivedAt .min10 record.tenMinuteOvershootSamples

def intervalsPerTwoHours : UInt16 := 12

def checkTwoHour : Except Failure Unit := do
  let composition := record.tenMinuteComposition
  reject (¬record.headerValid ∨ record.recordFormat ≠ some (.interval .twoHour .fundamental))
    "invalid two-hour aggregate record"
  reject (¬record.tenMinuteStatus.complete) "two-hour aggregate is not marked complete"
  reject (composition.nominalFrequencyHz ≠ 50 ∧ composition.nominalFrequencyHz ≠ 60)
    "invalid nominal frequency in two-hour composition"
  reject (composition.basicBlockCount ≠ intervalsPerTwoHours ∨ composition.cycleCount = 0)
    "two-hour aggregate is not built from twelve intervals"
  reject (record.lastBasicSequence - record.firstBasicSequence ≠
      intervalsPerTwoHours.toUInt32 - 1)
    "two-hour ten-minute sequence span is not consecutive"
  checkRange record "two-hour"

def decodeTwoHourMeterRecord : Except Failure MeterUpdate := do
  checkTwoHour record
  return intervalUpdate record receivedAt .hour2 record.tenMinuteOvershootSamples

end Decoders

def Tier.period : Tier → MeasurementPeriod
  | basic => .basic
  | aggregate => .cycles150And180
  | tenMinute => .min10
  | twoHour => .hour2
  | tenMinuteOpen => .min10Live
  | twoHourOpen => .hour2Live

/-- The decoder that the registry has for a tier and a quantity: `decode_power_meter_record`,
`decode_aggregate_power_meter_record` and so on. -/
def decodeInterval (tier : Tier) (quantity : Quantity) (record : MeterRecord)
    (receivedAt : Int64) : Except Failure MeterUpdate :=
  match quantity, tier with
  | .fundamental, .basic => decodePeriodicMeterRecord record receivedAt
  | .fundamental, .aggregate => decodeAggregateMeterRecord record receivedAt
  | .fundamental, .tenMinute => decodeTenMinuteMeterRecord record receivedAt
  | .fundamental, .twoHour => decodeTwoHourMeterRecord record receivedAt
  | .fundamental, .tenMinuteOpen =>
      decodeOpenIntervalMeterRecord record receivedAt (.interval .tenMinuteOpen .fundamental)
        .min10Live
  | .fundamental, .twoHourOpen =>
      decodeOpenIntervalMeterRecord record receivedAt (.interval .twoHourOpen .fundamental)
        .hour2Live
  | .power, tier => decodePowerPayload record receivedAt (.interval tier .power) tier.period
  | .phasor, tier => decodePhasorPayload record receivedAt (.interval tier .phasor) tier.period
  | .unbalance, tier =>
      decodeUnbalancePayload record receivedAt (.interval tier .unbalance) tier.period

end Msap1.Meter
