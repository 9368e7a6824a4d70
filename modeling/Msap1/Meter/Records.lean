import Msap1.Meter.Values

/-! The raw record of `meter_record.hpp` and the ENERGY-v1 identity of `energy_demand.cpp`. -/

namespace Msap1.Meter

/-- The tiers that own a BASIC-shaped record and its three siblings. -/
inductive Tier where
  | basic
  | aggregate
  | tenMinute
  | twoHour
  | tenMinuteOpen
  | twoHourOpen
  deriving DecidableEq, Repr

inductive Quantity where
  | fundamental
  | power
  | phasor
  | unbalance
  deriving DecidableEq, Repr

inductive RecordFormat where
  | interval (tier : Tier) (quantity : Quantity)
  | energy
  | demand
  | harmonic
  | harmonicAggregate
  | pqEvent
  | pqEventLifecycle
  | flicker
  | mainsSignal
  | frequency10s
  | singleCycle
  deriving DecidableEq, Repr

namespace RecordFormat

def code : RecordFormat → UInt32
  | interval .basic .fundamental => 0x00010004
  | interval .basic .power => 0x00070001
  | interval .basic .phasor => 0x00080002
  | interval .basic .unbalance => 0x00090002
  | interval .aggregate .fundamental => 0x00020003
  | interval .aggregate .power => 0x00100001
  | interval .aggregate .phasor => 0x00110002
  | interval .aggregate .unbalance => 0x00120002
  | interval .tenMinute .fundamental => 0x000C0001
  | interval .tenMinute .power => 0x00130001
  | interval .tenMinute .phasor => 0x00140002
  | interval .tenMinute .unbalance => 0x00150002
  | interval .twoHour .fundamental => 0x000D0001
  | interval .twoHour .power => 0x00160001
  | interval .twoHour .phasor => 0x00170002
  | interval .twoHour .unbalance => 0x00180002
  | interval .tenMinuteOpen .fundamental => 0x00200001
  | interval .tenMinuteOpen .power => 0x00210001
  | interval .tenMinuteOpen .phasor => 0x00220002
  | interval .tenMinuteOpen .unbalance => 0x00230002
  | interval .twoHourOpen .fundamental => 0x00240001
  | interval .twoHourOpen .power => 0x00250001
  | interval .twoHourOpen .phasor => 0x00260002
  | interval .twoHourOpen .unbalance => 0x00270002
  | energy => 0x00030001
  | demand => 0x00040001
  | harmonic => 0x00050001
  | harmonicAggregate => 0x001F0001
  | pqEvent => 0x000B0001
  | pqEventLifecycle => 0x00060001
  | flicker => 0x000E0001
  | mainsSignal => 0x000F0001
  | frequency10s => 0x00280001
  | singleCycle => 0x000A0005

def tiers : List Tier :=
  [.basic, .aggregate, .tenMinute, .twoHour, .tenMinuteOpen, .twoHourOpen]

def all : List RecordFormat :=
  (tiers.flatMap fun tier =>
    [interval tier .fundamental, interval tier .power, interval tier .phasor,
      interval tier .unbalance]) ++
    [energy, demand, harmonic, harmonicAggregate, pqEvent, pqEventLifecycle, flicker,
      mainsSignal, frequency10s, singleCycle]

def ofCode (word : UInt32) : Option RecordFormat := all.find? (fun format => format.code == word)

/-- The period under which `MeterDecoderRegistry` files a format, for the formats that have a
decoder there, and ENERGY, whose update the ingestor builds itself. -/
def period : RecordFormat → Option MeasurementPeriod
  | interval .basic _ => some .basic
  | interval .aggregate _ => some .cycles150And180
  | interval .tenMinute _ => some .min10
  | interval .twoHour _ => some .hour2
  | interval .tenMinuteOpen _ => some .min10Live
  | interval .twoHourOpen _ => some .hour2Live
  | energy => some .basic
  | demand => some .demand
  | frequency10s => some .seconds10
  | _ => none

end RecordFormat

/-- One 256-byte record of the PL. -/
structure MeterRecord where
  words : Fin 64 → UInt32
  deriving DecidableEq

namespace MeterRecord

variable (record : MeterRecord)

def word (index : Fin 64) : UInt32 := record.words index

def unsigned64 (low : Fin 64) : UInt64 :=
  (record.word low).toUInt64 ||| ((record.word (low + 1)).toUInt64 <<< 32)

def recordFormat : Option RecordFormat := RecordFormat.ofCode (record.word 1)

def headerValid : Bool :=
  record.word 0 == 0x3152544d && record.recordFormat.isSome && record.word 2 == 256

def sequence : UInt32 := record.word 3
def configurationGeneration : UInt32 := record.word 4
def sampleRateHz : UInt32 := record.word 5
def blockSampleCount : UInt32 := record.word 6
def validMask : UInt8 := (record.word 7).toUInt8
def status : UInt32 := record.word 8
def firstSampleIndex : UInt64 := record.unsigned64 9
def emitDrops : UInt32 := record.word 11
def resultDrops : UInt32 := record.word 12

def energyPart : UInt32 := record.word 13 &&& 3
def energyPartCount : UInt32 := (record.word 13 >>> 2) &&& 3
def energyFamilyComplete : Bool := record.word 13 &&& 0x10 != 0
def energyComplete : Bool := record.status &&& 2 != 0
def energyLastSampleIndex : UInt64 := record.unsigned64 14
def energySessionId : UInt64 := record.unsigned64 48

def zeroWords (first last : Nat) : Bool :=
  (List.finRange 64).all fun index =>
    !(first ≤ index.val && index.val ≤ last) || record.word index == 0

/-- `checked_counter` over the four lanes of every block of counters. -/
def countersChecked (bases : List (Fin 64)) : Bool :=
  bases.all fun base =>
    [0, 2, 4, 6].all fun lane => record.unsigned64 (base + lane) ≤ 0x7fffffffffffffff

def energyPartValid : Bool :=
  record.headerValid && record.recordFormat == some .energy &&
    record.word 13 &&& ~~~0xf1f == 0 && record.energyPart ≤ 1 && record.energyPartCount == 2 &&
    record.energyFamilyComplete && record.energyComplete && record.status &&& ~~~0x1f == 0 &&
    record.emitDrops == 0 && record.resultDrops == 0 && record.blockSampleCount != 0 &&
    record.energySessionId != 0 && record.firstSampleIndex ≤ record.energyLastSampleIndex &&
    (record.energyPart != 0 || record.zeroWords 40 47) && record.zeroWords 56 63 &&
    (if record.energyPart == 0 then record.countersChecked [16, 24, 32]
      else record.countersChecked [16, 24, 32, 40])

end MeterRecord

structure EnergyFamilyIdentity where
  sequence : UInt32
  configurationGeneration : UInt32
  sampleRateHz : UInt32
  sampleCount : UInt32
  sourceValidMask : UInt8
  status : UInt32
  firstSampleIndex : UInt64
  lastSampleIndex : UInt64
  sessionId : UInt64
  acceptedSamples : UInt64
  skippedSamples : UInt64
  acceptedBlocks : UInt32
  skippedBlocks : UInt32
  deriving DecidableEq, Repr

/-- `decode_energy_identity`; `none` stands for the exception of the validation. -/
def decodeEnergyIdentity (record : MeterRecord) : Option EnergyFamilyIdentity :=
  if record.energyPartValid then
    some {
      sequence := record.sequence
      configurationGeneration := record.configurationGeneration
      sampleRateHz := record.sampleRateHz
      sampleCount := record.blockSampleCount
      sourceValidMask := record.validMask
      status := record.status
      firstSampleIndex := record.firstSampleIndex
      lastSampleIndex := record.energyLastSampleIndex
      sessionId := record.energySessionId
      acceptedSamples := record.unsigned64 50
      skippedSamples := record.unsigned64 52
      acceptedBlocks := record.word 54
      skippedBlocks := record.word 55 }
  else none

theorem decodeEnergyIdentity_sequence {record : MeterRecord} {identity : EnergyFamilyIdentity}
    (decoded : decodeEnergyIdentity record = some identity) :
    identity.sequence = record.sequence := by
  rw [decodeEnergyIdentity] at decoded
  split at decoded
  · cases decoded
    rfl
  · cases decoded

end Msap1.Meter
