import Msap1.ByteLayout
import Msap1.Crc

/-! The document types of `mncwf_v4.hpp`. An enumeration is its own type over the code that
the file holds; strings are bytes, as the format does not promise more than their encoding. -/

namespace Msap1.Mncwf

open ByteCodec ByteLayout

structure MncwfTopology where
  code : UInt32
  deriving DecidableEq, Repr

namespace MncwfTopology

def unknown : MncwfTopology := ⟨0⟩
def wye : MncwfTopology := ⟨1⟩
def delta : MncwfTopology := ⟨2⟩

end MncwfTopology

structure MncwfCalibrationStatus where
  code : UInt32
  deriving DecidableEq, Repr

namespace MncwfCalibrationStatus

def unknown : MncwfCalibrationStatus := ⟨0⟩
def valid : MncwfCalibrationStatus := ⟨1⟩
def expired : MncwfCalibrationStatus := ⟨2⟩
def invalid : MncwfCalibrationStatus := ⟨3⟩

end MncwfCalibrationStatus

structure MncwfDecimationMethod where
  code : UInt16
  deriving DecidableEq, Repr

namespace MncwfDecimationMethod

def none : MncwfDecimationMethod := ⟨0⟩
def boxcarMeanTowardZero : MncwfDecimationMethod := ⟨1⟩

end MncwfDecimationMethod

structure MncwfClockSource where
  code : UInt16
  deriving DecidableEq, Repr

namespace MncwfClockSource

def unknown : MncwfClockSource := ⟨0⟩
def system : MncwfClockSource := ⟨1⟩
def ptp : MncwfClockSource := ⟨2⟩
def gnss : MncwfClockSource := ⟨3⟩
def manual : MncwfClockSource := ⟨4⟩

end MncwfClockSource

structure MncwfTimeQuality where
  code : UInt16
  deriving DecidableEq, Repr

namespace MncwfTimeQuality

def unknown : MncwfTimeQuality := ⟨0⟩
def unlocked : MncwfTimeQuality := ⟨1⟩
def holdover : MncwfTimeQuality := ⟨2⟩
def locked : MncwfTimeQuality := ⟨3⟩

end MncwfTimeQuality

structure MncwfPhase where
  code : UInt16
  deriving DecidableEq, Repr

namespace MncwfPhase

def none : MncwfPhase := ⟨0⟩
def a : MncwfPhase := ⟨1⟩
def b : MncwfPhase := ⟨2⟩
def c : MncwfPhase := ⟨3⟩
def neutral : MncwfPhase := ⟨4⟩
def ab : MncwfPhase := ⟨5⟩
def bc : MncwfPhase := ⟨6⟩
def ca : MncwfPhase := ⟨7⟩

end MncwfPhase

structure MncwfQuantity where
  code : UInt16
  deriving DecidableEq, Repr

namespace MncwfQuantity

def unknown : MncwfQuantity := ⟨0⟩
def current : MncwfQuantity := ⟨1⟩
def voltage : MncwfQuantity := ⟨2⟩
def status : MncwfQuantity := ⟨3⟩
def frequency : MncwfQuantity := ⟨4⟩
def ratio : MncwfQuantity := ⟨5⟩

end MncwfQuantity

structure MncwfSiUnit where
  code : UInt16
  deriving DecidableEq, Repr

namespace MncwfSiUnit

def dimensionless : MncwfSiUnit := ⟨0⟩
def ampere : MncwfSiUnit := ⟨1⟩
def volt : MncwfSiUnit := ⟨2⟩
def hertz : MncwfSiUnit := ⟨3⟩

end MncwfSiUnit

structure MncwfSampleEncoding where
  code : UInt16
  deriving DecidableEq, Repr

namespace MncwfSampleEncoding

def signedIntegerLittleEndian : MncwfSampleEncoding := ⟨1⟩

end MncwfSampleEncoding

structure MncwfEventTaxonomy where
  code : UInt16
  deriving DecidableEq, Repr

namespace MncwfEventTaxonomy

def unknown : MncwfEventTaxonomy := ⟨0⟩
def iec61000430 : MncwfEventTaxonomy := ⟨1⟩
def productAlarm : MncwfEventTaxonomy := ⟨2⟩

end MncwfEventTaxonomy

structure MncwfEventLifecycle where
  code : UInt16
  deriving DecidableEq, Repr

namespace MncwfEventLifecycle

def start : MncwfEventLifecycle := ⟨1⟩
def update : MncwfEventLifecycle := ⟨2⟩
def ended : MncwfEventLifecycle := ⟨3⟩
def abort : MncwfEventLifecycle := ⟨4⟩
def complete : MncwfEventLifecycle := ⟨5⟩

end MncwfEventLifecycle

structure MncwfLineageRelation where
  code : UInt16
  deriving DecidableEq, Repr

namespace MncwfLineageRelation

def parent : MncwfLineageRelation := ⟨1⟩
def previousContinuation : MncwfLineageRelation := ⟨2⟩
def nextContinuation : MncwfLineageRelation := ⟨3⟩
def event : MncwfLineageRelation := ⟨4⟩
def virtualSlice : MncwfLineageRelation := ⟨5⟩

end MncwfLineageRelation

def timeUtcOffsetKnown : UInt16 := 1
def timePositiveLeapPending : UInt16 := 2
def timeNegativeLeapPending : UInt16 := 4
def timeRateChangeBefore : UInt16 := 8
def timeSequenceGapBefore : UInt16 := 16
def timeKnownFlags : UInt16 := timeUtcOffsetKnown ||| timePositiveLeapPending |||
    timeNegativeLeapPending ||| timeRateChangeBefore ||| timeSequenceGapBefore

def channelEnabled : UInt32 := 1
def channelTransformValid : UInt32 := 2
def channelRatioValid : UInt32 := 4
def channelNominalValid : UInt32 := 8
def channelRangeValid : UInt32 := 16
def channelResolutionValid : UInt32 := 32
def channelClippingValid : UInt32 := 64
def channelCalibrationValid : UInt32 := 128
def channelKnownFlags : UInt32 := channelEnabled ||| channelTransformValid ||| channelRatioValid
    ||| channelNominalValid ||| channelRangeValid ||| channelResolutionValid |||
    channelClippingValid ||| channelCalibrationValid

def eventPhaseA : UInt32 := 1
def eventPhaseB : UInt32 := 2
def eventPhaseC : UInt32 := 4
def eventPhaseNeutral : UInt32 := 8
def eventPhaseSystem : UInt32 := 16
def eventKnownPhaseMask : UInt32 := eventPhaseA ||| eventPhaseB ||| eventPhaseC |||
    eventPhaseNeutral ||| eventPhaseSystem

def eventStartValid : UInt32 := 1
def eventCurrentValid : UInt32 := 2
def eventEndValid : UInt32 := 4
def eventTriggerValid : UInt32 := 8
def eventTaiValid : UInt32 := 16
def eventUtcValid : UInt32 := 32
def eventSettingsSnapshotValid : UInt32 := 64
def eventContaminated : UInt32 := 128
def eventDiscontinuous : UInt32 := 256
def eventKnownFlags : UInt32 := eventStartValid ||| eventCurrentValid ||| eventEndValid |||
    eventTriggerValid ||| eventTaiValid ||| eventUtcValid ||| eventSettingsSnapshotValid |||
    eventContaminated ||| eventDiscontinuous

def qualityGap : UInt32 := 1
def qualitySaturated : UInt32 := 2
def qualityClipped : UInt32 := 4
def qualityTransportLoss : UInt32 := 8
def qualityTimingUncertain : UInt32 := 16
def qualityCalibrationInvalid : UInt32 := 32
def qualityRateChange : UInt32 := 64
def qualityKnownFlags : UInt32 := qualityGap ||| qualitySaturated ||| qualityClipped |||
    qualityTransportLoss ||| qualityTimingUncertain ||| qualityCalibrationInvalid |||
    qualityRateChange

abbrev MncwfUuid := { bytes : Bytes // bytes.length = 16 }

abbrev MncwfSha256 := { bytes : Bytes // bytes.length = 32 }

structure MncwfV4CaptureMetadata where
  captureUuid : MncwfUuid
  deviceUuid : MncwfUuid
  configurationSha256 : MncwfSha256
  sensorProfileSha256 : MncwfSha256
  createdTaiNanoseconds : UInt64
  createdUtcNanoseconds : UInt64
  nominalVoltageNumerator : Int64
  nominalVoltageDenominator : UInt64
  nominalFrequencyNumerator : UInt64
  nominalFrequencyDenominator : UInt64
  topology : MncwfTopology
  calibrationStatus : MncwfCalibrationStatus
  flags : UInt32
  stationName : Bytes
  siteName : Bytes
  circuitName : Bytes
  productName : Bytes
  deviceModel : Bytes
  firmwareVersion : Bytes
  softwareBuildId : Bytes
  sensorProfileId : Bytes
  configurationId : Bytes
  calibrationId : Bytes
  deviceSerial : Bytes
  comments : Bytes
  deriving DecidableEq

structure MncwfV4TimebaseSegment where
  firstFrame : UInt64
  frameCount : UInt64
  firstSequence : UInt64
  sequenceStep : UInt64
  acquisitionRateNumerator : UInt64
  acquisitionRateDenominator : UInt64
  persistedRateNumerator : UInt64
  persistedRateDenominator : UInt64
  correlationSequence : UInt64
  correlationPlTick : UInt64
  correlationTaiNanoseconds : UInt64
  correlationUtcNanoseconds : UInt64
  uncertaintyNanoseconds : UInt64
  decimationDivisor : UInt32
  decimationMethod : MncwfDecimationMethod
  clockSource : MncwfClockSource
  timeQuality : MncwfTimeQuality
  flags : UInt16
  utcOffsetSeconds : Int32
  sourceFrameCount : UInt64
  deriving DecidableEq

structure MncwfV4ChannelDefinition where
  stableId : MncwfUuid
  sourceChannel : UInt32
  flags : UInt32
  phase : MncwfPhase
  quantity : MncwfQuantity
  siUnit : MncwfSiUnit
  sampleEncoding : MncwfSampleEncoding
  storageBits : UInt16
  validBits : UInt16
  displayExponent10 : Int16
  gainNumerator : Int64
  gainDenominator : UInt64
  offsetNumerator : Int64
  offsetDenominator : UInt64
  primarySecondaryRatioNumerator : UInt64
  primarySecondaryRatioDenominator : UInt64
  nominalNumerator : Int64
  nominalDenominator : UInt64
  rangeMinimumNumerator : Int64
  rangeMinimumDenominator : UInt64
  rangeMaximumNumerator : Int64
  rangeMaximumDenominator : UInt64
  resolutionNumerator : UInt64
  resolutionDenominator : UInt64
  clippingLow : Int64
  clippingHigh : Int64
  name : Bytes
  unitSymbol : Bytes
  description : Bytes
  deriving DecidableEq

structure Extrema where
  phaseA : Int64
  phaseB : Int64
  phaseC : Int64
  deriving DecidableEq, Repr

structure MncwfV4EventDescriptor where
  eventUuid : MncwfUuid
  taxonomy : MncwfEventTaxonomy
  eventType : UInt16
  lifecycle : MncwfEventLifecycle
  timeQuality : MncwfTimeQuality
  flags : UInt32
  phaseMask : UInt32
  quantity : MncwfQuantity
  siUnit : MncwfSiUnit
  triggerSource : UInt16
  configurationGeneration : UInt32
  severity : UInt32
  startSequence : UInt64
  currentSequence : UInt64
  endSequence : UInt64
  triggerSequence : UInt64
  startTaiNanoseconds : UInt64
  currentTaiNanoseconds : UInt64
  endTaiNanoseconds : UInt64
  triggerTaiNanoseconds : UInt64
  startUtcNanoseconds : UInt64
  currentUtcNanoseconds : UInt64
  endUtcNanoseconds : UInt64
  triggerUtcNanoseconds : UInt64
  uncertaintyNanoseconds : UInt64
  referenceMicroUnits : Int64
  thresholdMicroUnits : Int64
  hysteresisMicroUnits : Int64
  extremaMicroUnits : Extrema
  durationSamples : UInt64
  updateCount : UInt64
  status : UInt32
  taxonomyName : Bytes
  label : Bytes
  settingsSnapshotJson : Bytes
  deriving DecidableEq

structure MncwfV4QualityInterval where
  firstFrame : UInt64
  frameCount : UInt64
  firstSequence : UInt64
  lastSequence : UInt64
  channelMask : UInt64
  flags : UInt32
  severity : UInt16
  source : UInt16
  detailCode : UInt32
  deriving DecidableEq

structure MncwfV4LineageEntry where
  relation : MncwfLineageRelation
  flags : UInt16
  relatedCaptureUuid : MncwfUuid
  relatedEventUuid : MncwfUuid
  firstSequence : UInt64
  lastSequence : UInt64
  partIndex : UInt32
  partCount : UInt32
  deriving DecidableEq

end Msap1.Mncwf
