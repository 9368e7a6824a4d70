import Msap1.Csv
import Msap1.Meter.Values

/-! The data of `mnc/datalogger/types.hpp` and the parts of the attribute catalog that the
datalogger asks for. Times are nanoseconds in the range of `int64`. -/

namespace Msap1.Datalogger

open Meter (MeasurementPeriod MeasurementQuality)

abbrev Bytes := List UInt8

/-- The bytes of a text of the source, all of them ASCII. -/
def text (literal : String) : Bytes := literal.toList.map fun character => character.toNat.toUInt8

def digitByte (digit : Nat) : UInt8 := (0x30 + digit).toUInt8

/-- `std::to_string` of an unsigned number. -/
def decimal (number : Nat) : Bytes :=
  if number = 0 then [digitByte 0] else (Nat.digits 10 number).reverse.map digitByte

/-- `std::to_string` of a signed number. -/
def signedDecimal (number : Int) : Bytes :=
  if number < 0 then text "-" ++ decimal number.natAbs else decimal number.natAbs

structure UtcWindow where
  start : Int := 0
  finish : Int := 0
  deriving DecidableEq, Repr

namespace UtcWindow

def valid (window : UtcWindow) : Prop := window.start < window.finish

instance (window : UtcWindow) : Decidable window.valid := by
  unfold valid
  infer_instance

def durationNanoseconds (window : UtcWindow) : Int := window.finish - window.start

/-- The half-open window holds a time. -/
def Holds (window : UtcWindow) (time : Int) : Prop :=
  window.start ≤ time ∧ time < window.finish

instance (window : UtcWindow) (time : Int) : Decidable (window.Holds time) := by
  unfold Holds
  infer_instance

end UtcWindow

inductive ContentFormat where
  | json
  | csv
  deriving DecidableEq, Repr

def contentFormatName : ContentFormat → Bytes
  | .json => text "json"
  | .csv => text "csv"

inductive MeterAttributeCalculation where
  | minimum
  | maximum
  | average
  | last
  | circularAverage
  | first
  | delta
  deriving DecidableEq, Repr

def calculationName : MeterAttributeCalculation → Bytes
  | .minimum => text "minimum"
  | .maximum => text "maximum"
  | .average => text "average"
  | .last => text "last"
  | .circularAverage => text "circular_average"
  | .first => text "first"
  | .delta => text "delta"

def qualityName : MeasurementQuality → Bytes
  | .unavailable => text "unavailable"
  | .valid => text "valid"
  | .invalid => text "invalid"
  | .outOfRange => text "out_of_range"
  | .timedOut => text "timed_out"
  | .arithmeticError => text "arithmetic_error"

/-- The keys of `period_catalog`. -/
def periodName : MeasurementPeriod → Bytes
  | .basic => text "basic"
  | .seconds10 => text "seconds_10"
  | .cycles150And180 => text "cycles_150_180"
  | .min10 => text "minutes_10"
  | .hour2 => text "hours_2"
  | .demand => text "demand"
  | .min10Live => text "minutes_10_live"
  | .hour2Live => text "hours_2_live"

inductive MeterAttributeValueKind where
  | linear
  | circularAngle
  | cumulativeCounter
  | peak
  | categorical
  deriving DecidableEq, Repr

/-- The identity is the number of the enumerator. -/
structure MeterAttributeKey where
  id : Nat := 0
  index : Option Nat := none
  deriving DecidableEq, Repr

namespace MeterAttributeKey

def definedAttributeCount : Nat := 125

def activeImportEnergyA : Nat := 47
def reactiveEnergyQuadrantIVTotal : Nat := 74
def currentActiveDemandA : Nat := 75
def exportDemandPeakTotal : Nat := 86

/-- `supports_attribute` for the usage `Historian`. -/
def supportsHistorian (key : MeterAttributeKey) (period : MeasurementPeriod) : Bool :=
  if key.index.isSome then false
  else if definedAttributeCount ≤ key.id then false
  else if currentActiveDemandA ≤ key.id ∧ key.id ≤ exportDemandPeakTotal then
    period = .demand
  else if activeImportEnergyA ≤ key.id ∧ key.id ≤ reactiveEnergyQuadrantIVTotal then
    period = .min10
  else if key.id = 0 then period = .basic ∨ period = .seconds10
  else if period = .min10Live ∨ period = .hour2Live then false
  else period = .basic ∨ period = .cycles150And180 ∨ period = .min10 ∨ period = .hour2

def valueKindFor (id : Nat) : MeterAttributeValueKind :=
  if (31 ≤ id ∧ id ≤ 36) ∨ (108 ≤ id ∧ id ≤ 120) then .circularAngle
  else if activeImportEnergyA ≤ id ∧ id ≤ reactiveEnergyQuadrantIVTotal then .cumulativeCounter
  else if 79 ≤ id ∧ id ≤ exportDemandPeakTotal then .peak
  else if 121 ≤ id then .categorical
  else .linear

def calculationsFor : MeterAttributeValueKind → List MeterAttributeCalculation
  | .linear => [.minimum, .maximum, .average, .last]
  | .circularAngle => [.circularAverage, .last]
  | .cumulativeCounter => [.first, .last, .delta]
  | .peak => [.last]
  | .categorical => [.last]

end MeterAttributeKey

/-- The texts of the catalog; the rest of `describe` follows from the number. -/
structure MeterAttributeTexts where
  key : MeterAttributeKey → Bytes
  label : MeterAttributeKey → Bytes
  unit : MeterAttributeKey → Bytes

structure AttributeSelection where
  attributeKey : MeterAttributeKey := {}
  calculation : MeterAttributeCalculation := .last
  deriving DecidableEq, Repr

structure DatalogJobSnapshot where
  jobId : Bytes := []
  revision : Nat := 1
  productId : Bytes := []
  deviceId : Bytes := []
  sourcePeriod : MeasurementPeriod := .basic
  generationIntervalNanoseconds : Int := 0
  rowIntervalNanoseconds : Int := 0
  format : ContentFormat := .json
  selections : List AttributeSelection := []
  deriving DecidableEq, Repr

structure HistoricalSample where
  measuredAt : Int := 0
  sourceSequence : Nat := 0
  attributeKey : MeterAttributeKey := {}
  value : Int := 0
  quality : MeasurementQuality := .unavailable
  resetEpoch : Option Nat := none
  deriving DecidableEq, Repr

structure DatasetColumn where
  id : Bytes
  attributeKey : Bytes
  label : Bytes
  unit : Bytes
  calculation : MeterAttributeCalculation := .last
  valueKind : MeterAttributeValueKind := .linear
  deriving DecidableEq, Repr

structure DatasetCell where
  value : Option Bytes := none
  quality : MeasurementQuality := .unavailable
  contributingSamples : Nat := 0
  expectedSamples : Nat := 0
  complete : Bool := false
  continuity : Bool := true
  resetEpoch : Option Nat := none
  deriving DecidableEq, Repr

structure DatasetRow where
  window : UtcWindow
  cells : List DatasetCell
  deriving DecidableEq, Repr

structure GeneratedDataset where
  schema : Bytes := text "mnc.meter.datalog.v1"
  artifactId : Bytes := []
  jobId : Bytes := []
  jobRevision : Nat := 0
  productId : Bytes := []
  deviceId : Bytes := []
  sourcePeriod : MeasurementPeriod := .basic
  format : ContentFormat := .json
  generatedAt : Int := 0
  artifactWindow : UtcWindow := {}
  columns : List DatasetColumn := []
  rows : List DatasetRow := []
  deriving DecidableEq, Repr

inductive DatalogErrorCode where
  | invalidConfiguration
  | unsupportedCapability
  | sourceUnavailable
  | sourceRetentionGap
  | serializationFailure
  | storageFailure
  deriving DecidableEq, Repr

structure DatalogError where
  code : DatalogErrorCode
  message : String
  deriving DecidableEq, Repr

end Msap1.Datalogger
