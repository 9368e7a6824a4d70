import Mathlib.Data.List.Sort
import Msap1.BinarySearch
import Msap1.Meter.Values

/-! The register map of `register_schema.hpp` and `msap1_register_schema.hpp`: definitions of
one or more 16-bit words, their validation and the lookup of an address. -/

namespace Msap1.Modbus

open Meter

inductive FunctionCode where
  | readHoldingRegisters
  | readInputRegisters
  | writeSingleRegister
  | writeMultipleRegisters
  deriving DecidableEq, Repr

def FunctionCode.code : FunctionCode → UInt8
  | .readHoldingRegisters => 0x03
  | .readInputRegisters => 0x04
  | .writeSingleRegister => 0x06
  | .writeMultipleRegisters => 0x10

def isRegisterRead (function : FunctionCode) : Bool :=
  function = .readHoldingRegisters || function = .readInputRegisters

inductive MeterAttributeId where
  | frequency | vanRms | vbnRms | vcnRms | vabRms | vbcRms | vcaRms | iaRms | ibRms | icRms
  | inRms | activePowerA | activePowerB | activePowerC | activePowerTotal | apparentPowerA
  | apparentPowerB | apparentPowerC | apparentPowerTotal | powerFactorA | powerFactorB
  | powerFactorC | powerFactorTotal | reactivePowerA | reactivePowerB | reactivePowerC
  | reactivePowerTotal | displacementPowerFactorA | displacementPowerFactorB
  | displacementPowerFactorC | displacementPowerFactorTotal | voltagePhaseAngleA
  | voltagePhaseAngleB | voltagePhaseAngleC | currentPhaseAngleA | currentPhaseAngleB
  | currentPhaseAngleC | voltageUnbalance | currentUnbalance | voltageZeroSequenceRatio
  | currentZeroSequenceRatio | zeroSequenceVoltage | positiveSequenceVoltage
  | negativeSequenceVoltage | zeroSequenceCurrent | positiveSequenceCurrent
  | negativeSequenceCurrent | activeImportEnergyA | activeImportEnergyB | activeImportEnergyC
  | activeImportEnergyTotal | activeExportEnergyA | activeExportEnergyB | activeExportEnergyC
  | activeExportEnergyTotal | apparentEnergyA | apparentEnergyB | apparentEnergyC
  | apparentEnergyTotal | reactiveEnergyQuadrantIA | reactiveEnergyQuadrantIB
  | reactiveEnergyQuadrantIC | reactiveEnergyQuadrantITotal | reactiveEnergyQuadrantIIA
  | reactiveEnergyQuadrantIIB | reactiveEnergyQuadrantIIC | reactiveEnergyQuadrantIITotal
  | reactiveEnergyQuadrantIIIA | reactiveEnergyQuadrantIIIB | reactiveEnergyQuadrantIIIC
  | reactiveEnergyQuadrantIIITotal | reactiveEnergyQuadrantIVA | reactiveEnergyQuadrantIVB
  | reactiveEnergyQuadrantIVC | reactiveEnergyQuadrantIVTotal | currentActiveDemandA
  | currentActiveDemandB | currentActiveDemandC | currentActiveDemandTotal | importDemandPeakA
  | importDemandPeakB | importDemandPeakC | importDemandPeakTotal | exportDemandPeakA
  | exportDemandPeakB | exportDemandPeakC | exportDemandPeakTotal | fundamentalVoltageA
  | fundamentalVoltageB | fundamentalVoltageC | fundamentalVoltageLlAB | fundamentalVoltageLlBC
  | fundamentalVoltageLlCA | fundamentalCurrentA | fundamentalCurrentB | fundamentalCurrentC
  | fundamentalCurrentN | voltageCrestA | voltageCrestB | voltageCrestC | currentCrestA
  | currentCrestB | currentCrestC | currentCrestN | fundamentalActivePowerA
  | fundamentalActivePowerB | fundamentalActivePowerC | fundamentalActivePowerTotal
  | currentPhaseAngleN | voltageLlPhaseAngleAB | voltageLlPhaseAngleBC | voltageLlPhaseAngleCA
  | displacementAngleA | displacementAngleB | displacementAngleC | voltageZeroSequenceAngle
  | voltagePositiveSequenceAngle | voltageNegativeSequenceAngle | currentZeroSequenceAngle
  | currentPositiveSequenceAngle | currentNegativeSequenceAngle | loadNatureA | loadNatureB
  | loadNatureC | loadNatureTotal
  deriving DecidableEq, Repr

structure MeterAttributeKey where
  id : MeterAttributeId
  index : Option UInt16 := none
  deriving DecidableEq, Repr

inductive DataType where
  | uint16
  | uint32
  | int32
  | float32
  | uint64
  | int64
  deriving DecidableEq, Repr

inductive SpecialRegister where
  | mapVersion
  | wordOrderMarker
  | attributeCount
  | qualityMask
  | period
  | sourceSequence
  | configurationGeneration
  | energySessionId
  | energyResetEpoch
  | energyLastSample
  | energyAcceptedSamples
  | energySkippedSamples
  | energyAcceptedBlocks
  | energySkippedBlocks
  | energyFlags
  | energyQualityMask
  | demandSessionId
  | demandResetEpoch
  | demandLastSample
  | demandIntervalAnchorSample
  | demandSourceIntervalCount
  | demandSourceStatus
  | demandMethod
  | demandWindowSeconds
  | demandUpdateSeconds
  | demandProfileGeneration
  | demandFlags
  | demandQualityMask
  | demandImportPeakSampleA
  | demandImportPeakSampleB
  | demandImportPeakSampleC
  | demandImportPeakSampleTotal
  | demandExportPeakSampleA
  | demandExportPeakSampleB
  | demandExportPeakSampleC
  | demandExportPeakSampleTotal
  deriving DecidableEq, Repr

structure MeasurementSource where
  period : MeasurementPeriod := .basic
  key : MeterAttributeKey
  deriving DecidableEq, Repr

structure SpecialSource where
  field : SpecialRegister := .mapVersion
  period : Option MeasurementPeriod := none
  deriving DecidableEq, Repr

inductive RegisterSource where
  | measurement (source : MeasurementSource)
  | special (source : SpecialSource)
  deriving DecidableEq, Repr

structure RegisterBlock where
  function : FunctionCode := .readInputRegisters
  base : UInt16 := 0
  size : UInt32 := 0
  deriving DecidableEq, Repr

structure RegisterDefinition where
  function : FunctionCode := .readInputRegisters
  address : UInt16 := 0
  words : UInt16 := 0
  type : DataType := .uint16
  source : RegisterSource := .special {}
  compatibilityAlias : Bool := false
  deriving DecidableEq, Repr

structure SpecialDefinition where
  field : SpecialRegister := .mapVersion
  type : DataType := .uint16
  period : Option MeasurementPeriod := none
  deriving DecidableEq, Repr

def registerWidth : DataType → UInt16
  | .uint16 => 1
  | .uint32 => 2
  | .int32 => 2
  | .float32 => 2
  | .uint64 => 4
  | .int64 => 4

def blockEnd (block : RegisterBlock) : UInt32 := block.base.toUInt32 + block.size

def definitionEnd (definition : RegisterDefinition) : UInt32 :=
  definition.address.toUInt32 + definition.words.toUInt32

def makeAttributeBlock (block : RegisterBlock) (period : MeasurementPeriod) (type : DataType)
    (attributes : List MeterAttributeKey) : List RegisterDefinition :=
  attributes.mapIdx fun index key => {
    function := block.function
    address := UInt16.ofNat (block.base.toNat + index * (registerWidth type).toNat)
    words := registerWidth type
    type
    source := .measurement { period, key } }

def makeSpecialFrom (function : FunctionCode) :
    UInt32 → List SpecialDefinition → List RegisterDefinition
  | _, [] => []
  | address, field :: fields =>
      { function
        address := address.toUInt16
        words := registerWidth field.type
        type := field.type
        source := .special { field := field.field, period := field.period } } ::
        makeSpecialFrom function (address + (registerWidth field.type).toUInt32) fields

def makeSpecialBlock (block : RegisterBlock) (fields : List SpecialDefinition) :
    List RegisterDefinition :=
  makeSpecialFrom block.function block.base.toUInt32 fields

def overlaps (firstBegin firstEnd secondBegin secondEnd : UInt32) : Bool :=
  firstBegin < secondEnd && secondBegin < firstEnd

def validateBlocks : List RegisterBlock → Bool
  | [] => true
  | block :: blocks =>
      !(block.size = 0 || 0x10000 < blockEnd block) &&
        blocks.all (fun candidate => !(candidate.function = block.function &&
          overlaps block.base.toUInt32 (blockEnd block) candidate.base.toUInt32
            (blockEnd candidate))) &&
        validateBlocks blocks

def sourceIsDuplicate (first second : RegisterDefinition) : Bool :=
  match first.source, second.source with
  | .measurement one, .measurement two =>
      one = two && !first.compatibilityAlias && !second.compatibilityAlias
  | _, _ => false

def precedes (first second : RegisterDefinition) : Bool :=
  first.function.code < second.function.code ||
    (first.function.code = second.function.code && first.address < second.address)

def containingBlocks (blocks : List RegisterBlock) (entry : RegisterDefinition) : Nat :=
  blocks.countP fun block =>
    block.function = entry.function && block.base ≤ entry.address &&
      definitionEnd entry ≤ blockEnd block

def validEntry (blocks : List RegisterBlock) (entry : RegisterDefinition) : Bool :=
  !(entry.words = 0 || entry.words != registerWidth entry.type ||
    0x10000 < definitionEnd entry) &&
    containingBlocks blocks entry = 1

def compatible (entry candidate : RegisterDefinition) : Bool :=
  !(candidate.function = entry.function &&
    overlaps entry.address.toUInt32 (definitionEnd entry) candidate.address.toUInt32
      (definitionEnd candidate)) &&
    !sourceIsDuplicate entry candidate

def validateEntries (blocks : List RegisterBlock) :
    Option RegisterDefinition → List RegisterDefinition → Bool
  | _, [] => true
  | previous, entry :: entries =>
      validEntry blocks entry && previous.all (fun before => precedes before entry) &&
        entries.all (compatible entry) && validateEntries blocks (some entry) entries

def validateRegisterMap (blocks : List RegisterBlock) (entries : List RegisterDefinition) :
    Bool :=
  validateBlocks blocks && validateEntries blocks none entries

/-- The branch of the binary search that goes to the right of a candidate. -/
def reaches (function : FunctionCode) (address : UInt16) (candidate : RegisterDefinition) :
    Bool :=
  candidate.function.code < function.code ||
    (candidate.function.code = function.code && candidate.address ≤ address)

def owns (function : FunctionCode) (address : UInt16) (candidate : RegisterDefinition) : Bool :=
  candidate.function = function && candidate.address ≤ address &&
    address.toUInt32 < definitionEnd candidate

/-- `find_definition`: the position of the definition that owns an address. -/
def findDefinition (entries : List RegisterDefinition) (function : FunctionCode)
    (address : UInt16) : Option (Fin entries.length) :=
  let point := partitionPoint
    (fun middle => entries[middle]?.any (reaches function address)) entries.length 0
    entries.length
  if inside : point - 1 < entries.length then
    if point ≠ 0 && owns function address (entries.get ⟨point - 1, inside⟩) then
      some ⟨point - 1, inside⟩
    else none
  else none

def registerMapVersion : UInt16 := 3

namespace Blocks

def holdingMetadata : RegisterBlock := ⟨.readHoldingRegisters, 0x0000, 0x0100⟩
def basicFrequency : RegisterBlock := ⟨.readInputRegisters, 0x0000, 0x0002⟩
def basicVoltageLn : RegisterBlock := ⟨.readInputRegisters, 0x0002, 0x0006⟩
def basicCurrent : RegisterBlock := ⟨.readInputRegisters, 0x0008, 0x0008⟩
def basicStatus : RegisterBlock := ⟨.readInputRegisters, 0x0010, 0x0010⟩
def basicLegacyReserve : RegisterBlock := ⟨.readInputRegisters, 0x0020, 0x00e0⟩
def basicExtension : RegisterBlock := ⟨.readInputRegisters, 0x0100, 0x0f00⟩
def cycles150180 : RegisterBlock := ⟨.readInputRegisters, 0x1000, 0x1000⟩
def minute10 : RegisterBlock := ⟨.readInputRegisters, 0x2000, 0x1000⟩
def hour2 : RegisterBlock := ⟨.readInputRegisters, 0x3000, 0x1000⟩
def voltageHarmonics : RegisterBlock := ⟨.readInputRegisters, 0x4000, 0x1000⟩
def currentHarmonics : RegisterBlock := ⟨.readInputRegisters, 0x5000, 0x1000⟩
def powerQuality : RegisterBlock := ⟨.readInputRegisters, 0x6000, 0x1000⟩

end Blocks

def energyActiveImportLayout : RegisterBlock := ⟨.readInputRegisters, 0x0100, 0x0010⟩
def energyActiveExportLayout : RegisterBlock := ⟨.readInputRegisters, 0x0110, 0x0010⟩
def energyApparentLayout : RegisterBlock := ⟨.readInputRegisters, 0x0120, 0x0010⟩
def energyQuadrantILayout : RegisterBlock := ⟨.readInputRegisters, 0x0130, 0x0010⟩
def energyQuadrantIiLayout : RegisterBlock := ⟨.readInputRegisters, 0x0140, 0x0010⟩
def energyQuadrantIiiLayout : RegisterBlock := ⟨.readInputRegisters, 0x0150, 0x0010⟩
def energyQuadrantIvLayout : RegisterBlock := ⟨.readInputRegisters, 0x0160, 0x0010⟩
def energyMetadataLayout : RegisterBlock := ⟨.readInputRegisters, 0x0170, 0x0020⟩
def demandCurrentLayout : RegisterBlock := ⟨.readInputRegisters, 0x2000, 0x0010⟩
def demandImportPeakLayout : RegisterBlock := ⟨.readInputRegisters, 0x2010, 0x0010⟩
def demandExportPeakLayout : RegisterBlock := ⟨.readInputRegisters, 0x2020, 0x0010⟩
def demandMetadataLayout : RegisterBlock := ⟨.readInputRegisters, 0x2030, 0x001e⟩
def demandAnchorLayout : RegisterBlock := ⟨.readInputRegisters, 0x2050, 0x0020⟩
def frequency10sLayout : RegisterBlock := ⟨.readInputRegisters, 0x6000, 0x0002⟩

def registerBlocks : List RegisterBlock :=
  [Blocks.holdingMetadata, Blocks.basicFrequency, Blocks.basicVoltageLn, Blocks.basicCurrent,
    Blocks.basicStatus, Blocks.basicLegacyReserve, Blocks.basicExtension, Blocks.cycles150180,
    Blocks.minute10, Blocks.hour2, Blocks.voltageHarmonics, Blocks.currentHarmonics,
    Blocks.powerQuality]

def metadata : List RegisterDefinition :=
  makeSpecialBlock Blocks.holdingMetadata
    [⟨.mapVersion, .uint16, none⟩, ⟨.wordOrderMarker, .uint16, none⟩,
     ⟨.attributeCount, .uint16, none⟩]

def basicFrequency : List RegisterDefinition :=
  makeAttributeBlock Blocks.basicFrequency .basic .float32
    [⟨.frequency, none⟩]

def basicVoltageLn : List RegisterDefinition :=
  makeAttributeBlock Blocks.basicVoltageLn .basic .float32
    [⟨.vanRms, none⟩, ⟨.vbnRms, none⟩, ⟨.vcnRms, none⟩]

def basicCurrent : List RegisterDefinition :=
  makeAttributeBlock Blocks.basicCurrent .basic .float32
    [⟨.iaRms, none⟩, ⟨.ibRms, none⟩, ⟨.icRms, none⟩, ⟨.inRms, none⟩]

def basicStatus : List RegisterDefinition :=
  makeSpecialBlock Blocks.basicStatus
    [⟨.qualityMask, .uint16, some .basic⟩, ⟨.period, .uint16, some .basic⟩,
     ⟨.sourceSequence, .uint32, some .basic⟩, ⟨.configurationGeneration, .uint32, some .basic⟩]

def activeImportEnergy : List RegisterDefinition :=
  makeAttributeBlock energyActiveImportLayout .basic .uint64
    [⟨.activeImportEnergyA, none⟩, ⟨.activeImportEnergyB, none⟩, ⟨.activeImportEnergyC, none⟩,
     ⟨.activeImportEnergyTotal, none⟩]

def activeExportEnergy : List RegisterDefinition :=
  makeAttributeBlock energyActiveExportLayout .basic .uint64
    [⟨.activeExportEnergyA, none⟩, ⟨.activeExportEnergyB, none⟩, ⟨.activeExportEnergyC, none⟩,
     ⟨.activeExportEnergyTotal, none⟩]

def apparentEnergy : List RegisterDefinition :=
  makeAttributeBlock energyApparentLayout .basic .uint64
    [⟨.apparentEnergyA, none⟩, ⟨.apparentEnergyB, none⟩, ⟨.apparentEnergyC, none⟩,
     ⟨.apparentEnergyTotal, none⟩]

def reactiveEnergyQuadrantI : List RegisterDefinition :=
  makeAttributeBlock energyQuadrantILayout .basic .uint64
    [⟨.reactiveEnergyQuadrantIA, none⟩, ⟨.reactiveEnergyQuadrantIB, none⟩,
     ⟨.reactiveEnergyQuadrantIC, none⟩, ⟨.reactiveEnergyQuadrantITotal, none⟩]

def reactiveEnergyQuadrantIi : List RegisterDefinition :=
  makeAttributeBlock energyQuadrantIiLayout .basic .uint64
    [⟨.reactiveEnergyQuadrantIIA, none⟩, ⟨.reactiveEnergyQuadrantIIB, none⟩,
     ⟨.reactiveEnergyQuadrantIIC, none⟩, ⟨.reactiveEnergyQuadrantIITotal, none⟩]

def reactiveEnergyQuadrantIii : List RegisterDefinition :=
  makeAttributeBlock energyQuadrantIiiLayout .basic .uint64
    [⟨.reactiveEnergyQuadrantIIIA, none⟩, ⟨.reactiveEnergyQuadrantIIIB, none⟩,
     ⟨.reactiveEnergyQuadrantIIIC, none⟩, ⟨.reactiveEnergyQuadrantIIITotal, none⟩]

def reactiveEnergyQuadrantIv : List RegisterDefinition :=
  makeAttributeBlock energyQuadrantIvLayout .basic .uint64
    [⟨.reactiveEnergyQuadrantIVA, none⟩, ⟨.reactiveEnergyQuadrantIVB, none⟩,
     ⟨.reactiveEnergyQuadrantIVC, none⟩, ⟨.reactiveEnergyQuadrantIVTotal, none⟩]

def energyMetadata : List RegisterDefinition :=
  makeSpecialBlock energyMetadataLayout
    [⟨.energySessionId, .uint64, some .basic⟩, ⟨.energyResetEpoch, .uint64, some .basic⟩,
     ⟨.energyLastSample, .uint64, some .basic⟩, ⟨.energyAcceptedSamples, .uint64, some .basic⟩,
     ⟨.energySkippedSamples, .uint64, some .basic⟩, ⟨.energyAcceptedBlocks, .uint32, some .basic⟩,
     ⟨.energySkippedBlocks, .uint32, some .basic⟩, ⟨.energyFlags, .uint32, some .basic⟩,
     ⟨.energyQualityMask, .uint64, some .basic⟩]

def currentDemand : List RegisterDefinition :=
  makeAttributeBlock demandCurrentLayout .demand .int64
    [⟨.currentActiveDemandA, none⟩, ⟨.currentActiveDemandB, none⟩, ⟨.currentActiveDemandC, none⟩,
     ⟨.currentActiveDemandTotal, none⟩]

def importDemandPeak : List RegisterDefinition :=
  makeAttributeBlock demandImportPeakLayout .demand .uint64
    [⟨.importDemandPeakA, none⟩, ⟨.importDemandPeakB, none⟩, ⟨.importDemandPeakC, none⟩,
     ⟨.importDemandPeakTotal, none⟩]

def exportDemandPeak : List RegisterDefinition :=
  makeAttributeBlock demandExportPeakLayout .demand .uint64
    [⟨.exportDemandPeakA, none⟩, ⟨.exportDemandPeakB, none⟩, ⟨.exportDemandPeakC, none⟩,
     ⟨.exportDemandPeakTotal, none⟩]

def demandMetadata : List RegisterDefinition :=
  makeSpecialBlock demandMetadataLayout
    [⟨.demandSessionId, .uint64, some .demand⟩, ⟨.demandResetEpoch, .uint64, some .demand⟩,
     ⟨.demandLastSample, .uint64, some .demand⟩,
     ⟨.demandIntervalAnchorSample, .uint64, some .demand⟩,
     ⟨.demandSourceIntervalCount, .uint32, some .demand⟩,
     ⟨.demandSourceStatus, .uint32, some .demand⟩, ⟨.demandMethod, .uint16, some .demand⟩,
     ⟨.demandWindowSeconds, .uint32, some .demand⟩, ⟨.demandUpdateSeconds, .uint32, some .demand⟩,
     ⟨.demandProfileGeneration, .uint32, some .demand⟩, ⟨.demandFlags, .uint32, some .demand⟩,
     ⟨.demandQualityMask, .uint16, some .demand⟩]

def demandPeakAnchors : List RegisterDefinition :=
  makeSpecialBlock demandAnchorLayout
    [⟨.demandImportPeakSampleA, .uint64, some .demand⟩,
     ⟨.demandImportPeakSampleB, .uint64, some .demand⟩,
     ⟨.demandImportPeakSampleC, .uint64, some .demand⟩,
     ⟨.demandImportPeakSampleTotal, .uint64, some .demand⟩,
     ⟨.demandExportPeakSampleA, .uint64, some .demand⟩,
     ⟨.demandExportPeakSampleB, .uint64, some .demand⟩,
     ⟨.demandExportPeakSampleC, .uint64, some .demand⟩,
     ⟨.demandExportPeakSampleTotal, .uint64, some .demand⟩]

def frequency10s : List RegisterDefinition :=
  makeAttributeBlock frequency10sLayout .seconds10 .float32
    [⟨.frequency, none⟩]

def registerMap : List RegisterDefinition :=
  [metadata, basicFrequency, basicVoltageLn, basicCurrent, basicStatus, activeImportEnergy,
    activeExportEnergy, apparentEnergy, reactiveEnergyQuadrantI, reactiveEnergyQuadrantIi,
    reactiveEnergyQuadrantIii, reactiveEnergyQuadrantIv, energyMetadata, currentDemand,
    importDemandPeak, exportDemandPeak, demandMetadata, demandPeakAnchors, frequency10s].flatten

def basicPublishedAttributes : List MeterAttributeKey :=
  [⟨.frequency, none⟩, ⟨.vanRms, none⟩, ⟨.vbnRms, none⟩, ⟨.vcnRms, none⟩, ⟨.iaRms, none⟩,
   ⟨.ibRms, none⟩, ⟨.icRms, none⟩, ⟨.inRms, none⟩]

def energyPublishedAttributes : List RegisterDefinition :=
  [activeImportEnergy, activeExportEnergy, apparentEnergy, reactiveEnergyQuadrantI,
    reactiveEnergyQuadrantIi, reactiveEnergyQuadrantIii, reactiveEnergyQuadrantIv].flatten

def demandPublishedAttributes : List RegisterDefinition :=
  [currentDemand, importDemandPeak, exportDemandPeak].flatten

def publishedMeasurementAttributes : List MeterAttributeKey :=
  basicPublishedAttributes ++
    [⟨.activeImportEnergyA, none⟩, ⟨.activeImportEnergyB, none⟩, ⟨.activeImportEnergyC, none⟩,
     ⟨.activeImportEnergyTotal, none⟩, ⟨.activeExportEnergyA, none⟩, ⟨.activeExportEnergyB, none⟩,
     ⟨.activeExportEnergyC, none⟩, ⟨.activeExportEnergyTotal, none⟩, ⟨.apparentEnergyA, none⟩,
     ⟨.apparentEnergyB, none⟩, ⟨.apparentEnergyC, none⟩, ⟨.apparentEnergyTotal, none⟩,
     ⟨.reactiveEnergyQuadrantIA, none⟩, ⟨.reactiveEnergyQuadrantIB, none⟩,
     ⟨.reactiveEnergyQuadrantIC, none⟩, ⟨.reactiveEnergyQuadrantITotal, none⟩,
     ⟨.reactiveEnergyQuadrantIIA, none⟩, ⟨.reactiveEnergyQuadrantIIB, none⟩,
     ⟨.reactiveEnergyQuadrantIIC, none⟩, ⟨.reactiveEnergyQuadrantIITotal, none⟩,
     ⟨.reactiveEnergyQuadrantIIIA, none⟩, ⟨.reactiveEnergyQuadrantIIIB, none⟩,
     ⟨.reactiveEnergyQuadrantIIIC, none⟩, ⟨.reactiveEnergyQuadrantIIITotal, none⟩,
     ⟨.reactiveEnergyQuadrantIVA, none⟩, ⟨.reactiveEnergyQuadrantIVB, none⟩,
     ⟨.reactiveEnergyQuadrantIVC, none⟩, ⟨.reactiveEnergyQuadrantIVTotal, none⟩,
     ⟨.currentActiveDemandA, none⟩, ⟨.currentActiveDemandB, none⟩, ⟨.currentActiveDemandC, none⟩,
     ⟨.currentActiveDemandTotal, none⟩, ⟨.importDemandPeakA, none⟩, ⟨.importDemandPeakB, none⟩,
     ⟨.importDemandPeakC, none⟩, ⟨.importDemandPeakTotal, none⟩, ⟨.exportDemandPeakA, none⟩,
     ⟨.exportDemandPeakB, none⟩, ⟨.exportDemandPeakC, none⟩, ⟨.exportDemandPeakTotal, none⟩,
     ⟨.frequency, none⟩]

end Msap1.Modbus
