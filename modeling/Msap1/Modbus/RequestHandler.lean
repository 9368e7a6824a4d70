import Msap1.Ledger.Columns
import Msap1.Modbus.RegisterMap

/-! `RequestHandler::handle` over `Msap1RegisterBank`: one request, one snapshot of the meter
and its projection onto registers. The provider of snapshots is an argument; it answers or
throws. -/

namespace Msap1.Modbus

open Meter
open Ledger (packFlags)

abbrev Bytes := List UInt8

def readU16Be (high low : UInt8) : UInt16 := high.toUInt16 <<< 8 ||| low.toUInt16

def appendU16Be (value : UInt16) : Bytes :=
  [((value >>> 8) &&& 0xff).toUInt8, (value &&& 0xff).toUInt8]

def encodeU16 (value : UInt16) : List UInt16 := [value]

def encodeU32 (value : UInt32) : List UInt16 :=
  [(value >>> 16).toUInt16, (value &&& 0xffff).toUInt16]

def encodeU64 (value : UInt64) : List UInt16 :=
  [(value >>> 48).toUInt16, ((value >>> 32) &&& 0xffff).toUInt16,
    ((value >>> 16) &&& 0xffff).toUInt16, (value &&& 0xffff).toUInt16]

def encodeI32 (value : Int32) : List UInt16 := encodeU32 value.toUInt32

def encodeI64 (value : Int64) : List UInt16 := encodeU64 value.toUInt64

def encodeFloat (value : Float32) : List UInt16 := encodeU32 value.toBits

inductive MeterUnit where
  | milliHertz
  | microVolts
  | microAmperes
  | picowatts
  | picoVoltAmperes
  | powerFactorMillionths
  | picovars
  | millidegrees
  | ratioMillionths
  | microWattHours
  | microVarHours
  | microVoltAmpereHours
  | microWatts
  | crestTenThousandths
  | categoricalCode
  deriving DecidableEq, Repr

structure MeterAttributeValue where
  key : MeterAttributeKey
  unit : MeterUnit := .microVolts
  quality : MeasurementQuality := .unavailable
  value : Int64 := 0
  deriving DecidableEq, Repr

structure EnergySnapshotMetadata where
  sessionId : UInt64 := 0
  resetEpoch : UInt64 := 0
  lastSampleIndex : UInt64 := 0
  acceptedSamples : UInt64 := 0
  skippedSamples : UInt64 := 0
  acceptedBlocks : UInt32 := 0
  skippedBlocks : UInt32 := 0
  saturated : Bool := false
  incompleteInput : Bool := false
  discontinuity : Bool := false
  deriving DecidableEq, Repr

structure DemandSnapshotMetadata where
  sessionId : UInt64 := 0
  peakResetEpoch : UInt64 := 0
  lastSampleIndex : UInt64 := 0
  intervalAnchorSample : UInt64 := 0
  sourceIntervalCount : UInt32 := 0
  sourceStatus : UInt32 := 0
  windowSeconds : UInt32 := 0
  updateSeconds : UInt32 := 0
  profileGeneration : UInt32 := 0
  method : UInt8 := 0
  importPeakSamples : PhaseABCTotal UInt64 := ⟨0, 0, 0, 0⟩
  exportPeakSamples : PhaseABCTotal UInt64 := ⟨0, 0, 0, 0⟩
  timeAligned : Bool := false
  contaminated : Bool := false
  boundaryValid : Bool := false
  saturated : Bool := false
  incompleteInput : Bool := false
  deriving DecidableEq, Repr

structure MeterSnapshot where
  period : MeasurementPeriod := .basic
  sequence : UInt64 := 0
  configurationGeneration : UInt32 := 0
  energy : Option EnergySnapshotMetadata := none
  demand : Option DemandSnapshotMetadata := none
  values : List MeterAttributeValue := []
  deriving DecidableEq, Repr

structure MeterSnapshotRequest where
  period : MeasurementPeriod := .basic
  attributes : List MeterAttributeKey := []
  deriving DecidableEq, Repr

def periodCode : MeasurementPeriod → UInt16
  | .basic => 0
  | .cycles150And180 => 1
  | .min10 => 2
  | .hour2 => 3
  | .min10Live => 4
  | .hour2Live => 5
  | .demand => 6
  | .seconds10 => 7

def reading (snapshot : MeterSnapshot) (key : MeterAttributeKey) : Option MeterAttributeValue :=
  snapshot.values.find? fun value => value.key = key

def quietNaN : Float32 := Float32.ofBits 0x7fc00000

def engineeringValue : Option MeterAttributeValue → Float32
  | none => quietNaN
  | some value =>
      if value.quality = .valid then
        match value.unit with
        | .milliHertz => value.value.toFloat32 / 1000
        | .microVolts => value.value.toFloat32 / 1000000
        | .microAmperes => value.value.toFloat32 / 1000000
        | .picowatts => value.value.toFloat32 / 1000000000000
        | .picoVoltAmperes => value.value.toFloat32 / 1000000000000
        | .powerFactorMillionths => value.value.toFloat32 / 1000000
        | .picovars => value.value.toFloat32 / 1000000000000
        | .millidegrees => value.value.toFloat32 / 1000
        | .ratioMillionths => value.value.toFloat32 / 10000
        | .microWattHours => value.value.toFloat32
        | .microVarHours => value.value.toFloat32
        | .microVoltAmpereHours => value.value.toFloat32
        | .microWatts => value.value.toFloat32
        | .crestTenThousandths => value.value.toFloat32 / 10000
        | .categoricalCode => value.value.toFloat32
      else quietNaN

def encodeMeasurement (type : DataType) (source : MeasurementSource)
    (snapshot : Option MeterSnapshot) : List UInt16 :=
  let value := snapshot.bind fun taken => reading taken source.key
  let available := (value.filter fun found => found.quality = .valid).elim 0 (·.value)
  match type with
  | .float32 => encodeFloat (engineeringValue value)
  | .uint16 => encodeU16 available.toUInt64.toUInt16
  | .uint32 => encodeU32 available.toUInt64.toUInt32
  | .int32 => encodeI32 available.toInt32
  | .uint64 => encodeU64 available.toUInt64
  | .int64 => encodeI64 available

def publishedKey (definition : RegisterDefinition) : Option MeterAttributeKey :=
  match definition.source with
  | .measurement source => some source.key
  | .special _ => none

/-- One bit for each attribute that the snapshot holds with valid quality. -/
def validMask (keys : List MeterAttributeKey) (snapshot : Option MeterSnapshot) : UInt64 :=
  match snapshot with
  | none => 0
  | some taken =>
      keys.zipIdx.foldl (fun mask entry =>
        if (reading taken entry.1).any (fun value => value.quality = .valid) then
          mask ||| 1 <<< UInt64.ofNat entry.2
        else mask) 0

def encodeSpecial (source : SpecialSource) (snapshot : Option MeterSnapshot) : List UInt16 :=
  let energy := snapshot.bind (·.energy)
  let demand := snapshot.bind (·.demand)
  match source.field with
  | .qualityMask => [(validMask basicPublishedAttributes snapshot).toUInt16]
  | .period => [periodCode (snapshot.elim (source.period.getD .basic) (·.period))]
  | .sourceSequence => encodeU32 (snapshot.elim 0 (·.sequence.toUInt32))
  | .configurationGeneration => encodeU32 (snapshot.elim 0 (·.configurationGeneration))
  | .mapVersion => [registerMapVersion]
  | .wordOrderMarker => [0x1234]
  | .attributeCount => [UInt16.ofNat publishedMeasurementAttributes.length]
  | .energySessionId => encodeU64 (energy.elim 0 (·.sessionId))
  | .energyResetEpoch => encodeU64 (energy.elim 0 (·.resetEpoch))
  | .energyLastSample => encodeU64 (energy.elim 0 (·.lastSampleIndex))
  | .energyAcceptedSamples => encodeU64 (energy.elim 0 (·.acceptedSamples))
  | .energySkippedSamples => encodeU64 (energy.elim 0 (·.skippedSamples))
  | .energyAcceptedBlocks => encodeU32 (energy.elim 0 (·.acceptedBlocks))
  | .energySkippedBlocks => encodeU32 (energy.elim 0 (·.skippedBlocks))
  | .energyFlags => encodeU32 (energy.elim 0 fun values =>
      packFlags [values.saturated, values.incompleteInput, values.discontinuity])
  | .energyQualityMask =>
      encodeU64 (validMask (energyPublishedAttributes.filterMap publishedKey) snapshot)
  | .demandSessionId => encodeU64 (demand.elim 0 (·.sessionId))
  | .demandResetEpoch => encodeU64 (demand.elim 0 (·.peakResetEpoch))
  | .demandLastSample => encodeU64 (demand.elim 0 (·.lastSampleIndex))
  | .demandIntervalAnchorSample => encodeU64 (demand.elim 0 (·.intervalAnchorSample))
  | .demandSourceIntervalCount => encodeU32 (demand.elim 0 (·.sourceIntervalCount))
  | .demandSourceStatus => encodeU32 (demand.elim 0 (·.sourceStatus))
  | .demandMethod => [demand.elim 0 (·.method.toUInt16)]
  | .demandWindowSeconds => encodeU32 (demand.elim 0 (·.windowSeconds))
  | .demandUpdateSeconds => encodeU32 (demand.elim 0 (·.updateSeconds))
  | .demandProfileGeneration => encodeU32 (demand.elim 0 (·.profileGeneration))
  | .demandFlags => encodeU32 (demand.elim 0 fun values =>
      packFlags [values.timeAligned, values.contaminated, values.boundaryValid, values.saturated,
        values.incompleteInput])
  | .demandQualityMask =>
      [(validMask (demandPublishedAttributes.filterMap publishedKey) snapshot).toUInt16]
  | .demandImportPeakSampleA => encodeU64 (demand.elim 0 (·.importPeakSamples.phaseA))
  | .demandImportPeakSampleB => encodeU64 (demand.elim 0 (·.importPeakSamples.phaseB))
  | .demandImportPeakSampleC => encodeU64 (demand.elim 0 (·.importPeakSamples.phaseC))
  | .demandImportPeakSampleTotal => encodeU64 (demand.elim 0 (·.importPeakSamples.total))
  | .demandExportPeakSampleA => encodeU64 (demand.elim 0 (·.exportPeakSamples.phaseA))
  | .demandExportPeakSampleB => encodeU64 (demand.elim 0 (·.exportPeakSamples.phaseB))
  | .demandExportPeakSampleC => encodeU64 (demand.elim 0 (·.exportPeakSamples.phaseC))
  | .demandExportPeakSampleTotal => encodeU64 (demand.elim 0 (·.exportPeakSamples.total))

def encode (entry : RegisterDefinition) (snapshot : Option MeterSnapshot) : List UInt16 :=
  match entry.source with
  | .measurement source => encodeMeasurement entry.type source snapshot
  | .special source => encodeSpecial source snapshot

structure SnapshotSelection where
  period : Option MeasurementPeriod := none
  attributes : List MeterAttributeKey := []
  incompatiblePeriods : Bool := false
  deriving DecidableEq, Repr

def includePeriod (selection : SnapshotSelection) (period : MeasurementPeriod) :
    SnapshotSelection :=
  if selection.period.any (fun chosen => chosen ≠ period) then
    { selection with incompatiblePeriods := true }
  else { selection with period := some period }

/-- `MeterAttributeSet::add`. -/
def addAttribute (selection : SnapshotSelection) (key : MeterAttributeKey) : SnapshotSelection :=
  if key ∈ selection.attributes then selection
  else { selection with attributes := selection.attributes ++ [key] }

def includeSource (selection : SnapshotSelection) : RegisterSource → SnapshotSelection
  | .measurement source => addAttribute (includePeriod selection source.period) source.key
  | .special source =>
      match source.period with
      | none => selection
      | some period =>
          let selection := includePeriod selection period
          match source.field with
          | .qualityMask => basicPublishedAttributes.foldl addAttribute selection
          | .energyQualityMask =>
              (energyPublishedAttributes.filterMap publishedKey).foldl addAttribute selection
          | .demandQualityMask =>
              (demandPublishedAttributes.filterMap publishedKey).foldl addAttribute selection
          | _ => selection

section Bank

variable (entries : List RegisterDefinition)

/-- The loop of `snapshot_selection`, with the definition of the address before. -/
def selectFrom (function : FunctionCode) :
    List Nat → Option (Fin entries.length) → SnapshotSelection → SnapshotSelection
  | [], _, selection => selection
  | current :: rest, previous, selection =>
      match findDefinition entries function (UInt16.ofNat current) with
      | none => selection
      | some entry =>
          if some entry = previous then selectFrom function rest previous selection
          else selectFrom function rest (some entry)
            (includeSource selection (entries.get entry).source)

def snapshotSelection (function : FunctionCode) (addresses : List Nat) : SnapshotSelection :=
  selectFrom entries function addresses none {}

inductive ExceptionCode where
  | none
  | illegalFunction
  | illegalDataAddress
  | illegalDataValue
  | serverDeviceFailure
  deriving DecidableEq, Repr

def ExceptionCode.code : ExceptionCode → UInt8
  | .none => 0x00
  | .illegalFunction => 0x01
  | .illegalDataAddress => 0x02
  | .illegalDataValue => 0x03
  | .serverDeviceFailure => 0x04

structure RegisterReadResult where
  exception : ExceptionCode := .none
  values : List UInt16 := []
  deriving DecidableEq, Repr

/-- The last loop of `Msap1RegisterBank::read`, with the definition whose encoding it holds.
It gives up at an address behind the end of that encoding. -/
def projectFrom (function : FunctionCode) (snapshot : Option MeterSnapshot) :
    List Nat → Option (Fin entries.length) → List UInt16 → Option (List UInt16)
  | [], _, _ => some []
  | current :: rest, cached, encoded =>
      match findDefinition entries function (UInt16.ofNat current) with
      | none => none
      | some entry =>
          let encoded :=
            if some entry = cached then encoded else encode (entries.get entry) snapshot
          match encoded[current - (entries.get entry).address.toNat]? with
          | none => none
          | some word =>
              (projectFrom function snapshot rest (some entry) encoded).map (word :: ·)

/-- What the provider answers to a request for its latest snapshot, or `none` when it throws. -/
abbrev Provider := MeterSnapshotRequest → Option (Option MeterSnapshot)

def takeSnapshot (latest : Provider) (selection : SnapshotSelection) :
    Option (Option MeterSnapshot) :=
  match selection.period with
  | none => some none
  | some period => latest { period, attributes := selection.attributes }

def bankRead (latest : Provider) (function : FunctionCode) (address count : UInt16) :
    RegisterReadResult :=
  if !isRegisterRead function then { exception := .illegalFunction }
  else if count = 0 then { exception := .illegalDataValue }
  else
    let addresses := List.range' address.toNat count.toNat
    if 0x10000 < address.toNat + count.toNat then { exception := .illegalDataAddress }
    else if !addresses.all (fun current =>
        (findDefinition entries function (UInt16.ofNat current)).isSome) then
      { exception := .illegalDataAddress }
    else
      let selection := snapshotSelection entries function addresses
      if selection.incompatiblePeriods then { exception := .illegalDataAddress }
      else
        match takeSnapshot latest selection with
        | none => { exception := .serverDeviceFailure }
        | some snapshot =>
            match projectFrom entries function snapshot addresses none [] with
            | none => { exception := .serverDeviceFailure }
            | some values => { values }

end Bank

/-- The data model behind a handler. -/
structure RegisterBank where
  read : FunctionCode → UInt16 → UInt16 → RegisterReadResult
  writeSingle : UInt16 → UInt16 → ExceptionCode
  writeMultiple : UInt16 → List UInt16 → ExceptionCode

def msap1RegisterBank (entries : List RegisterDefinition) (latest : Provider) : RegisterBank where
  read := bankRead entries latest
  writeSingle := fun _ _ => .illegalDataAddress
  writeMultiple := fun _ _ => .illegalDataAddress

structure Request where
  unitId : UInt8 := 1
  pdu : Bytes
  broadcastAllowed : Bool := false
  deriving DecidableEq, Repr

structure Response where
  unitId : UInt8 := 1
  pdu : Bytes
  deriving DecidableEq, Repr

/-- `std::invalid_argument` of the handler. -/
structure InvalidArgument where
  text : String
  deriving DecidableEq, Repr

def exceptionPdu (function : UInt8) (code : ExceptionCode) : Bytes :=
  [function ||| 0x80, code.code]

def wordsFrom : Bytes → List UInt16
  | high :: low :: rest => readU16Be high low :: wordsFrom rest
  | _ => []

section Handler

variable (registers : RegisterBank) (request : Request)

def broadcast : Bool := request.broadcastAllowed && request.unitId = 0

def respond (pdu : Bytes) : Option Response := some { unitId := request.unitId, pdu }

def answer (pdu : Bytes) : Option Response :=
  if broadcast request then none else respond request pdu

def handleRead (function : FunctionCode) : Option Response :=
  if broadcast request then none
  else match request.pdu with
    | [_, addressHigh, addressLow, quantityHigh, quantityLow] =>
        let count := readU16Be quantityHigh quantityLow
        if count = 0 || 125 < count then
          respond request (exceptionPdu function.code .illegalDataValue)
        else
          let result := registers.read function (readU16Be addressHigh addressLow) count
          if result.exception ≠ .none then
            respond request (exceptionPdu function.code result.exception)
          else if result.values.length ≠ count.toNat then
            respond request (exceptionPdu function.code .serverDeviceFailure)
          else respond request (function.code :: UInt8.ofNat (result.values.length * 2) ::
            (result.values.map appendU16Be).flatten)
    | _ => respond request (exceptionPdu function.code .illegalDataValue)

def handleWriteSingle : Option Response :=
  let function := FunctionCode.writeSingleRegister
  match request.pdu with
  | [_, addressHigh, addressLow, valueHigh, valueLow] =>
      let code := registers.writeSingle (readU16Be addressHigh addressLow)
        (readU16Be valueHigh valueLow)
      answer request (if code ≠ .none then exceptionPdu function.code code else request.pdu)
  | _ => answer request (exceptionPdu function.code .illegalDataValue)

def handleWriteMultiple : Option Response :=
  let function := FunctionCode.writeMultipleRegisters
  match request.pdu with
  | _ :: addressHigh :: addressLow :: quantityHigh :: quantityLow :: byteCount :: data =>
      let address := readU16Be addressHigh addressLow
      let count := readU16Be quantityHigh quantityLow
      if count = 0 || 123 < count || byteCount.toNat ≠ count.toNat * 2 ||
          data.length ≠ byteCount.toNat then
        answer request (exceptionPdu function.code .illegalDataValue)
      else
        let code := registers.writeMultiple address (wordsFrom data)
        answer request (if code ≠ .none then exceptionPdu function.code code
          else function.code :: (appendU16Be address ++ appendU16Be count))
  | _ => answer request (exceptionPdu function.code .illegalDataValue)

def handle (configuredUnitId : UInt8) : Except InvalidArgument (Option Response) :=
  if configuredUnitId = 0 || 247 < configuredUnitId then
    .error ⟨"Modbus unit id must be 1..247"⟩
  else match request.pdu with
    | [] => .ok (respond request (exceptionPdu 0 .illegalFunction))
    | function :: _ =>
        if !broadcast request && request.unitId ≠ configuredUnitId then .ok none
        else if function = 0x03 then .ok (handleRead registers request .readHoldingRegisters)
        else if function = 0x04 then .ok (handleRead registers request .readInputRegisters)
        else if function = 0x06 then .ok (handleWriteSingle registers request)
        else if function = 0x10 then .ok (handleWriteMultiple registers request)
        else .ok (answer request (exceptionPdu function .illegalFunction))

end Handler

end Msap1.Modbus
