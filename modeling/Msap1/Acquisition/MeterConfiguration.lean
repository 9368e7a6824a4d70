import Mathlib.Data.List.Basic
import Mathlib.Tactic

/-! The meter configuration that a settings document is turned into: its source, the payloads for
the RPU with their common generation, and the context that waveform captures are written with.
The conversions to fixed point, the JSON codec and SHA-256 are parameters. -/

namespace Msap1.Acquisition

structure VoltageChannelConfig (Number : Type) where
  channel : UInt32
  name : String
  enabled : Bool
  adcPgaGain : UInt32
  rinOhms : Number
  rfOhms : Number
  deriving DecidableEq

structure CurrentChannelConfig (Number : Type) where
  channel : UInt32
  name : String
  enabled : Bool
  adcPgaGain : UInt32
  sensorModel : String
  primaryRatedAmps : Number
  secondaryRatedAmps : Number
  burdenOhms : Number
  ratedOutputMillivolts : Number
  frontendGain : Number
  deriving DecidableEq

structure CurrentWiringChannelConfig where
  phase : String
  direction : String
  deriving DecidableEq

structure CurrentWiringConfig where
  inputOrder : String
  ch0 : CurrentWiringChannelConfig
  ch1 : CurrentWiringChannelConfig
  ch2 : CurrentWiringChannelConfig
  ch3 : CurrentWiringChannelConfig
  deriving DecidableEq

/-- `Analog` holds what only the conversions to fixed point read: reference voltage, RMS window,
frequency, power quality and simulator. -/
structure MeterConversionFile (Number Analog : Type) where
  profileId : String
  adcSource : String
  nominalFrequencyHz : UInt32
  currentChannels : List (CurrentChannelConfig Number)
  voltageChannels : List (VoltageChannelConfig Number)
  currentWiring : CurrentWiringConfig
  analog : Analog
  deriving DecidableEq

@[ext] structure DemandSettings where
  method : String
  windowSeconds : UInt32
  deriving DecidableEq

structure WaveformSettings where
  archiveLimitGib : UInt32
  stationId : String
  stationName : String
  siteId : String
  siteName : String
  circuitId : String
  circuitName : String
  deviceSerial : String
  calibrationId : String
  calibrationStatus : String
  deriving DecidableEq

/-- `Rest` holds the sections that neither the coordinator nor the capture context reads. -/
structure ProductSettings (Number Analog Rest : Type) where
  sampleRateHz : UInt32
  nominalFrequencyHz : UInt32
  measurementTopology : String
  systemNominalVoltageV : Number
  demand : DemandSettings
  currentWiring : CurrentWiringConfig
  profileId : String
  currentChannels : List (CurrentChannelConfig Number)
  voltageChannels : List (VoltageChannelConfig Number)
  adcSource : String
  analog : Analog
  waveform : WaveformSettings
  rest : Rest
  deriving DecidableEq

/-- A packed payload: its generation and the bytes behind it. -/
structure ConfigPayload where
  generation : UInt32
  body : List UInt8
  deriving DecidableEq, Repr

namespace ConfigPayload

def word (payload : ConfigPayload) (index : Nat) : UInt32 :=
  (List.range 4).foldr (fun byte value =>
    value <<< 8 ||| ((payload.body[4 * index + byte]?).getD 0).toUInt32) 0

def sampleRateHz (payload : ConfigPayload) : UInt32 := payload.word 0

def validMask (payload : ConfigPayload) : UInt32 := payload.word 2

def scaleMicroUnitsQ16 (payload : ConfigPayload) (channel : UInt32) : UInt32 :=
  payload.word (3 + channel.toNat)

end ConfigPayload

structure PreparedMeterConfiguration (Number Analog : Type) where
  source : MeterConversionFile Number Analog
  wire : ConfigPayload
  m18Wire : ConfigPayload
  deriving DecidableEq

structure ImageIdentity where
  available : Bool
  distroVersion : String
  buildHash : String

/-- What is not part of the model: the codec, SHA-256 and the constants of the machine. -/
structure Externals (Number Analog Rest : Type) where
  encodeSettings : ProductSettings Number Analog Rest → String
  encodeSource : MeterConversionFile Number Analog → String
  settingsHash : String → String
  sha256 : String → List UInt8
  machineIdentity : String
  image : ImageIdentity
  utcOffsetSeconds : Int32

/-- With `llround(x * 1e6)`, the conversions of `prepare_meter_configuration` and
`to_m18_configuration` to bytes, and the validation. -/
structure Platform (Number Analog Rest : Type) extends Externals Number Analog Rest where
  microUnits : Number → Int64
  meterBody : MeterConversionFile Number Analog → UInt32 → Except String (List UInt8)
  m18Body : ProductSettings Number Analog Rest → List UInt8
  validate : ProductSettings Number Analog Rest → Except String Unit

def fingerprintAppend (hash : UInt32) (payload : ConfigPayload) : UInt32 :=
  payload.body.foldl (fun hash byte => (hash ^^^ byte.toUInt32) * 16777619) hash

def configurationFingerprint (payload : ConfigPayload) : UInt32 :=
  let hash := fingerprintAppend 2166136261 payload
  if hash = 0 then 1 else hash

def coordinateConfigurationGeneration (meter m18 : ConfigPayload) : ConfigPayload × ConfigPayload :=
  let hash := fingerprintAppend (fingerprintAppend 2166136261 meter) m18
  let generation := if hash = 0 then 1 else hash
  ({ meter with generation }, { m18 with generation })

def supportedAdcSampleRate (sampleRateHz : UInt32) : Bool :=
  [1000, 2000, 4000, 8000, 16000, 32000, 64000, 128000].contains sampleRateHz

section Preparation

variable {Number Analog Rest : Type} (platform : Platform Number Analog Rest)

def toMeterConfiguration (settings : ProductSettings Number Analog Rest) :
    MeterConversionFile Number Analog where
  profileId := settings.profileId
  adcSource := settings.adcSource
  nominalFrequencyHz := settings.nominalFrequencyHz
  currentChannels := settings.currentChannels
  voltageChannels := settings.voltageChannels
  currentWiring := settings.currentWiring
  analog := settings.analog

/-- `prepare_meter_configuration` for a source of the current schema, which it keeps as it is. -/
def prepareMeterConfiguration (source : MeterConversionFile Number Analog)
    (sampleRateHz : UInt32) : Except String ConfigPayload := do
  let body ← platform.meterBody source sampleRateHz
  return ⟨configurationFingerprint ⟨0, body⟩, body⟩

def toM18Configuration (settings : ProductSettings Number Analog Rest) (generation : UInt32) :
    Except String ConfigPayload := do
  platform.validate settings
  if generation = 0 then throw "M18 configuration generation must be non-zero"
  return ⟨generation, platform.m18Body settings⟩

/-- A source at a sample rate, with the M18 policy of some settings. -/
def stagedConfiguration (source : MeterConversionFile Number Analog) (sampleRateHz : UInt32)
    (settings : ProductSettings Number Analog Rest) :
    Except String (PreparedMeterConfiguration Number Analog) := do
  let wire ← prepareMeterConfiguration platform source sampleRateHz
  let m18Wire ← toM18Configuration platform settings wire.generation
  let (wire, m18Wire) := coordinateConfigurationGeneration wire m18Wire
  return ⟨source, wire, m18Wire⟩

def prepareProductConfiguration (settings : ProductSettings Number Analog Rest) :
    Except String (PreparedMeterConfiguration Number Analog) :=
  stagedConfiguration platform (toMeterConfiguration settings) settings.sampleRateHz settings

end Preparation

inductive MncwfTopology where
  | wye
  | delta
  deriving DecidableEq, Repr

inductive MncwfCalibrationStatus where
  | unknown
  | valid
  | expired
  | invalid
  deriving DecidableEq, Repr

inductive MncwfPhase where
  | a
  | b
  | c
  | neutral
  deriving DecidableEq, Repr

inductive MncwfQuantity where
  | voltage
  | current
  deriving DecidableEq, Repr

inductive MncwfSiUnit where
  | volt
  | ampere
  deriving DecidableEq, Repr

structure CaptureMetadata where
  deviceUuid : List UInt8
  configurationSha256 : List UInt8
  sensorProfileSha256 : List UInt8
  nominalVoltageNumerator : Int64
  nominalVoltageDenominator : UInt64
  nominalFrequencyNumerator : UInt64
  nominalFrequencyDenominator : UInt64
  topology : MncwfTopology
  calibrationStatus : MncwfCalibrationStatus
  stationName : String
  siteName : String
  circuitName : String
  productName : String
  deviceModel : String
  firmwareVersion : String
  softwareBuildId : String
  sensorProfileId : String
  configurationId : String
  calibrationId : String
  deviceSerial : String
  comments : String
  deriving DecidableEq

structure ChannelDefinition where
  stableId : List UInt8
  sourceChannel : UInt32
  flags : UInt32
  phase : MncwfPhase
  quantity : MncwfQuantity
  siUnit : MncwfSiUnit
  storageBits : UInt16
  validBits : UInt16
  displayExponent10 : Int16
  gainNumerator : Int64
  gainDenominator : UInt64
  offsetDenominator : UInt64
  primarySecondaryRatioNumerator : UInt64
  primarySecondaryRatioDenominator : UInt64
  nominalNumerator : Int64
  nominalDenominator : UInt64
  rangeMinimumNumerator : Int64
  rangeMinimumDenominator : UInt64
  rangeMaximumNumerator : Int64
  rangeMaximumDenominator : UInt64
  resolutionNumerator : UInt64
  resolutionDenominator : UInt64
  clippingLow : Int64
  clippingHigh : Int64
  name : String
  unitSymbol : String
  description : String
  deriving DecidableEq

/-- The capture context without its clock source, time quality and leap flags. -/
structure WaveformCaptureContext where
  captureMetadata : CaptureMetadata
  channels : List ChannelDefinition
  utcOffsetSeconds : Int32
  deriving DecidableEq

def hexDigit (value : Char) : Except String UInt8 :=
  if '0' ≤ value ∧ value ≤ '9' then .ok (value.toNat - '0'.toNat).toUInt8
  else if 'a' ≤ value ∧ value ≤ 'f' then .ok (value.toNat - 'a'.toNat + 10).toUInt8
  else if 'A' ≤ value ∧ value ≤ 'F' then .ok (value.toNat - 'A'.toNat + 10).toUInt8
  else .error "invalid SHA-256 text"

def hexBytes : List Char → Except String (List UInt8)
  | first :: second :: digits => do
      let high ← hexDigit first
      let low ← hexDigit second
      return (high <<< 4 ||| low) :: (← hexBytes digits)
  | _ => .ok []

def digestFromHex (text : String) : Except String (List UInt8) :=
  if text.length ≠ 64 then .error "SHA-256 text must contain 64 digits"
  else hexBytes text.toList

def uuidFromDigest (digest : List UInt8) : List UInt8 :=
  ((digest.take 16).modify 6 (fun byte => byte &&& 0x0f ||| 0x50)).modify 8
    (fun byte => byte &&& 0x3f ||| 0x80)

/-- `decimal_ratio` over the rounded micro-units. -/
def decimalRatio (numerator denominator : Int64) : UInt64 × UInt64 :=
  let left := numerator.toUInt64
  let right := denominator.toUInt64
  if left = 0 ∨ right = 0 then (0, 0)
  else
    let divisor := (Nat.gcd left.toNat right.toNat).toUInt64
    (left / divisor, right / divisor)

def calibrationStatus (value : String) : MncwfCalibrationStatus :=
  if value = "valid" then .valid
  else if value = "expired" then .expired
  else if value = "invalid" then .invalid
  else .unknown

def currentPhaseCode (phase : String) : Except String UInt32 :=
  if phase = "A" then .ok 0
  else if phase = "B" then .ok 1
  else if phase = "C" then .ok 2
  else if phase = "N" then .ok 3
  else .error "current channel phase must be A, B, C, or N"

def currentWiringChannels (wiring : CurrentWiringConfig) : List CurrentWiringChannelConfig :=
  [wiring.ch0, wiring.ch1, wiring.ch2, wiring.ch3]

def validateCurrentWiring (wiring : CurrentWiringConfig) : Except String Unit := do
  if wiring.inputOrder ≠ "ABC" ∧ wiring.inputOrder ≠ "ACB" ∧ wiring.inputOrder ≠ "CUSTOM" then
    throw "current wiring input_order must be ABC, ACB, or CUSTOM"
  let codes ← (currentWiringChannels wiring).foldlM (fun seen channel => do
    let code ← currentPhaseCode channel.phase
    if code ∈ seen then throw "current wiring must assign A, B, C, and N exactly once"
    if channel.direction ≠ "normal" ∧ channel.direction ≠ "reversed" then
      throw "current channel direction must be normal or reversed"
    return seen ++ [code]) ([] : List UInt32)
  if wiring.inputOrder = "ABC" ∧ codes ≠ [0, 1, 2, 3] then
    throw "ABC current wiring preset does not match its channel assignments"
  if wiring.inputOrder = "ACB" ∧ codes ≠ [0, 2, 1, 3] then
    throw "ACB current wiring preset does not match its channel assignments"

def physicalCurrentChannelForLogical (wiring : CurrentWiringConfig) (logicalChannel : UInt32) :
    Except String UInt32 := do
  if 4 ≤ logicalChannel then throw "logical current channel is out of range"
  validateCurrentWiring wiring
  match (currentWiringChannels wiring).findIdx? (fun channel =>
      (currentPhaseCode channel.phase).toOption = some logicalChannel) with
  | some channel => return channel.toUInt32
  | none => throw "logical current channel is not assigned"

def rawLow : Int64 := -8388608

def rawHigh : Int64 := 8388607

def engineeringDenominator : UInt64 := 65536 * 1000000

def channelEnabled : UInt32 := 0x01
def channelTransformValid : UInt32 := 0x02
def channelRatioValid : UInt32 := 0x04
def channelNominalValid : UInt32 := 0x08
def channelRangeValid : UInt32 := 0x10
def channelResolutionValid : UInt32 := 0x20
def channelClippingValid : UInt32 := 0x40
def channelCalibrationValid : UInt32 := 0x80

def channelPhases : List MncwfPhase := [.a, .b, .c, .neutral, .c, .b, .a]

def currentNames : List String := ["ILA", "ILB", "ILC", "ILN"]

section Context

variable {Number Analog Rest : Type} (platform : Platform Number Analog Rest)

/-- The part of a channel that currents and voltages have in common. -/
def plainChannel (status : MncwfCalibrationStatus) (source physicalSource : UInt32)
    (wire : ConfigPayload) : ChannelDefinition :=
  let gain : Int64 := (wire.scaleMicroUnitsQ16 physicalSource).toUInt64.toInt64
  { stableId := uuidFromDigest (platform.sha256
      ("msap1-channel:" ++ platform.machineIdentity ++ ":" ++ toString source))
    sourceChannel := source
    flags := channelEnabled ||| channelTransformValid ||| channelNominalValid |||
      channelRangeValid ||| channelResolutionValid ||| channelClippingValid |||
      (if status = .valid then channelCalibrationValid else 0)
    phase := (channelPhases[source.toNat]?).getD .a
    quantity := if source < 4 then .current else .voltage
    siUnit := if source < 4 then .ampere else .volt
    storageBits := 32
    validBits := 24
    displayExponent10 := -6
    gainNumerator := gain
    gainDenominator := engineeringDenominator
    offsetDenominator := 1
    primarySecondaryRatioNumerator := 1
    primarySecondaryRatioDenominator := 1
    nominalNumerator := 0
    nominalDenominator := 1
    rangeMinimumNumerator := rawLow * gain
    rangeMinimumDenominator := engineeringDenominator
    rangeMaximumNumerator := rawHigh * gain
    rangeMaximumDenominator := engineeringDenominator
    resolutionNumerator := gain.toUInt64
    resolutionDenominator := engineeringDenominator
    clippingLow := rawLow
    clippingHigh := rawHigh
    name := ""
    unitSymbol := ""
    description := "" }

def currentChannel (plain : ChannelDefinition) (source physicalSource : UInt32)
    (configuration : PreparedMeterConfiguration Number Analog) :
    Except String ChannelDefinition :=
  match configuration.source.currentChannels.find? (fun value =>
      value.channel = physicalSource) with
  | none => .error "missing waveform current channel"
  | some found =>
      let named := { plain with
        name := (currentNames[source.toNat]?).getD ""
        unitSymbol := "A"
        description := "ADC CH" ++ toString physicalSource ++ ": " ++ found.sensorModel
        nominalNumerator := platform.microUnits found.primaryRatedAmps
        nominalDenominator := 1000000 }
      if found.sensorModel = "internal_ct" then
        let ratio := decimalRatio (platform.microUnits found.primaryRatedAmps)
          (platform.microUnits found.secondaryRatedAmps)
        .ok { named with
          primarySecondaryRatioNumerator := ratio.1
          primarySecondaryRatioDenominator := ratio.2
          flags := named.flags ||| channelRatioValid }
      else .ok named

def voltageChannel (plain : ChannelDefinition) (nominalVoltage : Int64) (source : UInt32)
    (configuration : PreparedMeterConfiguration Number Analog) :
    Except String ChannelDefinition :=
  match configuration.source.voltageChannels.find? (fun value => value.channel = source) with
  | none => .error "missing waveform voltage channel"
  | some found =>
      let ratio := decimalRatio (platform.microUnits found.rinOhms)
        (platform.microUnits found.rfOhms)
      .ok { plain with
        name := found.name
        unitSymbol := "V"
        description := "resistive voltage frontend"
        nominalNumerator := nominalVoltage
        nominalDenominator := 1000000
        primarySecondaryRatioNumerator := ratio.1
        primarySecondaryRatioDenominator := ratio.2
        flags := plain.flags ||| channelRatioValid }

def captureChannel (status : MncwfCalibrationStatus) (nominalVoltage : Int64)
    (configuration : PreparedMeterConfiguration Number Analog) (source : UInt32) :
    Except String ChannelDefinition := do
  if source < 4 then
    let physicalSource ← physicalCurrentChannelForLogical configuration.source.currentWiring source
    currentChannel platform (plainChannel platform status source physicalSource configuration.wire)
      source physicalSource configuration
  else
    voltageChannel platform (plainChannel platform status source source configuration.wire)
      nominalVoltage source configuration

def enabledChannels (wire : ConfigPayload) : List UInt32 :=
  ([0, 1, 2, 3, 4, 5, 6] : List UInt32).filter (fun source =>
    wire.validMask &&& ((1 : UInt32) <<< source) ≠ 0)

def namedOr (name identifier : String) : String := if name = "" then identifier else name

def waveformCaptureContext (settings : ProductSettings Number Analog Rest)
    (configuration : PreparedMeterConfiguration Number Analog) :
    Except String WaveformCaptureContext := do
  let actual := { settings with
    sampleRateHz := configuration.wire.sampleRateHz
    adcSource := configuration.source.adcSource }
  let configurationHash := platform.settingsHash (platform.encodeSettings actual)
  let sensorHash := platform.settingsHash (platform.encodeSource configuration.source)
  let waveform := actual.waveform
  let configurationSha256 ← digestFromHex configurationHash
  let sensorProfileSha256 ← digestFromHex sensorHash
  let status := calibrationStatus waveform.calibrationStatus
  let nominalVoltage := platform.microUnits actual.systemNominalVoltageV
  let channels ← (enabledChannels configuration.wire).mapM
    (captureChannel platform status nominalVoltage configuration)
  return {
    captureMetadata := {
      deviceUuid := uuidFromDigest (platform.sha256 ("msap1-device:" ++ platform.machineIdentity))
      configurationSha256
      sensorProfileSha256
      nominalVoltageNumerator := nominalVoltage
      nominalVoltageDenominator := 1000000
      nominalFrequencyNumerator := actual.nominalFrequencyHz.toUInt64
      nominalFrequencyDenominator := 1
      topology := if actual.measurementTopology = "delta" then .delta else .wye
      calibrationStatus := status
      stationName := namedOr waveform.stationName waveform.stationId
      siteName := namedOr waveform.siteName waveform.siteId
      circuitName := namedOr waveform.circuitName waveform.circuitId
      productName := "MSAP1"
      deviceModel := "MSAP1"
      firmwareVersion := if platform.image.available ∧ platform.image.distroVersion ≠ ""
        then platform.image.distroVersion else "development"
      softwareBuildId := if platform.image.available ∧ platform.image.buildHash ≠ ""
        then platform.image.buildHash else "development"
      sensorProfileId := configuration.source.profileId
      configurationId := configurationHash ++ ":g" ++ toString configuration.wire.generation
      calibrationId := waveform.calibrationId
      deviceSerial := waveform.deviceSerial
      comments := "station_id=" ++ waveform.stationId ++ ";site_id=" ++ waveform.siteId ++
        ";circuit_id=" ++ waveform.circuitId ++ ";adc_source=" ++ configuration.source.adcSource }
    channels
    utcOffsetSeconds := platform.utcOffsetSeconds }

end Context

end Msap1.Acquisition
