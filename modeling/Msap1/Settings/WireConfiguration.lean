import Msap1.Acquisition.MeterConfiguration
import Msap1.Loops
import Msap1.Rounding

/-! `ProductSettings::validate`, `prepare_meter_configuration` and `to_m18_configuration` with
their conversions to fixed point. The decimal numbers of the settings are rationals, which are
finite, and `llround` rounds them away from zero. The sections that no conversion reads are a
parameter with their own validation; the fingerprint of the payload is left to
`configurationFingerprint`. -/

namespace Msap1.Settings

open Acquisition (VoltageChannelConfig CurrentChannelConfig CurrentWiringConfig MeterConversionFile
  DemandSettings validateCurrentWiring currentWiringChannels currentPhaseCode
  supportedAdcSampleRate toMeterConfiguration)
open Rounding (unsigned signed)

structure FrequencyConfig where
  enabled : Bool
  referenceChannel : UInt32
  mode : String
  averagingCycles : UInt32
  averagingWindowMs : UInt32
  minimumHz : ℚ
  maximumHz : ℚ
  hysteresisVolts : ℚ
  deriving DecidableEq

/-- A reference of zero disarms the detection. -/
structure PowerQualityConfig where
  referenceVolts : ℚ
  sagPercent : ℚ
  swellPercent : ℚ
  interruptionPercent : ℚ
  hysteresisPercent : ℚ
  deriving DecidableEq

structure SimulatorChannelConfig where
  channel : UInt32
  rms : ℚ
  phaseDegrees : ℚ
  dc : ℚ
  noiseRms : ℚ
  deriving DecidableEq

structure SimulatorHarmonicConfig where
  order : ℚ
  percent : ℚ
  phaseDegrees : ℚ
  channels : String
  deriving DecidableEq

structure SimulatorAmplitudeModulationConfig where
  enabled : Bool
  frequencyHz : ℚ
  depthPercent : ℚ
  channels : String
  deriving DecidableEq

structure SimulatorCarrierConfig where
  enabled : Bool
  frequencyHz : ℚ
  percent : ℚ
  phaseMask : UInt32
  phaseDegrees : ℚ
  adjacentFrequencyHz : ℚ
  adjacentPercent : ℚ
  adjacentPhaseDegrees : ℚ
  deriving DecidableEq

structure SimulatorConfig where
  frequencyHz : ℚ
  preservePhase : Bool
  channels : List SimulatorChannelConfig
  harmonics : List SimulatorHarmonicConfig
  amplitudeModulation : SimulatorAmplitudeModulationConfig
  carrier : SimulatorCarrierConfig
  deriving DecidableEq

structure AnalogSettings where
  adcReferenceVolts : ℚ
  rmsWindowMs : UInt32
  removeDc : Bool
  frequency : FrequencyConfig
  powerQuality : PowerQualityConfig
  simulator : SimulatorConfig
  deriving DecidableEq

structure EventWaveformPolicy where
  enabled : Bool
  pretriggerMs : UInt32
  posttriggerMs : UInt32
  decimation : UInt32

structure EventProfileSettings where
  enabled : Bool
  thresholdPercent : ℚ
  hysteresisPercent : ℚ
  phaseMask : UInt32
  phasePolicy : String
  waveform : EventWaveformPolicy

inductive EventType where
  | voltageSag
  | voltageSwell
  | voltageInterruption
  | rapidVoltageChange
  | voltageUnbalance
  | currentSag
  | currentSwell
  | currentUnbalance
  | transientVoltage
  deriving DecidableEq, Repr

namespace EventType

def all : List EventType :=
  [voltageSag, voltageSwell, voltageInterruption, rapidVoltageChange, voltageUnbalance, currentSag,
    currentSwell, currentUnbalance, transientVoltage]

theorem mem_all (type : EventType) : type ∈ all := by
  cases type <;> decide

def label : EventType → String
  | voltageSag => "voltage-sag"
  | voltageSwell => "voltage-swell"
  | voltageInterruption => "voltage-interruption"
  | rapidVoltageChange => "rapid-voltage-change"
  | voltageUnbalance => "voltage-unbalance"
  | currentSag => "current-sag"
  | currentSwell => "current-swell"
  | currentUnbalance => "current-unbalance"
  | transientVoltage => "transient-voltage"

/-- The IEC voltage phenomena; the other profiles are alarms of the product. -/
def iecClassification : EventType → Bool
  | voltageSag | voltageSwell | voltageInterruption | rapidVoltageChange | transientVoltage => true
  | _ => false

end EventType

structure PowerQualityEventSettings where
  referenceCurrentAmperes : ℚ
  profile : EventType → EventProfileSettings

structure FlickerSettings where
  enabled : Bool
  phaseMask : UInt32
  lampVoltage : UInt32
  liveCadenceMs : UInt32
  pstIntervalSeconds : UInt32
  pltPstCount : UInt32

structure MainsSignallingSettings where
  enabled : Bool
  carrierFrequencyHz : ℚ
  bandwidthHz : ℚ
  observationMs : UInt32
  phaseMask : UInt32
  thresholdPercent : ℚ

/-- The event policies and, in `others`, the sections of the document that no conversion reads. -/
structure Policies (Others : Type) where
  events : PowerQualityEventSettings
  flicker : FlickerSettings
  mainsSignalling : MainsSignallingSettings
  others : Others

abbrev ProductSettings (Others : Type) :=
  Acquisition.ProductSettings ℚ AnalogSettings (Policies Others)

/-- `if (bad) throw std::runtime_error(text)`. -/
def refuse (bad : Prop) [Decidable bad] (text : String) : Except String Unit :=
  if bad then .error text else .ok ()

/-- A mask over the three phases that selects one at least. -/
def phaseMaskInvalid (mask : UInt32) : Prop := mask = 0 ∨ mask &&& ~~~0x7 ≠ 0

instance (mask : UInt32) : Decidable (phaseMaskInvalid mask) :=
  inferInstanceAs (Decidable (_ ∨ _))

def EventWaveformPolicy.validate (policy : EventWaveformPolicy) : Except String Unit := do
  refuse (120000 < policy.pretriggerMs ∨ 120000 < policy.posttriggerMs)
    "event waveform windows must not exceed 120 seconds"
  refuse (policy.decimation ∉ ([1, 2, 4, 8, 16, 32] : List UInt32))
    "event waveform decimation must be 1, 2, 4, 8, 16, or 32"

def EventProfileSettings.validate (profile : EventProfileSettings) (name : String) :
    Except String Unit := do
  refuse (profile.thresholdPercent < 0 ∨ 65535 / 100 < profile.thresholdPercent ∨
      profile.hysteresisPercent < 0 ∨ 65535 / 100 < profile.hysteresisPercent ∨
      profile.thresholdPercent ≤ profile.hysteresisPercent ∨ phaseMaskInvalid profile.phaseMask)
    (name ++ " event profile is out of range")
  refuse (profile.phasePolicy ≠ "per_phase" ∧ profile.phasePolicy ≠ "polyphase")
    (name ++ " phase policy must be per_phase or polyphase")
  profile.waveform.validate

def PowerQualityEventSettings.validate (events : PowerQualityEventSettings) :
    Except String Unit := do
  refuse (events.referenceCurrentAmperes < 0 ∨
      4294967295 / 1000000 < events.referenceCurrentAmperes)
    "event current reference is out of range"
  EventType.all.forM fun type => (events.profile type).validate type.label
  refuse ((events.profile .transientVoltage).enabled = true)
    ("transient-voltage detection is unavailable until the analogue frontend is " ++
      "characterized")

def FlickerSettings.validate (flicker : FlickerSettings) : Except String Unit :=
  refuse (phaseMaskInvalid flicker.phaseMask ∨
      (flicker.lampVoltage ≠ 120 ∧ flicker.lampVoltage ≠ 230) ∨ flicker.liveCadenceMs ≠ 1000 ∨
      flicker.pstIntervalSeconds ≠ 600 ∨ flicker.pltPstCount ≠ 12)
    ("flicker requires a 120/230 V lamp model, 1 s live cadence, 10 minute Pst, and " ++
      "twelve-value Plt")

def nyquistHz (sampleRateHz : UInt32) : ℚ := (sampleRateHz.toNat : ℚ) / 2

def MainsSignallingSettings.validate (mains : MainsSignallingSettings) (sampleRateHz : UInt32) :
    Except String Unit := do
  refuse (mains.carrierFrequencyHz ≤ 0 ∨ 12500 ≤ mains.carrierFrequencyHz ∨
      mains.bandwidthHz < 4 / 1000 ∨ mains.carrierFrequencyHz ≤ mains.bandwidthHz ∨
      mains.observationMs ≠ 200 ∨ phaseMaskInvalid mains.phaseMask ∨ mains.thresholdPercent < 0 ∨
      65535 / 100 < mains.thresholdPercent ∨
      12500 ≤ mains.carrierFrequencyHz + mains.bandwidthHz)
    "mains-signalling configuration is out of range"
  refuse (mains.enabled = true ∧
      nyquistHz sampleRateHz ≤ mains.carrierFrequencyHz + mains.bandwidthHz)
    "mains-signalling band exceeds the selected sample-rate Nyquist limit"

def validateDemand (demand : DemandSettings) : Except String Unit :=
  if demand.method = "fixed_block" then
    refuse (demand.windowSeconds ≠ 600) "fixed-block demand window must be 600 seconds"
  else do
    refuse (demand.method ≠ "sliding") "demand method must be fixed_block or sliding"
    refuse (demand.windowSeconds ∉ ([60, 300, 600, 900, 1800] : List UInt32))
      "sliding demand window must be 60, 300, 600, 900, or 1800 seconds"

/-- `MeteringSettings::validate`. -/
def validateMetering {Others : Type} (settings : ProductSettings Others) :
    Except String Unit := do
  refuse (supportedAdcSampleRate settings.sampleRateHz = false)
    "unsupported persistent ADC sample rate"
  refuse (settings.nominalFrequencyHz ≠ 50 ∧ settings.nominalFrequencyHz ≠ 60)
    "nominal frequency must be 50 or 60 Hz"
  refuse (settings.measurementTopology ≠ "wye" ∧ settings.measurementTopology ≠ "delta")
    "measurement topology must be wye or delta"
  refuse (¬(1 ≤ settings.systemNominalVoltageV ∧ settings.systemNominalVoltageV ≤ 1000000))
    "system nominal voltage must be 1..1000000 V"
  refuse (settings.analog.rmsWindowMs < 1 ∨ 10000 < settings.analog.rmsWindowMs)
    "RMS window must be 1..10000 ms"
  settings.rest.events.validate
  settings.rest.flicker.validate
  settings.rest.mainsSignalling.validate settings.sampleRateHz
  refuse (settings.rest.mainsSignalling.enabled = true ∧
      settings.analog.powerQuality.referenceVolts ≤ 0)
    "mains-signalling requires a positive voltage reference"
  validateDemand settings.demand
  validateCurrentWiring settings.currentWiring

def validPgaGain (gain : UInt32) : Bool := gain == 1 || gain == 2 || gain == 4 || gain == 8

def adcPositiveCodes : ℚ := 8388608
def q16Scale : ℚ := 65536
def q32Scale : ℚ := 4294967296
def squareRootTwo : ℚ := 14142135623730950488 / 10000000000000000000
def squareRootThree : ℚ := 17320508075688772935 / 10000000000000000000

def checkedCoefficient (coefficient : ℚ) (measurement : String) : Except String UInt32 := do
  refuse (coefficient ≤ 0 ∨ 4294967295 < coefficient)
    (measurement ++ " conversion coefficient is out of range")
  return unsigned coefficient

def frequencyMode (mode : String) : Except String UInt32 :=
  if mode = "single_cycle" then .ok 0
  else if mode = "rolling_cycles" then .ok 1
  else if mode = "rolling_time" then .ok 2
  else .error "unsupported frequency measurement mode"

def harmonicChannelMask (channels : String) : Except String UInt32 :=
  if channels = "voltage" then .ok 0x70
  else if channels = "current" then .ok 0x0f
  else if channels = "all" then .ok 0x7f
  else .error "simulator harmonic channels must be voltage, current, or all"

/-- `std::fmod(value, 1.0)`, which has the sign of the value. -/
def fmodOne (value : ℚ) : ℚ := value - if 0 ≤ value then (⌊value⌋ : ℚ) else (⌈value⌉ : ℚ)

def phaseQ32 (phaseDegrees : ℚ) : UInt32 :=
  let turns := fmodOne (phaseDegrees / 360)
  unsigned ((if turns < 0 then turns + 1 else turns) * q32Scale)

def currentAdcPhaseMap (wiring : CurrentWiringConfig) : Except String UInt32 := do
  validateCurrentWiring wiring
  let codes ← (currentWiringChannels wiring).mapM fun channel => currentPhaseCode channel.phase
  return codes.foldr (fun code map => map <<< 2 ||| code) 0

def currentAdcInvertMask (wiring : CurrentWiringConfig) : Except String UInt32 := do
  validateCurrentWiring wiring
  return (currentWiringChannels wiring).foldr (fun channel mask =>
    mask <<< 1 ||| if channel.direction = "reversed" then 1 else 0) 0

/-- The payload of the RPU by the parts that fill it. Arrays are indexed by their channel, and the
slots of absent harmonics are zero. -/
structure ChannelFields where
  scaleMicroUnitsQ16 : Nat → UInt32 := fun _ => 0
  adcPgaGain : Nat → UInt8 := fun _ => 1
  validMask : UInt32 := 0

structure FrequencyFields where
  flags : UInt32
  mode : UInt32
  referenceChannel : UInt32
  averagingCycles : UInt32
  windowSamples : UInt32
  minimumMillihz : UInt32
  maximumMillihz : UInt32
  hysteresisMicrovolts : UInt32

structure PowerQualityFields where
  referenceMicrovolts : UInt32
  sagThresholdE4 : UInt32
  swellThresholdE4 : UInt32
  interruptionThresholdE4 : UInt32
  hysteresisE4 : UInt32

structure SimulatorChannelFields where
  peakCounts : Nat → Int32 := fun _ => 0
  phaseQ32 : Nat → UInt32 := fun _ => 0
  dcOffsetCounts : Nat → Int32 := fun _ => 0
  noiseLevelCounts : Nat → UInt32 := fun _ => 0

structure HarmonicFields where
  ratioQ16 : UInt32
  maskAndFraction : UInt32
  phaseQ32 : UInt32

structure ModulationFields where
  frequencyMillihz : UInt32 := 0
  depthQ16 : UInt32 := 0
  channelMask : UInt32 := 0

structure CarrierFields where
  frequencyMillihz : UInt32 := 0
  fractionQ16 : UInt32 := 0
  phaseMask : UInt32 := 0
  phaseQ32 : UInt32 := 0
  adjacentFrequencyMillihz : UInt32 := 0
  adjacentFractionQ16 : UInt32 := 0
  adjacentPhaseQ32 : UInt32 := 0

structure MeterConfigPayload where
  sampleRateHz : UInt32
  rmsWindowSamples : UInt32
  flags : UInt32
  nominalFrequencyHz : UInt32
  currentAdcPhaseMap : UInt32
  currentAdcInvertMask : UInt32
  channels : ChannelFields
  frequency : FrequencyFields
  powerQuality : PowerQualityFields
  adcSource : UInt32
  simulatorFrequencyMillihz : UInt32
  simulatorValidMask : UInt32
  simulatorPhaseStepQ32 : UInt32
  simulatorFlags : UInt32
  simulatorChannels : SimulatorChannelFields
  simulatorHarmonics : List HarmonicFields
  modulation : ModulationFields
  carrier : CarrierFields

section Channels

variable (referenceVolts : ℚ)

/-- The conversion coefficient of an enabled current channel. -/
def currentCoefficient (channel : CurrentChannelConfig ℚ) : ℚ :=
  if channel.sensorModel = "internal_ct" then
    referenceVolts * (channel.primaryRatedAmps / channel.secondaryRatedAmps) * 1000000 * q16Scale /
      (adcPositiveCodes * channel.adcPgaGain.toNat * channel.burdenOhms)
  else
    channel.primaryRatedAmps * 1000000 * referenceVolts * q16Scale /
      (channel.ratedOutputMillivolts / 1000 * channel.frontendGain * adcPositiveCodes *
        channel.adcPgaGain.toNat)

def voltageCoefficient (channel : VoltageChannelConfig ℚ) : ℚ :=
  referenceVolts * 1000000 * q16Scale /
    (adcPositiveCodes * channel.adcPgaGain.toNat * (channel.rfOhms / channel.rinOhms))

def checkSensor (channel : CurrentChannelConfig ℚ) : Except String Unit :=
  if channel.sensorModel = "internal_ct" then
    refuse (channel.primaryRatedAmps ≤ 0 ∨ channel.secondaryRatedAmps ≤ 0 ∨ channel.burdenOhms ≤ 0)
      "internal CT configuration is invalid"
  else if channel.sensorModel = "voltage_output_current_sensor" then
    refuse (channel.ratedOutputMillivolts ≤ 0 ∨
        (channel.enabled = true ∧ channel.primaryRatedAmps ≤ 0))
      "voltage-output current sensor configuration is invalid"
  else .error "unsupported current sensor model"

/-- The channels prepared so far, with the bits of `configured_mask` as a list. -/
structure PreparedChannels where
  fields : ChannelFields := {}
  configured : List UInt32 := []

def PreparedChannels.configure (prepared : PreparedChannels) (channel gain : UInt32) :
    PreparedChannels :=
  { fields := { prepared.fields with
      adcPgaGain := Function.update prepared.fields.adcPgaGain channel.toNat gain.toUInt8 }
    configured := channel :: prepared.configured }

def PreparedChannels.enable (prepared : PreparedChannels) (channel scale logical : UInt32) :
    PreparedChannels :=
  { prepared with
    fields := { prepared.fields with
      scaleMicroUnitsQ16 :=
        Function.update prepared.fields.scaleMicroUnitsQ16 channel.toNat scale
      validMask := prepared.fields.validMask ||| 1 <<< logical } }

def prepareCurrentChannel (phaseMap : UInt32) (prepared : PreparedChannels)
    (channel : CurrentChannelConfig ℚ) : Except String PreparedChannels := do
  refuse (4 ≤ channel.channel ∨ channel.channel ∈ prepared.configured ∨ channel.name = "" ∨
      validPgaGain channel.adcPgaGain = false ∨ channel.frontendGain ≤ 0)
    "current channel configuration is invalid"
  checkSensor channel
  let configured := prepared.configure channel.channel channel.adcPgaGain
  if channel.enabled then
    let scale ← checkedCoefficient (currentCoefficient referenceVolts channel) "current"
    return configured.enable channel.channel scale ((phaseMap >>> (channel.channel * 2)) &&& 3)
  else return configured

def prepareVoltageChannel (prepared : PreparedChannels) (channel : VoltageChannelConfig ℚ) :
    Except String PreparedChannels := do
  refuse (channel.channel < 4 ∨ 6 < channel.channel ∨ channel.channel ∈ prepared.configured ∨
      channel.name = "" ∨ validPgaGain channel.adcPgaGain = false ∨ channel.rinOhms ≤ 0 ∨
      channel.rfOhms ≤ 0)
    "voltage channel configuration is invalid"
  let configured := prepared.configure channel.channel channel.adcPgaGain
  if channel.enabled then
    let scale ← checkedCoefficient (voltageCoefficient referenceVolts channel) "voltage"
    return configured.enable channel.channel scale channel.channel
  else return configured

def everyChannel : List UInt32 := [0, 1, 2, 3, 4, 5, 6]

def prepareChannels (phaseMap : UInt32) (currents : List (CurrentChannelConfig ℚ))
    (voltages : List (VoltageChannelConfig ℚ)) : Except String ChannelFields := do
  let withCurrents ← currents.foldlM (prepareCurrentChannel referenceVolts phaseMap) {}
  let prepared ← voltages.foldlM (prepareVoltageChannel referenceVolts) withCurrents
  refuse (∃ channel ∈ everyChannel, channel ∉ prepared.configured)
    "complete meter configuration must define channels 0 through 6"
  refuse (prepared.fields.validMask = 0) "meter configuration enables no channels"
  return prepared.fields

end Channels

def prepareFrequency (frequency : FrequencyConfig) (sampleRateHz : UInt32) :
    Except String FrequencyFields := do
  refuse (frequency.referenceChannel ≠ 6 ∨ frequency.averagingCycles = 0 ∨
      64 < frequency.averagingCycles ∨ frequency.averagingWindowMs < 100 ∨
      1000 < frequency.averagingWindowMs ∨ frequency.minimumHz < 10 ∨ 200 < frequency.maximumHz ∨
      frequency.maximumHz ≤ frequency.minimumHz ∨ frequency.hysteresisVolts ≤ 0 ∨
      100 < frequency.hysteresisVolts)
    "frequency configuration is invalid"
  let mode ← frequencyMode frequency.mode
  return {
    flags := if frequency.enabled then 1 else 0
    mode := mode
    referenceChannel := frequency.referenceChannel
    averagingCycles := frequency.averagingCycles
    windowSamples := unsigned
      ((sampleRateHz.toNat : ℚ) * frequency.averagingWindowMs.toNat / 1000)
    minimumMillihz := unsigned (frequency.minimumHz * 1000)
    maximumMillihz := unsigned (frequency.maximumHz * 1000)
    hysteresisMicrovolts := unsigned (frequency.hysteresisVolts * 1000000) }

def pqFraction (percent : ℚ) : UInt32 := unsigned (percent * 100)

def preparePowerQuality (pq : PowerQualityConfig) : Except String PowerQualityFields := do
  refuse (pq.referenceVolts < 0 ∨ 1000000 < pq.referenceVolts ∨ pq.interruptionPercent < 0 ∨
      655 < pq.swellPercent ∨ pq.hysteresisPercent < 0)
    "power-quality configuration values are out of range"
  refuse (0 < pq.referenceVolts ∧ (pq.sagPercent ≤ pq.interruptionPercent ∨
      pq.swellPercent ≤ pq.sagPercent ∨ pq.sagPercent ≤ pq.hysteresisPercent))
    ("power-quality thresholds must be ordered interruption < sag < swell with a smaller " ++
      "hysteresis")
  return {
    referenceMicrovolts := unsigned (pq.referenceVolts * 1000000)
    sagThresholdE4 := pqFraction pq.sagPercent
    swellThresholdE4 := pqFraction pq.swellPercent
    interruptionThresholdE4 := pqFraction pq.interruptionPercent
    hysteresisE4 := pqFraction pq.hysteresisPercent }

/-- The simulator channels prepared so far, with the bits of `simulator_mask` as a list. -/
structure PreparedSimulator where
  fields : SimulatorChannelFields := {}
  configured : List UInt32 := []

def PreparedSimulator.store (prepared : PreparedSimulator) (channel : SimulatorChannelConfig)
    (peak dcOffset : Int32) (noise : UInt32) : PreparedSimulator :=
  let index := channel.channel.toNat
  { fields := {
      peakCounts := Function.update prepared.fields.peakCounts index peak
      phaseQ32 := Function.update prepared.fields.phaseQ32 index (phaseQ32 channel.phaseDegrees)
      dcOffsetCounts := Function.update prepared.fields.dcOffsetCounts index dcOffset
      noiseLevelCounts := Function.update prepared.fields.noiseLevelCounts index noise }
    configured := channel.channel :: prepared.configured }

/-- Raw counts for one engineering unit at a prepared coefficient. -/
def countsPerUnit (coefficient : UInt32) : ℚ := 1000000 * q16Scale / (coefficient.toNat : ℚ)

/-- A channel that is not enabled has no coefficient and is simulated as zero. -/
def prepareSimulatorChannel (scale : Nat → UInt32) (prepared : PreparedSimulator)
    (channel : SimulatorChannelConfig) : Except String PreparedSimulator := do
  refuse (6 < channel.channel ∨ channel.channel ∈ prepared.configured ∨ channel.rms < 0 ∨
      channel.noiseRms < 0)
    "simulator channel configuration is invalid"
  let coefficient := scale channel.channel.toNat
  if coefficient = 0 then return prepared.store channel 0 0 0
  else
    let rawPeak := channel.rms * squareRootTwo * countsPerUnit coefficient
    refuse (rawPeak < 0 ∨ 8388607 < rawPeak)
      ("simulator CH" ++ toString channel.channel ++ " amplitude exceeds signed 24-bit range")
    let rawDc := channel.dc * countsPerUnit coefficient
    refuse (rawDc < -8388608 ∨ 8388607 < rawDc)
      ("simulator CH" ++ toString channel.channel ++ " DC offset exceeds signed 24-bit range")
    let rawNoise := channel.noiseRms * squareRootThree * countsPerUnit coefficient
    refuse (rawNoise < 0 ∨ 8388607 < rawNoise)
      ("simulator CH" ++ toString channel.channel ++
        " noise amplitude exceeds signed 24-bit range")
    return prepared.store channel (signed rawPeak) (signed rawDc) (unsigned rawNoise)

def prepareHarmonic (sampleRateHz frequencyMillihz : UInt32)
    (harmonic : SimulatorHarmonicConfig) : Except String HarmonicFields := do
  refuse (harmonic.order ≤ 1 ∨ 128 ≤ harmonic.order)
    "simulator harmonic ratio must be greater than 1 and less than 128"
  refuse (harmonic.percent < 0 ∨ 999 / 10 < harmonic.percent)
    "simulator harmonic percent must be 0 through 99.9"
  let ratioQ16 := unsigned (harmonic.order * q16Scale)
  refuse (ratioQ16 ≤ 0x00010000 ∨ 0x00800000 ≤ ratioQ16)
    "simulator harmonic ratio is not representable in range"
  let toneMillihz := (ratioQ16.toUInt64 * frequencyMillihz.toUInt64) >>> 16
  refuse (sampleRateHz.toUInt64 * 1000 ≤ toneMillihz * 2)
    "simulator harmonic exceeds the Nyquist limit"
  let fraction := unsigned (harmonic.percent / 100 * q16Scale)
  let mask ← harmonicChannelMask harmonic.channels
  return ⟨ratioQ16, mask ||| (fraction <<< 16), phaseQ32 harmonic.phaseDegrees⟩

def prepareModulation (am : SimulatorAmplitudeModulationConfig) (sampleRateHz : UInt32) :
    Except String ModulationFields := do
  refuse (am.frequencyHz ≤ 0 ∨ 1000 ≤ am.frequencyHz ∨ am.depthPercent < 0 ∨
      100 < am.depthPercent)
    "simulator amplitude-modulation configuration is out of range"
  refuse (am.enabled = true ∧ am.depthPercent = 0)
    "enabled simulator amplitude modulation requires non-zero depth"
  refuse (am.enabled = true ∧ nyquistHz sampleRateHz ≤ am.frequencyHz)
    "simulator amplitude modulation exceeds the Nyquist limit"
  if am.enabled then
    let mask ← harmonicChannelMask am.channels
    return {
      frequencyMillihz := unsigned (am.frequencyHz * 1000)
      depthQ16 := unsigned (am.depthPercent / 100 * q16Scale)
      channelMask := mask }
  else return {}

def validTone (sampleRateHz : UInt32) (frequency percent : ℚ) (description : String) :
    Except String Unit :=
  refuse (frequency ≤ 0 ∨ nyquistHz sampleRateHz ≤ frequency ∨ percent < 0 ∨ 999 / 10 < percent)
    ("simulator " ++ description ++ " tone is out of range")

def carrierFields (carrier : SimulatorCarrierConfig) : CarrierFields where
  frequencyMillihz := unsigned (carrier.frequencyHz * 1000)
  fractionQ16 := unsigned (carrier.percent / 100 * q16Scale)
  phaseMask := (carrier.phaseMask &&& 0x7) <<< 4
  phaseQ32 := phaseQ32 carrier.phaseDegrees

def prepareCarrier (carrier : SimulatorCarrierConfig) (sampleRateHz : UInt32) :
    Except String CarrierFields := do
  refuse (phaseMaskInvalid carrier.phaseMask)
    "simulator carrier phase mask must select voltage phases A/B/C"
  refuse (carrier.enabled = true ∧ carrier.percent = 0)
    "enabled simulator carrier requires non-zero amplitude"
  if carrier.enabled then
    validTone sampleRateHz carrier.frequencyHz carrier.percent "carrier"
    if carrier.adjacentPercent ≠ 0 then
      validTone sampleRateHz carrier.adjacentFrequencyHz carrier.adjacentPercent "adjacent"
      return { carrierFields carrier with
        adjacentFrequencyMillihz := unsigned (carrier.adjacentFrequencyHz * 1000)
        adjacentFractionQ16 := unsigned (carrier.adjacentPercent / 100 * q16Scale)
        adjacentPhaseQ32 := phaseQ32 carrier.adjacentPhaseDegrees }
    else return carrierFields carrier
  else return {}

def cyclesPerBasicBlock (nominalFrequencyHz : UInt32) : Nat :=
  if nominalFrequencyHz = 50 then 10 else 12

/-- The sample count of one nominal block, the window of a free run. -/
def fallbackWindow (sampleRateHz nominalFrequencyHz : UInt32) : Except String UInt32 := do
  let numerator := sampleRateHz.toNat * cyclesPerBasicBlock nominalFrequencyHz
  refuse (numerator % nominalFrequencyHz.toNat ≠ 0)
    "fallback window is not an integer sample count"
  let window := numerator / nominalFrequencyHz.toNat
  refuse (window = 0 ∨ 0xffffffff < window) "RMS window sample count is out of range"
  return UInt32.ofNat window

/-- `prepare_meter_configuration` of a source of the current schema. -/
def prepareMeterConfiguration (source : MeterConversionFile ℚ AnalogSettings)
    (sampleRateHz : UInt32) : Except String MeterConfigPayload := do
  let analog := source.analog
  validateCurrentWiring source.currentWiring
  refuse (source.adcSource ≠ "physical" ∧ source.adcSource ≠ "simulator") "unsupported ADC source"
  refuse (supportedAdcSampleRate sampleRateHz = false ∨ source.profileId = "" ∨
      analog.rmsWindowMs = 0 ∨ 10000 < analog.rmsWindowMs ∨ analog.adcReferenceVolts ≤ 0 ∨
      source.currentChannels = [] ∨ source.voltageChannels = [])
    "meter configuration values are out of range"
  refuse (source.nominalFrequencyHz ≠ 50 ∧ source.nominalFrequencyHz ≠ 60)
    "nominal frequency must be 50 or 60 Hz"
  let window ← fallbackWindow sampleRateHz source.nominalFrequencyHz
  let phaseMap ← currentAdcPhaseMap source.currentWiring
  let invertMask ← currentAdcInvertMask source.currentWiring
  let channels ← prepareChannels analog.adcReferenceVolts phaseMap source.currentChannels
    source.voltageChannels
  let frequency ← prepareFrequency analog.frequency sampleRateHz
  let powerQuality ← preparePowerQuality analog.powerQuality
  let simulator := analog.simulator
  refuse (simulator.frequencyHz ≤ 0 ∨ nyquistHz sampleRateHz ≤ simulator.frequencyHz)
    "simulator frequency is out of range"
  refuse (simulator.channels.length ≠ 7) "simulator must define channels 0 through 6 exactly once"
  let simulated ← simulator.channels.foldlM
    (prepareSimulatorChannel channels.scaleMicroUnitsQ16) {}
  refuse (∃ channel ∈ everyChannel, channel ∉ simulated.configured)
    "simulator must define channels 0 through 6 exactly once"
  let frequencyMillihz := unsigned (simulator.frequencyHz * 1000)
  let phaseStep := unsigned (simulator.frequencyHz * q32Scale / (sampleRateHz.toNat : ℚ))
  refuse (phaseStep = 0) "simulator phase step is zero"
  refuse (4 < simulator.harmonics.length) "simulator supports at most 4 harmonic slots"
  let harmonics ← simulator.harmonics.mapM (prepareHarmonic sampleRateHz frequencyMillihz)
  let modulation ← prepareModulation simulator.amplitudeModulation sampleRateHz
  let carrier ← prepareCarrier simulator.carrier sampleRateHz
  return {
    sampleRateHz := sampleRateHz
    rmsWindowSamples := window
    flags := 1 ||| if analog.removeDc then 2 else 0
    nominalFrequencyHz := source.nominalFrequencyHz
    currentAdcPhaseMap := phaseMap
    currentAdcInvertMask := invertMask
    channels := channels
    frequency := frequency
    powerQuality := powerQuality
    adcSource := if source.adcSource = "simulator" then 1 else 0
    simulatorFrequencyMillihz := frequencyMillihz
    simulatorValidMask := 0x7f
    simulatorPhaseStepQ32 := phaseStep
    simulatorFlags := if simulator.preservePhase then 1 else 0
    simulatorChannels := simulated.fields
    simulatorHarmonics := harmonics
    modulation := modulation
    carrier := carrier }

/-- `ProductSettings::validate`. The other sections are validated between the two. -/
def validate {Others : Type}
    (validateOthers : ProductSettings Others → Except String Unit)
    (settings : ProductSettings Others) : Except String Unit := do
  validateMetering settings
  validateOthers settings
  let _ ← prepareMeterConfiguration (toMeterConfiguration settings) settings.sampleRateHz

structure M18EventProfile where
  flags : UInt32
  thresholdE4 : UInt32
  hysteresisE4 : UInt32
  phaseMask : UInt32
  waveformPretriggerMs : UInt32
  waveformPosttriggerMs : UInt32
  waveformDecimation : UInt32

structure M18ConfigPayload where
  generation : UInt32
  eventProfileCount : UInt32
  referenceCurrentMicroamperes : UInt32
  referenceVoltageMicrovolts : UInt32
  event : EventType → M18EventProfile
  flickerFlags : UInt32
  flickerPhaseMask : UInt32
  flickerLampVoltage : UInt32
  flickerLiveCadenceMs : UInt32
  flickerPstIntervalSeconds : UInt32
  flickerPltPstCount : UInt32
  mainsFlags : UInt32
  mainsCarrierMillihz : UInt32
  mainsBandwidthMillihz : UInt32
  mainsObservationMs : UInt32
  mainsPhaseMask : UInt32
  mainsThresholdE4 : UInt32

def m18EventProfile (type : EventType) (source : EventProfileSettings) : M18EventProfile where
  flags := (if source.enabled then 1 else 0) ||| (if source.waveform.enabled then 2 else 0) |||
    (if source.phasePolicy = "per_phase" then 4 else 0) |||
    (if type.iecClassification then 8 else 0)
  thresholdE4 := unsigned (source.thresholdPercent * 100)
  hysteresisE4 := unsigned (source.hysteresisPercent * 100)
  phaseMask := source.phaseMask
  waveformPretriggerMs := source.waveform.pretriggerMs
  waveformPosttriggerMs := source.waveform.posttriggerMs
  waveformDecimation := source.waveform.decimation

/-- What `to_m18_configuration` fills of accepted settings. -/
def m18Payload {Others : Type} (settings : ProductSettings Others) (generation : UInt32) :
    M18ConfigPayload :=
  let events := settings.rest.events
  let flicker := settings.rest.flicker
  let mains := settings.rest.mainsSignalling
  { generation := generation
    eventProfileCount := 9
    referenceCurrentMicroamperes := unsigned (events.referenceCurrentAmperes * 1000000)
    referenceVoltageMicrovolts := unsigned (settings.analog.powerQuality.referenceVolts * 1000000)
    event := fun type => m18EventProfile type (events.profile type)
    flickerFlags := if flicker.enabled then 1 else 0
    flickerPhaseMask := flicker.phaseMask
    flickerLampVoltage := flicker.lampVoltage
    flickerLiveCadenceMs := flicker.liveCadenceMs
    flickerPstIntervalSeconds := flicker.pstIntervalSeconds
    flickerPltPstCount := flicker.pltPstCount
    mainsFlags := if mains.enabled then 1 else 0
    mainsCarrierMillihz := unsigned (mains.carrierFrequencyHz * 1000)
    mainsBandwidthMillihz := unsigned (mains.bandwidthHz * 1000)
    mainsObservationMs := mains.observationMs
    mainsPhaseMask := mains.phaseMask
    mainsThresholdE4 := unsigned (mains.thresholdPercent * 100) }

def toM18Configuration {Others : Type}
    (validateOthers : ProductSettings Others → Except String Unit)
    (settings : ProductSettings Others) (generation : UInt32) :
    Except String M18ConfigPayload := do
  validate validateOthers settings
  refuse (generation = 0) "M18 configuration generation must be non-zero"
  return m18Payload settings generation

end Msap1.Settings
