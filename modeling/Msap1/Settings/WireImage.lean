import Msap1.ByteCodec
import Msap1.Settings.WireConfiguration

/-! The payloads as the packed structures of the RPU protocol, behind their generation, and the
conversions of the product's settings as the coordinator uses them. -/

namespace Msap1.Settings

open Acquisition (ConfigPayload Platform Externals configurationFingerprint)
open ByteCodec (writeU32 ofLittle ofLittle_lt ofLittle_toLittle length_toLittle)

def imageOf (words : List UInt32) : List UInt8 := words.flatMap writeU32

def channelWords (field : Nat → UInt32) : List UInt32 := (List.range 8).map field

namespace MeterConfigPayload

variable (payload : MeterConfigPayload)

/-- The words in front of `adc_pga_gain`. -/
def leading : List UInt32 :=
  [payload.sampleRateHz, payload.rmsWindowSamples, payload.channels.validMask] ++
    channelWords payload.channels.scaleMicroUnitsQ16 ++ [payload.flags]

def frequencyWords : List UInt32 :=
  [payload.frequency.flags, payload.frequency.mode, payload.frequency.referenceChannel,
    payload.frequency.averagingCycles, payload.frequency.windowSamples,
    payload.frequency.minimumMillihz, payload.frequency.maximumMillihz,
    payload.frequency.hysteresisMicrovolts]

/-- Four slots of three words; a slot that is not used is zero. -/
def harmonicWords : List UInt32 :=
  (List.range 4).flatMap fun slot => match payload.simulatorHarmonics[slot]? with
    | some harmonic => [harmonic.ratioQ16, harmonic.maskAndFraction, harmonic.phaseQ32]
    | none => [0, 0, 0]

def simulatorWords : List UInt32 :=
  [payload.adcSource, payload.simulatorFrequencyMillihz, payload.simulatorValidMask] ++
    channelWords (fun channel => (payload.simulatorChannels.peakCounts channel).toUInt32) ++
    channelWords payload.simulatorChannels.phaseQ32 ++ [payload.simulatorPhaseStepQ32] ++
    channelWords (fun channel => (payload.simulatorChannels.dcOffsetCounts channel).toUInt32) ++
    channelWords payload.simulatorChannels.noiseLevelCounts ++ payload.harmonicWords ++
    [payload.simulatorFlags]

def powerQualityWords : List UInt32 :=
  [payload.powerQuality.referenceMicrovolts, payload.powerQuality.sagThresholdE4,
    payload.powerQuality.swellThresholdE4, payload.powerQuality.interruptionThresholdE4,
    payload.powerQuality.hysteresisE4]

def toneWords : List UInt32 :=
  [payload.modulation.frequencyMillihz, payload.modulation.depthQ16,
    payload.modulation.channelMask, payload.carrier.frequencyMillihz, payload.carrier.fractionQ16,
    payload.carrier.phaseMask, payload.carrier.phaseQ32, payload.carrier.adjacentFrequencyMillihz,
    payload.carrier.adjacentFractionQ16, payload.carrier.adjacentPhaseQ32]

/-- `msap1_meter_config_payload` behind its generation. -/
def body : List UInt8 :=
  imageOf payload.leading ++ ((List.range 8).map payload.channels.adcPgaGain ++
    imageOf (payload.frequencyWords ++ payload.simulatorWords ++ [payload.nominalFrequencyHz] ++
      payload.powerQualityWords ++ payload.toneWords ++
      [payload.currentAdcPhaseMap, payload.currentAdcInvertMask]))

end MeterConfigPayload

def M18EventProfile.words (profile : M18EventProfile) : List UInt32 :=
  [profile.flags, profile.thresholdE4, profile.hysteresisE4, profile.phaseMask,
    profile.waveformPretriggerMs, profile.waveformPosttriggerMs, profile.waveformDecimation]

/-- `msap1_m18_config_payload` behind its generation. -/
def M18ConfigPayload.body (payload : M18ConfigPayload) : List UInt8 :=
  imageOf ([payload.eventProfileCount, payload.referenceCurrentMicroamperes,
      payload.referenceVoltageMicrovolts] ++
    EventType.all.flatMap (fun type => (payload.event type).words) ++
    [payload.flickerFlags, payload.flickerPhaseMask, payload.flickerLampVoltage,
      payload.flickerLiveCadenceMs, payload.flickerPstIntervalSeconds, payload.flickerPltPstCount,
      payload.mainsFlags, payload.mainsCarrierMillihz, payload.mainsBandwidthMillihz,
      payload.mainsObservationMs, payload.mainsPhaseMask, payload.mainsThresholdE4])

section Words

variable {words : List UInt32} {rest : List UInt8} {index : Nat}

theorem drop_imageOf (inside : index < words.length) :
    ∃ behind, (imageOf words ++ rest).drop (4 * index) = writeU32 words[index] ++ behind := by
  induction words generalizing index with
  | nil => cases inside
  | cons word words ih =>
      rw [imageOf, List.flatMap_cons, List.append_assoc]
      cases index with
      | zero => exact ⟨_, rfl⟩
      | succ index =>
          obtain ⟨behind, found⟩ := @ih index (Nat.lt_of_succ_lt_succ inside)
          refine ⟨behind, ?_⟩
          rw [List.getElem_cons_succ, ← found, Nat.mul_succ, Nat.add_comm, ← List.drop_drop]
          rfl

theorem shifted_toNat (value : UInt32) (byte : UInt8) :
    (value <<< 8 ||| byte.toUInt32).toNat = value.toNat % 2 ^ 24 * 2 ^ 8 + byte.toNat := by
  have shifted : (value <<< 8).toNat = (value.toNat % 2 ^ 24) <<< 8 := by
    have eight : UInt32.toNat 8 % 32 = 8 := rfl
    rw [UInt32.toNat_shiftLeft, eight, Nat.shiftLeft_eq, Nat.shiftLeft_eq]
    omega
  rw [UInt32.toNat_or, shifted, UInt8.toNat_toUInt32,
    ← Nat.shiftLeft_add_eq_or_of_lt byte.toNat_lt, Nat.shiftLeft_eq]

theorem bytes_toNat {bytes : List UInt8} (short : bytes.length ≤ 4) :
    (bytes.foldr (fun byte (value : UInt32) => value <<< 8 ||| byte.toUInt32) 0).toNat =
      ofLittle bytes := by
  induction bytes with
  | nil => rfl
  | cons byte bytes ih =>
      have shorter : bytes.length ≤ 3 := by
        rw [List.length_cons] at short
        omega
      have small : ofLittle bytes < 2 ^ 24 := calc
        ofLittle bytes < 256 ^ bytes.length := ofLittle_lt bytes
        _ ≤ 256 ^ 3 := Nat.pow_le_pow_right (by decide) shorter
        _ = 2 ^ 24 := by norm_num
      rw [List.foldr_cons, shifted_toNat, ih (by omega), Nat.mod_eq_of_lt small, ofLittle]
      omega

theorem word_imageOf (generation : UInt32) (inside : index < words.length) :
    (⟨generation, imageOf words ++ rest⟩ : ConfigPayload).word index = words[index] := by
  obtain ⟨behind, found⟩ := @drop_imageOf words rest index inside
  have bytes : ((List.range 4).map fun byte =>
      ((imageOf words ++ rest)[4 * index + byte]?).getD 0) = writeU32 words[index] := by
    simp only [← List.getElem?_drop, found]
    rfl
  have folded : (⟨generation, imageOf words ++ rest⟩ : ConfigPayload).word index =
      (writeU32 words[index]).foldr
        (fun byte (value : UInt32) => value <<< 8 ||| byte.toUInt32) 0 := by
    rw [← bytes, List.foldr_map]
    rfl
  apply UInt32.toNat_inj.mp
  rw [folded, writeU32, bytes_toNat (length_toLittle 4 _).le,
    ofLittle_toLittle 4 _ words[index].toNat_lt]

end Words

section Reading

variable (payload : MeterConfigPayload) (generation : UInt32)

theorem length_leading : payload.leading.length = 12 := rfl

theorem body_sampleRateHz :
    (⟨generation, payload.body⟩ : ConfigPayload).sampleRateHz = payload.sampleRateHz :=
  word_imageOf generation (show 0 < payload.leading.length by rw [length_leading]; decide)

theorem body_validMask :
    (⟨generation, payload.body⟩ : ConfigPayload).validMask = payload.channels.validMask :=
  word_imageOf generation (show 2 < payload.leading.length by rw [length_leading]; decide)

theorem body_scale {channel : UInt32} (inside : channel.toNat < 8) :
    (⟨generation, payload.body⟩ : ConfigPayload).scaleMicroUnitsQ16 channel =
      payload.channels.scaleMicroUnitsQ16 channel.toNat := by
  have size := length_leading payload
  have place : 3 + channel.toNat < payload.leading.length := by omega
  rw [ConfigPayload.scaleMicroUnitsQ16, MeterConfigPayload.body, word_imageOf generation place,
    ← Option.some_inj, ← List.getElem?_eq_getElem place]
  generalize channel.toNat = place at inside
  interval_cases place <;> rfl

end Reading

section Platform

variable {Others : Type} (validateOthers : ProductSettings Others → Except String Unit)
  (externals : Externals ℚ AnalogSettings (Policies Others))

def wirePlatform : Platform ℚ AnalogSettings (Policies Others) :=
  { externals with
    microUnits := fun value => Int64.ofInt (Rounding.awayFromZero (value * 1000000))
    meterBody := fun source sampleRateHz =>
      (prepareMeterConfiguration source sampleRateHz).map MeterConfigPayload.body
    m18Body := fun settings => (m18Payload settings 0).body
    validate := validate validateOthers }

theorem wirePlatform_meter (source : Acquisition.MeterConversionFile ℚ AnalogSettings)
    (sampleRateHz : UInt32) :
    Acquisition.prepareMeterConfiguration (wirePlatform validateOthers externals) source
        sampleRateHz =
      (prepareMeterConfiguration source sampleRateHz).map fun payload =>
        ⟨configurationFingerprint ⟨0, payload.body⟩, payload.body⟩ := by
  cases prepared : prepareMeterConfiguration source sampleRateHz with
  | error reason =>
      simp only [Acquisition.prepareMeterConfiguration, wirePlatform, prepared]
      rfl
  | ok payload =>
      simp only [Acquisition.prepareMeterConfiguration, wirePlatform, prepared]
      rfl

theorem wirePlatform_m18 (settings : ProductSettings Others) (generation : UInt32) :
    Acquisition.toM18Configuration (wirePlatform validateOthers externals) settings generation =
      (toM18Configuration validateOthers settings generation).map fun payload =>
        ⟨payload.generation, payload.body⟩ := by
  cases accepted : validate validateOthers settings with
  | error reason =>
      simp only [Acquisition.toM18Configuration, toM18Configuration, wirePlatform, accepted]
      rfl
  | ok _ =>
      by_cases zero : generation = 0
      · simp only [Acquisition.toM18Configuration, toM18Configuration, wirePlatform, accepted,
          refuse, if_pos zero]
        rfl
      · simp only [Acquisition.toM18Configuration, toM18Configuration, wirePlatform, accepted,
          refuse, if_neg zero]
        rfl

end Platform

end Msap1.Settings
