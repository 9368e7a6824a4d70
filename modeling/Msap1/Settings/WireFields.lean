import Msap1.Meter.EventLifecycle
import Msap1.Settings.WireConfiguration

/-! What the fixed-point fields of an accepted configuration say about its settings. -/

namespace Msap1.Settings

open Acquisition (VoltageChannelConfig CurrentChannelConfig toMeterConfiguration
  supportedAdcSampleRate)
open Rounding

/-- A field that is the rounded number, with nothing reduced modulo 2^32. -/
def Carries (field : UInt32) (value : ℚ) : Prop := (field.toNat : ℤ) = awayFromZero value

instance (field : UInt32) (value : ℚ) : Decidable (Carries field value) :=
  inferInstanceAs (Decidable (_ = _))

def CarriesSigned (field : Int32) (value : ℚ) : Prop := field.toInt = awayFromZero value

/-- A field that is the rounded angle, where a whole turn is no angle. -/
def CarriesAngle (field : UInt32) (degrees : ℚ) : Prop :=
  (field.toNat : ℤ) = awayFromZero (Int.fract (degrees / 360) * q32Scale) % 2 ^ 32

section Refusals

variable {Value : Type}

theorem refuse_ok {bad : Prop} [Decidable bad] {text : String} {value : Unit}
    (passed : refuse bad text = .ok value) : ¬bad := by
  intro holds
  rw [refuse, if_pos holds] at passed
  cases passed

theorem refuse_bind {bad : Prop} [Decidable bad] {text : String}
    {rest : Unit → Except String Value} {result : Value}
    (returned : (refuse bad text >>= rest) = .ok result) : ¬bad ∧ rest () = .ok result := by
  obtain ⟨⟨⟩, passed, continued⟩ := Loops.bind_ok returned
  exact ⟨refuse_ok passed, continued⟩

end Refusals

theorem carries_of_range {value : ℚ} (low : 0 ≤ value) (high : value ≤ 2 ^ 32 - 1) :
    Carries (unsigned value) value := unsigned_exact low high

theorem carries_iff (value : ℚ) :
    Carries (unsigned value) value ↔ -(1 / 2) < value ∧ value < 2 ^ 32 - 1 / 2 :=
  unsigned_exact_iff value

theorem carries_lt_iff {low high : ℚ} {first second : UInt32} (positive : 0 ≤ low)
    (lower : Carries first low) (upper : Carries second high) :
    first < second ↔ Apart low high := by
  rw [← awayFromZero_lt_awayFromZero_iff positive, ← lower, ← upper, UInt32.lt_iff_toNat_lt]
  exact Int.ofNat_lt.symm

theorem carries_ne_zero_iff {value : ℚ} {field : UInt32} (carried : Carries field value) :
    field ≠ 0 ↔ 1 / 2 ≤ value := by
  have reached : (0 : ℤ) < awayFromZero value ↔ 1 / 2 ≤ value := by
    have bound : (1 : ℤ) ≤ awayFromZero value ↔ ((1 : ℤ) : ℚ) - 1 / 2 ≤ value :=
      le_awayFromZero_iff (by norm_num) value
    push_cast at bound
    rw [← Int.add_one_le_iff, zero_add, bound]
    constructor <;> intro half <;> linarith
  rw [← reached, ← carried, ne_eq, ← UInt32.toNat_inj]
  simp only [UInt32.toNat_zero]
  omega

theorem fmodOne_fract (value : ℚ) :
    (if fmodOne value < 0 then fmodOne value + 1 else fmodOne value) = Int.fract value := by
  unfold fmodOne
  split_ifs with positive below below
  · exact absurd below (not_lt.mpr (Int.fract_nonneg value))
  · rfl
  · have differs : value ≠ ⌈value⌉ := by
      intro same
      linarith
    have between : ⌊value⌋ = ⌈value⌉ - 1 := by
      rw [Int.floor_eq_iff]
      push_cast
      have near := Int.ceil_lt_add_one value
      exact ⟨by linarith, by linarith⟩
    rw [Int.fract, between]
    push_cast
    ring
  · have whole : (⌈value⌉ : ℚ) = value := le_antisymm (by linarith) (Int.le_ceil value)
    have floor : (⌊value⌋ : ℚ) = value := by
      rw [← whole, Int.floor_intCast]
    rw [Int.fract, whole, floor]

theorem phase_carried (degrees : ℚ) : CarriesAngle (phaseQ32 degrees) degrees := by
  unfold CarriesAngle phaseQ32
  dsimp only
  rw [fmodOne_fract]
  exact unsigned_toNat _

structure FrequencyExact (frequency : FrequencyConfig) (sampleRateHz : UInt32)
    (fields : FrequencyFields) : Prop where
  windowSamples : Carries fields.windowSamples
    ((sampleRateHz.toNat : ℚ) * frequency.averagingWindowMs.toNat / 1000)
  minimum : Carries fields.minimumMillihz (frequency.minimumHz * 1000)
  maximum : Carries fields.maximumMillihz (frequency.maximumHz * 1000)
  hysteresis : Carries fields.hysteresisMicrovolts (frequency.hysteresisVolts * 1000000)

structure PowerQualityExact (pq : PowerQualityConfig) (fields : PowerQualityFields) : Prop where
  reference : Carries fields.referenceMicrovolts (pq.referenceVolts * 1000000)
  sag : Carries fields.sagThresholdE4 (pq.sagPercent * 100)
  swell : Carries fields.swellThresholdE4 (pq.swellPercent * 100)
  interruption : Carries fields.interruptionThresholdE4 (pq.interruptionPercent * 100)
  hysteresis : Carries fields.hysteresisE4 (pq.hysteresisPercent * 100)

/-- A channel without a coefficient is simulated as zero. -/
structure SimulatorChannelExact (channel : SimulatorChannelConfig) (coefficient : UInt32)
    (peak dcOffset : Int32) (noise phase : UInt32) : Prop where
  phase : CarriesAngle phase channel.phaseDegrees
  silent : coefficient = 0 → peak = 0 ∧ dcOffset = 0 ∧ noise = 0
  peak : coefficient ≠ 0 →
    CarriesSigned peak (channel.rms * squareRootTwo * countsPerUnit coefficient)
  dcOffset : coefficient ≠ 0 → CarriesSigned dcOffset (channel.dc * countsPerUnit coefficient)
  noise : coefficient ≠ 0 →
    Carries noise (channel.noiseRms * squareRootThree * countsPerUnit coefficient)

/-- The mask and the fraction of a harmonic lie beside each other in one word. -/
structure HarmonicExact (harmonic : SimulatorHarmonicConfig) (fields : HarmonicFields) : Prop where
  ratio : Carries fields.ratioQ16 (harmonic.order * q16Scale)
  fraction : ∃ mask, harmonicChannelMask harmonic.channels = .ok mask ∧
    (fields.maskAndFraction.toNat : ℤ) =
      mask.toNat + 2 ^ 16 * awayFromZero (harmonic.percent / 100 * q16Scale)
  phase : CarriesAngle fields.phaseQ32 harmonic.phaseDegrees

structure ModulationExact (am : SimulatorAmplitudeModulationConfig) (fields : ModulationFields) :
    Prop where
  frequency : Carries fields.frequencyMillihz (am.frequencyHz * 1000)
  depth : Carries fields.depthQ16 (am.depthPercent / 100 * q16Scale)

structure CarrierExact (carrier : SimulatorCarrierConfig) (fields : CarrierFields) : Prop where
  frequency : Carries fields.frequencyMillihz (carrier.frequencyHz * 1000)
  fraction : Carries fields.fractionQ16 (carrier.percent / 100 * q16Scale)
  phase : CarriesAngle fields.phaseQ32 carrier.phaseDegrees
  adjacentFrequency : carrier.adjacentPercent ≠ 0 →
    Carries fields.adjacentFrequencyMillihz (carrier.adjacentFrequencyHz * 1000)
  adjacentFraction : carrier.adjacentPercent ≠ 0 →
    Carries fields.adjacentFractionQ16 (carrier.adjacentPercent / 100 * q16Scale)
  adjacentPhase : carrier.adjacentPercent ≠ 0 →
    CarriesAngle fields.adjacentPhaseQ32 carrier.adjacentPhaseDegrees

/-- A percentage that fits its field. -/
def PercentFits (percent : ℚ) : Prop := -(1 / 2) < percent * 100 ∧ percent * 100 < 2 ^ 32 - 1 / 2

/-- The reference fits its field, and so does every percentage; the thresholds of an armed
detection round apart. -/
structure PowerQualityFits (pq : PowerQualityConfig) : Prop where
  reference : pq.referenceVolts * 1000000 < 2 ^ 32 - 1 / 2
  percents : ∀ percent ∈ [pq.sagPercent, pq.swellPercent, pq.interruptionPercent,
    pq.hysteresisPercent], PercentFits percent
  band : 0 < pq.referenceVolts → Apart (pq.interruptionPercent * 100) (pq.sagPercent * 100) ∧
    Apart (pq.sagPercent * 100) (pq.swellPercent * 100) ∧
      Apart (pq.hysteresisPercent * 100) (pq.sagPercent * 100)

/-- The thresholds of an armed detection are in order. -/
def BandOrdered (pq : PowerQualityConfig) (fields : PowerQualityFields) : Prop :=
  0 < pq.referenceVolts → fields.interruptionThresholdE4 < fields.sagThresholdE4 ∧
    fields.sagThresholdE4 < fields.swellThresholdE4 ∧ fields.hysteresisE4 < fields.sagThresholdE4

section Stages

variable {sampleRateHz : UInt32}

theorem rate_range (supported : ¬supportedAdcSampleRate sampleRateHz = false) :
    1000 ≤ sampleRateHz.toNat ∧ sampleRateHz.toNat ≤ 128000 := by
  rw [Bool.not_eq_false, supportedAdcSampleRate, List.contains_iff_mem] at supported
  simp only [List.mem_cons, List.not_mem_nil, or_false] at supported
  rcases supported with rfl | rfl | rfl | rfl | rfl | rfl | rfl | rfl <;> decide

theorem rate_rational (supported : ¬supportedAdcSampleRate sampleRateHz = false) :
    (1000 : ℚ) ≤ sampleRateHz.toNat ∧ (sampleRateHz.toNat : ℚ) ≤ 128000 := by
  obtain ⟨low, high⟩ := rate_range supported
  exact ⟨by exact_mod_cast low, by exact_mod_cast high⟩

theorem frequency_exact (supported : ¬supportedAdcSampleRate sampleRateHz = false)
    {frequency : FrequencyConfig} {fields : FrequencyFields}
    (returned : prepareFrequency frequency sampleRateHz = .ok fields) :
    FrequencyExact frequency sampleRateHz fields ∧
      (fields.minimumMillihz < fields.maximumMillihz ↔
        Apart (frequency.minimumHz * 1000) (frequency.maximumHz * 1000)) := by
  obtain ⟨accepted, returned⟩ := refuse_bind returned
  obtain ⟨mode, _, returned⟩ := Loops.bind_ok returned
  cases returned
  simp only [not_or, not_lt, not_le, UInt32.not_lt] at accepted
  obtain ⟨-, -, -, -, window, minimum, maximum, ordered, positive, hysteresis⟩ := accepted
  obtain ⟨-, rate⟩ := rate_rational supported
  have windowMs : (frequency.averagingWindowMs.toNat : ℚ) ≤ 1000 := by
    have bound : frequency.averagingWindowMs.toNat ≤ 1000 := UInt32.le_iff_toNat_le.mp window
    exact_mod_cast bound
  have samples : (sampleRateHz.toNat : ℚ) * frequency.averagingWindowMs.toNat / 1000 ≤ 128000 := by
    have product := mul_le_mul rate windowMs (by positivity) (by norm_num)
    linarith
  have lower : Carries (unsigned (frequency.minimumHz * 1000)) (frequency.minimumHz * 1000) :=
    carries_of_range (by linarith) (by linarith)
  have upper : Carries (unsigned (frequency.maximumHz * 1000)) (frequency.maximumHz * 1000) :=
    carries_of_range (by linarith) (by linarith)
  refine ⟨⟨?_, lower, upper, ?_⟩, carries_lt_iff (by linarith) lower upper⟩
  · exact carries_of_range (by positivity) (by linarith)
  · exact carries_of_range (by linarith) (by linarith)

theorem band_iff {pq : PowerQualityConfig} (interruption : 0 ≤ pq.interruptionPercent * 100)
    (sag : 0 ≤ pq.sagPercent * 100) (hysteresis : 0 ≤ pq.hysteresisPercent * 100)
    {fields : PowerQualityFields} (exact : PowerQualityExact pq fields) :
    (fields.interruptionThresholdE4 < fields.sagThresholdE4 ∧
        fields.sagThresholdE4 < fields.swellThresholdE4 ∧
          fields.hysteresisE4 < fields.sagThresholdE4) ↔
      Apart (pq.interruptionPercent * 100) (pq.sagPercent * 100) ∧
        Apart (pq.sagPercent * 100) (pq.swellPercent * 100) ∧
          Apart (pq.hysteresisPercent * 100) (pq.sagPercent * 100) := by
  rw [carries_lt_iff interruption exact.interruption exact.sag,
    carries_lt_iff sag exact.sag exact.swell, carries_lt_iff hysteresis exact.hysteresis exact.sag]

theorem power_quality_iff {pq : PowerQualityConfig} {fields : PowerQualityFields}
    (returned : preparePowerQuality pq = .ok fields) :
    PowerQualityExact pq fields ∧ BandOrdered pq fields ↔ PowerQualityFits pq := by
  obtain ⟨accepted, returned⟩ := refuse_bind returned
  obtain ⟨ordered, returned⟩ := refuse_bind returned
  cases returned
  simp only [not_or, not_lt] at accepted
  obtain ⟨reference, -, interruption, -, hysteresis⟩ := accepted
  have sag (armed : 0 < pq.referenceVolts) : 0 ≤ pq.sagPercent := by
    by_contra below
    exact ordered ⟨armed, Or.inl (by linarith)⟩
  have band (armed : 0 < pq.referenceVolts) {fields : PowerQualityFields}
      (exact : PowerQualityExact pq fields) :=
    band_iff (by linarith) (by linarith [sag armed]) (by linarith) exact
  constructor
  · rintro ⟨exact, inOrder⟩
    refine ⟨((carries_iff _).mp exact.reference).2, ?_, fun armed =>
      (band armed exact).mp (inOrder armed)⟩
    intro percent member
    simp only [List.mem_cons, List.not_mem_nil, or_false] at member
    rcases member with rfl | rfl | rfl | rfl
    · exact (carries_iff _).mp exact.sag
    · exact (carries_iff _).mp exact.swell
    · exact (carries_iff _).mp exact.interruption
    · exact (carries_iff _).mp exact.hysteresis
  · rintro ⟨small, percents, apart⟩
    have carried (percent : ℚ) (member : percent ∈ [pq.sagPercent, pq.swellPercent,
        pq.interruptionPercent, pq.hysteresisPercent]) :
        Carries (pqFraction percent) (percent * 100) :=
      (carries_iff _).mpr (percents percent member)
    have exact : PowerQualityExact pq {
        referenceMicrovolts := unsigned (pq.referenceVolts * 1000000)
        sagThresholdE4 := pqFraction pq.sagPercent
        swellThresholdE4 := pqFraction pq.swellPercent
        interruptionThresholdE4 := pqFraction pq.interruptionPercent
        hysteresisE4 := pqFraction pq.hysteresisPercent } :=
      { reference := (carries_iff _).mpr ⟨by linarith, small⟩
        sag := carried _ (by simp)
        swell := carried _ (by simp)
        interruption := carried _ (by simp)
        hysteresis := carried _ (by simp) }
    exact ⟨exact, fun armed => (band armed exact).mpr (apart armed)⟩

theorem modulation_exact {am : SimulatorAmplitudeModulationConfig} {fields : ModulationFields}
    (returned : prepareModulation am sampleRateHz = .ok fields) (enabled : am.enabled = true) :
    ModulationExact am fields := by
  obtain ⟨accepted, returned⟩ := refuse_bind returned
  obtain ⟨-, returned⟩ := refuse_bind returned
  obtain ⟨-, returned⟩ := refuse_bind returned
  rw [if_pos enabled] at returned
  obtain ⟨mask, -, returned⟩ := Loops.bind_ok returned
  cases returned
  simp only [not_or, not_lt, not_le] at accepted
  obtain ⟨positive, frequency, depth, full⟩ := accepted
  constructor
  · exact carries_of_range (by linarith) (by linarith)
  · exact carries_of_range (by rw [q16Scale]; linarith) (by rw [q16Scale]; linarith)

theorem validTone_range {frequency percent : ℚ} {description : String} {value : Unit}
    (supported : ¬supportedAdcSampleRate sampleRateHz = false)
    (passed : validTone sampleRateHz frequency percent description = .ok value) :
    0 < frequency ∧ frequency < 64000 ∧ 0 ≤ percent ∧ percent ≤ 999 / 10 := by
  have accepted := refuse_ok passed
  simp only [not_or, not_lt, not_le] at accepted
  obtain ⟨positive, below, nonneg, percent⟩ := accepted
  rw [nyquistHz] at below
  obtain ⟨-, rate⟩ := rate_rational supported
  exact ⟨positive, by linarith, nonneg, percent⟩

theorem tone_carried {frequency percent : ℚ}
    (range : 0 < frequency ∧ frequency < 64000 ∧ 0 ≤ percent ∧ percent ≤ 999 / 10) :
    Carries (unsigned (frequency * 1000)) (frequency * 1000) ∧
      Carries (unsigned (percent / 100 * q16Scale)) (percent / 100 * q16Scale) := by
  obtain ⟨positive, below, nonneg, high⟩ := range
  rw [q16Scale]
  exact ⟨carries_of_range (by linarith) (by linarith),
    carries_of_range (by linarith) (by linarith)⟩

theorem carrier_exact (supported : ¬supportedAdcSampleRate sampleRateHz = false)
    {carrier : SimulatorCarrierConfig} {fields : CarrierFields}
    (returned : prepareCarrier carrier sampleRateHz = .ok fields)
    (enabled : carrier.enabled = true) : CarrierExact carrier fields := by
  obtain ⟨-, returned⟩ := refuse_bind returned
  obtain ⟨-, returned⟩ := refuse_bind returned
  rw [if_pos enabled] at returned
  obtain ⟨_, tone, returned⟩ := Loops.bind_ok returned
  obtain ⟨frequency, fraction⟩ := tone_carried (validTone_range supported tone)
  by_cases adjacent : carrier.adjacentPercent = 0
  · rw [if_neg (not_not.mpr adjacent)] at returned
    cases returned
    exact ⟨frequency, fraction, phase_carried _, absurd adjacent, absurd adjacent,
      absurd adjacent⟩
  · rw [if_pos adjacent] at returned
    obtain ⟨_, second, returned⟩ := Loops.bind_ok returned
    obtain ⟨adjacentFrequency, adjacentFraction⟩ :=
      tone_carried (validTone_range supported second)
    cases returned
    exact ⟨frequency, fraction, phase_carried _, fun _ => adjacentFrequency,
      fun _ => adjacentFraction, fun _ => phase_carried _⟩

theorem harmonicChannelMask_small {channels : String} {mask : UInt32}
    (found : harmonicChannelMask channels = .ok mask) : mask.toNat < 2 ^ 16 := by
  unfold harmonicChannelMask at found
  split_ifs at found <;> cases found <;> decide

theorem packed {mask fraction : UInt32} (low : mask.toNat < 2 ^ 16)
    (high : fraction.toNat < 2 ^ 16) :
    (mask ||| (fraction <<< 16)).toNat = mask.toNat + 2 ^ 16 * fraction.toNat := by
  have shifted : (fraction <<< 16).toNat = fraction.toNat <<< 16 := by
    rw [UInt32.toNat_shiftLeft]
    have bound : fraction.toNat <<< 16 < 2 ^ 32 := by
      rw [Nat.shiftLeft_eq]
      omega
    exact Nat.mod_eq_of_lt bound
  rw [UInt32.toNat_or, shifted, Nat.or_comm, ← Nat.shiftLeft_add_eq_or_of_lt low, Nat.shiftLeft_eq]
  omega

theorem harmonic_exact {frequencyMillihz : UInt32} {harmonic : SimulatorHarmonicConfig}
    {fields : HarmonicFields}
    (returned : prepareHarmonic sampleRateHz frequencyMillihz harmonic = .ok fields) :
    HarmonicExact harmonic fields := by
  obtain ⟨order, returned⟩ := refuse_bind returned
  obtain ⟨percent, returned⟩ := refuse_bind returned
  obtain ⟨-, returned⟩ := refuse_bind returned
  obtain ⟨-, returned⟩ := refuse_bind returned
  obtain ⟨mask, found, returned⟩ := Loops.bind_ok returned
  cases returned
  simp only [not_or, not_lt, not_le] at order percent
  have fraction : Carries (unsigned (harmonic.percent / 100 * q16Scale))
      (harmonic.percent / 100 * q16Scale) := by
    rw [q16Scale]
    exact carries_of_range (by linarith [percent.1]) (by linarith [percent.2])
  have narrow : (unsigned (harmonic.percent / 100 * q16Scale)).toNat < 2 ^ 16 := by
    have below : awayFromZero (harmonic.percent / 100 * q16Scale) < 2 ^ 16 := by
      rw [awayFromZero_lt_iff (by norm_num), q16Scale]
      push_cast
      linarith [percent.2]
    rw [← fraction] at below
    exact_mod_cast below
  refine ⟨?_, ⟨mask, found, ?_⟩, phase_carried _⟩
  · rw [q16Scale]
    exact carries_of_range (by linarith [order.1]) (by linarith [order.2])
  · rw [packed (harmonicChannelMask_small found) narrow, ← fraction]
    push_cast
    rfl

end Stages

section Tables

def PreparedSimulator.entry (prepared : PreparedSimulator) (channel : UInt32) :
    Int32 × Int32 × UInt32 × UInt32 :=
  (prepared.fields.peakCounts channel.toNat, prepared.fields.dcOffsetCounts channel.toNat,
    prepared.fields.noiseLevelCounts channel.toNat, prepared.fields.phaseQ32 channel.toNat)

theorem entry_store_self (prepared : PreparedSimulator) (channel : SimulatorChannelConfig)
    (peak dcOffset : Int32) (noise : UInt32) :
    (prepared.store channel peak dcOffset noise).entry channel.channel =
      (peak, dcOffset, noise, phaseQ32 channel.phaseDegrees) := by
  simp [PreparedSimulator.entry, PreparedSimulator.store]

theorem entry_store_other (prepared : PreparedSimulator) (channel : SimulatorChannelConfig)
    (peak dcOffset : Int32) (noise other : UInt32) (differs : other ≠ channel.channel) :
    (prepared.store channel peak dcOffset noise).entry other = prepared.entry other := by
  have apart : other.toNat ≠ channel.channel.toNat := fun same =>
    differs (UInt32.toNat_inj.mp same)
  simp [PreparedSimulator.entry, PreparedSimulator.store, apart]

def SimulatedAs (scale : Nat → UInt32) (channel : SimulatorChannelConfig)
    (entry : Int32 × Int32 × UInt32 × UInt32) : Prop :=
  SimulatorChannelExact channel (scale channel.channel.toNat) entry.1 entry.2.1 entry.2.2.1
    entry.2.2.2

theorem simulator_fills (scale : Nat → UInt32) :
    Loops.Fills (prepareSimulatorChannel scale) SimulatorChannelConfig.channel
      PreparedSimulator.configured PreparedSimulator.entry (SimulatedAs scale) := by
  intro prepared channel after returned
  obtain ⟨accepted, returned⟩ := refuse_bind returned
  simp only [not_or] at accepted
  obtain ⟨-, fresh, -, -⟩ := accepted
  by_cases silent : scale channel.channel.toNat = 0
  · rw [if_pos silent] at returned
    cases returned
    refine ⟨fresh, rfl, fun other differs => entry_store_other _ _ _ _ _ _ differs, ?_⟩
    rw [entry_store_self]
    exact ⟨phase_carried _, fun _ => ⟨rfl, rfl, rfl⟩, absurd silent, absurd silent,
      absurd silent⟩
  · rw [if_neg silent] at returned
    obtain ⟨peak, returned⟩ := refuse_bind returned
    obtain ⟨dcOffset, returned⟩ := refuse_bind returned
    obtain ⟨noise, returned⟩ := refuse_bind returned
    cases returned
    simp only [not_or, not_lt] at peak dcOffset noise
    refine ⟨fresh, rfl, fun other differs => entry_store_other _ _ _ _ _ _ differs, ?_⟩
    rw [entry_store_self]
    refine ⟨phase_carried _, fun zero => absurd zero silent, fun _ => ?_, fun _ => ?_, fun _ => ?_⟩
    · exact signed_exact (by linarith [peak.1]) (by linarith [peak.2])
    · exact signed_exact (by linarith [dcOffset.1]) (by linarith [dcOffset.2])
    · exact carries_of_range noise.1 (by linarith [noise.2])

def PreparedChannels.scale (prepared : PreparedChannels) (channel : UInt32) : UInt32 :=
  prepared.fields.scaleMicroUnitsQ16 channel.toNat

theorem scale_configure (prepared : PreparedChannels) (channel gain other : UInt32) :
    (prepared.configure channel gain).scale other = prepared.scale other := rfl

theorem scale_enable_self (prepared : PreparedChannels) (channel scale logical : UInt32) :
    (prepared.enable channel scale logical).scale channel = scale := by
  simp [PreparedChannels.scale, PreparedChannels.enable]

theorem scale_enable_other (prepared : PreparedChannels) (channel scale logical other : UInt32)
    (differs : other ≠ channel) :
    (prepared.enable channel scale logical).scale other = prepared.scale other := by
  have apart : other.toNat ≠ channel.toNat := fun same => differs (UInt32.toNat_inj.mp same)
  simp [PreparedChannels.scale, PreparedChannels.enable, apart]

/-- An enabled channel has the rounded coefficient, which is not zero just when the exact one
reaches a half. -/
def ScaledAs (enabled : Bool) (coefficient : ℚ) (scale : UInt32) : Prop :=
  enabled = true → Carries scale coefficient ∧ (scale ≠ 0 ↔ 1 / 2 ≤ coefficient)

theorem checkedCoefficient_scaled {coefficient : ℚ} {measurement : String} {scale : UInt32}
    (returned : checkedCoefficient coefficient measurement = .ok scale) :
    Carries scale coefficient ∧ (scale ≠ 0 ↔ 1 / 2 ≤ coefficient) := by
  obtain ⟨accepted, returned⟩ := refuse_bind returned
  cases returned
  simp only [not_or, not_lt, not_le] at accepted
  have carried : Carries (unsigned coefficient) coefficient :=
    carries_of_range (by linarith [accepted.1]) (by linarith [accepted.2])
  exact ⟨carried, carries_ne_zero_iff carried⟩

theorem prepared_fills {prepared after : PreparedChannels} {channel gain logical : UInt32}
    {enabled : Bool} {coefficient : ℚ} {measurement : String}
    (returned : (if enabled = true then do
        let scale ← checkedCoefficient coefficient measurement
        return (prepared.configure channel gain).enable channel scale logical
      else return prepared.configure channel gain : Except String PreparedChannels) = .ok after) :
    after.configured = channel :: prepared.configured ∧
      (∀ other, other ≠ channel → after.scale other = prepared.scale other) ∧
        ScaledAs enabled coefficient (after.scale channel) := by
  cases enabled with
  | true =>
      rw [if_pos rfl] at returned
      obtain ⟨scale, checked, returned⟩ := Loops.bind_ok returned
      cases returned
      refine ⟨rfl, fun other differs => ?_, fun _ => ?_⟩
      · rw [scale_enable_other _ _ _ _ _ differs, scale_configure]
      · rw [scale_enable_self]
        exact checkedCoefficient_scaled checked
  | false =>
      rw [if_neg (by decide)] at returned
      cases returned
      exact ⟨rfl, fun other _ => rfl, fun absent => by cases absent⟩

variable (referenceVolts : ℚ)

theorem currents_fill (phaseMap : UInt32) :
    Loops.Fills (prepareCurrentChannel referenceVolts phaseMap) CurrentChannelConfig.channel
      PreparedChannels.configured PreparedChannels.scale
      (fun channel => ScaledAs channel.enabled (currentCoefficient referenceVolts channel)) := by
  intro prepared channel after returned
  obtain ⟨accepted, returned⟩ := refuse_bind returned
  obtain ⟨_, -, returned⟩ := Loops.bind_ok returned
  simp only [not_or] at accepted
  exact ⟨accepted.2.1, prepared_fills returned⟩

theorem voltages_fill :
    Loops.Fills (prepareVoltageChannel referenceVolts) VoltageChannelConfig.channel
      PreparedChannels.configured PreparedChannels.scale
      (fun channel => ScaledAs channel.enabled (voltageCoefficient referenceVolts channel)) := by
  intro prepared channel after returned
  obtain ⟨accepted, returned⟩ := refuse_bind returned
  simp only [not_or] at accepted
  exact ⟨accepted.2.2.1, prepared_fills returned⟩

end Tables

structure ChannelsExact (referenceVolts : ℚ) (currents : List (CurrentChannelConfig ℚ))
    (voltages : List (VoltageChannelConfig ℚ)) (fields : ChannelFields) : Prop where
  currents : ∀ channel ∈ currents, channel.enabled = true →
    Carries (fields.scaleMicroUnitsQ16 channel.channel.toNat)
      (currentCoefficient referenceVolts channel)
  voltages : ∀ channel ∈ voltages, channel.enabled = true →
    Carries (fields.scaleMicroUnitsQ16 channel.channel.toNat)
      (voltageCoefficient referenceVolts channel)

/-- Every enabled channel has a coefficient that is not zero. -/
structure ChannelsScaled (currents : List (CurrentChannelConfig ℚ))
    (voltages : List (VoltageChannelConfig ℚ)) (fields : ChannelFields) : Prop where
  currents : ∀ channel ∈ currents, channel.enabled = true →
    fields.scaleMicroUnitsQ16 channel.channel.toNat ≠ 0
  voltages : ∀ channel ∈ voltages, channel.enabled = true →
    fields.scaleMicroUnitsQ16 channel.channel.toNat ≠ 0

/-- The exact coefficient of every enabled channel reaches a half. -/
structure CoefficientsFit (referenceVolts : ℚ) (currents : List (CurrentChannelConfig ℚ))
    (voltages : List (VoltageChannelConfig ℚ)) : Prop where
  currents : ∀ channel ∈ currents, channel.enabled = true →
    1 / 2 ≤ currentCoefficient referenceVolts channel
  voltages : ∀ channel ∈ voltages, channel.enabled = true →
    1 / 2 ≤ voltageCoefficient referenceVolts channel

theorem channels_exact {referenceVolts : ℚ} {phaseMap : UInt32}
    {currents : List (CurrentChannelConfig ℚ)} {voltages : List (VoltageChannelConfig ℚ)}
    {fields : ChannelFields}
    (returned : prepareChannels referenceVolts phaseMap currents voltages = .ok fields) :
    ChannelsExact referenceVolts currents voltages fields ∧
      (ChannelsScaled currents voltages fields ↔
        CoefficientsFit referenceVolts currents voltages) := by
  obtain ⟨withCurrents, first, returned⟩ := Loops.bind_ok returned
  obtain ⟨prepared, second, returned⟩ := Loops.bind_ok returned
  obtain ⟨-, returned⟩ := refuse_bind returned
  obtain ⟨-, returned⟩ := refuse_bind returned
  cases returned
  obtain ⟨-, filled⟩ := Loops.fill_ok (currents_fill referenceVolts phaseMap) first
  obtain ⟨kept, others⟩ := Loops.fill_ok (voltages_fill referenceVolts) second
  have current (channel : CurrentChannelConfig ℚ) (member : channel ∈ currents)
      (enabled : channel.enabled = true) :
      Carries (prepared.scale channel.channel) (currentCoefficient referenceVolts channel) ∧
        (prepared.scale channel.channel ≠ 0 ↔
          1 / 2 ≤ currentCoefficient referenceVolts channel) := by
    obtain ⟨inside, scaled⟩ := filled channel member
    rw [(kept channel.channel inside).2]
    exact scaled enabled
  have voltage (channel : VoltageChannelConfig ℚ) (member : channel ∈ voltages)
      (enabled : channel.enabled = true) := (others channel member).2 enabled
  refine ⟨⟨fun channel member enabled => (current channel member enabled).1,
    fun channel member enabled => (voltage channel member enabled).1⟩, ?_, ?_⟩
  · rintro ⟨scaledCurrents, scaledVoltages⟩
    exact ⟨fun channel member enabled =>
        (current channel member enabled).2.mp (scaledCurrents channel member enabled),
      fun channel member enabled =>
        (voltage channel member enabled).2.mp (scaledVoltages channel member enabled)⟩
  · rintro ⟨largeCurrents, largeVoltages⟩
    exact ⟨fun channel member enabled =>
        (current channel member enabled).2.mpr (largeCurrents channel member enabled),
      fun channel member enabled =>
        (voltage channel member enabled).2.mpr (largeVoltages channel member enabled)⟩

theorem forM_ok {Item : Type} {body : Item → Except String Unit} {items : List Item}
    {value : PUnit} (returned : items.forM body = .ok value) {item : Item}
    (member : item ∈ items) : body item = .ok () := by
  induction items with
  | nil => cases member
  | cons head items ih =>
      obtain ⟨⟨⟩, first, rest⟩ := Loops.bind_ok returned
      rcases List.mem_cons.mp member with rfl | inside
      · exact first
      · exact ih rest inside

variable {Others : Type}

structure ProfileRange (profile : EventProfileSettings) : Prop where
  threshold : profile.thresholdPercent ≤ 65535 / 100
  hysteresis : 0 ≤ profile.hysteresisPercent
  ordered : profile.hysteresisPercent < profile.thresholdPercent

structure MainsRange (mains : MainsSignallingSettings) : Prop where
  bandwidth : 0 ≤ mains.bandwidthHz
  below : mains.bandwidthHz < mains.carrierFrequencyHz
  carrier : mains.carrierFrequencyHz < 12500
  positive : 0 ≤ mains.thresholdPercent
  threshold : mains.thresholdPercent ≤ 65535 / 100

/-- What `MeteringSettings::validate` says about the numbers of the policies. -/
structure PolicyRange (policies : Policies Others) : Prop where
  positive : 0 ≤ policies.events.referenceCurrentAmperes
  current : policies.events.referenceCurrentAmperes ≤ 4294967295 / 1000000
  profiles : ∀ type, ProfileRange (policies.events.profile type)
  mains : MainsRange policies.mainsSignalling

theorem profile_range {profile : EventProfileSettings} {name : String}
    (accepted : profile.validate name = .ok ()) : ProfileRange profile := by
  obtain ⟨range, -⟩ := refuse_bind accepted
  simp only [not_or, not_lt, not_le] at range
  obtain ⟨-, threshold, hysteresis, -, ordered, -⟩ := range
  exact ⟨threshold, hysteresis, ordered⟩

theorem mains_range {mains : MainsSignallingSettings} {sampleRateHz : UInt32} {value : Unit}
    (accepted : mains.validate sampleRateHz = .ok value) : MainsRange mains := by
  obtain ⟨range, -⟩ := refuse_bind accepted
  simp only [not_or, not_lt, not_le] at range
  obtain ⟨-, carrier, bandwidth, below, -, -, positive, threshold, -⟩ := range
  exact ⟨by linarith, below, carrier, positive, threshold⟩

theorem metering_range {settings : ProductSettings Others} {value : Unit}
    (accepted : validateMetering settings = .ok value) :
    ¬supportedAdcSampleRate settings.sampleRateHz = false ∧ PolicyRange settings.rest := by
  obtain ⟨supported, accepted⟩ := refuse_bind accepted
  obtain ⟨-, accepted⟩ := refuse_bind accepted
  obtain ⟨-, accepted⟩ := refuse_bind accepted
  obtain ⟨-, accepted⟩ := refuse_bind accepted
  obtain ⟨-, accepted⟩ := refuse_bind accepted
  obtain ⟨_, events, accepted⟩ := Loops.bind_ok accepted
  obtain ⟨_, -, accepted⟩ := Loops.bind_ok accepted
  obtain ⟨_, mains, -⟩ := Loops.bind_ok accepted
  obtain ⟨current, events⟩ := refuse_bind events
  obtain ⟨_, profiles, -⟩ := Loops.bind_ok events
  simp only [not_or, not_lt] at current
  refine ⟨supported, current.1, current.2, fun type => ?_, mains_range mains⟩
  exact profile_range (forM_ok profiles type.mem_all)

structure M18Exact (settings : ProductSettings Others) (m18 : M18ConfigPayload) : Prop where
  referenceCurrent : Carries m18.referenceCurrentMicroamperes
    (settings.rest.events.referenceCurrentAmperes * 1000000)
  referenceVoltage : Carries m18.referenceVoltageMicrovolts
    (settings.analog.powerQuality.referenceVolts * 1000000)
  threshold : ∀ type, Carries (m18.event type).thresholdE4
    ((settings.rest.events.profile type).thresholdPercent * 100)
  hysteresis : ∀ type, Carries (m18.event type).hysteresisE4
    ((settings.rest.events.profile type).hysteresisPercent * 100)
  carrier : Carries m18.mainsCarrierMillihz
    (settings.rest.mainsSignalling.carrierFrequencyHz * 1000)
  bandwidth : Carries m18.mainsBandwidthMillihz
    (settings.rest.mainsSignalling.bandwidthHz * 1000)
  mainsThreshold : Carries m18.mainsThresholdE4
    (settings.rest.mainsSignalling.thresholdPercent * 100)

/-- What `decode_pq_event_lifecycle_record` demands of the profile of every type. -/
def ProfilesDecodable (m18 : M18ConfigPayload) : Prop :=
  ∀ type, 0 < (m18.event type).thresholdE4 ∧ (m18.event type).thresholdE4 ≤ 0xffff ∧
    (m18.event type).hysteresisE4 < (m18.event type).thresholdE4

def ProfilesApart (events : PowerQualityEventSettings) : Prop :=
  ∀ type, Apart ((events.profile type).hysteresisPercent * 100)
    ((events.profile type).thresholdPercent * 100)

/-- Every fixed-point field of the payload is the rounded number of the settings. -/
structure MeterExact (settings : ProductSettings Others) (wire : MeterConfigPayload) : Prop where
  channels : ChannelsExact settings.analog.adcReferenceVolts settings.currentChannels
    settings.voltageChannels wire.channels
  frequency : FrequencyExact settings.analog.frequency settings.sampleRateHz wire.frequency
  powerQuality : PowerQualityExact settings.analog.powerQuality wire.powerQuality
  simulatorFrequency : Carries wire.simulatorFrequencyMillihz
    (settings.analog.simulator.frequencyHz * 1000)
  phaseStep : Carries wire.simulatorPhaseStepQ32
    (settings.analog.simulator.frequencyHz * q32Scale / (settings.sampleRateHz.toNat : ℚ))
  simulated : ∀ channel ∈ settings.analog.simulator.channels,
    SimulatorChannelExact channel (wire.channels.scaleMicroUnitsQ16 channel.channel.toNat)
      (wire.simulatorChannels.peakCounts channel.channel.toNat)
      (wire.simulatorChannels.dcOffsetCounts channel.channel.toNat)
      (wire.simulatorChannels.noiseLevelCounts channel.channel.toNat)
      (wire.simulatorChannels.phaseQ32 channel.channel.toNat)
  harmonics : List.Forall₂ HarmonicExact settings.analog.simulator.harmonics
    wire.simulatorHarmonics
  modulation : settings.analog.simulator.amplitudeModulation.enabled = true →
    ModulationExact settings.analog.simulator.amplitudeModulation wire.modulation
  carrier : settings.analog.simulator.carrier.enabled = true →
    CarrierExact settings.analog.simulator.carrier wire.carrier

/-- The wire configuration says what the settings say. -/
structure AsConfigured (settings : ProductSettings Others) (wire : MeterConfigPayload)
    (m18 : M18ConfigPayload) : Prop where
  meter : MeterExact settings wire
  policies : M18Exact settings m18
  scaled : ChannelsScaled settings.currentChannels settings.voltageChannels wire.channels
  frequencyOrder : wire.frequency.minimumMillihz < wire.frequency.maximumMillihz
  bandOrder : BandOrdered settings.analog.powerQuality wire.powerQuality
  profiles : ProfilesDecodable m18

/-- The numbers fit the fields they are rounded to. -/
structure Representable (settings : ProductSettings Others) : Prop where
  powerQuality : PowerQualityFits settings.analog.powerQuality
  frequencies : Apart (settings.analog.frequency.minimumHz * 1000)
    (settings.analog.frequency.maximumHz * 1000)
  coefficients : CoefficientsFit settings.analog.adcReferenceVolts settings.currentChannels
    settings.voltageChannels
  profiles : ProfilesApart settings.rest.events

theorem meter_iff {settings : ProductSettings Others} {wire : MeterConfigPayload}
    (prepared : prepareMeterConfiguration (toMeterConfiguration settings) settings.sampleRateHz =
      .ok wire) :
    0 ≤ settings.analog.powerQuality.referenceVolts ∧
      ((MeterExact settings wire ∧
          ChannelsScaled settings.currentChannels settings.voltageChannels wire.channels ∧
            wire.frequency.minimumMillihz < wire.frequency.maximumMillihz ∧
              BandOrdered settings.analog.powerQuality wire.powerQuality) ↔
        PowerQualityFits settings.analog.powerQuality ∧
          Apart (settings.analog.frequency.minimumHz * 1000)
            (settings.analog.frequency.maximumHz * 1000) ∧
              CoefficientsFit settings.analog.adcReferenceVolts settings.currentChannels
                settings.voltageChannels) := by
  obtain ⟨_, -, prepared⟩ := Loops.bind_ok prepared
  obtain ⟨-, prepared⟩ := refuse_bind prepared
  obtain ⟨values, prepared⟩ := refuse_bind prepared
  obtain ⟨-, prepared⟩ := refuse_bind prepared
  obtain ⟨_, -, prepared⟩ := Loops.bind_ok prepared
  obtain ⟨phaseMap, -, prepared⟩ := Loops.bind_ok prepared
  obtain ⟨_, -, prepared⟩ := Loops.bind_ok prepared
  obtain ⟨channels, channelStage, prepared⟩ := Loops.bind_ok prepared
  obtain ⟨frequency, frequencyStage, prepared⟩ := Loops.bind_ok prepared
  obtain ⟨powerQuality, powerQualityStage, prepared⟩ := Loops.bind_ok prepared
  obtain ⟨range, prepared⟩ := refuse_bind prepared
  obtain ⟨-, prepared⟩ := refuse_bind prepared
  obtain ⟨simulated, simulatorStage, prepared⟩ := Loops.bind_ok prepared
  obtain ⟨-, prepared⟩ := refuse_bind prepared
  obtain ⟨-, prepared⟩ := refuse_bind prepared
  obtain ⟨-, prepared⟩ := refuse_bind prepared
  obtain ⟨harmonics, harmonicStage, prepared⟩ := Loops.bind_ok prepared
  obtain ⟨modulation, modulationStage, prepared⟩ := Loops.bind_ok prepared
  obtain ⟨carrier, carrierStage, prepared⟩ := Loops.bind_ok prepared
  cases prepared
  have supported : ¬supportedAdcSampleRate settings.sampleRateHz = false :=
    fun unknown => values (Or.inl unknown)
  obtain ⟨low, rate⟩ := rate_rational supported
  simp only [not_or, not_le, nyquistHz] at range
  have positive : 0 < settings.analog.simulator.frequencyHz := range.1
  have below : settings.analog.simulator.frequencyHz < (settings.sampleRateHz.toNat : ℚ) / 2 :=
    range.2
  have step : settings.analog.simulator.frequencyHz * q32Scale /
      (settings.sampleRateHz.toNat : ℚ) ≤ 2 ^ 32 - 1 := by
    rw [div_le_iff₀ (by linarith), q32Scale]
    linarith
  obtain ⟨channelsExact, scaled⟩ := channels_exact channelStage
  obtain ⟨frequencyExact, ordered⟩ := frequency_exact supported frequencyStage
  have detection := power_quality_iff powerQualityStage
  obtain ⟨-, entries⟩ := Loops.fill_ok (simulator_fills _) simulatorStage
  refine ⟨?_, ?_, ?_⟩
  · have accepted := (refuse_bind powerQualityStage).1
    simp only [not_or, not_lt] at accepted
    exact accepted.1
  · rintro ⟨exact, nonzero, inOrder, band⟩
    exact ⟨detection.mp ⟨exact.powerQuality, band⟩, ordered.mp inOrder, scaled.mp nonzero⟩
  · rintro ⟨fits, apart, large⟩
    obtain ⟨powerQualityExact, band⟩ := detection.mpr fits
    refine ⟨?_, scaled.mpr large, ordered.mpr apart, band⟩
    exact {
      channels := channelsExact
      frequency := frequencyExact
      powerQuality := powerQualityExact
      simulatorFrequency := carries_of_range (by linarith) (by linarith)
      phaseStep := carries_of_range (by rw [q32Scale]; positivity) step
      simulated := fun channel member => (entries channel member).2
      harmonics := (Loops.mapM_ok harmonicStage).imp fun _ _ => harmonic_exact
      modulation := modulation_exact modulationStage
      carrier := carrier_exact supported carrierStage }

theorem policies_iff {settings : ProductSettings Others} (range : PolicyRange settings.rest)
    {validateOthers : ProductSettings Others → Except String Unit} {generation : UInt32}
    {m18 : M18ConfigPayload}
    (returned : toM18Configuration validateOthers settings generation = .ok m18) :
    M18Exact settings m18 ∧ ProfilesDecodable m18 ↔
      settings.analog.powerQuality.referenceVolts * 1000000 < 2 ^ 32 - 1 / 2 ∧
        -(1 / 2) < settings.analog.powerQuality.referenceVolts * 1000000 ∧
          ProfilesApart settings.rest.events := by
  obtain ⟨_, -, returned⟩ := Loops.bind_ok returned
  obtain ⟨-, returned⟩ := refuse_bind returned
  cases returned
  obtain ⟨positive, current, profiles, mains⟩ := range
  obtain ⟨bandwidth, ordered, carrier, threshold, mainsThreshold⟩ := mains
  have thresholds (type : EventType) :
      Carries (unsigned ((settings.rest.events.profile type).thresholdPercent * 100))
        ((settings.rest.events.profile type).thresholdPercent * 100) := by
    obtain ⟨high, low, above⟩ := profiles type
    exact carries_of_range (by linarith) (by linarith)
  have hystereses (type : EventType) :
      Carries (unsigned ((settings.rest.events.profile type).hysteresisPercent * 100))
        ((settings.rest.events.profile type).hysteresisPercent * 100) := by
    obtain ⟨high, low, above⟩ := profiles type
    exact carries_of_range (by linarith) (by linarith)
  have narrow (type : EventType) :
      unsigned ((settings.rest.events.profile type).thresholdPercent * 100) ≤ 0xffff := by
    have bound : awayFromZero ((settings.rest.events.profile type).thresholdPercent * 100) ≤
        0xffff := awayFromZero_le (by push_cast; linarith [(profiles type).threshold])
    rw [← thresholds type] at bound
    exact UInt32.le_iff_toNat_le.mpr (by exact_mod_cast bound)
  have apart (type : EventType) := carries_lt_iff
    (by linarith [(profiles type).hysteresis]) (hystereses type) (thresholds type)
  constructor
  · rintro ⟨exact, decodable⟩
    obtain ⟨low, high⟩ := (carries_iff _).mp exact.referenceVoltage
    exact ⟨high, low, fun type => (apart type).mp (decodable type).2.2⟩
  · rintro ⟨high, low, separate⟩
    refine ⟨?_, fun type => ⟨?_, narrow type, (apart type).mpr (separate type)⟩⟩
    · exact {
        referenceCurrent := carries_of_range (by linarith) (by linarith)
        referenceVoltage := (carries_iff _).mpr ⟨low, high⟩
        threshold := thresholds
        hysteresis := hystereses
        carrier := carries_of_range (by linarith) (by linarith)
        bandwidth := carries_of_range (by linarith) (by linarith)
        mainsThreshold := carries_of_range (by linarith) (by linarith) }
    · exact Nat.zero_lt_of_lt (UInt32.lt_iff_toNat_lt.mp ((apart type).mpr (separate type)))

/-- For settings that are accepted both payloads are made, and they say what the settings say
just when the numbers fit; and no lifecycle record is decoded whose thresholds are out of order. -/
theorem wire_configuration_iff {Others : Type}
    (validateOthers : ProductSettings Others → Except String Unit)
    (settings : ProductSettings Others) (accepted : validate validateOthers settings = .ok ())
    (generation : UInt32) (nonzero : generation ≠ 0) :
    (∃ wire m18,
      prepareMeterConfiguration (toMeterConfiguration settings) settings.sampleRateHz = .ok wire ∧
        toM18Configuration validateOthers settings generation = .ok m18 ∧
          (AsConfigured settings wire m18 ↔ Representable settings)) ∧
      ∀ record snapshot, Meter.decodePqEventLifecycleRecord record = .ok snapshot →
        0 < snapshot.thresholdE4 ∧ snapshot.thresholdE4 ≤ 0xffff ∧
          snapshot.hysteresisE4 < snapshot.thresholdE4 := by
  refine ⟨?_, fun record snapshot decoded => (Meter.decoded_thresholds decoded).2⟩
  obtain ⟨_, metering, prepared⟩ := Loops.bind_ok accepted
  obtain ⟨_, -, prepared⟩ := Loops.bind_ok prepared
  obtain ⟨wire, prepared, -⟩ := Loops.bind_ok prepared
  obtain ⟨m18, returned⟩ : ∃ m18, toM18Configuration validateOthers settings generation =
      .ok m18 := by
    simp only [toM18Configuration, accepted, refuse, if_neg nonzero]
    exact ⟨_, rfl⟩
  refine ⟨wire, m18, prepared, returned, ?_⟩
  obtain ⟨positive, meter⟩ := meter_iff prepared
  have policies := policies_iff (metering_range metering).2 returned
  constructor
  · rintro ⟨exact, m18Exact, scaled, ordered, band, profiles⟩
    obtain ⟨fits, apart, large⟩ := meter.mp ⟨exact, scaled, ordered, band⟩
    exact ⟨fits, apart, large, (policies.mp ⟨m18Exact, profiles⟩).2.2⟩
  · rintro ⟨fits, apart, large, separate⟩
    obtain ⟨exact, scaled, ordered, band⟩ := meter.mpr ⟨fits, apart, large⟩
    obtain ⟨m18Exact, profiles⟩ := policies.mpr ⟨fits.reference, by linarith, separate⟩
    exact ⟨exact, m18Exact, scaled, ordered, band, profiles⟩

def eventProfile (enabled : Bool) (threshold hysteresis : ℚ) (policy : String) :
    EventProfileSettings :=
  ⟨enabled, threshold, hysteresis, 7, policy, ⟨enabled, 3000, 3000, 8⟩⟩

def currentTransformer (channel : UInt32) (name : String) : CurrentChannelConfig ℚ :=
  ⟨channel, name, true, 2, "internal_ct", 5, 25 / 10000, 95, 0, 1⟩

def voltageDivider (channel : UInt32) (name : String) : VoltageChannelConfig ℚ :=
  ⟨channel, name, true, 1, 6000000, 4640⟩

def factorySettings (referenceVolts : ℚ) : ProductSettings Unit where
  sampleRateHz := 128000
  nominalFrequencyHz := 60
  measurementTopology := "wye"
  systemNominalVoltageV := 120
  demand := ⟨"sliding", 60⟩
  currentWiring := ⟨"ABC", ⟨"A", "normal"⟩, ⟨"B", "normal"⟩, ⟨"C", "normal"⟩, ⟨"N", "normal"⟩⟩
  profileId := "msap1-sensor-board-5a"
  currentChannels := [currentTransformer 0 "ILA", currentTransformer 1 "ILB",
    currentTransformer 2 "ILC", currentTransformer 3 "ILN"]
  voltageChannels := [voltageDivider 4 "VLC", voltageDivider 5 "VLB", voltageDivider 6 "VLA"]
  adcSource := "physical"
  analog := {
    adcReferenceVolts := 1
    rmsWindowMs := 200
    removeDc := true
    frequency := ⟨true, 6, "rolling_cycles", 10, 1000, 40, 70, 1⟩
    powerQuality := ⟨referenceVolts, 90, 110, 10, 2⟩
    simulator := {
      frequencyHz := 60
      preservePhase := false
      channels := [⟨0, 5, 0, 0, 0⟩, ⟨1, 5, -120, 0, 0⟩, ⟨2, 5, 120, 0, 0⟩, ⟨3, 0, 0, 0, 0⟩,
        ⟨4, 120, 120, 0, 0⟩, ⟨5, 120, -120, 0, 0⟩, ⟨6, 120, 0, 0, 0⟩]
      harmonics := []
      amplitudeModulation := ⟨false, 88 / 10, 0, "voltage"⟩
      carrier := ⟨false, 1000, 0, 7, 0, 1020, 0, 0⟩ } }
  waveform := ⟨8, "", "", "", "", "", "", "", "", "unknown"⟩
  rest := {
    events := {
      referenceCurrentAmperes := 0
      profile := fun
        | .voltageSag => eventProfile true 90 2 "per_phase"
        | .voltageSwell => eventProfile true 110 2 "per_phase"
        | .voltageInterruption => eventProfile true 10 2 "per_phase"
        | .rapidVoltageChange => eventProfile true 3 (1 / 2) "per_phase"
        | .voltageUnbalance => eventProfile false 2 (1 / 5) "polyphase"
        | .currentSag => eventProfile false 90 2 "per_phase"
        | .currentSwell => eventProfile false 110 2 "per_phase"
        | .currentUnbalance => eventProfile false 10 1 "polyphase"
        | .transientVoltage => eventProfile false 150 5 "per_phase" }
    flicker := ⟨true, 7, 120, 1000, 600, 12⟩
    mainsSignalling := ⟨false, 1000, 20, 200, 7, 0⟩
    others := () }

theorem wire_configuration_iff_factory :
    (∃ wire m18,
      prepareMeterConfiguration (toMeterConfiguration (factorySettings 120)) 128000 = .ok wire ∧
        toM18Configuration (fun _ => .ok ()) (factorySettings 120) 1 = .ok m18 ∧
          (AsConfigured (factorySettings 120) wire m18 ↔ Representable (factorySettings 120))) ∧
      ∀ record snapshot, Meter.decodePqEventLifecycleRecord record = .ok snapshot →
        0 < snapshot.thresholdE4 ∧ snapshot.thresholdE4 ≤ 0xffff ∧
          snapshot.hysteresisE4 < snapshot.thresholdE4 :=
  wire_configuration_iff (fun _ => .ok ()) (factorySettings 120) (by decide +kernel) 1 (by decide)

/-- A reference of 5 kV is accepted and goes out as 705.032704 V in both payloads. -/
theorem reference_wraps :
    validate (fun _ => .ok ()) (factorySettings 5000) = .ok () ∧
      (prepareMeterConfiguration (toMeterConfiguration (factorySettings 5000)) 128000).toOption.map
        (fun wire => wire.powerQuality.referenceMicrovolts) = some 705032704 ∧
      (toM18Configuration (fun _ => .ok ()) (factorySettings 5000) 1).toOption.map
        (fun m18 => m18.referenceVoltageMicrovolts) = some 705032704 ∧
      ¬Carries 705032704 (5000 * 1000000) := by
  decide +kernel

end Msap1.Settings
