import Msap1.Meter.Updates

/-! `decode_pq_event_lifecycle_record`: the PQ-EVENT-v1 record of an event of the R5 core. -/

namespace Msap1.Meter

/-- The type is its wire number and the time quality its byte. -/
structure PowerQualityEventLifecycleSnapshot where
  idSession : UInt64
  idCounter : UInt64
  lifecycle : UInt8
  type : UInt8
  phaseMask : UInt8
  triggerSource : UInt8
  sequence : UInt32
  configurationGeneration : UInt32
  profileGeneration : UInt32
  sampleRateHz : UInt32
  firstSample : UInt64
  lastSample : UInt64
  triggerSample : UInt64
  durationSamples : UInt64
  validMask : UInt32
  status : UInt32
  thresholdE4 : UInt32
  hysteresisE4 : UInt32
  referenceMicroUnits : UInt32
  minimumMicroUnits : Fin 3 → UInt32
  maximumMicroUnits : Fin 3 → UInt32
  currentMicroUnits : Fin 3 → UInt32
  waveformEnabled : Bool
  perPhase : Bool
  iecClassification : Bool
  waveformPretriggerMs : UInt32
  waveformPosttriggerMs : UInt32
  waveformDecimation : UInt32
  startUtcNanoseconds : UInt64
  lastUtcNanoseconds : UInt64
  timeQuality : UInt8
  discontinuities : UInt32
  updateCount : UInt32
  settingsDigest : Fin 4 → UInt32

namespace PowerQualityEventLifecycleSnapshot

def voltageEvent (snapshot : PowerQualityEventLifecycleSnapshot) : Bool :=
  snapshot.type ≤ 4 || snapshot.type == 8

end PowerQualityEventLifecycleSnapshot

section Lifecycle

variable (record : MeterRecord)

/-- A word of an array that starts at a word of the record. -/
def MeterRecord.wordOf {length : Nat} (base : Fin 64) (index : Fin length) : UInt32 :=
  record.word (base + Fin.ofNat 64 index.val)

def lifecycleSnapshot : PowerQualityEventLifecycleSnapshot :=
  let identity := record.word 13
  let waveform := record.word 23
  { idSession := record.unsigned64 16
    idCounter := record.unsigned64 18
    lifecycle := (identity &&& 0x3).toUInt8
    type := (identity >>> 4 &&& 0x0f).toUInt8
    phaseMask := (identity >>> 8 &&& 0x7).toUInt8
    triggerSource := (identity >>> 16 &&& 0x3).toUInt8
    sequence := record.sequence
    configurationGeneration := record.configurationGeneration
    profileGeneration := record.word 20
    sampleRateHz := record.sampleRateHz
    firstSample := record.firstSampleIndex
    lastSample := record.unsigned64 14
    triggerSample := record.unsigned64 39
    durationSamples := record.unsigned64 37
    validMask := record.word 7
    status := record.status
    thresholdE4 := record.word 21
    hysteresisE4 := record.word 22
    referenceMicroUnits := record.word 26
    minimumMicroUnits := record.wordOf 28
    maximumMicroUnits := record.wordOf 31
    currentMicroUnits := record.wordOf 34
    waveformEnabled := waveform &&& 0x1 != 0
    perPhase := waveform &&& 0x2 != 0
    iecClassification := waveform &&& 0x4 != 0
    waveformPretriggerMs := record.word 24
    waveformPosttriggerMs := record.word 25
    waveformDecimation := waveform >>> 8
    startUtcNanoseconds := record.unsigned64 41
    lastUtcNanoseconds := record.unsigned64 43
    timeQuality := (record.word 45).toUInt8
    discontinuities := record.word 46
    updateCount := record.word 47
    settingsDigest := record.wordOf 48 }

def checkLifecycleIdentity : Except Failure Unit := do
  reject (¬record.headerValid ∨ record.recordFormat ≠ some .pqEventLifecycle)
    "invalid PQ-EVENT-v1 record header"
  reject (record.sequence = 0 ∨ record.configurationGeneration = 0 ∨ record.sampleRateHz = 0 ∨
      record.emitDrops ≠ 0)
    "invalid PQ-EVENT-v1 common provenance"
  reject (record.status &&& ~~~0x0f ≠ 0 ∨ record.status &&& 0x0a ≠ 0x0a)
    "invalid PQ-EVENT-v1 status"
  let identity := record.word 13
  reject (identity &&& ~~~0x000307f3 ≠ 0) "PQ-EVENT-v1 identity has reserved bits"
  let snapshot := lifecycleSnapshot record
  reject (3 < snapshot.lifecycle ∨ 8 < snapshot.type ∨ snapshot.phaseMask = 0 ∨
      2 < snapshot.triggerSource)
    "PQ-EVENT-v1 identity is out of range"

def checkLifecycleProvenance : Except Failure Unit :=
  let snapshot := lifecycleSnapshot record
  reject (snapshot.idSession = 0 ∨ snapshot.idCounter = 0 ∨
      snapshot.profileGeneration ≠ snapshot.configurationGeneration ∨
      snapshot.lastSample < snapshot.firstSample ∨
      snapshot.triggerSample < snapshot.firstSample ∨
      snapshot.lastSample < snapshot.triggerSample ∨
      snapshot.durationSamples ≠ snapshot.lastSample - snapshot.firstSample ∨
      snapshot.updateCount = 0 ∨ snapshot.referenceMicroUnits = 0 ∨ snapshot.thresholdE4 = 0 ∨
      0xffff < snapshot.thresholdE4 ∨ snapshot.thresholdE4 ≤ snapshot.hysteresisE4 ∨
      120000 < snapshot.waveformPretriggerMs ∨ 120000 < snapshot.waveformPosttriggerMs ∨
      snapshot.waveformDecimation ∉ ([1, 2, 4, 8, 16, 32] : List UInt32))
    "PQ-EVENT-v1 provenance is inconsistent"

/-- The samples of an inclusive range, as far as a word counts them. -/
def coveredSamples (durationSamples : UInt64) : UInt32 :=
  let covered := if durationSamples = 0xffffffffffffffff then durationSamples
    else durationSamples + 1
  (if covered ≤ 0xffffffff then covered else 0xffffffff).toUInt32

def checkLifecycleContent : Except Failure Unit := do
  let snapshot := lifecycleSnapshot record
  reject (record.word 23 &&& ~~~0x00003f07 ≠ 0) "PQ-EVENT-v1 waveform policy has reserved bits"
  reject (snapshot.iecClassification ≠ (snapshot.type ≤ 3 || snapshot.type == 8))
    "PQ-EVENT-v1 taxonomy is inconsistent"
  reject (snapshot.validMask ≠ (if snapshot.voltageEvent then snapshot.phaseMask.toUInt32 <<< 4
      else snapshot.phaseMask.toUInt32))
    "PQ-EVENT-v1 phase validity is inconsistent"
  reject (record.blockSampleCount ≠ coveredSamples snapshot.durationSamples ∨
      snapshot.discontinuities ≠ record.resultDrops)
    "PQ-EVENT-v1 span is inconsistent"
  reject (∃ phase, snapshot.maximumMicroUnits phase < snapshot.minimumMicroUnits phase ∨
      snapshot.currentMicroUnits phase < snapshot.minimumMicroUnits phase ∨
      snapshot.maximumMicroUnits phase < snapshot.currentMicroUnits phase)
    "PQ-EVENT-v1 extrema are inconsistent"
  reject (2 < snapshot.timeQuality ∨
      (snapshot.timeQuality = 0 ∧ (snapshot.startUtcNanoseconds ≠ 0 ∨
        snapshot.lastUtcNanoseconds ≠ 0)) ∨
      (snapshot.timeQuality ≠ 0 ∧ (snapshot.startUtcNanoseconds = 0 ∨
        snapshot.lastUtcNanoseconds < snapshot.startUtcNanoseconds)))
    "PQ-EVENT-v1 time provenance is inconsistent"
  reject ((∀ lane, snapshot.settingsDigest lane = 0) ∨ record.word 27 ≠ 0)
    "PQ-EVENT-v1 reserved/snapshot fields are invalid"
  reject (record.zeroWords 52 63 = false) "PQ-EVENT-v1 reserved word is nonzero"

def decodePqEventLifecycleRecord : Except Failure PowerQualityEventLifecycleSnapshot := do
  checkLifecycleIdentity record
  checkLifecycleProvenance record
  checkLifecycleContent record
  return lifecycleSnapshot record

variable {record : MeterRecord}

/-- A record that the decoder takes carries a threshold of 16 bits above its hysteresis. -/
theorem decoded_thresholds {snapshot : PowerQualityEventLifecycleSnapshot}
    (decoded : decodePqEventLifecycleRecord record = .ok snapshot) :
    snapshot = lifecycleSnapshot record ∧ 0 < snapshot.thresholdE4 ∧
      snapshot.thresholdE4 ≤ 0xffff ∧ snapshot.hysteresisE4 < snapshot.thresholdE4 := by
  obtain ⟨_, -, decoded⟩ := Loops.bind_ok decoded
  obtain ⟨⟨⟩, provenance, decoded⟩ := Loops.bind_ok decoded
  obtain ⟨_, -, decoded⟩ := Loops.bind_ok decoded
  cases decoded
  have accepted := not_rejected provenance
  simp only [not_or] at accepted
  obtain ⟨-, -, -, -, -, -, -, -, -, positive, wide, above, -⟩ := accepted
  refine ⟨rfl, ?_, UInt32.not_lt.mp wide, UInt32.not_le.mp above⟩
  exact UInt32.pos_iff_ne_zero.mpr positive

end Lifecycle

end Msap1.Meter
