import Msap1.ByteCodec
import Msap1.Ledger.Operations
import Msap1.Spool.Records

/-! The payloads of `meter_stream_ipc.cpp` and `historian_ipc.cpp`. Enumerations that the
decoders cast from their code without a check are kept as that code. -/

namespace Msap1.Ipc

open ByteCodec Meter Spool Ledger

def qualityCode : MeasurementQuality → UInt8
  | .unavailable => 0
  | .valid => 1
  | .invalid => 2
  | .outOfRange => 3
  | .timedOut => 4
  | .arithmeticError => 5

def qualityOf (code : UInt8) : MeasurementQuality :=
  if code = 0 then .unavailable
  else if code = 1 then .valid
  else if code = 2 then .invalid
  else if code = 3 then .outOfRange
  else if code = 4 then .timedOut
  else .arithmeticError

def encodeReading (reading : Reading) : Bytes :=
  [writeI64 reading.value, writeU8 (qualityCode reading.quality), writeU8 0, writeU16 0,
    writeU64 reading.sourceSequence, writeI64 reading.measuredAt,
    writeU32 reading.calculationWindow.sampleCount, writeU32 0,
    writeI64 reading.calculationWindow.duration].flatten

def readReading : Reader Reading := do
  let value ← i64
  let quality ← u8
  require (decide (quality ≤ 5))
  let reserved ← u8
  let reservedPair ← u16
  require (reserved == 0 && reservedPair == 0)
  let sourceSequence ← u64
  let measuredAt ← i64
  let sampleCount ← u32
  let reservedWord ← u32
  require (reservedWord == 0)
  let duration ← i64
  require (decide (0 ≤ duration))
  pure {
    value
    quality := qualityOf quality
    sourceSequence
    measuredAt
    calculationWindow := { sampleCount, duration } }

def encodeGroup (group : PhaseABCTotal Reading) : Bytes :=
  [encodeReading group.phaseA, encodeReading group.phaseB, encodeReading group.phaseC,
    encodeReading group.total].flatten

def readGroup : Reader (PhaseABCTotal Reading) := do
  let phaseA ← readReading
  let phaseB ← readReading
  let phaseC ← readReading
  let total ← readReading
  pure { phaseA, phaseB, phaseC, total }

def encodeSamples (samples : PhaseABCTotal UInt64) : Bytes :=
  [writeU64 samples.phaseA, writeU64 samples.phaseB, writeU64 samples.phaseC,
    writeU64 samples.total].flatten

def readSamples : Reader (PhaseABCTotal UInt64) := do
  let phaseA ← u64
  let phaseB ← u64
  let phaseC ← u64
  let total ← u64
  pure { phaseA, phaseB, phaseC, total }

def encodeEnergyValues (values : EnergyValues) : Bytes :=
  [encodeGroup values.activeImport, encodeGroup values.activeExport,
    encodeGroup values.apparent, encodeGroup (values.reactiveQuadrants 0),
    encodeGroup (values.reactiveQuadrants 1), encodeGroup (values.reactiveQuadrants 2),
    encodeGroup (values.reactiveQuadrants 3), writeU64 values.sessionId,
    writeU64 values.lastSampleIndex, writeU64 values.acceptedSamples,
    writeU64 values.skippedSamples, writeU32 values.acceptedBlocks,
    writeU32 values.skippedBlocks, writeU64 values.resetEpoch,
    writeU32 (packFlags [values.saturated, values.incompleteInput]),
    writeU32 0].flatten

def decodeEnergyValues : Reader EnergyValues := do
  let activeImport ← readGroup
  let activeExport ← readGroup
  let apparent ← readGroup
  let first ← readGroup
  let second ← readGroup
  let third ← readGroup
  let fourth ← readGroup
  let sessionId ← u64
  let lastSampleIndex ← u64
  let acceptedSamples ← u64
  let skippedSamples ← u64
  let acceptedBlocks ← u32
  let skippedBlocks ← u32
  let resetEpoch ← u64
  let flags ← u32
  let reserved ← u32
  require (flags &&& ~~~0x3 == 0 && reserved == 0)
  pure {
    activeImport
    activeExport
    apparent
    reactiveQuadrants := ![first, second, third, fourth]
    sessionId
    lastSampleIndex
    acceptedSamples
    skippedSamples
    acceptedBlocks
    skippedBlocks
    resetEpoch
    saturated := flagSet flags 1
    incompleteInput := flagSet flags 2 }

def methodCode : DemandMethod → UInt32
  | .fixedBlock => 0
  | .sliding => 1

def encodeDemandValues (values : DemandValues) : Bytes :=
  [encodeGroup values.currentActive, encodeGroup values.importPeak,
    encodeGroup values.exportPeak, encodeSamples values.importPeakSample,
    encodeSamples values.exportPeakSample, writeU64 values.sessionId,
    writeU64 values.lastSampleIndex, writeU64 values.intervalAnchorSample,
    writeU32 values.sourceIntervalCount, writeU32 values.sourceStatus,
    writeU64 values.peakResetEpoch, writeU32 (methodCode values.method),
    writeU32 values.windowSeconds, writeU32 values.updateSeconds,
    writeU32 values.profileGeneration,
    writeU32 (packFlags [values.timeAligned, values.contaminated, values.boundaryValid,
      values.saturated, values.incompleteInput]),
    writeU32 0].flatten

def decodeDemandValues : Reader DemandValues := do
  let currentActive ← readGroup
  let importPeak ← readGroup
  let exportPeak ← readGroup
  let importPeakSample ← readSamples
  let exportPeakSample ← readSamples
  let sessionId ← u64
  let lastSampleIndex ← u64
  let intervalAnchorSample ← u64
  let sourceIntervalCount ← u32
  let sourceStatus ← u32
  let peakResetEpoch ← u64
  let method ← u32
  require (decide (method ≤ 1))
  let windowSeconds ← u32
  let updateSeconds ← u32
  let profileGeneration ← u32
  let flags ← u32
  let reserved ← u32
  require (flags &&& ~~~0x1f == 0 && reserved == 0)
  pure {
    currentActive
    importPeak
    exportPeak
    importPeakSample
    exportPeakSample
    sessionId
    lastSampleIndex
    intervalAnchorSample
    sourceIntervalCount
    sourceStatus
    windowSeconds
    updateSeconds
    profileGeneration
    peakResetEpoch
    method := if method = 0 then .fixedBlock else .sliding
    timeAligned := flagSet flags 1
    contaminated := flagSet flags 2
    boundaryValid := flagSet flags 4
    saturated := flagSet flags 8
    incompleteInput := flagSet flags 16 }

/-- A record with the cursor that the stream has given it. -/
structure CursoredRecord where
  cursor : UInt64
  record : MeterStreamRecord
  deriving DecidableEq, Repr

def encodeRecord (cursored : CursoredRecord) : Bytes :=
  [writeU64 cursored.cursor, writeU32 cursored.record.recordFormat,
    writeU16 cursored.record.recordKind, writeU8 cursored.record.measurementPeriod,
    writeU8 cursored.record.timing.timeQuality, writeU64 cursored.record.sourceSequence,
    writeU32 cursored.record.configurationGeneration,
    writeI64 cursored.record.ingestedAtNanoseconds,
    writeU64 cursored.record.timing.firstSampleIndex,
    writeU32 cursored.record.timing.sampleCount, writeU32 cursored.record.timing.cycleCount,
    writeU8 (UInt8.ofNat cursored.record.timing.utcStartNanoseconds.isSome.toNat),
    writeU8 (UInt8.ofNat cursored.record.timing.utcUncertaintyNanoseconds.isSome.toNat),
    writeU16 cursored.record.sourceFragment,
    writeI64 (cursored.record.timing.utcStartNanoseconds.getD 0),
    writeU64 (cursored.record.timing.utcUncertaintyNanoseconds.getD 0),
    writeU32 (UInt32.ofNat cursored.record.payload.length), cursored.record.payload].flatten

def decodeRecord : Reader CursoredRecord := do
  let cursor ← u64
  let recordFormat ← u32
  let recordKind ← u16
  let measurementPeriod ← u8
  let timeQuality ← u8
  let sourceSequence ← u64
  let configurationGeneration ← u32
  let ingestedAtNanoseconds ← i64
  let firstSampleIndex ← u64
  let sampleCount ← u32
  let cycleCount ← u32
  let hasUtc ← u8
  let hasUncertainty ← u8
  let sourceFragment ← u16
  let utc ← i64
  let uncertainty ← u64
  let size ← u32
  let payload ← take size.toNat
  pure {
    cursor
    record := {
      recordFormat
      recordKind
      measurementPeriod
      sourceSequence
      sourceFragment
      configurationGeneration
      ingestedAtNanoseconds
      timing := {
        firstSampleIndex
        sampleCount
        cycleCount
        timeQuality
        utcStartNanoseconds := if hasUtc != 0 then some utc else none
        utcUncertaintyNanoseconds := if hasUncertainty != 0 then some uncertainty else none }
      payload } }

def maximumPublishRecords : Nat := 256

/-- `encode_records`, with `none` for its exception. -/
def encodeRecords (records : List CursoredRecord) : Option Bytes :=
  if records.isEmpty || maximumPublishRecords < records.length then none
  else some [writeU32 (UInt32.ofNat records.length), (records.map encodeRecord).flatten].flatten

def decodeRecords : Reader (List CursoredRecord) := do
  let count ← u32
  require (decide (count ≠ 0 ∧ count.toNat ≤ maximumPublishRecords))
  many decodeRecord count.toNat

structure HistoryCursor where
  measuredAtNanoseconds : Int64
  blockSourceSequence : UInt64
  recordKind : UInt32
  blockId : UInt64
  attributeId : UInt16
  deriving DecidableEq, Repr

structure HistoryQuery where
  period : UInt8
  attributes : List UInt16
  startNanoseconds : Int64
  endNanoseconds : Int64
  limit : UInt32
  after : Option HistoryCursor
  deriving DecidableEq, Repr

def encodeHistoryCursor (cursor : HistoryCursor) : Bytes :=
  [writeI64 cursor.measuredAtNanoseconds, writeU64 cursor.blockSourceSequence,
    writeU32 cursor.recordKind, writeU64 cursor.blockId, writeU16 cursor.attributeId].flatten

def readHistoryCursor : Reader HistoryCursor := do
  let measuredAtNanoseconds ← i64
  let blockSourceSequence ← u64
  let recordKind ← u32
  let blockId ← u64
  let attributeId ← u16
  pure { measuredAtNanoseconds, blockSourceSequence, recordKind, blockId, attributeId }

def encodeQuery (query : HistoryQuery) : Bytes :=
  [writeU8 query.period, writeU8 (UInt8.ofNat query.after.isSome.toNat),
    writeU16 (UInt16.ofNat query.attributes.length), writeI64 query.startNanoseconds,
    writeI64 query.endNanoseconds, writeU32 query.limit,
    writeOptional encodeHistoryCursor query.after,
    (query.attributes.map writeU16).flatten].flatten

def decodeQuery : Reader HistoryQuery := do
  let period ← u8
  let flags ← u8
  require (flags &&& ~~~1 == 0)
  let count ← u16
  let startNanoseconds ← i64
  let endNanoseconds ← i64
  let limit ← u32
  let after ← optional (flags &&& 1 != 0) readHistoryCursor
  let attributes ← many u16 count.toNat
  pure { period, attributes, startNanoseconds, endNanoseconds, limit, after }

abbrev Uuid := { bytes : Bytes // bytes.length = 16 }

def readUuid : Reader Uuid := fun input =>
  if enough : 16 ≤ input.length then
    some (⟨input.take 16, List.length_take_of_le enough⟩, input.drop 16)
  else none

structure PowerQualityEventId where
  session : UInt64
  counter : UInt64
  deriving DecidableEq, Repr

def encodeEventId (id : PowerQualityEventId) : Bytes :=
  [writeU64 id.session, writeU64 id.counter].flatten

def readEventId : Reader PowerQualityEventId := do
  let session ← u64
  let counter ← u64
  pure { session, counter }

structure PowerQualityEventQuery where
  id : Option PowerQualityEventId
  eventUuid : Option Uuid
  startUtcNanoseconds : Option Int64
  endUtcNanoseconds : Option Int64
  limit : UInt32
  includeWaveformLinks : Bool
  deriving DecidableEq

/-- `encode_power_quality_event_query`, with `none` for its exception. -/
def encodePowerQualityEventQuery (query : PowerQualityEventQuery) : Option Bytes :=
  if query.id.isSome && query.eventUuid.isSome then none
  else some [
    writeU8 (packFlags [query.id.isSome, query.eventUuid.isSome,
      query.startUtcNanoseconds.isSome, query.endUtcNanoseconds.isSome,
      !query.includeWaveformLinks]).toUInt8,
    writeU8 0, writeU16 0, writeU32 query.limit, writeOptional encodeEventId query.id,
    writeOptional Subtype.val query.eventUuid,
    writeOptional writeI64 query.startUtcNanoseconds,
    writeOptional writeI64 query.endUtcNanoseconds].flatten

def decodePowerQualityEventQuery : Reader PowerQualityEventQuery := do
  let flags ← u8
  let reserved ← u8
  let reservedPair ← u16
  require (flags &&& 0xe0 == 0 && reserved == 0 && reservedPair == 0)
  let limit ← u32
  let id ← optional (flags &&& 1 != 0) readEventId
  let eventUuid ← optional (flags &&& 2 != 0) readUuid
  let startUtcNanoseconds ← optional (flags &&& 4 != 0) i64
  let endUtcNanoseconds ← optional (flags &&& 8 != 0) i64
  require (!(id.isSome && eventUuid.isSome))
  pure { id, eventUuid, startUtcNanoseconds, endUtcNanoseconds, limit,
         includeWaveformLinks := flags &&& 16 == 0 }

/-- Three values of one kind, one for each phase. -/
structure PerPhase where
  phaseA : UInt32
  phaseB : UInt32
  phaseC : UInt32
  deriving DecidableEq, Repr

def encodePerPhase (values : PerPhase) : Bytes :=
  [writeU32 values.phaseA, writeU32 values.phaseB, writeU32 values.phaseC].flatten

def readPerPhase : Reader PerPhase := do
  let phaseA ← u32
  let phaseB ← u32
  let phaseC ← u32
  pure { phaseA, phaseB, phaseC }

structure SettingsDigest where
  first : UInt32
  second : UInt32
  third : UInt32
  fourth : UInt32
  deriving DecidableEq, Repr

def encodeSettingsDigest (digest : SettingsDigest) : Bytes :=
  [writeU32 digest.first, writeU32 digest.second, writeU32 digest.third,
    writeU32 digest.fourth].flatten

def readSettingsDigest : Reader SettingsDigest := do
  let first ← u32
  let second ← u32
  let third ← u32
  let fourth ← u32
  pure { first, second, third, fourth }

structure PowerQualityEventLifecycleSnapshot where
  id : PowerQualityEventId
  lifecycle : UInt8
  type : UInt8
  phaseMask : UInt8
  triggerSource : UInt8
  sequence : UInt32
  configurationGeneration : UInt32
  profileGeneration : UInt32
  sampleRateHz : UInt32
  firstSample : UInt64
  lastSample : UInt64
  triggerSample : UInt64
  durationSamples : UInt64
  validMask : UInt32
  status : UInt32
  thresholdE4 : UInt32
  hysteresisE4 : UInt32
  referenceMicroUnits : UInt32
  minimumMicroUnits : PerPhase
  maximumMicroUnits : PerPhase
  currentMicroUnits : PerPhase
  waveformEnabled : Bool
  perPhase : Bool
  iecClassification : Bool
  waveformPretriggerMs : UInt32
  waveformPosttriggerMs : UInt32
  waveformDecimation : UInt32
  startUtcNanoseconds : UInt64
  lastUtcNanoseconds : UInt64
  timeQuality : UInt8
  discontinuities : UInt32
  updateCount : UInt32
  settingsDigest : SettingsDigest
  deriving DecidableEq, Repr

structure PowerQualityEventCatalogEntry where
  event : PowerQualityEventLifecycleSnapshot
  eventUuid : Uuid
  streamCursor : UInt64
  startUtcNanoseconds : Option Int64
  lastUtcNanoseconds : Option Int64
  utcUncertaintyNanoseconds : Option UInt64
  waveformCaptureCount : UInt32
  waveformCaptureUuids : List Uuid
  deriving DecidableEq

def encodeEventSnapshot (event : PowerQualityEventLifecycleSnapshot) : Bytes :=
  [encodeEventId event.id, writeU8 event.lifecycle, writeU8 event.type, writeU8 event.phaseMask,
    writeU8 event.triggerSource, writeU32 event.sequence,
    writeU32 event.configurationGeneration, writeU32 event.profileGeneration,
    writeU32 event.sampleRateHz, writeU64 event.firstSample, writeU64 event.lastSample,
    writeU64 event.triggerSample, writeU64 event.durationSamples, writeU32 event.validMask,
    writeU32 event.status, writeU32 event.thresholdE4, writeU32 event.hysteresisE4,
    writeU32 event.referenceMicroUnits, encodePerPhase event.minimumMicroUnits,
    encodePerPhase event.maximumMicroUnits, encodePerPhase event.currentMicroUnits,
    writeU8 (packFlags [event.waveformEnabled, event.perPhase,
      event.iecClassification]).toUInt8,
    writeU8 event.timeQuality, writeU16 0, writeU32 event.waveformPretriggerMs,
    writeU32 event.waveformPosttriggerMs, writeU32 event.waveformDecimation,
    writeU64 event.startUtcNanoseconds, writeU64 event.lastUtcNanoseconds,
    writeU32 event.discontinuities, writeU32 event.updateCount,
    encodeSettingsDigest event.settingsDigest].flatten

def readEventSnapshot : Reader PowerQualityEventLifecycleSnapshot := do
  let id ← readEventId
  let lifecycle ← u8
  let type ← u8
  let phaseMask ← u8
  let triggerSource ← u8
  let sequence ← u32
  let configurationGeneration ← u32
  let profileGeneration ← u32
  let sampleRateHz ← u32
  let firstSample ← u64
  let lastSample ← u64
  let triggerSample ← u64
  let durationSamples ← u64
  let validMask ← u32
  let status ← u32
  let thresholdE4 ← u32
  let hysteresisE4 ← u32
  let referenceMicroUnits ← u32
  let minimumMicroUnits ← readPerPhase
  let maximumMicroUnits ← readPerPhase
  let currentMicroUnits ← readPerPhase
  let flags ← u8
  require (flags &&& ~~~0x7 == 0)
  let timeQuality ← u8
  let reserved ← u16
  require (reserved == 0)
  let waveformPretriggerMs ← u32
  let waveformPosttriggerMs ← u32
  let waveformDecimation ← u32
  let startUtcNanoseconds ← u64
  let lastUtcNanoseconds ← u64
  let discontinuities ← u32
  let updateCount ← u32
  let settingsDigest ← readSettingsDigest
  pure {
    id, lifecycle, type, phaseMask, triggerSource, sequence, configurationGeneration,
    profileGeneration, sampleRateHz, firstSample, lastSample, triggerSample, durationSamples,
    validMask, status, thresholdE4, hysteresisE4, referenceMicroUnits, minimumMicroUnits,
    maximumMicroUnits, currentMicroUnits, timeQuality, waveformPretriggerMs,
    waveformPosttriggerMs, waveformDecimation, startUtcNanoseconds, lastUtcNanoseconds,
    discontinuities, updateCount, settingsDigest,
    waveformEnabled := flags &&& 1 != 0
    perPhase := flags &&& 2 != 0
    iecClassification := flags &&& 4 != 0 }

def maximumEntryLinks : Nat := 4096

/-- `encode_power_quality_event_entry`, with `none` for its exception. -/
def encodePowerQualityEventEntry (entry : PowerQualityEventCatalogEntry) : Option Bytes :=
  if maximumEntryLinks < entry.waveformCaptureUuids.length then none
  else some [
    writeU16 2,
    writeU16 (packFlags [entry.startUtcNanoseconds.isSome, entry.lastUtcNanoseconds.isSome,
      entry.utcUncertaintyNanoseconds.isSome]).toUInt16,
    entry.eventUuid.val, encodeEventSnapshot entry.event, writeU64 entry.streamCursor,
    writeI64 (entry.startUtcNanoseconds.getD 0), writeI64 (entry.lastUtcNanoseconds.getD 0),
    writeU64 (entry.utcUncertaintyNanoseconds.getD 0),
    writeU32 (if entry.waveformCaptureCount = 0 then
      UInt32.ofNat entry.waveformCaptureUuids.length else entry.waveformCaptureCount),
    writeU32 (UInt32.ofNat entry.waveformCaptureUuids.length),
    (entry.waveformCaptureUuids.map Subtype.val).flatten].flatten

def decodePowerQualityEventEntry : Reader PowerQualityEventCatalogEntry := do
  let version ← u16
  require (version == 1 || version == 2)
  let present ← u16
  require (present &&& ~~~0x7 == 0)
  let eventUuid ← readUuid
  let event ← readEventSnapshot
  let streamCursor ← u64
  let start ← i64
  let last ← i64
  let uncertainty ← u64
  let declared ← optional (decide (2 ≤ version)) u32
  let count ← u32
  require (decide (count.toNat ≤ maximumEntryLinks))
  let waveformCaptureUuids ← many readUuid count.toNat
  require (version == 1 || decide (count ≤ declared.getD 0))
  pure {
    event, eventUuid, streamCursor, waveformCaptureUuids,
    startUtcNanoseconds := if present &&& 1 != 0 then some start else none
    lastUtcNanoseconds := if present &&& 2 != 0 then some last else none
    utcUncertaintyNanoseconds := if present &&& 4 != 0 then some uncertainty else none
    waveformCaptureCount := if version = 1 then count else declared.getD 0 }

/-- What `MeterStreamService` answers to a snapshot command, and how the client reads it. -/
def encodeSnapshot {α : Type} (write : α → Bytes) (snapshot : Option α) : Bytes :=
  [writeU32 0, writeU8 (UInt8.ofNat snapshot.isSome.toNat), writeU8 0, writeU16 0,
    writeOptional write snapshot].flatten

def readSnapshot {α : Type} (reader : Reader α) : Reader (Option α) := do
  let status ← u32
  require (status == 0)
  let present ← u8
  let reserved ← u8
  let reservedPair ← u16
  require (reserved == 0 && reservedPair == 0)
  optional (present != 0) reader

def getEnergySnapshot (ledger : EnergyLedger) : Bytes :=
  encodeSnapshot encodeEnergyValues ledger.energy

def getDemandSnapshot (ledger : EnergyLedger) : Bytes :=
  encodeSnapshot encodeDemandValues ledger.demand

/-- `MeterRecordStreamClient::energy` and `demand`, with `none` for an exception. -/
def clientEnergy (response : Bytes) : Option (Option EnergyValues) :=
  finished (readSnapshot decodeEnergyValues) response

def clientDemand (response : Bytes) : Option (Option DemandValues) :=
  finished (readSnapshot decodeDemandValues) response

end Msap1.Ipc
