import Msap1.Ledger.Columns

/-! The in-memory checkpoints of `EnergyLedger::Impl`, their database rows, and the
`persist_*` and `load_*` functions between them. -/

namespace Msap1.Ledger

open Meter

structure EnergyState where
  epoch : UInt64 := 0
  sessionId : UInt64 := 0
  sourceSequence : UInt32 := 0
  generation : UInt32 := 0
  sessionCounters : EnergyCounterArray := fun _ => 0
  lifetimeCounters : EnergyCounterArray := fun _ => 0

structure DemandState where
  epoch : UInt64 := 0
  sessionId : UInt64 := 0
  sourceSequence : UInt32 := 0
  generation : UInt32 := 0
  method : DemandMethod := .sliding
  windowSeconds : UInt32 := 0
  updateSeconds : UInt32 := 0
  profileGeneration : UInt32 := 0
  current : DemandValueArray := fun _ => 0
  rawImport : DemandValueArray := fun _ => 0
  rawExport : DemandValueArray := fun _ => 0
  baselineImport : DemandValueArray := fun _ => 0
  baselineExport : DemandValueArray := fun _ => 0
  authoritativeImport : DemandValueArray := fun _ => 0
  authoritativeExport : DemandValueArray := fun _ => 0
  importAnchors : Fin 4 → UInt64 := fun _ => 0
  exportAnchors : Fin 4 → UInt64 := fun _ => 0

structure EnergyRow where
  epoch : Int64
  sessionId : String
  sourceSequence : Int64
  generation : Int64
  sessionCounters : Blob
  lifetimeCounters : Blob
  qualities : Blob
  lastSample : String
  acceptedSamples : String
  skippedSamples : String
  acceptedBlocks : Int64
  skippedBlocks : Int64
  flags : Int64
  sampleCount : Int64
  sampleRate : Int64
  updatedNs : Int64
  deriving DecidableEq, Repr

structure DemandRow where
  epoch : Int64
  sessionId : String
  sourceSequence : Int64
  generation : Int64
  currentValues : Blob
  rawImport : Blob
  rawExport : Blob
  baselineImport : Blob
  baselineExport : Blob
  authoritativeImport : Blob
  authoritativeExport : Blob
  importAnchors : Blob
  exportAnchors : Blob
  qualities : Blob
  lastSample : String
  targetSample : String
  sourceCount : Int64
  sourceStatus : Int64
  flags : Int64
  sampleCount : Int64
  sampleRate : Int64
  updatedNs : Int64
  method : Int64
  windowSeconds : Int64
  updateSeconds : Int64
  profileGeneration : Int64
  deriving DecidableEq, Repr

structure AuditRow where
  idempotencyKey : String
  requestId : String
  actor : String
  requestedNs : Int64
  previousEpoch : Int64
  resultingEpoch : Int64
  deriving DecidableEq, Repr

structure EnergyHistoryRow where
  sessionId : String
  targetSample : String
  capturedNs : Int64
  epoch : Int64
  counters : Blob
  qualities : Blob
  flags : Int64
  deriving DecidableEq, Repr

structure DemandHistoryRow where
  sessionId : String
  targetSample : String
  capturedNs : Int64
  epoch : Int64
  currentValues : Blob
  importPeaks : Blob
  exportPeaks : Blob
  qualities : Blob
  flags : Int64
  method : Int64
  windowSeconds : Int64
  updateSeconds : Int64
  profileGeneration : Int64
  deriving DecidableEq, Repr

structure Database where
  energyState : Option EnergyRow := none
  demandState : Option DemandRow := none
  energyResetAudit : List AuditRow := []
  demandResetAudit : List AuditRow := []
  energyHistory : List EnergyHistoryRow := []
  demandHistory : List DemandHistoryRow := []

/-- `INSERT OR REPLACE` on the primary key `same` compares. -/
def replaceRow {Row : Type} (same : Row → Bool) (row : Row) (rows : List Row) : List Row :=
  rows.filter (fun stored => !same stored) ++ [row]

def methodColumn : DemandMethod → Int64
  | .fixedBlock => 0
  | .sliding => 1

def methodOfColumn (column : Int64) : Except Failure DemandMethod :=
  let method := unsigned32 column
  if method > 1 then .error (.runtimeError "invalid demand method in ledger")
  else .ok (if method = 0 then .fixedBlock else .sliding)

@[simp] theorem methodOfColumn_methodColumn (method : DemandMethod) :
    methodOfColumn (methodColumn method) = .ok method := by
  cases method <;> rfl

def energyFlags (values : EnergyValues) : UInt32 :=
  packFlags [values.saturated, values.incompleteInput, values.discontinuity]

def demandFlags (values : DemandValues) : UInt32 :=
  packFlags [values.timeAligned, values.contaminated, values.boundaryValid, values.saturated,
    values.incompleteInput]

def persistEnergy (values : EnergyValues) (state : EnergyState) (sampleCount sampleRate : UInt32)
    (updatedNs : Int64) : Except Failure EnergyRow := do
  let epoch ← bindUnsigned state.epoch
  return {
    epoch
    sessionId := hex64 state.sessionId
    sourceSequence := integer32 state.sourceSequence
    generation := integer32 state.generation
    sessionCounters := encodeSigned state.sessionCounters
    lifetimeCounters := encodeSigned state.lifetimeCounters
    qualities := encodeQualities values.readings
    lastSample := hex64 values.lastSampleIndex
    acceptedSamples := hex64 values.acceptedSamples
    skippedSamples := hex64 values.skippedSamples
    acceptedBlocks := integer32 values.acceptedBlocks
    skippedBlocks := integer32 values.skippedBlocks
    flags := integer32 (energyFlags values)
    sampleCount := integer32 sampleCount
    sampleRate := integer32 sampleRate
    updatedNs }

def persistDemand (values : DemandValues) (state : DemandState) (sampleCount sampleRate : UInt32)
    (updatedNs : Int64) : Except Failure DemandRow := do
  let epoch ← bindUnsigned state.epoch
  return {
    epoch
    sessionId := hex64 state.sessionId
    sourceSequence := integer32 state.sourceSequence
    generation := integer32 state.generation
    currentValues := encodeSigned state.current
    rawImport := encodeSigned state.rawImport
    rawExport := encodeSigned state.rawExport
    baselineImport := encodeSigned state.baselineImport
    baselineExport := encodeSigned state.baselineExport
    authoritativeImport := encodeSigned state.authoritativeImport
    authoritativeExport := encodeSigned state.authoritativeExport
    importAnchors := encodeArray state.importAnchors
    exportAnchors := encodeArray state.exportAnchors
    qualities := encodeQualities values.readings
    lastSample := hex64 values.lastSampleIndex
    targetSample := hex64 values.intervalAnchorSample
    sourceCount := integer32 values.sourceIntervalCount
    sourceStatus := integer32 values.sourceStatus
    flags := integer32 (demandFlags values)
    sampleCount := integer32 sampleCount
    sampleRate := integer32 sampleRate
    updatedNs
    method := methodColumn values.method
    windowSeconds := integer32 values.windowSeconds
    updateSeconds := integer32 values.updateSeconds
    profileGeneration := integer32 values.profileGeneration }

def loadEnergy (row : EnergyRow) : Except Failure (EnergyState × EnergyValues) := do
  let sessionId ← parseHex64 row.sessionId "energy session ID"
  let sessionCounters ← decodeSigned 28 row.sessionCounters "energy session counters"
  let lifetimeCounters ← decodeSigned 28 row.lifetimeCounters "energy lifetime counters"
  let qualities ← decodeQualities 28 row.qualities "energy"
  let lastSampleIndex ← parseHex64 row.lastSample "energy last sample"
  let acceptedSamples ← parseHex64 row.acceptedSamples "accepted samples"
  let skippedSamples ← parseHex64 row.skippedSamples "skipped samples"
  let flags := unsigned32 row.flags
  let state : EnergyState := {
    epoch := row.epoch.toUInt64
    sessionId
    sourceSequence := unsigned32 row.sourceSequence
    generation := unsigned32 row.generation
    sessionCounters
    lifetimeCounters }
  let values : EnergyValues := { (default : EnergyValues) with
    sessionId
    lastSampleIndex
    acceptedSamples
    skippedSamples
    acceptedBlocks := unsigned32 row.acceptedBlocks
    skippedBlocks := unsigned32 row.skippedBlocks
    resetEpoch := state.epoch
    saturated := flagSet flags 1
    incompleteInput := flagSet flags 2
    discontinuity := flagSet flags 4 }
  return (state, values.withReadings (fun index => {
    value := lifetimeCounters index
    quality := qualities index
    sourceSequence := state.sourceSequence.toUInt64
    measuredAt := row.updatedNs
    calculationWindow := storedWindow row.sampleCount row.sampleRate }))

/-- The checkpoint half of `load_demand`; the profile columns follow with the values. -/
def loadDemandState (row : DemandRow) : Except Failure DemandState := do
  let sessionId ← parseHex64 row.sessionId "demand session ID"
  let current ← decodeSigned 4 row.currentValues "demand current"
  let rawImport ← decodeSigned 4 row.rawImport "raw import peaks"
  let rawExport ← decodeSigned 4 row.rawExport "raw export peaks"
  let baselineImport ← decodeSigned 4 row.baselineImport "baseline import"
  let baselineExport ← decodeSigned 4 row.baselineExport "baseline export"
  let authoritativeImport ← decodeSigned 4 row.authoritativeImport "import peaks"
  let authoritativeExport ← decodeSigned 4 row.authoritativeExport "export peaks"
  let importAnchors ← decodeArray 4 row.importAnchors "import anchors"
  let exportAnchors ← decodeArray 4 row.exportAnchors "export anchors"
  return {
    epoch := row.epoch.toUInt64
    sessionId
    sourceSequence := unsigned32 row.sourceSequence
    generation := unsigned32 row.generation
    current
    rawImport
    rawExport
    baselineImport
    baselineExport
    authoritativeImport
    authoritativeExport
    importAnchors
    exportAnchors }

def loadDemandValues (row : DemandRow) (state : DemandState) : Except Failure DemandValues := do
  let qualities ← decodeQualities 12 row.qualities "demand"
  let lastSampleIndex ← parseHex64 row.lastSample "demand last sample"
  let intervalAnchorSample ← parseHex64 row.targetSample "demand interval anchor"
  let method ← methodOfColumn row.method
  let values : DemandValues := { (default : DemandValues) with
    importPeakSample := .ofLanes state.importAnchors
    exportPeakSample := .ofLanes state.exportAnchors
    sessionId := state.sessionId
    lastSampleIndex
    intervalAnchorSample
    sourceIntervalCount := unsigned32 row.sourceCount
    sourceStatus := unsigned32 row.sourceStatus
    windowSeconds := unsigned32 row.windowSeconds
    updateSeconds := unsigned32 row.updateSeconds
    profileGeneration := unsigned32 row.profileGeneration
    peakResetEpoch := state.epoch
    method
    timeAligned := flagSet (unsigned32 row.flags) 1
    contaminated := flagSet (unsigned32 row.flags) 2
    boundaryValid := flagSet (unsigned32 row.flags) 4
    saturated := flagSet (unsigned32 row.flags) 8
    incompleteInput := flagSet (unsigned32 row.flags) 16 }
  return values.withReadings (fun index => {
    value := (![state.current, state.authoritativeImport, state.authoritativeExport]
      ⟨index / 4, demandGroup_lt index⟩) ⟨index % 4, demandLane_lt index⟩
    quality := qualities index
    sourceSequence := state.sourceSequence.toUInt64
    measuredAt := row.updatedNs
    calculationWindow := storedWindow row.sampleCount row.sampleRate })

def loadDemand (row : DemandRow) : Except Failure (DemandState × DemandValues) := do
  let state ← loadDemandState row
  let values ← loadDemandValues row state
  return ({ state with
    method := values.method
    windowSeconds := values.windowSeconds
    updateSeconds := values.updateSeconds
    profileGeneration := values.profileGeneration }, values)

theorem persistEnergy_epoch {values : EnergyValues} {state : EnergyState}
    {sampleCount sampleRate : UInt32} {updatedNs : Int64} {row : EnergyRow}
    (persisted : persistEnergy values state sampleCount sampleRate updatedNs = .ok row) :
    state.epoch ≤ int64Max := by
  unfold persistEnergy at persisted
  cases bound : bindUnsigned state.epoch with
  | error failure => rw [bound] at persisted; cases persisted
  | ok column => exact (bindUnsigned_ok bound).2

theorem persistDemand_epoch {values : DemandValues} {state : DemandState}
    {sampleCount sampleRate : UInt32} {updatedNs : Int64} {row : DemandRow}
    (persisted : persistDemand values state sampleCount sampleRate updatedNs = .ok row) :
    state.epoch ≤ int64Max := by
  unfold persistDemand at persisted
  cases bound : bindUnsigned state.epoch with
  | error failure => rw [bound] at persisted; cases persisted
  | ok column => exact (bindUnsigned_ok bound).2

/-- The values a reopened ledger holds after `persistEnergy` stored `values` and `state`. -/
def restoredEnergy (values : EnergyValues) (state : EnergyState) (window : SampleWindow)
    (measuredAt : Int64) : EnergyValues :=
  { (default : EnergyValues) with
    sessionId := state.sessionId
    lastSampleIndex := values.lastSampleIndex
    acceptedSamples := values.acceptedSamples
    skippedSamples := values.skippedSamples
    acceptedBlocks := values.acceptedBlocks
    skippedBlocks := values.skippedBlocks
    resetEpoch := state.epoch
    saturated := values.saturated
    incompleteInput := values.incompleteInput
    discontinuity := values.discontinuity }.withReadings
    (fun index => {
      value := state.lifetimeCounters index
      quality := (values.readings index).quality
      sourceSequence := state.sourceSequence.toUInt64
      measuredAt
      calculationWindow := window })

def restoredDemand (values : DemandValues) (state : DemandState) (window : SampleWindow)
    (measuredAt : Int64) : DemandValues :=
  { (default : DemandValues) with
    importPeakSample := .ofLanes state.importAnchors
    exportPeakSample := .ofLanes state.exportAnchors
    sessionId := state.sessionId
    lastSampleIndex := values.lastSampleIndex
    intervalAnchorSample := values.intervalAnchorSample
    sourceIntervalCount := values.sourceIntervalCount
    sourceStatus := values.sourceStatus
    windowSeconds := state.windowSeconds
    updateSeconds := state.updateSeconds
    profileGeneration := state.profileGeneration
    peakResetEpoch := state.epoch
    method := state.method
    timeAligned := values.timeAligned
    contaminated := values.contaminated
    boundaryValid := values.boundaryValid
    saturated := values.saturated
    incompleteInput := values.incompleteInput }.withReadings
    (fun index => {
      value := (![state.current, state.authoritativeImport, state.authoritativeExport]
        ⟨index / 4, demandGroup_lt index⟩) ⟨index % 4, demandLane_lt index⟩
      quality := (values.readings index).quality
      sourceSequence := state.sourceSequence.toUInt64
      measuredAt
      calculationWindow := window })

theorem loadEnergy_persistEnergy {values : EnergyValues} {state : EnergyState}
    {sampleCount sampleRate : UInt32} {updatedNs : Int64} {row : EnergyRow}
    (persisted : persistEnergy values state sampleCount sampleRate updatedNs = .ok row) :
    loadEnergy row = .ok (state, restoredEnergy values state
      (storedWindow (integer32 sampleCount) (integer32 sampleRate)) updatedNs) := by
  unfold persistEnergy at persisted
  cases bound : bindUnsigned state.epoch with
  | error failure => rw [bound] at persisted; cases persisted
  | ok column =>
      rw [bound] at persisted
      cases persisted
      obtain ⟨rfl, -⟩ := bindUnsigned_ok bound
      obtain ⟨saturated, incomplete, discontinuity⟩ :=
        packFlags_three values.saturated values.incompleteInput values.discontinuity
      simp only [loadEnergy, parseHex64_hex64, decodeSigned_encodeSigned,
        decodeQualities_encodeQualities, bind, Except.bind, pure, Except.pure,
        unsigned32_integer32, energyFlags, saturated, incomplete, discontinuity,
        UInt64.toUInt64_toInt64]
      rfl

theorem persistDemand_eq {values : DemandValues} {state : DemandState}
    {sampleCount sampleRate : UInt32} {updatedNs : Int64} {row : DemandRow}
    (persisted : persistDemand values state sampleCount sampleRate updatedNs = .ok row) :
    loadDemandState row = .ok { state with
        method := .sliding, windowSeconds := 0, updateSeconds := 0, profileGeneration := 0 } ∧
      row.qualities = encodeQualities values.readings ∧
      row.lastSample = hex64 values.lastSampleIndex ∧
      row.targetSample = hex64 values.intervalAnchorSample ∧
      row.sourceCount = integer32 values.sourceIntervalCount ∧
      row.sourceStatus = integer32 values.sourceStatus ∧
      row.flags = integer32 (demandFlags values) ∧
      row.sampleCount = integer32 sampleCount ∧ row.sampleRate = integer32 sampleRate ∧
      row.updatedNs = updatedNs ∧ row.method = methodColumn values.method ∧
      row.windowSeconds = integer32 values.windowSeconds ∧
      row.updateSeconds = integer32 values.updateSeconds ∧
      row.profileGeneration = integer32 values.profileGeneration := by
  unfold persistDemand at persisted
  cases bound : bindUnsigned state.epoch with
  | error failure => rw [bound] at persisted; cases persisted
  | ok column =>
      rw [bound] at persisted
      cases persisted
      obtain ⟨rfl, -⟩ := bindUnsigned_ok bound
      refine ⟨?_, rfl, rfl, rfl, rfl, rfl, rfl, rfl, rfl, rfl, rfl, rfl, rfl, rfl⟩
      simp only [loadDemandState, parseHex64_hex64, decodeSigned_encodeSigned,
        decodeArray_encodeArray, bind, Except.bind, pure, Except.pure, unsigned32_integer32,
        UInt64.toUInt64_toInt64]

theorem loadDemand_persistDemand {values : DemandValues} {state : DemandState}
    {sampleCount sampleRate : UInt32} {updatedNs : Int64} {row : DemandRow}
    (method : values.method = state.method) (window : values.windowSeconds = state.windowSeconds)
    (update : values.updateSeconds = state.updateSeconds)
    (profile : values.profileGeneration = state.profileGeneration)
    (persisted : persistDemand values state sampleCount sampleRate updatedNs = .ok row) :
    loadDemand row = .ok (state, restoredDemand values state
      (storedWindow (integer32 sampleCount) (integer32 sampleRate)) updatedNs) := by
  obtain ⟨checkpoint, qualities, lastSample, targetSample, sourceCount, sourceStatus, flags,
    count, rate, updated, methodColumn, windowColumn, updateColumn, profileColumn⟩ :=
      persistDemand_eq persisted
  obtain ⟨aligned, contaminated, boundary, saturated, incomplete⟩ :=
    packFlags_five values.timeAligned values.contaminated values.boundaryValid
      values.saturated values.incompleteInput
  have loaded : loadDemandValues row { state with
      method := .sliding, windowSeconds := 0, updateSeconds := 0, profileGeneration := 0 } =
      .ok (restoredDemand values state
        (storedWindow (integer32 sampleCount) (integer32 sampleRate)) updatedNs) := by
    simp only [loadDemandValues, qualities, lastSample, targetSample, sourceCount, sourceStatus,
      flags, count, rate, updated, methodColumn, windowColumn, updateColumn, profileColumn,
      decodeQualities_encodeQualities, parseHex64_hex64, methodOfColumn_methodColumn,
      unsigned32_integer32, demandFlags, aligned, contaminated, boundary, saturated, incomplete,
      method, window, update, profile, bind, Except.bind, pure, Except.pure]
    rfl
  rw [loadDemand, checkpoint]
  simp only [bind, Except.bind, loaded]
  rfl

end Msap1.Ledger
