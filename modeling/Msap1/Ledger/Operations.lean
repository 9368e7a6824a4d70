import Mathlib.Data.Fintype.Pi
import Msap1.Machine
import Msap1.Loops
import Msap1.Ledger.Store

/-! The calls of `EnergyLedger` over its in-memory checkpoints and its database. Every write
sits in one SQLite transaction, whose outcome is the argument `stored`: a call that throws
leaves memory and database as they were. -/

namespace Msap1.Ledger

open Meter

structure EnergyLedger where
  database : Database := {}
  latestEnergy : Option EnergyValues := none
  latestDemand : Option DemandValues := none
  energyState : EnergyState := {}
  demandState : DemandState := {}

def EnergyLedger.energy (ledger : EnergyLedger) : Option EnergyValues := ledger.latestEnergy

def EnergyLedger.demand (ledger : EnergyLedger) : Option DemandValues := ledger.latestDemand

def saturatingAdd (value delta : Int64) (saturated : Bool) : Except Failure (Int64 × Bool) :=
  if delta < 0 then .error (.logicError "negative energy ledger delta")
  else if value > Int64.maxValue - delta then .ok (Int64.maxValue, true)
  else .ok (value + delta, saturated)

def continueLane (counters sessionCounters : EnergyCounterArray) (index : Fin 28)
    (lifetime : Int64) (saturated : Bool) : Except Failure (Int64 × Bool) :=
  if counters index < sessionCounters index then
    .error (.conflict "same-session ENERGY counter rollback")
  else saturatingAdd lifetime (counters index - sessionCounters index) saturated

def openLane (counters : EnergyCounterArray) (index : Fin 28) (lifetime : Int64)
    (saturated : Bool) : Except Failure (Int64 × Bool) :=
  saturatingAdd lifetime (counters index) saturated

/-- The content comparison for a repeated sequence of the current session. -/
def sameEnergyFamily (session latest : EnergyValues) (state : EnergyState)
    (generation : UInt32) : Bool :=
  session.flattenEnergyCounters = state.sessionCounters ∧
    generation = state.generation ∧
    session.lastSampleIndex = latest.lastSampleIndex ∧
    session.acceptedSamples = latest.acceptedSamples ∧
    session.skippedSamples = latest.skippedSamples ∧
    session.acceptedBlocks = latest.acceptedBlocks ∧
    session.skippedBlocks = latest.skippedBlocks ∧
    session.incompleteInput = latest.incompleteInput ∧
    session.discontinuity = latest.discontinuity ∧
    ¬ (session.saturated ∧ ¬ latest.saturated) ∧
    encodeQualities session.readings = encodeQualities latest.readings ∧
    sameWindow session.familyWindow latest.familyWindow

structure EnergyFamily where
  session : EnergyValues
  sourceSequence : UInt32
  generation : UInt32
  ingestedAtNanoseconds : Int64

def energyNext (family : EnergyFamily) (state : EnergyState) (totals : EnergyCounterArray) :
    EnergyState :=
  { state with
    lifetimeCounters := totals
    sessionId := family.session.sessionId
    sourceSequence := family.sourceSequence
    generation := family.generation
    sessionCounters := family.session.flattenEnergyCounters }

def energyResult (family : EnergyFamily) (epoch : UInt64) (totals : EnergyCounterArray × Bool) :
    EnergyValues :=
  { family.session.assignEnergyCounters totals.1 with
    resetEpoch := epoch
    saturated := totals.2 }

/-- The tail of `ingest_energy`: the accumulated counters become the new checkpoint. -/
def storeEnergy (ledger : EnergyLedger) (family : EnergyFamily) (totals : EnergyCounterArray × Bool)
    (stored : Except Failure Unit) : Except Failure (EnergyValues × EnergyLedger) := do
  let next := energyNext family ledger.energyState totals.1
  let result := energyResult family ledger.energyState.epoch totals
  let row ← persistEnergy result next family.session.familyWindow.sampleCount
    (sampleRate family.session.familyWindow) family.ingestedAtNanoseconds
  stored
  return (result, { ledger with
    database := { ledger.database with energyState := some row }
    energyState := next
    latestEnergy := some result })

def ingestEnergy (ledger : EnergyLedger) (family : EnergyFamily) (stored : Except Failure Unit) :
    Except Failure (EnergyValues × EnergyLedger) := do
  let counters := family.session.flattenEnergyCounters
  let state := ledger.energyState
  if ∃ index, counters index < 0 then
    throw (.invalidArgument "negative ENERGY session counter")
  match ledger.latestEnergy with
  | some latest =>
      if family.session.sessionId = state.sessionId then
        if family.sourceSequence < state.sourceSequence then
          throw (.conflict "stale ENERGY family sequence")
        else if family.sourceSequence = state.sourceSequence then
          if sameEnergyFamily family.session latest state family.generation then
            return (latest, ledger)
          else throw (.conflict "duplicate ENERGY sequence has different content")
        else
          let totals ← Loops.updateEach (continueLane counters state.sessionCounters)
            (List.finRange 28) state.lifetimeCounters family.session.saturated
          storeEnergy ledger family totals stored
      else
        let totals ← Loops.updateEach (openLane counters) (List.finRange 28)
          state.lifetimeCounters family.session.saturated
        storeEnergy ledger family totals stored
  | none =>
      let totals ← Loops.updateEach (openLane counters) (List.finRange 28)
        state.lifetimeCounters family.session.saturated
      storeEnergy ledger family totals stored

structure DemandFamily where
  session : DemandValues
  sourceSequence : UInt32
  generation : UInt32
  ingestedAtNanoseconds : Int64

def sameSession (ledger : EnergyLedger) (session : DemandValues) : Bool :=
  ledger.latestDemand.isSome ∧ session.sessionId = ledger.demandState.sessionId

def sameSemantics (ledger : EnergyLedger) (session : DemandValues) : Bool :=
  ledger.latestDemand.isSome ∧ session.method = ledger.demandState.method ∧
    session.windowSeconds = ledger.demandState.windowSeconds ∧
    session.updateSeconds = ledger.demandState.updateSeconds

def sameProfileInstance (ledger : EnergyLedger) (session : DemandValues) : Bool :=
  sameSession ledger session ∧ sameSemantics ledger session ∧
    session.profileGeneration = ledger.demandState.profileGeneration

def profileChanged (ledger : EnergyLedger) (session : DemandValues) : Bool :=
  ledger.latestDemand.isSome ∧ (¬ sameSemantics ledger session ∨
    sameSession ledger session ∧
      session.profileGeneration ≠ ledger.demandState.profileGeneration)

def sameDemandFamily (session latest : DemandValues) (state : DemandState)
    (generation : UInt32) : Bool :=
  flattenDemandValues session.currentActive = state.current ∧
    flattenDemandValues session.importPeak = state.rawImport ∧
    flattenDemandValues session.exportPeak = state.rawExport ∧
    generation = state.generation ∧
    session.lastSampleIndex = latest.lastSampleIndex ∧
    session.intervalAnchorSample = latest.intervalAnchorSample ∧
    session.sourceIntervalCount = latest.sourceIntervalCount ∧
    session.sourceStatus = latest.sourceStatus ∧
    session.timeAligned = latest.timeAligned ∧
    session.contaminated = latest.contaminated ∧
    session.boundaryValid = latest.boundaryValid ∧
    session.incompleteInput = latest.incompleteInput ∧
    ¬ (session.saturated ∧ ¬ latest.saturated) ∧
    encodeQualities session.readings = encodeQualities latest.readings ∧
    sameWindow session.familyWindow latest.familyWindow

/-- The checkpoint a new interval starts from: cleared after a profile change, without
suppression baselines in another session, otherwise as it is. -/
def demandEpochState (ledger : EnergyLedger) (session : DemandValues) :
    Except Failure DemandState :=
  let next := ledger.demandState
  if profileChanged ledger session then
    .ok { next with
      epoch := next.epoch + 1
      baselineImport := fun _ => 0
      baselineExport := fun _ => 0
      authoritativeImport := fun _ => 0
      authoritativeExport := fun _ => 0
      importAnchors := fun _ => 0
      exportAnchors := fun _ => 0
      rawImport := fun _ => 0
      rawExport := fun _ => 0 }
  else if ¬ sameProfileInstance ledger session then
    .ok { next with baselineImport := fun _ => 0, baselineExport := fun _ => 0 }
  else if ∃ index, flattenDemandValues session.importPeak index < next.rawImport index ∨
      flattenDemandValues session.exportPeak index < next.rawExport index then
    .error (.conflict "same-session DEMAND peak rollback")
  else .ok next

/-- `demand_magnitude`, with the saturation it reports. -/
def demandMagnitude (value : Int64) : Int64 × Bool :=
  if value ≠ Int64.minValue then (if value < 0 then -value else value, false)
  else (Int64.maxValue, true)

/-- The four entries of one lane that the peak loop reads and writes. -/
structure PeakLane where
  authoritativeImport : Int64
  authoritativeExport : Int64
  importAnchor : UInt64
  exportAnchor : UInt64
  saturated : Bool := false

def DemandState.peakLane (state : DemandState) (index : Fin 4) : PeakLane where
  authoritativeImport := state.authoritativeImport index
  authoritativeExport := state.authoritativeExport index
  importAnchor := state.importAnchors index
  exportAnchor := state.exportAnchors index

/-- A valid completed interval as a peak of its own direction. -/
def observeCurrent (reading : Reading) (lastSampleIndex : UInt64) (lane : PeakLane) : PeakLane :=
  if reading.quality = .valid ∧ reading.value > 0 ∧ reading.value > lane.authoritativeImport then
    { lane with authoritativeImport := reading.value, importAnchor := lastSampleIndex }
  else if reading.quality = .valid ∧ reading.value < 0 then
    let (candidate, saturated) := demandMagnitude reading.value
    if candidate > lane.authoritativeExport then
      { lane with
        authoritativeExport := candidate
        exportAnchor := lastSampleIndex
        saturated := lane.saturated || saturated }
    else { lane with saturated := lane.saturated || saturated }
  else lane

/-- The incoming session peaks, unless the reset baseline suppresses them. -/
def observeIncoming (incomingImport incomingExport baselineImport baselineExport : Int64)
    (importAnchor exportAnchor : UInt64) (lane : PeakLane) : PeakLane :=
  let imported :=
    if incomingImport > baselineImport ∧ incomingImport > lane.authoritativeImport then
      { lane with authoritativeImport := incomingImport, importAnchor }
    else lane
  if incomingExport > baselineExport ∧ incomingExport > imported.authoritativeExport then
    { imported with authoritativeExport := incomingExport, exportAnchor }
  else imported

def observeLane (session : DemandValues) (next : DemandState) (index : Fin 4) : PeakLane :=
  observeIncoming (flattenDemandValues session.importPeak index)
    (flattenDemandValues session.exportPeak index) (next.baselineImport index)
    (next.baselineExport index) (session.importPeakSample.lane index)
    (session.exportPeakSample.lane index)
    (observeCurrent (session.currentActive.lane index) session.lastSampleIndex
      (next.peakLane index))

/-- The result a demand checkpoint reports: its peaks and anchors over the given values. -/
def assignPeaks (values : DemandValues) (state : DemandState) : DemandValues :=
  { values with
    importPeak := assignDemandValues values.importPeak state.authoritativeImport
    exportPeak := assignDemandValues values.exportPeak state.authoritativeExport
    importPeakSample := .ofLanes state.importAnchors
    exportPeakSample := .ofLanes state.exportAnchors
    peakResetEpoch := state.epoch }

def recordEnergyHistory (ledger : EnergyLedger) (target : String) (capturedNs : Int64)
    (rows : List EnergyHistoryRow) : Except Failure (List EnergyHistoryRow) :=
  match ledger.latestEnergy with
  | none => .ok rows
  | some latest => do
      let epoch ← bindUnsigned ledger.energyState.epoch
      let row : EnergyHistoryRow := {
        sessionId := hex64 ledger.energyState.sessionId
        targetSample := target
        capturedNs
        epoch
        counters := encodeSigned ledger.energyState.lifetimeCounters
        qualities := encodeQualities latest.readings
        flags := integer32 (energyFlags latest) }
      return replaceRow (fun old => old.sessionId = row.sessionId ∧
        old.targetSample = row.targetSample) row rows

def recordDemandHistory (result : DemandValues) (next : DemandState) (target : String)
    (capturedNs : Int64) (rows : List DemandHistoryRow) :
    Except Failure (List DemandHistoryRow) := do
  let epoch ← bindUnsigned next.epoch
  let row : DemandHistoryRow := {
    sessionId := hex64 next.sessionId
    targetSample := target
    capturedNs
    epoch
    currentValues := encodeSigned next.current
    importPeaks := encodeSigned next.authoritativeImport
    exportPeaks := encodeSigned next.authoritativeExport
    qualities := encodeQualities result.readings
    flags := integer32 (packFlags [result.contaminated, result.incompleteInput, result.saturated])
    method := methodColumn result.method
    windowSeconds := integer32 result.windowSeconds
    updateSeconds := integer32 result.updateSeconds
    profileGeneration := integer32 result.profileGeneration }
  return replaceRow (fun old => old.sessionId = row.sessionId ∧
    old.profileGeneration = row.profileGeneration ∧ old.targetSample = row.targetSample) row rows

/-- The local recovery snapshot of a fixed-block boundary. -/
def recordHistory (ledger : EnergyLedger) (result : DemandValues) (next : DemandState)
    (capturedNs : Int64) (database : Database) : Except Failure Database :=
  if result.intervalAnchorSample ≠ 0 ∧ result.method = .fixedBlock then do
    let target := hex64 result.intervalAnchorSample
    let energyHistory ← recordEnergyHistory ledger target capturedNs database.energyHistory
    let demandHistory ← recordDemandHistory result next target capturedNs database.demandHistory
    return { database with energyHistory, demandHistory }
  else .ok database

/-- The checkpoint after one interval, given the state its epoch starts from. -/
def demandNext (family : DemandFamily) (start : DemandState) : DemandState :=
  { start with
    authoritativeImport := fun index => (observeLane family.session start index).authoritativeImport
    authoritativeExport := fun index => (observeLane family.session start index).authoritativeExport
    importAnchors := fun index => (observeLane family.session start index).importAnchor
    exportAnchors := fun index => (observeLane family.session start index).exportAnchor
    sessionId := family.session.sessionId
    sourceSequence := family.sourceSequence
    generation := family.generation
    method := family.session.method
    windowSeconds := family.session.windowSeconds
    updateSeconds := family.session.updateSeconds
    profileGeneration := family.session.profileGeneration
    current := flattenDemandValues family.session.currentActive
    rawImport := flattenDemandValues family.session.importPeak
    rawExport := flattenDemandValues family.session.exportPeak }

def demandResult (family : DemandFamily) (start : DemandState) : DemandValues :=
  { assignPeaks family.session (demandNext family start) with
    saturated := family.session.saturated ||
      (List.finRange 4).any (fun index => (observeLane family.session start index).saturated) }

/-- The tail of `ingest_demand` after the epoch state is known. -/
def storeDemand (ledger : EnergyLedger) (family : DemandFamily) (start : DemandState)
    (stored : Except Failure Unit) : Except Failure (DemandValues × EnergyLedger) := do
  let next := demandNext family start
  let result := demandResult family start
  let row ← persistDemand result next family.session.familyWindow.sampleCount
    (sampleRate family.session.familyWindow) family.ingestedAtNanoseconds
  let database ← recordHistory ledger result next family.ingestedAtNanoseconds
    { ledger.database with demandState := some row }
  stored
  return (result, { ledger with
    database
    demandState := next
    latestDemand := some result })

def ingestDemand (ledger : EnergyLedger) (family : DemandFamily) (stored : Except Failure Unit) :
    Except Failure (DemandValues × EnergyLedger) := do
  let session := family.session
  if session.profileGeneration = 0 ∨ session.windowSeconds = 0 ∨ session.updateSeconds = 0 then
    throw (.invalidArgument "invalid DEMAND profile metadata")
  if ∃ index, flattenDemandValues session.importPeak index < 0 ∨
      flattenDemandValues session.exportPeak index < 0 then
    throw (.invalidArgument "negative DEMAND peak")
  match ledger.latestDemand with
  | some latest =>
      if sameProfileInstance ledger session ∧
          family.sourceSequence < ledger.demandState.sourceSequence then
        throw (.conflict "stale DEMAND family sequence")
      else if sameProfileInstance ledger session ∧
          family.sourceSequence = ledger.demandState.sourceSequence then
        if sameDemandFamily session latest ledger.demandState family.generation then
          return (latest, ledger)
        else throw (.conflict "duplicate DEMAND sequence has different content")
      else
        let start ← demandEpochState ledger session
        storeDemand ledger family start stored
  | none =>
      let start ← demandEpochState ledger session
      storeDemand ledger family start stored

structure ResetRequest where
  expectedEpoch : UInt64
  idempotencyKey : String
  actor : String
  requestId : String
  requestedAtNanoseconds : Int64
  deriving DecidableEq, Repr

structure ResetResult where
  epoch : UInt64
  replayed : Bool
  deriving DecidableEq, Repr

def validateReset (request : ResetRequest) : Except Failure Unit :=
  if request.idempotencyKey = "" ∨ request.actor = "" ∨ request.requestId = "" then
    .error (.invalidArgument "reset requires idempotency key, actor, and request ID")
  else .ok ()

/-- The epoch an earlier request with the same key resulted in. -/
def replayedEpoch (audit : List AuditRow) (idempotencyKey : String) : Option UInt64 :=
  (audit.find? (fun row => row.idempotencyKey = idempotencyKey)).map
    (fun row => row.resultingEpoch.toUInt64)

def auditRow (request : ResetRequest) (previous resulting : UInt64) : Except Failure AuditRow := do
  let previousEpoch ← bindUnsigned previous
  let resultingEpoch ← bindUnsigned resulting
  return {
    idempotencyKey := request.idempotencyKey
    requestId := request.requestId
    actor := request.actor
    requestedNs := request.requestedAtNanoseconds
    previousEpoch
    resultingEpoch }

def resetEnergyState (state : EnergyState) : EnergyState :=
  { state with epoch := state.epoch + 1, lifetimeCounters := fun _ => 0 }

def resetEnergyValues (latest : EnergyValues) (next : EnergyState) : EnergyValues :=
  { latest.assignEnergyCounters next.lifetimeCounters with resetEpoch := next.epoch }

def storeEnergyReset (ledger : EnergyLedger) (request : ResetRequest) (latest : EnergyValues)
    (stored : Except Failure Unit) : Except Failure (ResetResult × EnergyLedger) := do
  let next := resetEnergyState ledger.energyState
  let result := resetEnergyValues latest next
  let row ← persistEnergy result next result.familyWindow.sampleCount
    (sampleRate result.familyWindow) request.requestedAtNanoseconds
  let audit ← auditRow request ledger.energyState.epoch next.epoch
  stored
  return (⟨next.epoch, false⟩, { ledger with
    database := { ledger.database with
      energyState := some row
      energyResetAudit := ledger.database.energyResetAudit ++ [audit] }
    energyState := next
    latestEnergy := some result })

def resetEnergy (ledger : EnergyLedger) (request : ResetRequest) (stored : Except Failure Unit) :
    Except Failure (ResetResult × EnergyLedger) := do
  validateReset request
  match replayedEpoch ledger.database.energyResetAudit request.idempotencyKey with
  | some epoch => return (⟨epoch, true⟩, ledger)
  | none =>
      match ledger.latestEnergy with
      | none => throw (.unavailable "no durable ENERGY checkpoint exists")
      | some latest =>
          if request.expectedEpoch ≠ ledger.energyState.epoch then
            throw (.conflict "ENERGY reset epoch conflict")
          else storeEnergyReset ledger request latest stored

def resetDemandState (state : DemandState) : DemandState :=
  { state with
    epoch := state.epoch + 1
    authoritativeImport := fun _ => 0
    authoritativeExport := fun _ => 0
    importAnchors := fun _ => 0
    exportAnchors := fun _ => 0
    baselineImport := state.rawImport
    baselineExport := state.rawExport }

def storeDemandReset (ledger : EnergyLedger) (request : ResetRequest) (latest : DemandValues)
    (stored : Except Failure Unit) : Except Failure (ResetResult × EnergyLedger) := do
  let next := resetDemandState ledger.demandState
  let result := assignPeaks latest next
  let row ← persistDemand result next result.familyWindow.sampleCount
    (sampleRate result.familyWindow) request.requestedAtNanoseconds
  let audit ← auditRow request ledger.demandState.epoch next.epoch
  stored
  return (⟨next.epoch, false⟩, { ledger with
    database := { ledger.database with
      demandState := some row
      demandResetAudit := ledger.database.demandResetAudit ++ [audit] }
    demandState := next
    latestDemand := some result })

def resetDemandPeaks (ledger : EnergyLedger) (request : ResetRequest)
    (stored : Except Failure Unit) : Except Failure (ResetResult × EnergyLedger) := do
  validateReset request
  match replayedEpoch ledger.database.demandResetAudit request.idempotencyKey with
  | some epoch => return (⟨epoch, true⟩, ledger)
  | none =>
      match ledger.latestDemand with
      | none => throw (.unavailable "no durable DEMAND checkpoint exists")
      | some latest =>
          if request.expectedEpoch ≠ ledger.demandState.epoch then
            throw (.conflict "DEMAND reset epoch conflict")
          else storeDemandReset ledger request latest stored

/-- Opening the database: `load_energy`, then `load_demand`, each when its row exists. -/
def reopen (database : Database) : Except Failure EnergyLedger := do
  let energy ← database.energyState.mapM loadEnergy
  let demand ← database.demandState.mapM loadDemand
  return {
    database
    latestEnergy := energy.map Prod.snd
    latestDemand := demand.map Prod.snd
    energyState := (energy.map Prod.fst).getD {}
    demandState := (demand.map Prod.fst).getD {} }

inductive Call where
  | ingestEnergy (family : EnergyFamily) (stored : Except Failure Unit)
  | ingestDemand (family : DemandFamily) (stored : Except Failure Unit)
  | resetEnergy (request : ResetRequest) (stored : Except Failure Unit)
  | resetDemandPeaks (request : ResetRequest) (stored : Except Failure Unit)
  | restart

inductive Answer where
  | energy (values : EnergyValues)
  | demand (values : DemandValues)
  | reset (result : ResetResult)
  | reopened
  | failed (failure : Failure)

/-- A call that threw changed nothing; one that returned leaves its new ledger. -/
def settle {Result : Type} (ledger : EnergyLedger) (answer : Result → Answer) :
    Except Failure (Result × EnergyLedger) → EnergyLedger × Answer
  | .ok (result, after) => (after, answer result)
  | .error failure => (ledger, .failed failure)

def machine : Machine EnergyLedger Call Answer where
  step := fun ledger call => match call with
    | .ingestEnergy family stored => settle ledger .energy (ingestEnergy ledger family stored)
    | .ingestDemand family stored => settle ledger .demand (ingestDemand ledger family stored)
    | .resetEnergy request stored => settle ledger .reset (resetEnergy ledger request stored)
    | .resetDemandPeaks request stored =>
        settle ledger .reset (resetDemandPeaks ledger request stored)
    | .restart => match reopen ledger.database with
      | .ok reopened => (reopened, .reopened)
      | .error failure => ({ database := ledger.database }, .failed failure)

end Msap1.Ledger
