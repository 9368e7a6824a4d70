import Mathlib.Data.FinEnum
import Msap1.Ledger.Operations
import Msap1.Spool.Operations

/-! `MeterHistoryStore`: measurement blocks in a volatile and a persistent database, the
catalogue of power-quality events, and the floors that explicit deletions leave. -/

namespace Msap1.Historian

open Meter
open Spool (DatabaseStoragePolicy)

inductive DatabaseDataset where
  | rawRecordSpool
  | basic
  | cycles150And180
  | minutes10
  | hours2
  | harmonicCycles150And180
  | harmonicMinutes10
  | harmonicHours2
  | demand
  | seconds10
  deriving DecidableEq, Repr

def historianDatasets : List DatabaseDataset :=
  [.basic, .cycles150And180, .minutes10, .hours2, .harmonicCycles150And180, .harmonicMinutes10,
    .harmonicHours2, .demand, .seconds10]

def datasetFor : MeasurementPeriod → Except Failure DatabaseDataset
  | .basic => .ok .basic
  | .cycles150And180 => .ok .cycles150And180
  | .min10 => .ok .minutes10
  | .hour2 => .ok .hours2
  | .demand => .ok .demand
  | .seconds10 => .ok .seconds10
  | .min10Live => .error
      (.invalidArgument "non-normative open intervals are not historian datasets")
  | .hour2Live => .error
      (.invalidArgument "non-normative open intervals are not historian datasets")

/-- The period whose measurement blocks a dataset holds; the harmonic ones hold none. -/
def periodFor : DatabaseDataset → Option MeasurementPeriod
  | .basic => some .basic
  | .cycles150And180 => some .cycles150And180
  | .minutes10 => some .min10
  | .hours2 => some .hour2
  | .demand => some .demand
  | .seconds10 => some .seconds10
  | _ => none

inductive RecordKind where
  | fundamental
  | power
  | energy
  | demand
  | powerQuality
  | phasor
  | unbalance
  | harmonic
  | powerQualityEvent
  | flicker
  | mainsSignal
  | frequency10s
  deriving DecidableEq, Repr

/-- Which attribute a stored value is of; `reading` covers those a record brings itself. -/
inductive HistoryAttribute where
  | reading (attributeId : UInt16)
  | energy (lane : Fin 28)
  | demand (lane : Fin 12)
  deriving DecidableEq, Repr

/-- A row of `measurement_values`. -/
structure HistoryValue where
  attributeId : HistoryAttribute
  value : Int64
  quality : MeasurementQuality
  sourceSequence : UInt64
  resetEpoch : Option UInt64 := none
  deriving DecidableEq, Repr

structure AttributeReading where
  attributeId : UInt16
  value : Int64
  quality : MeasurementQuality
  sourceSequence : UInt64
  deriving DecidableEq, Repr

/-- A decoded record; `readings` are those of its fundamental, power, phasor or unbalance part. -/
structure MeterUpdate where
  period : MeasurementPeriod
  kind : RecordKind
  sequence : UInt64 := 0
  configurationGeneration : UInt32 := 0
  windowStart : UInt64 := 0
  windowEnd : UInt64 := 0
  readings : List AttributeReading := []
  energy : Option EnergyValues := none
  demand : Option DemandValues := none

/-- A row of `measurement_blocks` with its values. -/
structure Block where
  streamCursor : Nat
  period : MeasurementPeriod
  kind : RecordKind
  sourceSequence : UInt64
  configurationGeneration : UInt32
  measuredAt : Int
  windowStart : UInt64
  windowEnd : UInt64
  values : List HistoryValue
  deriving DecidableEq, Repr

/-- The rows `put_group` writes for the seven groups of four energy counters. -/
def energyRows (energy : EnergyValues) : List HistoryValue :=
  (List.finRange 28).map (fun lane =>
    ⟨.energy lane, (energy.readings lane).value, (energy.readings lane).quality,
      (energy.readings lane).sourceSequence, some energy.resetEpoch⟩)

def demandRows (demand : DemandValues) : List HistoryValue :=
  (List.finRange 12).map (fun lane =>
    ⟨.demand lane, (demand.readings lane).value, (demand.readings lane).quality,
      (demand.readings lane).sourceSequence, some demand.peakResetEpoch⟩)

def MeterUpdate.values (update : MeterUpdate) : List HistoryValue :=
  update.readings.map (fun reading => ⟨.reading reading.attributeId, reading.value,
    reading.quality, reading.sourceSequence, none⟩) ++ (update.energy.map energyRows).getD [] ++
    (update.demand.map demandRows).getD []

def MeterUpdate.block (update : MeterUpdate) (streamCursor : Nat) (measuredAt : Int) : Block where
  streamCursor
  period := update.period
  kind := update.kind
  sourceSequence := update.sequence
  configurationGeneration := update.configurationGeneration
  measuredAt
  windowStart := update.windowStart
  windowEnd := update.windowEnd
  values := update.values

/-- `INSERT OR IGNORE` under the key of cursor and period. -/
def insertBlock (blocks : List Block) (block : Block) : List Block :=
  if ∃ other ∈ blocks, other.streamCursor = block.streamCursor ∧ other.period = block.period then
    blocks
  else blocks ++ [block]

def blockBytes (block : Block) : Nat := 96 + block.values.length * 40

def withinAge (seconds : Option Nat) (period : MeasurementPeriod) (measuredAt : Int)
    (blocks : List Block) : List Block :=
  match seconds with
  | none => blocks
  | some age => blocks.filter (fun block =>
      !(block.period = period && decide (block.measuredAt < Spool.ageCutoff measuredAt age)))

def surplusBlocks : Nat → List Block → List Block
  | _, [] => []
  | surplus, block :: blocks =>
      if surplus = 0 then [] else block :: surplusBlocks (surplus - blockBytes block) blocks

/-- The byte cap, on the size that the store tracks for the period. -/
def withinBytes (limit : Option Nat) (period : MeasurementPeriod) (blocks : List Block) :
    List Block :=
  match limit with
  | none => blocks
  | some maximum =>
      let own := blocks.filter (fun block => block.period = period)
      let victims := surplusBlocks ((own.map blockBytes).sum - maximum)
        (own.mergeSort (fun left right => decide (left.measuredAt ≤ right.measuredAt)))
      blocks.filter (fun block => !victims.contains block)

def appendBlock (policy : DatabaseStoragePolicy) (block : Block) (blocks : List Block) :
    List Block :=
  withinBytes policy.retention.maximumBytes block.period
    (withinAge policy.retention.maximumAgeSeconds block.period block.measuredAt
      (insertBlock blocks block))

structure PowerQualityEventId where
  session : UInt64
  counter : UInt64
  deriving DecidableEq, Repr

structure PowerQualityEventLifecycle where
  id : PowerQualityEventId
  lifecycle : UInt8
  eventType : UInt8 := 0
  phaseMask : UInt8 := 0
  sequence : UInt32 := 0
  configurationGeneration : UInt32 := 0
  sampleRateHz : UInt32 := 1
  firstSample : UInt64 := 0
  lastSample : UInt64
  triggerSample : UInt64 := 0
  durationSamples : UInt64 := 0
  startUtcNanoseconds : UInt64 := 0
  lastUtcNanoseconds : UInt64 := 0
  timeQuality : UInt8 := 0

/-- A row of `power_quality_events`. -/
structure CatalogEntry where
  eventId : PowerQualityEventId
  eventUuid : List UInt8
  streamCursor : Nat
  sourceSequence : UInt32
  lifecycle : UInt8
  eventType : UInt8
  phaseMask : UInt8
  configurationGeneration : UInt32
  firstSample : UInt64
  lastSample : UInt64
  triggerSample : UInt64
  startUtcNs : Int
  lastUtcNs : Int
  timeQuality : UInt8
  utcUncertaintyNs : UInt64
  payload : List UInt8
  deriving DecidableEq, Repr

def unsynchronized : UInt8 := 0

def eventLastUtc (event : PowerQualityEventLifecycle) (firstUtc : Option Int) :
    Except Failure (Option Int) :=
  if event.timeQuality ≠ unsynchronized then
    if event.lastUtcNanoseconds > int64Max then
      .error (.invalidArgument "PQ event UTC exceeds int64 range")
    else .ok (some event.lastUtcNanoseconds.toNat)
  else match firstUtc with
    | none => .ok none
    | some first =>
        let samples := event.durationSamples.toNat
        let rate := event.sampleRateHz.toNat
        let delta := samples / rate * 1000000000 + samples % rate * 1000000000 / rate
        if 9223372036854775807 / 1000000000 < samples / rate then
          .error (.invalidArgument "PQ event UTC duration overflows")
        else if 9223372036854775807 - (delta : Int) < first then
          .error (.invalidArgument "PQ event last UTC overflows")
        else .ok (some (first + delta))

def eventRow (eventUuid : PowerQualityEventId → List UInt8) (event : PowerQualityEventLifecycle)
    (streamCursor : Nat) (timing : Spool.RecordTimingProvenance) (payload : List UInt8) :
    Except Failure CatalogEntry :=
  if event.timeQuality ≠ unsynchronized ∧ event.startUtcNanoseconds > int64Max then
    .error (.invalidArgument "PQ event start UTC exceeds int64 range")
  else do
    let synchronized := event.timeQuality ≠ unsynchronized
    let firstUtc := if synchronized then some (event.startUtcNanoseconds.toNat : Int)
      else timing.utcStartNanoseconds.map Int64.toInt
    let lastUtc ← eventLastUtc event firstUtc
    return {
      eventId := event.id
      eventUuid := eventUuid event.id
      streamCursor
      sourceSequence := event.sequence
      lifecycle := event.lifecycle
      eventType := event.eventType
      phaseMask := event.phaseMask
      configurationGeneration := event.configurationGeneration
      firstSample := event.firstSample
      lastSample := event.lastSample
      triggerSample := event.triggerSample
      startUtcNs := firstUtc.getD 0
      lastUtcNs := lastUtc.getD 0
      timeQuality := if synchronized then event.timeQuality else timing.timeQuality
      utcUncertaintyNs := timing.utcUncertaintyNanoseconds.getD 0
      payload }

/-- `ON CONFLICT(event_id) DO UPDATE`, with its `WHERE`. -/
def replaceEvent (old new : CatalogEntry) : CatalogEntry :=
  if old.lastSample < new.lastSample ∨
      new.lastSample = old.lastSample ∧ old.lifecycle ≤ new.lifecycle then
    { new with startUtcNs := if old.startUtcNs = 0 then new.startUtcNs else old.startUtcNs }
  else old

def upsertEvent (events : List CatalogEntry) (row : CatalogEntry) : List CatalogEntry :=
  if ∃ event ∈ events, event.eventId = row.eventId then
    events.map (fun event => if event.eventId = row.eventId then replaceEvent event row else event)
  else events ++ [row]

structure HistoryStore where
  policies : DatabaseDataset → DatabaseStoragePolicy
  memory : List Block := []
  persistent : List Block := []
  events : List CatalogEntry := []
  clearFloors : DatabaseDataset → Option Nat := fun _ => none

namespace HistoryStore

variable (store : HistoryStore)

def volatile (dataset : DatabaseDataset) : Bool := (store.policies dataset).backend = .memory

def blocks : List Block := store.memory ++ store.persistent

/-- `append`; `stored` is the outcome of its transaction. -/
def append (update : MeterUpdate) (streamCursor : Nat) (measuredAt : Int)
    (stored : Except Failure Unit) : Except Failure HistoryStore := do
  let dataset ← datasetFor update.period
  if ∃ floor ∈ store.clearFloors dataset, streamCursor ≤ floor then return store
  stored
  let added := appendBlock (store.policies dataset) (update.block streamCursor measuredAt)
  return if store.volatile dataset then { store with memory := added store.memory }
    else { store with persistent := added store.persistent }

/-- `upsert_power_quality_event`, once the record is decoded. -/
def upsertPowerQualityEvent (row : CatalogEntry) (stored : Except Failure Unit) :
    Except Failure HistoryStore := do
  stored
  return { store with events := upsertEvent store.events row }

def deletePowerQualityEvents (eventUuids : List (List UInt8)) (stored : Except Failure Unit) :
    Except Failure HistoryStore :=
  if eventUuids = [] then .error (.invalidArgument "power-quality event deletion is empty")
  else if ∃ uuid ∈ eventUuids, ∀ byte ∈ uuid, byte = 0 then
    .error (.invalidArgument "power-quality event UUID is zero")
  else if ¬ eventUuids.Nodup then
    .error (.invalidArgument "duplicate power-quality event deletion")
  else do
    stored
    return { store with events := store.events.filter (fun event =>
      !eventUuids.contains event.eventUuid) }

def clearPowerQualityEvents (stored : Except Failure Unit) : Except Failure HistoryStore := do
  stored
  return { store with events := [] }

/-- `prepare_policy_migration` and `apply_policies`: a dataset that moves to memory starts
empty there. -/
def applyPolicies (policies : DatabaseDataset → DatabaseStoragePolicy) : HistoryStore :=
  { store with
    policies
    memory := store.memory.filter (fun block => !historianDatasets.any (fun dataset =>
      periodFor dataset = some block.period && (policies dataset).backend = .memory &&
        !store.volatile dataset)) }

def clearDatasets (datasets : List DatabaseDataset) (through : Nat) :
    Except Failure HistoryStore :=
  if .rawRecordSpool ∈ datasets then
    .error (.invalidArgument "spool is not a historian dataset")
  else if ¬ datasets.Nodup then
    .error (.invalidArgument "duplicate historian dataset clear request")
  else if datasets = [] then
    .error (.invalidArgument "historian dataset clear request is empty")
  else
    let kept := fun block : Block => !datasets.any (fun dataset =>
      periodFor dataset = some block.period)
    .ok { store with
      memory := store.memory.filter kept
      persistent := store.persistent.filter kept
      clearFloors := fun dataset =>
        if dataset ∈ datasets then some through else store.clearFloors dataset }

def recreateDatabase (through : Nat) : HistoryStore where
  policies := store.policies
  clearFloors := fun dataset => if dataset ∈ historianDatasets then some through else none

def reopen (policies : DatabaseDataset → DatabaseStoragePolicy) : HistoryStore :=
  { store with policies, memory := [] }

end HistoryStore

end Msap1.Historian
