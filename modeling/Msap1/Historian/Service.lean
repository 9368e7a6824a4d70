import Msap1.Historian.Store
import Msap1.Spool.Cursors

/-! `MeterHistorianService` beside the meter stream it consumes: the producer commits ENERGY and
DEMAND families to the ledger before they enter the spool, the historian reads pages, ingests
them record by record and acknowledges, and replays the spool where a projection is volatile. -/

namespace Msap1.Historian

open Meter
open Ledger (EnergyLedger EnergyFamily DemandFamily ResetRequest)
open Spool (MeterStreamRecord StoredRecord DurableMeterSpool DatabaseStoragePolicy Device)

def meterEnergyFormat : UInt32 := 0x00030001
def meterDemandFormat : UInt32 := 0x00040001
def meterHarmonicFormat : UInt32 := 0x00050001
def meterPqEventLifecycleFormat : UInt32 := 0x00060001
def meterHarmonicAggregateFormat : UInt32 := 0x001F0001

/-- `sizeof(MeterRecord)`. -/
def meterRecordBytes : Nat := 256

/-- The record decoders and the UUID of an event; `invalid_argument` is their only failure. -/
structure Decoders where
  update : MeterStreamRecord → Except Failure MeterUpdate
  event : List UInt8 → Except Failure PowerQualityEventLifecycle
  energyBatch : List MeterStreamRecord → Except Failure (Option EnergyFamily)
  demandRecord : MeterStreamRecord → Except Failure (Option DemandFamily)
  eventUuid : PowerQualityEventId → List UInt8

def periodOf (code : UInt8) : Option MeasurementPeriod :=
  [.basic, .cycles150And180, .min10, .hour2, .min10Live, .hour2Live, .demand,
    .seconds10][code.toNat]?

def rebuiltDataset (record : MeterStreamRecord) : Option DatabaseDataset :=
  match periodOf record.measurementPeriod with
  | none => none
  | some period =>
      if record.recordFormat = meterHarmonicAggregateFormat then
        match period with
        | .cycles150And180 => some .harmonicCycles150And180
        | .min10 => some .harmonicMinutes10
        | .hour2 => some .harmonicHours2
        | _ => none
      else (datasetFor period).toOption

def rebuildsVolatilePeriod (store : HistoryStore) (record : MeterStreamRecord) : Bool :=
  match rebuiltDataset record with
  | none => false
  | some dataset => store.volatile dataset

/-- The outcomes of the transactions that the ingestion of one record may need. -/
structure Transactions where
  first : Except Failure Unit := .ok ()
  second : Except Failure Unit := .ok ()

def measuredAt (record : MeterStreamRecord) : Int :=
  (record.timing.utcStartNanoseconds.getD record.ingestedAtNanoseconds).toInt

/-- A store that changed, or a failure that left it alone. -/
def appended (store : HistoryStore) :
    Except Failure HistoryStore → HistoryStore × Except Failure Bool
  | .ok after => (after, .ok true)
  | .error failure => (store, .error failure)

section Ingest

variable (decoders : Decoders) (ledger : EnergyLedger) (store : HistoryStore)

def ingestEvent (row : StoredRecord) (stored : Except Failure Unit) :
    HistoryStore × Except Failure Bool :=
  let decoded := do
    if row.payload.length ≠ meterRecordBytes then
      throw (Failure.invalidArgument "historian PQ event record size mismatch")
    let event ← decoders.event row.payload
    eventRow decoders.eventUuid event row.cursor row.record.timing row.payload
  match decoded with
  | .error _ => (store, .ok false)
  | .ok entry => appended store (store.upsertPowerQualityEvent entry stored)

/-- The decoded update with the snapshots of the ledger that belong to it. -/
def sampled (record : MeterStreamRecord) (update : MeterUpdate) : Except Failure MeterUpdate :=
  let sampledDemand : Except Failure MeterUpdate :=
    if record.recordFormat = meterDemandFormat then
      match ledger.demand with
      | none => .error (.runtimeError "durable DEMAND checkpoint is missing at history boundary")
      | some demand => .ok { update with demand := some demand }
    else .ok update
  sampledDemand.map (fun update =>
    if update.period = .min10 ∧ update.kind = .fundamental then
      { update with energy := ledger.energy }
    else update)

def postponed (record : MeterStreamRecord) (update : MeterUpdate) : Bool :=
  record.recordFormat = meterDemandFormat && (match update.demand with
    | some demand => demand.method = .sliding
    | none => false)

/-- The demand point that a ten-minute unbalance record also stands for. -/
def demandPoint (update : MeterUpdate) : Option MeterUpdate :=
  if update.period = .min10 ∧ update.kind = .unbalance then
    match ledger.demand with
    | some demand =>
        if demand.method = .sliding then
          some { update with
            period := .demand
            kind := .demand
            readings := []
            energy := none
            demand := some demand }
        else none
    | none => none
  else none

def ingestUpdate (row : StoredRecord) (transactions : Transactions) (update : MeterUpdate) :
    HistoryStore × Except Failure Bool :=
  let time := measuredAt row.record
  match demandPoint ledger update with
  | none => appended store (store.append update row.cursor time transactions.first)
  | some point => match store.append update row.cursor time transactions.first with
    | .error failure => (store, .error failure)
    | .ok between => appended between (between.append point row.cursor time transactions.second)

/-- `ingest`: what it leaves and whether the record was committed. -/
def ingest (row : StoredRecord) (transactions : Transactions) :
    HistoryStore × Except Failure Bool :=
  let record := row.record
  if record.recordFormat = meterPqEventLifecycleFormat then
    ingestEvent decoders store row transactions.first
  else if record.recordFormat = meterEnergyFormat then (store, .ok false)
  else if record.recordFormat = meterHarmonicFormat then (store, .ok false)
  else if record.recordFormat = meterHarmonicAggregateFormat then
    (store, transactions.first.map (fun _ => true))
  else if record.payload.length ≠ meterRecordBytes then (store, .ok false)
  else match decoders.update record with
    | .error _ => (store, .ok false)
    | .ok decoded =>
        if decoded.period = .min10Live ∨ decoded.period = .hour2Live then (store, .ok false)
        else match sampled ledger record decoded with
          | .error failure => (store, .error failure)
          | .ok update =>
              if postponed record update then (store, .ok false)
              else ingestUpdate ledger store row transactions update

end Ingest

/-- A page of the live consumer; once a record of it is ingested the lock is held to its end. -/
structure Page where
  rows : List StoredRecord
  last : Nat
  begun : Bool := false

/-- A replay up to the head of the stream at its beginning. -/
structure Backfill where
  through : Nat
  startup : Bool
  rows : List StoredRecord := []
  acknowledged : Nat := 0

structure HistorianService where
  store : HistoryStore
  page : Option Page := none
  backfill : Option Backfill := none
  rebuilding : Bool := false
  backfillRequested : Bool := false

structure System where
  ledger : EnergyLedger := {}
  device : Device := {}
  historian : HistorianService

def System.installed (policies : DatabaseDataset → DatabaseStoragePolicy) : System :=
  { historian := { store := { policies } } }

def liveConsumer : String := "historian"
def backfillConsumer : String := "historian-policy-backfill"

inductive Event where
  | publishRecords (records : List MeterStreamRecord) (stored committed : Except Failure Unit)
  | publishRecord (record : MeterStreamRecord) (stored committed : Except Failure Unit)
  | resetEnergy (request : ResetRequest) (stored : Except Failure Unit)
  | resetDemandPeaks (request : ResetRequest) (stored : Except Failure Unit)
  | stream (event : Spool.Event)
  | readPage
  | ingest (transactions : Transactions)
  | acknowledge
  | beginBackfill
  | readBackfill
  | ingestBackfill (transactions : Transactions)
  | acknowledgeBackfill
  | restart (policies : DatabaseDataset → DatabaseStoragePolicy)
  | applyPolicies (policies : DatabaseDataset → DatabaseStoragePolicy)
  | clearDatasets (datasets : List DatabaseDataset)
  | recreateDatabase
  | deleteEvents (eventUuids : List (List UInt8)) (stored : Except Failure Unit)
  | clearEvents (stored : Except Failure Unit)

namespace System

variable (decoders : Decoders) (system : System)

def withStore (store : HistoryStore) : System :=
  { system with historian := { system.historian with store } }

def locked : Bool :=
  match system.historian.page with
  | some page => page.begun && page.rows ≠ []
  | none => false

/-- `publish_records`: nothing enters the spool before its ENERGY family is in the ledger. -/
def publishRecords (records : List MeterStreamRecord) (stored committed : Except Failure Unit) :
    System :=
  if ∃ record ∈ records, record.recordFormat = meterDemandFormat then system
  else match decoders.energyBatch records with
    | .error _ => system
    | .ok none => { system with
        device := Spool.machine.next system.device (.publish records committed) }
    | .ok (some family) => match Ledger.ingestEnergy system.ledger family stored with
      | .error _ => system
      | .ok (_, ledger) => { system with
          ledger
          device := Spool.machine.next system.device (.publish records committed) }

def publishRecord (record : MeterStreamRecord) (stored committed : Except Failure Unit) : System :=
  match decoders.demandRecord record with
  | .error _ => system
  | .ok none => { system with
      device := Spool.machine.next system.device (.publish [record] committed) }
  | .ok (some family) => match Ledger.ingestDemand system.ledger family stored with
    | .error _ => system
    | .ok (_, ledger) => { system with
        ledger
        device := Spool.machine.next system.device (.publish [record] committed) }

/-- What the other clients and the stream service itself do with the spool. -/
def streamEvent : Spool.Event → System
  | .publish _ _ => system
  | event => { system with device := Spool.machine.next system.device event }

def readPage : System :=
  match system.historian.page, Spool.machine.answer system.device (.read liveConsumer 256) with
  | none, .rows (row :: rows) => { system with
      historian := { system.historian with
        page := some ⟨row :: rows, ((row :: rows).getLast (List.cons_ne_nil row rows)).cursor,
          false⟩ } }
  | _, _ => system

def ingestPage (transactions : Transactions) : System :=
  match system.historian.page with
  | some ⟨row :: rows, last, _⟩ =>
      let result := ingest decoders system.ledger system.historian.store row transactions
      { system with
        historian := { system.historian with
          store := result.1
          page := match result.2 with
            | .ok _ => some ⟨rows, last, true⟩
            | .error _ => none } }
  | _ => system

/-- The end of a page. Whatever happens to the acknowledgement, the page is over. -/
def acknowledge : System :=
  match system.historian.page with
  | some ⟨[], last, _⟩ => { system with
      device := Spool.machine.next system.device (.acknowledge liveConsumer last)
      historian := { system.historian with page := none } }
  | _ => system

def newestCursor : Nat :=
  match system.device.spool with
  | some spool => spool.store.newest
  | none => 0

def beginBackfill : System :=
  if system.historian.backfill.isSome ∨
      (¬ system.historian.rebuilding ∧ ¬ system.historian.backfillRequested) then system
  else { system with
    device := Spool.machine.run system.device
      [.unregister backfillConsumer, .register backfillConsumer]
    historian := { system.historian with
      backfill := some { through := system.newestCursor, startup := system.historian.rebuilding }
      rebuilding := false } }

def endBackfill : System :=
  { system with
    device := Spool.machine.next system.device (.unregister backfillConsumer)
    historian := { system.historian with
      backfill := none
      backfillRequested := match system.historian.backfill with
        | some backfill => backfill.startup && system.historian.backfillRequested
        | none => system.historian.backfillRequested } }

def readBackfill : System :=
  match system.historian.backfill with
  | some ⟨through, startup, [], _⟩ =>
      if through = 0 then system.endBackfill
      else match Spool.machine.answer system.device (.read backfillConsumer 64) with
        | .rows (row :: rows) => { system with
            historian := { system.historian with
              backfill := some ⟨through, startup, row :: rows, 0⟩ } }
        | _ => system.endBackfill
  | _ => system

def ingestBackfill (transactions : Transactions) : System :=
  match system.historian.backfill with
  | some ⟨through, startup, row :: rows, acknowledged⟩ =>
      if through < row.cursor then { system with
        historian := { system.historian with
          backfill := some ⟨through, startup, [], acknowledged⟩ } }
      else
        let result := if rebuildsVolatilePeriod system.historian.store row.record then
            ingest decoders system.ledger system.historian.store row transactions
          else (system.historian.store, .ok false)
        match result.2 with
        | .ok _ => { system with
            historian := { system.historian with
              store := result.1
              backfill := some ⟨through, startup, rows, row.cursor⟩ } }
        | .error _ => (system.withStore result.1).endBackfill
  | _ => system

def acknowledgeBackfill : System :=
  match system.historian.backfill with
  | some ⟨through, startup, [], acknowledged⟩ =>
      if acknowledged = 0 then system.endBackfill
      else
        let device := Spool.machine.next system.device (.acknowledge backfillConsumer acknowledged)
        if through ≤ acknowledged then { system with device }.endBackfill
        else { system with
          device
          historian := { system.historian with
            backfill := some ⟨through, startup, [], 0⟩ } }
  | _ => system

def restart (policies : DatabaseDataset → DatabaseStoragePolicy) : System :=
  { system with
    device := Spool.machine.next system.device (.register liveConsumer)
    historian := {
      store := system.historian.store.reopen policies
      rebuilding := historianDatasets.any (fun dataset =>
        (policies dataset).backend = .memory) } }

/-- `historian_policy_transition_requires_backfill`. -/
def requiresBackfill (policies : DatabaseDataset → DatabaseStoragePolicy) : Bool :=
  historianDatasets.any (fun dataset => (policies dataset).backend = .memory &&
    !system.historian.store.volatile dataset)

def applyPolicies (policies : DatabaseDataset → DatabaseStoragePolicy) : System :=
  if system.locked ∨ ∀ dataset ∈ historianDatasets,
      policies dataset = system.historian.store.policies dataset then system
  else { system with
    historian := { system.historian with
      store := system.historian.store.applyPolicies policies
      backfill := system.historian.backfill.filter (fun backfill => backfill.startup)
      backfillRequested := system.requiresBackfill policies } }

def maintain (call : HistoryStore → Except Failure HistoryStore) : System :=
  if system.locked then system
  else match call system.historian.store with
    | .ok store => system.withStore store
    | .error _ => system

def after : Event → System
  | .publishRecords records stored committed =>
      system.publishRecords decoders records stored committed
  | .publishRecord record stored committed =>
      system.publishRecord decoders record stored committed
  | .resetEnergy request stored => match Ledger.resetEnergy system.ledger request stored with
    | .ok (_, ledger) => { system with ledger }
    | .error _ => system
  | .resetDemandPeaks request stored =>
      match Ledger.resetDemandPeaks system.ledger request stored with
      | .ok (_, ledger) => { system with ledger }
      | .error _ => system
  | .stream event => system.streamEvent event
  | .readPage => system.readPage
  | .ingest transactions => system.ingestPage decoders transactions
  | .acknowledge => system.acknowledge
  | .beginBackfill => system.beginBackfill
  | .readBackfill => system.readBackfill
  | .ingestBackfill transactions => system.ingestBackfill decoders transactions
  | .acknowledgeBackfill => system.acknowledgeBackfill
  | .restart policies => system.restart policies
  | .applyPolicies policies => system.applyPolicies policies
  | .clearDatasets datasets => match system.device.spool with
    | some spool => system.maintain (fun store => store.clearDatasets datasets spool.store.newest)
    | none => system
  | .recreateDatabase => match system.device.spool with
    | some spool => system.maintain (fun store => .ok (store.recreateDatabase spool.store.newest))
    | none => system
  | .deleteEvents eventUuids stored => system.maintain (fun store =>
      store.deletePowerQualityEvents eventUuids stored)
  | .clearEvents stored => system.maintain (fun store =>
      store.clearPowerQualityEvents stored)

end System

def machine (decoders : Decoders) : Machine System Event Unit where
  step := fun system event => (system.after decoders event, ())

end Msap1.Historian
