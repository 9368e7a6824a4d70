import Msap1.Historian.Service

/-! The catalogue of power-quality events with the waveform captures that are linked to its
rows. -/

namespace Msap1.Historian

open Meter

/-- A row of `power_quality_event_waveforms`. -/
structure WaveformLink where
  eventId : PowerQualityEventId
  captureUuid : List UInt8
  deriving DecidableEq, Repr

structure LinkedStore where
  store : HistoryStore
  links : List WaveformLink := []

/-- `ON DELETE CASCADE`: a link goes with the row of its event. -/
def cascade (store : HistoryStore) (links : List WaveformLink) : List WaveformLink :=
  links.filter (fun link => store.events.any (fun event => event.eventId = link.eventId))

def insertLink (links : List WaveformLink) (link : WaveformLink) : List WaveformLink :=
  if link ∈ links then links else links ++ [link]

namespace LinkedStore

variable (linked : LinkedStore)

def upsertPowerQualityEvent (row : CatalogEntry) (stored : Except Failure Unit) :
    Except Failure LinkedStore := do
  let store ← linked.store.upsertPowerQualityEvent row stored
  return { linked with store }

def deletePowerQualityEvents (eventUuids : List (List UInt8)) (stored : Except Failure Unit) :
    Except Failure LinkedStore := do
  let store ← linked.store.deletePowerQualityEvents eventUuids stored
  return ⟨store, cascade store linked.links⟩

def clearPowerQualityEvents (stored : Except Failure Unit) : Except Failure LinkedStore := do
  let store ← linked.store.clearPowerQualityEvents stored
  return ⟨store, cascade store linked.links⟩

/-- `link_power_quality_event_waveform` under the canonical UUID of the event. -/
def linkPowerQualityEventWaveform (eventUuid captureUuid : List UInt8) :
    Except Failure LinkedStore :=
  if ∀ byte ∈ eventUuid, byte = 0 then
    .error (.invalidArgument "power-quality event UUID is zero")
  else if ∀ byte ∈ captureUuid, byte = 0 then
    .error (.invalidArgument "waveform capture UUID is zero")
  else match linked.store.events.find? (fun event => event.eventUuid = eventUuid) with
    | none => .error (.invalidArgument "power-quality event does not exist")
    | some event => .ok { linked with
        links := insertLink linked.links ⟨event.eventId, captureUuid⟩ }

end LinkedStore

structure LifecycleRecord where
  payload : List UInt8
  streamCursor : Nat
  timing : Spool.RecordTimingProvenance

/-- What `upsert_power_quality_event` binds for a record, or why it throws. -/
def boundRow (decoders : Decoders) (record : LifecycleRecord) : Except Failure CatalogEntry := do
  let event ← decoders.event record.payload
  let row ← eventRow decoders.eventUuid event record.streamCursor record.timing record.payload
  if (int64Max.toNat < row.streamCursor ∨ int64Max < row.firstSample ∨ int64Max < row.lastSample ∨
      int64Max < row.triggerSample ∨ int64Max < row.utcUncertaintyNs) then
    throw (.overflowError "SQLite integer exceeds signed 64-bit range")
  return row

/-- `upsert_power_quality_event`; a record that it rejects leaves the catalogue alone. -/
def LinkedStore.accept (decoders : Decoders) (linked : LinkedStore) (record : LifecycleRecord) :
    LinkedStore :=
  match boundRow decoders record with
  | .error _ => linked
  | .ok row => match linked.upsertPowerQualityEvent row (.ok ()) with
    | .error _ => linked
    | .ok after => after

def LinkedStore.acceptAll (decoders : Decoders) (linked : LinkedStore)
    (records : List LifecycleRecord) : LinkedStore :=
  records.foldl (fun linked record => linked.accept decoders record) linked

end Msap1.Historian
