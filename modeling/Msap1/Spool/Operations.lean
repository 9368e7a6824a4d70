import Msap1.Spool.Records

/-! The calls of `DurableMeterSpool` on one open database, and what opening, switching and
losing a spool does to the files it leaves behind. -/

namespace Msap1.Spool

inductive StorageBackend where
  | memory
  | persistent
  deriving DecidableEq, Repr

/-- The retention of a policy that `validate_database_policy` accepted. -/
structure RetentionPolicy where
  maximumAgeSeconds : Option Nat := none
  maximumBytes : Option Nat := none
  deriving DecidableEq, Repr

structure DatabaseStoragePolicy where
  backend : StorageBackend
  retention : RetentionPolicy := {}
  deriving DecidableEq, Repr

/-- The seconds become nanoseconds and leave the time in 64-bit arithmetic. -/
def ageCutoff (nanoseconds : Int) (age : Nat) : Int :=
  (Int64.ofInt nanoseconds - Int64.ofNat age * 1000000000).toInt

theorem ageCutoff_eq {nanoseconds : Int} {age : Nat} (time : nanoseconds < 2 ^ 63)
    (fits : -2 ^ 63 ≤ nanoseconds - age * 1000000000) :
    ageCutoff nanoseconds age = nanoseconds - age * 1000000000 := by
  have billion : (1000000000 : Int64).toInt = 1000000000 := rfl
  have size : Int64.size = 2 ^ 64 := rfl
  rw [ageCutoff, Int64.toInt_sub, Int64.toInt_mul, Int64.toInt_ofInt, Int64.toInt_ofNat', billion,
    size, Int.bmod_mul_bmod, Int.bmod_sub_bmod, Int.sub_bmod_bmod]
  exact Int.bmod_eq_of_le (by omega) (by omega)

def validateDatabasePolicy (policy : DatabaseStoragePolicy) : Except Failure Unit :=
  if policy.retention.maximumAgeSeconds = some 0 then
    .error (.invalidArgument "database retention age must be positive")
  else if policy.retention.maximumBytes = some 0 then
    .error (.invalidArgument "database retention byte limit must be positive")
  else .ok ()

structure DurableMeterSpool where
  policy : DatabaseStoragePolicy
  store : Store
  sessionStartCursor : Nat
  cursorLease : Nat
  trackedPayloadBytes : Nat
  droppedUnacknowledged : Nat := 0

namespace DurableMeterSpool

variable (spool : DurableMeterSpool)

/-- The hard cap at the end of a publication; the batch just inserted is not a victim. -/
def eviction (publication : Publication) : Eviction :=
  match spool.policy.retention.maximumBytes with
  | none => {}
  | some limit =>
      let projected := spool.trackedPayloadBytes + publication.insertedBytes
      if publication.insertedBytes ≠ 0 ∧ limit < projected then
        evictRows limit projected publication.store.minimumAcknowledged
          (publication.store.records.filter
            (fun row => row.cursor < publication.firstInsertedCursor)) {}
      else {}

def settlePublication (publication : Publication) : DurableMeterSpool :=
  let evicted := spool.eviction publication
  let projected := spool.trackedPayloadBytes + publication.insertedBytes
  { spool with
    store := if evicted.removeThrough = 0 then publication.store
      else publication.store.removeThrough evicted.removeThrough
    trackedPayloadBytes := projected - min projected evicted.removedBytes
    droppedUnacknowledged := spool.droppedUnacknowledged + evicted.removedUnacknowledged }

/-- `publish_records`; `committed` is the outcome of its transaction. -/
def publishRecords (records : List MeterStreamRecord) (committed : Except Failure Unit) :
    Except Failure (List Nat × DurableMeterSpool) :=
  if records = [] ∨ 256 < records.length then
    .error (.invalidArgument "meter stream publish batch must contain 1..256 records")
  else if ∃ record ∈ records, record.payload = [] then
    .error (.invalidArgument "meter stream record payload is empty")
  else do
    let publication ← records.foldlM publishOne { store := spool.store }
    committed
    return (publication.cursors, spool.settlePublication publication)

def registerConsumer (name : String) : Except Failure DurableMeterSpool :=
  if name = "" then .error (.invalidArgument "meter stream consumer name is empty")
  else if ∃ consumer ∈ spool.store.consumers, consumer.name = name then .ok spool
  else .ok { spool with
    store := { spool.store with consumers := spool.store.consumers ++ [⟨name, 0⟩] } }

def unregisterConsumer (name : String) : Except Failure DurableMeterSpool :=
  if name = "" then .error (.invalidArgument "meter stream consumer name is empty")
  else .ok { spool with store := { spool.store with
    consumers := spool.store.consumers.filter (fun consumer => consumer.name ≠ name) } }

def acknowledgedCursor (name : String) : Option Nat :=
  (spool.store.consumers.find? (fun consumer => consumer.name = name)).map
    Consumer.acknowledgedCursor

def readAfter (name : String) (limit : Nat) : Except Failure (List StoredRecord) :=
  if limit = 0 ∨ 4096 < limit then
    .error (.invalidArgument "meter stream read limit must be 1..4096")
  else match spool.acknowledgedCursor name with
    | none => .error (.invalidArgument "meter stream consumer is not registered")
    | some acknowledged =>
        .ok ((spool.store.records.filter (fun row => acknowledged < row.cursor)).take limit)

def acknowledge (name : String) (cursor : Nat) : Except Failure DurableMeterSpool :=
  if spool.store.newest < cursor then
    .error (.invalidArgument "consumer acknowledgement exceeds stream head")
  else if ∀ consumer ∈ spool.store.consumers, consumer.name ≠ name then
    .error (.invalidArgument "meter stream consumer is not registered")
  else .ok { spool with store := { spool.store with
    consumers := spool.store.consumers.map (fun consumer =>
      if consumer.name = name then
        { consumer with acknowledgedCursor := max consumer.acknowledgedCursor cursor }
      else consumer) } }

def pruneAge (nowNanoseconds : Int) : DurableMeterSpool :=
  match spool.policy.retention.maximumAgeSeconds with
  | none => spool
  | some age =>
      let cutoff := ageCutoff nowNanoseconds age
      let victim := fun row : StoredRecord =>
        decide (row.cursor ≤ spool.store.minimumAcknowledged ∧ row.ingestedAtNs.toInt < cutoff)
      let removed := ((spool.store.records.filter victim).map StoredRecord.bytes).sum
      { spool with
        store := { spool.store with
          records := spool.store.records.filter (fun row => !victim row) }
        trackedPayloadBytes :=
          spool.trackedPayloadBytes - min spool.trackedPayloadBytes removed }

/-- Acknowledged rows in order, while the remaining bytes exceed the cap: the bytes left and
the last cursor to remove. -/
def pruneRows (limit : Nat) : List StoredRecord → Nat → Nat → Nat × Nat
  | [], bytes, through => (bytes, through)
  | row :: rows, bytes, through =>
      if limit < bytes then pruneRows limit rows (bytes - min bytes row.bytes) row.cursor
      else (bytes, through)

def pruneBytes : DurableMeterSpool :=
  match spool.policy.retention.maximumBytes with
  | none => spool
  | some limit =>
      if limit < spool.trackedPayloadBytes then
        let (bytes, through) := pruneRows limit
          (spool.store.records.filter
            (fun row => row.cursor ≤ spool.store.minimumAcknowledged))
          spool.trackedPayloadBytes 0
        if through = 0 then spool
        else { spool with
          store := spool.store.removeThrough through
          trackedPayloadBytes := bytes }
      else spool

end DurableMeterSpool

def cursorLeaseReservation : Nat := 2 ^ 31
def cursorLeaseRenewalMargin : Nat := 2 ^ 30

/-- What outlives a process: the lease file, zero when there is none, and the database at the
persistent path; and the spool that is open, if one is. While a persistent spool is open its
own store stands for the database. -/
structure Device where
  lease : Nat := 0
  disk : Store := {}
  spool : Option DurableMeterSpool := none

def seedCursor (lease : Nat) (target : Store) (clockMilliseconds : Nat) : Nat :=
  if lease = 0 then max (max lease target.newest) clockMilliseconds
  else max lease target.newest

/-- The constructor on an opened database. The lease write of its end is a separate outcome,
which it ignores. -/
def openSpool (lease : Nat) (target : Store) (policy : DatabaseStoragePolicy)
    (clockMilliseconds : Nat) : Except Failure DurableMeterSpool := do
  validateDatabasePolicy policy
  let seed := seedCursor lease target clockMilliseconds
  if Store.largestRowid < seed then
    throw (.overflowError "SQLite integer exceeds signed 64-bit range")
  return {
    policy
    store := { target with sequence := max target.sequence seed }
    sessionStartCursor := seed
    cursorLease := seed + cursorLeaseReservation
    trackedPayloadBytes := target.payloadBytes }

/-- `write_cursor_lease`: a failed write leaves the file as it was. -/
def writeCursorLease (lease value : Nat) (written : Bool) : Nat := if written then value else lease

def Device.target (device : Device) (backend : StorageBackend) : Store :=
  match backend with
  | .memory => {}
  | .persistent => device.disk

def Device.left (device : Device) : Store :=
  match device.spool with
  | none => device.disk
  | some spool => match spool.policy.backend with
    | .memory => device.disk
    | .persistent => spool.store

def Device.crash (device : Device) : Device :=
  { device with disk := device.left, spool := none }

def Device.start (device : Device) (policy : DatabaseStoragePolicy) (clockMilliseconds : Nat)
    (written : Bool) : Except Failure Device := do
  let spool ← openSpool device.lease (device.target policy.backend) policy clockMilliseconds
  return { device with
    lease := writeCursorLease device.lease spool.cursorLease written
    spool := some spool }

def renewCursorLease (lease : Nat) (spool : DurableMeterSpool) (written : Bool) :
    Nat × DurableMeterSpool :=
  if spool.store.newest + cursorLeaseRenewalMargin < spool.cursorLease then (lease, spool)
  else
    let renewed := spool.store.newest + cursorLeaseReservation
    (writeCursorLease lease renewed written,
      if written then { spool with cursorLease := renewed } else spool)

/-- How far a `prune` came: an exception or the end of the process may cut it short. -/
inductive PruneProgress where
  | renewed
  | aged
  | finished
  deriving DecidableEq, Repr

def prune (lease : Nat) (spool : DurableMeterSpool) (nowNanoseconds : Int) (written : Bool)
    (progress : PruneProgress) : Nat × DurableMeterSpool :=
  let renewed := renewCursorLease lease spool written
  match progress with
  | .renewed => renewed
  | .aged => (renewed.1, renewed.2.pruneAge nowNanoseconds)
  | .finished => (renewed.1, (renewed.2.pruneAge nowNanoseconds).pruneBytes)

def copyRecords (rows : List StoredRecord) : List StoredRecord :=
  rows.foldl (fun copied row =>
    if ∃ other ∈ copied, other.cursor = row.cursor ∨ other.identity = row.identity then copied
    else copied ++ [row]) []

/-- The replacement after the copy: its rows and consumers are those of the source, and its
sequence has followed every copied rowid. -/
def migrate (source replacement : DurableMeterSpool) : DurableMeterSpool :=
  let records := copyRecords source.store.records
  let store : Store := {
    records
    consumers := source.store.consumers
    sequence := max replacement.store.sequence
      ((records.map StoredRecord.cursor).foldr max 0) }
  { replacement with
    store
    trackedPayloadBytes := store.payloadBytes
    droppedUnacknowledged := source.droppedUnacknowledged }

/-- `apply_policy` on an open spool. `copied` is the outcome of the copying transaction; the
replacement has been opened before it, so its seed and its lease stay when the copy fails. -/
def Device.applyPolicy (device : Device) (spool : DurableMeterSpool)
    (policy : DatabaseStoragePolicy) (clockMilliseconds : Nat) (written : Bool)
    (copied : Except Failure Unit) : Device × Except Failure Unit :=
  match validateDatabasePolicy policy with
  | .error failure => (device, .error failure)
  | .ok () =>
      if policy.backend = spool.policy.backend then
        ({ device with spool := some { spool with policy } }, .ok ())
      else
        match openSpool device.lease (device.target policy.backend) policy clockMilliseconds with
        | .error failure => (device, .error failure)
        | .ok replacement =>
            let lease := writeCursorLease device.lease replacement.cursorLease written
            match copied with
            | .error failure =>
                ({ device with
                  lease
                  disk := match policy.backend with
                    | .memory => device.disk
                    | .persistent => replacement.store }, .error failure)
            | .ok () =>
                ({ lease
                   disk := device.left
                   spool := some (migrate spool replacement) }, .ok ())

end Msap1.Spool
