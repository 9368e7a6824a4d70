import Msap1.Loops
import Msap1.Sqlite

/-! The record table of `DurableMeterSpool` and the statements that read and change it. Rows
are kept in the order of their cursors, which are natural numbers below 2^63. -/

namespace Msap1.Spool

structure RecordTimingProvenance where
  firstSampleIndex : UInt64 := 0
  sampleCount : UInt32 := 0
  cycleCount : UInt32 := 0
  timeQuality : UInt8 := 0
  utcStartNanoseconds : Option Int64 := none
  utcUncertaintyNanoseconds : Option UInt64 := none
  deriving DecidableEq, Repr

structure MeterStreamRecord where
  recordFormat : UInt32 := 0
  recordKind : UInt16 := 0
  measurementPeriod : UInt8 := 0
  sourceSequence : UInt64 := 0
  sourceFragment : UInt16 := 0
  configurationGeneration : UInt32 := 0
  ingestedAtNanoseconds : Int64 := 0
  timing : RecordTimingProvenance := {}
  payload : List UInt8
  deriving DecidableEq, Repr

/-- The UNIQUE key of the table. -/
structure Identity where
  recordFormat : UInt32
  configurationGeneration : UInt32
  sourceSequence : UInt64
  sourceFragment : UInt16
  firstSampleIndex : UInt64
  deriving DecidableEq, Repr

def MeterStreamRecord.identity (record : MeterStreamRecord) : Identity :=
  ⟨record.recordFormat, record.configurationGeneration, record.sourceSequence,
    record.sourceFragment, record.timing.firstSampleIndex⟩

def optionalSigned (value : Option Int64) : Int64 := value.getD Int64.minValue

def optionalUnsigned : Option UInt64 → Except Failure Int64
  | none => .ok Int64.minValue
  | some value =>
      if value > int64Max then
        .error (.overflowError "timestamp uncertainty exceeds SQLite range")
      else .ok value.toInt64

def fromOptionalSigned (column : Int64) : Option Int64 :=
  if column = Int64.minValue then none else some column

def fromOptionalUnsigned (column : Int64) : Option UInt64 :=
  if column = Int64.minValue then none else some column.toUInt64

/-- A row. Columns whose cast to a SQLite integer and back is exact keep the record's type. -/
structure StoredRecord where
  cursor : Nat
  recordFormat : UInt32
  recordKind : UInt16
  measurementPeriod : UInt8
  sourceSequence : UInt64
  sourceFragment : UInt16
  configurationGeneration : UInt32
  ingestedAtNs : Int64
  firstSampleIndex : UInt64
  sampleCount : UInt32
  cycleCount : UInt32
  timeQuality : UInt8
  utcStartNs : Int64
  utcUncertaintyNs : Int64
  payload : List UInt8
  deriving DecidableEq, Repr

namespace StoredRecord

def identity (row : StoredRecord) : Identity :=
  ⟨row.recordFormat, row.configurationGeneration, row.sourceSequence, row.sourceFragment,
    row.firstSampleIndex⟩

/-- `LENGTH(payload)+128`. -/
def bytes (row : StoredRecord) : Nat := row.payload.length + 128

def record (row : StoredRecord) : MeterStreamRecord where
  recordFormat := row.recordFormat
  recordKind := row.recordKind
  measurementPeriod := row.measurementPeriod
  sourceSequence := row.sourceSequence
  sourceFragment := row.sourceFragment
  configurationGeneration := row.configurationGeneration
  ingestedAtNanoseconds := row.ingestedAtNs
  timing := {
    firstSampleIndex := row.firstSampleIndex
    sampleCount := row.sampleCount
    cycleCount := row.cycleCount
    timeQuality := row.timeQuality
    utcStartNanoseconds := fromOptionalSigned row.utcStartNs
    utcUncertaintyNanoseconds := fromOptionalUnsigned row.utcUncertaintyNs }
  payload := row.payload

end StoredRecord

structure Consumer where
  name : String
  acknowledgedCursor : Nat
  deriving DecidableEq, Repr

/-- One spool database: its rows, its consumers and the `sqlite_sequence` entry of the rows,
zero as long as that entry does not exist. -/
structure Store where
  records : List StoredRecord := []
  consumers : List Consumer := []
  sequence : Nat := 0
  deriving Repr

namespace Store

variable (store : Store)

/-- `COALESCE(MAX(cursor),0)`. -/
def newest : Nat := (store.records.map StoredRecord.cursor).foldr max 0

/-- `COALESCE(SUM(LENGTH(payload)+128),0)`. -/
def payloadBytes : Nat := (store.records.map StoredRecord.bytes).sum

/-- `COALESCE(MIN(acknowledged_cursor),0)`. -/
def minimumAcknowledged : Nat :=
  ((store.consumers.map Consumer.acknowledgedCursor).min?).getD 0

def existing (identity : Identity) : Option Nat :=
  (store.records.find? (fun row => row.identity = identity)).map StoredRecord.cursor

def largestRowid : Nat := 9223372036854775807

/-- The rowid an AUTOINCREMENT insert takes; SQLite reports a full table past the largest. -/
def nextCursor : Except Failure Nat :=
  if max store.sequence store.newest < largestRowid then
    .ok (max store.sequence store.newest + 1)
  else .error (.runtimeError "database or disk is full")

/-- `DELETE FROM records WHERE cursor<=?`. -/
def removeThrough (cursor : Nat) : Store :=
  { store with records := store.records.filter (fun row => cursor < row.cursor) }

end Store

def storedRecord (cursor : Nat) (utcUncertaintyNs : Int64) (record : MeterStreamRecord) :
    StoredRecord where
  cursor
  recordFormat := record.recordFormat
  recordKind := record.recordKind
  measurementPeriod := record.measurementPeriod
  sourceSequence := record.sourceSequence
  sourceFragment := record.sourceFragment
  configurationGeneration := record.configurationGeneration
  ingestedAtNs := record.ingestedAtNanoseconds
  firstSampleIndex := record.timing.firstSampleIndex
  sampleCount := record.timing.sampleCount
  cycleCount := record.timing.cycleCount
  timeQuality := record.timing.timeQuality
  utcStartNs := optionalSigned record.timing.utcStartNanoseconds
  utcUncertaintyNs
  payload := record.payload

structure Publication where
  store : Store
  cursors : List Nat := []
  insertedBytes : Nat := 0
  firstInsertedCursor : Nat := 0

def publishOne (publication : Publication) (record : MeterStreamRecord) :
    Except Failure Publication := do
  let _ ← bindUnsigned record.sourceSequence
  let _ ← bindUnsigned record.timing.firstSampleIndex
  match publication.store.existing record.identity with
  | some cursor => return { publication with cursors := publication.cursors ++ [cursor] }
  | none =>
      let utcUncertaintyNs ← optionalUnsigned record.timing.utcUncertaintyNanoseconds
      let cursor ← publication.store.nextCursor
      let row := storedRecord cursor utcUncertaintyNs record
      return {
        store := { publication.store with
          records := publication.store.records ++ [row]
          sequence := cursor }
        cursors := publication.cursors ++ [cursor]
        insertedBytes := publication.insertedBytes + row.bytes
        firstInsertedCursor :=
          if publication.firstInsertedCursor = 0 then cursor
          else publication.firstInsertedCursor }

structure Eviction where
  removedBytes : Nat := 0
  removeThrough : Nat := 0
  removedUnacknowledged : Nat := 0
  deriving DecidableEq, Repr

/-- Oldest rows first, while the projected bytes exceed the cap. -/
def evictRows (limit projected acknowledged : Nat) : List StoredRecord → Eviction → Eviction
  | [], eviction => eviction
  | row :: rows, eviction =>
      if limit < projected - eviction.removedBytes then
        evictRows limit projected acknowledged rows {
          removedBytes := eviction.removedBytes + row.bytes
          removeThrough := row.cursor
          removedUnacknowledged :=
            if acknowledged < row.cursor then eviction.removedUnacknowledged + 1
            else eviction.removedUnacknowledged }
      else eviction

end Msap1.Spool
