import Msap1.Historian.Store
import Msap1.Meter.HarmonicSpectrum

/-! The harmonic tables of `MeterHistoryStore` and its operations with both kinds of history:
fragments are staged until a family of 42 is complete, and explicit deletions leave floors in the
process and in the persistent database. -/

namespace Msap1.Historian

open Meter
open Spool (DatabaseStoragePolicy)

/-- A row of `harmonic_pending`. -/
structure PendingFragment where
  period : MeasurementPeriod
  sourceSequence : UInt32
  sourceFragment : Fin 42
  streamCursor : Nat
  measuredAt : Int
  payload : MeterRecord
  deriving DecidableEq

/-- A row of `harmonic_families`. -/
structure HarmonicFamily where
  streamCursor : Nat
  period : MeasurementPeriod
  sourceSequence : UInt32
  configurationGeneration : UInt32
  measuredAt : Int
  firstSample : UInt64
  sampleCount : UInt32
  targetSample : UInt64
  contributors : UInt16
  overshootSamples : UInt16
  status : UInt32
  qualifiedMaxOrder : UInt8
  firstSourceSequence : UInt32
  lastSourceSequence : UInt32
  payload : List MeterRecord
  deriving DecidableEq

structure HarmonicTables where
  pending : List PendingFragment := []
  families : List HarmonicFamily := []
  deriving DecidableEq

def harmonicDatasetFor : MeasurementPeriod → Except Failure DatabaseDataset
  | .cycles150And180 => .ok .harmonicCycles150And180
  | .min10 => .ok .harmonicMinutes10
  | .hour2 => .ok .harmonicHours2
  | _ => .error (.invalidArgument "unsupported harmonic historian period")

def harmonicPeriodFor : DatabaseDataset → Option MeasurementPeriod
  | .harmonicCycles150And180 => some .cycles150And180
  | .harmonicMinutes10 => some .min10
  | .harmonicHours2 => some .hour2
  | _ => none

structure Assembly where
  assembler : HarmonicFamilyAssembler := {}
  snapshot : Option HarmonicSpectrumSnapshot := none
  expectedFragment : Nat := 0
  lastCursor : Nat := 0
  measuredAt : Int := 0

def assembleRow (assembly : Assembly) (row : PendingFragment) : Except Failure Assembly :=
  if row.sourceFragment.val ≠ assembly.expectedFragment then
    .error (.invalidArgument "harmonic history fragment sequence is incomplete")
  else match decodeHarmonicRecord row.payload with
    | .error failure => .error failure
    | .ok chunk => match assembly.assembler.accept chunk with
      | (_, .error failure) => .error failure
      | (assembler, .ok update) => .ok {
          assembler
          snapshot := update.completed.or assembly.snapshot
          expectedFragment := assembly.expectedFragment + 1
          lastCursor := max assembly.lastCursor row.streamCursor
          measuredAt := max assembly.measuredAt row.measuredAt }

def familyRow (assembly : Assembly) (provenance : HarmonicProvenance)
    (payload : List MeterRecord) : HarmonicFamily where
  streamCursor := assembly.lastCursor
  period := provenance.period
  sourceSequence := provenance.sequence
  configurationGeneration := provenance.configurationGeneration
  measuredAt := assembly.measuredAt
  firstSample := provenance.firstSample
  sampleCount := provenance.sampleCount
  targetSample := provenance.targetSample
  contributors := provenance.contributors
  overshootSamples := provenance.overshootSamples
  status := provenance.status
  qualifiedMaxOrder := provenance.qualifiedMaxOrder
  firstSourceSequence := provenance.firstSourceSequence
  lastSourceSequence := provenance.lastSourceSequence
  payload

def assembleFamily (rows : List PendingFragment) : Except Failure HarmonicFamily := do
  let assembly ← rows.foldlM assembleRow {}
  match assembly.snapshot with
  | none => .error (.invalidArgument "harmonic history family failed atomic validation")
  | some snapshot =>
      if assembly.expectedFragment ≠ harmonicRecordsPerFamily then
        .error (.invalidArgument "harmonic history family failed atomic validation")
      else if int64Max < snapshot.provenance.firstSample ∨
          int64Max < snapshot.provenance.targetSample then
        .error (.overflowError "SQLite integer exceeds signed 64-bit range")
      else .ok (familyRow assembly snapshot.provenance (rows.map PendingFragment.payload))

def familyBytes (family : HarmonicFamily) : Nat := 160 + 256 * family.payload.length

def surplusFamilies : Nat → List HarmonicFamily → List HarmonicFamily
  | _, [] => []
  | surplus, family :: families =>
      if surplus = 0 then []
      else family :: surplusFamilies (surplus - familyBytes family) families

def retained (policy : DatabaseStoragePolicy) (period : MeasurementPeriod) (measuredAt : Int)
    (families : List HarmonicFamily) : List HarmonicFamily :=
  let young := match policy.retention.maximumAgeSeconds with
    | none => families
    | some age => families.filter (fun family => !(family.period = period &&
        decide (family.measuredAt < Spool.ageCutoff measuredAt age)))
  match policy.retention.maximumBytes with
  | none => young
  | some maximum =>
      let own := young.filter (fun family => family.period = period)
      let victims := surplusFamilies ((own.map familyBytes).sum - maximum)
        (own.mergeSort (fun left right => decide (left.measuredAt ≤ right.measuredAt)))
      young.filter (fun family => !victims.contains family)

namespace HarmonicTables

variable (tables : HarmonicTables)

def staged (period : MeasurementPeriod) (sequence : UInt32) : List PendingFragment :=
  tables.pending.filter (fun row => row.period = period && row.sourceSequence = sequence)

def abandoned (period : MeasurementPeriod) (sequence : UInt32) : List PendingFragment :=
  tables.pending.filter (fun row => !(row.period = period && row.sourceSequence ≠ sequence))

/-- `INSERT OR IGNORE` under the key of the fragment and that of the cursor. -/
def insertFragment (pending : List PendingFragment) (row : PendingFragment) :
    List PendingFragment :=
  if ∃ other ∈ pending, other.streamCursor = row.streamCursor ∨ other.period = row.period ∧
      other.sourceSequence = row.sourceSequence ∧
        other.sourceFragment = row.sourceFragment then pending
  else pending ++ [row]

def inFragmentOrder (rows : List PendingFragment) : List PendingFragment :=
  rows.mergeSort (fun left right => decide (left.sourceFragment ≤ right.sourceFragment))

def collides (family : HarmonicFamily) : Prop :=
  ∃ other ∈ tables.families, other.streamCursor = family.streamCursor ∨
    other.period = family.period ∧
      other.configurationGeneration = family.configurationGeneration ∧
        other.sourceSequence = family.sourceSequence

instance (family : HarmonicFamily) : Decidable (tables.collides family) := by
  unfold collides
  infer_instance

/-- The transaction of `append_harmonic_record` and the retention after it, with the family that
it inserts. -/
def appendFragment (policy : DatabaseStoragePolicy) (row : PendingFragment) :
    Except Failure (HarmonicTables × Option HarmonicFamily) :=
  let grown : HarmonicTables := { tables with
    pending := insertFragment (tables.abandoned row.period row.sourceSequence) row }
  let rows := grown.staged row.period row.sourceSequence
  if rows.length ≠ harmonicRecordsPerFamily then .ok (grown, none)
  else match assembleFamily (inFragmentOrder rows) with
    | .error failure => .error failure
    | .ok family =>
        let pending := grown.pending.filter (fun other =>
          !(other.period = row.period && other.sourceSequence = row.sourceSequence))
        if tables.collides family then .ok ({ grown with pending }, none)
        else .ok (⟨pending, retained policy row.period row.measuredAt
          (tables.families ++ [family])⟩, some family)

def without (datasets : List DatabaseDataset) : HarmonicTables where
  pending := tables.pending.filter (fun row => !datasets.any (fun dataset =>
    harmonicPeriodFor dataset = some row.period))
  families := tables.families.filter (fun family => !datasets.any (fun dataset =>
    harmonicPeriodFor dataset = some family.period))

end HarmonicTables

/-- The whole store: the blocks and floors of the process, the harmonic tables of both databases
and the floors that the persistent one keeps. -/
structure MeterHistoryStore where
  store : HistoryStore
  memoryHarmonics : HarmonicTables := {}
  persistentHarmonics : HarmonicTables := {}
  storedFloors : DatabaseDataset → Option Nat := fun _ => none

namespace MeterHistoryStore

variable (history : MeterHistoryStore)

def harmonics (dataset : DatabaseDataset) : HarmonicTables :=
  if history.store.volatile dataset then history.memoryHarmonics else history.persistentHarmonics

def withHarmonics (dataset : DatabaseDataset) (tables : HarmonicTables) : MeterHistoryStore :=
  if history.store.volatile dataset then { history with memoryHarmonics := tables }
  else { history with persistentHarmonics := tables }

def families : List HarmonicFamily :=
  history.memoryHarmonics.families ++ history.persistentHarmonics.families

def fragmentOf (chunk : HarmonicRecordChunk) (record : MeterRecord) (streamCursor : Nat)
    (measuredAt : Int) : PendingFragment where
  period := chunk.provenance.period
  sourceSequence := chunk.provenance.sequence
  sourceFragment := chunk.recordIndex
  streamCursor
  measuredAt
  payload := record

/-- `append_harmonic_record`; `stored` is the outcome of its transaction, and the family is the
one it inserts when it returns true. -/
def appendHarmonicRecord (record : MeterRecord) (streamCursor : Nat) (measuredAt : Int)
    (stored : Except Failure Unit) : Except Failure (MeterHistoryStore × Option HarmonicFamily) :=
  match decodeHarmonicRecord record with
  | .error failure => .error failure
  | .ok chunk =>
      if chunk.provenance.period = .basic then
        .error (.invalidArgument "base harmonic families are latest-only")
      else match harmonicDatasetFor chunk.provenance.period with
        | .error failure => .error failure
        | .ok dataset =>
            if ∃ floor ∈ history.store.clearFloors dataset, streamCursor ≤ floor then
              .ok (history, none)
            else match stored with
              | .error failure => .error failure
              | .ok () =>
                  match (history.harmonics dataset).appendFragment
                    (history.store.policies dataset)
                    (fragmentOf chunk record streamCursor measuredAt) with
                  | .error failure => .error failure
                  | .ok (tables, family) => .ok (history.withHarmonics dataset tables, family)

def append (update : MeterUpdate) (streamCursor : Nat) (measuredAt : Int)
    (stored : Except Failure Unit) : Except Failure MeterHistoryStore := do
  let store ← history.store.append update streamCursor measuredAt stored
  return { history with store }

inductive Clearing where
  | done
  | memoryFailed (failure : Failure)
  | persistentFailed (failure : Failure)
  | vacuumFailed (failure : Failure)
  deriving DecidableEq

def clearDatasets (datasets : List DatabaseDataset) (through : Nat) (clearing : Clearing) :
    MeterHistoryStore × Except Failure Unit :=
  match history.store.clearDatasets datasets through with
  | .error failure => (history, .error failure)
  | .ok cleared =>
      let after : MeterHistoryStore := {
        store := cleared
        memoryHarmonics := history.memoryHarmonics.without datasets
        persistentHarmonics := history.persistentHarmonics.without datasets
        storedFloors := fun dataset =>
          if dataset ∈ datasets then some through else history.storedFloors dataset }
      match clearing with
      | .done => (after, .ok ())
      | .memoryFailed failure => (history, .error failure)
      | .persistentFailed failure =>
          ({ history with
              store := { history.store with memory := cleared.memory }
              memoryHarmonics := after.memoryHarmonics }, .error failure)
      | .vacuumFailed failure => (after, .error failure)

/-- `recreate_database`; a failure before the rename leaves the old database in place. -/
def recreateDatabase (through : Nat) (renamed : Except Failure Unit) :
    MeterHistoryStore × Except Failure Unit :=
  match renamed with
  | .error failure => (history, .error failure)
  | .ok () =>
      ({ store := history.store.recreateDatabase through
         storedFloors := fun dataset => if dataset ∈ historianDatasets then some through
          else none }, .ok ())

def applyPolicies (policies : DatabaseDataset → DatabaseStoragePolicy) : MeterHistoryStore :=
  { history with
    store := history.store.applyPolicies policies
    memoryHarmonics := history.memoryHarmonics.without (historianDatasets.filter (fun dataset =>
      (policies dataset).backend = .memory && !history.store.volatile dataset)) }

def reopen (policies : DatabaseDataset → DatabaseStoragePolicy) : MeterHistoryStore :=
  { history with
    store := { history.store.reopen policies with clearFloors := history.storedFloors }
    memoryHarmonics := {} }

inductive Operation where
  | append (update : MeterUpdate) (streamCursor : Nat) (measuredAt : Int)
      (stored : Except Failure Unit)
  | appendHarmonicRecord (record : MeterRecord) (streamCursor : Nat) (measuredAt : Int)
      (stored : Except Failure Unit)
  | clearDatasets (datasets : List DatabaseDataset) (through : Nat) (clearing : Clearing)
  | recreateDatabase (through : Nat) (renamed : Except Failure Unit)
  | applyPolicies (policies : DatabaseDataset → DatabaseStoragePolicy)
  | restart (policies : DatabaseDataset → DatabaseStoragePolicy)

/-- The state after an operation and the family that it inserted. -/
def after : Operation → MeterHistoryStore × Option HarmonicFamily
  | .append update cursor measuredAt stored =>
      match history.append update cursor measuredAt stored with
      | .ok later => (later, none)
      | .error _ => (history, none)
  | .appendHarmonicRecord record cursor measuredAt stored =>
      match history.appendHarmonicRecord record cursor measuredAt stored with
      | .ok result => result
      | .error _ => (history, none)
  | .clearDatasets datasets through clearing =>
      ((history.clearDatasets datasets through clearing).1, none)
  | .recreateDatabase through renamed => ((history.recreateDatabase through renamed).1, none)
  | .applyPolicies policies => (history.applyPolicies policies, none)
  | .restart policies => (history.reopen policies, none)

end MeterHistoryStore

def historyMachine :
    Machine MeterHistoryStore MeterHistoryStore.Operation (Option HarmonicFamily) where
  step := fun history operation => history.after operation

end Msap1.Historian
