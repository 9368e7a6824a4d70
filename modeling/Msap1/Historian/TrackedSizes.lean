import Msap1.Historian.HarmonicStaging
import Msap1.Historian.RetentionLoops

/-! The cached logical sizes of `MeterHistoryStore`: seeded on first use, kept along with every
append and forgotten whenever rows change otherwise. -/

namespace Msap1.Historian

open Meter ShortestPrefix
open Spool (DatabaseStoragePolicy)

def fundamentalAttributes : List UInt16 := [0, 1, 2, 3, 7, 8, 9, 10, 4, 5, 6]

def powerAttributes : List UInt16 :=
  [11, 12, 13, 14, 15, 16, 17, 18, 19, 20, 21, 22, 97, 98, 99, 100, 101, 102, 103]

def phasorAttributes : List UInt16 :=
  [87, 88, 89, 90, 91, 92, 93, 94, 95, 96, 31, 32, 33, 34, 35, 36, 108, 109, 110, 111, 112, 113,
    114, 23, 24, 25, 26, 104, 105, 106, 107, 27, 28, 29, 30, 121, 122, 123, 124]

def unbalanceAttributes : List UInt16 :=
  [41, 42, 43, 115, 116, 117, 44, 45, 46, 118, 119, 120, 39, 37, 40, 38]

/-- The attributes that `append` puts for each part of a record, in its order. -/
def partAttributes : List (List UInt16) :=
  [fundamentalAttributes, powerAttributes, phasorAttributes, unbalanceAttributes]

/-- An update brings the readings of its parts, each part as a whole. -/
def MeterUpdate.WholeParts (update : MeterUpdate) : Prop :=
  ∃ parts : List (List UInt16), parts.Sublist partAttributes ∧
    update.readings.map AttributeReading.attributeId = parts.flatten

abbrev DecodedUpdate := { update : MeterUpdate // update.WholeParts }

/-- `INSERT OR REPLACE` under the key of block and attribute. -/
def insertValue (values : List HistoryValue) (value : HistoryValue) : List HistoryValue :=
  values.filter (fun other => other.attributeId ≠ value.attributeId) ++ [value]

def storedBlock (update : MeterUpdate) (streamCursor : Nat) (measuredAt : Int) : Block :=
  { update.block streamCursor measuredAt with values := update.values.foldl insertValue [] }

def blockRows : RetainedRows Block where
  period := Block.period
  measuredAt := Block.measuredAt
  bytes := blockBytes
  occupied block := by
    unfold blockBytes
    omega

def familyRows : RetainedRows HarmonicFamily where
  period := HarmonicFamily.period
  measuredAt := HarmonicFamily.measuredAt
  bytes := familyBytes
  occupied family := by
    unfold familyBytes
    omega

/-- The store with the sizes that it has cached. -/
structure TrackedStore where
  history : MeterHistoryStore
  logicalBytes : MeasurementPeriod → Option Nat := fun _ => none
  harmonicLogicalBytes : MeasurementPeriod → Option Nat := fun _ => none

def stored (table : List Block) (streamCursor : Nat) (period : MeasurementPeriod) : Prop :=
  ∃ block ∈ table, block.streamCursor = streamCursor ∧ block.period = period

instance (table : List Block) (streamCursor : Nat) (period : MeasurementPeriod) :
    Decidable (stored table streamCursor period) := by
  unfold stored
  infer_instance

namespace TrackedStore

variable (store : TrackedStore)

def table (dataset : DatabaseDataset) : List Block :=
  if store.history.store.volatile dataset then store.history.store.memory
  else store.history.store.persistent

/-- `tracked_bytes`, from the cache or from the scan that seeds it. -/
def trackedBytes (dataset : DatabaseDataset) (period : MeasurementPeriod) : Nat :=
  (store.logicalBytes period).getD (logicalSize blockRows period (store.table dataset))

def trackedHarmonicBytes (dataset : DatabaseDataset) (period : MeasurementPeriod) : Nat :=
  (store.harmonicLogicalBytes period).getD
    (logicalSize familyRows period (store.history.harmonics dataset).families)

def forgetTrackedBytes (history : MeterHistoryStore) : TrackedStore := { history }

def withTable (dataset : DatabaseDataset) (blocks : List Block) : MeterHistoryStore :=
  { store.history with
    store := if store.history.store.volatile dataset then
        { store.history.store with memory := blocks }
      else { store.history.store with persistent := blocks } }

def append (update : MeterUpdate) (streamCursor : Nat) (measuredAt : Int) :
    Except Failure TrackedStore := do
  let dataset ← datasetFor update.period
  if ∃ floor ∈ store.history.store.clearFloors dataset, streamCursor ≤ floor then return store
  -- the size is seeded before the insert, or the new block would count twice
  let tracked := store.trackedBytes dataset update.period
  let table := store.table dataset
  let appendedValues := update.values.length
  let inserted : Tracked Block :=
    if stored table streamCursor update.period then ⟨table, tracked⟩
    else ⟨table ++ [storedBlock update streamCursor measuredAt],
      tracked + (96 + appendedValues * 40)⟩
  let kept := enforce blockRows update.period (store.history.store.policies dataset).retention
    measuredAt inserted
  return { store with
    history := store.withTable dataset kept.table
    logicalBytes := Function.update store.logicalBytes update.period (some kept.tracked) }

def appendHarmonicRecord (record : MeterRecord) (streamCursor : Nat) (measuredAt : Int) :
    Except Failure TrackedStore :=
  match decodeHarmonicRecord record with
  | .error failure => .error failure
  | .ok chunk =>
      let period := chunk.provenance.period
      if period = .basic then
        .error (.invalidArgument "base harmonic families are latest-only")
      else match harmonicDatasetFor period with
        | .error failure => .error failure
        | .ok dataset =>
            if ∃ floor ∈ store.history.store.clearFloors dataset, streamCursor ≤ floor then
              .ok store
            else
              let tracked := store.trackedHarmonicBytes dataset period
              let tables := store.history.harmonics dataset
              let row := MeterHistoryStore.fragmentOf chunk record streamCursor measuredAt
              let seeded := Function.update store.harmonicLogicalBytes period (some tracked)
              if (tables.gatheredFor row).length ≠ harmonicRecordsPerFamily then
                .ok { store with
                  history := store.history.withHarmonics dataset
                    ⟨tables.grown row, tables.families⟩
                  harmonicLogicalBytes := seeded }
              else match assembleFamily
                  (HarmonicTables.inFragmentOrder (tables.gatheredFor row)) with
                | .error failure => .error failure
                | .ok family =>
                    if tables.collides family then
                      .ok { store with
                        history := store.history.withHarmonics dataset
                          ⟨tables.finished row, tables.families⟩
                        harmonicLogicalBytes := seeded }
                    else
                      let kept := enforce familyRows period
                        (store.history.store.policies dataset).retention measuredAt
                        ⟨tables.families ++ [family], tracked + familyBytes family⟩
                      .ok { store with
                        history := store.history.withHarmonics dataset
                          ⟨tables.finished row, kept.table⟩
                        harmonicLogicalBytes := Function.update store.harmonicLogicalBytes period
                          (some kept.tracked) }

/-- `status` reads the size of every dataset, which seeds what is not cached. -/
def status : TrackedStore :=
  { store with
    logicalBytes := fun period => match datasetFor period with
      | .error _ => store.logicalBytes period
      | .ok dataset => some (store.trackedBytes dataset period)
    harmonicLogicalBytes := fun period => match harmonicDatasetFor period with
      | .error _ => store.harmonicLogicalBytes period
      | .ok dataset => some (store.trackedHarmonicBytes dataset period) }

/-- `prepare_policy_migration`: what moves to memory starts empty there. -/
def preparePolicyMigration (policies : DatabaseDataset → DatabaseStoragePolicy) : TrackedStore :=
  let moved := store.history.applyPolicies policies
  forgetTrackedBytes
    { moved with store := { moved.store with policies := store.history.store.policies } }

def applyPolicies (policies : DatabaseDataset → DatabaseStoragePolicy) : TrackedStore :=
  forgetTrackedBytes
    { store.history with store := { store.history.store with policies } }

/-- The public operations that can change rows, routing or sizes. -/
inductive Operation where
  | append (update : DecodedUpdate) (streamCursor : Nat) (measuredAt : Int)
  | appendHarmonicRecord (record : MeterRecord) (streamCursor : Nat) (measuredAt : Int)
  | status
  | preparePolicyMigration (policies : DatabaseDataset → DatabaseStoragePolicy)
  | applyPolicies (policies : DatabaseDataset → DatabaseStoragePolicy)
  | clearDatasets (datasets : List DatabaseDataset) (through : Nat)
  | recreateDatabase (through : Nat)
  | reopen (policies : DatabaseDataset → DatabaseStoragePolicy)
  | upsertPowerQualityEvent (row : CatalogEntry)
  | deletePowerQualityEvents (eventUuids : List (List UInt8))
  | clearPowerQualityEvents

def after : Operation → Except Failure TrackedStore
  | .append update streamCursor measuredAt => store.append update.val streamCursor measuredAt
  | .appendHarmonicRecord record streamCursor measuredAt =>
      store.appendHarmonicRecord record streamCursor measuredAt
  | .status => .ok store.status
  | .preparePolicyMigration policies => .ok (store.preparePolicyMigration policies)
  | .applyPolicies policies => .ok (store.applyPolicies policies)
  | .clearDatasets datasets through => do
      let (cleared, finished) := store.history.clearDatasets datasets through .done
      finished
      return forgetTrackedBytes cleared
  | .recreateDatabase through =>
      .ok (forgetTrackedBytes (store.history.recreateDatabase through (.ok ())).1)
  | .reopen policies => .ok (forgetTrackedBytes (store.history.reopen policies))
  | .upsertPowerQualityEvent row => do
      let changed ← store.history.store.upsertPowerQualityEvent row (.ok ())
      return { store with history := { store.history with store := changed } }
  | .deletePowerQualityEvents eventUuids => do
      let changed ← store.history.store.deletePowerQualityEvents eventUuids (.ok ())
      return { store with history := { store.history with store := changed } }
  | .clearPowerQualityEvents => do
      let changed ← store.history.store.clearPowerQualityEvents (.ok ())
      return { store with history := { store.history with store := changed } }

def run (policies : DatabaseDataset → DatabaseStoragePolicy) (operations : List Operation) :
    Except Failure TrackedStore :=
  operations.foldlM TrackedStore.after (forgetTrackedBytes { store := { policies } })

end TrackedStore

end Msap1.Historian
