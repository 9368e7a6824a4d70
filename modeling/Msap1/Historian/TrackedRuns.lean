import Msap1.Historian.TrackedSizes

/-! Every run of successful operations keeps the cached sizes exact, and an append removes what the
caps ask for and no more. -/

namespace Msap1.Historian

open Meter ShortestPrefix
open Spool (DatabaseStoragePolicy)

section Values

theorem foldl_insertValue {before values : List HistoryValue}
    (distinct : ((before ++ values).map HistoryValue.attributeId).Nodup) :
    values.foldl insertValue before = before ++ values := by
  induction values generalizing before with
  | nil => simp
  | cons value values ih =>
      have kept : before.filter (fun other => other.attributeId ≠ value.attributeId) = before := by
        apply List.filter_eq_self.mpr
        intro other member
        rw [List.map_append, List.nodup_append] at distinct
        have apart := distinct.2.2 _ (List.mem_map_of_mem member) value.attributeId
          (List.mem_map_of_mem List.mem_cons_self)
        simpa using apart
      rw [List.foldl_cons, insertValue, kept, ih (by simpa using distinct), List.append_assoc,
        List.singleton_append]

theorem partAttributes_distinct : partAttributes.flatten.Nodup := by decide +kernel

theorem energyRows_attributes (energy : EnergyValues) :
    (energyRows energy).map HistoryValue.attributeId = (List.finRange 28).map .energy := by
  simp [energyRows, Function.comp_def]

theorem demandRows_attributes (demand : DemandValues) :
    (demandRows demand).map HistoryValue.attributeId = (List.finRange 12).map .demand := by
  simp [demandRows, Function.comp_def]

theorem values_distinct {update : MeterUpdate} (whole : update.WholeParts) :
    (update.values.map HistoryValue.attributeId).Nodup := by
  obtain ⟨parts, present, puts⟩ := whole
  have own : (update.readings.map AttributeReading.attributeId).Nodup := by
    rw [puts]
    exact partAttributes_distinct.sublist present.flatten
  have readings : ((update.readings.map AttributeReading.attributeId).map
      HistoryAttribute.reading).Nodup := own.map fun _ _ same => by cases same; rfl
  have energy : (((update.energy.map energyRows).getD []).map HistoryValue.attributeId).Sublist
      ((List.finRange 28).map .energy) := by
    cases update.energy with
    | none => exact List.nil_sublist _
    | some energy =>
        rw [Option.map_some, Option.getD_some, energyRows_attributes]
  have demand : (((update.demand.map demandRows).getD []).map HistoryValue.attributeId).Sublist
      ((List.finRange 12).map .demand) := by
    cases update.demand with
    | none => exact List.nil_sublist _
    | some demand =>
        rw [Option.map_some, Option.getD_some, demandRows_attributes]
  have lanes : (((List.finRange 28).map HistoryAttribute.energy) ++
      (List.finRange 12).map HistoryAttribute.demand).Nodup := by decide +kernel
  rw [MeterUpdate.values, List.map_append, List.map_append, List.append_assoc, List.map_map,
    List.nodup_append]
  rw [List.map_map] at readings
  refine ⟨readings, lanes.sublist (energy.append demand), ?_⟩
  intro first inReadings second inLanes same
  obtain ⟨reading, -, rfl⟩ := List.mem_map.mp inReadings
  have lane := (energy.append demand).subset inLanes
  rw [← same] at lane
  simp at lane

theorem storedBlock_eq {update : MeterUpdate} (whole : update.WholeParts) (streamCursor : Nat)
    (measuredAt : Int) :
    storedBlock update streamCursor measuredAt = update.block streamCursor measuredAt := by
  rw [storedBlock, foldl_insertValue (by simpa using values_distinct whole)]
  rfl

end Values

section Tables

variable {Row : Type} [DecidableEq Row] {rows : RetainedRows Row} {period other : MeasurementPeriod}

def keptRows (rows : RetainedRows Row) (period : MeasurementPeriod)
    (policy : Spool.RetentionPolicy) (measuredAt : Int) (table : List Row) : List Row :=
  let young := youngRows rows period policy measuredAt table
  young.filter fun row => !(surplusRows rows period policy young).contains row

omit [DecidableEq Row] in
theorem surplusRows_period {policy : Spool.RetentionPolicy} {table : List Row} {row : Row}
    (gone : row ∈ surplusRows rows period policy table) : rows.period row = period := by
  unfold surplusRows at gone
  split at gone
  · cases gone
  · exact ((oldestFirst_mem rows period none table row).mp
      ((evict_leading _ _ _).subset gone)).2.1

omit [DecidableEq Row] in
theorem youngRows_sublist (policy : Spool.RetentionPolicy) (measuredAt : Int) (table : List Row) :
    (youngRows rows period policy measuredAt table).Sublist table := by
  unfold youngRows
  split
  · exact List.Sublist.refl _
  · exact List.filter_sublist

theorem keptRows_sublist (policy : Spool.RetentionPolicy) (measuredAt : Int) (table : List Row) :
    (keptRows rows period policy measuredAt table).Sublist table :=
  List.filter_sublist.trans (youngRows_sublist policy measuredAt table)

theorem keptRows_other (apart : other ≠ period) (policy : Spool.RetentionPolicy) (measuredAt : Int)
    (table : List Row) :
    (keptRows rows period policy measuredAt table).filter (fun row => rows.period row = other) =
      table.filter fun row => rows.period row = other := by
  have young : (youngRows rows period policy measuredAt table).filter
      (fun row => rows.period row = other) = table.filter fun row => rows.period row = other := by
    unfold youngRows
    split
    · rfl
    · rw [List.filter_filter]
      apply List.filter_congr
      intro row _
      by_cases own : rows.period row = other
      · simp [own, apart]
      · simp [own]
  rw [← young, keptRows, List.filter_filter]
  apply List.filter_congr
  intro row _
  by_cases own : rows.period row = other
  · have outside : row ∉ surplusRows rows period policy
        (youngRows rows period policy measuredAt table) := fun gone =>
      apart (own.symm.trans (surplusRows_period gone))
    simp [own, outside]
  · simp [own]

theorem keptRows_size_other (apart : other ≠ period) (policy : Spool.RetentionPolicy)
    (measuredAt : Int) (table : List Row) :
    logicalSize rows other (keptRows rows period policy measuredAt table) =
      logicalSize rows other table := by
  rw [logicalSize, keptRows_other apart, logicalSize]

theorem enforce_kept {policy : Spool.RetentionPolicy} {measuredAt : Int} {table : List Row}
    (distinct : table.Nodup) :
    enforce rows period policy measuredAt ⟨table, logicalSize rows period table⟩ =
      ⟨keptRows rows period policy measuredAt table,
        logicalSize rows period (keptRows rows period policy measuredAt table)⟩ :=
  enforce_eq distinct

omit [DecidableEq Row] in
theorem logicalSize_added (table : List Row) (row : Row) :
    logicalSize rows period (table ++ [row]) = logicalSize rows period table +
      if rows.period row = period then rows.bytes row else 0 := by
  rw [logicalSize, List.filter_append, weigh_append, ← logicalSize]
  by_cases own : rows.period row = period <;> simp [own]

end Tables

section Refinement

theorem oldestFirst_none {Row : Type} (rows : RetainedRows Row) (period : MeasurementPeriod)
    (table : List Row) :
    oldestFirst rows period none table =
      (table.filter fun row => rows.period row = period).mergeSort
        (StableSort.byKey rows.measuredAt) := by
  simp [oldestFirst]

theorem surplusBlocks_evict (surplus : Nat) (blocks : List Block) :
    surplusBlocks surplus blocks = evict blockBytes 0 surplus blocks := by
  induction blocks generalizing surplus with
  | nil => rfl
  | cons block blocks ih =>
      rw [surplusBlocks, evict, ih]
      simp only [Nat.le_zero_eq]

theorem surplusFamilies_evict (surplus : Nat) (families : List HarmonicFamily) :
    surplusFamilies surplus families = evict familyBytes 0 surplus families := by
  induction families generalizing surplus with
  | nil => rfl
  | cons family families ih =>
      rw [surplusFamilies, evict, ih]
      simp only [Nat.le_zero_eq]

theorem appendBlock_kept (policy : DatabaseStoragePolicy) (block : Block) (blocks : List Block) :
    appendBlock policy block blocks =
      keptRows blockRows block.period policy.retention block.measuredAt
        (insertBlock blocks block) := by
  have young : withinAge policy.retention.maximumAgeSeconds block.period block.measuredAt
      (insertBlock blocks block) = youngRows blockRows block.period policy.retention
        block.measuredAt (insertBlock blocks block) := rfl
  rw [appendBlock, young, keptRows]
  generalize youngRows blockRows block.period policy.retention block.measuredAt
    (insertBlock blocks block) = table
  unfold withinBytes surplusRows
  cases policy.retention.maximumBytes with
  | none => simp
  | some maximum =>
      dsimp only
      rw [evict_surplus, oldestFirst_none, surplusBlocks_evict]
      rfl

theorem retained_kept (policy : DatabaseStoragePolicy) (period : MeasurementPeriod)
    (measuredAt : Int) (families : List HarmonicFamily) :
    retained policy period measuredAt families =
      keptRows familyRows period policy.retention measuredAt families := by
  unfold retained keptRows youngRows surplusRows
  cases policy.retention.maximumAgeSeconds <;> cases policy.retention.maximumBytes
  case none.none | some.none => exact (filter_none _).symm
  case none.some | some.some =>
    dsimp only
    rw [evict_surplus, oldestFirst_none, surplusFamilies_evict]
    rfl

end Refinement

/-- No two blocks of a table share cursor and period. -/
def KeyedTable (table : List Block) : Prop :=
  (table.map fun block => (block.streamCursor, block.period)).Nodup

theorem KeyedTable.nodup {table : List Block} (keyed : KeyedTable table) : table.Nodup :=
  List.Nodup.of_map _ keyed

theorem insertBlock_stored {table : List Block} {block : Block}
    (known : stored table block.streamCursor block.period) : insertBlock table block = table :=
  if_pos known

theorem insertBlock_new {table : List Block} {block : Block}
    (new : ¬ stored table block.streamCursor block.period) :
    insertBlock table block = table ++ [block] := if_neg new

theorem insertBlock_keyed {table : List Block} (keyed : KeyedTable table) (block : Block) :
    KeyedTable (insertBlock table block) := by
  by_cases known : stored table block.streamCursor block.period
  · rw [insertBlock_stored known]
    exact keyed
  · rw [insertBlock_new known, KeyedTable, List.map_append, List.map_singleton, List.nodup_append]
    refine ⟨keyed, List.nodup_singleton _, ?_⟩
    intro key member last own same
    rw [List.mem_singleton.mp own] at same
    obtain ⟨other, held, rfl⟩ := List.mem_map.mp member
    exact known ⟨other, held, (Prod.mk.inj same).1, (Prod.mk.inj same).2⟩

namespace TrackedStore

variable {store after : TrackedStore}

/-- The size of each period is what its cache says, if it says anything. -/
structure Exact (store : TrackedStore) : Prop where
  memory : KeyedTable store.history.store.memory
  persistent : KeyedTable store.history.store.persistent
  memoryFamilies : store.history.memoryHarmonics.families.Nodup
  persistentFamilies : store.history.persistentHarmonics.families.Nodup
  staging : store.history.Staging
  sizes : ∀ period dataset, datasetFor period = .ok dataset →
    store.trackedBytes dataset period = logicalSize blockRows period (store.table dataset)
  harmonicSizes : ∀ period dataset, harmonicDatasetFor period = .ok dataset →
    store.trackedHarmonicBytes dataset period =
      logicalSize familyRows period (store.history.harmonics dataset).families

theorem Exact.keyed (exact : store.Exact) (dataset : DatabaseDataset) :
    KeyedTable (store.table dataset) := by
  unfold table
  split
  · exact exact.memory
  · exact exact.persistent

theorem Exact.distinctFamilies (exact : store.Exact) (dataset : DatabaseDataset) :
    (store.history.harmonics dataset).families.Nodup := by
  unfold MeterHistoryStore.harmonics
  split
  · exact exact.memoryFamilies
  · exact exact.persistentFamilies

theorem forgotten_exact {history : MeterHistoryStore} (memory : KeyedTable history.store.memory)
    (persistent : KeyedTable history.store.persistent)
    (memoryFamilies : history.memoryHarmonics.families.Nodup)
    (persistentFamilies : history.persistentHarmonics.families.Nodup)
    (staging : history.Staging) : (forgetTrackedBytes history).Exact where
  memory := memory
  persistent := persistent
  memoryFamilies := memoryFamilies
  persistentFamilies := persistentFamilies
  staging := staging
  sizes _ _ _ := rfl
  harmonicSizes _ _ _ := rfl

def appendedTable (store : TrackedStore) (dataset : DatabaseDataset) (block : Block) : List Block :=
  keptRows blockRows block.period (store.history.store.policies dataset).retention
    block.measuredAt (insertBlock (store.table dataset) block)

theorem append_ok {update : MeterUpdate} {streamCursor : Nat} {measuredAt : Int}
    (exact : store.Exact) (whole : update.WholeParts)
    (appended : store.append update streamCursor measuredAt = .ok after) :
    ∃ dataset, datasetFor update.period = .ok dataset ∧
      ((∃ floor ∈ store.history.store.clearFloors dataset, streamCursor ≤ floor) ∧ after = store ∨
        (¬ ∃ floor ∈ store.history.store.clearFloors dataset, streamCursor ≤ floor) ∧
          let kept := store.appendedTable dataset (update.block streamCursor measuredAt)
          after = { store with
            history := store.withTable dataset kept
            logicalBytes := Function.update store.logicalBytes update.period
              (some (logicalSize blockRows update.period kept)) }) := by
  obtain ⟨dataset, routed, appended⟩ := Loops.bind_ok appended
  refine ⟨dataset, routed, ?_⟩
  split at appended
  · next below =>
      cases appended
      exact .inl ⟨below, rfl⟩
  · next above =>
      refine .inr ⟨above, ?_⟩
      have inserted : (if stored (store.table dataset) streamCursor update.period then
          (⟨store.table dataset, store.trackedBytes dataset update.period⟩ : Tracked Block)
        else ⟨store.table dataset ++ [storedBlock update streamCursor measuredAt],
          store.trackedBytes dataset update.period + (96 + update.values.length * 40)⟩) =
          ⟨insertBlock (store.table dataset) (update.block streamCursor measuredAt),
            logicalSize blockRows update.period
              (insertBlock (store.table dataset) (update.block streamCursor measuredAt))⟩ := by
        rw [storedBlock_eq whole, exact.sizes update.period dataset routed]
        split
        · next known => rw [insertBlock_stored known]
        · next new =>
            have own :
                blockRows.period (update.block streamCursor measuredAt) = update.period := rfl
            rw [insertBlock_new new, logicalSize_added, if_pos own]
            rfl
      simp only at appended
      rw [inserted, enforce_kept (insertBlock_keyed (exact.keyed dataset) _).nodup] at appended
      cases appended
      rfl

theorem append_refines {update : MeterUpdate} {streamCursor : Nat} {measuredAt : Int}
    (exact : store.Exact) (whole : update.WholeParts)
    (appended : store.append update streamCursor measuredAt = .ok after) :
    store.history.store.append update streamCursor measuredAt (.ok ()) =
      .ok after.history.store := by
  obtain ⟨dataset, routed, ⟨below, rfl⟩ | ⟨above, rfl⟩⟩ := append_ok exact whole appended
  · rw [HistoryStore.append, routed]
    exact if_pos below
  · have kept : store.appendedTable dataset (update.block streamCursor measuredAt) =
        appendBlock (store.history.store.policies dataset) (update.block streamCursor measuredAt)
          (store.table dataset) := (appendBlock_kept _ _ _).symm
    rw [HistoryStore.append, routed]
    refine (if_neg above).trans ?_
    simp only [kept, withTable, table]
    split <;> rfl

theorem table_withTable (written dataset : DatabaseDataset) (blocks : List Block)
    (sizes : MeasurementPeriod → Option Nat) :
    ({ store with history := store.withTable written blocks, logicalBytes := sizes } :
      TrackedStore).table dataset =
        if store.history.store.volatile written = store.history.store.volatile dataset then blocks
        else store.table dataset := by
  unfold table withTable
  cases written_ : store.history.store.volatile written <;>
    cases dataset_ : store.history.store.volatile dataset <;>
      simp_all [HistoryStore.volatile]

theorem appendedTable_sublist (dataset : DatabaseDataset) (block : Block) :
    (store.appendedTable dataset block).Sublist (insertBlock (store.table dataset) block) :=
  keptRows_sublist _ _ _

theorem appendedTable_keyed (exact : store.Exact) (dataset : DatabaseDataset) (block : Block) :
    KeyedTable (store.appendedTable dataset block) :=
  (insertBlock_keyed (exact.keyed dataset) block).sublist
    ((appendedTable_sublist dataset block).map _)

theorem appendedTable_other {dataset : DatabaseDataset} {block : Block}
    {other : MeasurementPeriod} (apart : other ≠ block.period) :
    logicalSize blockRows other (store.appendedTable dataset block) =
      logicalSize blockRows other (store.table dataset) := by
  rw [appendedTable, keptRows_size_other apart]
  by_cases known : stored (store.table dataset) block.streamCursor block.period
  · rw [insertBlock_stored known]
  · have foreign : ¬ blockRows.period block = other := fun same => apart same.symm
    rw [insertBlock_new known, logicalSize_added, if_neg foreign, Nat.add_zero]

theorem append_exact {update : MeterUpdate} {streamCursor : Nat} {measuredAt : Int}
    (exact : store.Exact) (whole : update.WholeParts)
    (appended : store.append update streamCursor measuredAt = .ok after) : after.Exact := by
  obtain ⟨dataset, routed, ⟨-, rfl⟩ | ⟨-, rfl⟩⟩ := append_ok exact whole appended
  · exact exact
  · have keyed := appendedTable_keyed exact dataset (update.block streamCursor measuredAt)
    have sameHarmonics : ∀ other, (store.withTable dataset (store.appendedTable dataset
        (update.block streamCursor measuredAt))).harmonics other =
          store.history.harmonics other := by
      intro other
      unfold MeterHistoryStore.harmonics withTable HistoryStore.volatile
      split <;> split <;> simp_all
    refine ⟨?_, ?_, exact.memoryFamilies, exact.persistentFamilies,
      ⟨exact.staging.memory, exact.staging.persistent, exact.staging.families⟩, ?_, ?_⟩
    · simp only [withTable]
      split
      · exact keyed
      · exact exact.memory
    · simp only [withTable]
      split
      · exact exact.persistent
      · exact keyed
    · intro period other own
      rw [trackedBytes, table_withTable]
      dsimp only
      by_cases same : period = update.period
      · subst same
        obtain rfl := Except.ok.inj (routed.symm.trans own)
        rw [Function.update_self, if_pos rfl, Option.getD_some]
      · rw [Function.update_of_ne same]
        have before := exact.sizes period other own
        rw [trackedBytes] at before
        split
        · next shared =>
            have tables : store.table dataset = store.table other := by rw [table, table, shared]
            rw [appendedTable_other same, tables]
            exact before
        · exact before
    · intro period other own
      rw [trackedHarmonicBytes, sameHarmonics]
      exact exact.harmonicSizes period other own

theorem collides_member {tables : HarmonicTables} {family : HarmonicFamily}
    (member : family ∈ tables.families) : tables.collides family :=
  ⟨family, member, .inl rfl⟩

theorem enforce_family {tables : HarmonicTables} {family : HarmonicFamily}
    {period : MeasurementPeriod} {policy : DatabaseStoragePolicy} {measuredAt : Int}
    (distinct : tables.families.Nodup) (free : ¬ tables.collides family)
    (own : family.period = period) :
    enforce familyRows period policy.retention measuredAt ⟨tables.families ++ [family],
      logicalSize familyRows period tables.families + familyBytes family⟩ =
        ⟨retained policy period measuredAt (tables.families ++ [family]),
          logicalSize familyRows period
            (retained policy period measuredAt (tables.families ++ [family]))⟩ := by
  have grown : (tables.families ++ [family]).Nodup := by
    rw [List.nodup_append]
    refine ⟨distinct, List.nodup_singleton _, ?_⟩
    intro other member last inLast same
    rw [List.mem_singleton.mp inLast] at same
    exact free (collides_member (same ▸ member))
  have size : logicalSize familyRows period tables.families + familyBytes family =
      logicalSize familyRows period (tables.families ++ [family]) := by
    have inPeriod : familyRows.period family = period := own
    rw [logicalSize_added, if_pos inPeriod]
    rfl
  rw [size, enforce_kept grown, retained_kept]

/-- The outcome of a harmonic record, as the history keeps it and with the size of its period. -/
theorem appendHarmonic_ok {record : MeterRecord} {streamCursor : Nat} {measuredAt : Int}
    (exact : store.Exact)
    (appended : store.appendHarmonicRecord record streamCursor measuredAt = .ok after) :
    after = store ∨ ∃ chunk dataset tables inserted, decodeHarmonicRecord record = .ok chunk ∧
      harmonicDatasetFor chunk.provenance.period = .ok dataset ∧
      (store.history.harmonics dataset).Appended (store.history.store.policies dataset)
        (MeterHistoryStore.fragmentOf chunk record streamCursor measuredAt) tables inserted ∧
      after = { store with
        history := store.history.withHarmonics dataset tables
        harmonicLogicalBytes := Function.update store.harmonicLogicalBytes chunk.provenance.period
          (some (logicalSize familyRows chunk.provenance.period tables.families)) } := by
  unfold appendHarmonicRecord at appended
  split at appended
  · cases appended
  · next chunk read =>
      dsimp only at appended
      split at appended
      · cases appended
      · split at appended
        · cases appended
        · next dataset routed =>
            have known := exact.harmonicSizes _ dataset routed
            split at appended
            · cases appended
              exact .inl rfl
            · refine .inr ?_
              rw [known] at appended
              split at appended
              · next more =>
                  cases appended
                  exact ⟨chunk, dataset, _, _, read, routed, .staged more, rfl⟩
              · next full =>
                  split at appended
                  · cases appended
                  · next family assembled =>
                      split at appended
                      · next held =>
                          cases appended
                          exact ⟨chunk, dataset, _, _, read, routed,
                            .ignored family (not_not.mp full) assembled held, rfl⟩
                      · next free =>
                          cases appended
                          refine ⟨chunk, dataset, _, _, read, routed,
                            .stored family (not_not.mp full) assembled free, ?_⟩
                          obtain ⟨provenance, shape, own⟩ := HarmonicTables.assembled_period
                            (exact.staging.harmonics dataset)
                            (MeterHistoryStore.fragmentOf_keyed read) assembled
                          have inPeriod : family.period = chunk.provenance.period :=
                            shape.period.trans own
                          rw [enforce_family (exact.distinctFamilies dataset) free inPeriod]
                          rfl

theorem appended_families {tables later : HarmonicTables} {policy : DatabaseStoragePolicy}
    {row : PendingFragment} {inserted : Option HarmonicFamily}
    (appended : tables.Appended policy row later inserted) (staging : tables.Staging)
    (keyed : HarmonicTables.Keyed row) (distinct : tables.families.Nodup) :
    later.families.Nodup ∧ ∀ other, other ≠ row.period →
      logicalSize familyRows other later.families =
        logicalSize familyRows other tables.families := by
  cases appended with
  | staged more => exact ⟨distinct, fun _ _ => rfl⟩
  | ignored family full assembled known => exact ⟨distinct, fun _ _ => rfl⟩
  | stored family full assembled free =>
      obtain ⟨provenance, shape, own⟩ := HarmonicTables.assembled_period staging keyed assembled
      have grown : (tables.families ++ [family]).Nodup := by
        rw [List.nodup_append]
        refine ⟨distinct, List.nodup_singleton _, ?_⟩
        intro other member last inLast same
        rw [List.mem_singleton.mp inLast] at same
        exact free (collides_member (same ▸ member))
      dsimp only
      rw [retained_kept]
      refine ⟨grown.sublist (keptRows_sublist _ _ _), ?_⟩
      intro other apart
      have foreign : ¬ familyRows.period family = other := fun same =>
        apart (same.symm.trans (shape.period.trans own))
      rw [keptRows_size_other apart, logicalSize_added, if_neg foreign, Nat.add_zero]

theorem appendHarmonic_exact {record : MeterRecord} {streamCursor : Nat} {measuredAt : Int}
    (exact : store.Exact)
    (appended : store.appendHarmonicRecord record streamCursor measuredAt = .ok after) :
    after.Exact := by
  obtain rfl | ⟨chunk, dataset, tables, inserted, read, routed, step, rfl⟩ :=
    appendHarmonic_ok exact appended
  · exact exact
  · obtain ⟨distinct, others⟩ := appended_families step (exact.staging.harmonics dataset)
      (MeterHistoryStore.fragmentOf_keyed read) (exact.distinctFamilies dataset)
    have staged := (MeterHistoryStore.harmonicStep_staging
      (.appended chunk dataset tables inserted read routed step) exact.staging).1
    have sameStore : (store.history.withHarmonics dataset tables).store = store.history.store := by
      unfold MeterHistoryStore.withHarmonics
      split <;> rfl
    refine ⟨?_, ?_, ?_, ?_, staged, ?_, ?_⟩
    · dsimp only
      rw [sameStore]
      exact exact.memory
    · dsimp only
      rw [sameStore]
      exact exact.persistent
    · simp only [MeterHistoryStore.withHarmonics]
      split
      · exact distinct
      · exact exact.memoryFamilies
    · simp only [MeterHistoryStore.withHarmonics]
      split
      · exact exact.persistentFamilies
      · exact distinct
    · intro period other own
      have size := exact.sizes period other own
      unfold trackedBytes table at size ⊢
      dsimp only
      rw [sameStore]
      exact size
    · intro period other own
      rw [trackedHarmonicBytes, MeterHistoryStore.harmonics_withHarmonics]
      dsimp only
      by_cases same : period = chunk.provenance.period
      · subst same
        obtain rfl := Except.ok.inj (routed.symm.trans own)
        rw [Function.update_self, if_pos rfl, Option.getD_some]
      · rw [Function.update_of_ne same]
        have before := exact.harmonicSizes period other own
        rw [trackedHarmonicBytes] at before
        split
        · next shared =>
            have tablesSame := store.history.harmonics_same shared
            rw [others period same, tablesSame]
            exact before
        · exact before

theorem status_exact (exact : store.Exact) : store.status.Exact where
  memory := exact.memory
  persistent := exact.persistent
  memoryFamilies := exact.memoryFamilies
  persistentFamilies := exact.persistentFamilies
  staging := exact.staging
  sizes period dataset own := by
    have size := exact.sizes period dataset own
    rw [trackedBytes]
    simp only [status, own, Option.getD_some]
    exact size
  harmonicSizes period dataset own := by
    have size := exact.harmonicSizes period dataset own
    rw [trackedHarmonicBytes]
    simp only [status, own, Option.getD_some]
    exact size

theorem events_exact (exact : store.Exact) (events : List CatalogEntry) :
    Exact { store with history := { store.history with
      store := { store.history.store with events } } } where
  memory := exact.memory
  persistent := exact.persistent
  memoryFamilies := exact.memoryFamilies
  persistentFamilies := exact.persistentFamilies
  staging := ⟨exact.staging.memory, exact.staging.persistent, exact.staging.families⟩
  sizes := exact.sizes
  harmonicSizes := exact.harmonicSizes

theorem without_nodup {tables : HarmonicTables} (distinct : tables.families.Nodup)
    (datasets : List DatabaseDataset) : (tables.without datasets).families.Nodup :=
  distinct.filter _

theorem KeyedTable.filter {table : List Block} (keyed : KeyedTable table) (keep : Block → Bool) :
    KeyedTable (table.filter keep) :=
  keyed.sublist (List.filter_sublist.map _)

theorem cleared_tables {history cleared : HistoryStore} {datasets : List DatabaseDataset}
    {through : Nat} (done : history.clearDatasets datasets through = .ok cleared) :
    cleared.memory = history.memory.filter (fun block => !datasets.any (fun dataset =>
        periodFor dataset = some block.period)) ∧
      cleared.persistent = history.persistent.filter (fun block => !datasets.any (fun dataset =>
        periodFor dataset = some block.period)) := by
  unfold HistoryStore.clearDatasets at done
  repeat' split at done
  all_goals cases done
  exact ⟨rfl, rfl⟩

theorem after_exact (exact : store.Exact) (operation : Operation)
    (succeeded : store.after operation = .ok after) : after.Exact := by
  cases operation with
  | append update streamCursor measuredAt =>
      exact append_exact exact update.property succeeded
  | appendHarmonicRecord record streamCursor measuredAt =>
      exact appendHarmonic_exact exact succeeded
  | status =>
      cases succeeded
      exact status_exact exact
  | preparePolicyMigration policies =>
      cases succeeded
      have staged := (MeterHistoryStore.after_staging (.applyPolicies policies) exact.staging).1
      exact forgotten_exact (KeyedTable.filter exact.memory _) exact.persistent
        (without_nodup exact.memoryFamilies _) exact.persistentFamilies
        ⟨staged.memory, staged.persistent, staged.families⟩
  | applyPolicies policies =>
      cases succeeded
      exact forgotten_exact exact.memory exact.persistent exact.memoryFamilies
        exact.persistentFamilies
        ⟨exact.staging.memory, exact.staging.persistent, exact.staging.families⟩
  | clearDatasets datasets through =>
      have staged := MeterHistoryStore.clearDatasets_staging datasets through .done exact.staging
      simp only [TrackedStore.after, MeterHistoryStore.clearDatasets] at succeeded
      unfold MeterHistoryStore.clearDatasets at staged
      split at succeeded
      · cases succeeded
      · next cleared done =>
          simp only [done] at staged
          obtain ⟨memory, persistent⟩ := cleared_tables done
          cases succeeded
          refine forgotten_exact ?_ ?_ (without_nodup exact.memoryFamilies _)
            (without_nodup exact.persistentFamilies _) staged
          · dsimp only
            rw [memory]
            exact KeyedTable.filter exact.memory _
          · dsimp only
            rw [persistent]
            exact KeyedTable.filter exact.persistent _
  | recreateDatabase through =>
      cases succeeded
      exact forgotten_exact List.nodup_nil List.nodup_nil List.nodup_nil List.nodup_nil
        (MeterHistoryStore.after_staging (.recreateDatabase through (.ok ())) exact.staging).1
  | reopen policies =>
      cases succeeded
      exact forgotten_exact List.nodup_nil exact.persistent List.nodup_nil
        exact.persistentFamilies
        (MeterHistoryStore.after_staging (.restart policies) exact.staging).1
  | upsertPowerQualityEvent row =>
      cases succeeded
      exact events_exact exact _
  | deletePowerQualityEvents eventUuids =>
      obtain ⟨changed, removed, succeeded⟩ := Loops.bind_ok succeeded
      cases succeeded
      unfold HistoryStore.deletePowerQualityEvents at removed
      repeat' split at removed
      all_goals cases removed
      exact events_exact exact _
  | clearPowerQualityEvents =>
      cases succeeded
      exact events_exact exact _

theorem run_exact {policies : DatabaseDataset → DatabaseStoragePolicy}
    {operations : List Operation} (succeeded : run policies operations = .ok store) :
    store.Exact := by
  have start : (forgetTrackedBytes { store := { policies } }).Exact :=
    forgotten_exact List.nodup_nil List.nodup_nil List.nodup_nil List.nodup_nil
      ⟨HarmonicTables.staging_empty, HarmonicTables.staging_empty, fun _ absent => nomatch absent⟩
  unfold run at succeeded
  generalize forgetTrackedBytes { store := { policies } } = first at start succeeded
  induction operations generalizing first with
  | nil =>
      cases succeeded
      exact start
  | cons operation operations ih =>
      rw [List.foldlM_cons] at succeeded
      obtain ⟨later, stepped, succeeded⟩ := Loops.bind_ok succeeded
      exact ih later (after_exact start operation stepped) succeeded

/-- A table after both caps: what is too old is gone, and of the rest the shortest start of the
oldest rows that brings the size of the period within the byte cap. -/
def CapsApplied {Row : Type} [DecidableEq Row] (rows : RetainedRows Row)
    (period : MeasurementPeriod) (policy : Spool.RetentionPolicy) (measuredAt : Int)
    (table kept : List Row) : Prop :=
  let young := youngRows rows period policy measuredAt table
  ∃ removed, kept = young.filter (fun row => !removed.contains row) ∧
    match policy.maximumBytes with
    | none => removed = []
    | some maximum => Shortest rows.bytes maximum (logicalSize rows period young)
        (oldestFirst rows period none young) removed

theorem keptRows_caps {Row : Type} [DecidableEq Row] (rows : RetainedRows Row)
    (period : MeasurementPeriod) (policy : Spool.RetentionPolicy) (measuredAt : Int)
    (table : List Row) :
    CapsApplied rows period policy measuredAt table
      (keptRows rows period policy measuredAt table) := by
  refine ⟨_, rfl, ?_⟩
  cases capped : policy.maximumBytes with
  | none =>
      dsimp only
      rw [surplusRows, capped]
  | some maximum => exact surplusRows_shortest capped _

theorem keptRows_fitting {Row : Type} [DecidableEq Row] {rows : RetainedRows Row}
    {period : MeasurementPeriod} {policy : Spool.RetentionPolicy} {measuredAt : Int}
    {table : List Row} (young : youngRows rows period policy measuredAt table = table)
    (fits : ∀ maximum ∈ policy.maximumBytes, logicalSize rows period table ≤ maximum) :
    keptRows rows period policy measuredAt table = table := by
  rw [keptRows, young, surplusRows]
  cases capped : policy.maximumBytes with
  | none => exact filter_none _
  | some maximum =>
      dsimp only
      rw [evict_within (fits maximum capped)]
      exact filter_none _

/-- An append of a block above the clear floor applies both caps to the table with it, into which
a block that is stored already is not inserted again. -/
structure BlockAppended (store : TrackedStore) (dataset : DatabaseDataset) (block : Block)
    (after : TrackedStore) : Prop where
  caps : CapsApplied blockRows block.period (store.history.store.policies dataset).retention
    block.measuredAt (insertBlock (store.table dataset) block) (after.table dataset)
  known : stored (store.table dataset) block.streamCursor block.period →
    insertBlock (store.table dataset) block = store.table dataset
  fitting : stored (store.table dataset) block.streamCursor block.period →
    youngRows blockRows block.period (store.history.store.policies dataset).retention
      block.measuredAt (store.table dataset) = store.table dataset →
    (∀ maximum ∈ (store.history.store.policies dataset).retention.maximumBytes,
      store.trackedBytes dataset block.period ≤ maximum) →
    after.table dataset = store.table dataset ∧
      after.trackedBytes dataset block.period = store.trackedBytes dataset block.period

theorem append_appended {update : MeterUpdate} {streamCursor : Nat} {measuredAt : Int}
    (exact : store.Exact) (whole : update.WholeParts)
    (appended : store.append update streamCursor measuredAt = .ok after) :
    ∃ dataset, datasetFor update.period = .ok dataset ∧
      ((∃ floor ∈ store.history.store.clearFloors dataset, streamCursor ≤ floor) ∧ after = store ∨
        BlockAppended store dataset (update.block streamCursor measuredAt) after) := by
  obtain ⟨dataset, routed, ⟨below, rfl⟩ | ⟨-, rfl⟩⟩ := append_ok exact whole appended
  · exact ⟨dataset, routed, .inl ⟨below, rfl⟩⟩
  · refine ⟨dataset, routed, .inr ⟨?_, insertBlock_stored, ?_⟩⟩
    · rw [table_withTable, if_pos rfl]
      exact keptRows_caps _ _ _ _ _
    · intro known young fits
      have sized := exact.sizes update.period dataset routed
      rw [show (update.block streamCursor measuredAt).period = update.period from rfl, sized]
        at fits
      have same : store.appendedTable dataset (update.block streamCursor measuredAt) =
          store.table dataset := by
        rw [appendedTable, insertBlock_stored known]
        exact keptRows_fitting young fits
      have after := append_exact exact whole appended
      have sizedAfter := after.sizes update.period dataset routed
      rw [table_withTable, if_pos rfl, same] at sizedAfter
      rw [table_withTable, if_pos rfl, same]
      exact ⟨rfl, sizedAfter.trans sized.symm⟩

/-- A harmonic record inserts no family, or one to which both caps are then applied. -/
inductive FamilyAppended (store : TrackedStore) (measuredAt : Int) (after : TrackedStore) : Prop
  | unchanged (same : ∀ dataset, (after.history.harmonics dataset).families =
      (store.history.harmonics dataset).families)
  | inserted (dataset : DatabaseDataset) (family : HarmonicFamily)
      (routed : harmonicDatasetFor family.period = .ok dataset)
      (new : ¬ (store.history.harmonics dataset).collides family)
      (caps : CapsApplied familyRows family.period
        (store.history.store.policies dataset).retention measuredAt
        ((store.history.harmonics dataset).families ++ [family])
        (after.history.harmonics dataset).families)

theorem appendHarmonic_appended {record : MeterRecord} {streamCursor : Nat} {measuredAt : Int}
    (exact : store.Exact)
    (appended : store.appendHarmonicRecord record streamCursor measuredAt = .ok after) :
    FamilyAppended store measuredAt after := by
  obtain rfl | ⟨chunk, dataset, tables, inserted, read, routed, step, rfl⟩ :=
    appendHarmonic_ok exact appended
  · exact .unchanged fun _ => rfl
  · have untouched : tables.families = (store.history.harmonics dataset).families →
        FamilyAppended store measuredAt { store with
          history := store.history.withHarmonics dataset tables
          harmonicLogicalBytes := Function.update store.harmonicLogicalBytes
            chunk.provenance.period
            (some (logicalSize familyRows chunk.provenance.period tables.families)) } := by
      intro same
      refine .unchanged fun other => ?_
      dsimp only
      rw [MeterHistoryStore.harmonics_withHarmonics]
      split
      · next shared =>
          rw [same, store.history.harmonics_same shared]
      · rfl
    cases step with
    | staged more => exact untouched rfl
    | ignored family full assembled known => exact untouched rfl
    | stored family full assembled free =>
        obtain ⟨provenance, shape, own⟩ := HarmonicTables.assembled_period
          (exact.staging.harmonics dataset) (MeterHistoryStore.fragmentOf_keyed read) assembled
        have period : family.period = chunk.provenance.period := shape.period.trans own
        refine .inserted dataset family (by rw [period]; exact routed) free ?_
        dsimp only
        rw [MeterHistoryStore.harmonics_withHarmonics, if_pos rfl, retained_kept, period]
        exact keptRows_caps _ _ _ _ _

/-- After every run the tracked sizes are exact, and an append removes what the caps ask for and
no more. -/
theorem tracked_sizes {policies : DatabaseDataset → DatabaseStoragePolicy}
    {operations : List Operation} (succeeded : run policies operations = .ok store) :
    (∀ period dataset, datasetFor period = .ok dataset →
      store.trackedBytes dataset period =
        weigh (fun block => 96 + block.values.length * 40)
          ((store.table dataset).filter fun block => block.period = period)) ∧
    (∀ period dataset, harmonicDatasetFor period = .ok dataset →
      store.trackedHarmonicBytes dataset period =
        weigh (fun family => 160 + 256 * family.payload.length)
          ((store.history.harmonics dataset).families.filter fun family =>
            family.period = period)) ∧
    (∀ (update : DecodedUpdate) streamCursor measuredAt after,
      store.append update.val streamCursor measuredAt = .ok after →
      ∃ dataset, datasetFor update.val.period = .ok dataset ∧
        ((∃ floor ∈ store.history.store.clearFloors dataset, streamCursor ≤ floor) ∧
          after = store ∨
        BlockAppended store dataset (update.val.block streamCursor measuredAt) after)) ∧
    ∀ record streamCursor measuredAt after,
      store.appendHarmonicRecord record streamCursor measuredAt = .ok after →
      FamilyAppended store measuredAt after := by
  have exact := run_exact succeeded
  refine ⟨exact.sizes, exact.harmonicSizes, ?_, ?_⟩
  · intro update streamCursor measuredAt after appended
    exact append_appended exact update.property appended
  · intro record streamCursor measuredAt after appended
    exact appendHarmonic_appended exact appended

def unlimited : DatabaseDataset → DatabaseStoragePolicy := fun _ => ⟨.memory, {}⟩

def capped : DatabaseDataset → DatabaseStoragePolicy := fun _ => ⟨.memory, ⟨none, some 600⟩⟩

def baseUpdate : DecodedUpdate :=
  ⟨{ period := .basic, kind := .fundamental,
     readings := fundamentalAttributes.map fun id => ⟨id, 0, .valid, 0⟩ },
    [fundamentalAttributes], by decide, by decide⟩

def twoBlocks : List Operation :=
  [.append baseUpdate 1 0, .append baseUpdate 2 200000000]

theorem tracked_sizes_two_blocks :
    ∃ store, run unlimited twoBlocks = .ok store ∧ store.trackedBytes .basic .basic = 1072 := by
  refine ⟨_, rfl, ?_⟩
  have exact := tracked_sizes (rfl : run unlimited twoBlocks = .ok _)
  exact (exact.1 .basic .basic rfl).trans rfl

def storedBlocks : List Block := [baseUpdate.val.block 1 0, baseUpdate.val.block 2 200000000]

theorem oldestFirst_storedBlocks :
    oldestFirst blockRows .basic none storedBlocks = storedBlocks := by
  rw [oldestFirst_none]
  have own : (storedBlocks.filter fun block => blockRows.period block = .basic) = storedBlocks := by
    decide +kernel
  rw [own]
  apply List.mergeSort_of_pairwise
  decide +kernel

theorem storedBlocks_capped :
    keptRows blockRows .basic ⟨none, some 600⟩ 0 storedBlocks =
      [baseUpdate.val.block 2 200000000] := by
  have surplus : surplusRows blockRows .basic ⟨none, some 600⟩ storedBlocks =
      [baseUpdate.val.block 1 0] := by
    rw [surplusRows, oldestFirst_storedBlocks]
    decide +kernel
  have young : youngRows blockRows .basic ⟨none, some 600⟩ 0 storedBlocks = storedBlocks := rfl
  rw [keptRows, young, surplus]
  decide +kernel

/-- The first block is stored, and yet its redelivery under a smaller byte cap removes it. -/
theorem redelivery_enforces_cap :
    ∃ store after, run unlimited (twoBlocks ++ [.applyPolicies capped]) = .ok store ∧
      stored (store.table .basic) 1 .basic ∧
      store.append baseUpdate.val 1 0 = .ok after ∧
      (store.table .basic).length = 2 ∧ (after.table .basic).length = 1 ∧
      store.trackedBytes .basic .basic = 1072 ∧ after.trackedBytes .basic .basic = 536 := by
  have enforced : enforce blockRows .basic ⟨none, some 600⟩ 0
      ⟨storedBlocks, logicalSize blockRows .basic storedBlocks⟩ = _ :=
    enforce_kept (by decide +kernel)
  rw [storedBlocks_capped] at enforced
  refine ⟨_, _, rfl, by decide +kernel, rfl, by decide +kernel, ?_, by decide +kernel, ?_⟩
  · exact congrArg (fun kept => kept.table.length) enforced
  · exact (congrArg Tracked.tracked enforced).trans (by decide +kernel)

end TrackedStore

end Msap1.Historian
