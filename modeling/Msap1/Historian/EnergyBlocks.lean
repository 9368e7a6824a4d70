import Msap1.Historian.Service
import Msap1.Ledger.Outcomes
import Msap1.Spool.Consumers

/-! Which ledger snapshot a ten-minute history block carries. -/

namespace Msap1.Historian

open Meter
open Ledger (EnergyLedger EnergyFamily)
open Spool (MeterStreamRecord StoredRecord DurableMeterSpool DatabaseStoragePolicy Device)

/-- The ENERGY families that entered the spool, each with its first cursor and the snapshot of
the ledger after it, and whether anything else changed the ledger since. -/
structure EnergyHistory where
  log : List (Nat × Option EnergyValues) := []
  touched : Bool := false

def lastSnapshot (log : List (Nat × Option EnergyValues)) : Option EnergyValues :=
  log.getLast?.bind Prod.snd

/-- The ledger after exactly the families that were published below a cursor. -/
def snapshotBelow (cursor : Nat) (log : List (Nat × Option EnergyValues)) : Option EnergyValues :=
  lastSnapshot (log.filter (fun entry => entry.1 < cursor))

def sequenceOf (device : Device) : Nat :=
  match device.spool with
  | some spool => spool.store.sequence
  | none => 0

def known (ledger : EnergyLedger) (family : EnergyFamily) : Bool :=
  ledger.energy.isSome && family.session.sessionId = ledger.energyState.sessionId &&
    family.sourceSequence = ledger.energyState.sourceSequence

/-- What the ingestion of a family means for the history, given where the spool put it. -/
def EnergyHistory.family (history : EnergyHistory) (system : System) (family : EnergyFamily)
    (after : EnergyLedger) : Spool.Answer → EnergyHistory
  | .cursors (cursor :: _) =>
      if sequenceOf system.device < cursor then
        ⟨history.log ++ [(cursor, after.energy)], false⟩
      else { history with touched := history.touched || !known system.ledger family }
  | _ => { history with touched := history.touched || !known system.ledger family }

def noteEnergy (decoders : Decoders) (system : System) (history : EnergyHistory) :
    Event → Unit → EnergyHistory
  | .publishRecords records stored committed, _ =>
      if ∃ record ∈ records, record.recordFormat = meterDemandFormat then history
      else match decoders.energyBatch records with
        | .ok (some family) => match Ledger.ingestEnergy system.ledger family stored with
          | .ok (_, after) => history.family system family after
              (Spool.machine.answer system.device (.publish records committed))
          | .error _ => history
        | _ => history
  | .resetEnergy request stored, _ =>
      match Ledger.resetEnergy system.ledger request stored with
      | .ok (result, _) => { history with touched := history.touched || !result.replayed }
      | .error _ => history
  | _, _ => history

/-- The historian and the stream beside the history of the ledger. -/
def sampling (decoders : Decoders) : Machine (System × EnergyHistory) Event Unit :=
  (machine decoders).traced (noteEnergy decoders)

def isEnergy (value : HistoryValue) : Bool :=
  match value.attributeId with
  | .energy _ => true
  | _ => false

def Block.energyValues (block : Block) : List HistoryValue := block.values.filter isEnergy

def snapshotRows (snapshot : Option EnergyValues) : List HistoryValue :=
  (snapshot.map energyRows).getD []

def isTenMinuteFundamental (block : Block) : Bool :=
  block.period = .min10 && block.kind = .fundamental

/-- A record that `ingest` decodes as a measurement. -/
def IsMeasurement (record : MeterStreamRecord) : Prop :=
  record.recordFormat ≠ meterPqEventLifecycleFormat ∧ record.recordFormat ≠ meterEnergyFormat ∧
    record.recordFormat ≠ meterHarmonicFormat ∧
    record.recordFormat ≠ meterHarmonicAggregateFormat ∧
    record.payload.length = meterRecordBytes

/-- No block of the period is stored under the cursor and no floor covers it. -/
def Unstored (store : HistoryStore) (dataset : DatabaseDataset) (period : MeasurementPeriod)
    (cursor : Nat) : Prop :=
  (¬ ∃ floor ∈ store.clearFloors dataset, cursor ≤ floor) ∧
    ∀ block ∈ (if store.volatile dataset then store.memory else store.persistent),
      ¬ (block.streamCursor = cursor ∧ block.period = period)

/-- The record would become a new ten-minute fundamental block. -/
def SamplesEnergy (decoders : Decoders) (store : HistoryStore) (row : StoredRecord) : Prop :=
  IsMeasurement row.record ∧ (match decoders.update row.record with
    | .ok update => update.period = .min10 ∧ update.kind = .fundamental
    | .error _ => False) ∧ Unstored store .minutes10 .min10 row.cursor

/-- The record that an event hands to `ingest`. -/
def handed (system : System) : Event → Option StoredRecord
  | .ingest _ => system.historian.page.bind (fun page => page.rows.head?)
  | .ingestBackfill _ => system.historian.backfill.bind (fun backfill =>
      backfill.rows.head?.filter (fun row => decide (row.cursor ≤ backfill.through) &&
        rebuildsVolatilePeriod system.historian.store row.record))
  | _ => none

/-- The cursors that the historian has read and not forgotten. -/
def heldCursors (system : System) : List Nat :=
  system.historian.store.blocks.map Block.streamCursor ++
    (system.historian.page.map (fun page => page.rows.map StoredRecord.cursor)).getD [] ++
    (system.historian.backfill.map (fun backfill => backfill.rows.map StoredRecord.cursor)).getD []

/-- A spool that takes over does not fall behind what the historian has read. -/
def Onward (system : System) : Event → Prop
  | .stream event => match (Spool.machine.next system.device event).spool with
    | some spool => ∀ cursor ∈ heldCursors system, cursor ≤ spool.store.sequence
    | none => True
  | _ => True

/-- When a record becomes a ten-minute fundamental block, every ENERGY family so far is before
it in the stream and the ledger was not changed after the last one. -/
def InTime (decoders : Decoders) (state : System × EnergyHistory) (event : Event) : Prop :=
  Onward state.1 event ∧ match handed state.1 event with
    | some row => SamplesEnergy decoders state.1.historian.store row →
        state.2.touched = false ∧ ∀ entry ∈ state.2.log, entry.1 < row.cursor
    | none => True

section Storing

variable {decoders : Decoders} {ledger : EnergyLedger} {store after : HistoryStore}

theorem insertBlock_member {blocks : List Block} {block other : Block}
    (member : other ∈ insertBlock blocks block) :
    other ∈ blocks ∨ other = block ∧ ∀ old ∈ blocks,
      ¬ (old.streamCursor = block.streamCursor ∧ old.period = block.period) := by
  unfold insertBlock at member
  split at member
  · exact .inl member
  · next absent =>
      rcases List.mem_append.mp member with old | new
      · exact .inl old
      · right
        refine ⟨List.mem_singleton.mp new, ?_⟩
        intro old inside same
        exact absent ⟨old, inside, same⟩

theorem appendBlock_member {policy : DatabaseStoragePolicy} {blocks : List Block}
    {block other : Block} (member : other ∈ appendBlock policy block blocks) :
    other ∈ insertBlock blocks block := by
  have young : other ∈ withinAge policy.retention.maximumAgeSeconds block.period block.measuredAt
      (insertBlock blocks block) := by
    unfold appendBlock withinBytes at member
    split at member
    · exact member
    · exact (List.mem_filter.mp member).1
  unfold withinAge at young
  split at young
  · exact young
  · exact (List.mem_filter.mp young).1

theorem append_blocks {update : MeterUpdate} {cursor : Nat} {time : Int}
    {stored : Except Failure Unit} (returned : store.append update cursor time stored = .ok after)
    {block : Block} (member : block ∈ after.blocks) :
    block ∈ store.blocks ∨ block = update.block cursor time ∧ ∃ dataset,
      datasetFor update.period = .ok dataset ∧ Unstored store dataset update.period cursor := by
  unfold HistoryStore.append at returned
  rcases Loops.bind_ok returned with ⟨dataset, found, returned⟩
  split at returned
  · cases returned
    exact .inl member
  · next above =>
      rcases Loops.bind_ok returned with ⟨-, -, returned⟩
      unfold HistoryStore.blocks at member ⊢
      cases place : store.volatile dataset with
      | true =>
          rw [place] at returned
          cases returned
          rcases List.mem_append.mp member with own | other
          · rcases insertBlock_member (appendBlock_member own) with old | ⟨new, free⟩
            · exact .inl (List.mem_append_left _ old)
            · refine .inr ⟨new, dataset, found, above, ?_⟩
              rw [place]
              exact free
          · exact .inl (List.mem_append_right _ other)
      | false =>
          rw [place] at returned
          cases returned
          rcases List.mem_append.mp member with other | own
          · exact .inl (List.mem_append_left _ other)
          · rcases insertBlock_member (appendBlock_member own) with old | ⟨new, free⟩
            · exact .inl (List.mem_append_right _ old)
            · refine .inr ⟨new, dataset, found, above, ?_⟩
              rw [place]
              exact free

theorem appended_blocks {result : Except Failure HistoryStore} {block : Block}
    (member : block ∈ (appended store result).1.blocks) :
    block ∈ store.blocks ∨ ∃ after, result = .ok after ∧ block ∈ after.blocks := by
  cases result with
  | ok after => exact .inr ⟨after, rfl, member⟩
  | error failure => exact .inl member

theorem demandPoint_kind {update point : MeterUpdate}
    (given : demandPoint ledger update = some point) : point.kind = .demand := by
  unfold demandPoint at given
  split at given
  · split at given
    · split at given
      · cases given
        rfl
      · cases given
    · cases given
  · cases given

theorem ingestUpdate_blocks {row : StoredRecord} {transactions : Transactions}
    {update : MeterUpdate} {block : Block}
    (member : block ∈ (ingestUpdate ledger store row transactions update).1.blocks) :
    block ∈ store.blocks ∨ block.streamCursor = row.cursor ∧
      (isTenMinuteFundamental block = true →
        block = update.block row.cursor (measuredAt row.record) ∧
          Unstored store .minutes10 .min10 row.cursor) := by
  have own : ∀ {after : HistoryStore}, store.append update row.cursor (measuredAt row.record)
      transactions.first = .ok after → block ∈ after.blocks →
        block ∈ store.blocks ∨ block.streamCursor = row.cursor ∧
          (isTenMinuteFundamental block = true →
            block = update.block row.cursor (measuredAt row.record) ∧
              Unstored store .minutes10 .min10 row.cursor) := by
    intro after returned inside
    rcases append_blocks returned inside with old | ⟨same, dataset, found, free⟩
    · exact .inl old
    · right
      refine ⟨by rw [same]; rfl, ?_⟩
      intro wanted
      refine ⟨same, ?_⟩
      rw [same] at wanted
      simp only [isTenMinuteFundamental, Bool.and_eq_true, decide_eq_true_eq] at wanted
      have period : update.period = .min10 := wanted.1
      rw [period] at found free
      cases found
      exact free
  unfold ingestUpdate at member
  dsimp only at member
  split at member
  · rcases appended_blocks member with old | ⟨after, returned, inside⟩
    · exact .inl old
    · exact own returned inside
  · next point given =>
      split at member
      · exact .inl member
      · next between returned =>
          rcases appended_blocks member with first | ⟨after, second, inside⟩
          · exact own returned first
          · rcases append_blocks second inside with first | ⟨same, -⟩
            · exact own returned first
            · right
              refine ⟨by rw [same]; rfl, ?_⟩
              intro wanted
              rw [same] at wanted
              simp only [isTenMinuteFundamental, MeterUpdate.block, demandPoint_kind given,
                Bool.and_eq_true, decide_eq_true_eq, reduceCtorEq, and_false] at wanted

theorem energyValues_block (update : MeterUpdate) (cursor : Nat) (time : Int) :
    (update.block cursor time).energyValues = snapshotRows update.energy := by
  have readings : (update.readings.map (fun reading => (⟨.reading reading.attributeId,
      reading.value, reading.quality, reading.sourceSequence, none⟩ : HistoryValue))).filter
        isEnergy = [] := by
    rw [List.filter_eq_nil_iff]
    intro value member
    rcases List.mem_map.mp member with ⟨reading, -, same⟩
    rw [← same]
    simp [isEnergy]
  have energy : ∀ snapshot : Option EnergyValues, (snapshotRows snapshot).filter isEnergy =
      snapshotRows snapshot := by
    intro snapshot
    cases snapshot with
    | none => rfl
    | some values =>
        rw [List.filter_eq_self]
        intro value member
        rcases List.mem_map.mp member with ⟨lane, -, same⟩
        rw [← same]
        rfl
  have demand : ∀ snapshot : Option DemandValues, ((snapshot.map demandRows).getD []).filter
      isEnergy = [] := by
    intro snapshot
    cases snapshot with
    | none => rfl
    | some values =>
        rw [List.filter_eq_nil_iff]
        intro value member
        rcases List.mem_map.mp member with ⟨lane, -, same⟩
        rw [← same]
        simp [isEnergy]
  have rows := energy update.energy
  unfold snapshotRows at rows ⊢
  rw [Block.energyValues, MeterUpdate.block, MeterUpdate.values, List.filter_append,
    List.filter_append, readings, rows, demand, List.nil_append, List.append_nil]

theorem sampled_energy {record : MeterStreamRecord} {decoded update : MeterUpdate}
    (given : sampled ledger record decoded = .ok update) :
    update.period = decoded.period ∧ update.kind = decoded.kind ∧
      (update.period = .min10 → update.kind = .fundamental → update.energy = ledger.energy) := by
  have attached : ∀ plain : MeterUpdate, plain.period = decoded.period →
      plain.kind = decoded.kind →
        (if plain.period = .min10 ∧ plain.kind = .fundamental then
          { plain with energy := ledger.energy } else plain) = update →
        update.period = decoded.period ∧ update.kind = decoded.kind ∧
          (update.period = .min10 → update.kind = .fundamental →
            update.energy = ledger.energy) := by
    intro plain period kind same
    split at same
    · rw [← same]
      exact ⟨period, kind, fun _ _ => rfl⟩
    · next other =>
        rw [← same]
        exact ⟨period, kind, fun minutes fundamental => absurd ⟨minutes, fundamental⟩ other⟩
  unfold sampled at given
  dsimp only at given
  split at given
  · split at given
    · cases given
    · next demand _ =>
        exact attached { decoded with demand := some demand } rfl rfl (Except.ok.inj given)
  · exact attached decoded rfl rfl (Except.ok.inj given)

theorem ingest_blocks {row : StoredRecord} {transactions : Transactions} {block : Block}
    (member : block ∈ (ingest decoders ledger store row transactions).1.blocks) :
    block ∈ store.blocks ∨ block.streamCursor = row.cursor ∧
      (isTenMinuteFundamental block = true → SamplesEnergy decoders store row ∧
        block.energyValues = snapshotRows ledger.energy) := by
  unfold ingest at member
  dsimp only at member
  split at member
  · left
    unfold ingestEvent at member
    dsimp only at member
    split at member
    · exact member
    · rcases appended_blocks member with old | ⟨after, returned, inside⟩
      · exact old
      · rcases Loops.bind_ok returned with ⟨-, -, returned⟩
        cases returned
        exact inside
  · next notEvent =>
    split at member
    · exact .inl member
    · next notEnergy =>
      split at member
      · exact .inl member
      · next notHarmonic =>
        split at member
        · exact .inl member
        · next notAggregate =>
          split at member
          · exact .inl member
          · next sized =>
            split at member
            · exact .inl member
            · next decoded returned =>
              split at member
              · exact .inl member
              · split at member
                · exact .inl member
                · next update given =>
                  split at member
                  · exact .inl member
                  · rcases sampled_energy given with ⟨period, kind, energy⟩
                    rcases ingestUpdate_blocks member with old | ⟨cursor, added⟩
                    · exact .inl old
                    · right
                      refine ⟨cursor, ?_⟩
                      intro wanted
                      rcases added wanted with ⟨same, free⟩
                      rw [same] at wanted
                      simp only [isTenMinuteFundamental, Bool.and_eq_true,
                        decide_eq_true_eq] at wanted
                      have minutes : update.period = .min10 := wanted.1
                      have fundamental : update.kind = .fundamental := wanted.2
                      refine ⟨⟨⟨notEvent, notEnergy, notHarmonic, notAggregate,
                        not_not.mp sized⟩, ?_, free⟩, ?_⟩
                      · rw [returned]
                        exact ⟨period.symm.trans minutes, kind.symm.trans fundamental⟩
                      · rw [same, energyValues_block, energy minutes fundamental]

end Storing

/-- Every block carries the snapshot of its place, and whatever is published from now on comes
after it. -/
structure Coherent (state : System × EnergyHistory) : Prop where
  formed : Spool.DeviceFormed state.1.device
  reached : ∀ spool, state.1.device.spool = some spool → ∀ cursor ∈ heldCursors state.1,
    cursor ≤ spool.store.sequence
  current : state.2.touched = false → state.1.ledger.energy = lastSnapshot state.2.log
  placed : ∀ block ∈ state.1.historian.store.blocks, isTenMinuteFundamental block = true →
    block.energyValues = snapshotRows (snapshotBelow block.streamCursor state.2.log)

section Streaming

variable {system : System}

theorem sequence_kept {device : Device} {event : Spool.Event} (formed : Spool.DeviceFormed device)
    (plain : (∃ records committed, event = .publish records committed) ∨
      (∃ name, event = .register name) ∨ (∃ name, event = .unregister name) ∨
        ∃ name cursor, event = .acknowledge name cursor)
    {after : DurableMeterSpool} (opened : (Spool.machine.next device event).spool = some after) :
    ∃ before, device.spool = some before ∧ before.store.sequence ≤ after.store.sequence := by
  have step := Spool.step_cases device event
  generalize Spool.machine.next device event = next at step opened
  generalize Spool.machine.answer device event = answer at step
  cases step with
  | ignored => exact ⟨after, opened, le_refl _⟩
  | refused => exact ⟨after, opened, le_refl _⟩
  | published current returned =>
      cases opened
      exact ⟨_, current,
        (Spool.published_rows (formed.spool _ current).wellFormed returned).2.2.2⟩
  | registered current returned =>
      cases opened
      refine ⟨_, current, ?_⟩
      rw [(Spool.registerConsumer_ok returned).1]
  | unregistered current returned =>
      cases opened
      refine ⟨_, current, ?_⟩
      rw [Spool.unregisterConsumer_ok returned]
  | acknowledged current returned =>
      cases opened
      refine ⟨_, current, ?_⟩
      rw [(Spool.acknowledge_ok returned).2]
  | wasRead current returned => exact ⟨after, opened, le_refl _⟩
  | _ => simp at plain

def pendingRows (historian : HistorianService) : List StoredRecord :=
  (historian.page.map Page.rows).getD [] ++ (historian.backfill.map Backfill.rows).getD []

theorem held_iff {cursor : Nat} : cursor ∈ heldCursors system ↔
    (∃ block ∈ system.historian.store.blocks, block.streamCursor = cursor) ∨
      ∃ row ∈ pendingRows system.historian, row.cursor = cursor := by
  unfold heldCursors pendingRows
  cases system.historian.page with
  | none =>
      cases system.historian.backfill with
      | none => simp
      | some backfill => simp
  | some page =>
      cases system.historian.backfill with
      | none => simp
      | some backfill => simp [or_and_right, exists_or]

variable {history : EnergyHistory} {after : System}

/-- Nothing new is held, and neither the ledger nor the spool went back. -/
structure Calm (system after : System) : Prop where
  formed : Spool.DeviceFormed after.device
  grows : ∀ spool, after.device.spool = some spool →
    ∃ before, system.device.spool = some before ∧ before.store.sequence ≤ spool.store.sequence
  blocks : ∀ block ∈ after.historian.store.blocks, block ∈ system.historian.store.blocks
  pending : ∀ row ∈ pendingRows after.historian, row ∈ pendingRows system.historian
  ledger : after.ledger.energy = system.ledger.energy

theorem calm_reached (coherent : Coherent (system, history)) (calm : Calm system after)
    (spool : DurableMeterSpool) (opened : after.device.spool = some spool)
    (cursor : Nat) (held : cursor ∈ heldCursors after) : cursor ≤ spool.store.sequence := by
  rcases calm.grows spool opened with ⟨before, current, grows⟩
  apply le_trans (coherent.reached before current cursor _) grows
  rw [held_iff] at held ⊢
  rcases held with ⟨block, member, same⟩ | ⟨row, member, same⟩
  · exact .inl ⟨block, calm.blocks block member, same⟩
  · exact .inr ⟨row, calm.pending row member, same⟩

theorem calm_coherent (coherent : Coherent (system, history)) (calm : Calm system after) :
    Coherent (after, history) := by
  refine ⟨calm.formed, calm_reached coherent calm, ?_, ?_⟩
  · intro untouched
    exact calm.ledger.trans (coherent.current untouched)
  · intro block member
    exact coherent.placed block (calm.blocks block member)

theorem grows_same (device : Device) (spool : DurableMeterSpool)
    (opened : device.spool = some spool) :
    ∃ before, device.spool = some before ∧ before.store.sequence ≤ spool.store.sequence :=
  ⟨spool, opened, le_refl _⟩

theorem next_formed {device : Device} (formed : Spool.DeviceFormed device) (event : Spool.Event) :
    Spool.DeviceFormed (Spool.machine.next device event) :=
  Spool.step_formed formed (Spool.step_cases device event)

theorem calm_refl (formed : Spool.DeviceFormed system.device) : Calm system system :=
  ⟨formed, grows_same system.device, fun _ member => member, fun _ member => member, rfl⟩

theorem calm_trans {between : System} (first : Calm system between) (second : Calm between after) :
    Calm system after := by
  refine ⟨second.formed, ?_, ?_, ?_, second.ledger.trans first.ledger⟩
  · intro spool opened
    rcases second.grows spool opened with ⟨middle, current, late⟩
    rcases first.grows middle current with ⟨before, earlier, early⟩
    exact ⟨before, earlier, le_trans early late⟩
  · intro block member
    exact first.blocks block (second.blocks block member)
  · intro row member
    exact first.pending row (second.pending row member)

theorem calm_device (formed : Spool.DeviceFormed system.device) (event : Spool.Event)
    (plain : (∃ records committed, event = .publish records committed) ∨
      (∃ name, event = .register name) ∨ (∃ name, event = .unregister name) ∨
        ∃ name cursor, event = .acknowledge name cursor) :
    Calm system { system with device := Spool.machine.next system.device event } :=
  ⟨next_formed formed event, fun _ opened => sequence_kept formed plain opened,
    fun _ member => member, fun _ member => member, rfl⟩

theorem calm_historian (formed : Spool.DeviceFormed system.device) {historian : HistorianService}
    (blocks : ∀ block ∈ historian.store.blocks, block ∈ system.historian.store.blocks)
    (pending : ∀ row ∈ pendingRows historian, row ∈ pendingRows system.historian) :
    Calm system { system with historian } :=
  ⟨formed, grows_same system.device, blocks, pending, rfl⟩

theorem calm_ledger (formed : Spool.DeviceFormed system.device) {ledger : EnergyLedger}
    (energy : ledger.energy = system.ledger.energy) : Calm system { system with ledger } :=
  ⟨formed, grows_same system.device, fun _ member => member, fun _ member => member, energy⟩

theorem pending_page {historian : HistorianService} {row : StoredRecord} {page : Page}
    (current : historian.page = some page) (member : row ∈ page.rows) :
    row ∈ pendingRows historian := by
  unfold pendingRows
  rw [current]
  exact List.mem_append_left _ member

theorem pending_backfill {historian : HistorianService} {row : StoredRecord} {backfill : Backfill}
    (current : historian.backfill = some backfill) (member : row ∈ backfill.rows) :
    row ∈ pendingRows historian := by
  unfold pendingRows
  rw [current]
  exact List.mem_append_right _ member

theorem pending_done (historian after : HistorianService) (page : after.page = historian.page)
    (done : (after.backfill.map Backfill.rows).getD [] = []) :
    ∀ row ∈ pendingRows after, row ∈ pendingRows historian := by
  intro row member
  unfold pendingRows at member ⊢
  rw [page, done, List.append_nil] at member
  exact List.mem_append_left _ member

theorem calm_end (formed : Spool.DeviceFormed system.device) : Calm system system.endBackfill := by
  refine calm_trans (calm_device formed (.unregister backfillConsumer)
    (.inr (.inr (.inl ⟨_, rfl⟩)))) ?_
  apply calm_historian (next_formed formed _)
  · exact fun _ member => member
  · exact pending_done _ _ rfl rfl

theorem calm_acknowledge (formed : Spool.DeviceFormed system.device) :
    Calm system system.acknowledge := by
  unfold System.acknowledge
  split
  · next last begun current =>
      refine calm_trans (calm_device formed (.acknowledge liveConsumer last)
        (.inr (.inr (.inr ⟨_, _, rfl⟩)))) ?_
      apply calm_historian (next_formed formed _)
      · exact fun _ member => member
      · intro row member
        unfold pendingRows at member ⊢
        rcases List.mem_append.mp member with none | backfill
        · cases none
        · exact List.mem_append_right _ backfill
  · exact calm_refl formed

theorem calm_beginBackfill (formed : Spool.DeviceFormed system.device) :
    Calm system system.beginBackfill := by
  unfold System.beginBackfill
  split
  · exact calm_refl formed
  · refine calm_trans (calm_device formed (.unregister backfillConsumer)
      (.inr (.inr (.inl ⟨_, rfl⟩)))) ?_
    refine calm_trans (calm_device (next_formed formed _) (.register backfillConsumer)
      (.inr (.inl ⟨_, rfl⟩))) ?_
    apply calm_historian (next_formed (next_formed formed _) _)
    · exact fun _ member => member
    · exact pending_done _ _ rfl rfl

theorem calm_acknowledgeBackfill (formed : Spool.DeviceFormed system.device) :
    Calm system system.acknowledgeBackfill := by
  unfold System.acknowledgeBackfill
  split
  · next through startup acknowledged current =>
      split
      · exact calm_end formed
      · have first := calm_device formed (.acknowledge backfillConsumer acknowledged)
          (.inr (.inr (.inr ⟨_, _, rfl⟩)))
        dsimp only
        split
        · exact calm_trans first (calm_end first.formed)
        · exact calm_trans first (calm_historian first.formed (fun _ member => member)
            (pending_done _ _ rfl rfl))
  · exact calm_refl formed

theorem calm_restart (formed : Spool.DeviceFormed system.device)
    (policies : DatabaseDataset → DatabaseStoragePolicy) :
    Calm system (system.restart policies) := by
  refine calm_trans (calm_device formed (.register liveConsumer)
    (.inr (.inl ⟨_, rfl⟩))) ?_
  apply calm_historian (next_formed formed _)
  · intro block member
    exact List.mem_append_right _ member
  · intro row member
    cases member

theorem calm_applyPolicies (formed : Spool.DeviceFormed system.device)
    (policies : DatabaseDataset → DatabaseStoragePolicy) :
    Calm system (system.applyPolicies policies) := by
  unfold System.applyPolicies
  split
  · exact calm_refl formed
  · apply calm_historian formed
    · intro block member
      rcases List.mem_append.mp member with volatile | kept
      · exact List.mem_append_left _ (List.mem_filter.mp volatile).1
      · exact List.mem_append_right _ kept
    · intro row member
      unfold pendingRows at member ⊢
      rcases List.mem_append.mp member with page | backfill
      · exact List.mem_append_left _ page
      · apply List.mem_append_right
        dsimp only at backfill
        cases current : system.historian.backfill with
        | none =>
            rw [current] at backfill
            cases backfill
        | some session =>
            rw [current] at backfill
            cases startup : session.startup with
            | true =>
                simp only [Option.filter, startup, if_true] at backfill
                exact backfill
            | false =>
                simp [Option.filter, startup] at backfill

theorem calm_maintain (formed : Spool.DeviceFormed system.device)
    {call : HistoryStore → Except Failure HistoryStore}
    (removes : ∀ store, call system.historian.store = .ok store →
      ∀ block ∈ store.blocks, block ∈ system.historian.store.blocks) :
    Calm system (system.maintain call) := by
  unfold System.maintain
  split
  · exact calm_refl formed
  · split
    · next store returned =>
        exact calm_historian formed (removes store returned) (fun _ member => member)
    · exact calm_refl formed

theorem calm_publishRecord (decoders : Decoders) (formed : Spool.DeviceFormed system.device)
    (record : MeterStreamRecord) (stored committed : Except Failure Unit) :
    Calm system (system.publishRecord decoders record stored committed) := by
  have published : Calm system { system with
      device := Spool.machine.next system.device (.publish [record] committed) } :=
    calm_device formed _ (.inl ⟨_, _, rfl⟩)
  unfold System.publishRecord
  split
  · exact calm_refl formed
  · exact published
  · split
    · exact calm_refl formed
    · next family _ answer ledger returned =>
        refine calm_trans published (calm_ledger published.formed ?_)
        rcases Ledger.ingestDemand_cases returned with ⟨-, same⟩ | ⟨start, -, taken⟩
        · rw [same]
        · rcases Ledger.storeDemand_ok taken with ⟨row, database, -, -, -, same⟩
          rw [same]
          rfl

theorem lastSnapshot_concat (log : List (Nat × Option EnergyValues))
    (entry : Nat × Option EnergyValues) : lastSnapshot (log ++ [entry]) = entry.2 := by
  rw [lastSnapshot, List.getLast?_concat]
  rfl

theorem snapshotBelow_concat {cursor : Nat} {log : List (Nat × Option EnergyValues)}
    {entry : Nat × Option EnergyValues} (later : cursor ≤ entry.1) :
    snapshotBelow cursor (log ++ [entry]) = snapshotBelow cursor log := by
  unfold snapshotBelow
  rw [List.filter_append, List.filter_cons_of_neg (by simpa using later), List.filter_nil,
    List.append_nil]

theorem snapshotBelow_all {cursor : Nat} {log : List (Nat × Option EnergyValues)}
    (below : ∀ entry ∈ log, entry.1 < cursor) : snapshotBelow cursor log = lastSnapshot log := by
  unfold snapshotBelow
  rw [List.filter_eq_self.mpr]
  intro entry member
  simpa using below entry member

theorem known_again {ledger after : EnergyLedger} {family : EnergyFamily}
    {stored : Except Failure Unit} {answer : EnergyValues} (repeated : known ledger family = true)
    (returned : Ledger.ingestEnergy ledger family stored = .ok (answer, after)) :
    after = ledger := by
  simp only [known, Bool.and_eq_true, decide_eq_true_eq, Option.isSome_iff_exists] at repeated
  rcases repeated with ⟨⟨⟨latest, present⟩, session⟩, sequence⟩
  have found : ledger.latestEnergy = some latest := present
  unfold Ledger.ingestEnergy at returned
  simp only [found, session, sequence] at returned
  split at returned
  · cases returned
  · simp only [if_true] at returned
    split at returned
    · next less => exact absurd less (UInt32.lt_irrefl _)
    · split at returned
      · cases returned
        rfl
      · cases returned

theorem family_coherent (coherent : Coherent (system, history)) {family : EnergyFamily}
    {stored committed : Except Failure Unit} {answer : EnergyValues} {ledger : EnergyLedger}
    {records : List MeterStreamRecord}
    (returned : Ledger.ingestEnergy system.ledger family stored = .ok (answer, ledger)) :
    Coherent ({ system with
        ledger
        device := Spool.machine.next system.device (.publish records committed) },
      history.family system family ledger
        (Spool.machine.answer system.device (.publish records committed))) := by
  have published : Calm system { system with
      device := Spool.machine.next system.device (.publish records committed) } :=
    calm_device coherent.formed _ (.inl ⟨_, _, rfl⟩)
  have reached : ∀ spool, (Spool.machine.next system.device
      (.publish records committed)).spool = some spool → ∀ cursor ∈ heldCursors system,
        cursor ≤ spool.store.sequence := calm_reached coherent published
  have unplaced : Coherent ({ system with
      ledger
      device := Spool.machine.next system.device (.publish records committed) },
      { history with touched := history.touched || !known system.ledger family }) := by
    refine ⟨published.formed, reached, ?_, coherent.placed⟩
    intro untouched
    simp only [Bool.or_eq_false_iff, Bool.not_eq_false'] at untouched
    rw [known_again untouched.2 returned]
    exact coherent.current untouched.1
  cases place : Spool.machine.answer system.device (.publish records committed) with
  | cursors cursors =>
      cases cursors with
      | nil => exact unplaced
      | cons cursor others =>
          unfold EnergyHistory.family
          dsimp only
          split
          · next later =>
              refine ⟨published.formed, reached, ?_, ?_⟩
              · intro _
                exact (lastSnapshot_concat history.log (cursor, ledger.energy)).symm
              · intro block member wanted
                rw [coherent.placed block member wanted]
                congr 1
                symm
                apply snapshotBelow_concat
                have opened : ∃ spool, system.device.spool = some spool := by
                  cases current : system.device.spool with
                  | some spool => exact ⟨spool, rfl⟩
                  | none =>
                      rw [Machine.answer, Spool.machine] at place
                      dsimp only at place
                      rw [Spool.onSpool, current] at place
                      cases place
                rcases opened with ⟨spool, current⟩
                have held := coherent.reached spool current block.streamCursor
                  (held_iff.mpr (.inl ⟨block, member, rfl⟩))
                rw [sequenceOf, current] at later
                dsimp only at later ⊢
                omega
          · exact unplaced
  | rows rows => exact unplaced
  | done => exact unplaced
  | failed failure => exact unplaced
  | ignored => exact unplaced

theorem read_rows {device : Device} {name : String} {limit : Nat} {rows : List StoredRecord}
    (answered : Spool.machine.answer device (.read name limit) = .rows rows) {row : StoredRecord}
    (member : row ∈ rows) :
    ∃ spool, device.spool = some spool ∧ row ∈ spool.store.records := by
  have step := Spool.step_cases device (.read name limit)
  rw [answered] at step
  generalize Spool.machine.next device (.read name limit) = next at step
  cases step with
  | @wasRead name limit spool rows current returned =>
      refine ⟨spool, current, ?_⟩
      unfold DurableMeterSpool.readAfter at returned
      split at returned
      · cases returned
      · split at returned
        · cases returned
        · cases returned
          exact (List.mem_filter.mp (List.mem_of_mem_take member)).1

theorem read_coherent (coherent : Coherent (system, history)) {historian : HistorianService}
    (store : historian.store = system.historian.store)
    (pending : ∀ row ∈ pendingRows historian, row ∈ pendingRows system.historian ∨
      ∃ spool, system.device.spool = some spool ∧ row ∈ spool.store.records) :
    Coherent ({ system with historian }, history) := by
  refine ⟨coherent.formed, ?_, coherent.current, ?_⟩
  · intro spool current cursor held
    rcases held_iff.mp held with ⟨block, member, same⟩ | ⟨row, member, same⟩
    · apply coherent.reached spool current cursor
      dsimp only at member
      rw [store] at member
      exact held_iff.mpr (.inl ⟨block, member, same⟩)
    · rcases pending row member with old | ⟨open', present, inside⟩
      · exact coherent.reached spool current cursor (held_iff.mpr (.inr ⟨row, old, same⟩))
      · have opened : open' = spool := Option.some.inj (present.symm.trans current)
        rw [opened] at inside
        rw [← same]
        exact ((coherent.formed.spool spool current).wellFormed.numbered row inside).2
  · intro block member
    dsimp only at member
    rw [store] at member
    exact coherent.placed block member

theorem readPage_coherent (coherent : Coherent (system, history)) :
    Coherent (system.readPage, history) := by
  unfold System.readPage
  split
  · next row rows vacant answered =>
      refine read_coherent coherent rfl ?_
      intro other member
      unfold pendingRows at member ⊢
      rcases List.mem_append.mp member with page | backfill
      · right
        exact read_rows answered page
      · left
        exact List.mem_append_right _ backfill
  · exact coherent

theorem readBackfill_coherent (coherent : Coherent (system, history)) :
    Coherent (system.readBackfill, history) := by
  unfold System.readBackfill
  split
  · next through startup acknowledged current =>
      split
      · exact calm_coherent coherent (calm_end coherent.formed)
      · split
        · next row rows answered =>
            refine read_coherent coherent rfl ?_
            intro other member
            unfold pendingRows at member ⊢
            rcases List.mem_append.mp member with page | backfill
            · left
              exact List.mem_append_left _ page
            · right
              exact read_rows answered backfill
        · exact calm_coherent coherent (calm_end coherent.formed)
  · exact coherent

theorem ingest_coherent {decoders : Decoders} (coherent : Coherent (system, history))
    {row : StoredRecord} (waiting : row ∈ pendingRows system.historian)
    (timely : SamplesEnergy decoders system.historian.store row →
      history.touched = false ∧ ∀ entry ∈ history.log, entry.1 < row.cursor)
    (transactions : Transactions) {historian : HistorianService}
    (store : historian.store =
      (ingest decoders system.ledger system.historian.store row transactions).1)
    (pending : ∀ other ∈ pendingRows historian, other ∈ pendingRows system.historian) :
    Coherent ({ system with historian }, history) := by
  refine ⟨coherent.formed, ?_, coherent.current, ?_⟩
  · intro spool current cursor held
    apply coherent.reached spool current cursor
    rcases held_iff.mp held with ⟨block, member, same⟩ | ⟨other, member, same⟩
    · dsimp only at member
      rw [store] at member
      rcases ingest_blocks member with old | ⟨place, -⟩
      · exact held_iff.mpr (.inl ⟨block, old, same⟩)
      · exact held_iff.mpr (.inr ⟨row, waiting, place.symm.trans same⟩)
    · exact held_iff.mpr (.inr ⟨other, pending other member, same⟩)
  · intro block member wanted
    dsimp only at member
    rw [store] at member
    rcases ingest_blocks member with old | ⟨place, added⟩
    · exact coherent.placed block old wanted
    · rcases added wanted with ⟨samples, values⟩
      rcases timely samples with ⟨untouched, below⟩
      rw [values, place, snapshotBelow_all below, ← coherent.current untouched]

theorem ingestPage_coherent {decoders : Decoders} (coherent : Coherent (system, history))
    (transactions : Transactions)
    (inTime : InTime decoders (system, history) (.ingest transactions)) :
    Coherent (system.ingestPage decoders transactions, history) := by
  unfold System.ingestPage
  split
  · next row rows last begun current =>
      have timely := inTime.2
      simp only [handed, current, Option.bind_some, List.head?_cons] at timely
      refine ingest_coherent coherent (pending_page current List.mem_cons_self) timely
        transactions rfl ?_
      intro other member
      unfold pendingRows at member
      rcases List.mem_append.mp member with page | backfill
      · apply pending_page current
        dsimp only at page
        split at page
        · exact List.mem_cons_of_mem row page
        · cases page
      · exact List.mem_append_right _ backfill
  · exact coherent

theorem ingestBackfill_coherent {decoders : Decoders} (coherent : Coherent (system, history))
    (transactions : Transactions)
    (inTime : InTime decoders (system, history) (.ingestBackfill transactions)) :
    Coherent (system.ingestBackfill decoders transactions, history) := by
  unfold System.ingestBackfill
  split
  · next through startup row rows acknowledged current =>
      split
      · apply calm_coherent coherent
        exact calm_historian coherent.formed (fun _ member => member) (pending_done _ _ rfl rfl)
      · next inside =>
          have waiting : row ∈ pendingRows system.historian :=
            pending_backfill current List.mem_cons_self
          have shrinks : ∀ historian : HistorianService, historian.page = system.historian.page →
              (historian.backfill.map Backfill.rows).getD [] = rows →
                ∀ other ∈ pendingRows historian, other ∈ pendingRows system.historian := by
            intro historian page left other member
            unfold pendingRows at member
            rw [page, left] at member
            rcases List.mem_append.mp member with live | replay
            · exact List.mem_append_left _ live
            · exact pending_backfill current (List.mem_cons_of_mem row replay)
          cases rebuilds : rebuildsVolatilePeriod system.historian.store row.record with
          | false =>
              simp only [Bool.false_eq_true, if_false]
              apply calm_coherent coherent
              exact calm_historian coherent.formed (fun _ member => member) (shrinks _ rfl rfl)
          | true =>
              simp only [if_true]
              have timely := inTime.2
              simp only [handed, current, Option.bind_some, List.head?_cons, Option.filter,
                rebuilds, not_lt.mp inside, decide_true, Bool.and_self, if_true] at timely
              split
              · exact ingest_coherent coherent waiting timely transactions rfl
                  (shrinks _ rfl rfl)
              · have stored : Coherent (system.withStore (ingest decoders system.ledger
                    system.historian.store row transactions).1, history) :=
                  ingest_coherent coherent waiting timely transactions rfl
                    (fun _ member => member)
                exact calm_coherent stored (calm_end stored.formed)
  · exact coherent

theorem publishRecords_coherent {decoders : Decoders} (coherent : Coherent (system, history))
    (records : List MeterStreamRecord) (stored committed : Except Failure Unit) :
    Coherent (system.publishRecords decoders records stored committed,
      noteEnergy decoders system history (.publishRecords records stored committed) ()) := by
  simp only [System.publishRecords, noteEnergy]
  by_cases demand : ∃ record ∈ records, record.recordFormat = meterDemandFormat
  · simp only [demand, if_true]
    exact coherent
  · simp only [demand, if_false]
    cases decoders.energyBatch records with
    | error failure => exact coherent
    | ok batch =>
        cases batch with
        | none =>
            apply calm_coherent coherent
            exact calm_device coherent.formed _ (.inl ⟨_, _, rfl⟩)
        | some family =>
            dsimp only
            cases taken : Ledger.ingestEnergy system.ledger family stored with
            | error failure => exact coherent
            | ok result => exact family_coherent coherent taken

theorem resetEnergy_coherent {decoders : Decoders} (coherent : Coherent (system, history))
    (request : Ledger.ResetRequest) (stored : Except Failure Unit) :
    Coherent (system.after decoders (.resetEnergy request stored),
      noteEnergy decoders system history (.resetEnergy request stored) ()) := by
  simp only [System.after, noteEnergy]
  cases taken : Ledger.resetEnergy system.ledger request stored with
  | error failure => exact coherent
  | ok result =>
      rcases result with ⟨result, ledger⟩
      refine ⟨coherent.formed, coherent.reached, ?_, coherent.placed⟩
      intro untouched
      rw [Bool.or_eq_false_iff] at untouched
      rcases (Ledger.resetEnergy_cases taken).2 with ⟨epoch, -, -, same⟩ | ⟨-, fresh⟩
      · dsimp only
        rw [same]
        exact coherent.current untouched.1
      · rw [fresh] at untouched
        exact absurd untouched.2 Bool.noConfusion

theorem resetDemandPeaks_energy {ledger after : EnergyLedger} {request : Ledger.ResetRequest}
    {stored : Except Failure Unit} {result : Ledger.ResetResult}
    (taken : Ledger.resetDemandPeaks ledger request stored = .ok (result, after)) :
    after.energy = ledger.energy := by
  rcases (Ledger.resetDemandPeaks_cases taken).2 with ⟨epoch, -, -, same⟩ | ⟨reset, -⟩
  · rw [same]
  · rcases reset.changed with ⟨latest, row, audit, -, -, -, same⟩
    rw [same]
    rfl

theorem streamEvent_coherent (coherent : Coherent (system, history)) (event : Spool.Event)
    (onward : Onward system (.stream event)) : Coherent (system.streamEvent event, history) := by
  have moved : Coherent ({ system with device := Spool.machine.next system.device event },
      history) := by
    refine ⟨next_formed coherent.formed event, ?_, coherent.current, coherent.placed⟩
    intro spool opened
    unfold Onward at onward
    dsimp only at onward opened
    rw [opened] at onward
    exact onward
  unfold System.streamEvent
  split
  · exact coherent
  · exact moved

theorem clearDatasets_blocks {store after : HistoryStore} {datasets : List DatabaseDataset}
    {through : Nat} (returned : store.clearDatasets datasets through = .ok after)
    {block : Block} (member : block ∈ after.blocks) : block ∈ store.blocks := by
  unfold HistoryStore.clearDatasets at returned
  split at returned
  · cases returned
  · split at returned
    · cases returned
    · split at returned
      · cases returned
      · cases returned
        rcases List.mem_append.mp member with volatile | kept
        · exact List.mem_append_left _ (List.mem_filter.mp volatile).1
        · exact List.mem_append_right _ (List.mem_filter.mp kept).1

theorem deletePowerQualityEvents_ok {store after : HistoryStore} {eventUuids : List (List UInt8)}
    {stored : Except Failure Unit}
    (returned : store.deletePowerQualityEvents eventUuids stored = .ok after) :
    after = { store with events := store.events.filter (fun event =>
      !eventUuids.contains event.eventUuid) } := by
  unfold HistoryStore.deletePowerQualityEvents at returned
  split at returned
  · cases returned
  · split at returned
    · cases returned
    · split at returned
      · cases returned
      · rcases Loops.bind_ok returned with ⟨-, -, returned⟩
        cases returned
        rfl

theorem clearPowerQualityEvents_ok {store after : HistoryStore} {stored : Except Failure Unit}
    (returned : store.clearPowerQualityEvents stored = .ok after) :
    after = { store with events := [] } := by
  rcases Loops.bind_ok returned with ⟨-, -, returned⟩
  cases returned
  rfl

theorem next_coherent (decoders : Decoders) (event : Event)
    (inTime : InTime decoders (system, history) event) (coherent : Coherent (system, history)) :
    Coherent ((sampling decoders).next (system, history) event) := by
  have formed := coherent.formed
  rw [sampling, Machine.traced_next]
  cases event with
  | publishRecords records stored committed =>
      exact publishRecords_coherent coherent records stored committed
  | publishRecord record stored committed =>
      exact calm_coherent coherent (calm_publishRecord decoders formed record stored committed)
  | resetEnergy request stored => exact resetEnergy_coherent coherent request stored
  | resetDemandPeaks request stored =>
      apply calm_coherent coherent
      simp only [machine, Machine.next, System.after]
      split
      · next taken => exact calm_ledger formed (resetDemandPeaks_energy taken)
      · exact calm_refl formed
  | stream event => exact streamEvent_coherent coherent event inTime.1
  | readPage => exact readPage_coherent coherent
  | ingest transactions => exact ingestPage_coherent coherent transactions inTime
  | acknowledge => exact calm_coherent coherent (calm_acknowledge formed)
  | beginBackfill => exact calm_coherent coherent (calm_beginBackfill formed)
  | readBackfill => exact readBackfill_coherent coherent
  | ingestBackfill transactions => exact ingestBackfill_coherent coherent transactions inTime
  | acknowledgeBackfill => exact calm_coherent coherent (calm_acknowledgeBackfill formed)
  | restart policies => exact calm_coherent coherent (calm_restart formed policies)
  | applyPolicies policies => exact calm_coherent coherent (calm_applyPolicies formed policies)
  | clearDatasets datasets =>
      apply calm_coherent coherent
      simp only [machine, Machine.next, System.after]
      split
      · apply calm_maintain formed
        intro store returned block member
        exact clearDatasets_blocks returned member
      · exact calm_refl formed
  | recreateDatabase =>
      apply calm_coherent coherent
      simp only [machine, Machine.next, System.after]
      split
      · apply calm_maintain formed
        intro store returned block member
        cases returned
        cases member
      · exact calm_refl formed
  | deleteEvents eventUuids stored =>
      apply calm_coherent coherent
      simp only [machine, Machine.next, System.after]
      apply calm_maintain formed
      intro store returned block member
      rw [deletePowerQualityEvents_ok returned] at member
      exact member
  | clearEvents stored =>
      apply calm_coherent coherent
      simp only [machine, Machine.next, System.after]
      apply calm_maintain formed
      intro store returned block member
      rw [clearPowerQualityEvents_ok returned] at member
      exact member

end Streaming

def installed (policies : DatabaseDataset → DatabaseStoragePolicy) : System × EnergyHistory :=
  (System.installed policies, {})

theorem installed_coherent (policies : DatabaseDataset → DatabaseStoragePolicy) :
    Coherent (installed policies) := by
  refine ⟨Spool.run_formed [], ?_, ?_, ?_⟩
  · intro spool opened
    cases opened
  · intro _
    rfl
  · intro block member
    cases member

/-- In every run whose blocks are sampled in time, each ten-minute fundamental block carries the
ledger after exactly the ENERGY families published below its cursor. -/
theorem ten_minute_energy (decoders : Decoders)
    (policies : DatabaseDataset → DatabaseStoragePolicy) (events : List Event)
    (inTime : (sampling decoders).Along (InTime decoders) (installed policies) events)
    (block : Block)
    (member : block ∈
      ((sampling decoders).run (installed policies) events).1.historian.store.blocks)
    (wanted : isTenMinuteFundamental block = true) :
    block.energyValues = snapshotRows (snapshotBelow block.streamCursor
      ((sampling decoders).run (installed policies) events).2.log) := by
  have coherent := (sampling decoders).along_invariant (InTime decoders) Coherent
    (fun _ event inTime coherent => next_coherent decoders event inTime coherent)
    (installed policies) (installed_coherent policies) events inTime
  exact coherent.placed block member wanted

theorem onward_unread {system : System} {event : Event} (unread : heldCursors system = []) :
    Onward system event := by
  cases event with
  | stream event =>
      unfold Onward
      dsimp only
      split
      · intro cursor held
        rw [unread] at held
        cases held
      · trivial
  | _ => trivial

theorem inTime_early {decoders : Decoders} {state : System × EnergyHistory} {event : Event}
    (onward : Onward state.1 event)
    (early : ∀ row ∈ handed state.1 event, row.record.recordFormat = meterEnergyFormat ∨
      state.2.touched = false ∧ ∀ entry ∈ state.2.log, entry.1 < row.cursor) :
    InTime decoders state event := by
  refine ⟨onward, ?_⟩
  split
  · next row given =>
      intro samples
      rcases early row given with energy | timely
      · exact absurd energy samples.1.2.1
      · exact timely
  · trivial

def wordAt (payload : List UInt8) (word : Nat) : UInt32 :=
  ((payload.drop (4 * word)).take 4).foldr (fun byte value => value * 256 + byte.toUInt32) 0

def longAt (payload : List UInt8) (word : Nat) : UInt64 :=
  (wordAt payload word).toUInt64 + (wordAt payload (word + 1)).toUInt64 * 4294967296

def wirePayload (words : List (Nat × UInt32)) : List UInt8 :=
  (List.range meterRecordBytes).map (fun index =>
    ((words.lookup (index / 4)).getD 0 / (256 ^ (index % 4)).toUInt32).toUInt8)

def meterRecordMagic : UInt32 := 0x3152544d
def meterTenMinuteFormat : UInt32 := 0x000C0001

/-- `decode_energy_family` on the two parts of a family that passes its checks. -/
def energyFamily (summary quadrants : MeterStreamRecord) : EnergyFamily where
  session := {
    (default : EnergyValues).withReadings (fun lane =>
      { value := (if lane.val < 12 then longAt summary.payload (16 + 2 * lane.val)
          else longAt quadrants.payload (16 + 2 * (lane.val - 12))).toInt64
        quality := .valid
        sourceSequence := (wordAt summary.payload 3).toUInt64
        measuredAt := summary.ingestedAtNanoseconds
        calculationWindow := ⟨wordAt summary.payload 6, (((wordAt summary.payload 6).toUInt64 *
          1000000000) / (wordAt summary.payload 5).toUInt64).toInt64⟩ }) with
    sessionId := longAt summary.payload 48
    lastSampleIndex := longAt summary.payload 14 }
  sourceSequence := wordAt summary.payload 3
  generation := summary.configurationGeneration
  ingestedAtNanoseconds := summary.ingestedAtNanoseconds

/-- The decoders on the records below; the readings of a ten-minute record are left out. -/
def wireDecoders : Decoders where
  update := fun record =>
    if record.recordFormat = meterTenMinuteFormat then
      .ok { period := .min10, kind := .fundamental
            sequence := (wordAt record.payload 3).toUInt64
            configurationGeneration := wordAt record.payload 4
            windowStart := longAt record.payload 9
            windowEnd := longAt record.payload 36 }
    else .error (.invalidArgument "meter record has no registered decoder")
  event := fun _ => .error (.invalidArgument "invalid PQ event lifecycle record")
  energyBatch := fun records =>
    let energyCount := records.countP (fun record => record.recordFormat = meterEnergyFormat)
    if energyCount = 0 then .ok none
    else match records, energyCount with
      | [summary, quadrants], 2 => .ok (some (energyFamily summary quadrants))
      | _, _ => .error (.invalidArgument
          "ENERGY-v1 must be published as one exact two-record family")
  demandRecord := fun _ => .ok none
  eventUuid := fun _ => []

def wireRecord (format : UInt32) (sequence : UInt32) (fragment : UInt16) (period : UInt8)
    (words : List (Nat × UInt32)) : MeterStreamRecord where
  recordFormat := format
  measurementPeriod := period
  sourceSequence := sequence.toUInt64
  sourceFragment := fragment
  configurationGeneration := 1
  ingestedAtNanoseconds := 1000
  payload := wirePayload ([(0, meterRecordMagic), (1, format), (2, 256), (3, sequence), (4, 1),
    (5, 32000)] ++ words)

/-- A family of one session with one counter that is not zero. -/
def importFamily (sequence active : UInt32) : List MeterStreamRecord :=
  [wireRecord meterEnergyFormat sequence 0 0 [(6, 6400), (8, 2), (9, 1), (13, 0xF18), (14, 6400),
      (16, active), (48, 5)],
    wireRecord meterEnergyFormat sequence 1 0 [(6, 6400), (8, 2), (9, 1), (13, 0xF19), (14, 6400),
      (48, 5)]]

def tenMinuteRecord : MeterStreamRecord :=
  wireRecord meterTenMinuteFormat 1 0 2 [(6, 19200000), (8, 7), (9, 1), (36, 19200000)]

def lockstep : List Event :=
  [.stream (.start Spool.volatilePolicy 1000 true), .restart (fun _ => Spool.volatilePolicy),
    .publishRecords (importFamily 1 40) (.ok ()) (.ok ()),
    .publishRecords [tenMinuteRecord] (.ok ()) (.ok ()), .readPage, .ingest {}, .ingest {},
    .ingest {}, .acknowledge, .publishRecords (importFamily 2 70) (.ok ()) (.ok ())]

theorem lockstep_inTime : (sampling wireDecoders).Along (InTime wireDecoders)
    (installed (fun _ => Spool.volatilePolicy)) lockstep :=
  ⟨inTime_early (onward_unread rfl) (by decide +kernel), inTime_early trivial (by decide +kernel),
    inTime_early trivial (by decide +kernel), inTime_early trivial (by decide +kernel),
    inTime_early trivial (by decide +kernel), inTime_early trivial (by decide +kernel),
    inTime_early trivial (by decide +kernel), inTime_early trivial (by decide +kernel),
    inTime_early trivial (by decide +kernel), inTime_early trivial (by decide +kernel), trivial⟩

theorem lockstep_energy :
    (sampling wireDecoders).Along (InTime wireDecoders)
        (installed (fun _ => Spool.volatilePolicy)) lockstep ∧
      ∃ block ∈ ((sampling wireDecoders).run (installed (fun _ => Spool.volatilePolicy))
          lockstep).1.historian.store.blocks,
        isTenMinuteFundamental block = true ∧
          block.energyValues = snapshotRows (snapshotBelow block.streamCursor
            ((sampling wireDecoders).run (installed (fun _ => Spool.volatilePolicy))
              lockstep).2.log) := by
  have stored : ∃ block ∈ ((sampling wireDecoders).run (installed (fun _ => Spool.volatilePolicy))
      lockstep).1.historian.store.blocks, isTenMinuteFundamental block = true := by
    decide +kernel
  rcases stored with ⟨block, member, wanted⟩
  exact ⟨lockstep_inTime, block, member, wanted,
    ten_minute_energy wireDecoders (fun _ => Spool.volatilePolicy) lockstep lockstep_inTime block
      member wanted⟩

def lagging : List Event :=
  [.stream (.start Spool.volatilePolicy 1000 true), .restart (fun _ => Spool.volatilePolicy),
    .publishRecords (importFamily 1 40) (.ok ()) (.ok ()),
    .publishRecords [tenMinuteRecord] (.ok ()) (.ok ()),
    .publishRecords (importFamily 2 70) (.ok ()) (.ok ()), .readPage, .ingest {}, .ingest {},
    .ingest {}]

theorem lagging_energy :
    ∃ block ∈ ((sampling wireDecoders).run (installed (fun _ => Spool.volatilePolicy))
        lagging).1.historian.store.blocks,
      isTenMinuteFundamental block = true ∧
        block.energyValues ≠ snapshotRows (snapshotBelow block.streamCursor
          ((sampling wireDecoders).run (installed (fun _ => Spool.volatilePolicy))
            lagging).2.log) := by
  decide +kernel

end Msap1.Historian
