import Msap1.Historian.EnergyBlocks

/-! Whether an event that was deleted from the power-quality catalogue stays deleted. -/

namespace Msap1.Historian

open Meter
open Ledger (EnergyLedger)
open Spool (MeterStreamRecord StoredRecord DurableMeterSpool DatabaseStoragePolicy Device)

/-- An event that was removed from the catalogue, and the head of the stream at that moment. -/
structure Removal where
  eventId : PowerQualityEventId
  head : Nat
  deriving DecidableEq, Repr

def eventIds (store : HistoryStore) : List PowerQualityEventId :=
  store.events.map CatalogEntry.eventId

/-- The newest record of the stream, also while no spool is open. -/
def streamHead (device : Device) : Nat :=
  match device.spool with
  | some spool => spool.store.newest
  | none => device.disk.newest

def removesEvents : Event → Bool
  | .deleteEvents _ _ => true
  | .clearEvents _ => true
  | .recreateDatabase => true
  | _ => false

def removedBy (decoders : Decoders) (system : System) (event : Event) : List Removal :=
  if removesEvents event then
    ((eventIds system.historian.store).filter (fun eventId =>
      !(eventIds (system.after decoders event).historian.store).contains eventId)).map
        (fun eventId => ⟨eventId, streamHead system.device⟩)
  else []

def noteRemovals (decoders : Decoders) (system : System) (removals : List Removal)
    (event : Event) (_ : Unit) : List Removal :=
  removals ++ removedBy decoders system event

/-- The historian and the stream beside the events that were removed. -/
def cataloguing (decoders : Decoders) : Machine (System × List Removal) Event Unit :=
  (machine decoders).traced (noteRemovals decoders)

def recordedEvent (decoders : Decoders) (row : StoredRecord) : Option PowerQualityEventId :=
  if row.record.recordFormat = meterPqEventLifecycleFormat then
    (decoders.event row.payload).toOption.map PowerQualityEventLifecycle.id
  else none

/-- A record of a removed event that the stream already had when the event was removed. -/
def Outdated (decoders : Decoders) (removal : Removal) (row : StoredRecord) : Prop :=
  recordedEvent decoders row = some removal.eventId ∧ row.cursor ≤ removal.head

/-- The historian has acknowledged what the spool still has of a removed event, and the stream
goes on after the removal. -/
structure Spent (decoders : Decoders) (spool : DurableMeterSpool) (removal : Removal) : Prop where
  passed : removal.head ≤ spool.store.sequence
  acknowledged : ∀ row ∈ spool.store.records, Outdated decoders removal row →
    ∃ cursor, spool.acknowledgedCursor liveConsumer = some cursor ∧ row.cursor ≤ cursor

/-- What may set the stream back behind the historian: another session, another database, and
the end of the registration. -/
def setsBack : Spool.Event → Bool
  | .start _ _ _ => true
  | .applyPolicy _ _ _ _ => true
  | .unregister name => name = liveConsumer
  | _ => false

/-- Events are removed when the historian is done with their records, nothing sets the stream
back behind that, and no replay into a volatile dataset meets such a record. -/
def Lasting (decoders : Decoders) (state : System × List Removal) (event : Event) : Prop :=
  match event with
  | .stream event => setsBack event = true →
      ∀ spool, (Spool.machine.next state.1.device event).spool = some spool →
        ∀ removal ∈ state.2, Spent decoders spool removal
  | .ingestBackfill transactions =>
      ∀ row ∈ handed state.1 (.ingestBackfill transactions), ∀ removal ∈ state.2,
        ¬ Outdated decoders removal row
  | event => ∀ removal ∈ removedBy decoders state.1 event,
      (∀ spool, state.1.device.spool = some spool → ∀ row ∈ spool.store.records,
        Outdated decoders removal row → ∃ cursor,
          spool.acknowledgedCursor liveConsumer = some cursor ∧ row.cursor ≤ cursor) ∧
      ∀ page, state.1.historian.page = some page → ∀ row ∈ page.rows,
        ¬ Outdated decoders removal row

section Additions

variable {decoders : Decoders} {ledger : EnergyLedger} {store : HistoryStore}

theorem append_events {update : MeterUpdate} {cursor : Nat} {time : Int}
    {stored : Except Failure Unit} {after : HistoryStore}
    (returned : store.append update cursor time stored = .ok after) :
    after.events = store.events := by
  unfold HistoryStore.append at returned
  rcases Loops.bind_ok returned with ⟨dataset, -, returned⟩
  split at returned
  · cases returned
    rfl
  · rcases Loops.bind_ok returned with ⟨-, -, returned⟩
    cases returned
    split
    · rfl
    · rfl

theorem appended_events {result : Except Failure HistoryStore}
    (same : ∀ after, result = .ok after → after.events = store.events) :
    (appended store result).1.events = store.events := by
  cases result with
  | ok after => exact same after rfl
  | error failure => rfl

theorem ingestUpdate_events (row : StoredRecord) (transactions : Transactions)
    (update : MeterUpdate) :
    (ingestUpdate ledger store row transactions update).1.events = store.events := by
  unfold ingestUpdate
  dsimp only
  split
  · exact appended_events (fun _ returned => append_events returned)
  · split
    · rfl
    · next between returned =>
        calc (appended between _).1.events = between.events :=
              appended_events (fun _ second => append_events second)
          _ = store.events := append_events returned

theorem upsertEvent_ids {events : List CatalogEntry} {row : CatalogEntry}
    {eventId : PowerQualityEventId}
    (member : eventId ∈ (upsertEvent events row).map CatalogEntry.eventId) :
    eventId ∈ events.map CatalogEntry.eventId ∨ eventId = row.eventId := by
  unfold upsertEvent at member
  split at member
  · rcases List.mem_map.mp member with ⟨entry, inside, same⟩
    rcases List.mem_map.mp inside with ⟨old, present, replaced⟩
    by_cases own : old.eventId = row.eventId
    · left
      refine List.mem_map.mpr ⟨old, present, ?_⟩
      rw [if_pos own] at replaced
      rw [← same, ← replaced, replaceEvent]
      split
      · exact own
      · rfl
    · left
      rw [if_neg own] at replaced
      exact List.mem_map.mpr ⟨old, present, by rw [replaced, same]⟩
  · rw [List.map_append, List.mem_append] at member
    rcases member with old | new
    · exact .inl old
    · exact .inr (List.mem_singleton.mp new)

theorem eventRow_id {uuid : PowerQualityEventId → List UInt8} {event : PowerQualityEventLifecycle}
    {cursor : Nat} {timing : Spool.RecordTimingProvenance} {payload : List UInt8}
    {entry : CatalogEntry} (made : eventRow uuid event cursor timing payload = .ok entry) :
    entry.eventId = event.id := by
  unfold eventRow at made
  split at made
  · cases made
  · rcases Loops.bind_ok made with ⟨lastUtc, -, made⟩
    cases made
    rfl

theorem ingest_events {row : StoredRecord} {transactions : Transactions}
    {eventId : PowerQualityEventId}
    (member : eventId ∈ eventIds (ingest decoders ledger store row transactions).1) :
    eventId ∈ eventIds store ∨ recordedEvent decoders row = some eventId := by
  unfold ingest at member
  dsimp only at member
  split at member
  · next lifecycle =>
      unfold ingestEvent at member
      dsimp only at member
      split at member
      · exact .inl member
      · next entry made =>
          split at made
          · cases made
          · rcases Loops.bind_ok made with ⟨event, decoded, made⟩
            cases outcome : transactions.first with
            | error failure =>
                rw [outcome] at member
                exact .inl member
            | ok committed =>
                rw [outcome] at member
                rcases upsertEvent_ids member with old | new
                · exact .inl old
                · right
                  rw [recordedEvent, if_pos lifecycle, decoded, new, eventRow_id made]
                  rfl
  · left
    split at member
    · exact member
    · split at member
      · exact member
      · split at member
        · exact member
        · split at member
          · exact member
          · split at member
            · exact member
            · split at member
              · exact member
              · split at member
                · exact member
                · split at member
                  · exact member
                  · rw [eventIds, ingestUpdate_events] at member
                    exact member

end Additions

section Steps

variable {decoders : Decoders} {system : System}

theorem after_events {event : Event} {eventId : PowerQualityEventId}
    (member : eventId ∈ eventIds (system.after decoders event).historian.store) :
    eventId ∈ eventIds system.historian.store ∨
      ∃ row, handed system event = some row ∧ recordedEvent decoders row = some eventId := by
  have maintained : ∀ call : HistoryStore → Except Failure HistoryStore,
      (∀ store, call system.historian.store = .ok store →
        ∀ id ∈ eventIds store, id ∈ eventIds system.historian.store) →
        eventId ∈ eventIds (system.maintain call).historian.store →
          eventId ∈ eventIds system.historian.store := by
    intro call removes inside
    unfold System.maintain at inside
    split at inside
    · exact inside
    · split at inside
      · next store returned => exact removes store returned eventId inside
      · exact inside
  cases event with
  | publishRecords records stored committed =>
      left
      simp only [System.after, System.publishRecords] at member
      split at member
      · exact member
      · split at member
        · exact member
        · exact member
        · split at member
          · exact member
          · exact member
  | publishRecord record stored committed =>
      left
      simp only [System.after, System.publishRecord] at member
      split at member
      · exact member
      · exact member
      · split at member
        · exact member
        · exact member
  | resetEnergy request stored =>
      left
      simp only [System.after] at member
      split at member
      · exact member
      · exact member
  | resetDemandPeaks request stored =>
      left
      simp only [System.after] at member
      split at member
      · exact member
      · exact member
  | stream event =>
      left
      simp only [System.after, System.streamEvent] at member
      split at member
      · exact member
      · exact member
  | readPage =>
      left
      simp only [System.after, System.readPage] at member
      split at member
      · exact member
      · exact member
  | ingest transactions =>
      simp only [System.after, System.ingestPage] at member
      split at member
      · next row rows last begun current =>
          rcases ingest_events member with old | new
          · exact .inl old
          · exact .inr ⟨row, by rw [handed, current]; rfl, new⟩
      · exact .inl member
  | acknowledge =>
      left
      simp only [System.after, System.acknowledge] at member
      split at member
      · exact member
      · exact member
  | beginBackfill =>
      left
      simp only [System.after, System.beginBackfill] at member
      split at member
      · exact member
      · exact member
  | readBackfill =>
      left
      simp only [System.after, System.readBackfill] at member
      split at member
      · split at member
        · exact member
        · split at member
          · exact member
          · exact member
      · exact member
  | ingestBackfill transactions =>
      simp only [System.after, System.ingestBackfill] at member
      split at member
      · next through startup row rows acknowledged current =>
          split at member
          · exact .inl member
          · next inside =>
              cases rebuilds : rebuildsVolatilePeriod system.historian.store row.record with
              | false =>
                  rw [rebuilds] at member
                  exact .inl member
              | true =>
                  have given : handed system (.ingestBackfill transactions) = some row := by
                    simp [handed, current, Option.filter, rebuilds, not_lt.mp inside]
                  rw [rebuilds] at member
                  simp only [if_true] at member
                  split at member
                  · rcases ingest_events member with old | new
                    · exact .inl old
                    · exact .inr ⟨row, given, new⟩
                  · rcases ingest_events member with old | new
                    · exact .inl old
                    · exact .inr ⟨row, given, new⟩
      · exact .inl member
  | acknowledgeBackfill =>
      left
      simp only [System.after, System.acknowledgeBackfill] at member
      split at member
      · split at member
        · exact member
        · split at member
          · exact member
          · exact member
      · exact member
  | restart policies => exact .inl member
  | applyPolicies policies =>
      left
      simp only [System.after, System.applyPolicies] at member
      split at member
      · exact member
      · exact member
  | clearDatasets datasets =>
      left
      simp only [System.after] at member
      split at member
      · refine maintained _ ?_ member
        intro store returned id inside
        unfold HistoryStore.clearDatasets at returned
        split at returned
        · cases returned
        · split at returned
          · cases returned
          · split at returned
            · cases returned
            · cases returned
              exact inside
      · exact member
  | recreateDatabase =>
      left
      simp only [System.after] at member
      split at member
      · refine maintained _ ?_ member
        intro store returned id inside
        cases returned
        cases inside
      · exact member
  | deleteEvents eventUuids stored =>
      left
      refine maintained _ ?_ member
      intro store returned id inside
      rw [deletePowerQualityEvents_ok returned] at inside
      rcases List.mem_map.mp inside with ⟨entry, kept, same⟩
      exact List.mem_map.mpr ⟨entry, (List.mem_filter.mp kept).1, same⟩
  | clearEvents stored =>
      left
      refine maintained _ ?_ member
      intro store returned id inside
      rw [clearPowerQualityEvents_ok returned] at inside
      cases inside

end Steps

/-- The live consumer will not be given an outdated record. -/
structure Kept (decoders : Decoders) (state : System × List Removal) : Prop where
  formed : Spool.DeviceFormed state.1.device
  spent : ∀ spool, state.1.device.spool = some spool → ∀ removal ∈ state.2,
    Spent decoders spool removal
  page : ∀ page, state.1.historian.page = some page → ∀ row ∈ page.rows,
    ∀ removal ∈ state.2, ¬ Outdated decoders removal row

section Keeping

variable {decoders : Decoders} {system after : System} {removals : List Removal}

theorem spent_onward {before after : DurableMeterSpool} {removal : Removal}
    (sequence : before.store.sequence ≤ after.store.sequence)
    (records : ∀ row ∈ after.store.records, row ∈ before.store.records ∨
      before.store.sequence < row.cursor)
    (consumer : ∀ cursor, before.acknowledgedCursor liveConsumer = some cursor →
      ∃ later, after.acknowledgedCursor liveConsumer = some later ∧ cursor ≤ later)
    (spent : Spent decoders before removal) : Spent decoders after removal := by
  constructor
  · exact le_trans spent.passed sequence
  · intro row member outdated
    rcases records row member with old | new
    · rcases spent.acknowledged row old outdated with ⟨cursor, registered, below⟩
      rcases consumer cursor registered with ⟨later, kept, raised⟩
      exact ⟨later, kept, le_trans below raised⟩
    · have early := outdated.2
      have passed := spent.passed
      omega

/-- What no event but a new session, a new database or the end of the registration undoes. -/
theorem device_spent {device : Device} {event : Spool.Event} (formed : Spool.DeviceFormed device)
    (ordinary : setsBack event = false) {removal : Removal}
    (spent : ∀ spool, device.spool = some spool → Spent decoders spool removal)
    (spool : DurableMeterSpool) (opened : (Spool.machine.next device event).spool = some spool) :
    Spent decoders spool removal := by
  have step := Spool.step_cases device event
  generalize Spool.machine.next device event = next at step opened
  generalize Spool.machine.answer device event = answer at step
  cases step with
  | ignored => exact spent spool opened
  | refused => exact spent spool opened
  | started => cases ordinary
  | published current returned =>
      cases opened
      rcases Spool.published_rows (formed.spool _ current).wellFormed returned with
        ⟨records, -, consumers, sequence⟩
      refine spent_onward sequence records ?_ (spent _ current)
      intro cursor registered
      exact ⟨cursor, Spool.registered_same_consumers consumers registered, le_refl _⟩
  | registered current returned =>
      cases opened
      have store := (Spool.registerConsumer_ok returned).1
      refine spent_onward ?_ ?_ ?_ (spent _ current)
      · rw [store]
      · intro row member
        rw [store] at member
        exact .inl member
      · intro cursor registered
        exact ⟨cursor, Spool.registered_after_register registered returned, le_refl _⟩
  | @unregistered name _ _ current returned =>
      cases opened
      have different : name ≠ liveConsumer := by simpa [setsBack] using ordinary
      refine spent_onward ?_ ?_ ?_ (spent _ current)
      · rw [Spool.unregisterConsumer_ok returned]
      · intro row member
        rw [Spool.unregisterConsumer_ok returned] at member
        exact .inl member
      · intro cursor registered
        exact ⟨cursor, Spool.registered_after_unregister different registered returned,
          le_refl _⟩
  | wasRead => exact spent spool opened
  | @acknowledged name reached _ _ current returned =>
      cases opened
      refine spent_onward ?_ ?_ ?_ (spent _ current)
      · rw [(Spool.acknowledge_ok returned).2]
      · intro row member
        rw [(Spool.acknowledge_ok returned).2] at member
        exact .inl member
      · intro cursor registered
        by_cases own : name = liveConsumer
        · rw [own] at returned
          exact ⟨_, Spool.acknowledge_registered registered returned, le_max_left _ _⟩
        · exact ⟨cursor, Spool.registered_after_acknowledge own registered returned, le_refl _⟩
  | @pruned now written progress before current =>
      cases opened
      have pruned := Spool.prune_spec before device.lease now written progress
        (formed.spool before current)
      refine spent_onward ?_ ?_ ?_ (spent before current)
      · exact le_of_eq pruned.trimmed.sequence.symm
      · intro row member
        exact .inl (pruned.trimmed.records.subset member)
      · intro cursor registered
        exact ⟨cursor, Spool.registered_same_consumers pruned.trimmed.consumers registered,
          le_refl _⟩
  | policyKept => cases ordinary
  | switchFailed => cases ordinary
  | switched => cases ordinary
  | crashed => cases opened

theorem kept_same (kept : Kept decoders (system, removals))
    (formed : Spool.DeviceFormed after.device)
    (spent : ∀ removal, (∀ spool, system.device.spool = some spool →
      Spent decoders spool removal) → ∀ spool, after.device.spool = some spool →
        Spent decoders spool removal)
    (page : ∀ page, after.historian.page = some page → ∀ row ∈ page.rows,
      ∃ before, system.historian.page = some before ∧ row ∈ before.rows) :
    Kept decoders (after, removals) := by
  refine ⟨formed, ?_, ?_⟩
  · intro spool opened removal member
    exact spent removal (fun before current => kept.spent before current removal member) spool
      opened
  · intro current given row member removal inside
    rcases page current given row member with ⟨before, present, old⟩
    exact kept.page before present row old removal inside

theorem kept_device (kept : Kept decoders (system, removals)) {event : Spool.Event}
    (ordinary : setsBack event = false) :
    Kept decoders ({ system with device := Spool.machine.next system.device event }, removals) :=
  kept_same kept (next_formed kept.formed event)
    (fun _ spent spool opened => device_spent kept.formed ordinary spent spool opened)
    (fun page current _ member => ⟨page, current, member⟩)

theorem kept_historian (kept : Kept decoders (system, removals)) {historian : HistorianService}
    (page : ∀ page, historian.page = some page → ∀ row ∈ page.rows,
      ∃ before, system.historian.page = some before ∧ row ∈ before.rows) :
    Kept decoders ({ system with historian }, removals) :=
  kept_same kept kept.formed (fun _ spent => spent) page

theorem kept_ledger (kept : Kept decoders (system, removals)) {ledger : EnergyLedger} :
    Kept decoders ({ system with ledger }, removals) :=
  ⟨kept.formed, kept.spent, kept.page⟩

theorem kept_maintain (kept : Kept decoders (system, removals))
    (call : HistoryStore → Except Failure HistoryStore) :
    Kept decoders (system.maintain call, removals) := by
  unfold System.maintain
  split
  · exact kept
  · split
    · exact kept_historian kept (fun page current _ member => ⟨page, current, member⟩)
    · exact kept

theorem kept_endBackfill (kept : Kept decoders (system, removals)) :
    Kept decoders (system.endBackfill, removals) := by
  have closed := kept_device kept (rfl : setsBack (.unregister backfillConsumer) = false)
  exact kept_historian closed (fun page current _ member => ⟨page, current, member⟩)

theorem kept_readPage (kept : Kept decoders (system, removals)) :
    Kept decoders (system.readPage, removals) := by
  unfold System.readPage
  split
  · next row rows vacant answered =>
      refine ⟨kept.formed, kept.spent, ?_⟩
      rintro page ⟨⟩ other member removal inside outdated
      have step := Spool.step_cases system.device (.read liveConsumer 256)
      rw [answered] at step
      generalize Spool.machine.next system.device (.read liveConsumer 256) = next at step
      cases step with
      | @wasRead _ _ spool _ current returned =>
          have spent := kept.spent spool current removal inside
          rcases read_rows answered member with ⟨open', present, stored⟩
          have opened : open' = spool := Option.some.inj (present.symm.trans current)
          rw [opened] at stored
          rcases spent.acknowledged other stored outdated with ⟨cursor, registered, below⟩
          have page : other ∈ row :: rows := member
          rw [Spool.readAfter_rows registered returned] at page
          have later := (List.mem_filter.mp (List.mem_of_mem_take page)).2
          simp only [decide_eq_true_eq] at later
          omega
  · exact kept

theorem kept_publishRecords (kept : Kept decoders (system, removals))
    (records : List MeterStreamRecord) (stored committed : Except Failure Unit) :
    Kept decoders (system.publishRecords decoders records stored committed, removals) := by
  unfold System.publishRecords
  split
  · exact kept
  · split
    · exact kept
    · exact kept_device kept rfl
    · split
      · exact kept
      · exact kept_ledger (kept_device kept rfl)

theorem kept_publishRecord (kept : Kept decoders (system, removals))
    (record : MeterStreamRecord) (stored committed : Except Failure Unit) :
    Kept decoders (system.publishRecord decoders record stored committed, removals) := by
  unfold System.publishRecord
  split
  · exact kept
  · exact kept_device kept rfl
  · split
    · exact kept
    · exact kept_ledger (kept_device kept rfl)

theorem kept_streamEvent (kept : Kept decoders (system, removals)) (event : Spool.Event)
    (lasting : Lasting decoders (system, removals) (.stream event)) :
    Kept decoders (system.streamEvent event, removals) := by
  have moved : Kept decoders
      ({ system with device := Spool.machine.next system.device event }, removals) := by
    cases back : setsBack event with
    | false => exact kept_device kept back
    | true => exact ⟨next_formed kept.formed event, lasting back, kept.page⟩
  unfold System.streamEvent
  split
  · exact kept
  · exact moved

theorem kept_ingestPage (kept : Kept decoders (system, removals)) (transactions : Transactions) :
    Kept decoders (system.ingestPage decoders transactions, removals) := by
  unfold System.ingestPage
  split
  · next row rows last begun current =>
      apply kept_historian kept
      intro page given other member
      dsimp only at given
      split at given
      · cases given
        exact ⟨_, current, List.mem_cons_of_mem row member⟩
      · cases given
  · exact kept

theorem kept_acknowledge (kept : Kept decoders (system, removals)) :
    Kept decoders (system.acknowledge, removals) := by
  unfold System.acknowledge
  split
  · next last begun current =>
      have moved := kept_device kept (rfl : setsBack (.acknowledge liveConsumer last) = false)
      apply kept_historian moved
      intro page given
      cases given
  · exact kept

theorem kept_beginBackfill (kept : Kept decoders (system, removals)) :
    Kept decoders (system.beginBackfill, removals) := by
  unfold System.beginBackfill
  split
  · exact kept
  · have closed := kept_device kept (rfl : setsBack (.unregister backfillConsumer) = false)
    have opened := kept_device closed (rfl : setsBack (.register backfillConsumer) = false)
    exact kept_historian opened (fun page current _ member => ⟨page, current, member⟩)

theorem kept_readBackfill (kept : Kept decoders (system, removals)) :
    Kept decoders (system.readBackfill, removals) := by
  unfold System.readBackfill
  split
  · split
    · exact kept_endBackfill kept
    · split
      · exact kept_historian kept (fun page current _ member => ⟨page, current, member⟩)
      · exact kept_endBackfill kept
  · exact kept

theorem kept_ingestBackfill (kept : Kept decoders (system, removals))
    (transactions : Transactions) :
    Kept decoders (system.ingestBackfill decoders transactions, removals) := by
  have samePage : ∀ historian : HistorianService, historian.page = system.historian.page →
      Kept decoders ({ system with historian }, removals) := by
    intro historian page
    apply kept_historian kept
    intro current given row member
    exact ⟨current, page.symm.trans given, member⟩
  unfold System.ingestBackfill
  split
  · split
    · exact samePage _ rfl
    · dsimp only
      split
      · exact samePage _ rfl
      · exact kept_endBackfill (samePage _ rfl)
  · exact kept

theorem kept_acknowledgeBackfill (kept : Kept decoders (system, removals)) :
    Kept decoders (system.acknowledgeBackfill, removals) := by
  unfold System.acknowledgeBackfill
  split
  · next through startup acknowledged current =>
      split
      · exact kept_endBackfill kept
      · have moved := kept_device kept
          (rfl : setsBack (.acknowledge backfillConsumer acknowledged) = false)
        dsimp only
        split
        · exact kept_endBackfill moved
        · exact kept_historian moved (fun page current _ member => ⟨page, current, member⟩)
  · exact kept

theorem kept_restart (kept : Kept decoders (system, removals))
    (policies : DatabaseDataset → DatabaseStoragePolicy) :
    Kept decoders (system.restart policies, removals) := by
  have moved := kept_device kept (rfl : setsBack (.register liveConsumer) = false)
  apply kept_historian moved
  intro page given
  cases given

theorem kept_applyPolicies (kept : Kept decoders (system, removals))
    (policies : DatabaseDataset → DatabaseStoragePolicy) :
    Kept decoders (system.applyPolicies policies, removals) := by
  unfold System.applyPolicies
  split
  · exact kept
  · exact kept_historian kept (fun page current _ member => ⟨page, current, member⟩)

theorem after_kept (event : Event) (lasting : Lasting decoders (system, removals) event)
    (kept : Kept decoders (system, removals)) :
    Kept decoders (system.after decoders event, removals) := by
  cases event with
  | publishRecords records stored committed =>
      exact kept_publishRecords kept records stored committed
  | publishRecord record stored committed =>
      exact kept_publishRecord kept record stored committed
  | resetEnergy request stored =>
      simp only [System.after]
      split
      · exact kept_ledger kept
      · exact kept
  | resetDemandPeaks request stored =>
      simp only [System.after]
      split
      · exact kept_ledger kept
      · exact kept
  | stream event => exact kept_streamEvent kept event lasting
  | readPage => exact kept_readPage kept
  | ingest transactions => exact kept_ingestPage kept transactions
  | acknowledge => exact kept_acknowledge kept
  | beginBackfill => exact kept_beginBackfill kept
  | readBackfill => exact kept_readBackfill kept
  | ingestBackfill transactions => exact kept_ingestBackfill kept transactions
  | acknowledgeBackfill => exact kept_acknowledgeBackfill kept
  | restart policies => exact kept_restart kept policies
  | applyPolicies policies => exact kept_applyPolicies kept policies
  | clearDatasets datasets =>
      simp only [System.after]
      split
      · exact kept_maintain kept _
      · exact kept
  | recreateDatabase =>
      simp only [System.after]
      split
      · exact kept_maintain kept _
      · exact kept
  | deleteEvents eventUuids stored =>
      simp only [System.after]
      exact kept_maintain kept _
  | clearEvents stored =>
      simp only [System.after]
      exact kept_maintain kept _

theorem removal_frame {event : Event} (removes : removesEvents event = true) :
    (system.after decoders event).device = system.device ∧
      (system.after decoders event).historian.page = system.historian.page := by
  have maintained : ∀ call, (system.maintain call).device = system.device ∧
      (system.maintain call).historian.page = system.historian.page := by
    intro call
    unfold System.maintain
    split
    · exact ⟨rfl, rfl⟩
    · split
      · exact ⟨rfl, rfl⟩
      · exact ⟨rfl, rfl⟩
  cases event with
  | recreateDatabase =>
      simp only [System.after]
      split
      · exact maintained _
      · exact ⟨rfl, rfl⟩
  | deleteEvents eventUuids stored => exact maintained _
  | clearEvents stored => exact maintained _
  | _ => cases removes

theorem removedBy_head {event : Event} {removal : Removal}
    (member : removal ∈ removedBy decoders system event) :
    removesEvents event = true ∧ removal.head = streamHead system.device := by
  unfold removedBy at member
  split at member
  · next removes =>
      rcases List.mem_map.mp member with ⟨eventId, -, same⟩
      rw [← same]
      exact ⟨removes, rfl⟩
  · cases member

theorem removedBy_lasting {event : Event} (lasting : Lasting decoders (system, removals) event)
    {removal : Removal} (member : removal ∈ removedBy decoders system event) :
    (∀ spool, system.device.spool = some spool → ∀ row ∈ spool.store.records,
      Outdated decoders removal row → ∃ cursor,
        spool.acknowledgedCursor liveConsumer = some cursor ∧ row.cursor ≤ cursor) ∧
      ∀ page, system.historian.page = some page → ∀ row ∈ page.rows,
        ¬ Outdated decoders removal row := by
  have removes := (removedBy_head member).1
  cases event with
  | recreateDatabase => exact lasting removal member
  | deleteEvents eventUuids stored => exact lasting removal member
  | clearEvents stored => exact lasting removal member
  | _ => cases removes

theorem next_kept (event : Event) (lasting : Lasting decoders (system, removals) event)
    (kept : Kept decoders (system, removals)) :
    Kept decoders ((cataloguing decoders).next (system, removals) event) := by
  have before := after_kept event lasting kept
  refine ⟨before.formed, ?_, ?_⟩
  · intro spool opened removal member
    rcases List.mem_append.mp member with old | new
    · exact before.spent spool opened removal old
    · rcases removedBy_head new with ⟨removes, head⟩
      have current : system.device.spool = some spool :=
        (congrArg Device.spool (removal_frame removes).1).symm.trans opened
      constructor
      · rw [head, streamHead, current]
        exact Spool.newest_le_sequence (kept.formed.spool spool current).wellFormed
      · exact (removedBy_lasting lasting new).1 spool current
  · intro page given row inside removal member
    rcases List.mem_append.mp member with old | new
    · exact before.page page given row inside removal old
    · have current : system.historian.page = some page :=
        (removal_frame (removedBy_head new).1).2.symm.trans given
      exact (removedBy_lasting lasting new).2 page current row inside

end Keeping

/-- A step that puts a removed event back was given a record from after the removal. -/
theorem removed_event_stays (decoders : Decoders)
    (policies : DatabaseDataset → DatabaseStoragePolicy) (events : List Event) (event : Event)
    (lasting : (cataloguing decoders).Along (Lasting decoders) (System.installed policies, [])
      (events ++ [event]))
    (removal : Removal)
    (removed : removal ∈
      ((cataloguing decoders).run (System.installed policies, []) events).2)
    (absent : removal.eventId ∉ eventIds
      ((cataloguing decoders).run (System.installed policies, []) events).1.historian.store)
    (back : removal.eventId ∈ eventIds
      ((cataloguing decoders).run (System.installed policies, [])
        (events ++ [event])).1.historian.store) :
    ∃ row, handed ((cataloguing decoders).run (System.installed policies, []) events).1 event =
        some row ∧
      recordedEvent decoders row = some removal.eventId ∧ removal.head < row.cursor := by
  rcases (cataloguing decoders).along_append.mp lasting with ⟨early, late, -⟩
  have start : Kept decoders (System.installed policies, []) :=
    ⟨Spool.run_formed [], (fun _ absent => nomatch absent), (fun _ absent => nomatch absent)⟩
  have kept := (cataloguing decoders).along_invariant (Lasting decoders) (Kept decoders)
    (fun _ event lasting kept => next_kept event lasting kept)
    (System.installed policies, []) start events early
  rw [Machine.run_concat] at back
  generalize (cataloguing decoders).run (System.installed policies, []) events = state
    at removed absent back late kept ⊢
  rcases state with ⟨system, removals⟩
  rcases after_events back with old | ⟨row, given, recorded⟩
  · exact absurd old absent
  · refine ⟨row, given, recorded, ?_⟩
    by_contra early
    have outdated : Outdated decoders removal row := ⟨recorded, not_lt.mp early⟩
    cases event with
    | ingest transactions =>
        unfold handed at given
        rcases Option.bind_eq_some_iff.mp given with ⟨page, current, first⟩
        exact kept.page page current row (List.mem_of_mem_head? first) removal removed outdated
    | ingestBackfill transactions => exact late row given removal removed outdated
    | _ => cases given

/-- `decode_pq_event_lifecycle_record` on a record that passes its checks. -/
def lifecycleOf (payload : List UInt8) : PowerQualityEventLifecycle where
  id := ⟨longAt payload 16, longAt payload 18⟩
  lifecycle := (wordAt payload 13 &&& 0x3).toUInt8
  eventType := (wordAt payload 13 >>> 4 &&& 0xF).toUInt8
  phaseMask := (wordAt payload 13 >>> 8 &&& 0x7).toUInt8
  sequence := wordAt payload 3
  configurationGeneration := wordAt payload 4
  sampleRateHz := wordAt payload 5
  firstSample := longAt payload 9
  lastSample := longAt payload 14
  triggerSample := longAt payload 39
  durationSamples := longAt payload 37
  startUtcNanoseconds := longAt payload 41
  lastUtcNanoseconds := longAt payload 43
  timeQuality := (wordAt payload 45).toUInt8

def firstEventUuid : List UInt8 :=
  [129, 77, 215, 185, 120, 77, 87, 193, 155, 156, 41, 114, 233, 180, 253, 108]

def lifecycleDecoders : Decoders := { wireDecoders with
  event := fun payload => .ok (lifecycleOf payload)
  eventUuid := fun _ => firstEventUuid }

/-- A sag of phase A that lasts from sample 100 for a while. -/
def sagRecord (sequence lifecycle duration : UInt32) : MeterStreamRecord :=
  wireRecord meterPqEventLifecycleFormat sequence 0 0 [(6, duration + 1), (7, 0x10), (8, 0xA),
    (9, 100), (13, 0x100 + lifecycle), (14, 100 + duration), (16, 1), (18, 1), (20, 1),
    (21, 9000), (22, 200), (23, 0x104), (26, 230000000), (37, duration), (39, 100),
    (47, sequence), (48, 1)]

/-- The event starts, the historian records it, and it is deleted. -/
def deletedSag : List Event :=
  [.stream (.start Spool.volatilePolicy 1000 true), .restart (fun _ => Spool.volatilePolicy),
    .publishRecord (sagRecord 1 0 0) (.ok ()) (.ok ()), .readPage, .ingest {}, .acknowledge,
    .deleteEvents [firstEventUuid] (.ok ())]

def continuedSag : List Event :=
  deletedSag ++ [.publishRecord (sagRecord 2 1 100) (.ok ()) (.ok ()), .readPage]

theorem lasting_unremoved {decoders : Decoders} {system : System} {event : Event}
    (keeps : removesEvents event = false) : Lasting decoders (system, []) event := by
  cases event with
  | stream event => exact fun _ _ _ _ member => nomatch member
  | ingestBackfill transactions => exact fun _ _ _ member => nomatch member
  | deleteEvents => cases keeps
  | clearEvents => cases keeps
  | recreateDatabase => cases keeps
  | _ => exact fun _ member => nomatch member

theorem lasting_idle {decoders : Decoders} {system : System} {removals : List Removal}
    {event : Event} (removes : removesEvents event = true)
    (acknowledged : ∀ spool ∈ system.device.spool, ∀ row ∈ spool.store.records,
      ∃ cursor ∈ spool.acknowledgedCursor liveConsumer, row.cursor ≤ cursor)
    (idle : system.historian.page.isNone = true) : Lasting decoders (system, removals) event := by
  have done : ∀ removal ∈ removedBy decoders system event,
      (∀ spool, system.device.spool = some spool → ∀ row ∈ spool.store.records,
        Outdated decoders removal row → ∃ cursor,
          spool.acknowledgedCursor liveConsumer = some cursor ∧ row.cursor ≤ cursor) ∧
      ∀ page, system.historian.page = some page → ∀ row ∈ page.rows,
        ¬ Outdated decoders removal row := by
    intro removal _
    constructor
    · intro spool current row member _
      exact acknowledged spool current row member
    · intro page current
      rw [current] at idle
      cases idle
  cases event with
  | deleteEvents => exact done
  | clearEvents => exact done
  | recreateDatabase => exact done
  | _ => cases removes

theorem continuedSag_lasting :
    (cataloguing lifecycleDecoders).Along (Lasting lifecycleDecoders)
      (System.installed (fun _ => Spool.volatilePolicy), []) (continuedSag ++ [.ingest {}]) :=
  ⟨lasting_unremoved rfl, lasting_unremoved rfl, lasting_unremoved rfl,
    lasting_unremoved rfl, lasting_unremoved rfl, lasting_unremoved rfl,
    lasting_idle rfl (by decide +kernel) (by decide +kernel),
    (fun _ member => nomatch member), (fun _ member => nomatch member),
    (fun _ member => nomatch member), trivial⟩

theorem continued_sag_returns :
    ∃ removal ∈ ((cataloguing lifecycleDecoders).run
        (System.installed (fun _ => Spool.volatilePolicy), []) continuedSag).2,
      removal.eventId ∉ eventIds ((cataloguing lifecycleDecoders).run
          (System.installed (fun _ => Spool.volatilePolicy), [])
            continuedSag).1.historian.store ∧
        removal.eventId ∈ eventIds ((cataloguing lifecycleDecoders).run
          (System.installed (fun _ => Spool.volatilePolicy), [])
            (continuedSag ++ [.ingest {}])).1.historian.store ∧
        ∃ row, handed ((cataloguing lifecycleDecoders).run
            (System.installed (fun _ => Spool.volatilePolicy), []) continuedSag).1
              (.ingest {}) = some row ∧
          recordedEvent lifecycleDecoders row = some removal.eventId ∧
            removal.head < row.cursor := by
  have returned : ∃ removal ∈ ((cataloguing lifecycleDecoders).run
      (System.installed (fun _ => Spool.volatilePolicy), []) continuedSag).2,
        removal.eventId ∉ eventIds ((cataloguing lifecycleDecoders).run
            (System.installed (fun _ => Spool.volatilePolicy), [])
              continuedSag).1.historian.store ∧
          removal.eventId ∈ eventIds ((cataloguing lifecycleDecoders).run
            (System.installed (fun _ => Spool.volatilePolicy), [])
              (continuedSag ++ [.ingest {}])).1.historian.store := by
    decide +kernel
  rcases returned with ⟨removal, removed, absent, back⟩
  exact ⟨removal, removed, absent, back, removed_event_stays lifecycleDecoders
    (fun _ => Spool.volatilePolicy) continuedSag (.ingest {}) continuedSag_lasting removal removed
      absent back⟩

/-- The historian restarts after the deletion, and replays the stream for its volatile
datasets. -/
def replayedSag : List Event :=
  deletedSag ++ [.restart (fun _ => Spool.volatilePolicy), .beginBackfill, .readBackfill]

theorem replayed_sag_returns :
    ∃ removal ∈ ((cataloguing lifecycleDecoders).run
        (System.installed (fun _ => Spool.volatilePolicy), []) replayedSag).2,
      removal.eventId ∉ eventIds ((cataloguing lifecycleDecoders).run
          (System.installed (fun _ => Spool.volatilePolicy), [])
            replayedSag).1.historian.store ∧
        removal.eventId ∈ eventIds ((cataloguing lifecycleDecoders).run
          (System.installed (fun _ => Spool.volatilePolicy), [])
            (replayedSag ++ [.ingestBackfill {}])).1.historian.store ∧
        ∃ row ∈ handed ((cataloguing lifecycleDecoders).run
            (System.installed (fun _ => Spool.volatilePolicy), []) replayedSag).1
              (.ingestBackfill {}),
          row.cursor ≤ removal.head := by
  decide +kernel

end Msap1.Historian
