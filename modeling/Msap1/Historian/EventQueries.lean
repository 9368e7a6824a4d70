import Msap1.Historian.Redelivery
import Msap1.Truncation

/-! `query_power_quality_events`: the rows that match a filter, ordered by their last sample and
cut off at a limit, over a catalogue that several sessions of the producer have written. -/

namespace Msap1.Historian

open Meter Truncation

structure PowerQualityEventQuery where
  id : Option PowerQualityEventId := none
  eventUuid : Option (List UInt8) := none
  startUtcNanoseconds : Option Int := none
  endUtcNanoseconds : Option Int := none
  limit : UInt32 := 1000
  includeWaveformLinks : Bool := true

namespace PowerQualityEventQuery

variable (query : PowerQualityEventQuery)

def validate : Except Failure Unit :=
  if query.limit = 0 ∨ 10000 < query.limit then
    .error (.invalidArgument "PQ event query limit is out of range")
  else if query.id.isSome ∧ query.eventUuid.isSome then
    .error (.invalidArgument "PQ event query cannot combine private ID and UUID")
  else if ∃ first ∈ query.startUtcNanoseconds, ∃ last ∈ query.endUtcNanoseconds, last < first then
    .error (.invalidArgument "PQ event query time range is reversed")
  else .ok ()

/-- The `WHERE` clause. -/
def matching (row : CatalogEntry) : Bool :=
  query.id.all (fun id => row.eventId = id) &&
  query.eventUuid.all (fun eventUuid => row.eventUuid = eventUuid) &&
  query.startUtcNanoseconds.all
    (fun first => row.lastUtcNs = 0 || decide (first ≤ row.lastUtcNs)) &&
  query.endUtcNanoseconds.all (fun last => row.startUtcNs = 0 || decide (row.startUtcNs ≤ last))

end PowerQualityEventQuery

structure PowerQualityEventCatalogEntry where
  event : PowerQualityEventLifecycle
  eventUuid : List UInt8
  streamCursor : Nat
  startUtcNanoseconds : Option Int
  lastUtcNanoseconds : Option Int
  utcUncertaintyNanoseconds : Option UInt64
  waveformCaptureCount : Nat
  waveformCaptureUuids : List (List UInt8)

def lastSample (row : CatalogEntry) : Nat := row.lastSample.toNat

/-- `ORDER BY last_sample DESC`, which leaves the order of equal rows open. -/
structure RowOrder where
  sort : List CatalogEntry → List CatalogEntry
  descending : ∀ rows, Descending lastSample rows (sort rows)

def nonzero (value : Int) : Option Int := if value = 0 then none else some value

/-- The captures that are linked to an event, by their UUID. -/
def linkedCaptures (links : List WaveformLink) (eventId : PowerQualityEventId) :
    List (List UInt8) :=
  ((links.filter fun link => link.eventId = eventId).map WaveformLink.captureUuid).mergeSort
    fun left right => decide (left ≤ right)

/-- One row of the result; its event is decoded from the stored record again. -/
def readRow (decoders : Decoders) (query : PowerQualityEventQuery) (links : List WaveformLink)
    (row : CatalogEntry) : Except Failure PowerQualityEventCatalogEntry := do
  let event ← decoders.event row.payload
  let captures := linkedCaptures links row.eventId
  return {
    event := { event with timeQuality := row.timeQuality }
    eventUuid := row.eventUuid
    streamCursor := row.streamCursor
    startUtcNanoseconds := nonzero row.startUtcNs
    lastUtcNanoseconds := nonzero row.lastUtcNs
    utcUncertaintyNanoseconds :=
      if row.utcUncertaintyNs = 0 then none else some row.utcUncertaintyNs
    waveformCaptureCount := captures.length
    waveformCaptureUuids := if query.includeWaveformLinks then captures else [] }

def LinkedStore.matching (linked : LinkedStore) (query : PowerQualityEventQuery) :
    List CatalogEntry :=
  linked.store.events.filter query.matching

def LinkedStore.queryPowerQualityEvents (decoders : Decoders) (order : RowOrder)
    (linked : LinkedStore) (query : PowerQualityEventQuery) :
    Except Failure (List PowerQualityEventCatalogEntry) := do
  query.validate
  ((order.sort (linked.matching query)).take query.limit.toNat).mapM
    (readRow decoders query linked.links)

def sessionRecords (decoders : Decoders) (records : List LifecycleRecord) (session : UInt64) :
    List LifecycleRecord :=
  records.filter fun record =>
    (decoders.event record.payload).toOption.any fun event => event.id.session = session

/-- All records of one session precede all of another one in the stream. -/
def EarlierSession (decoders : Decoders) (records : List LifecycleRecord)
    (first second : UInt64) : Prop :=
  first ≠ second ∧ ∀ early ∈ sessionRecords decoders records first,
    ∀ late ∈ sessionRecords decoders records second, early.streamCursor < late.streamCursor

/-- An answer holds as many rows as match and fit, each once, and no row of an earlier session
while one of a later session is left out. -/
def KeepsNewest (decoders : Decoders) (records : List LifecycleRecord) (rows : List CatalogEntry)
    (limit : Nat) (answer : Except Failure (List PowerQualityEventCatalogEntry)) : Prop :=
  ∃ entries, answer = .ok entries ∧ entries.length = min limit rows.length ∧
    (entries.map fun entry => entry.event.id).Nodup ∧
    (∀ entry ∈ entries, ∃ row ∈ rows, row.eventId = entry.event.id) ∧
    ∀ older ∈ rows, ∀ newer ∈ rows,
      EarlierSession decoders records older.eventId.session newer.eventId.session →
      older.eventId ∈ entries.map (fun entry => entry.event.id) →
        newer.eventId ∈ entries.map fun entry => entry.event.id

section Catalogue

variable {decoders : Decoders}

/-- Each row has its own event, and its record decodes to that event. -/
structure Catalogued (decoders : Decoders) (events : List CatalogEntry) : Prop where
  distinct : (events.map CatalogEntry.eventId).Nodup
  decoded : ∀ row ∈ events, ∃ event, decoders.event row.payload = .ok event ∧
    event.id = row.eventId

theorem eventRow_payload {uuid : PowerQualityEventId → List UInt8}
    {event : PowerQualityEventLifecycle} {cursor : Nat} {timing : Spool.RecordTimingProvenance}
    {payload : List UInt8} {row : CatalogEntry}
    (made : eventRow uuid event cursor timing payload = .ok row) : row.payload = payload := by
  unfold eventRow at made
  split at made
  · cases made
  · obtain ⟨lastUtc, -, made⟩ := Loops.bind_ok made
    cases made
    rfl

theorem boundRow_decoded {record : LifecycleRecord} {row : CatalogEntry}
    (bound : boundRow decoders record = .ok row) :
    ∃ event, decoders.event row.payload = .ok event ∧ event.id = row.eventId := by
  obtain ⟨event, decoded, bound⟩ := Loops.bind_ok bound
  obtain ⟨made, built, bound⟩ := Loops.bind_ok bound
  have kept : made = row := by
    dsimp only at bound
    split at bound
    · cases bound
    · cases bound
      rfl
  subst kept
  exact ⟨event, by rw [eventRow_payload built]; exact decoded, (eventRow_id built).symm⟩

theorem replaceEvent_decoded {old new : CatalogEntry}
    (oldDecoded : ∃ event, decoders.event old.payload = .ok event ∧ event.id = old.eventId)
    (newDecoded : ∃ event, decoders.event new.payload = .ok event ∧ event.id = new.eventId) :
    ∃ event, decoders.event (replaceEvent old new).payload = .ok event ∧
      event.id = (replaceEvent old new).eventId := by
  unfold replaceEvent
  split
  · exact newDecoded
  · exact oldDecoded

theorem upsertEvent_catalogued {events : List CatalogEntry} {row : CatalogEntry}
    (catalogued : Catalogued decoders events)
    (decoded : ∃ event, decoders.event row.payload = .ok event ∧ event.id = row.eventId) :
    Catalogued decoders (upsertEvent events row) := by
  unfold upsertEvent
  split
  · refine ⟨?_, ?_⟩
    · rw [replaced_ids]
      exact catalogued.distinct
    · intro entry member
      obtain ⟨old, present, rfl⟩ := List.mem_map.mp member
      split
      · exact replaceEvent_decoded (catalogued.decoded old present) decoded
      · exact catalogued.decoded old present
  · next new =>
      refine ⟨?_, ?_⟩
      · rw [List.map_append, List.map_singleton, List.nodup_append]
        refine ⟨catalogued.distinct, List.nodup_singleton _, ?_⟩
        intro eventId member last own same
        obtain ⟨old, present, rfl⟩ := List.mem_map.mp member
        exact new ⟨old, present, same.trans (List.mem_singleton.mp own)⟩
      · intro entry member
        rcases List.mem_append.mp member with old | added
        · exact catalogued.decoded entry old
        · rw [List.mem_singleton.mp added]
          exact decoded

theorem accept_catalogued {linked : LinkedStore} (record : LifecycleRecord)
    (catalogued : Catalogued decoders linked.store.events) :
    Catalogued decoders (linked.accept decoders record).store.events := by
  unfold LinkedStore.accept
  split
  · exact catalogued
  · next row bound => exact upsertEvent_catalogued catalogued (boundRow_decoded bound)

theorem acceptAll_catalogued {linked : LinkedStore} (records : List LifecycleRecord)
    (catalogued : Catalogued decoders linked.store.events) :
    Catalogued decoders (linked.acceptAll decoders records).store.events := by
  induction records generalizing linked with
  | nil => exact catalogued
  | cons record records ih => exact ih (accept_catalogued record catalogued)

theorem readRows_ids (query : PowerQualityEventQuery) (links : List WaveformLink)
    {rows : List CatalogEntry}
    (decoded : ∀ row ∈ rows, ∃ event, decoders.event row.payload = .ok event ∧
      event.id = row.eventId) :
    ∃ entries, rows.mapM (readRow decoders query links) = .ok entries ∧
      entries.map (fun entry => entry.event.id) = rows.map CatalogEntry.eventId := by
  induction rows with
  | nil => exact ⟨[], rfl, rfl⟩
  | cons row rows ih =>
      obtain ⟨event, read, own⟩ := decoded row List.mem_cons_self
      obtain ⟨entries, later, ids⟩ := ih fun other member =>
        decoded other (List.mem_cons_of_mem _ member)
      rw [List.mapM_cons, later, readRow, read]
      refine ⟨_, rfl, ?_⟩
      rw [List.map_cons, List.map_cons, ids]
      exact congrArg (· :: _) own

end Catalogue

section Queries

variable {decoders : Decoders} {query : PowerQualityEventQuery} {linked : LinkedStore}

theorem query_answer (accepted : query.validate = .ok ())
    (catalogued : Catalogued decoders linked.store.events) (order : RowOrder) :
    ∃ entries, linked.queryPowerQualityEvents decoders order query = .ok entries ∧
      entries.map (fun entry => entry.event.id) =
        ((order.sort (linked.matching query)).take query.limit.toNat).map CatalogEntry.eventId := by
  have same := (order.descending (linked.matching query)).rearranged
  have decoded : ∀ row ∈ (order.sort (linked.matching query)).take query.limit.toNat,
      ∃ event, decoders.event row.payload = .ok event ∧ event.id = row.eventId := by
    intro row member
    have inside := same.mem_iff.mp (List.mem_of_mem_take member)
    exact catalogued.decoded row (List.mem_of_mem_filter inside)
  obtain ⟨entries, read, ids⟩ := readRows_ids query linked.links decoded
  refine ⟨entries, ?_, ids⟩
  rw [LinkedStore.queryPowerQualityEvents, accepted]
  exact read

theorem matching_distinct (catalogued : Catalogued decoders linked.store.events) :
    ((linked.matching query).map CatalogEntry.eventId).Nodup :=
  catalogued.distinct.sublist (List.filter_sublist.map _)

theorem mem_taken (catalogued : Catalogued decoders linked.store.events) {order : RowOrder}
    {row : CatalogEntry} (member : row ∈ linked.matching query) {limit : Nat} :
    row.eventId ∈ ((order.sort (linked.matching query)).take limit).map CatalogEntry.eventId ↔
      row ∈ (order.sort (linked.matching query)).take limit := by
  constructor
  · intro taken
    obtain ⟨other, kept, same⟩ := List.mem_map.mp taken
    have inside := (order.descending (linked.matching query)).rearranged.mem_iff.mp
      (List.mem_of_mem_take kept)
    rwa [← List.inj_on_of_nodup_map (matching_distinct catalogued) inside member same]
  · exact fun kept => List.mem_map_of_mem kept

/-- One order of the rows that sorts a given list in a given way. -/
def sortedAs {rows sorted : List CatalogEntry} (descending : Descending lastSample rows sorted) :
    RowOrder where
  sort others := if others = rows then sorted
    else others.insertionSort fun left right => lastSample right ≤ lastSample left
  descending others := by
    split
    · next same =>
        rw [same]
        exact descending
    · refine ⟨List.perm_insertionSort _ others, ?_⟩
      have total : Std.Total fun left right : CatalogEntry => lastSample right ≤ lastSample left :=
        ⟨fun left right => Nat.le_total _ _⟩
      have trans : IsTrans CatalogEntry fun left right => lastSample right ≤ lastSample left :=
        ⟨fun _ _ _ first second => Nat.le_trans second first⟩
      exact List.pairwise_insertionSort _ others

theorem sortedAs_sort {rows sorted : List CatalogEntry}
    (descending : Descending lastSample rows sorted) : (sortedAs descending).sort rows = sorted :=
  if_pos rfl

theorem answer_complete (accepted : query.validate = .ok ())
    (catalogued : Catalogued decoders linked.store.events) (order : RowOrder) :
    ∃ entries, linked.queryPowerQualityEvents decoders order query = .ok entries ∧
      entries.length = min query.limit.toNat (linked.matching query).length ∧
      (entries.map fun entry => entry.event.id).Nodup ∧
      (∀ entry ∈ entries, ∃ row ∈ linked.matching query, row.eventId = entry.event.id) ∧
      ∀ row ∈ linked.matching query,
        row.eventId ∈ entries.map (fun entry => entry.event.id) ↔
          row ∈ (order.sort (linked.matching query)).take query.limit.toNat := by
  obtain ⟨entries, answered, ids⟩ := query_answer accepted catalogued order
  have same := (order.descending (linked.matching query)).rearranged
  refine ⟨entries, answered, ?_, ?_, ?_, ?_⟩
  · have lengths := congrArg List.length ids
    rw [List.length_map, List.length_map, List.length_take, same.length_eq] at lengths
    exact lengths
  · rw [ids]
    have distinct := (same.map CatalogEntry.eventId).nodup_iff.mpr (matching_distinct catalogued)
    exact distinct.sublist ((List.take_sublist _ _).map _)
  · intro entry member
    have own : entry.event.id ∈ entries.map fun entry => entry.event.id :=
      List.mem_map_of_mem member
    rw [ids] at own
    obtain ⟨row, taken, rowId⟩ := List.mem_map.mp own
    exact ⟨row, same.mem_iff.mp (List.mem_of_mem_take taken), rowId⟩
  · intro row member
    rw [ids]
    exact mem_taken catalogued member

end Queries

/-- A truncated list keeps the newest sessions under every order of ties, exactly when between any
two sessions the last samples decide the cut the right way. -/
theorem truncation_keeps_newest (decoders : Decoders)
    (policies : DatabaseDataset → Spool.DatabaseStoragePolicy) (links : List WaveformLink)
    (records : List LifecycleRecord) (query : PowerQualityEventQuery)
    (accepted : query.validate = .ok ()) :
    let linked := LinkedStore.acceptAll decoders ⟨{ policies }, links⟩ records
    (∀ order : RowOrder, KeepsNewest decoders records (linked.matching query) query.limit.toNat
      (linked.queryPowerQualityEvents decoders order query)) ↔
      ∀ older ∈ linked.matching query, ∀ newer ∈ linked.matching query,
        EarlierSession decoders records older.eventId.session newer.eventId.session →
        query.limit.toNat ≤ above lastSample (linked.matching query) older ∨
          atLeast lastSample (linked.matching query) newer ≤ query.limit.toNat := by
  intro linked
  have catalogued : Catalogued decoders linked.store.events :=
    acceptAll_catalogued records ⟨List.nodup_nil, fun _ member => nomatch member⟩
  have distinct : (linked.matching query).Nodup :=
    List.Nodup.of_map _ (matching_distinct catalogued)
  constructor
  · intro keeps older olderMember newer newerMember earlier
    have apart : older ≠ newer := by
      rintro rfl
      exact earlier.1 rfl
    refine (keeps_iff lastSample distinct olderMember newerMember apart).mp ?_
    intro sorted descending kept
    obtain ⟨entries, answered, -, -, -, newest⟩ := keeps (sortedAs descending)
    obtain ⟨others, again, -, -, -, members⟩ :=
      answer_complete accepted catalogued (sortedAs descending)
    rw [answered] at again
    cases again
    rw [sortedAs_sort] at members
    have listed := newest older olderMember newer newerMember earlier
    rw [members older olderMember, members newer newerMember] at listed
    exact listed kept
  · intro decided order
    obtain ⟨entries, answered, length, once, listed, members⟩ :=
      answer_complete accepted catalogued order
    refine ⟨entries, answered, length, once, listed, ?_⟩
    intro older olderMember newer newerMember earlier
    rw [members older olderMember, members newer newerMember]
    have apart : older ≠ newer := by
      rintro rfl
      exact earlier.1 rfl
    exact (keeps_iff lastSample distinct olderMember newerMember apart).mpr
      (decided older olderMember newer newerMember earlier) _ (order.descending _)

/-- A sag of one session of the producer that starts at a sample. -/
def startedSag (session start : UInt32) : LifecycleRecord where
  payload := (wireRecord meterPqEventLifecycleFormat 1 0 0 [(6, 1), (7, 0x10), (8, 0xA), (9, start),
    (13, 0x100), (14, start), (16, session), (18, 1), (20, 1), (21, 9000), (22, 200), (23, 0x104),
    (26, 230000000), (37, 0), (39, start), (47, 1), (48, 1)]).payload
  streamCursor := session.toNat
  timing := (sagRecord 1 0 0).timing

/-- Two sessions, the second with a sample counter that starts again. -/
def restartedSags : List LifecycleRecord := [startedSag 1 1000, startedSag 2 10]

def restartDecoders : Decoders := { lifecycleDecoders with
  eventUuid := fun eventId => if eventId.session = 1 then firstEventUuid
    else [102, 195, 19, 51, 95, 194, 89, 174, 189, 116, 32, 176, 99, 218, 27, 189] }

theorem both_sags_listed :
    let linked := emptyCatalogue.acceptAll restartDecoders restartedSags
    ∀ order : RowOrder, KeepsNewest restartDecoders restartedSags (linked.matching { limit := 2 }) 2
      (linked.queryPowerQualityEvents restartDecoders order { limit := 2 }) := by
  intro linked
  refine (truncation_keeps_newest restartDecoders (fun _ => Spool.volatilePolicy) [] restartedSags
    { limit := 2 } (by decide)).mpr ?_
  have few : ∀ newer ∈ linked.matching { limit := 2 },
      atLeast lastSample (linked.matching { limit := 2 }) newer ≤ 2 := by
    decide +kernel
  intro older olderMember newer newerMember earlier
  exact .inr (few newer newerMember)

theorem restarted_sag_hidden :
    let linked := emptyCatalogue.acceptAll restartDecoders restartedSags
    PowerQualityEventQuery.validate { limit := 1 } = .ok () ∧
      EarlierSession restartDecoders restartedSags 1 2 ∧
        ∀ order : RowOrder,
          ¬KeepsNewest restartDecoders restartedSags (linked.matching { limit := 1 }) 1
            (linked.queryPowerQualityEvents restartDecoders order { limit := 1 }) := by
  intro linked
  have earlier : EarlierSession restartDecoders restartedSags 1 2 := by
    unfold EarlierSession
    decide +kernel
  have accepted : PowerQualityEventQuery.validate { limit := 1 } = .ok () := by decide
  refine ⟨accepted, earlier, ?_⟩
  intro order keeps
  have catalogued : Catalogued restartDecoders linked.store.events :=
    acceptAll_catalogued restartedSags ⟨List.nodup_nil, fun _ member => nomatch member⟩
  have rows : ∃ older ∈ linked.matching { limit := 1 }, ∃ newer ∈ linked.matching { limit := 1 },
      older.eventId.session = 1 ∧ newer.eventId.session = 2 ∧
        atLeast lastSample (linked.matching { limit := 1 }) older ≤ 1 ∧
          1 ≤ above lastSample (linked.matching { limit := 1 }) newer := by
    decide +kernel
  obtain ⟨older, olderMember, newer, newerMember, first, second, few, many⟩ := rows
  obtain ⟨entries, answered, -, -, -, newest⟩ := keeps
  obtain ⟨others, again, -, -, -, members⟩ := answer_complete accepted catalogued order
  rw [answered] at again
  cases again
  have descending := order.descending (linked.matching { limit := 1 })
  have kept := kept_of_atLeast descending olderMember few
  have listed := newest older olderMember newer newerMember (by rwa [first, second])
    ((members older olderMember).mpr kept)
  exact dropped_of_above descending many ((members newer newerMember).mp listed)

end Msap1.Historian
