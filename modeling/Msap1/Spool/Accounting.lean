import Msap1.Spool.Durability

/-! The bytes a spool counts, the cap a publication leaves behind and the losses it reports. -/

namespace Msap1.Spool

/-- Rows that are gone although some consumer had not acknowledged them; without consumers
nothing counts as acknowledged. -/
def evictedUnacknowledged (before after : Store) : List StoredRecord :=
  before.records.filter (fun row =>
    row ∉ after.records ∧ before.minimumAcknowledged < row.cursor)

/-- The lowest of the cursors a publication assigned that no row had before. -/
def firstInserted (before : Store) (assigned : List Nat) : Option Nat :=
  (assigned.filter (fun cursor => ∀ row ∈ before.records, row.cursor ≠ cursor)).min?

theorem evictRows_capped (limit projected acknowledged : Nat) (rows : List StoredRecord)
    (eviction : Eviction) :
    projected - (evictRows limit projected acknowledged rows eviction).removedBytes ≤ limit ∨
      (evictRows limit projected acknowledged rows eviction).removedBytes =
        eviction.removedBytes + (rows.map StoredRecord.bytes).sum := by
  induction rows generalizing eviction with
  | nil => exact .inr rfl
  | cons row rows ih =>
      unfold evictRows
      split
      · rcases ih _ with capped | drained
        · exact .inl capped
        · right
          rw [drained]
          simp only [List.map_cons, List.sum_cons, Nat.add_assoc]
      · next reached => exact .inl (by omega)

theorem bytes_positive (row : StoredRecord) : 0 < row.bytes := by
  unfold StoredRecord.bytes
  omega

theorem no_rows_of_no_bytes {rows : List StoredRecord}
    (nothing : (rows.map StoredRecord.bytes).sum = 0) : rows = [] := by
  cases rows with
  | nil => rfl
  | cons row rows =>
      have positive := bytes_positive row
      rw [List.map_cons, List.sum_cons] at nothing
      omega

section Publication

variable {spool after : DurableMeterSpool} {done : List MeterStreamRecord}
  {publication : Publication} {taken kept added : List StoredRecord}

theorem publication_capped (formed : Formed spool)
    (progress : Progress spool.store done publication added)
    (settled : Settled spool (spool.settlePublication publication) taken kept added)
    (inserted : added ≠ []) {limit : Nat}
    (capped : spool.policy.retention.maximumBytes = some limit) :
    (spool.settlePublication publication).store.payloadBytes ≤ limit ∨ kept = [] := by
  have after := settled_formed formed progress settled
  rw [← after.accounted]
  have positive : publication.insertedBytes ≠ 0 := by
    rw [progress.bytes]
    exact fun nothing => inserted (no_rows_of_no_bytes nothing)
  by_cases exceeded : limit < spool.trackedPayloadBytes + publication.insertedBytes
  · have evicted : spool.eviction publication = evictRows limit
        (spool.trackedPayloadBytes + publication.insertedBytes)
        publication.store.minimumAcknowledged spool.store.records {} := by
      simp only [DurableMeterSpool.eviction, capped, if_pos (And.intro positive exceeded),
        victims_eq formed.wellFormed progress inserted]
    have outcome := evictRows_capped limit
      (spool.trackedPayloadBytes + publication.insertedBytes)
      publication.store.minimumAcknowledged spool.store.records {}
    rw [← evicted] at outcome
    simp only [DurableMeterSpool.settlePublication]
    rcases outcome with within | drained
    · left
      omega
    · right
      have whole := after.accounted
      have before := formed.accounted
      simp only [DurableMeterSpool.settlePublication] at whole
      rw [Store.payloadBytes] at before
      have rows := settled.records
      simp only [DurableMeterSpool.settlePublication] at rows
      rw [Store.payloadBytes, rows, List.map_append, List.sum_append, drained,
        progress.bytes] at whole
      exact no_rows_of_no_bytes (by omega)
  · left
    simp only [DurableMeterSpool.settlePublication]
    omega

theorem rows_distinct {store : Store} (wellFormed : WellFormed store) : store.records.Nodup := by
  refine wellFormed.ordered.imp ?_
  rintro earlier later below rfl
  exact absurd below (lt_irrefl _)

theorem settled_evicted
    (progress : Progress spool.store done publication added)
    (settled : Settled spool after taken kept added) :
    (evictedUnacknowledged spool.store after.store).length =
      taken.countP (fun row => spool.store.minimumAcknowledged < row.cursor) := by
  have whole : (taken ++ kept ++ added).Nodup := by
    have distinct := rows_distinct progress.wellFormed
    rwa [progress.records, settled.before] at distinct
  have apart : ∀ row ∈ taken, row ∉ kept ++ added := by
    rw [List.append_assoc] at whole
    exact fun row member later => (List.nodup_append.mp whole).2.2 row member row later rfl
  unfold evictedUnacknowledged
  rw [settled.before, settled.records, List.filter_append, List.length_append,
    List.countP_eq_length_filter]
  have gone : taken.filter (fun row => row ∉ kept ++ added ∧
      spool.store.minimumAcknowledged < row.cursor) =
        taken.filter (fun row => spool.store.minimumAcknowledged < row.cursor) := by
    apply List.filter_congr
    intro row member
    simp only [apart row member, not_false_eq_true, true_and]
  have stayed : kept.filter (fun row => row ∉ kept ++ added ∧
      spool.store.minimumAcknowledged < row.cursor) = [] := by
    rw [List.filter_eq_nil_iff]
    intro row member
    simp [member]
  rw [gone, stayed, List.length_nil, Nat.add_zero]

theorem added_assigned (progress : Progress spool.store done publication added)
    {row : StoredRecord} (member : row ∈ added) : row.cursor ∈ publication.cursors := by
  rcases progress.origin row member with ⟨record, uncertainty, found, -⟩
  have same : record.identity = row.identity := by simpa using List.find?_some found
  rcases List.forall₂_iff_get.mp progress.named with ⟨lengths, pointwise⟩
  rcases List.mem_iff_get.mp (List.mem_of_find?_eq_some found) with ⟨position, here⟩
  have inside : position.val < publication.cursors.length := by
    rw [← lengths]
    exact position.isLt
  rcases pointwise position.val position.isLt inside with ⟨other, stored, matching, numbered⟩
  rw [Fin.eta, here, same] at matching
  have stays : row ∈ publication.store.records := by
    rw [progress.records]
    exact List.mem_append_right _ member
  rw [← row_unique progress.wellFormed stored stays matching, numbered]
  exact List.get_mem publication.cursors ⟨position.val, inside⟩

theorem assigned_stored (progress : Progress spool.store done publication added) {cursor : Nat}
    (member : cursor ∈ publication.cursors) :
    ∃ row ∈ publication.store.records, row.cursor = cursor := by
  rcases List.forall₂_iff_get.mp progress.named with ⟨lengths, pointwise⟩
  rcases List.mem_iff_get.mp member with ⟨position, here⟩
  have inside : position.val < done.length := by
    rw [lengths]
    exact position.isLt
  rcases pointwise position.val inside position.isLt with ⟨row, stored, -, numbered⟩
  rw [Fin.eta, here] at numbered
  exact ⟨row, stored, numbered⟩

theorem firstInserted_eq (wellFormed : WellFormed spool.store)
    (progress : Progress spool.store done publication added) {first : Nat}
    (lowest : firstInserted spool.store publication.cursors = some first) :
    added ≠ [] ∧ ∀ row ∈ added, first ≤ row.cursor := by
  rcases List.min?_eq_some_iff.mp lowest with ⟨member, least⟩
  rcases List.mem_filter.mp member with ⟨assigned, fresh⟩
  constructor
  · rcases assigned_stored progress assigned with ⟨row, stored, numbered⟩
    rw [progress.records] at stored
    rcases List.mem_append.mp stored with old | new
    · exact absurd numbered (of_decide_eq_true fresh row old)
    · exact List.ne_nil_of_mem new
  · intro row inserted
    apply least
    rw [List.mem_filter, decide_eq_true_eq]
    constructor
    · exact added_assigned progress inserted
    · intro other old
      have below := (wellFormed.numbered other old).2
      have numbered : row.cursor ∈ added.map StoredRecord.cursor := List.mem_map_of_mem inserted
      rw [progress.cursors, List.mem_range'_1] at numbered
      omega

end Publication

/-- What one event does to the losses and, if it inserts rows under a cap, to the size. -/
structure Accounted (spool after : DurableMeterSpool) (answer : Answer) : Prop where
  dropped : after.droppedUnacknowledged =
    spool.droppedUnacknowledged + (evictedUnacknowledged spool.store after.store).length
  capped : ∀ assigned limit first, answer = .cursors assigned →
    spool.policy.retention.maximumBytes = some limit →
      firstInserted spool.store assigned = some first →
        after.store.payloadBytes ≤ limit ∨ ∀ row ∈ after.store.records, first ≤ row.cursor

theorem nothing_evicted {before after : Store}
    (kept : ∀ row ∈ before.records, before.minimumAcknowledged < row.cursor →
      row ∈ after.records) : evictedUnacknowledged before after = [] := by
  unfold evictedUnacknowledged
  rw [List.filter_eq_nil_iff]
  intro row member evicted
  rcases of_decide_eq_true evicted with ⟨gone, unacknowledged⟩
  exact gone (kept row member unacknowledged)

theorem accounted_of_kept {spool after : DurableMeterSpool} {answer : Answer}
    (dropped : after.droppedUnacknowledged = spool.droppedUnacknowledged)
    (kept : ∀ row ∈ spool.store.records, spool.store.minimumAcknowledged < row.cursor →
      row ∈ after.store.records)
    (other : ∀ assigned, answer ≠ .cursors assigned) : Accounted spool after answer := by
  constructor
  · rw [nothing_evicted kept, List.length_nil, dropped, Nat.add_zero]
  · intro assigned limit first same
    exact absurd same (other assigned)

theorem published_accounted {spool after : DurableMeterSpool} {records : List MeterStreamRecord}
    {committed : Except Failure Unit} {cursors : List Nat} (formed : Formed spool)
    (returned : spool.publishRecords records committed = .ok (cursors, after)) :
    Accounted spool after (.cursors cursors) := by
  rcases publishRecords_cases formed.wellFormed returned with
    ⟨publication, added, taken, kept, progress, settled, rfl, rfl, -⟩
  constructor
  · rw [settled.dropped, settled_evicted progress settled]
  · rintro assigned limit first ⟨⟩ capped lowest
    rcases firstInserted_eq formed.wellFormed progress lowest with ⟨inserted, least⟩
    rcases publication_capped formed progress settled inserted capped with within | alone
    · exact .inl within
    · right
      rw [settled.records, alone, List.nil_append]
      exact least

theorem step_accounted {device next : Device} {event : Event} {answer : Answer}
    (formed : DeviceFormed device) (step : Step device event next answer)
    {spool after : DurableMeterSpool} (current : device.spool = some spool)
    (later : next.spool = some after) : Accounted spool after answer := by
  have unchanged {other : DurableMeterSpool} (same : device.spool = some other)
      (kind : ∀ assigned, answer ≠ .cursors assigned) : Accounted spool other answer := by
    cases Option.some.inj (current.symm.trans same)
    exact accounted_of_kept rfl (fun _ member _ => member) kind
  cases step with
  | ignored | refused | wasRead => exact unchanged later nofun
  | started closed opened => exact absurd current (by rw [closed]; exact nofun)
  | @published records committed found cursors settled same returned =>
      cases Option.some.inj (current.symm.trans same)
      cases later
      exact published_accounted (formed.spool spool current) returned
  | @registered name found settled same returned =>
      cases Option.some.inj (current.symm.trans same)
      cases later
      rw [(registerConsumer_ok returned).1]
      exact accounted_of_kept rfl (fun _ member _ => member) nofun
  | @unregistered name found settled same returned =>
      cases Option.some.inj (current.symm.trans same)
      cases later
      rw [unregisterConsumer_ok returned]
      exact accounted_of_kept rfl (fun _ member _ => member) nofun
  | @acknowledged name cursor found settled same returned =>
      cases Option.some.inj (current.symm.trans same)
      cases later
      rw [(acknowledge_ok returned).2]
      exact accounted_of_kept rfl (fun _ member _ => member) nofun
  | @pruned nowNanoseconds written progress found same =>
      cases Option.some.inj (current.symm.trans same)
      cases later
      have pruned := prune_spec spool device.lease nowNanoseconds written progress
        (formed.spool spool current)
      exact accounted_of_kept pruned.dropped pruned.kept nofun
  | @policyKept policy clockMilliseconds written copied found same kind =>
      cases Option.some.inj (current.symm.trans same)
      cases later
      exact accounted_of_kept rfl (fun _ member _ => member) nofun
  | switchFailed same different opened => exact unchanged later nofun
  | @switched policy clockMilliseconds written found replacement same different opened =>
      cases Option.some.inj (current.symm.trans same)
      cases later
      refine accounted_of_kept rfl (fun row member _ => ?_) nofun
      rw [migrate_store (formed.spool spool current)]
      exact member
  | crashed => cases later

/-- In every session of a spool path the running count is the sum over the stored rows, every
loss of an unacknowledged row is counted and nothing else is, and an insertion under a byte
cap ends within the cap or with the inserted batch alone. -/
theorem spool_bytes_accounted (events : List Event) {spool : DurableMeterSpool}
    (reached : (machine.run {} events).spool = some spool) :
    spool.trackedPayloadBytes =
        (spool.store.records.map (fun row => row.payload.length + 128)).sum ∧
      ∀ event after, (machine.next (machine.run {} events) event).spool = some after →
        Accounted spool after (machine.answer (machine.run {} events) event) := by
  have formed := run_formed events
  constructor
  · exact (formed.spool spool reached).accounted
  · intro event after later
    exact step_accounted formed (step_cases (machine.run {} events) event) reached later

def cappedSession : List Event :=
  [.start ⟨.memory, { maximumBytes := some 200 }⟩ 1000 true, .register "meter",
    .publish [voltageRecord] (.ok ())]

def cappedSpool : DurableMeterSpool where
  policy := ⟨.memory, { maximumBytes := some 200 }⟩
  store := {
    records := [storedRecord 1001 Int64.minValue voltageRecord]
    consumers := [⟨"meter", 0⟩]
    sequence := 1001 }
  sessionStartCursor := 1000
  cursorLease := 1000 + cursorLeaseReservation
  trackedPayloadBytes := 130

def overtakenSpool : DurableMeterSpool := { cappedSpool with
  store := {
    records := [storedRecord 1002 Int64.minValue currentRecord]
    consumers := [⟨"meter", 0⟩]
    sequence := 1002 }
  trackedPayloadBytes := 129
  droppedUnacknowledged := 1 }

theorem overtaken_accounted :
    cappedSpool.trackedPayloadBytes =
        (cappedSpool.store.records.map (fun row => row.payload.length + 128)).sum ∧
      Accounted cappedSpool overtakenSpool (.cursors [1002]) := by
  have accounted := spool_bytes_accounted cappedSession (rfl : _ = some cappedSpool)
  exact ⟨accounted.1, accounted.2 (.publish [currentRecord] (.ok ())) overtakenSpool rfl⟩

end Msap1.Spool
