import Msap1.Spool.Retention

/-! What a returned cursor promises about the table after the commit. -/

namespace Msap1.Spool

/-- The row of a cursor holds the payload and the key of a record. -/
def Store.Holds (store : Store) (record : MeterStreamRecord) (cursor : Nat) : Prop :=
  ∃ row ∈ store.records, row.cursor = cursor ∧ row.identity = record.identity ∧
    row.payload = record.payload

/-- What the cursor returned for one record of a batch stands for: a row under the key of the
record, which was there before the call, or was not and was written from the first record of
the batch with that key. -/
def Answered (before after : Store) (batch : List MeterStreamRecord)
    (record : MeterStreamRecord) (cursor : Nat) : Prop :=
  ∃ row, row.cursor = cursor ∧ row.identity = record.identity ∧
    (row ∈ before.records ∨
      before.existing record.identity = none ∧ row ∈ after.records ∧
        ∃ first uncertainty,
          batch.find? (fun candidate => candidate.identity = record.identity) = some first ∧
            row = storedRecord cursor uncertainty first)

/-- The rows that were stored under the keys of a batch are still there. -/
def Undisturbed (before after : Store) (batch : List MeterStreamRecord) : Prop :=
  ∀ row ∈ before.records, (∃ record ∈ batch, row.identity = record.identity) →
    row ∈ after.records

section Published

variable {spool after : DurableMeterSpool} {records : List MeterStreamRecord}
  {publication : Publication} {taken kept added : List StoredRecord}

theorem answered_of_progress (progress : Progress spool.store records publication added)
    (settled : Settled spool after taken kept added) :
    List.Forall₂ (Answered spool.store after.store records) records publication.cursors := by
  apply progress.named.imp
  intro record cursor named
  rcases named with ⟨row, member, matching, same⟩
  refine ⟨row, same, matching, ?_⟩
  have distinct := progress.wellFormed.distinct
  rw [progress.records] at member distinct
  rcases List.mem_append.mp member with old | new
  · exact .inl old
  · rcases progress.origin row new with ⟨first, uncertainty, earliest, written⟩
    rw [matching] at earliest
    rw [same] at written
    refine .inr ⟨?_, ?_, first, uncertainty, earliest, written⟩
    · rw [existing_none]
      intro other inside
      rw [← matching]
      exact (List.pairwise_append.mp distinct).2.2 other inside row new
    · rw [settled.records]
      exact List.mem_append_right kept new

theorem names_of_undisturbed (progress : Progress spool.store records publication added)
    (settled : Settled spool after taken kept added)
    (undisturbed : Undisturbed spool.store after.store records) :
    List.Forall₂ (fun record cursor => after.store.Names record.identity cursor) records
      publication.cursors := by
  rw [List.forall₂_iff_get]
  rcases List.forall₂_iff_get.mp (answered_of_progress progress settled) with
    ⟨lengths, pointwise⟩
  refine ⟨lengths, ?_⟩
  intro position inside outside
  rcases pointwise position inside outside with ⟨row, same, matching, old | new⟩
  · exact ⟨row, undisturbed row old ⟨_, List.get_mem _ _, matching⟩, matching, same⟩
  · exact ⟨row, new.2.1, matching, same⟩

end Published

theorem publishOne_known {publication : Publication} {record : MeterStreamRecord} {cursor : Nat}
    (wellFormed : WellFormed publication.store) (bindable : Bindable record)
    (named : publication.store.Names record.identity cursor) :
    publishOne publication record =
      .ok { publication with cursors := publication.cursors ++ [cursor] } := by
  rcases bindable with ⟨⟨sequence, sequenceBound⟩, ⟨index, indexBound⟩⟩
  unfold publishOne
  rw [sequenceBound, indexBound, existing_of_names wellFormed named]
  rfl

theorem publish_known {store : Store} {records : List MeterStreamRecord} {cursors : List Nat}
    (wellFormed : WellFormed store) (bindable : ∀ record ∈ records, Bindable record)
    (named : List.Forall₂ (fun record cursor => store.Names record.identity cursor) records
      cursors) (collected : List Nat) :
    records.foldlM publishOne { store, cursors := collected } =
      .ok { store, cursors := collected ++ cursors } := by
  induction named generalizing collected with
  | nil =>
      rw [List.append_nil]
      rfl
  | @cons record cursor records cursors first rest ih =>
      have head : publishOne { store, cursors := collected } record =
          .ok { store, cursors := collected ++ [cursor] } :=
        publishOne_known wellFormed (bindable record List.mem_cons_self) first
      have tail := ih (fun other member => bindable other (List.mem_cons_of_mem record member))
        (collected ++ [cursor])
      rw [List.append_assoc, List.singleton_append] at tail
      rw [List.foldlM_cons, head]
      exact tail

theorem settle_nothing (spool : DurableMeterSpool) (cursors : List Nat) :
    spool.settlePublication { store := spool.store, cursors } = spool := by
  have nothing : spool.eviction { store := spool.store, cursors } = {} := by
    unfold DurableMeterSpool.eviction
    split
    · rfl
    · simp
  unfold DurableMeterSpool.settlePublication
  rw [nothing]
  simp

theorem publish_again {spool after : DurableMeterSpool} {records : List MeterStreamRecord}
    {committed : Except Failure Unit} {cursors : List Nat} (wellFormed : WellFormed spool.store)
    (returned : spool.publishRecords records committed = .ok (cursors, after))
    (undisturbed : Undisturbed spool.store after.store records) :
    after.publishRecords records (.ok ()) = .ok (cursors, after) := by
  rcases publishRecords_cases wellFormed returned with
    ⟨publication, added, taken, kept, progress, settled, same, -, sized, filled⟩
  have known := publish_known (settled_wellFormed progress settled) progress.bindable
    (names_of_undisturbed progress settled undisturbed) []
  unfold DurableMeterSpool.publishRecords
  rw [if_neg sized, if_neg filled, known]
  change Except.ok (_, after.settlePublication _) = _
  rw [settle_nothing, same, List.nil_append]

/-- Every cursor a publication returns stands for a row, and publishing the batch again
returns the same cursors and leaves the whole spool as it is. -/
theorem published_stays (events : List Event) {spool after : DurableMeterSpool}
    (reached : (machine.run {} events).spool = some spool) {records : List MeterStreamRecord}
    {committed : Except Failure Unit} {cursors : List Nat}
    (returned : spool.publishRecords records committed = .ok (cursors, after)) :
    List.Forall₂ (Answered spool.store after.store records) records cursors ∧
      (Undisturbed spool.store after.store records →
        List.Forall₂ (fun record cursor => after.store.Names record.identity cursor) records
            cursors ∧
          after.publishRecords records (.ok ()) = .ok (cursors, after)) := by
  have wellFormed := ((run_formed events).spool spool reached).wellFormed
  rcases publishRecords_cases wellFormed returned with
    ⟨publication, added, taken, kept, progress, settled, same, -⟩
  rw [same] at returned ⊢
  constructor
  · exact answered_of_progress progress settled
  · intro undisturbed
    constructor
    · exact names_of_undisturbed progress settled undisturbed
    · exact publish_again wellFormed returned undisturbed

def volatilePolicy : DatabaseStoragePolicy := ⟨.memory, {}⟩

def voltageRecord : MeterStreamRecord :=
  { recordFormat := 1, sourceSequence := 7, payload := [1, 2] }

def currentRecord : MeterStreamRecord :=
  { recordFormat := 1, sourceSequence := 8, payload := [3] }

def volatileSession : List Event :=
  [.start volatilePolicy 1000 true, .publish [voltageRecord] (.ok ())]

def volatileSpool : DurableMeterSpool where
  policy := volatilePolicy
  store := {
    records := [storedRecord 1001 Int64.minValue voltageRecord]
    sequence := 1001 }
  sessionStartCursor := 1000
  cursorLease := 1000 + cursorLeaseReservation
  trackedPayloadBytes := 130

theorem volatileSession_reaches :
    (machine.run {} volatileSession).spool = some volatileSpool := rfl

/-- The same measurement under its key, sent again with another payload. -/
def restatedRecord : MeterStreamRecord := { voltageRecord with payload := [9, 9] }

def restatedSpool : DurableMeterSpool := { volatileSpool with
  store := {
    records := [storedRecord 1001 Int64.minValue voltageRecord,
      storedRecord 1002 Int64.minValue currentRecord]
    sequence := 1002 }
  trackedPayloadBytes := 259 }

theorem restated_returns :
    volatileSpool.publishRecords [currentRecord, restatedRecord] (.ok ()) =
      .ok ([1002, 1001], restatedSpool) := rfl

theorem restated_stays :
    List.Forall₂ (Answered volatileSpool.store restatedSpool.store
        [currentRecord, restatedRecord]) [currentRecord, restatedRecord] [1002, 1001] ∧
      restatedSpool.publishRecords [currentRecord, restatedRecord] (.ok ()) =
        .ok ([1002, 1001], restatedSpool) := by
  have stays := published_stays volatileSession volatileSession_reaches restated_returns
  have undisturbed : Undisturbed volatileSpool.store restatedSpool.store
      [currentRecord, restatedRecord] := by
    intro row member _
    rw [List.mem_singleton.mp member]
    exact List.mem_cons_self
  exact ⟨stays.1, (stays.2 undisturbed).2⟩

/-- The payload is not part of the key: a record sent again with another one is answered with
the cursor of the row that holds the first. -/
theorem restated_payload_not_stored :
    ¬ ∀ (events : List Event) (spool after : DurableMeterSpool)
        (records : List MeterStreamRecord) (committed : Except Failure Unit) (cursors : List Nat),
      (machine.run {} events).spool = some spool →
        spool.publishRecords records committed = .ok (cursors, after) →
          List.Forall₂ after.store.Holds records cursors ∧
            after.publishRecords records (.ok ()) = .ok (cursors, after) := by
  intro claim
  have holds := (claim volatileSession volatileSpool restatedSpool
    [currentRecord, restatedRecord] (.ok ()) [1002, 1001] volatileSession_reaches
    restated_returns).1
  rcases List.forall₂_cons.mp holds with ⟨-, rest⟩
  rcases List.forall₂_cons.mp rest with ⟨⟨row, member, cursor, -, payload⟩, -⟩
  simp only [restatedSpool, List.mem_cons, List.not_mem_nil, or_false] at member
  rcases member with rfl | rfl
  · exact absurd payload (by decide)
  · exact absurd cursor (by decide)

end Msap1.Spool
