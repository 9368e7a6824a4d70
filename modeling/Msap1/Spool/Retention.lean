import Msap1.Spool.Sessions

/-! What pruning, opening and switching keep: the table stays well formed, its byte count
stays exact, and only acknowledged rows are pruned. -/

namespace Msap1.Spool

/-- A spool whose table is well formed and whose running byte count is the sum over it. -/
structure Formed (spool : DurableMeterSpool) : Prop where
  wellFormed : WellFormed spool.store
  accounted : spool.trackedPayloadBytes = spool.store.payloadBytes

/-- Rows may be gone, everything else of the store is as it was. -/
structure Trimmed (before after : Store) : Prop where
  records : after.records.Sublist before.records
  consumers : after.consumers = before.consumers
  sequence : after.sequence = before.sequence

theorem trimmed_refl (store : Store) : Trimmed store store :=
  ⟨List.Sublist.refl _, rfl, rfl⟩

theorem trimmed_trans {first second third : Store} (early : Trimmed first second)
    (late : Trimmed second third) : Trimmed first third :=
  ⟨late.records.trans early.records, late.consumers.trans early.consumers,
    late.sequence.trans early.sequence⟩

theorem trimmed_wellFormed {before after : Store} (trimmed : Trimmed before after)
    (wellFormed : WellFormed before) : WellFormed after := by
  constructor
  · exact wellFormed.ordered.sublist trimmed.records
  · exact wellFormed.distinct.sublist trimmed.records
  · intro row member
    rw [trimmed.sequence]
    exact wellFormed.numbered row (trimmed.records.subset member)

theorem sum_filter_split (rows : List StoredRecord) (victim : StoredRecord → Bool) :
    ((rows.filter (fun row => !victim row)).map StoredRecord.bytes).sum =
      (rows.map StoredRecord.bytes).sum -
        ((rows.filter victim).map StoredRecord.bytes).sum := by
  have whole : ((rows.filter victim).map StoredRecord.bytes).sum +
      ((rows.filter (fun row => !victim row)).map StoredRecord.bytes).sum =
        (rows.map StoredRecord.bytes).sum := by
    induction rows with
    | nil => rfl
    | cons row rows ih =>
        cases chosen : victim row <;> simp [chosen] <;> omega
  omega

section Prune

variable (spool : DurableMeterSpool)

theorem pruneAge_trimmed (nowNanoseconds : Int) :
    Trimmed spool.store (spool.pruneAge nowNanoseconds).store := by
  unfold DurableMeterSpool.pruneAge
  split
  · exact trimmed_refl _
  · exact ⟨List.filter_sublist, rfl, rfl⟩

theorem pruneAge_keeps (nowNanoseconds : Int) {row : StoredRecord}
    (member : row ∈ spool.store.records)
    (unacknowledged : spool.store.minimumAcknowledged < row.cursor) :
    row ∈ (spool.pruneAge nowNanoseconds).store.records := by
  unfold DurableMeterSpool.pruneAge
  split
  · exact member
  · simp only [List.mem_filter, member, true_and, Bool.not_eq_true', decide_eq_false_iff_not]
    rintro ⟨acknowledged, -⟩
    omega

theorem pruneAge_formed (nowNanoseconds : Int) (formed : Formed spool) :
    Formed (spool.pruneAge nowNanoseconds) := by
  constructor
  · exact trimmed_wellFormed (pruneAge_trimmed spool nowNanoseconds) formed.wellFormed
  · have accounted := formed.accounted
    unfold DurableMeterSpool.pruneAge
    split
    · exact accounted
    · simp only [Store.payloadBytes, sum_filter_split] at accounted ⊢
      omega

theorem pruneRows_takes (limit : Nat) (rows : List StoredRecord) (bytes through : Nat) :
    ∃ taken rest, rows = taken ++ rest ∧
      DurableMeterSpool.pruneRows limit rows bytes through =
        (bytes - (taken.map StoredRecord.bytes).sum,
          (taken.getLast?.map StoredRecord.cursor).getD through) := by
  induction rows generalizing bytes through with
  | nil => exact ⟨[], [], rfl, rfl⟩
  | cons row rows ih =>
      unfold DurableMeterSpool.pruneRows
      split
      · rcases ih (bytes - min bytes row.bytes) row.cursor with ⟨taken, rest, split, result⟩
        refine ⟨row :: taken, rest, by rw [split, List.cons_append], ?_⟩
        rw [result]
        simp only [List.map_cons, List.sum_cons, List.getLast?_cons, Option.map_some,
          Option.getD_some, Prod.mk.injEq]
        constructor
        · omega
        · cases taken.getLast? <;> rfl
      · exact ⟨[], row :: rows, rfl, rfl⟩

theorem ordered_split {rows : List StoredRecord} (bound : Nat)
    (ordered : rows.Pairwise (fun earlier later => earlier.cursor < later.cursor)) :
    ∃ later, rows = rows.filter (fun row => row.cursor ≤ bound) ++ later := by
  induction rows with
  | nil => exact ⟨[], rfl⟩
  | cons row rows ih =>
      rcases List.pairwise_cons.mp ordered with ⟨above, rest⟩
      by_cases inside : row.cursor ≤ bound
      · rcases ih rest with ⟨later, split⟩
        refine ⟨later, ?_⟩
        rw [List.filter_cons_of_pos (by simpa using inside), List.cons_append, ← split]
      · refine ⟨row :: rows, ?_⟩
        have none : (row :: rows).filter (fun row => row.cursor ≤ bound) = [] := by
          rw [List.filter_eq_nil_iff]
          intro other member
          simp only [decide_eq_true_eq, not_le]
          rcases List.mem_cons.mp member with same | later
          · rw [same]
            omega
          · have greater := above other later
            omega
        rw [none, List.nil_append]

theorem pruneBytes_takes (wellFormed : WellFormed spool.store) :
    ∃ taken kept, spool.store.records = taken ++ kept ∧
      (∀ row ∈ taken, row.cursor ≤ spool.store.minimumAcknowledged) ∧
      spool.pruneBytes = { spool with
        store := { spool.store with records := kept }
        trackedPayloadBytes :=
          spool.trackedPayloadBytes - (taken.map StoredRecord.bytes).sum } := by
  have nothing : ∃ taken kept, spool.store.records = taken ++ kept ∧
      (∀ row ∈ taken, row.cursor ≤ spool.store.minimumAcknowledged) ∧
      spool = { spool with
        store := { spool.store with records := kept }
        trackedPayloadBytes := spool.trackedPayloadBytes - (taken.map StoredRecord.bytes).sum } :=
    ⟨[], spool.store.records, rfl, fun _ member => absurd member List.not_mem_nil, rfl⟩
  unfold DurableMeterSpool.pruneBytes
  split
  · exact nothing
  · next limit _ =>
      split
      · rcases ordered_split spool.store.minimumAcknowledged wellFormed.ordered with
          ⟨later, split⟩
        rcases pruneRows_takes limit (spool.store.records.filter
          (fun row => row.cursor ≤ spool.store.minimumAcknowledged)) spool.trackedPayloadBytes 0
            with ⟨taken, rest, front, result⟩
        have whole : spool.store.records = taken ++ (rest ++ later) := by
          rw [← List.append_assoc, ← front]
          exact split
        have acknowledged : ∀ row ∈ taken, row.cursor ≤ spool.store.minimumAcknowledged := by
          intro row member
          have inside : row ∈ spool.store.records.filter
              (fun row => row.cursor ≤ spool.store.minimumAcknowledged) := by
            rw [front]
            exact List.mem_append_left rest member
          simpa using (List.mem_filter.mp inside).2
        simp only [result]
        cases final : taken.getLast? with
        | none =>
            simp only [Option.map_none, Option.getD_none, if_true]
            exact nothing
        | some last =>
            have positive : 0 < last.cursor := by
              apply (wellFormed.numbered last ?_).1
              rw [whole]
              exact List.mem_append_left _ (List.mem_of_getLast? final)
            have ordered := wellFormed.ordered
            rw [whole] at ordered
            refine ⟨taken, rest ++ later, whole, acknowledged, ?_⟩
            have left : spool.store.records.filter (fun row => last.cursor < row.cursor) =
                rest ++ later := by
              rw [whole]
              exact filter_after_taken ordered final
            simp only [Option.map_some, Option.getD_some, if_neg (Nat.ne_of_gt positive),
              Store.removeThrough, left]
      · exact nothing

theorem pruneBytes_trimmed (wellFormed : WellFormed spool.store) :
    Trimmed spool.store spool.pruneBytes.store := by
  rcases pruneBytes_takes spool wellFormed with ⟨taken, kept, split, -, result⟩
  rw [result]
  refine ⟨?_, rfl, rfl⟩
  rw [split]
  exact List.sublist_append_right taken kept

theorem pruneBytes_keeps (wellFormed : WellFormed spool.store) {row : StoredRecord}
    (member : row ∈ spool.store.records)
    (unacknowledged : spool.store.minimumAcknowledged < row.cursor) :
    row ∈ spool.pruneBytes.store.records := by
  rcases pruneBytes_takes spool wellFormed with ⟨taken, kept, split, acknowledged, result⟩
  rw [result]
  rw [split] at member
  rcases List.mem_append.mp member with removed | inside
  · have reached := acknowledged row removed
    omega
  · exact inside

theorem pruneBytes_formed (formed : Formed spool) : Formed spool.pruneBytes := by
  constructor
  · exact trimmed_wellFormed (pruneBytes_trimmed spool formed.wellFormed) formed.wellFormed
  · rcases pruneBytes_takes spool formed.wellFormed with ⟨taken, kept, split, -, result⟩
    have accounted := formed.accounted
    rw [Store.payloadBytes, split, List.map_append, List.sum_append] at accounted
    rw [result]
    simp only [Store.payloadBytes]
    omega

theorem renew_store (lease : Nat) (written : Bool) :
    (renewCursorLease lease spool written).2.store = spool.store ∧
      (renewCursorLease lease spool written).2.trackedPayloadBytes = spool.trackedPayloadBytes ∧
      (renewCursorLease lease spool written).2.droppedUnacknowledged =
        spool.droppedUnacknowledged ∧
      (renewCursorLease lease spool written).2.policy = spool.policy := by
  unfold renewCursorLease
  split
  · exact ⟨rfl, rfl, rfl, rfl⟩
  · cases written <;> exact ⟨rfl, rfl, rfl, rfl⟩

theorem renew_formed (lease : Nat) (written : Bool) (formed : Formed spool) :
    Formed (renewCursorLease lease spool written).2 := by
  rcases renew_store spool lease written with ⟨store, tracked, -, -⟩
  constructor
  · rw [store]
    exact formed.wellFormed
  · rw [store, tracked]
    exact formed.accounted

theorem pruneAge_rest (nowNanoseconds : Int) :
    (spool.pruneAge nowNanoseconds).cursorLease = spool.cursorLease ∧
      (spool.pruneAge nowNanoseconds).droppedUnacknowledged = spool.droppedUnacknowledged ∧
      (spool.pruneAge nowNanoseconds).policy = spool.policy := by
  unfold DurableMeterSpool.pruneAge
  split <;> exact ⟨rfl, rfl, rfl⟩

theorem pruneBytes_rest (wellFormed : WellFormed spool.store) :
    spool.pruneBytes.cursorLease = spool.cursorLease ∧
      spool.pruneBytes.droppedUnacknowledged = spool.droppedUnacknowledged ∧
      spool.pruneBytes.policy = spool.policy := by
  rcases pruneBytes_takes spool wellFormed with ⟨taken, kept, -, -, result⟩
  rw [result]
  exact ⟨rfl, rfl, rfl⟩

/-- A prune, however far it came: rows that some consumer has not acknowledged are kept. -/
structure Pruned (renewed after : Nat × DurableMeterSpool) : Prop where
  formed : Formed after.2
  trimmed : Trimmed spool.store after.2.store
  kept : ∀ row ∈ spool.store.records, spool.store.minimumAcknowledged < row.cursor →
    row ∈ after.2.store.records
  lease : after.1 = renewed.1
  cursorLease : after.2.cursorLease = renewed.2.cursorLease
  dropped : after.2.droppedUnacknowledged = spool.droppedUnacknowledged
  policy : after.2.policy = spool.policy

theorem prune_eq (lease : Nat) (nowNanoseconds : Int) (written : Bool)
    (progress : PruneProgress) (first : Nat × DurableMeterSpool)
    (renewed : renewCursorLease lease spool written = first) :
    prune lease spool nowNanoseconds written progress = match progress with
      | .renewed => first
      | .aged => (first.1, first.2.pruneAge nowNanoseconds)
      | .finished => (first.1, (first.2.pruneAge nowNanoseconds).pruneBytes) := by
  cases progress <;> simp only [prune, renewed]

theorem pruned_from (nowNanoseconds : Int) (progress : PruneProgress)
    (first : Nat × DurableMeterSpool) (store : first.2.store = spool.store)
    (dropped : first.2.droppedUnacknowledged = spool.droppedUnacknowledged)
    (policy : first.2.policy = spool.policy) (formed : Formed first.2) :
    Pruned spool first (match progress with
      | .renewed => first
      | .aged => (first.1, first.2.pruneAge nowNanoseconds)
      | .finished => (first.1, (first.2.pruneAge nowNanoseconds).pruneBytes)) := by
  have age := pruneAge_trimmed first.2 nowNanoseconds
  have agedKeeps : ∀ row ∈ spool.store.records, spool.store.minimumAcknowledged < row.cursor →
      row ∈ (first.2.pruneAge nowNanoseconds).store.records := by
    intro row member unacknowledged
    rw [← store] at member unacknowledged
    exact pruneAge_keeps first.2 nowNanoseconds member unacknowledged
  have aged := pruneAge_formed first.2 nowNanoseconds formed
  rcases pruneAge_rest first.2 nowNanoseconds with ⟨agedLease, agedDropped, agedPolicy⟩
  rw [store] at age
  cases progress with
  | renewed =>
      constructor
      · exact formed
      · rw [store]
        exact trimmed_refl _
      · intro row member _
        rw [store]
        exact member
      · rfl
      · rfl
      · exact dropped
      · exact policy
  | aged =>
      exact ⟨aged, age, agedKeeps, rfl, agedLease, agedDropped.trans dropped,
        agedPolicy.trans policy⟩
  | finished =>
      have minimum : (first.2.pruneAge nowNanoseconds).store.minimumAcknowledged =
          spool.store.minimumAcknowledged := by
        rw [Store.minimumAcknowledged, age.consumers, Store.minimumAcknowledged]
      rcases pruneBytes_rest (first.2.pruneAge nowNanoseconds) aged.wellFormed with
        ⟨byteLease, byteDropped, bytePolicy⟩
      constructor
      · exact pruneBytes_formed _ aged
      · exact trimmed_trans age (pruneBytes_trimmed _ aged.wellFormed)
      · intro row member unacknowledged
        apply pruneBytes_keeps _ aged.wellFormed (agedKeeps row member unacknowledged)
        rw [minimum]
        exact unacknowledged
      · rfl
      · exact byteLease.trans agedLease
      · exact byteDropped.trans (agedDropped.trans dropped)
      · exact bytePolicy.trans (agedPolicy.trans policy)

theorem prune_spec (lease : Nat) (nowNanoseconds : Int) (written : Bool)
    (progress : PruneProgress) (formed : Formed spool) :
    Pruned spool (renewCursorLease lease spool written)
      (prune lease spool nowNanoseconds written progress) := by
  rcases renew_store spool lease written with ⟨store, -, dropped, policy⟩
  rw [prune_eq spool lease nowNanoseconds written progress _ rfl]
  exact pruned_from spool nowNanoseconds progress _ store dropped policy
    (renew_formed spool lease written formed)

end Prune

theorem openSpool_ok {lease : Nat} {target : Store} {policy : DatabaseStoragePolicy}
    {clockMilliseconds : Nat} {spool : DurableMeterSpool}
    (opened : openSpool lease target policy clockMilliseconds = .ok spool) :
    spool = {
      policy
      store := { target with
        sequence := max target.sequence (seedCursor lease target clockMilliseconds) }
      sessionStartCursor := seedCursor lease target clockMilliseconds
      cursorLease := seedCursor lease target clockMilliseconds + cursorLeaseReservation
      trackedPayloadBytes := target.payloadBytes } := by
  rcases Loops.bind_ok opened with ⟨-, -, rest⟩
  simp only at rest
  split at rest
  · cases rest
  · exact (Except.ok.inj rest).symm

theorem wellFormed_raised {store : Store} (wellFormed : WellFormed store) {sequence : Nat}
    (raised : store.sequence ≤ sequence) : WellFormed { store with sequence } := by
  constructor
  · exact wellFormed.ordered
  · exact wellFormed.distinct
  · intro row member
    have bounds := wellFormed.numbered row member
    exact ⟨bounds.1, le_trans bounds.2 raised⟩

theorem openSpool_formed {lease : Nat} {target : Store} {policy : DatabaseStoragePolicy}
    {clockMilliseconds : Nat} {spool : DurableMeterSpool} (wellFormed : WellFormed target)
    (opened : openSpool lease target policy clockMilliseconds = .ok spool) : Formed spool := by
  rw [openSpool_ok opened]
  constructor
  · exact wellFormed_raised wellFormed (le_max_left _ _)
  · rfl

theorem copyRecords_eq {rows : List StoredRecord}
    (ordered : rows.Pairwise (fun earlier later => earlier.cursor < later.cursor))
    (distinct : rows.Pairwise (fun earlier later => earlier.identity ≠ later.identity)) :
    copyRecords rows = rows := by
  unfold copyRecords
  induction rows using List.reverseRecOn with
  | nil => rfl
  | append_singleton rows row ih =>
      rcases List.pairwise_append.mp ordered with ⟨earlierOrdered, -, below⟩
      rcases List.pairwise_append.mp distinct with ⟨earlierDistinct, -, apart⟩
      have last := List.mem_singleton.mpr (rfl : row = row)
      rw [List.foldl_append, ih earlierOrdered earlierDistinct, List.foldl_cons, List.foldl_nil,
        if_neg]
      rintro ⟨other, member, sameCursor | sameIdentity⟩
      · have lower := below other member row last
        omega
      · exact apart other member row last sameIdentity

theorem migrate_store {source replacement : DurableMeterSpool} (formed : Formed source) :
    (migrate source replacement).store = {
      records := source.store.records
      consumers := source.store.consumers
      sequence := max replacement.store.sequence source.store.newest } := by
  have copied := copyRecords_eq formed.wellFormed.ordered formed.wellFormed.distinct
  simp only [migrate, copied, Store.newest]

theorem migrate_formed {source replacement : DurableMeterSpool} (formed : Formed source) :
    Formed (migrate source replacement) := by
  constructor
  · rw [migrate_store formed]
    constructor
    · exact formed.wellFormed.ordered
    · exact formed.wellFormed.distinct
    · intro row member
      have positive := (formed.wellFormed.numbered row member).1
      exact ⟨positive, le_trans (cursor_le_newest member) (le_max_right _ _)⟩
  · rfl

/-- The database on disk and the open spool, if any, are well formed. -/
structure DeviceFormed (device : Device) : Prop where
  disk : WellFormed device.disk
  spool : ∀ spool, device.spool = some spool → Formed spool

theorem left_wellFormed {device : Device} (formed : DeviceFormed device) :
    WellFormed device.left := by
  unfold Device.left
  split
  · exact formed.disk
  · next spool current =>
      split
      · exact formed.disk
      · exact (formed.spool spool current).wellFormed

theorem target_wellFormed {device : Device} (formed : DeviceFormed device)
    (backend : StorageBackend) : WellFormed (device.target backend) := by
  cases backend with
  | memory => exact wellFormed_empty 0
  | persistent => exact formed.disk

theorem consumers_formed {spool : DurableMeterSpool} (formed : Formed spool)
    (consumers : List Consumer) :
    Formed { spool with store := { spool.store with consumers } } :=
  ⟨⟨formed.wellFormed.ordered, formed.wellFormed.distinct, formed.wellFormed.numbered⟩,
    formed.accounted⟩

theorem settled_formed {spool after : DurableMeterSpool} {done : List MeterStreamRecord}
    {publication : Publication} {taken kept added : List StoredRecord} (formed : Formed spool)
    (progress : Progress spool.store done publication added)
    (settled : Settled spool after taken kept added) : Formed after := by
  constructor
  · exact settled_wellFormed progress settled
  · have accounted := formed.accounted
    rw [Store.payloadBytes, settled.before, List.map_append, List.sum_append] at accounted
    rw [settled.tracked, Store.payloadBytes, settled.records, List.map_append, List.sum_append]
    omega

/-- Registering and unregistering consumers, and acknowledging, change the consumers only. -/
theorem registerConsumer_ok {spool after : DurableMeterSpool} {name : String}
    (returned : spool.registerConsumer name = .ok after) :
    after = { spool with store := { spool.store with consumers := after.store.consumers } } ∧
      (after.store.consumers = spool.store.consumers ∧
          (∃ consumer ∈ spool.store.consumers, consumer.name = name) ∨
        after.store.consumers = spool.store.consumers ++ [⟨name, 0⟩]) := by
  unfold DurableMeterSpool.registerConsumer at returned
  split at returned
  · cases returned
  · split at returned
    · next known =>
        cases returned
        exact ⟨rfl, .inl ⟨rfl, known⟩⟩
    · cases returned
      exact ⟨rfl, .inr rfl⟩

theorem unregisterConsumer_ok {spool after : DurableMeterSpool} {name : String}
    (returned : spool.unregisterConsumer name = .ok after) :
    after = { spool with store := { spool.store with
      consumers := spool.store.consumers.filter (fun consumer => consumer.name ≠ name) } } := by
  unfold DurableMeterSpool.unregisterConsumer at returned
  split at returned
  · cases returned
  · exact (Except.ok.inj returned).symm

theorem acknowledge_ok {spool after : DurableMeterSpool} {name : String} {cursor : Nat}
    (returned : spool.acknowledge name cursor = .ok after) :
    cursor ≤ spool.store.newest ∧
      after = { spool with store := { spool.store with
        consumers := spool.store.consumers.map (fun consumer =>
          if consumer.name = name then
            { consumer with acknowledgedCursor := max consumer.acknowledgedCursor cursor }
          else consumer) } } := by
  unfold DurableMeterSpool.acknowledge at returned
  split at returned
  · cases returned
  · next reached =>
      split at returned
      · cases returned
      · exact ⟨by omega, (Except.ok.inj returned).symm⟩

theorem step_formed {device after : Device} {event : Event} {answer : Answer}
    (formed : DeviceFormed device) (step : Step device event after answer) :
    DeviceFormed after := by
  cases step with
  | ignored | refused | wasRead => exact formed
  | @started policy clockMilliseconds written spool closed opened =>
      constructor
      · exact formed.disk
      · rintro current ⟨⟩
        exact openSpool_formed (target_wellFormed formed policy.backend) opened
  | @published records committed spool cursors after current returned =>
      have before := formed.spool spool current
      rcases publishRecords_cases before.wellFormed returned with
        ⟨publication, added, taken, kept, progress, settled, -⟩
      constructor
      · exact formed.disk
      · rintro other ⟨⟩
        exact settled_formed before progress settled
  | @registered name spool after current returned =>
      constructor
      · exact formed.disk
      · rintro other ⟨⟩
        rw [(registerConsumer_ok returned).1]
        exact consumers_formed (formed.spool spool current) _
  | @unregistered name spool after current returned =>
      constructor
      · exact formed.disk
      · rintro other ⟨⟩
        rw [unregisterConsumer_ok returned]
        exact consumers_formed (formed.spool spool current) _
  | @acknowledged name cursor spool after current returned =>
      constructor
      · exact formed.disk
      · rintro other ⟨⟩
        rw [(acknowledge_ok returned).2]
        exact consumers_formed (formed.spool spool current) _
  | @pruned nowNanoseconds written progress spool current =>
      constructor
      · exact formed.disk
      · rintro other ⟨⟩
        exact (prune_spec spool device.lease nowNanoseconds written progress
          (formed.spool spool current)).formed
  | @policyKept policy clockMilliseconds written copied spool current same =>
      constructor
      · exact formed.disk
      · rintro other ⟨⟩
        have before := formed.spool spool current
        exact ⟨before.wellFormed, before.accounted⟩
  | @switchFailed policy clockMilliseconds written failure spool replacement current different
      opened =>
      constructor
      · cases backend : policy.backend with
        | memory => exact formed.disk
        | persistent =>
            exact (openSpool_formed (target_wellFormed formed policy.backend) opened).wellFormed
      · exact formed.spool
  | @switched policy clockMilliseconds written spool replacement current different opened =>
      constructor
      · exact left_wellFormed formed
      · rintro other ⟨⟩
        exact migrate_formed (formed.spool spool current)
  | crashed =>
      constructor
      · exact left_wellFormed formed
      · rintro other ⟨⟩

theorem run_formed (events : List Event) : DeviceFormed (machine.run {} events) :=
  machine.run_invariant DeviceFormed
    (fun device event formed => step_formed formed (step_cases device event))
    {} ⟨wellFormed_empty 0, fun _ absent => nomatch absent⟩ events

end Msap1.Spool
