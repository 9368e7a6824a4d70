import Msap1.Spool.Operations

/-! What a publication does to the record table. -/

namespace Msap1.Spool

/-- Rows in cursor order under the sequence, one row to a key. -/
structure WellFormed (store : Store) : Prop where
  ordered : store.records.Pairwise (fun earlier later => earlier.cursor < later.cursor)
  distinct : store.records.Pairwise (fun earlier later => earlier.identity ≠ later.identity)
  numbered : ∀ row ∈ store.records, 0 < row.cursor ∧ row.cursor ≤ store.sequence

theorem wellFormed_empty (sequence : Nat) : WellFormed { sequence } := by
  constructor
  · exact List.Pairwise.nil
  · exact List.Pairwise.nil
  · intro row member
    exact absurd member List.not_mem_nil

theorem foldr_max_le {values : List Nat} {bound : Nat} (below : ∀ value ∈ values, value ≤ bound) :
    values.foldr max 0 ≤ bound := by
  induction values with
  | nil => exact Nat.zero_le bound
  | cons value values ih =>
      have head := below value List.mem_cons_self
      have tail := ih (fun other member => below other (List.mem_cons_of_mem value member))
      exact max_le head tail

theorem le_foldr_max {values : List Nat} {value : Nat} (member : value ∈ values) :
    value ≤ values.foldr max 0 := by
  induction values with
  | nil => exact absurd member List.not_mem_nil
  | cons head values ih =>
      rcases List.mem_cons.mp member with same | inside
      · rw [same]
        exact le_max_left head _
      · exact le_trans (ih inside) (le_max_right head _)

theorem cursor_le_newest {store : Store} {row : StoredRecord} (member : row ∈ store.records) :
    row.cursor ≤ store.newest :=
  le_foldr_max (List.mem_map_of_mem member)

theorem newest_le_sequence {store : Store} (wellFormed : WellFormed store) :
    store.newest ≤ store.sequence := by
  apply foldr_max_le
  intro cursor member
  rcases List.mem_map.mp member with ⟨row, inside, same⟩
  rw [← same]
  exact (wellFormed.numbered row inside).2

theorem nextCursor_ok {store : Store} (wellFormed : WellFormed store) {cursor : Nat}
    (returned : store.nextCursor = .ok cursor) : cursor = store.sequence + 1 := by
  unfold Store.nextCursor at returned
  rw [max_eq_left (newest_le_sequence wellFormed)] at returned
  split at returned
  · exact (Except.ok.inj returned).symm
  · cases returned

theorem existing_none {store : Store} {identity : Identity} :
    store.existing identity = none ↔ ∀ row ∈ store.records, row.identity ≠ identity := by
  simp [Store.existing]

/-- A row with the given key and cursor is in the table. -/
def Store.Names (store : Store) (identity : Identity) (cursor : Nat) : Prop :=
  ∃ row ∈ store.records, row.identity = identity ∧ row.cursor = cursor

theorem existing_names {store : Store} {identity : Identity} {cursor : Nat}
    (found : store.existing identity = some cursor) : store.Names identity cursor := by
  rcases Option.map_eq_some_iff.mp found with ⟨row, hit, same⟩
  have matching : row.identity = identity := by simpa using List.find?_some hit
  exact ⟨row, List.mem_of_find?_eq_some hit, matching, same⟩

theorem row_unique {store : Store} (wellFormed : WellFormed store) {left right : StoredRecord}
    (leftMember : left ∈ store.records) (rightMember : right ∈ store.records)
    (same : left.identity = right.identity) : left = right := by
  by_contra different
  have symmetric : Std.Symm (fun first second : StoredRecord =>
      first.identity ≠ second.identity) := ⟨fun _ _ apart => apart.symm⟩
  exact wellFormed.distinct.forall leftMember rightMember different same

theorem existing_of_names {store : Store} (wellFormed : WellFormed store) {identity : Identity}
    {cursor : Nat} (named : store.Names identity cursor) :
    store.existing identity = some cursor := by
  rcases named with ⟨row, member, matching, same⟩
  cases found : store.existing identity with
  | none => exact absurd matching (existing_none.mp found row member)
  | some other =>
      rcases existing_names found with ⟨hit, hitMember, hitMatching, hitSame⟩
      have unique := row_unique wellFormed hitMember member (hitMatching.trans matching.symm)
      rw [← hitSame, unique, same]

/-- The bindings of the key succeed. -/
def Bindable (record : MeterStreamRecord) : Prop :=
  (∃ column, bindUnsigned record.sourceSequence = .ok column) ∧
    ∃ column, bindUnsigned record.timing.firstSampleIndex = .ok column

theorem publishOne_cases {publication after : Publication} {record : MeterStreamRecord}
    (returned : publishOne publication record = .ok after) :
    Bindable record ∧
      ((∃ cursor, publication.store.existing record.identity = some cursor ∧
          after = { publication with cursors := publication.cursors ++ [cursor] }) ∨
        ∃ cursor uncertainty, publication.store.existing record.identity = none ∧
          publication.store.nextCursor = .ok cursor ∧
          after = {
            store := { publication.store with
              records := publication.store.records ++ [storedRecord cursor uncertainty record]
              sequence := cursor }
            cursors := publication.cursors ++ [cursor]
            insertedBytes := publication.insertedBytes +
              (storedRecord cursor uncertainty record).bytes
            firstInsertedCursor :=
              if publication.firstInsertedCursor = 0 then cursor
              else publication.firstInsertedCursor }) := by
  rcases Loops.bind_ok returned with ⟨sequence, sequenceBound, rest⟩
  rcases Loops.bind_ok rest with ⟨index, indexBound, rest⟩
  constructor
  · exact ⟨⟨sequence, sequenceBound⟩, ⟨index, indexBound⟩⟩
  · split at rest
    · next cursor found =>
        cases rest
        exact .inl ⟨cursor, found, rfl⟩
    · next absent =>
        rcases Loops.bind_ok rest with ⟨uncertainty, -, rest⟩
        rcases Loops.bind_ok rest with ⟨cursor, taken, rest⟩
        cases rest
        exact .inr ⟨cursor, uncertainty, absent, taken, rfl⟩

/-- A batch in progress: the rows it added, numbered from the sequence on, and a row for
every record it has been through. -/
structure Progress (start : Store) (done : List MeterStreamRecord) (publication : Publication)
    (added : List StoredRecord) : Prop where
  wellFormed : WellFormed publication.store
  records : publication.store.records = start.records ++ added
  consumers : publication.store.consumers = start.consumers
  sequence : publication.store.sequence = start.sequence + added.length
  cursors : added.map StoredRecord.cursor = List.range' (start.sequence + 1) added.length
  named : List.Forall₂ (fun record cursor => publication.store.Names record.identity cursor)
    done publication.cursors
  bytes : publication.insertedBytes = (added.map StoredRecord.bytes).sum
  first : publication.firstInsertedCursor = if added = [] then 0 else start.sequence + 1
  origin : ∀ row ∈ added, ∃ record uncertainty,
    done.find? (fun candidate => candidate.identity = row.identity) = some record ∧
      row = storedRecord row.cursor uncertainty record
  bindable : ∀ record ∈ done, Bindable record

theorem progress_start {start : Store} (wellFormed : WellFormed start) :
    Progress start [] { store := start } [] where
  wellFormed := wellFormed
  records := (List.append_nil start.records).symm
  consumers := rfl
  sequence := rfl
  cursors := rfl
  named := List.Forall₂.nil
  bytes := rfl
  first := rfl
  origin := fun _ member => absurd member List.not_mem_nil
  bindable := fun _ member => absurd member List.not_mem_nil

theorem names_append {store : Store} {identity : Identity} {cursor : Nat} {row : StoredRecord}
    {sequence : Nat} (named : store.Names identity cursor) :
    Store.Names { store with records := store.records ++ [row], sequence } identity cursor := by
  rcases named with ⟨found, member, matching, same⟩
  exact ⟨found, List.mem_append_left _ member, matching, same⟩

theorem wellFormed_append {store : Store} (wellFormed : WellFormed store) {row : StoredRecord}
    (cursor : row.cursor = store.sequence + 1)
    (fresh : ∀ other ∈ store.records, other.identity ≠ row.identity) :
    WellFormed { store with
      records := store.records ++ [row], sequence := store.sequence + 1 } := by
  constructor
  · rw [List.pairwise_append]
    refine ⟨wellFormed.ordered, List.pairwise_singleton _ _, ?_⟩
    intro other member last single
    have below := (wellFormed.numbered other member).2
    rw [List.mem_singleton.mp single, cursor]
    omega
  · rw [List.pairwise_append]
    refine ⟨wellFormed.distinct, List.pairwise_singleton _ _, ?_⟩
    intro other member last single
    rw [List.mem_singleton.mp single]
    exact fresh other member
  · intro other member
    rcases List.mem_append.mp member with old | new
    · have bounds := wellFormed.numbered other old
      exact ⟨bounds.1, by simp only; omega⟩
    · rw [List.mem_singleton.mp new, cursor]
      exact ⟨by omega, le_refl _⟩

theorem progress_step {start : Store} {done : List MeterStreamRecord} {publication : Publication}
    {added : List StoredRecord} (progress : Progress start done publication added)
    {record : MeterStreamRecord} {after : Publication}
    (returned : publishOne publication record = .ok after) :
    ∃ more, Progress start (done ++ [record]) after (added ++ more) := by
  rcases publishOne_cases returned with ⟨bindable, ⟨cursor, found, rfl⟩ |
    ⟨cursor, uncertainty, absent, taken, rfl⟩⟩
  · refine ⟨[], ?_⟩
    rw [List.append_nil]
    exact {
      progress with
      named := List.rel_append progress.named (.cons (existing_names found) .nil)
      origin := by
        intro row member
        rcases progress.origin row member with ⟨source, column, earliest, same⟩
        exact ⟨source, column, by rw [List.find?_append, earliest]; rfl, same⟩
      bindable := by
        intro candidate member
        rcases List.mem_append.mp member with old | new
        · exact progress.bindable candidate old
        · rw [List.mem_singleton.mp new]
          exact bindable }
  · have number := nextCursor_ok progress.wellFormed taken
    subst number
    have absentDone : ∀ candidate ∈ done, candidate.identity ≠ record.identity := by
      intro candidate member same
      rcases List.forall₂_iff_get.mp progress.named with ⟨lengths, pointwise⟩
      rcases List.mem_iff_get.mp member with ⟨position, here⟩
      have inside : position.val < publication.cursors.length := by
        rw [← lengths]
        exact position.isLt
      rcases pointwise position.val position.isLt inside with ⟨row, rowMember, matching, -⟩
      rw [Fin.eta, here, same] at matching
      exact existing_none.mp absent row rowMember matching
    refine ⟨[storedRecord (publication.store.sequence + 1) uncertainty record], ?_⟩
    exact {
      wellFormed := wellFormed_append progress.wellFormed rfl (existing_none.mp absent)
      records := by
        simp only
        rw [progress.records, List.append_assoc]
      consumers := progress.consumers
      sequence := by
        simp only
        rw [progress.sequence, List.length_append, List.length_singleton, Nat.add_assoc]
      cursors := by
        rw [List.map_append, progress.cursors, List.length_append, List.length_singleton,
          List.range'_concat, progress.sequence]
        simp [storedRecord]
        omega
      named := by
        refine List.rel_append ?_ (.cons ⟨_, List.mem_append_right _ (List.mem_singleton.mpr rfl),
          rfl, rfl⟩ .nil)
        exact progress.named.imp (fun _ _ named => names_append named)
      bytes := by
        simp only
        rw [progress.bytes, List.map_append, List.sum_append]
        simp
      first := by
        simp only [progress.first]
        by_cases nothing : added = []
        · simp [nothing, progress.sequence]
        · simp [nothing]
      origin := by
        intro row member
        rcases List.mem_append.mp member with old | new
        · rcases progress.origin row old with ⟨source, column, earliest, same⟩
          exact ⟨source, column, by rw [List.find?_append, earliest]; rfl, same⟩
        · rw [List.mem_singleton.mp new]
          refine ⟨record, uncertainty, ?_, rfl⟩
          have notEarlier : done.find? (fun candidate => candidate.identity =
              (storedRecord (publication.store.sequence + 1) uncertainty record).identity) =
                none := by
            rw [List.find?_eq_none]
            intro candidate inside same
            exact absentDone candidate inside (of_decide_eq_true same)
          rw [List.find?_append, notEarlier]
          simp [storedRecord, StoredRecord.identity, MeterStreamRecord.identity]
      bindable := by
        intro candidate member
        rcases List.mem_append.mp member with old | new
        · exact progress.bindable candidate old
        · rw [List.mem_singleton.mp new]
          exact bindable }

theorem progress_run {start : Store} {done rest : List MeterStreamRecord}
    {publication after : Publication} {added : List StoredRecord}
    (progress : Progress start done publication added)
    (returned : rest.foldlM publishOne publication = .ok after) :
    ∃ more, Progress start (done ++ rest) after (added ++ more) := by
  induction rest generalizing done publication added with
  | nil =>
      cases returned
      exact ⟨[], by rwa [List.append_nil, List.append_nil]⟩
  | cons record rest ih =>
      rw [List.foldlM_cons] at returned
      rcases Loops.bind_ok returned with ⟨middle, first, later⟩
      rcases progress_step progress first with ⟨more, advanced⟩
      rcases ih advanced later with ⟨others, finished⟩
      refine ⟨more ++ others, ?_⟩
      rw [List.append_assoc, List.singleton_append, List.append_assoc] at finished
      exact finished

def Eviction.take (eviction : Eviction) (acknowledged : Nat) (taken : List StoredRecord) :
    Eviction where
  removedBytes := eviction.removedBytes + (taken.map StoredRecord.bytes).sum
  removeThrough := (taken.getLast?.map StoredRecord.cursor).getD eviction.removeThrough
  removedUnacknowledged := eviction.removedUnacknowledged +
    taken.countP (fun row => acknowledged < row.cursor)

theorem evictRows_takes (limit projected acknowledged : Nat) (rows : List StoredRecord)
    (eviction : Eviction) :
    ∃ taken rest, rows = taken ++ rest ∧
      evictRows limit projected acknowledged rows eviction = eviction.take acknowledged taken := by
  induction rows generalizing eviction with
  | nil => exact ⟨[], [], rfl, rfl⟩
  | cons row rows ih =>
      unfold evictRows
      split
      · rcases ih {
          removedBytes := eviction.removedBytes + row.bytes
          removeThrough := row.cursor
          removedUnacknowledged :=
            if acknowledged < row.cursor then eviction.removedUnacknowledged + 1
            else eviction.removedUnacknowledged } with ⟨taken, rest, split, result⟩
        refine ⟨row :: taken, rest, by rw [split, List.cons_append], ?_⟩
        rw [result]
        simp only [Eviction.take, List.map_cons, List.sum_cons, List.getLast?_cons,
          Option.map_some, Option.getD_some, List.countP_cons, decide_eq_true_eq,
          Eviction.mk.injEq]
        refine ⟨by omega, ?_, ?_⟩
        · cases taken.getLast? <;> rfl
        · split <;> omega
      · exact ⟨[], row :: rows, rfl, by simp [Eviction.take]⟩

/-- The rows of a publication once it is committed: the oldest ones may be gone, none of the
batch is. -/
structure Settled (spool after : DurableMeterSpool) (taken kept added : List StoredRecord) :
    Prop where
  before : spool.store.records = taken ++ kept
  records : after.store.records = kept ++ added
  consumers : after.store.consumers = spool.store.consumers
  sequence : after.store.sequence = spool.store.sequence + added.length
  dropped : after.droppedUnacknowledged = spool.droppedUnacknowledged +
    taken.countP (fun row => spool.store.minimumAcknowledged < row.cursor)
  policy : after.policy = spool.policy
  lease : after.cursorLease = spool.cursorLease
  tracked : after.trackedPayloadBytes = spool.trackedPayloadBytes +
    (added.map StoredRecord.bytes).sum - (taken.map StoredRecord.bytes).sum
  untouched : added = [] → taken = []

theorem filter_after_taken {taken kept : List StoredRecord} {last : StoredRecord}
    (ordered : (taken ++ kept).Pairwise (fun earlier later => earlier.cursor < later.cursor))
    (final : taken.getLast? = some last) :
    (taken ++ kept).filter (fun row => last.cursor < row.cursor) = kept := by
  rcases List.getLast?_eq_some_iff.mp final with ⟨front, rfl⟩
  rw [List.filter_append]
  rcases List.pairwise_append.mp ordered with ⟨takenOrdered, -, across⟩
  have none : (front ++ [last]).filter (fun row => last.cursor < row.cursor) = [] := by
    rw [List.filter_eq_nil_iff]
    intro row member
    rcases List.mem_append.mp member with early | single
    · have below := (List.pairwise_append.mp takenOrdered).2.2 row early last
        (List.mem_singleton.mpr rfl)
      simp only [decide_eq_true_eq, not_lt]
      omega
    · rw [List.mem_singleton.mp single]
      simp
  have all : kept.filter (fun row => last.cursor < row.cursor) = kept := by
    rw [List.filter_eq_self]
    intro row member
    have above := across last (List.mem_append_right _ (List.mem_singleton.mpr rfl)) row member
    simpa using above
  rw [none, all, List.nil_append]

theorem victims_eq {start : Store} {done : List MeterStreamRecord} {publication : Publication}
    {added : List StoredRecord} (wellFormed : WellFormed start)
    (progress : Progress start done publication added) (inserted : added ≠ []) :
    publication.store.records.filter (fun row => row.cursor < publication.firstInsertedCursor) =
      start.records := by
  rw [progress.records, progress.first, if_neg inserted, List.filter_append]
  have old : start.records.filter (fun row => row.cursor < start.sequence + 1) =
      start.records := by
    rw [List.filter_eq_self]
    intro row member
    have below := (wellFormed.numbered row member).2
    simp only [decide_eq_true_eq]
    omega
  have new : added.filter (fun row => row.cursor < start.sequence + 1) = [] := by
    rw [List.filter_eq_nil_iff]
    intro row member
    have numbered : row.cursor ∈ added.map StoredRecord.cursor := List.mem_map_of_mem member
    rw [progress.cursors, List.mem_range'_1] at numbered
    simp only [decide_eq_true_eq, not_lt]
    omega
  rw [old, new, List.append_nil]

theorem settled_publication {spool : DurableMeterSpool} {done : List MeterStreamRecord}
    {publication : Publication} {added : List StoredRecord}
    (wellFormed : WellFormed spool.store)
    (progress : Progress spool.store done publication added) :
    ∃ taken kept, Settled spool (spool.settlePublication publication) taken kept added := by
  have consumers : publication.store.minimumAcknowledged = spool.store.minimumAcknowledged := by
    rw [Store.minimumAcknowledged, progress.consumers, Store.minimumAcknowledged]
  have chosen : ∃ taken kept, spool.store.records = taken ++ kept ∧
      spool.eviction publication =
        ({} : Eviction).take spool.store.minimumAcknowledged taken ∧
      (added = [] → taken = []) := by
    unfold DurableMeterSpool.eviction
    split
    · exact ⟨[], spool.store.records, rfl, rfl, fun _ => rfl⟩
    · next limit _ =>
        simp only
        split
        · next exceeded =>
            have inserted : added ≠ [] := by
              intro nothing
              rw [progress.bytes, nothing] at exceeded
              exact exceeded.1 rfl
            rw [victims_eq wellFormed progress inserted, consumers]
            rcases evictRows_takes limit _ spool.store.minimumAcknowledged spool.store.records {}
              with ⟨taken, kept, split, result⟩
            exact ⟨taken, kept, split, result, fun nothing => absurd nothing inserted⟩
        · exact ⟨[], spool.store.records, rfl, rfl, fun _ => rfl⟩
  rcases chosen with ⟨taken, kept, split, result, untouched⟩
  refine ⟨taken, kept, ?_⟩
  have ordered := progress.wellFormed.ordered
  rw [progress.records, split, List.append_assoc] at ordered
  have rows : (spool.settlePublication publication).store.records = kept ++ added ∧
      (spool.settlePublication publication).store.consumers = publication.store.consumers ∧
      (spool.settlePublication publication).store.sequence = publication.store.sequence := by
    simp only [DurableMeterSpool.settlePublication, result, Eviction.take]
    cases final : taken.getLast? with
    | none =>
        rw [List.getLast?_eq_none_iff] at final
        simp [progress.records, split, final]
    | some last =>
        have positive : 0 < last.cursor := by
          apply (wellFormed.numbered last ?_).1
          rw [split]
          exact List.mem_append_left _ (List.mem_of_getLast? final)
        simp only [Option.map_some, Option.getD_some, if_neg (Nat.ne_of_gt positive),
          Store.removeThrough, progress.records, split, List.append_assoc]
        exact ⟨filter_after_taken ordered final, trivial, trivial⟩
  exact {
    before := split
    records := rows.1
    consumers := rows.2.1.trans progress.consumers
    sequence := rows.2.2.trans progress.sequence
    dropped := by
      simp only [DurableMeterSpool.settlePublication, result, Eviction.take, Nat.zero_add]
    policy := rfl
    lease := rfl
    tracked := by
      simp only [DurableMeterSpool.settlePublication, result, Eviction.take, progress.bytes,
        Nat.zero_add]
      omega
    untouched }

theorem publishRecords_cases {spool after : DurableMeterSpool} {records : List MeterStreamRecord}
    {committed : Except Failure Unit} {cursors : List Nat} (wellFormed : WellFormed spool.store)
    (returned : spool.publishRecords records committed = .ok (cursors, after)) :
    ∃ publication added taken kept, Progress spool.store records publication added ∧
      Settled spool after taken kept added ∧ cursors = publication.cursors ∧
      after = spool.settlePublication publication ∧
      ¬ (records = [] ∨ 256 < records.length) ∧ ¬ ∃ record ∈ records, record.payload = [] := by
  unfold DurableMeterSpool.publishRecords at returned
  split at returned
  · cases returned
  · next sized =>
      split at returned
      · cases returned
      · next filled =>
          rcases Loops.bind_ok returned with ⟨publication, looped, rest⟩
          rcases Loops.bind_ok rest with ⟨-, -, rest⟩
          cases rest
          rcases progress_run (progress_start wellFormed) looped with ⟨added, progress⟩
          rcases settled_publication wellFormed progress with ⟨taken, kept, settled⟩
          exact ⟨publication, added, taken, kept, progress, settled, rfl, rfl, sized, filled⟩

theorem settled_wellFormed {spool after : DurableMeterSpool} {done : List MeterStreamRecord}
    {publication : Publication} {taken kept added : List StoredRecord}
    (progress : Progress spool.store done publication added)
    (settled : Settled spool after taken kept added) : WellFormed after.store := by
  have whole : publication.store.records = taken ++ (kept ++ added) := by
    rw [progress.records, settled.before, List.append_assoc]
  have part : (kept ++ added).Sublist publication.store.records := by
    rw [whole]
    exact List.sublist_append_right taken _
  constructor
  · rw [settled.records]
    exact progress.wellFormed.ordered.sublist part
  · rw [settled.records]
    exact progress.wellFormed.distinct.sublist part
  · rw [settled.records, settled.sequence, ← progress.sequence]
    intro row member
    exact progress.wellFormed.numbered row (part.subset member)

end Msap1.Spool
