import Msap1.Spool.Cursors

/-! One registered consumer beside everything else that happens in a session: it reads pages,
processes their records in order and acknowledges the last one it processed. -/

namespace Msap1.Spool

structure Reader where
  /-- Records read and not yet processed. -/
  page : List StoredRecord := []
  /-- The last cursor processed, until it is acknowledged. -/
  last : Option Nat := none
  processed : List StoredRecord := []
  /-- Records committed since the consumer was registered. -/
  committed : List StoredRecord := []
  /-- Records a publication evicted before the consumer had acknowledged them. -/
  evicted : List StoredRecord := []

inductive Turn where
  | outside (event : Event)
  | read (limit : Nat)
  | process
  | acknowledge

/-- The rows a publication removed that a consumer had not acknowledged. -/
def evictedRows (name : String) (spool : DurableMeterSpool) (records : List MeterStreamRecord)
    (committed : Except Failure Unit) : List StoredRecord :=
  match spool.publishRecords records committed, spool.acknowledgedCursor name with
  | .ok (_, after), some acknowledged => spool.store.records.filter (fun row =>
      decide (acknowledged < row.cursor) && !after.store.records.contains row)
  | _, _ => []

/-- What a publication adds to the accounts of a consumer. -/
def Reader.observe (reader : Reader) (name : String) (device : Device) : Event → Reader
  | .publish records committed => match device.spool with
    | none => reader
    | some spool => { reader with
        committed := reader.committed ++ assignedRows spool records committed
        evicted := reader.evicted ++ evictedRows name spool records committed }
  | _ => reader

/-- The consumer reads again only when what it processed is acknowledged. -/
def reading (name : String) : Machine (Device × Reader) Turn Answer where
  step := fun state turn => match turn with
    | .outside event =>
        ((machine.next state.1 event, state.2.observe name state.1 event),
          machine.answer state.1 event)
    | .read limit => match state.2.last with
      | some _ => (state, .ignored)
      | none => match machine.answer state.1 (.read name limit) with
        | .rows rows => ((state.1, { state.2 with page := rows }), .rows rows)
        | other => (state, other)
    | .process => match state.2.page with
      | [] => (state, .ignored)
      | row :: rest =>
          ((state.1, { state.2 with
            page := rest
            last := some row.cursor
            processed := state.2.processed ++ [row] }), .done)
    | .acknowledge => match state.2.last with
      | none => (state, .ignored)
      | some cursor =>
          ((machine.next state.1 (.acknowledge name cursor), { state.2 with last := none }),
            machine.answer state.1 (.acknowledge name cursor))

/-- What others do within the session; they leave the consumer's own registration alone. -/
def Bystander (name : String) : Event → Prop
  | .start _ _ _ => False
  | .crash => False
  | .unregister other => other ≠ name
  | .acknowledge other _ => other ≠ name
  | _ => True

/-- A switch of the backend does not fall behind what the consumer has acknowledged. -/
def SwitchReaches (name : String) (device : Device) (event : Event) : Prop :=
  ∀ spool replacement clockMilliseconds written, device.spool = some spool →
    Constructs device event replacement clockMilliseconds written (.ok ()) →
      ∀ consumer ∈ spool.store.consumers, consumer.name = name →
        consumer.acknowledgedCursor ≤ (migrate spool replacement).store.sequence

def Reader.position (reader : Reader) (acknowledged : Nat) : Nat :=
  reader.last.getD acknowledged

/-- The consumer's acknowledgement is not past the sequence. -/
def Behind (name : String) (store : Store) : Prop :=
  ∀ consumer ∈ store.consumers, consumer.name = name →
    consumer.acknowledgedCursor ≤ store.sequence

structure Following (name : String) (spool : DurableMeterSpool) (reader : Reader)
    (acknowledged : Nat) : Prop where
  registered : spool.acknowledgedCursor name = some acknowledged
  behind : Behind name spool.store
  processedOrder : reader.processed.Pairwise (fun earlier later => earlier.cursor < later.cursor)
  processedBelow : ∀ row ∈ reader.processed, row.cursor ≤ reader.position acknowledged
  pending : ∀ cursor, reader.last = some cursor →
    acknowledged < cursor ∧ cursor ≤ spool.store.newest
  pageOrder : reader.page.Pairwise (fun earlier later => earlier.cursor < later.cursor)
  pageAhead : ∀ row ∈ reader.page,
    reader.position acknowledged < row.cursor ∧ row.cursor ≤ spool.store.newest
  /-- Whatever is stored up to the position has been processed. -/
  caughtUp : ∀ row ∈ spool.store.records, acknowledged < row.cursor →
    row.cursor ≤ reader.position acknowledged → row ∈ reader.processed
  /-- What is stored past the position is on the page or after it. -/
  unskipped : ∀ row ∈ spool.store.records, reader.position acknowledged < row.cursor →
    row ∉ reader.page → ∀ other ∈ reader.page, other.cursor < row.cursor
  accounted : ∀ row ∈ reader.committed, row ∈ reader.processed ∨
    row ∈ spool.store.records ∧ acknowledged < row.cursor ∨ row ∈ reader.evicted
  counted : reader.evicted.length ≤ spool.droppedUnacknowledged

theorem newest_stored (store : Store) (positive : 0 < store.newest) :
    ∃ row ∈ store.records, row.cursor = store.newest := by
  unfold Store.newest at positive ⊢
  generalize store.records = rows at positive ⊢
  induction rows with
  | nil => simp at positive
  | cons row rows ih =>
      simp only [List.map_cons, List.foldr_cons] at positive ⊢
      rcases le_total ((rows.map StoredRecord.cursor).foldr max 0) row.cursor with below | above
      · exact ⟨row, List.mem_cons_self, (max_eq_left below).symm⟩
      · rw [max_eq_right above] at positive ⊢
        rcases ih positive with ⟨found, member, same⟩
        exact ⟨found, List.mem_cons_of_mem row member, same⟩

theorem acknowledged_member {spool : DurableMeterSpool} {name : String} {acknowledged : Nat}
    (registered : spool.acknowledgedCursor name = some acknowledged) :
    ∃ consumer ∈ spool.store.consumers, consumer.name = name ∧
      consumer.acknowledgedCursor = acknowledged := by
  rcases Option.map_eq_some_iff.mp registered with ⟨consumer, hit, same⟩
  have named : consumer.name = name := by simpa using List.find?_some hit
  exact ⟨consumer, List.mem_of_find?_eq_some hit, named, same⟩

theorem minimum_le {store : Store} {consumer : Consumer} (member : consumer ∈ store.consumers) :
    store.minimumAcknowledged ≤ consumer.acknowledgedCursor := by
  unfold Store.minimumAcknowledged
  have inside := List.mem_map_of_mem (f := Consumer.acknowledgedCursor) member
  cases least : (store.consumers.map Consumer.acknowledgedCursor).min? with
  | none => exact Nat.zero_le _
  | some value => exact (List.min?_eq_some_iff.mp least).2 _ inside

theorem following_kept {name : String} {spool after : DurableMeterSpool} {reader : Reader}
    {acknowledged : Nat} (following : Following name spool reader acknowledged)
    (registered : after.acknowledgedCursor name = some acknowledged)
    (behind : Behind name after.store)
    (subset : ∀ row ∈ after.store.records, row ∈ spool.store.records)
    (kept : ∀ row ∈ spool.store.records, acknowledged < row.cursor → row ∈ after.store.records)
    (dropped : after.droppedUnacknowledged = spool.droppedUnacknowledged) :
    Following name after reader acknowledged := by
  have newest : ∀ cursor, acknowledged < cursor → cursor ≤ spool.store.newest →
      cursor ≤ after.store.newest := by
    intro cursor past reached
    rcases newest_stored spool.store (by omega) with ⟨row, member, same⟩
    have stays := cursor_le_newest (kept row member (by omega))
    omega
  have ahead : ∀ row ∈ reader.page, acknowledged < row.cursor := by
    intro row member
    have past := (following.pageAhead row member).1
    unfold Reader.position at past
    cases last : reader.last with
    | none => simpa [last] using past
    | some cursor =>
        have later := (following.pending cursor last).1
        simp only [last, Option.getD_some] at past
        omega
  exact {
    registered
    behind
    processedOrder := following.processedOrder
    processedBelow := following.processedBelow
    pending := by
      intro cursor last
      rcases following.pending cursor last with ⟨past, reached⟩
      exact ⟨past, newest cursor past reached⟩
    pageOrder := following.pageOrder
    pageAhead := by
      intro row member
      rcases following.pageAhead row member with ⟨past, reached⟩
      exact ⟨past, newest row.cursor (ahead row member) reached⟩
    caughtUp := fun row member => following.caughtUp row (subset row member)
    unskipped := fun row member => following.unskipped row (subset row member)
    accounted := by
      intro row member
      rcases following.accounted row member with done | ⟨stored, past⟩ | gone
      · exact .inl done
      · exact .inr (.inl ⟨kept row stored past, past⟩)
      · exact .inr (.inr gone)
    counted := by
      rw [dropped]
      exact following.counted }

section Publication

variable {name : String} {spool after : DurableMeterSpool} {records : List MeterStreamRecord}
  {committed : Except Failure Unit} {cursors : List Nat}

theorem evictedRows_counted {acknowledged : Nat} (wellFormed : WellFormed spool.store)
    (registered : spool.acknowledgedCursor name = some acknowledged)
    (returned : spool.publishRecords records committed = .ok (cursors, after)) :
    spool.droppedUnacknowledged + (evictedRows name spool records committed).length ≤
        after.droppedUnacknowledged ∧
      ∀ row ∈ spool.store.records, acknowledged < row.cursor →
        row ∈ after.store.records ∨ row ∈ evictedRows name spool records committed := by
  rcases publishRecords_cases wellFormed returned with
    ⟨publication, added, taken, kept, progress, settled, -⟩
  have rows : evictedRows name spool records committed = spool.store.records.filter (fun row =>
      decide (acknowledged < row.cursor) && !after.store.records.contains row) := by
    simp only [evictedRows, returned, registered]
  rw [rows]
  constructor
  · rcases acknowledged_member registered with ⟨consumer, member, -, same⟩
    have least := minimum_le member
    have gone : kept.filter (fun row =>
        decide (acknowledged < row.cursor) && !after.store.records.contains row) = [] := by
      rw [List.filter_eq_nil_iff]
      intro row inside
      have stays : row ∈ after.store.records := by
        rw [settled.records]
        exact List.mem_append_left added inside
      simp [stays]
    rw [settled.dropped, settled.before, List.filter_append, gone, List.append_nil,
      ← List.countP_eq_length_filter]
    apply Nat.add_le_add_left
    apply List.countP_mono_left
    intro row _ chosen
    simp only [Bool.and_eq_true, decide_eq_true_eq] at chosen ⊢
    omega
  · intro row member past
    by_cases stays : row ∈ after.store.records
    · exact .inl stays
    · right
      simp [member, past, stays]

theorem newest_grows (wellFormed : WellFormed spool.store)
    (returned : spool.publishRecords records committed = .ok (cursors, after)) :
    spool.store.newest ≤ after.store.newest := by
  rcases publishRecords_cases wellFormed returned with
    ⟨publication, added, taken, kept, progress, settled, -⟩
  rcases List.eq_nil_or_concat added with nothing | ⟨front, last, inserted⟩
  · have same : after.store.records = spool.store.records := by
      rw [settled.records, settled.before, settled.untouched nothing, nothing,
        List.append_nil, List.nil_append]
    unfold Store.newest
    rw [same]
  · have member : last ∈ added := by
      rw [inserted, List.concat_eq_append]
      exact List.mem_append_right front (List.mem_singleton.mpr rfl)
    have numbered : last.cursor ∈ added.map StoredRecord.cursor := List.mem_map_of_mem member
    rw [progress.cursors, List.mem_range'_1] at numbered
    have stored : last ∈ after.store.records := by
      rw [settled.records]
      exact List.mem_append_right kept member
    have reached := cursor_le_newest stored
    have old := newest_le_sequence wellFormed
    omega

theorem published_rows (wellFormed : WellFormed spool.store)
    (returned : spool.publishRecords records committed = .ok (cursors, after)) :
    (∀ row ∈ after.store.records, row ∈ spool.store.records ∨
        spool.store.sequence < row.cursor) ∧
      (∀ row ∈ assignedRows spool records committed, row ∈ after.store.records) ∧
      after.store.consumers = spool.store.consumers ∧
      spool.store.sequence ≤ after.store.sequence := by
  rcases publishRecords_cases wellFormed returned with
    ⟨publication, added, taken, kept, progress, settled, -⟩
  refine ⟨?_, ?_, settled.consumers, ?_⟩
  · intro row member
    by_cases old : spool.store.sequence < row.cursor
    · exact .inr old
    · left
      rw [settled.records] at member
      rw [settled.before]
      rcases List.mem_append.mp member with stays | new
      · exact List.mem_append_right taken stays
      · have numbered : row.cursor ∈ added.map StoredRecord.cursor := List.mem_map_of_mem new
        rw [progress.cursors, List.mem_range'_1] at numbered
        omega
  · intro row member
    simp only [assignedRows, returned] at member
    exact (List.mem_filter.mp member).1
  · rw [settled.sequence]
    exact Nat.le_add_right _ _

theorem following_published {reader : Reader} {acknowledged : Nat}
    (wellFormed : WellFormed spool.store)
    (following : Following name spool reader acknowledged)
    (returned : spool.publishRecords records committed = .ok (cursors, after)) :
    Following name after { reader with
      committed := reader.committed ++ assignedRows spool records committed
      evicted := reader.evicted ++ evictedRows name spool records committed } acknowledged := by
  rcases published_rows wellFormed returned with ⟨origin, stored, consumers, raised⟩
  rcases evictedRows_counted wellFormed following.registered returned with ⟨dropped, survives⟩
  have grows := newest_grows wellFormed returned
  have newest := newest_le_sequence wellFormed
  have inside : acknowledged ≤ spool.store.sequence := by
    rcases acknowledged_member following.registered with ⟨consumer, member, named, same⟩
    rw [← same]
    exact following.behind consumer member named
  have position : reader.position acknowledged ≤ spool.store.sequence := by
    unfold Reader.position
    cases last : reader.last with
    | none => exact inside
    | some cursor =>
        have reached := (following.pending cursor last).2
        simp only [Option.getD_some]
        omega
  exact {
    registered := by
      unfold DurableMeterSpool.acknowledgedCursor
      rw [consumers]
      exact following.registered
    behind := by
      unfold Behind
      rw [consumers]
      intro consumer member named
      exact le_trans (following.behind consumer member named) raised
    processedOrder := following.processedOrder
    processedBelow := following.processedBelow
    pending := by
      intro cursor last
      rcases following.pending cursor last with ⟨past, reached⟩
      exact ⟨past, le_trans reached grows⟩
    pageOrder := following.pageOrder
    pageAhead := by
      intro row member
      rcases following.pageAhead row member with ⟨past, reached⟩
      exact ⟨past, le_trans reached grows⟩
    caughtUp := by
      intro row member past reached
      rcases origin row member with old | new
      · exact following.caughtUp row old past reached
      · simp only [Reader.position] at reached position
        omega
    unskipped := by
      intro row member past absent other listed
      rcases origin row member with old | new
      · exact following.unskipped row old past absent other listed
      · have before := (following.pageAhead other listed).2
        omega
    accounted := by
      intro row member
      simp only [List.mem_append] at member ⊢
      rcases member with old | new
      · rcases following.accounted row old with done | ⟨here, past⟩ | gone
        · exact .inl done
        · rcases survives row here past with stays | gone
          · exact .inr (.inl ⟨stays, past⟩)
          · exact .inr (.inr (.inr gone))
        · exact .inr (.inr (.inl gone))
      · have above := (assignedRows_bounds wellFormed returned new).1
        exact .inr (.inl ⟨stored row new, by omega⟩)
    counted := by
      have counted := following.counted
      simp only [List.length_append]
      omega }

end Publication

section Turns

variable {name : String} {spool : DurableMeterSpool} {reader : Reader} {acknowledged : Nat}

theorem readAfter_rows {limit : Nat} {rows : List StoredRecord}
    (registered : spool.acknowledgedCursor name = some acknowledged)
    (returned : spool.readAfter name limit = .ok rows) :
    rows = (spool.store.records.filter (fun row => acknowledged < row.cursor)).take limit := by
  unfold DurableMeterSpool.readAfter at returned
  split at returned
  · cases returned
  · rw [registered] at returned
    exact (Except.ok.inj returned).symm

theorem following_read {limit : Nat} {rows : List StoredRecord}
    (wellFormed : WellFormed spool.store) (following : Following name spool reader acknowledged)
    (idle : reader.last = none) (returned : spool.readAfter name limit = .ok rows) :
    Following name spool { reader with page := rows } acknowledged := by
  have page := readAfter_rows following.registered returned
  have position : reader.position acknowledged = acknowledged := by
    rw [Reader.position, idle, Option.getD_none]
  have split := List.take_append_drop limit
    (spool.store.records.filter (fun row => acknowledged < row.cursor))
  rw [← page] at split
  have ordered := wellFormed.ordered.filter (fun row => acknowledged < row.cursor)
  rw [← split] at ordered
  rcases List.pairwise_append.mp ordered with ⟨pageOrder, -, across⟩
  have origin : ∀ row ∈ rows, row ∈ spool.store.records ∧ acknowledged < row.cursor := by
    intro row member
    have inside : row ∈ spool.store.records.filter (fun row => acknowledged < row.cursor) := by
      rw [← split]
      exact List.mem_append_left _ member
    simpa using List.mem_filter.mp inside
  exact {
    following with
    pageOrder
    pageAhead := by
      intro row member
      rcases origin row member with ⟨stored, past⟩
      refine ⟨?_, cursor_le_newest stored⟩
      change reader.position acknowledged < row.cursor
      rw [position]
      exact past
    unskipped := by
      intro row member past absent other listed
      change reader.position acknowledged < row.cursor at past
      rw [position] at past
      have inside : row ∈ spool.store.records.filter (fun row => acknowledged < row.cursor) := by
        simpa using ⟨member, past⟩
      rw [← split] at inside
      rcases List.mem_append.mp inside with onPage | later
      · exact absurd onPage absent
      · exact across other listed row later }

theorem following_process {row : StoredRecord} {rest : List StoredRecord}
    (following : Following name spool reader acknowledged) (page : reader.page = row :: rest) :
    Following name spool { reader with
      page := rest
      last := some row.cursor
      processed := reader.processed ++ [row] } acknowledged := by
  have head : row ∈ reader.page := by
    rw [page]
    exact List.mem_cons_self
  rcases following.pageAhead row head with ⟨ahead, reached⟩
  have passed : acknowledged ≤ reader.position acknowledged := by
    unfold Reader.position
    cases last : reader.last with
    | none => exact le_refl _
    | some cursor => exact le_of_lt (following.pending cursor last).1
  have order := following.pageOrder
  rw [page] at order
  rcases List.pairwise_cons.mp order with ⟨above, restOrder⟩
  exact {
    registered := following.registered
    behind := following.behind
    processedOrder := by
      rw [List.pairwise_append]
      refine ⟨following.processedOrder, List.pairwise_singleton _ _, ?_⟩
      intro earlier old later single
      rw [List.mem_singleton.mp single]
      have below := following.processedBelow earlier old
      omega
    processedBelow := by
      intro other member
      change other.cursor ≤ row.cursor
      rcases List.mem_append.mp member with old | new
      · have below := following.processedBelow other old
        omega
      · rw [List.mem_singleton.mp new]
    pending := by
      rintro cursor ⟨⟩
      exact ⟨by omega, reached⟩
    pageOrder := restOrder
    pageAhead := by
      intro other member
      refine ⟨above other member, (following.pageAhead other ?_).2⟩
      rw [page]
      exact List.mem_cons_of_mem row member
    caughtUp := by
      intro other stored past below
      change other.cursor ≤ row.cursor at below
      by_cases early : other.cursor ≤ reader.position acknowledged
      · exact List.mem_append_left _ (following.caughtUp other stored past early)
      · by_cases listed : other ∈ reader.page
        · rw [page] at listed
          rcases List.mem_cons.mp listed with same | later
          · rw [same]
            exact List.mem_append_right _ (List.mem_singleton.mpr rfl)
          · have beyond := above other later
            omega
        · have beyond := following.unskipped other stored (by omega) listed row head
          omega
    unskipped := by
      intro other stored past absent next listed
      change row.cursor < other.cursor at past
      apply following.unskipped other stored (by omega)
      · intro present
        rw [page] at present
        rcases List.mem_cons.mp present with same | later
        · rw [same] at past
          omega
        · exact absent later
      · rw [page]
        exact List.mem_cons_of_mem row listed
    accounted := by
      intro other member
      rcases following.accounted other member with done | stored | gone
      · exact .inl (List.mem_append_left _ done)
      · exact .inr (.inl stored)
      · exact .inr (.inr gone)
    counted := following.counted }

theorem acknowledge_registered {after : DurableMeterSpool} {cursor : Nat}
    (registered : spool.acknowledgedCursor name = some acknowledged)
    (returned : spool.acknowledge name cursor = .ok after) :
    after.acknowledgedCursor name = some (max acknowledged cursor) := by
  rw [(acknowledge_ok returned).2]
  unfold DurableMeterSpool.acknowledgedCursor at registered ⊢
  rcases Option.map_eq_some_iff.mp registered with ⟨consumer, hit, same⟩
  have named : consumer.name = name := by simpa using List.find?_some hit
  have kept : ((fun consumer : Consumer => decide (consumer.name = name)) ∘ fun consumer =>
      if consumer.name = name then
        { consumer with acknowledgedCursor := max consumer.acknowledgedCursor cursor }
      else consumer) = fun consumer => decide (consumer.name = name) := by
    funext other
    by_cases same : other.name = name <;> simp [same]
  simp only [List.find?_map, kept, hit, Option.map_some, if_pos named, same]

theorem acknowledge_accepted {cursor : Nat}
    (registered : spool.acknowledgedCursor name = some acknowledged)
    (reached : cursor ≤ spool.store.newest) :
    ∃ after, spool.acknowledge name cursor = .ok after := by
  rcases acknowledged_member registered with ⟨consumer, member, named, -⟩
  unfold DurableMeterSpool.acknowledge
  rw [if_neg (by omega), if_neg]
  · exact ⟨_, rfl⟩
  · intro absent
    exact absent consumer member named

theorem following_acknowledge {after : DurableMeterSpool} {cursor : Nat}
    (wellFormed : WellFormed spool.store) (following : Following name spool reader acknowledged)
    (last : reader.last = some cursor)
    (returned : spool.acknowledge name cursor = .ok after) :
    Following name after { reader with last := none } cursor := by
  rcases following.pending cursor last with ⟨past, reached⟩
  have registered := acknowledge_registered following.registered returned
  rw [max_eq_right (by omega)] at registered
  have newest := newest_le_sequence wellFormed
  have position : reader.position acknowledged = cursor := by
    rw [Reader.position, last, Option.getD_some]
  rcases acknowledge_ok returned with ⟨-, same⟩
  have processedBelow := following.processedBelow
  have pageAhead := following.pageAhead
  have caughtUp := following.caughtUp
  have unskipped := following.unskipped
  rw [position] at processedBelow pageAhead caughtUp unskipped
  subst same
  exact {
    registered
    behind := by
      intro consumer member named
      rcases List.mem_map.mp member with ⟨other, inside, changed⟩
      rw [← changed] at named ⊢
      by_cases own : other.name = name
      · have before := following.behind other inside own
        simp only [if_pos own]
        omega
      · rw [if_neg own] at named
        exact absurd named own
    processedOrder := following.processedOrder
    processedBelow
    pending := by
      rintro other ⟨⟩
    pageOrder := following.pageOrder
    pageAhead
    caughtUp := by
      intro row stored above below
      change row.cursor ≤ cursor at below
      omega
    unskipped
    accounted := by
      intro row member
      rcases following.accounted row member with done | ⟨stored, above⟩ | gone
      · exact .inl done
      · by_cases further : cursor < row.cursor
        · exact .inr (.inl ⟨stored, further⟩)
        · exact .inl (caughtUp row stored above (by omega))
      · exact .inr (.inr gone)
    counted := following.counted }

end Turns

/-- In the open spool and in the database on disk the acknowledgement is not past the
sequence. -/
structure DeviceBehind (name : String) (device : Device) : Prop where
  formed : DeviceFormed device
  disk : Behind name device.disk
  spool : ∀ spool, device.spool = some spool → Behind name spool.store

theorem behind_raised {name : String} {store : Store} (behind : Behind name store)
    {sequence : Nat} (raised : store.sequence ≤ sequence) :
    Behind name { store with sequence } :=
  fun consumer member named => le_trans (behind consumer member named) raised

theorem behind_opened {name : String} {lease : Nat} {target : Store}
    {policy : DatabaseStoragePolicy} {clockMilliseconds : Nat} {spool : DurableMeterSpool}
    (behind : Behind name target)
    (opened : openSpool lease target policy clockMilliseconds = .ok spool) :
    Behind name spool.store := by
  rw [openSpool_ok opened]
  exact behind_raised behind (le_max_left _ _)

theorem behind_target {name : String} {device : Device} (behind : DeviceBehind name device)
    (backend : StorageBackend) : Behind name (device.target backend) := by
  cases backend with
  | memory =>
      intro consumer member
      exact absurd member List.not_mem_nil
  | persistent => exact behind.disk

theorem behind_left {name : String} {device : Device} (behind : DeviceBehind name device) :
    Behind name device.left := by
  unfold Device.left
  split
  · exact behind.disk
  · next spool current =>
      split
      · exact behind.disk
      · exact behind.spool spool current

theorem behind_acknowledge {name other : String} {cursor : Nat}
    {spool after : DurableMeterSpool} (wellFormed : WellFormed spool.store)
    (behind : Behind name spool.store)
    (returned : spool.acknowledge other cursor = .ok after) : Behind name after.store := by
  rcases acknowledge_ok returned with ⟨reached, same⟩
  have newest := newest_le_sequence wellFormed
  rw [same]
  intro consumer member named
  rcases List.mem_map.mp member with ⟨original, inside, changed⟩
  rw [← changed] at named ⊢
  by_cases own : original.name = other
  · rw [if_pos own] at named ⊢
    have before := behind original inside named
    simp only
    omega
  · rw [if_neg own] at named ⊢
    exact behind original inside named

theorem behind_registered {name other : String} {spool after : DurableMeterSpool}
    (behind : Behind name spool.store)
    (returned : spool.registerConsumer other = .ok after) : Behind name after.store := by
  rcases registerConsumer_ok returned with ⟨same, ⟨consumers, -⟩ | consumers⟩
  · rw [same, consumers]
    exact behind
  · rw [same, consumers]
    intro consumer member named
    rcases List.mem_append.mp member with old | new
    · exact behind consumer old named
    · rw [List.mem_singleton.mp new]
      exact Nat.zero_le _

theorem behind_trimmed {name : String} {before after : Store} (behind : Behind name before)
    (trimmed : Trimmed before after) : Behind name after := by
  unfold Behind
  rw [trimmed.consumers, trimmed.sequence]
  exact behind

theorem step_behind {name : String} {device after : Device} {event : Event} {answer : Answer}
    (behind : DeviceBehind name device) (reaches : SwitchReaches name device event)
    (step : Step device event after answer) : DeviceBehind name after := by
  have formed := step_formed behind.formed step
  cases step with
  | ignored | refused | wasRead => exact behind
  | @started policy clockMilliseconds written spool closed opened =>
      refine ⟨formed, behind.disk, ?_⟩
      rintro other ⟨⟩
      exact behind_opened (behind_target behind policy.backend) opened
  | @published records committed spool cursors after current returned =>
      refine ⟨formed, behind.disk, ?_⟩
      rintro other ⟨⟩
      rcases published_rows (behind.formed.spool spool current).wellFormed returned with
        ⟨-, -, consumers, raised⟩
      unfold Behind
      rw [consumers]
      intro consumer member named
      exact le_trans (behind.spool spool current consumer member named) raised
  | @registered other spool after current returned =>
      refine ⟨formed, behind.disk, ?_⟩
      rintro opened ⟨⟩
      exact behind_registered (behind.spool spool current) returned
  | @unregistered other spool after current returned =>
      refine ⟨formed, behind.disk, ?_⟩
      rintro opened ⟨⟩
      rw [unregisterConsumer_ok returned]
      intro consumer member named
      exact behind.spool spool current consumer (List.mem_filter.mp member).1 named
  | @acknowledged other cursor spool after current returned =>
      refine ⟨formed, behind.disk, ?_⟩
      rintro opened ⟨⟩
      exact behind_acknowledge (behind.formed.spool spool current).wellFormed
        (behind.spool spool current) returned
  | @pruned nowNanoseconds written progress spool current =>
      refine ⟨formed, behind.disk, ?_⟩
      rintro opened ⟨⟩
      exact behind_trimmed (behind.spool spool current)
        (prune_spec spool device.lease nowNanoseconds written progress
          (behind.formed.spool spool current)).trimmed
  | @policyKept policy clockMilliseconds written copied spool current same =>
      refine ⟨formed, behind.disk, ?_⟩
      rintro opened ⟨⟩
      exact behind.spool spool current
  | @switchFailed policy clockMilliseconds written failure spool replacement current different
      opened =>
      refine ⟨formed, ?_, behind.spool⟩
      cases backend : policy.backend with
      | memory => exact behind.disk
      | persistent => exact behind_opened (behind_target behind policy.backend) opened
  | @switched policy clockMilliseconds written spool replacement current different opened =>
      refine ⟨formed, behind_left behind, ?_⟩
      rintro other ⟨⟩
      have reached := reaches spool replacement clockMilliseconds written current
        (.switch current different opened)
      have consumers : (migrate spool replacement).store.consumers = spool.store.consumers := by
        rw [migrate_store (behind.formed.spool spool current)]
      unfold Behind
      rw [consumers]
      exact reached
  | crashed =>
      refine ⟨formed, behind_left behind, ?_⟩
      rintro other ⟨⟩

section Bystanders

variable {name : String} {spool after : DurableMeterSpool} {acknowledged : Nat}

theorem registered_after_register {other : String}
    (registered : spool.acknowledgedCursor name = some acknowledged)
    (returned : spool.registerConsumer other = .ok after) :
    after.acknowledgedCursor name = some acknowledged := by
  unfold DurableMeterSpool.acknowledgedCursor at registered ⊢
  rcases Option.map_eq_some_iff.mp registered with ⟨consumer, hit, same⟩
  rcases registerConsumer_ok returned with ⟨-, ⟨consumers, -⟩ | consumers⟩
  · rw [consumers, hit, Option.map_some, same]
  · rw [consumers, List.find?_append, hit, Option.some_or, Option.map_some, same]

theorem registered_after_unregister {other : String} (different : other ≠ name)
    (registered : spool.acknowledgedCursor name = some acknowledged)
    (returned : spool.unregisterConsumer other = .ok after) :
    after.acknowledgedCursor name = some acknowledged := by
  rw [unregisterConsumer_ok returned]
  unfold DurableMeterSpool.acknowledgedCursor at registered ⊢
  rw [← registered, List.find?_filter]
  congr 2
  funext consumer
  by_cases own : consumer.name = name
  · simp [own, Ne.symm different]
  · simp [own]

theorem registered_after_acknowledge {other : String} {cursor : Nat} (different : other ≠ name)
    (registered : spool.acknowledgedCursor name = some acknowledged)
    (returned : spool.acknowledge other cursor = .ok after) :
    after.acknowledgedCursor name = some acknowledged := by
  rw [(acknowledge_ok returned).2]
  unfold DurableMeterSpool.acknowledgedCursor at registered ⊢
  rcases Option.map_eq_some_iff.mp registered with ⟨consumer, hit, same⟩
  have named : consumer.name = name := by simpa using List.find?_some hit
  have kept : ((fun consumer : Consumer => decide (consumer.name = name)) ∘ fun consumer =>
      if consumer.name = other then
        { consumer with acknowledgedCursor := max consumer.acknowledgedCursor cursor }
      else consumer) = fun consumer => decide (consumer.name = name) := by
    funext candidate
    by_cases own : candidate.name = other <;> simp [own]
  have apart : consumer.name ≠ other := by
    rw [named]
    exact Ne.symm different
  simp only [List.find?_map, kept, hit, Option.map_some, if_neg apart, same]

theorem registered_same_consumers (consumers : after.store.consumers = spool.store.consumers)
    (registered : spool.acknowledgedCursor name = some acknowledged) :
    after.acknowledgedCursor name = some acknowledged := by
  unfold DurableMeterSpool.acknowledgedCursor
  rw [consumers]
  exact registered

end Bystanders

/-- The consumer is registered with the open spool and follows it. -/
structure Attending (name : String) (state : Device × Reader) : Prop where
  behind : DeviceBehind name state.1
  following : ∃ spool acknowledged, state.1.spool = some spool ∧
    Following name spool state.2 acknowledged

theorem observe_refused (name : String) (reader : Reader) {device : Device}
    {spool : DurableMeterSpool} (current : device.spool = some spool) (event : Event)
    (refused : machine.answer device event = .ignored ∨
      ∃ failure, machine.answer device event = .failed failure) :
    reader.observe name device event = reader := by
  cases event with
  | publish records committed =>
      cases outcome : spool.publishRecords records committed with
      | error failure =>
          simp [Reader.observe, current, assignedRows, evictedRows, outcome]
      | ok result =>
          have returned : machine.answer device (.publish records committed) =
              .cursors result.1 := by
            simp [Machine.answer, machine, onSpool, current, outcome]
          rw [returned] at refused
          rcases refused with same | ⟨failure, same⟩ <;> cases same
  | _ => rfl

theorem outside_following {name : String} {device : Device} {reader : Reader} {event : Event}
    (attending : Attending name (device, reader)) (bystander : Bystander name event)
    (reaches : SwitchReaches name device event) :
    Attending name (machine.next device event, reader.observe name device event) := by
  rcases attending with ⟨behind, spool, acknowledged, current, following⟩
  simp only at current following behind
  have formed := behind.formed.spool spool current
  have step := step_cases device event
  have after := step_behind behind reaches step
  refine ⟨after, ?_⟩
  have afterSpool := after.spool
  have refusal := observe_refused name reader current event
  generalize machine.next device event = next at step afterSpool ⊢
  generalize machine.answer device event = answer at step refusal
  cases step with
  | ignored =>
      rw [refusal (.inl rfl)]
      exact ⟨spool, acknowledged, current, following⟩
  | refused _ failure =>
      rw [refusal (.inr ⟨failure, rfl⟩)]
      exact ⟨spool, acknowledged, current, following⟩
  | started closed opened => exact absurd bystander id
  | crashed => exact absurd bystander id
  | @published records committed opened cursors changed found returned =>
      rw [current] at found
      cases found
      simp only [Reader.observe, current]
      exact ⟨changed, acknowledged, rfl,
        following_published formed.wellFormed following returned⟩
  | @registered other opened changed found returned =>
      rw [current] at found
      cases found
      have same := (registerConsumer_ok returned).1
      refine ⟨changed, acknowledged, rfl, following_kept following
        (registered_after_register following.registered returned) (afterSpool changed rfl) ?_ ?_ ?_⟩
      · rw [same]
        exact fun row member => member
      · rw [same]
        exact fun row member _ => member
      · rw [same]
  | @unregistered other opened changed found returned =>
      rw [current] at found
      cases found
      have same := unregisterConsumer_ok returned
      refine ⟨changed, acknowledged, rfl, following_kept following
        (registered_after_unregister bystander following.registered returned)
        (afterSpool changed rfl) ?_ ?_ ?_⟩
      · rw [same]
        exact fun row member => member
      · rw [same]
        exact fun row member _ => member
      · rw [same]
  | wasRead => exact ⟨spool, acknowledged, current, following⟩
  | @acknowledged other cursor opened changed found returned =>
      rw [current] at found
      cases found
      have same := (acknowledge_ok returned).2
      refine ⟨changed, acknowledged, rfl, following_kept following
        (registered_after_acknowledge bystander following.registered returned)
        (afterSpool changed rfl) ?_ ?_ ?_⟩
      · rw [same]
        exact fun row member => member
      · rw [same]
        exact fun row member _ => member
      · rw [same]
  | @pruned nowNanoseconds written progress opened found =>
      rw [current] at found
      cases found
      have pruned := prune_spec spool device.lease nowNanoseconds written progress formed
      refine ⟨_, acknowledged, rfl, following_kept following
        (registered_same_consumers pruned.trimmed.consumers following.registered)
        (afterSpool _ rfl) ?_ ?_ pruned.dropped⟩
      · exact fun row member => pruned.trimmed.records.subset member
      · intro row member past
        rcases acknowledged_member following.registered with ⟨consumer, inside, -, same⟩
        have least := minimum_le inside
        exact pruned.kept row member (by omega)
  | @policyKept policy clockMilliseconds written copied opened found same =>
      rw [current] at found
      cases found
      exact ⟨_, acknowledged, rfl, following_kept following following.registered
        (afterSpool _ rfl) (fun row member => member) (fun row member _ => member) rfl⟩
  | switchFailed found different opened =>
      exact ⟨spool, acknowledged, current, following⟩
  | @switched policy clockMilliseconds written opened replacement found different constructed =>
      rw [current] at found
      cases found
      have store : (migrate spool replacement).store = _ := migrate_store formed
      refine ⟨_, acknowledged, rfl, following_kept following
        (registered_same_consumers (by rw [store]) following.registered)
        (afterSpool _ rfl) ?_ ?_ rfl⟩
      · rw [store]
        exact fun row member => member
      · rw [store]
        exact fun row member _ => member

/-- Every read of the consumer gives the row, or as many earlier ones as it has asked for. -/
def Readable (name : String) (spool : DurableMeterSpool) (row : StoredRecord) : Prop :=
  ∀ limit, 1 ≤ limit → limit ≤ 4096 → ∃ page, spool.readAfter name limit = .ok page ∧
    (row ∈ page ∨ page.length = limit ∧ ∀ earlier ∈ page, earlier.cursor < row.cursor)

/-- What the consumer can rely on. -/
structure Served (name : String) (spool : DurableMeterSpool) (reader : Reader) : Prop where
  inOrder : reader.processed.Pairwise (fun earlier later => earlier.cursor < later.cursor)
  accepted : ∀ cursor, reader.last = some cursor →
    ∃ after, spool.acknowledge name cursor = .ok after
  accounted : ∀ row ∈ reader.committed, row ∈ reader.processed ∨
    (∃ acknowledged, spool.acknowledgedCursor name = some acknowledged ∧
      row ∈ spool.store.records ∧ acknowledged < row.cursor ∧ Readable name spool row) ∨
    row ∈ reader.evicted
  counted : reader.evicted.length ≤ spool.droppedUnacknowledged

theorem readable_stored {name : String} {spool : DurableMeterSpool} {acknowledged : Nat}
    {row : StoredRecord} (registered : spool.acknowledgedCursor name = some acknowledged)
    (ordered : spool.store.records.Pairwise (fun earlier later => earlier.cursor < later.cursor))
    (stored : row ∈ spool.store.records) (past : acknowledged < row.cursor) :
    Readable name spool row := by
  intro limit positive bounded
  have rows : spool.readAfter name limit =
      .ok ((spool.store.records.filter (fun row => acknowledged < row.cursor)).take limit) := by
    unfold DurableMeterSpool.readAfter
    rw [if_neg (by omega), registered]
  refine ⟨_, rows, ?_⟩
  have kept : row ∈ spool.store.records.filter (fun row => acknowledged < row.cursor) :=
    List.mem_filter.mpr ⟨stored, decide_eq_true past⟩
  have sorted := ordered.filter (fun row => decide (acknowledged < row.cursor))
  generalize spool.store.records.filter (fun row => acknowledged < row.cursor) = ahead
    at kept sorted
  rw [← List.take_append_drop limit ahead] at kept sorted
  rcases List.mem_append.mp kept with front | rest
  · exact .inl front
  · right
    have longer : limit < ahead.length := by
      have some := List.length_pos_of_mem rest
      rw [List.length_drop] at some
      omega
    refine ⟨List.length_take_of_le (Nat.le_of_lt longer), fun earlier member => ?_⟩
    exact (List.pairwise_append.mp sorted).2.2 earlier member row rest

theorem following_served {name : String} {spool : DurableMeterSpool} {reader : Reader}
    {acknowledged : Nat} (wellFormed : WellFormed spool.store)
    (following : Following name spool reader acknowledged) : Served name spool reader := by
  constructor
  · exact following.processedOrder
  · intro cursor last
    exact acknowledge_accepted following.registered (following.pending cursor last).2
  · intro row member
    rcases following.accounted row member with done | ⟨stored, past⟩ | gone
    · exact .inl done
    · exact .inr (.inl ⟨acknowledged, following.registered, stored, past,
        readable_stored following.registered wellFormed.ordered stored past⟩)
    · exact .inr (.inr gone)
  · exact following.counted

/-- The others keep to themselves. -/
def Undisturbing (name : String) (_ : Device × Reader) : Turn → Prop
  | .outside event => Bystander name event
  | _ => True

/-- The condition on the switches among the turns. -/
def TurnReaches (name : String) (state : Device × Reader) : Turn → Prop
  | .outside event => SwitchReaches name state.1 event
  | _ => True

theorem read_answer {device : Device} {spool : DurableMeterSpool}
    (current : device.spool = some spool) (name : String) (limit : Nat) :
    (∃ rows, spool.readAfter name limit = .ok rows ∧
        machine.answer device (.read name limit) = .rows rows) ∨
      ∃ failure, machine.answer device (.read name limit) = .failed failure := by
  cases outcome : spool.readAfter name limit with
  | error failure =>
      right
      exact ⟨failure, by simp [Machine.answer, machine, onSpool, current, outcome]⟩
  | ok rows =>
      left
      exact ⟨rows, rfl, by simp [Machine.answer, machine, onSpool, current, outcome]⟩

theorem acknowledge_next {device : Device} {spool after : DurableMeterSpool} {name : String}
    {cursor : Nat} (current : device.spool = some spool)
    (returned : spool.acknowledge name cursor = .ok after) :
    machine.next device (.acknowledge name cursor) = { device with spool := some after } := by
  simp [Machine.next, machine, onSpool, current, returned]

theorem register_next {device : Device} {spool after : DurableMeterSpool} {name : String}
    (current : device.spool = some spool) (returned : spool.registerConsumer name = .ok after) :
    machine.next device (.register name) = { device with spool := some after } := by
  simp [Machine.next, machine, onSpool, current, returned]

theorem switchReaches_quiet {name : String} {device : Device} {event : Event}
    (quiet : ∀ policy clockMilliseconds written copied,
      event ≠ .applyPolicy policy clockMilliseconds written copied) :
    SwitchReaches name device event := by
  intro spool replacement clockMilliseconds written current constructs
  cases constructs with
  | start closed opened =>
      rw [current] at closed
      cases closed
  | switch found different opened => exact absurd rfl (quiet _ _ _ _)

theorem turn_attending {name : String} (state : Device × Reader) (turn : Turn)
    (allowed : Undisturbing name state turn ∧ TurnReaches name state turn)
    (attending : Attending name state) : Attending name ((reading name).next state turn) := by
  rcases state with ⟨device, reader⟩
  cases turn with
  | outside event => exact outside_following attending allowed.1 allowed.2
  | read limit =>
      rcases attending with ⟨behind, spool, acknowledged, current, following⟩
      simp only at current following behind
      have formed := behind.formed.spool spool current
      cases idle : reader.last with
      | some cursor =>
          simp only [Machine.next, reading, idle]
          exact ⟨behind, spool, acknowledged, current, following⟩
      | none =>
          rcases read_answer current name limit with ⟨rows, returned, same⟩ | ⟨failure, same⟩
          · have followed := following_read formed.wellFormed following idle returned
            simp only [idle] at followed
            simp only [Machine.next, reading, idle, same]
            exact ⟨behind, spool, acknowledged, current, followed⟩
          · simp only [Machine.next, reading, idle, same]
            exact ⟨behind, spool, acknowledged, current, following⟩
  | process =>
      rcases attending with ⟨behind, spool, acknowledged, current, following⟩
      cases page : reader.page with
      | nil =>
          simp only [Machine.next, reading, page]
          exact ⟨behind, spool, acknowledged, current, following⟩
      | cons row rest =>
          simp only [Machine.next, reading, page]
          exact ⟨behind, spool, acknowledged, current, following_process following page⟩
  | acknowledge =>
      rcases attending with ⟨behind, spool, acknowledged, current, following⟩
      simp only at current following behind
      have formed := behind.formed.spool spool current
      cases last : reader.last with
      | none =>
          simp only [Machine.next, reading, last]
          exact ⟨behind, spool, acknowledged, current, following⟩
      | some cursor =>
          rcases acknowledge_accepted following.registered (following.pending cursor last).2 with
            ⟨after, returned⟩
          have quiet : SwitchReaches name device (.acknowledge name cursor) := by
            apply switchReaches_quiet
            intro policy clockMilliseconds written copied same
            cases same
          have kept := step_behind behind quiet (step_cases device (.acknowledge name cursor))
          rw [acknowledge_next current returned] at kept
          simp only [Machine.next, reading, last]
          refine ⟨?_, after, cursor, ?_, ?_⟩
          · change DeviceBehind name (machine.next device (.acknowledge name cursor))
            rw [acknowledge_next current returned]
            exact kept
          · change (machine.next device (.acknowledge name cursor)).spool = some after
            rw [acknowledge_next current returned]
          · exact following_acknowledge formed.wellFormed following last returned

theorem register_accepted {name : String} (named : name ≠ "") (spool : DurableMeterSpool) :
    ∃ after acknowledged, spool.registerConsumer name = .ok after ∧
      after.acknowledgedCursor name = some acknowledged := by
  unfold DurableMeterSpool.registerConsumer
  rw [if_neg named]
  by_cases known : ∃ consumer ∈ spool.store.consumers, consumer.name = name
  · rw [if_pos known]
    cases found : spool.store.consumers.find? (fun consumer => consumer.name = name) with
    | none =>
        rcases known with ⟨consumer, member, same⟩
        have absent := List.find?_eq_none.mp found consumer member
        simp [same] at absent
    | some consumer =>
        refine ⟨spool, consumer.acknowledgedCursor, rfl, ?_⟩
        rw [DurableMeterSpool.acknowledgedCursor, found, Option.map_some]
  · rw [if_neg known]
    refine ⟨_, 0, rfl, ?_⟩
    have absent : spool.store.consumers.find? (fun consumer => consumer.name = name) = none := by
      rw [List.find?_eq_none]
      intro consumer member same
      exact known ⟨consumer, member, of_decide_eq_true same⟩
    simp [DurableMeterSpool.acknowledgedCursor, List.find?_append, absent]

theorem following_start {name : String} {spool : DurableMeterSpool} {acknowledged : Nat}
    (registered : spool.acknowledgedCursor name = some acknowledged)
    (behind : Behind name spool.store) : Following name spool {} acknowledged where
  registered := registered
  behind := behind
  processedOrder := List.Pairwise.nil
  processedBelow := fun _ member => absurd member List.not_mem_nil
  pending := fun _ last => nomatch last
  pageOrder := List.Pairwise.nil
  pageAhead := fun _ member => absurd member List.not_mem_nil
  caughtUp := by
    intro row _ past reached
    change row.cursor ≤ acknowledged at reached
    omega
  unskipped := fun _ _ _ _ _ member => absurd member List.not_mem_nil
  accounted := fun _ member => absurd member List.not_mem_nil
  counted := Nat.zero_le _

/-- The device when the consumer has registered with the session that is open after some
events. -/
def registeredDevice (name : String) (before : List Event) : Device :=
  machine.run {} (before ++ [.register name])

/-- A registered consumer gets every record that is committed, in cursor order, unless the
byte cap took it and it was counted. -/
theorem consumer_served (name : String) (named : name ≠ "") (before : List Event)
    (opened : (machine.run {} before).spool ≠ none) (turns : List Turn)
    (undisturbing : (reading name).Along (Undisturbing name) (registeredDevice name before, {})
      turns)
    (reached : machine.Along (SwitchReaches name) {} before)
    (reaches : (reading name).Along (TurnReaches name) (registeredDevice name before, {}) turns) :
    ∃ spool, ((reading name).run (registeredDevice name before, {}) turns).1.spool = some spool ∧
      Served name spool ((reading name).run (registeredDevice name before, {}) turns).2 := by
  have empty : DeviceBehind name {} := by
    refine ⟨⟨wellFormed_empty 0, fun _ absent => nomatch absent⟩, ?_,
      fun _ absent => nomatch absent⟩
    intro consumer member
    exact absurd member List.not_mem_nil
  have behind := machine.along_invariant (SwitchReaches name) (DeviceBehind name)
    (fun device event holds kept => step_behind kept holds (step_cases device event)) {} empty
    before reached
  have quiet : SwitchReaches name (machine.run {} before) (.register name) :=
    switchReaches_quiet (fun _ _ _ _ same => nomatch same)
  have registered := step_behind behind quiet (step_cases _ (.register name))
  have start : Attending name (registeredDevice name before, {}) := by
    cases current : (machine.run {} before).spool with
    | none => exact absurd current opened
    | some spool =>
        rcases register_accepted named spool with ⟨after, acknowledged, accepted, known⟩
        have next : machine.next (machine.run {} before) (.register name) =
            { machine.run {} before with spool := some after } := register_next current accepted
        unfold registeredDevice
        rw [machine.run_concat]
        refine ⟨registered, after, acknowledged, ?_, ?_⟩
        · simp only [next]
        · apply following_start known
          apply registered.spool
          rw [next]
  have attending := (reading name).along_invariant _ (Attending name) turn_attending
    (registeredDevice name before, {}) start turns
    ((reading name).along_and undisturbing reaches)
  rcases attending with ⟨behind, spool, acknowledged, current, following⟩
  exact ⟨spool, current, following_served (behind.formed.spool spool current).wellFormed following⟩

def ageingPolicy (backend : StorageBackend) : DatabaseStoragePolicy :=
  ⟨backend, { maximumAgeSeconds := some 1 }⟩

/-- A session whose lease write failed while an older lease was in place. -/
def staleSession : List Event :=
  [.start volatilePolicy 1000 true, .crash, .start (ageingPolicy .memory) 2000 false]

/-- Everything is acknowledged and aged out before the backend is switched. -/
def switchedTurns : List Turn :=
  [.outside (.publish [voltageRecord] (.ok ())), .read 16, .process, .acknowledge,
    .outside (.prune 5000000000 true .finished),
    .outside (.applyPolicy (ageingPolicy .persistent) 3000 true (.ok ())),
    .outside (.publish [currentRecord] (.ok ()))]

/-- The replacement restarts from the stale lease, at or below what the consumer has
acknowledged: the record published after the switch is never read. -/
theorem switchedTurns_lose :
    ¬ ∀ (name : String) (before : List Event) (turns : List Turn), name ≠ "" →
      (machine.run {} before).spool ≠ none →
        (reading name).Along (Undisturbing name) (registeredDevice name before, {}) turns →
          ∃ spool,
            ((reading name).run (registeredDevice name before, {}) turns).1.spool = some spool ∧
              Served name spool
                ((reading name).run (registeredDevice name before, {}) turns).2 := by
  intro claim
  have undisturbing : (reading "historian").Along (Undisturbing "historian")
      (registeredDevice "historian" staleSession, {}) switchedTurns :=
    ⟨trivial, trivial, trivial, trivial, trivial, trivial, trivial, trivial⟩
  rcases claim "historian" staleSession switchedTurns (by decide) (by intro closed; cases closed)
    undisturbing with ⟨spool, current, served⟩
  have lost := served.accounted
    (storedRecord (1001 + cursorLeaseReservation) Int64.minValue currentRecord)
    (List.mem_cons_of_mem _ List.mem_cons_self)
  cases current
  rcases lost with done | ⟨acknowledged, registered, -, past, -⟩ | gone
  · have only := List.mem_singleton.mp done
    exact absurd only (by decide)
  · cases registered
    exact absurd past (by decide)
  · exact absurd gone List.not_mem_nil

/-- The same turns after a session whose lease write succeeded. -/
def leasedSession : List Event :=
  [.start volatilePolicy 1000 true, .crash, .start (ageingPolicy .memory) 2000 true]

theorem leasedSession_served :
    ∃ spool, ((reading "historian").run (registeredDevice "historian" leasedSession, {})
        switchedTurns).1.spool = some spool ∧
      Served "historian" spool ((reading "historian").run
        (registeredDevice "historian" leasedSession, {}) switchedTurns).2 := by
  apply consumer_served "historian" (by decide) leasedSession (by intro closed; cases closed)
    switchedTurns
  · exact ⟨trivial, trivial, trivial, trivial, trivial, trivial, trivial, trivial⟩
  · refine ⟨?_, ?_, ?_, trivial⟩
    all_goals exact switchReaches_quiet (fun _ _ _ _ same => nomatch same)
  · refine ⟨?_, trivial, trivial, trivial, ?_, ?_, ?_, trivial⟩
    · exact switchReaches_quiet (fun _ _ _ _ same => nomatch same)
    · exact switchReaches_quiet (fun _ _ _ _ same => nomatch same)
    · intro spool replacement clockMilliseconds written current constructs consumer member named
      cases constructs with
      | switch found different opened =>
          cases current
          rw [openSpool_ok opened, List.mem_singleton.mp member]
          decide
    · exact switchReaches_quiet (fun _ _ _ _ same => nomatch same)

end Msap1.Spool
