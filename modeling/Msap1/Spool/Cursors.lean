import Msap1.Spool.Durability

/-! Which cursors a path hands out over all its sessions, and what keeps them apart: the
lease file, the sequence of the open database and, before there is a lease, the clock. -/

namespace Msap1.Spool

/-- What has been handed out so far, beside the device. -/
structure Issuance where
  assigned : List StoredRecord := []
  /-- The cursors handed out before the first lease file existed. -/
  unleased : List Nat := []
  /-- Cursors since the last prune that found a record, or since the session began. -/
  sinceFound : Nat := 0
  seed : Nat := 0
  /-- The newest cursor seen by the last prune that found a record and wrote the lease if it
  was due, or the seed. -/
  covered : Nat := 0

def assignedRows (spool : DurableMeterSpool) (records : List MeterStreamRecord)
    (committed : Except Failure Unit) : List StoredRecord :=
  match spool.publishRecords records committed with
  | .error _ => []
  | .ok (_, after) => after.store.records.filter (fun row => spool.store.sequence < row.cursor)

def leaseDue (spool : DurableMeterSpool) : Bool :=
  !decide (spool.store.newest + cursorLeaseRenewalMargin < spool.cursorLease)

def Issuance.publish (history : Issuance) (lease : Nat) (rows : List StoredRecord) : Issuance :=
  { history with
    assigned := history.assigned ++ rows
    unleased := if lease = 0 then history.unleased ++ rows.map StoredRecord.cursor
      else history.unleased
    sinceFound := history.sinceFound + rows.length }

def Issuance.construct (history : Issuance) (spool : DurableMeterSpool) : Issuance :=
  { history with seed := spool.sessionStartCursor, covered := spool.sessionStartCursor }

def Issuance.prune (history : Issuance) (spool : DurableMeterSpool) (written : Bool) : Issuance :=
  if spool.store.records = [] then history
  else { history with
    sinceFound := 0
    covered := if leaseDue spool && !written then history.covered
      else max history.seed spool.store.newest }

def noteIssuance (device : Device) (history : Issuance) : Event → Answer → Issuance
  | .start policy clockMilliseconds _, .done =>
      match openSpool device.lease (device.target policy.backend) policy clockMilliseconds with
      | .error _ => history
      | .ok spool => { history.construct spool with sinceFound := 0 }
  | .publish records committed, .cursors _ => match device.spool with
    | none => history
    | some spool => history.publish device.lease (assignedRows spool records committed)
  | .prune _ written _, .done => match device.spool with
    | none => history
    | some spool => history.prune spool written
  | .applyPolicy policy clockMilliseconds _ _, .done => match device.spool with
    | none => history
    | some spool =>
        if policy.backend = spool.policy.backend then history
        else match openSpool device.lease (device.target policy.backend) policy
            clockMilliseconds with
          | .error _ => history
          | .ok replacement => history.construct replacement
  | _, _ => history

def issuing : Machine (Device × Issuance) Event Answer := machine.traced noteIssuance

/-- No cursor is handed out twice. -/
def Issuance.Unrepeated (history : Issuance) : Prop :=
  history.assigned.Pairwise (fun earlier later => earlier.cursor ≠ later.cursor)

/-- The event constructs a spool, at some time and with some outcome of its lease write; a
switch of the backend then copies into it, which may fail. -/
inductive Constructs (device : Device) :
    Event → DurableMeterSpool → Nat → Bool → Except Failure Unit → Prop where
  | start {policy clockMilliseconds written spool} (closed : device.spool = none)
      (opened : openSpool device.lease (device.target policy.backend) policy clockMilliseconds =
        .ok spool) :
      Constructs device (.start policy clockMilliseconds written) spool clockMilliseconds
        written (.ok ())
  | switch {policy clockMilliseconds written copied spool replacement}
      (current : device.spool = some spool) (different : policy.backend ≠ spool.policy.backend)
      (opened : openSpool device.lease (device.target policy.backend) policy clockMilliseconds =
        .ok replacement) :
      Constructs device (.applyPolicy policy clockMilliseconds written copied) replacement
        clockMilliseconds written copied

/-- At each construction the clock is past what was handed out before the first lease. -/
def Timely (state : Device × Issuance) (event : Event) : Prop :=
  ∀ replacement clockMilliseconds written copied,
    Constructs state.1 event replacement clockMilliseconds written copied →
      ∀ cursor ∈ state.2.unleased, cursor < clockMilliseconds

/-- The rates a path is meant for: between two prunes that find a record, and before the first
one of a session, less than the renewal margin is handed out. -/
def Paced (state : Device × Issuance) (_ : Event) : Prop :=
  state.2.sinceFound < cursorLeaseRenewalMargin

/-- What keeps the lease file ahead of the sequence. -/
structure Leased (state : Device × Issuance) (event : Event) : Prop where
  written : state.1.lease ≠ 0 → ∀ replacement clockMilliseconds written,
    Constructs state.1 event replacement clockMilliseconds written (.ok ()) → written = true
  ahead : state.1.lease = 0 → ∀ spool, state.1.spool = some spool →
    ∀ replacement clockMilliseconds written failure,
      Constructs state.1 event replacement clockMilliseconds written (.error failure) →
        spool.store.sequence ≤ replacement.sessionStartCursor
  covered : state.1.lease ≠ 0 → ∀ spool, state.1.spool = some spool →
    spool.store.sequence < state.2.covered + cursorLeaseRenewalMargin

/-- An open spool hands out cursors above all earlier ones, and the lease file, once there is
one, stays ahead of what it may hand out until the next prune. -/
structure Guarded (lease : Nat) (spool : DurableMeterSpool) (history : Issuance) : Prop where
  below : ∀ row ∈ history.assigned, row.cursor ≤ spool.store.sequence
  seeded : history.seed ≤ history.covered
  reached : history.covered ≤ spool.store.sequence
  reserved : history.seed + cursorLeaseReservation ≤ spool.cursorLease
  unwritten : lease = 0 → spool.cursorLease = history.seed + cursorLeaseReservation
  fileAhead : lease ≠ 0 → history.covered + cursorLeaseRenewalMargin ≤ lease
  fileKnown : lease ≠ 0 → spool.cursorLease ≤ lease

structure Separate (state : Device × Issuance) : Prop where
  formed : DeviceFormed state.1
  unrepeated : state.2.Unrepeated
  opened : ∀ spool, state.1.spool = some spool → Guarded state.1.lease spool state.2
  closed : state.1.spool = none → state.1.lease ≠ 0 →
    ∀ row ∈ state.2.assigned, row.cursor ≤ state.1.lease
  early : state.1.lease = 0 → ∀ row ∈ state.2.assigned, row.cursor ∈ state.2.unleased

theorem noteIssuance_unchanged (device : Device) (history : Issuance) (event : Event)
    {answer : Answer} (kind : answer = .ignored ∨ ∃ failure, answer = .failed failure) :
    noteIssuance device history event answer = history := by
  rcases kind with rfl | ⟨failure, rfl⟩
  · cases event <;> rfl
  · cases event <;> rfl

section Publication

variable {spool after : DurableMeterSpool} {records : List MeterStreamRecord}
  {committed : Except Failure Unit} {cursors : List Nat}

theorem assignedRows_numbered (wellFormed : WellFormed spool.store)
    (returned : spool.publishRecords records committed = .ok (cursors, after)) :
    (assignedRows spool records committed).map StoredRecord.cursor =
        List.range' (spool.store.sequence + 1) (assignedRows spool records committed).length ∧
      after.store.sequence =
        spool.store.sequence + (assignedRows spool records committed).length ∧
      after.cursorLease = spool.cursorLease := by
  rcases publishRecords_cases wellFormed returned with
    ⟨publication, added, taken, kept, progress, settled, -⟩
  have rows : assignedRows spool records committed = added := by
    simp only [assignedRows, returned]
    rw [settled.records, List.filter_append]
    have old : kept.filter (fun row => spool.store.sequence < row.cursor) = [] := by
      rw [List.filter_eq_nil_iff]
      intro row member
      have inside : row ∈ spool.store.records := by
        rw [settled.before]
        exact List.mem_append_right taken member
      have reached := (wellFormed.numbered row inside).2
      simp only [decide_eq_true_eq, not_lt]
      exact reached
    have new : added.filter (fun row => spool.store.sequence < row.cursor) = added := by
      rw [List.filter_eq_self]
      intro row member
      have numbered : row.cursor ∈ added.map StoredRecord.cursor := List.mem_map_of_mem member
      rw [progress.cursors, List.mem_range'_1] at numbered
      simp only [decide_eq_true_eq]
      omega
    rw [old, new, List.nil_append]
  rw [rows]
  exact ⟨progress.cursors, settled.sequence, settled.lease⟩

theorem assignedRows_bounds (wellFormed : WellFormed spool.store)
    (returned : spool.publishRecords records committed = .ok (cursors, after))
    {row : StoredRecord} (member : row ∈ assignedRows spool records committed) :
    spool.store.sequence < row.cursor ∧ row.cursor ≤ after.store.sequence := by
  rcases assignedRows_numbered wellFormed returned with ⟨numbered, sequence, -⟩
  have inside : row.cursor ∈ (assignedRows spool records committed).map StoredRecord.cursor :=
    List.mem_map_of_mem member
  rw [numbered, List.mem_range'_1] at inside
  omega

theorem publish_unrepeated (wellFormed : WellFormed spool.store)
    (returned : spool.publishRecords records committed = .ok (cursors, after))
    {history : Issuance} (lease : Nat) (unrepeated : history.Unrepeated)
    (below : ∀ row ∈ history.assigned, row.cursor ≤ spool.store.sequence) :
    (history.publish lease (assignedRows spool records committed)).Unrepeated := by
  have distinct : (assignedRows spool records committed).Pairwise
      (fun earlier later => earlier.cursor ≠ later.cursor) := by
    rw [← List.pairwise_map, (assignedRows_numbered wellFormed returned).1]
    exact List.nodup_range'
  unfold Issuance.Unrepeated Issuance.publish
  rw [List.pairwise_append]
  refine ⟨unrepeated, distinct, ?_⟩
  intro earlier old later new
  have reached := below earlier old
  have above := (assignedRows_bounds wellFormed returned new).1
  omega

theorem publish_guarded (wellFormed : WellFormed spool.store)
    (returned : spool.publishRecords records committed = .ok (cursors, after))
    {history : Issuance} {lease : Nat} (guarded : Guarded lease spool history) :
    Guarded lease after (history.publish lease (assignedRows spool records committed)) := by
  rcases assignedRows_numbered wellFormed returned with ⟨-, sequence, leased⟩
  have reached := guarded.reached
  constructor
  · intro row member
    rcases List.mem_append.mp member with old | new
    · have below := guarded.below row old
      omega
    · exact (assignedRows_bounds wellFormed returned new).2
  · exact guarded.seeded
  · simp only [Issuance.publish]
    omega
  · rw [leased]
    exact guarded.reserved
  · rw [leased]
    exact guarded.unwritten
  · exact guarded.fileAhead
  · rw [leased]
    exact guarded.fileKnown

end Publication

theorem seed_bounds (lease : Nat) (target : Store) (clockMilliseconds : Nat) :
    lease ≤ seedCursor lease target clockMilliseconds ∧
      (lease = 0 → clockMilliseconds ≤ seedCursor lease target clockMilliseconds) := by
  unfold seedCursor
  split <;> omega

theorem writeCursorLease_cases (lease value : Nat) (written : Bool) :
    writeCursorLease lease value written = value ∧ written = true ∨
      writeCursorLease lease value written = lease ∧ written = false := by
  cases written with
  | true => exact .inl ⟨rfl, rfl⟩
  | false => exact .inr ⟨rfl, rfl⟩

section Construction

variable {lease : Nat} {target : Store} {policy : DatabaseStoragePolicy}
  {clockMilliseconds : Nat} {spool : DurableMeterSpool}

theorem opened_facts
    (opened : openSpool lease target policy clockMilliseconds = .ok spool) :
    spool.sessionStartCursor ≤ spool.store.sequence ∧
      spool.cursorLease = spool.sessionStartCursor + cursorLeaseReservation ∧
      lease ≤ spool.sessionStartCursor ∧
      (lease = 0 → clockMilliseconds ≤ spool.sessionStartCursor) := by
  rw [openSpool_ok opened]
  exact ⟨le_max_right _ _, rfl, seed_bounds lease target clockMilliseconds⟩

theorem construct_guarded {history : Issuance}
    (opened : openSpool lease target policy clockMilliseconds = .ok spool) (written : Bool)
    (past : ∀ row ∈ history.assigned, row.cursor ≤ spool.sessionStartCursor)
    (confirmed : lease ≠ 0 → written = true) :
    Guarded (writeCursorLease lease spool.cursorLease written) spool (history.construct spool) := by
  rcases opened_facts opened with ⟨started, reserved, -, -⟩
  have file : writeCursorLease lease spool.cursorLease written ≠ 0 →
      writeCursorLease lease spool.cursorLease written = spool.cursorLease := by
    intro present
    rcases writeCursorLease_cases lease spool.cursorLease written with
      ⟨same, -⟩ | ⟨same, failed⟩
    · exact same
    · rw [same] at present
      rw [confirmed present] at failed
      cases failed
  constructor
  · intro row member
    exact le_trans (past row member) started
  · exact le_refl _
  · exact started
  · exact ge_of_eq reserved
  · intro _
    exact reserved
  · intro present
    rw [file present, reserved]
    simp only [Issuance.construct, cursorLeaseRenewalMargin, cursorLeaseReservation]
    omega
  · intro present
    rw [file present]

end Construction

theorem migrate_guarded {lease : Nat} {source replacement : DurableMeterSpool}
    {history : Issuance} (guarded : Guarded lease replacement history) :
    Guarded lease (migrate source replacement) history := by
  have raised : replacement.store.sequence ≤ (migrate source replacement).store.sequence :=
    le_max_left _ _
  exact { guarded with
    below := fun row member => le_trans (guarded.below row member) raised
    reached := le_trans guarded.reached raised }

theorem renew_cases (lease : Nat) (spool : DurableMeterSpool) (written : Bool) :
    leaseDue spool = false ∧ (renewCursorLease lease spool written).1 = lease ∧
        (renewCursorLease lease spool written).2.cursorLease = spool.cursorLease ∨
      leaseDue spool = true ∧ written = true ∧
        (renewCursorLease lease spool written).1 =
          spool.store.newest + cursorLeaseReservation ∧
        (renewCursorLease lease spool written).2.cursorLease =
          spool.store.newest + cursorLeaseReservation ∨
      leaseDue spool = true ∧ written = false ∧
        (renewCursorLease lease spool written).1 = lease ∧
        (renewCursorLease lease spool written).2.cursorLease = spool.cursorLease := by
  unfold renewCursorLease leaseDue
  split
  · next early => exact .inl ⟨by simpa using early, rfl, rfl⟩
  · next due =>
      have true_due : (!decide (spool.store.newest + cursorLeaseRenewalMargin <
          spool.cursorLease)) = true := by simpa using due
      cases written with
      | true => exact .inr (.inl ⟨true_due, rfl, rfl, rfl⟩)
      | false => exact .inr (.inr ⟨true_due, rfl, rfl, rfl⟩)

theorem guarded_after {lease file : Nat} {spool after : DurableMeterSpool}
    {history noted : Issuance} (guarded : Guarded lease spool history)
    (assigned : noted.assigned = history.assigned) (seed : noted.seed = history.seed)
    (sequence : after.store.sequence = spool.store.sequence)
    (seeded : noted.seed ≤ noted.covered) (reached : noted.covered ≤ spool.store.sequence)
    (change : file = lease ∧ after.cursorLease = spool.cursorLease ∧
        (lease ≠ 0 → noted.covered + cursorLeaseRenewalMargin ≤ lease) ∨
      file = after.cursorLease ∧ spool.cursorLease ≤ after.cursorLease ∧ file ≠ 0 ∧
        noted.covered + cursorLeaseRenewalMargin ≤ file) :
    Guarded file after noted := by
  have below := guarded.below
  have reserved := guarded.reserved
  rcases change with ⟨rfl, same, ahead⟩ | ⟨rfl, raised, present, ahead⟩
  · constructor
    · rwa [assigned, sequence]
    · exact seeded
    · rwa [sequence]
    · rwa [seed, same]
    · rw [seed, same]
      exact guarded.unwritten
    · exact ahead
    · rw [same]
      exact guarded.fileKnown
  · constructor
    · rwa [assigned, sequence]
    · exact seeded
    · rwa [sequence]
    · rw [seed]
      exact le_trans reserved raised
    · intro absent
      exact absurd absent present
    · intro _
      exact ahead
    · intro _
      exact le_refl _

theorem noted_prune {spool : DurableMeterSpool} (history : Issuance) (written : Bool)
    (found : spool.store.records ≠ []) :
    (history.prune spool written).assigned = history.assigned ∧
      (history.prune spool written).seed = history.seed ∧
      (history.prune spool written).covered =
        if leaseDue spool && !written then history.covered
        else max history.seed spool.store.newest := by
  unfold Issuance.prune
  rw [if_neg found]
  exact ⟨rfl, rfl, rfl⟩

theorem noted_rows (history : Issuance) (spool : DurableMeterSpool) (written : Bool) :
    (history.prune spool written).assigned = history.assigned ∧
      (history.prune spool written).unleased = history.unleased := by
  unfold Issuance.prune
  split <;> exact ⟨rfl, rfl⟩

theorem prune_absent {lease : Nat} {spool : DurableMeterSpool} {nowNanoseconds : Int}
    {written : Bool} {progress : PruneProgress} (formed : Formed spool)
    (absent : (prune lease spool nowNanoseconds written progress).1 = 0) : lease = 0 := by
  rw [(prune_spec spool lease nowNanoseconds written progress formed).lease] at absent
  rcases renew_cases lease spool written with ⟨-, same, -⟩ | ⟨-, -, same, -⟩ | ⟨-, -, same, -⟩
  · rwa [same] at absent
  · rw [same, cursorLeaseReservation] at absent
    omega
  · rwa [same] at absent

theorem prune_guarded {lease : Nat} {spool : DurableMeterSpool} {history : Issuance}
    (formed : Formed spool) (guarded : Guarded lease spool history) (nowNanoseconds : Int)
    (written : Bool) (progress : PruneProgress) :
    Guarded (prune lease spool nowNanoseconds written progress).1
      (prune lease spool nowNanoseconds written progress).2 (history.prune spool written) := by
  have pruned := prune_spec spool lease nowNanoseconds written progress formed
  have file := pruned.lease
  have known := pruned.cursorLease
  have sequence := pruned.trimmed.sequence
  have newest := newest_le_sequence formed.wellFormed
  have reserved := guarded.reserved
  have seeded := guarded.seeded
  have reached := guarded.reached
  have fileKnown := guarded.fileKnown
  have notDue : leaseDue spool = false →
      spool.store.newest + cursorLeaseRenewalMargin < spool.cursorLease := by
    simp [leaseDue]
  have due : leaseDue spool = true →
      spool.cursorLease ≤ spool.store.newest + cursorLeaseRenewalMargin := by
    simp [leaseDue]
  generalize prune lease spool nowNanoseconds written progress = after at file known sequence ⊢
  simp only [cursorLeaseRenewalMargin, cursorLeaseReservation] at notDue due reserved
  by_cases empty : spool.store.records = []
  · have nothing : spool.store.newest = 0 := by simp [Store.newest, empty]
    have noted : history.prune spool written = history := if_pos empty
    rw [noted]
    apply guarded_after guarded rfl rfl sequence seeded reached
    rcases renew_cases lease spool written with ⟨-, kept, same⟩ | ⟨late, -⟩ | ⟨late, -⟩
    · exact .inl ⟨file.trans kept, known.trans same, guarded.fileAhead⟩
    · have contradiction := due late
      omega
    · have contradiction := due late
      omega
  · rcases noted_prune history written empty with ⟨assigned, seed, covered⟩
    generalize history.prune spool written = noted at assigned seed covered ⊢
    rcases renew_cases lease spool written with ⟨early, kept, same⟩ |
      ⟨late, success, renewed, raised⟩ | ⟨late, failed, kept, same⟩
    · have room := notDue early
      rw [early, Bool.false_and, if_neg Bool.false_ne_true] at covered
      apply guarded_after guarded assigned seed sequence
      · omega
      · omega
      · refine .inl ⟨file.trans kept, known.trans same, ?_⟩
        intro present
        have ahead := fileKnown present
        simp only [cursorLeaseRenewalMargin]
        omega
    · have reachedLease := due late
      have passed : history.seed ≤ spool.store.newest := by omega
      rw [success, Bool.not_true, Bool.and_false, if_neg Bool.false_ne_true,
        max_eq_right passed] at covered
      apply guarded_after guarded assigned seed sequence
      · omega
      · omega
      · right
        rw [file, known, renewed, raised, covered, cursorLeaseRenewalMargin,
          cursorLeaseReservation]
        exact ⟨rfl, by omega, by omega, by omega⟩
    · rw [late, failed, Bool.not_false, Bool.and_true, if_pos rfl] at covered
      apply guarded_after guarded assigned seed sequence
      · omega
      · omega
      · refine .inl ⟨file.trans kept, known.trans same, ?_⟩
        rw [covered]
        exact guarded.fileAhead

theorem assigned_below_seed {state : Device × Issuance} (separate : Separate state)
    {event : Event} (timely : Timely state event) (leased : Leased state event)
    {replacement : DurableMeterSpool} {clockMilliseconds : Nat} {written : Bool}
    {copied : Except Failure Unit}
    (constructs : Constructs state.1 event replacement clockMilliseconds written copied) :
    ∀ row ∈ state.2.assigned, row.cursor ≤ replacement.sessionStartCursor := by
  intro row member
  have facts : state.1.lease ≤ replacement.sessionStartCursor ∧
      (state.1.lease = 0 → clockMilliseconds ≤ replacement.sessionStartCursor) := by
    cases constructs with
    | start closed opened => exact (opened_facts opened).2.2
    | switch current different opened => exact (opened_facts opened).2.2
  by_cases absent : state.1.lease = 0
  · have early := timely _ _ _ _ constructs row.cursor (separate.early absent row member)
    have clock := facts.2 absent
    omega
  · cases current : state.1.spool with
    | none =>
        have below := separate.closed current absent row member
        omega
    | some spool =>
        have guarded := separate.opened spool current
        have below := guarded.below row member
        have bounded := leased.covered absent spool current
        have ahead := guarded.fileAhead absent
        omega

theorem noted_publish {device : Device} {spool : DurableMeterSpool}
    (current : device.spool = some spool) (history : Issuance)
    (records : List MeterStreamRecord) (committed : Except Failure Unit) (cursors : List Nat) :
    noteIssuance device history (.publish records committed) (.cursors cursors) =
      history.publish device.lease (assignedRows spool records committed) := by
  simp only [noteIssuance, current]

theorem separate_kept {device after : Device} {history : Issuance}
    {spool changed : DurableMeterSpool} (separate : Separate (device, history))
    (formed : DeviceFormed after) (current : device.spool = some spool)
    (open_ : after.spool = some changed) (lease : after.lease = device.lease)
    (sequence : changed.store.sequence = spool.store.sequence)
    (cursorLease : changed.cursorLease = spool.cursorLease) : Separate (after, history) := by
  have guarded := separate.opened spool current
  constructor
  · exact formed
  · exact separate.unrepeated
  · intro other found
    rw [open_] at found
    cases found
    simp only
    rw [lease]
    exact {
      guarded with
      below := by rw [sequence]; exact guarded.below
      reached := by rw [sequence]; exact guarded.reached
      reserved := by rw [cursorLease]; exact guarded.reserved
      unwritten := by rw [cursorLease]; exact guarded.unwritten
      fileKnown := by rw [cursorLease]; exact guarded.fileKnown }
  · intro absent
    rw [open_] at absent
    cases absent
  · simp only
    rw [lease]
    exact separate.early

theorem construct_separate {device after : Device} {history noted : Issuance}
    {spool : DurableMeterSpool} (separate : Separate (device, history))
    (formed : DeviceFormed after) (open_ : after.spool = some spool)
    (assigned : noted.assigned = history.assigned) (unleased : noted.unleased = history.unleased)
    (absent : after.lease = 0 → device.lease = 0) (guarded : Guarded after.lease spool noted) :
    Separate (after, noted) := by
  constructor
  · exact formed
  · have unrepeated := separate.unrepeated
    unfold Issuance.Unrepeated at unrepeated ⊢
    simp only
    rwa [assigned]
  · intro other found
    rw [open_] at found
    cases found
    exact guarded
  · intro closed
    rw [open_] at closed
    cases closed
  · intro none row member
    simp only at member ⊢
    rw [assigned] at member
    rw [unleased]
    exact separate.early (absent none) row member

theorem writeCursorLease_absent {lease value : Nat} {written : Bool} (positive : value ≠ 0)
    (absent : writeCursorLease lease value written = 0) : lease = 0 := by
  rcases writeCursorLease_cases lease value written with ⟨same, -⟩ | ⟨same, -⟩
  · rw [same] at absent
    exact absurd absent positive
  · rwa [same] at absent

theorem cursorLease_positive {lease : Nat} {target : Store} {policy : DatabaseStoragePolicy}
    {clockMilliseconds : Nat} {spool : DurableMeterSpool}
    (opened : openSpool lease target policy clockMilliseconds = .ok spool) :
    spool.cursorLease ≠ 0 := by
  rw [(opened_facts opened).2.1, cursorLeaseReservation]
  omega

theorem switchFailed_guarded {device : Device} {history : Issuance}
    {spool replacement : DurableMeterSpool} {policy : DatabaseStoragePolicy}
    {clockMilliseconds : Nat} {written : Bool}
    (guarded : Guarded device.lease spool history)
    (opened : openSpool device.lease (device.target policy.backend) policy clockMilliseconds =
      .ok replacement)
    (ahead : device.lease = 0 → spool.store.sequence ≤ replacement.sessionStartCursor) :
    Guarded (writeCursorLease device.lease replacement.cursorLease written) spool history := by
  rcases opened_facts opened with ⟨-, reserved, past, -⟩
  have reached := guarded.reached
  have seeded := guarded.seeded
  rcases writeCursorLease_cases device.lease replacement.cursorLease written with
    ⟨same, -⟩ | ⟨same, failed⟩
  · rw [same]
    have larger : history.covered + cursorLeaseRenewalMargin ≤ replacement.cursorLease ∧
        spool.cursorLease ≤ replacement.cursorLease := by
      rw [reserved]
      by_cases absent : device.lease = 0
      · have behind := ahead absent
        rw [guarded.unwritten absent, cursorLeaseRenewalMargin, cursorLeaseReservation]
        omega
      · have file := guarded.fileAhead absent
        have known := guarded.fileKnown absent
        rw [cursorLeaseReservation]
        omega
    exact {
      guarded with
      unwritten := fun absent => absurd absent (cursorLease_positive opened)
      fileAhead := fun _ => larger.1
      fileKnown := fun _ => larger.2 }
  · rw [same]
    exact guarded

theorem step_separate {device after : Device} {history : Issuance} {event : Event}
    {answer : Answer} (separate : Separate (device, history))
    (timely : Timely (device, history) event) (leased : Leased (device, history) event)
    (step : Step device event after answer) :
    Separate (after, noteIssuance device history event answer) := by
  have formed := step_formed separate.formed step
  cases step with
  | ignored =>
      rw [noteIssuance_unchanged device history event (.inl rfl)]
      exact separate
  | refused _ failure =>
      rw [noteIssuance_unchanged device history event (.inr ⟨failure, rfl⟩)]
      exact separate
  | @started policy clockMilliseconds written spool closed opened =>
      have constructs : Constructs device (.start policy clockMilliseconds written) spool
          clockMilliseconds written (.ok ()) := .start closed opened
      have noted : noteIssuance device history (.start policy clockMilliseconds written) .done =
          { history.construct spool with sinceFound := 0 } := by
        simp only [noteIssuance, opened]
      rw [noted]
      have guarded := construct_guarded opened written
        (assigned_below_seed separate timely leased constructs)
        (fun present => leased.written present _ _ _ constructs)
      exact construct_separate separate formed rfl rfl rfl
        (writeCursorLease_absent (cursorLease_positive opened)) { guarded with }
  | @published records committed spool cursors after current returned =>
      rw [noted_publish current]
      have wellFormed := (separate.formed.spool spool current).wellFormed
      have guarded := separate.opened spool current
      constructor
      · exact formed
      · exact publish_unrepeated wellFormed returned device.lease separate.unrepeated
          guarded.below
      · rintro other ⟨⟩
        exact publish_guarded wellFormed returned guarded
      · intro closed
        cases closed
      · intro absent row member
        have none : device.lease = 0 := absent
        simp only [Issuance.publish, none, if_true] at member ⊢
        rcases List.mem_append.mp member with old | new
        · exact List.mem_append_left _ (separate.early absent row old)
        · exact List.mem_append_right _ (List.mem_map_of_mem new)
  | @registered name spool after current returned =>
      rcases registerConsumer_ok returned with ⟨same, -⟩
      apply separate_kept separate formed current rfl rfl
      · rw [same]
      · rw [same]
  | @unregistered name spool after current returned =>
      have same := unregisterConsumer_ok returned
      apply separate_kept separate formed current rfl rfl
      · rw [same]
      · rw [same]
  | wasRead => exact separate
  | @acknowledged name cursor spool after current returned =>
      rcases acknowledge_ok returned with ⟨-, same⟩
      apply separate_kept separate formed current rfl rfl
      · rw [same]
      · rw [same]
  | @pruned nowNanoseconds written progress spool current =>
      have noted : noteIssuance device history (.prune nowNanoseconds written progress) .done =
          history.prune spool written := by
        simp only [noteIssuance, current]
      rw [noted]
      have before := separate.opened spool current
      have guarded := prune_guarded (separate.formed.spool spool current) before nowNanoseconds
        written progress
      rcases noted_rows history spool written with ⟨assigned, unleased⟩
      exact construct_separate separate formed rfl assigned unleased
        (prune_absent (separate.formed.spool spool current)) guarded
  | @policyKept policy clockMilliseconds written copied spool current same =>
      have noted : noteIssuance device history
          (.applyPolicy policy clockMilliseconds written copied) .done = history := by
        simp only [noteIssuance, current, same, if_true]
      rw [noted]
      exact separate_kept separate formed current rfl rfl rfl rfl
  | @switchFailed policy clockMilliseconds written failure spool replacement current different
      opened =>
      have constructs : Constructs device
          (.applyPolicy policy clockMilliseconds written (.error failure)) replacement
            clockMilliseconds written (.error failure) := .switch current different opened
      rw [noteIssuance_unchanged device history _ (.inr ⟨failure, rfl⟩)]
      exact construct_separate separate formed current rfl rfl
        (writeCursorLease_absent (cursorLease_positive opened))
        (switchFailed_guarded (separate.opened spool current) opened
          (fun absent => leased.ahead absent spool current _ _ _ _ constructs))
  | @switched policy clockMilliseconds written spool replacement current different opened =>
      have constructs : Constructs device
          (.applyPolicy policy clockMilliseconds written (.ok ())) replacement
            clockMilliseconds written (.ok ()) := .switch current different opened
      have noted : noteIssuance device history
          (.applyPolicy policy clockMilliseconds written (.ok ())) .done =
            history.construct replacement := by
        simp only [noteIssuance, current, if_neg different, opened]
      rw [noted]
      have guarded := construct_guarded opened written
        (assigned_below_seed separate timely leased constructs)
        (fun present => leased.written present _ _ _ constructs)
      exact construct_separate separate formed rfl rfl rfl
        (writeCursorLease_absent (cursorLease_positive opened)) (migrate_guarded guarded)
  | crashed =>
      constructor
      · exact formed
      · exact separate.unrepeated
      · rintro other ⟨⟩
      · intro _ present row member
        cases current : device.spool with
        | none => exact separate.closed current present row member
        | some spool =>
            have guarded := separate.opened spool current
            have below := guarded.below row member
            have bounded := leased.covered present spool current
            have ahead := guarded.fileAhead present
            simp only [Device.crash] at *
            omega
      · exact separate.early

/-- Over any number of sessions no cursor is handed out twice, as long as a lease file that is
there is rewritten when a spool takes over, and renewed before the sequence reaches it. -/
theorem cursors_unrepeated (events : List Event)
    (timely : issuing.Along Timely ({}, {}) events)
    (leased : issuing.Along Leased ({}, {}) events) :
    (issuing.run ({}, {}) events).2.Unrepeated := by
  have start : Separate (({}, {}) : Device × Issuance) := by
    constructor
    · exact ⟨wellFormed_empty 0, fun _ absent => nomatch absent⟩
    · exact List.Pairwise.nil
    · intro spool absent
      cases absent
    · intro _ present
      exact absurd rfl present
    · intro _ row member
      exact absurd member List.not_mem_nil
  have separate := issuing.along_invariant _ Separate
    (fun state event allowed holds => step_separate holds allowed.1 allowed.2
      (step_cases state.1 event)) ({}, {}) start events (issuing.along_and timely leased)
  exact separate.unrepeated

/-- A session whose lease write fails while an older lease file is in place, then a crash:
the next session starts from the old lease again. -/
def staleLease : List Event :=
  [.start volatilePolicy 1000 true, .crash,
    .start volatilePolicy 2000 false, .publish [voltageRecord] (.ok ()), .crash,
    .start volatilePolicy 3000 true, .publish [currentRecord] (.ok ())]

theorem staleLease_assigned :
    (issuing.run ({}, {}) staleLease).2.assigned =
      [storedRecord (1001 + cursorLeaseReservation) Int64.minValue voltageRecord,
        storedRecord (1001 + cursorLeaseReservation) Int64.minValue currentRecord] := by
  rfl

theorem staleLease_repeats :
    ¬ ∀ events : List Event, issuing.Along Timely ({}, {}) events →
      issuing.Along Paced ({}, {}) events →
        (issuing.run ({}, {}) events).2.Unrepeated := by
  intro claim
  have timely : issuing.Along Timely ({}, {}) staleLease := by
    refine ⟨?_, ?_, ?_, ?_, ?_, ?_, ?_, trivial⟩
    all_goals
      intro _ _ _ _ _ cursor member
      exact absurd member List.not_mem_nil
  have paced : issuing.Along Paced ({}, {}) staleLease := by
    refine ⟨?_, ?_, ?_, ?_, ?_, ?_, ?_, trivial⟩
    all_goals
      unfold Paced
      decide
  have unrepeated := claim staleLease timely paced
  unfold Issuance.Unrepeated at unrepeated
  rw [staleLease_assigned] at unrepeated
  exact (List.pairwise_cons.mp unrepeated).1 _ List.mem_cons_self rfl

/-- The same sessions when every write of the lease succeeds, with a prune on the way. -/
def freshLease : List Event :=
  [.start volatilePolicy 1000 true, .publish [voltageRecord] (.ok ()),
    .prune 0 true .finished, .crash,
    .start volatilePolicy 3000 true, .publish [currentRecord] (.ok ())]

theorem freshLease_unrepeated :
    (issuing.run ({}, {}) freshLease).2.Unrepeated ∧
      (issuing.run ({}, {}) freshLease).2.assigned.length = 2 := by
  have timely : issuing.Along Timely ({}, {}) freshLease := by
    refine ⟨?_, ?_, ?_, ?_, ?_, ?_, trivial⟩
    all_goals
      intro _ _ _ _ _ cursor member
      exact absurd member List.not_mem_nil
  have leased : issuing.Along Leased ({}, {}) freshLease := by
    refine ⟨?_, ?_, ?_, ?_, ?_, ?_, trivial⟩
    all_goals
      constructor
      · intro _ _ _ _ constructs
        cases constructs <;> rfl
      · intro _ _ _ _ _ _ _ constructs
        cases constructs
      · rintro _ spool ⟨⟩ <;> decide
  exact ⟨cursors_unrepeated freshLease timely leased, rfl⟩

end Msap1.Spool
