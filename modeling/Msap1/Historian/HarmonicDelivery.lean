import Msap1.Historian.HarmonicStaging

/-! Which complete families reach the history: those that no staged fragment of another family
with their sequence stands in the way of. -/

namespace Msap1.Historian

open Meter
open Spool (DatabaseStoragePolicy)
open MeterHistoryStore (Operation fragmentOf)

/-- A record as the stream delivers it. -/
structure Submission where
  record : MeterRecord
  streamCursor : Nat
  measuredAt : Int

def Submission.operation (call : Submission) : Operation :=
  .appendHarmonicRecord call.record call.streamCursor call.measuredAt (.ok ())

def recordPeriod (record : MeterRecord) : Option MeasurementPeriod :=
  (decodeHarmonicRecord record).toOption.map (fun chunk => chunk.provenance.period)

/-- The fragments staged under the sequence of a family. -/
def RecordFamily.stagedIn (family : RecordFamily) (tables : HarmonicTables) :
    List PendingFragment :=
  tables.staged family.provenance.period family.provenance.sequence

/-- The row of the harmonic families with the records of a family. -/
structure RecordFamily.Row (family : RecordFamily) (stored : HarmonicFamily) : Prop where
  payload : stored.payload = List.ofFn family.records
  period : stored.period = family.provenance.period
  generation : stored.configurationGeneration = family.provenance.configurationGeneration
  sequence : stored.sourceSequence = family.provenance.sequence

/-- The records of a family are delivered in some order, with records of other periods between
them, under new cursors, and the family is not stored yet. -/
structure DeliversFamily (history : MeterHistoryStore) (family : RecordFamily)
    (window : List Submission) : Prop where
  own : ((window.map Submission.record).filter (fun record =>
    recordPeriod record = some family.provenance.period)).Perm (List.ofFn family.records)
  increasing : window.Pairwise (fun earlier later => earlier.streamCursor < later.streamCursor)
  fresh : ∀ call ∈ window,
    (∀ row ∈ (history.harmonics family.dataset).pending, row.streamCursor < call.streamCursor) ∧
      ∀ stored ∈ (history.harmonics family.dataset).families,
        stored.streamCursor < call.streamCursor
  floors : ∀ call ∈ window, ∀ floor ∈ history.store.clearFloors family.dataset,
    floor < call.streamCursor
  new : ∀ stored ∈ (history.harmonics family.dataset).families,
    ¬ (stored.period = family.provenance.period ∧
      stored.configurationGeneration = family.provenance.configurationGeneration ∧
      stored.sourceSequence = family.provenance.sequence)

/-- One call inserts a row, only the retention of that call is applied to it, and the calls after
it leave it in the table. -/
structure Inserts (history : MeterHistoryStore) (family : RecordFamily)
    (before : List Submission) (call : Submission) (later : List Submission)
    (stored : HarmonicFamily) : Prop where
  row : family.Row stored
  answered : historyMachine.answer
    (historyMachine.run history (before.map Submission.operation)) call.operation = some stored
  table : ((historyMachine.run history ((before ++ [call]).map Submission.operation)).harmonics
      family.dataset).families =
    retained (history.store.policies family.dataset) family.provenance.period call.measuredAt
      (((historyMachine.run history (before.map Submission.operation)).harmonics
        family.dataset).families ++ [stored])
  kept : stored ∈ ((historyMachine.run history
      ((before ++ [call]).map Submission.operation)).harmonics family.dataset).families →
    stored ∈ ((historyMachine.run history
      ((before ++ call :: later).map Submission.operation)).harmonics family.dataset).families

/-- The records of a family become a row of the history while they are delivered. -/
def Materializes (history : MeterHistoryStore) (family : RecordFamily)
    (window : List Submission) : Prop :=
  ∃ before call later stored, window = before ++ call :: later ∧
    Inserts history family before call later stored

namespace RecordFamily

variable {family : RecordFamily}

/-- The fragment that a record of the family is staged as. -/
def fragment (family : RecordFamily) (index : Fin 42) (streamCursor : Nat) (measuredAt : Int) :
    PendingFragment where
  period := family.provenance.period
  sourceSequence := family.provenance.sequence
  sourceFragment := index
  streamCursor
  measuredAt
  payload := family.records index

theorem fragment_keyed (index : Fin 42) (cursor : Nat) (measuredAt : Int) :
    HarmonicTables.Keyed (family.fragment index cursor measuredAt) :=
  ⟨family.provenance, family.carried index, rfl, rfl⟩

theorem records_injective : Function.Injective family.records := by
  intro left right same
  have carried := family.carried left
  rw [same] at carried
  exact (carried.unique (family.carried right)).2

theorem recordPeriod_records (index : Fin 42) :
    recordPeriod (family.records index) = some family.provenance.period := by
  rcases (family.carried index).decoded with ⟨chunk, read, same, -⟩
  rw [recordPeriod, read, ← same]
  rfl

theorem provenance_of_payload {rows : List PendingFragment} {stored : HarmonicFamily}
    {provenance : HarmonicProvenance} (shape : Assembled rows stored provenance)
    (payload : stored.payload = List.ofFn family.records) : provenance = family.provenance := by
  have member : family.records 0 ∈ rows.map PendingFragment.payload := by
    rw [← shape.payload, payload]
    exact List.mem_ofFn.mpr ⟨0, rfl⟩
  rcases List.mem_map.mp member with ⟨row, held, same⟩
  rcases shape.carried row held with ⟨index, carried⟩
  rw [same] at carried
  exact (carried.unique (family.carried 0)).1

end RecordFamily

section Collecting

variable {family : RecordFamily} {tables after : HarmonicTables} {call : Submission}
variable {window : List Submission} {policy : DatabaseStoragePolicy}

/-- Every fragment of the family is staged or still to come, and nothing else is staged under
its sequence. -/
structure Collecting (family : RecordFamily) (window : List Submission) (tables : HarmonicTables) :
    Prop where
  staging : tables.Staging
  matching : ∀ row ∈ family.stagedIn tables, row.payload = family.records row.sourceFragment
  covered : ∀ index, (∃ row ∈ family.stagedIn tables, row.sourceFragment = index) ∨
    ∃ call ∈ window, call.record = family.records index
  increasing : window.Pairwise (fun earlier later => earlier.streamCursor < later.streamCursor)
  pending : ∀ call ∈ window, ∀ row ∈ tables.pending, row.streamCursor < call.streamCursor
  stored : ∀ call ∈ window, ∀ stored ∈ tables.families, stored.streamCursor < call.streamCursor
  new : ∀ stored ∈ tables.families, ¬ (stored.period = family.provenance.period ∧
    stored.configurationGeneration = family.provenance.configurationGeneration ∧
    stored.sourceSequence = family.provenance.sequence)

theorem appendFragment_staged {row : PendingFragment}
    (more : (tables.gatheredFor row).length ≠ harmonicRecordsPerFamily) :
    tables.appendFragment policy row = .ok (⟨tables.grown row, tables.families⟩, none) :=
  if_pos more

theorem appendFragment_stored {row : PendingFragment} {stored : HarmonicFamily}
    (full : (tables.gatheredFor row).length = harmonicRecordsPerFamily)
    (assembled : assembleFamily (HarmonicTables.inFragmentOrder (tables.gatheredFor row)) =
      .ok stored)
    (free : ¬ tables.collides stored) :
    tables.appendFragment policy row = .ok (⟨tables.finished row,
      retained policy row.period row.measuredAt (tables.families ++ [stored])⟩, some stored) := by
  refine (if_neg (not_not_intro full)).trans ?_
  have whole : assembleFamily (HarmonicTables.inFragmentOrder (HarmonicTables.staged
      ⟨HarmonicTables.insertFragment (tables.abandoned row.period row.sourceSequence) row,
        tables.families⟩ row.period row.sourceSequence)) = .ok stored := assembled
  dsimp only
  rw [whole]
  exact if_neg free

theorem covered_rest (covered : ∀ index, (∃ row ∈ family.stagedIn tables,
      row.sourceFragment = index) ∨ ∃ other ∈ call :: window, other.record = family.records index)
    (kept : ∀ row ∈ family.stagedIn tables, row ∈ family.stagedIn after)
    (own : ∀ index, call.record = family.records index →
      ∃ row ∈ family.stagedIn after, row.sourceFragment = index) :
    ∀ index, (∃ row ∈ family.stagedIn after, row.sourceFragment = index) ∨
      ∃ other ∈ window, other.record = family.records index := by
  intro index
  rcases covered index with ⟨row, held, place⟩ | ⟨other, member, same⟩
  · exact .inl ⟨row, kept row held, place⟩
  · rcases List.mem_cons.mp member with rfl | later
    · exact .inl (own index same)
    · exact .inr ⟨other, later, same⟩

theorem pending_rest {row : PendingFragment}
    (collecting : Collecting family (call :: window) tables)
    (cursor : row.streamCursor = call.streamCursor) :
    ∀ other ∈ window, ∀ held ∈ tables.grown row, held.streamCursor < other.streamCursor := by
  intro other later held member
  rcases HarmonicTables.mem_grown member with old | rfl
  · exact collecting.pending other (List.mem_cons_of_mem call later) held old
  · rw [cursor]
    exact List.rel_of_pairwise_cons collecting.increasing later

theorem collected_family {index : Fin 42} {measuredAt : Int} {rows : List PendingFragment}
    (collecting : Collecting family (call :: window) tables)
    (bounded : family.provenance.firstSample ≤ int64Max ∧
      family.provenance.targetSample ≤ int64Max)
    (gathered : rows = tables.gatheredFor (family.fragment index call.streamCursor measuredAt))
    (full : rows.length = harmonicRecordsPerFamily)
    (last : family.fragment index call.streamCursor measuredAt ∈ rows)
    (matching : ∀ row ∈ rows, row.payload = family.records row.sourceFragment) :
    ∃ stored, assembleFamily (HarmonicTables.inFragmentOrder rows) = .ok stored ∧
      ¬ tables.collides stored ∧ family.Row stored := by
  have keys := (HarmonicTables.gatheredFor_keys
    (family.fragment index call.streamCursor measuredAt) collecting.staging).1
  rw [← gathered] at keys
  have ordered := HarmonicTables.inFragmentOrder_fragments keys full
  have permuted := HarmonicTables.inFragmentOrder_perm rows
  have own : ∀ row ∈ HarmonicTables.inFragmentOrder rows,
      row.payload = family.records row.sourceFragment :=
    fun row member => matching row (permuted.mem_iff.mp member)
  have places : ∀ place (inside : place < (HarmonicTables.inFragmentOrder rows).length),
      ((HarmonicTables.inFragmentOrder rows).get ⟨place, inside⟩).sourceFragment.val = place := by
    intro place inside
    have found : (List.finRange 42)[place]? =
        some ((HarmonicTables.inFragmentOrder rows).get ⟨place, inside⟩).sourceFragment := by
      rw [← ordered, List.getElem?_map, List.getElem?_eq_getElem inside]
      rfl
    rcases List.getElem?_eq_some_iff.mp found with ⟨bound, same⟩
    rw [List.getElem_finRange] at same
    exact (congrArg Fin.val same).symm
  rcases assembleFamily_complete (permuted.length_eq.trans full) places own bounded with
    ⟨stored, assembled⟩
  rcases assembleFamily_ok assembled with ⟨provenance, shape⟩
  have payload : stored.payload = List.ofFn family.records := by
    rw [shape.payload, List.ofFn_eq_map, ← ordered, List.map_map]
    exact List.map_congr_left own
  have same := RecordFamily.provenance_of_payload shape payload
  subst same
  refine ⟨stored, assembled, ?_, ⟨payload, shape.period, shape.generation, shape.sequence⟩⟩
  rintro ⟨other, held, key⟩
  rcases key with cursor | ⟨period, generation, sequence⟩
  · have older := collecting.stored call List.mem_cons_self other held
    have newest := shape.cursors _ (permuted.mem_iff.mpr last)
    rw [cursor] at older
    exact absurd newest (not_le_of_gt older)
  · apply collecting.new other held
    rw [period, generation, sequence, shape.period, shape.generation, shape.sequence]
    exact ⟨rfl, rfl, rfl⟩

theorem own_collects {index : Fin 42} (policy : DatabaseStoragePolicy) (measuredAt : Int)
    (collecting : Collecting family (call :: window) tables)
    (bounded : family.provenance.firstSample ≤ int64Max ∧
      family.provenance.targetSample ≤ int64Max)
    (own : call.record = family.records index) :
    ∃ after inserted, tables.appendFragment policy
        (family.fragment index call.streamCursor measuredAt) = .ok (after, inserted) ∧
      ((∃ stored, inserted = some stored ∧ family.Row stored ∧ family.stagedIn after = [] ∧
          after.families = retained policy family.provenance.period measuredAt
            (tables.families ++ [stored])) ∨
        Collecting family window after) := by
  have gathers := HarmonicTables.gatheredFor_eq tables
    (family.fragment index call.streamCursor measuredAt)
  have rows : tables.gatheredFor (family.fragment index call.streamCursor measuredAt) =
      family.stagedIn ⟨tables.grown (family.fragment index call.streamCursor measuredAt),
        tables.families⟩ := rfl
  have matching : ∀ row ∈ tables.gatheredFor (family.fragment index call.streamCursor measuredAt),
      row.payload = family.records row.sourceFragment := by
    intro row member
    rcases gathers with ⟨same, -⟩ | ⟨joined, -⟩
    · rw [same] at member
      exact collecting.matching row member
    · rw [joined] at member
      rcases List.mem_append.mp member with old | new
      · exact collecting.matching row old
      · rw [List.mem_singleton.mp new]
        rfl
  have kept : ∀ row ∈ family.stagedIn tables,
      row ∈ tables.gatheredFor (family.fragment index call.streamCursor measuredAt) := by
    intro row member
    rcases gathers with ⟨same, -⟩ | ⟨joined, -⟩
    · rw [same]
      exact member
    · rw [joined]
      exact List.mem_append_left _ member
  by_cases full : (tables.gatheredFor
      (family.fragment index call.streamCursor measuredAt)).length = harmonicRecordsPerFamily
  · have last : family.fragment index call.streamCursor measuredAt ∈
        tables.gatheredFor (family.fragment index call.streamCursor measuredAt) := by
      rcases gathers with ⟨same, -⟩ | ⟨joined, -⟩
      · rw [same] at full
        exact absurd full (collecting.staging.short _ _).ne
      · rw [joined]
        exact List.mem_append_right _ List.mem_cons_self
    rcases collected_family collecting bounded rfl full last matching with
      ⟨stored, assembled, free, row⟩
    have emptied : family.stagedIn ⟨tables.finished (family.fragment index call.streamCursor
        measuredAt), retained policy family.provenance.period measuredAt
          (tables.families ++ [stored])⟩ = [] :=
      @HarmonicTables.staged_finished_own tables
        (family.fragment index call.streamCursor measuredAt)
    exact ⟨_, some stored, appendFragment_stored full assembled free,
      .inl ⟨stored, rfl, row, emptied, rfl⟩⟩
  · refine ⟨_, none, appendFragment_staged full, .inr ?_⟩
    have staging := HarmonicTables.appended_staging
      (.staged full : tables.Appended policy _ _ _)
        (family.fragment_keyed index call.streamCursor measuredAt) collecting.staging
    refine ⟨staging, matching, covered_rest collecting.covered kept ?_,
      collecting.increasing.of_cons, pending_rest collecting rfl, ?_, collecting.new⟩
    · intro place named
      have same : place = index := family.records_injective (named.symm.trans own)
      rcases gathers with ⟨unchanged, other, held, key⟩ | ⟨joined, -⟩
      · rcases key with cursor | ⟨period, sequence, fragment⟩
        · have older := collecting.pending call List.mem_cons_self other held
          exact absurd cursor older.ne
        · refine ⟨other, kept other ?_, fragment.trans same.symm⟩
          exact HarmonicTables.mem_staged.mpr ⟨held, period, sequence⟩
      · refine ⟨family.fragment index call.streamCursor measuredAt, ?_, same.symm⟩
        rw [← rows, joined]
        exact List.mem_append_right _ List.mem_cons_self
    · intro other later stored held
      exact collecting.stored other (List.mem_cons_of_mem call later) stored held

theorem collecting_skip (collecting : Collecting family (call :: window) tables)
    (foreign : ∀ index, call.record ≠ family.records index) :
    Collecting family window tables := by
  refine ⟨collecting.staging, collecting.matching, covered_rest collecting.covered
    (fun row held => held) (fun index same => absurd same (foreign index)),
    collecting.increasing.of_cons, ?_, ?_, collecting.new⟩
  · intro other later
    exact collecting.pending other (List.mem_cons_of_mem call later)
  · intro other later
    exact collecting.stored other (List.mem_cons_of_mem call later)

/-- A fragment of another period disturbs neither the fragments nor the key of the family. -/
theorem foreign_collects {row : PendingFragment} {inserted : Option HarmonicFamily}
    (collecting : Collecting family (call :: window) tables)
    (foreign : ∀ index, call.record ≠ family.records index)
    (appended : tables.Appended policy row after inserted) (keyed : HarmonicTables.Keyed row)
    (apart : row.period ≠ family.provenance.period)
    (cursor : row.streamCursor = call.streamCursor) : Collecting family window after := by
  have staging := HarmonicTables.appended_staging appended keyed collecting.staging
  have skipped := collecting_skip collecting foreign
  have rest := pending_rest collecting cursor
  have stored : ∀ family', assembleFamily
      (HarmonicTables.inFragmentOrder (tables.gatheredFor row)) = .ok family' →
      family'.period ≠ family.provenance.period ∧
        ∀ other ∈ window, family'.streamCursor < other.streamCursor := by
    intro family' assembled
    rcases HarmonicTables.assembled_period collecting.staging keyed assembled with
      ⟨provenance, shape, period⟩
    refine ⟨by rw [shape.period, period]; exact apart, ?_⟩
    intro other later
    rcases shape.reached with zero | ⟨held, member, same⟩
    · have first := List.rel_of_pairwise_cons collecting.increasing later
      omega
    · rw [same]
      have gathered := (HarmonicTables.inFragmentOrder_perm _).mem_iff.mp member
      exact rest other later held (HarmonicTables.mem_staged.mp gathered).1
  cases appended with
  | staged more =>
      have same : family.stagedIn ⟨tables.grown row, tables.families⟩ = family.stagedIn tables :=
        HarmonicTables.staged_grown_other apart
      refine ⟨staging, ?_, ?_, skipped.increasing, rest, skipped.stored, skipped.new⟩
      · rw [same]
        exact skipped.matching
      · rw [same]
        exact skipped.covered
  | ignored family' full assembled known =>
      have same : family.stagedIn ⟨tables.finished row, tables.families⟩ =
          family.stagedIn tables := HarmonicTables.staged_finished_other apart
      refine ⟨staging, ?_, ?_, skipped.increasing, ?_, skipped.stored, skipped.new⟩
      · rw [same]
        exact skipped.matching
      · rw [same]
        exact skipped.covered
      · intro other later held member
        exact rest other later held (HarmonicTables.mem_finished member)
  | stored family' full assembled free =>
      have same : family.stagedIn ⟨tables.finished row, retained policy row.period row.measuredAt
          (tables.families ++ [family'])⟩ = family.stagedIn tables :=
        HarmonicTables.staged_finished_other apart
      refine ⟨staging, ?_, ?_, skipped.increasing, ?_, ?_, ?_⟩
      · rw [same]
        exact skipped.matching
      · rw [same]
        exact skipped.covered
      · intro other later held member
        exact rest other later held (HarmonicTables.mem_finished member)
      · intro other later held member
        rcases List.mem_append.mp (HarmonicTables.mem_retained member) with old | new
        · exact skipped.stored other later held old
        · rw [List.mem_singleton.mp new]
          exact (stored family' assembled).2 other later
      · intro held member
        rcases List.mem_append.mp (HarmonicTables.mem_retained member) with old | new
        · exact skipped.new held old
        · rw [List.mem_singleton.mp new]
          exact fun key => (stored family' assembled).1 key.1

theorem not_collecting_nil : ¬ Collecting family [] tables := by
  intro collecting
  have all : List.finRange 42 ⊆
      (family.stagedIn tables).map PendingFragment.sourceFragment := by
    intro index _
    rcases collecting.covered index with ⟨row, held, place⟩ | ⟨_, absent, _⟩
    · exact List.mem_map.mpr ⟨row, held, place⟩
    · cases absent
  have long := ((List.nodup_finRange 42).subperm all).length_le
  have short := collecting.staging.short family.provenance.period family.provenance.sequence
  rw [List.length_map, List.length_finRange] at long
  exact absurd short (not_lt_of_ge long)

end Collecting

section Deliveries

variable {history : MeterHistoryStore} {family : RecordFamily} {call : Submission}
variable {window : List Submission}

theorem own_after {index : Fin 42} {after : HarmonicTables} {inserted : Option HarmonicFamily}
    (own : call.record = family.records index)
    (floors : ∀ floor ∈ history.store.clearFloors family.dataset, floor < call.streamCursor)
    (appended : (history.harmonics family.dataset).appendFragment
      (history.store.policies family.dataset)
      (family.fragment index call.streamCursor call.measuredAt) = .ok (after, inserted)) :
    history.after call.operation = (history.withHarmonics family.dataset after, inserted) := by
  rcases (family.carried index).decoded with ⟨chunk, read, same, place⟩
  have aggregate : family.provenance.period ≠ .basic := by
    intro basic
    have routed := family.routed
    rw [basic] at routed
    cases routed
  have above : ¬ ∃ floor ∈ history.store.clearFloors family.dataset,
      call.streamCursor ≤ floor := by
    rintro ⟨floor, held, below⟩
    exact absurd (floors floor held) (not_lt_of_ge below)
  have fragment : fragmentOf chunk (family.records index) call.streamCursor call.measuredAt =
      family.fragment index call.streamCursor call.measuredAt := by
    rw [fragmentOf, same, place]
    rfl
  simp only [Submission.operation, MeterHistoryStore.after,
    MeterHistoryStore.appendHarmonicRecord, own, read, same, if_neg aggregate, family.routed,
    if_neg above, fragment, appended]

theorem submission_step (history : MeterHistoryStore) (call : Submission) :
    MeterHistoryStore.HarmonicStep history call.record call.streamCursor call.measuredAt
      (history.after call.operation) :=
  MeterHistoryStore.after_harmonicStep history call.record call.streamCursor call.measuredAt _

/-- A record of another period either leaves the tables of the family alone or is staged there
under its own period. -/
theorem foreign_after (history : MeterHistoryStore)
    (apart : recordPeriod call.record ≠ some family.provenance.period) :
    (history.after call.operation).1.harmonics family.dataset =
        history.harmonics family.dataset ∨
      ∃ row policy inserted, row.period ≠ family.provenance.period ∧
        row.streamCursor = call.streamCursor ∧ HarmonicTables.Keyed row ∧
        (history.harmonics family.dataset).Appended policy row
          ((history.after call.operation).1.harmonics family.dataset) inserted := by
  have step := submission_step history call
  generalize history.after call.operation = result at step ⊢
  cases step with
  | unchanged => exact .inl rfl
  | appended chunk dataset tables inserted read routed appended =>
      dsimp only
      rw [MeterHistoryStore.harmonics_withHarmonics]
      by_cases same : history.store.volatile dataset = history.store.volatile family.dataset
      · rw [if_pos same, ← MeterHistoryStore.harmonics_same same]
        refine .inr ⟨_, _, inserted, ?_, rfl, MeterHistoryStore.fragmentOf_keyed read, appended⟩
        intro period
        apply apart
        rw [recordPeriod, read]
        exact congrArg some period
      · rw [if_neg same]
        exact .inl rfl

theorem after_store (call : Submission) :
    (history.after call.operation).1.store = history.store := by
  have step := submission_step history call
  generalize history.after call.operation = result at step ⊢
  cases step with
  | unchanged => rfl
  | appended chunk dataset tables inserted read routed appended => exact withHarmonics_store _ _

/-- The calls of a window that bring a record of the period of a family bring its records. -/
def OwnRecords (family : RecordFamily) (window : List Submission) : Prop :=
  ∀ call ∈ window, recordPeriod call.record = some family.provenance.period →
    ∃ index, call.record = family.records index

/-- How many calls of a window bring a record of the period of a family. -/
def ownCount (family : RecordFamily) (window : List Submission) : Nat :=
  window.countP (fun call => recordPeriod call.record = some family.provenance.period)

/-- A fragment of something else is staged under the sequence of the family, or too few calls
are left for all of its fragments. -/
structure Blocked (family : RecordFamily) (window : List Submission)
    (history : MeterHistoryStore) : Prop where
  staging : history.Staging
  few : ownCount family window ≤ harmonicRecordsPerFamily
  stuck : (∃ row ∈ family.stagedIn (history.harmonics family.dataset),
      row.payload ≠ family.records row.sourceFragment) ∨
    (family.stagedIn (history.harmonics family.dataset)).length + ownCount family window <
      harmonicRecordsPerFamily

theorem ownCount_cons_le : ownCount family window ≤ ownCount family (call :: window) := by
  unfold ownCount
  rw [List.countP_cons]
  exact Nat.le_add_right _ _

theorem blocked_same {after : MeterHistoryStore} (blocked : Blocked family (call :: window) history)
    (staging : after.Staging)
    (same : family.stagedIn (after.harmonics family.dataset) =
      family.stagedIn (history.harmonics family.dataset)) : Blocked family window after := by
  refine ⟨staging, ownCount_cons_le.trans blocked.few, ?_⟩
  rw [same]
  exact blocked.stuck.imp_right
    (fun short => (Nat.add_le_add_left ownCount_cons_le _).trans_lt short)

theorem assembled_place {rows : List PendingFragment} {stored : HarmonicFamily}
    {provenance : HarmonicProvenance} {row : PendingFragment}
    (shape : Assembled rows stored provenance) (member : row ∈ rows)
    (payload : stored.payload = List.ofFn family.records) :
    row.payload = family.records row.sourceFragment := by
  rcases List.get_of_mem member with ⟨⟨place, inside⟩, found⟩
  have fragment := shape.fragments place inside
  rw [found] at fragment
  have records : (rows.map PendingFragment.payload)[place]? =
      (List.ofFn family.records)[place]? := by rw [← shape.payload, payload]
  have own : row.sourceFragment = ⟨place, by omega⟩ := Fin.ext fragment
  rw [List.getElem?_map, List.getElem?_eq_getElem inside, List.getElem?_ofFn,
    dif_pos (by omega)] at records
  have placed := Option.some.inj records
  rw [own, ← placed]
  exact congrArg PendingFragment.payload found.symm

theorem gatheredFor_length_le {tables : HarmonicTables} {row : PendingFragment}
    (period : row.period = family.provenance.period)
    (sequence : row.sourceSequence = family.provenance.sequence) :
    (tables.gatheredFor row).length ≤ (family.stagedIn tables).length + 1 := by
  have staged : tables.staged row.period row.sourceSequence = family.stagedIn tables := by
    rw [period, sequence]
    rfl
  rcases HarmonicTables.gatheredFor_eq tables row with ⟨same, -⟩ | ⟨joined, -⟩
  · rw [same, staged]
    exact Nat.le_succ _
  · rw [joined, List.length_append, List.length_singleton, staged]

theorem own_short {tables after : HarmonicTables} {policy : DatabaseStoragePolicy}
    {row : PendingFragment} {inserted : Option HarmonicFamily} {left : Nat}
    (period : row.period = family.provenance.period)
    (sequence : row.sourceSequence = family.provenance.sequence)
    (appended : tables.Appended policy row after inserted)
    (short : (family.stagedIn tables).length + (left + 1) < harmonicRecordsPerFamily) :
    (family.stagedIn after).length + left < harmonicRecordsPerFamily ∧
      after.families = tables.families ∧ inserted = none := by
  have longer : (tables.gatheredFor row).length ≤ (family.stagedIn tables).length + 1 :=
    gatheredFor_length_le period sequence
  have room : (tables.gatheredFor row).length ≠ harmonicRecordsPerFamily := by omega
  cases appended with
  | staged more =>
      have same : family.stagedIn ⟨tables.grown row, tables.families⟩ =
          tables.gatheredFor row := by
        unfold RecordFamily.stagedIn
        rw [← period, ← sequence]
        rfl
      refine ⟨?_, rfl, rfl⟩
      rw [same]
      omega
  | ignored stored full assembled known => exact absurd full room
  | stored stored full assembled free => exact absurd full room

theorem own_blocked {tables after : HarmonicTables} {policy : DatabaseStoragePolicy}
    {row : PendingFragment} {inserted : Option HarmonicFamily} {left : Nat}
    (period : row.period = family.provenance.period)
    (sequence : row.sourceSequence = family.provenance.sequence)
    (appended : tables.Appended policy row after inserted)
    (few : left + 1 ≤ harmonicRecordsPerFamily)
    (stuck : (∃ row ∈ family.stagedIn tables, row.payload ≠ family.records row.sourceFragment) ∨
      (family.stagedIn tables).length + (left + 1) < harmonicRecordsPerFamily) :
    ((∃ row ∈ family.stagedIn after, row.payload ≠ family.records row.sourceFragment) ∨
      (family.stagedIn after).length + left < harmonicRecordsPerFamily) ∧
    ∀ stored, inserted = some stored → stored.payload ≠ List.ofFn family.records := by
  rcases stuck with ⟨bad, held, wrong⟩ | short
  · have staged : tables.staged row.period row.sourceSequence = family.stagedIn tables := by
      rw [period, sequence]
      rfl
    have kept : bad ∈ tables.gatheredFor row := by
      rcases HarmonicTables.gatheredFor_eq tables row with ⟨same, -⟩ | ⟨joined, -⟩
      · rw [same, staged]
        exact held
      · rw [joined, staged]
        exact List.mem_append_left _ held
    have emptied : ∀ families, family.stagedIn ⟨tables.finished row, families⟩ = [] := by
      intro families
      unfold RecordFamily.stagedIn
      rw [← period, ← sequence]
      exact HarmonicTables.staged_finished_own
    cases appended with
    | staged more =>
        have same : family.stagedIn ⟨tables.grown row, tables.families⟩ =
            tables.gatheredFor row := by
          unfold RecordFamily.stagedIn
          rw [← period, ← sequence]
          rfl
        refine ⟨.inl ⟨bad, ?_, wrong⟩, fun _ absent => nomatch absent⟩
        rw [same]
        exact kept
    | ignored stored full assembled known =>
        refine ⟨.inr ?_, fun _ absent => nomatch absent⟩
        rw [emptied, List.length_nil]
        omega
    | stored stored full assembled free =>
        refine ⟨.inr ?_, ?_⟩
        · rw [emptied, List.length_nil]
          omega
        · rintro other ⟨⟩ payload
          rcases assembleFamily_ok assembled with ⟨provenance, shape⟩
          have member := (HarmonicTables.inFragmentOrder_perm _).mem_iff.mpr kept
          exact wrong (assembled_place shape member payload)
  · rcases own_short period sequence appended short with ⟨still, -, none⟩
    refine ⟨.inr still, ?_⟩
    intro stored answered
    rw [none] at answered
    cases answered

theorem own_sequence {chunk : HarmonicRecordChunk} (own : OwnRecords family (call :: window))
    (read : decodeHarmonicRecord call.record = .ok chunk)
    (period : chunk.provenance.period = family.provenance.period) :
    chunk.provenance.sequence = family.provenance.sequence ∧
      ownCount family (call :: window) = ownCount family window + 1 := by
  have named : recordPeriod call.record = some family.provenance.period := by
    rw [recordPeriod, read, ← period]
    rfl
  rcases own call List.mem_cons_self named with ⟨index, same⟩
  rcases (family.carried index).decoded with ⟨carried, found, provenance, -⟩
  rw [← same, read] at found
  cases found
  exact ⟨congrArg HarmonicProvenance.sequence provenance,
    List.countP_cons_of_pos (decide_eq_true named)⟩

theorem foreign_tables {dataset : DatabaseDataset} {tables : HarmonicTables}
    {policy : DatabaseStoragePolicy} {row : PendingFragment} {inserted : Option HarmonicFamily}
    (apart : row.period ≠ family.provenance.period)
    (appended : (history.harmonics dataset).Appended policy row tables inserted) :
    family.stagedIn ((history.withHarmonics dataset tables).harmonics family.dataset) =
        family.stagedIn (history.harmonics family.dataset) ∧
      ∀ stored ∈ (history.harmonics family.dataset).families,
        stored.period = family.provenance.period →
          stored ∈ ((history.withHarmonics dataset tables).harmonics family.dataset).families := by
  rw [MeterHistoryStore.harmonics_withHarmonics]
  split
  · next same =>
      rw [← MeterHistoryStore.harmonics_same same]
      cases appended with
      | staged more => exact ⟨HarmonicTables.staged_grown_other apart, fun _ held _ => held⟩
      | ignored stored full assembled known =>
          exact ⟨HarmonicTables.staged_finished_other apart, fun _ held _ => held⟩
      | stored stored full assembled free =>
          refine ⟨HarmonicTables.staged_finished_other apart, ?_⟩
          intro other held period
          apply HarmonicTables.retained_other
          · rw [period]
            exact apart.symm
          · exact List.mem_append_left _ held
  · exact ⟨rfl, fun _ held _ => held⟩

theorem blocked_after (blocked : Blocked family (call :: window) history)
    (own : OwnRecords family (call :: window)) :
    Blocked family window (history.after call.operation).1 ∧
      ∀ stored, (history.after call.operation).2 = some stored →
        stored.payload ≠ List.ofFn family.records := by
  have staging := (MeterHistoryStore.after_staging call.operation blocked.staging).1
  have step := submission_step history call
  generalize history.after call.operation = result at step staging ⊢
  cases step with
  | unchanged => exact ⟨blocked_same blocked staging rfl, fun _ absent => nomatch absent⟩
  | appended chunk dataset tables inserted read routed appended =>
      by_cases period : chunk.provenance.period = family.provenance.period
      · rw [period, family.routed] at routed
        cases routed
        rcases own_sequence own read period with ⟨sequence, count⟩
        have few := blocked.few
        have stuck := blocked.stuck
        rw [count] at few stuck
        have outcome := own_blocked period sequence appended few stuck
        refine ⟨⟨staging, by omega, ?_⟩, outcome.2⟩
        dsimp only
        rw [MeterHistoryStore.harmonics_withHarmonics, if_pos rfl]
        exact outcome.1
      · refine ⟨blocked_same blocked staging (foreign_tables period appended).1, ?_⟩
        intro stored answered payload
        cases appended with
        | staged more => cases answered
        | ignored stored full assembled known => cases answered
        | stored stored full assembled free =>
            cases answered
            rcases HarmonicTables.assembled_period (blocked.staging.harmonics dataset)
              (MeterHistoryStore.fragmentOf_keyed read) assembled with
              ⟨provenance, shape, same⟩
            apply period
            rw [← RecordFamily.provenance_of_payload shape payload, same]
            rfl

theorem blocked_never (blocked : Blocked family window history)
    (own : OwnRecords family window) :
    ∀ stored, some stored ∈ historyMachine.answers history (window.map Submission.operation) →
      stored.payload ≠ List.ofFn family.records := by
  induction window generalizing history with
  | nil => exact fun _ absent => nomatch absent
  | cons call window ih =>
      have outcome := blocked_after blocked own
      intro stored answered
      rcases List.mem_cons.mp answered with now | later
      · exact outcome.2 stored now.symm
      · exact ih outcome.1 (fun other member => own other (List.mem_cons_of_mem call member))
          stored later

/-- The row of the family is stored, and too few of its records are left for another one. -/
structure Underway (family : RecordFamily) (stored : HarmonicFamily) (window : List Submission)
    (history : MeterHistoryStore) : Prop where
  short : (family.stagedIn (history.harmonics family.dataset)).length + ownCount family window <
    harmonicRecordsPerFamily
  period : stored.period = family.provenance.period
  held : stored ∈ (history.harmonics family.dataset).families

theorem underway_after {stored : HarmonicFamily}
    (underway : Underway family stored (call :: window) history)
    (own : OwnRecords family (call :: window)) :
    Underway family stored window (history.after call.operation).1 := by
  have step := submission_step history call
  have fewer : ownCount family window ≤ ownCount family (call :: window) := ownCount_cons_le
  have short := underway.short
  generalize history.after call.operation = result at step ⊢
  cases step with
  | unchanged => exact ⟨lt_of_le_of_lt (Nat.add_le_add_left fewer _) short, underway.period,
      underway.held⟩
  | appended chunk dataset tables inserted read routed appended =>
      by_cases period : chunk.provenance.period = family.provenance.period
      · rw [period, family.routed] at routed
        cases routed
        rcases own_sequence own read period with ⟨sequence, count⟩
        rw [count] at short
        rcases own_short period sequence appended short with ⟨still, same, -⟩
        have placed : (history.withHarmonics family.dataset tables).harmonics family.dataset =
            tables := by
          rw [MeterHistoryStore.harmonics_withHarmonics, if_pos rfl]
        refine ⟨?_, underway.period, ?_⟩
        · rw [placed]
          exact still
        · rw [placed, same]
          exact underway.held
      · rcases foreign_tables period appended with ⟨same, kept⟩
        refine ⟨?_, underway.period, kept stored underway.held underway.period⟩
        rw [same]
        omega

theorem underway_run {stored : HarmonicFamily} (underway : Underway family stored window history)
    (own : OwnRecords family window) :
    stored ∈ ((historyMachine.run history (window.map Submission.operation)).harmonics
      family.dataset).families := by
  induction window generalizing history with
  | nil => exact underway.held
  | cons call window ih =>
      exact ih (underway_after underway own)
        (fun other member => own other (List.mem_cons_of_mem call member))

theorem Inserts.earlier {before later : List Submission} {first : Submission}
    {stored : HarmonicFamily}
    (inserts : Inserts (history.after first.operation).1 family before call later stored) :
    Inserts history family (first :: before) call later stored := by
  refine ⟨inserts.row, inserts.answered, ?_, inserts.kept⟩
  have table := inserts.table
  rw [after_store] at table
  exact table

theorem collecting_materializes (collecting : Collecting family window
      (history.harmonics family.dataset))
    (own : OwnRecords family window)
    (floors : ∀ call ∈ window, ∀ floor ∈ history.store.clearFloors family.dataset,
      floor < call.streamCursor)
    (few : ownCount family window ≤ harmonicRecordsPerFamily)
    (bounded : family.provenance.firstSample ≤ int64Max ∧
      family.provenance.targetSample ≤ int64Max) :
    Materializes history family window := by
  induction window generalizing history with
  | nil => exact absurd collecting not_collecting_nil
  | cons call window ih =>
      have rest : OwnRecords family window :=
        fun other later => own other (List.mem_cons_of_mem call later)
      have above : ∀ other ∈ window, ∀ floor ∈
          (history.after call.operation).1.store.clearFloors family.dataset,
          floor < other.streamCursor := by
        rw [after_store]
        exact fun other later => floors other (List.mem_cons_of_mem call later)
      have onward : Collecting family window
          ((history.after call.operation).1.harmonics family.dataset) →
          Materializes history family (call :: window) := by
        intro collects
        rcases ih collects rest above (ownCount_cons_le.trans few) with
          ⟨before, last, later, stored, rfl, inserts⟩
        exact ⟨call :: before, last, later, stored, rfl, inserts.earlier⟩
      by_cases named : recordPeriod call.record = some family.provenance.period
      · rcases own call List.mem_cons_self named with ⟨index, same⟩
        rcases own_collects (history.store.policies family.dataset) call.measuredAt
          collecting bounded same with ⟨after, inserted, appended, outcome⟩
        have reached := own_after same (floors call List.mem_cons_self) appended
        rcases outcome with ⟨stored, rfl, row, emptied, families⟩ | collects
        · have placed : (historyMachine.next history call.operation).harmonics family.dataset =
              after := by
            change (history.after call.operation).1.harmonics _ = _
            rw [reached, MeterHistoryStore.harmonics_withHarmonics, if_pos rfl]
          refine ⟨[], call, window, stored, rfl, row, congrArg Prod.snd reached, ?_, ?_⟩
          · change ((historyMachine.next history call.operation).harmonics _).families = _
            rw [placed]
            exact families
          · intro held
            have count : ownCount family (call :: window) = ownCount family window + 1 :=
              List.countP_cons_of_pos (decide_eq_true named)
            have underway : Underway family stored window
                (historyMachine.next history call.operation) := by
              refine ⟨?_, row.period, held⟩
              rw [placed, emptied, List.length_nil]
              omega
            have stays := underway_run underway rest
            exact stays
        · apply onward
          rw [reached, MeterHistoryStore.harmonics_withHarmonics, if_pos rfl]
          exact collects
      · apply onward
        have foreign : ∀ index, call.record ≠ family.records index := by
          intro index same
          exact named (same ▸ family.recordPeriod_records index)
        rcases foreign_after history named with
          same | ⟨row, policy, inserted, apart, cursor, keyed, appended⟩
        · rw [same]
          exact collecting_skip collecting foreign
        · exact foreign_collects collecting foreign appended keyed apart cursor

theorem answer_bounded {stored : HarmonicFamily} {calls : List Submission}
    (answered : some stored ∈ historyMachine.answers history (calls.map Submission.operation))
    (payload : stored.payload = List.ofFn family.records) :
    family.provenance.firstSample ≤ int64Max ∧ family.provenance.targetSample ≤ int64Max := by
  induction calls generalizing history with
  | nil => cases answered
  | cons call calls ih =>
      rcases List.mem_cons.mp answered with now | later
      · have step := submission_step history call
        have reached : (history.after call.operation).2 = some stored := now.symm
        generalize history.after call.operation = result at step reached
        cases step with
        | unchanged => cases reached
        | appended chunk dataset tables inserted read routed appended =>
            cases appended with
            | staged more => cases reached
            | ignored other full assembled known => cases reached
            | stored other full assembled free =>
                cases reached
                rcases assembleFamily_ok assembled with ⟨provenance, shape⟩
                rw [← RecordFamily.provenance_of_payload shape payload]
                exact shape.bounded
      · exact ih later

theorem families_answered {stored : HarmonicFamily} {dataset : DatabaseDataset}
    {calls : List Submission}
    (held : stored ∈ ((historyMachine.run history (calls.map Submission.operation)).harmonics
      dataset).families) :
    stored ∈ (history.harmonics dataset).families ∨
      some stored ∈ historyMachine.answers history (calls.map Submission.operation) := by
  induction calls generalizing history with
  | nil => exact .inl held
  | cons call calls ih =>
      rcases ih held with before | later
      · have step := submission_step history call
        have answered : historyMachine.answer history call.operation =
          (history.after call.operation).2 := rfl
        have next : historyMachine.next history call.operation =
          (history.after call.operation).1 := rfl
        rw [next] at before
        simp only [List.map_cons, Machine.answers, List.mem_cons, answered]
        generalize history.after call.operation = result at step before
        cases step with
        | unchanged => exact .inl before
        | appended chunk written tables inserted read routed appended =>
            dsimp only at before
            rw [MeterHistoryStore.harmonics_withHarmonics] at before
            split at before
            · next same =>
                rw [← MeterHistoryStore.harmonics_same same]
                cases appended with
                | staged more => exact .inl before
                | ignored other full assembled known => exact .inl before
                | stored other full assembled free =>
                    rcases List.mem_append.mp (HarmonicTables.mem_retained before) with old | new
                    · exact .inl old
                    · rw [List.mem_singleton.mp new]
                      exact .inr (.inl rfl)
            · exact .inl before
      · exact .inr (List.mem_cons_of_mem _ later)

end Deliveries

namespace DeliversFamily

variable {history : MeterHistoryStore} {family : RecordFamily} {window : List Submission}

theorem ownRecords (delivers : DeliversFamily history family window) :
    OwnRecords family window := by
  intro call member named
  have listed : call.record ∈ (window.map Submission.record).filter (fun record =>
      recordPeriod record = some family.provenance.period) :=
    List.mem_filter.mpr ⟨List.mem_map_of_mem member, decide_eq_true named⟩
  rcases List.mem_ofFn.mp (delivers.own.mem_iff.mp listed) with ⟨index, same⟩
  exact ⟨index, same.symm⟩

theorem ownCount_eq (delivers : DeliversFamily history family window) :
    ownCount family window = harmonicRecordsPerFamily := by
  have length := delivers.own.length_eq
  rw [List.length_ofFn, List.filter_map, List.length_map, ← List.countP_eq_length_filter] at length
  exact length

theorem collecting (delivers : DeliversFamily history family window) (staging : history.Staging)
    (matching : ∀ row ∈ family.stagedIn (history.harmonics family.dataset),
      row.payload = family.records row.sourceFragment) :
    Collecting family window (history.harmonics family.dataset) := by
  refine ⟨staging.harmonics family.dataset, matching, ?_, delivers.increasing,
    fun call member => (delivers.fresh call member).1,
    fun call member => (delivers.fresh call member).2, delivers.new⟩
  intro index
  have listed := delivers.own.mem_iff.mpr (List.mem_ofFn.mpr ⟨index, rfl⟩)
  rcases List.mem_map.mp (List.mem_of_mem_filter listed) with ⟨call, member, same⟩
  exact .inr ⟨call, member, same⟩

end DeliversFamily

theorem Materializes.answered {history : MeterHistoryStore} {family : RecordFamily}
    {window : List Submission} (materializes : Materializes history family window) :
    ∃ stored, some stored ∈ historyMachine.answers history (window.map Submission.operation) ∧
      stored.payload = List.ofFn family.records := by
  rcases materializes with ⟨before, call, later, stored, rfl, inserts⟩
  refine ⟨stored, ?_, inserts.row.payload⟩
  have listed := historyMachine.answer_mem_answers history (before.map Submission.operation)
    call.operation (later.map Submission.operation)
  rw [inserts.answered, ← List.map_cons, ← List.map_append] at listed
  exact listed

/-- In every reachable state, the records of a family that are delivered under new cursors become a
row of the harmonic families exactly when all that is staged under its sequence is its own and its
sample indices fit SQLite. Only the retention of the call that inserts the row can take it away,
and there is no such row afterwards when it was not inserted. No family ever has records of two
provenances. -/
theorem delivered_family_inserted (policies : DatabaseDataset → DatabaseStoragePolicy)
    (operations : List Operation) (family : RecordFamily) (window : List Submission)
    (delivers : DeliversFamily (historyMachine.run { store := { policies } } operations) family
      window) :
    (Materializes (historyMachine.run { store := { policies } } operations) family window ↔
      (∀ row ∈ family.stagedIn ((historyMachine.run { store := { policies } }
          operations).harmonics family.dataset),
        row.payload = family.records row.sourceFragment) ∧
      family.provenance.firstSample ≤ int64Max ∧ family.provenance.targetSample ≤ int64Max) ∧
    (∀ stored ∈ ((historyMachine.run (historyMachine.run { store := { policies } } operations)
          (window.map Submission.operation)).harmonics family.dataset).families,
      family.Row stored →
        Materializes (historyMachine.run { store := { policies } } operations) family window) ∧
    ∀ operation stored,
      historyMachine.answer (historyMachine.run { store := { policies } } operations) operation =
          some stored ∨
        stored ∈ (historyMachine.run { store := { policies } } operations).families →
      OneProvenance stored := by
  have staging := MeterHistoryStore.run_staging policies operations
  generalize historyMachine.run { store := { policies } } operations = history at *
  have own := delivers.ownRecords
  have count := delivers.ownCount_eq.le
  have stood : (∃ stored, some stored ∈ historyMachine.answers history
        (window.map Submission.operation) ∧ stored.payload = List.ofFn family.records) →
      (∀ row ∈ family.stagedIn (history.harmonics family.dataset),
        row.payload = family.records row.sourceFragment) ∧
      family.provenance.firstSample ≤ int64Max ∧ family.provenance.targetSample ≤ int64Max := by
    rintro ⟨stored, answered, payload⟩
    refine ⟨?_, answer_bounded answered payload⟩
    intro row held
    by_contra wrong
    have blocked : Blocked family window history := ⟨staging, count, .inl ⟨row, held, wrong⟩⟩
    exact blocked_never blocked own stored answered payload
  have collected : ((∀ row ∈ family.stagedIn (history.harmonics family.dataset),
        row.payload = family.records row.sourceFragment) ∧
      family.provenance.firstSample ≤ int64Max ∧ family.provenance.targetSample ≤ int64Max) →
      Materializes history family window := by
    rintro ⟨matching, bounded⟩
    exact collecting_materializes (delivers.collecting staging matching) own delivers.floors count
      bounded
  refine ⟨⟨fun materializes => stood materializes.answered, collected⟩, ?_, ?_⟩
  · intro stored held row
    rcases families_answered held with before | answered
    · exact absurd ⟨row.period, row.generation, row.sequence⟩ (delivers.new stored before)
    · exact collected (stood ⟨stored, answered, row.payload⟩)
  · rintro operation stored (answered | held)
    · exact (MeterHistoryStore.after_staging operation staging).2 stored answered
    · exact staging.families stored held

/-- The records of a family in the order of their fragments, from a first cursor on. -/
def RecordFamily.inOrder (family : RecordFamily) (first : Nat) : List Submission :=
  List.ofFn (fun index => ⟨family.records index, first + index.val, 0⟩)

theorem inOrder_delivers {history : MeterHistoryStore} {family : RecordFamily} {first : Nat}
    (pending : ∀ row ∈ (history.harmonics family.dataset).pending, row.streamCursor < first)
    (families : (history.harmonics family.dataset).families = [])
    (floors : history.store.clearFloors family.dataset = none) :
    DeliversFamily history family (family.inOrder first) := by
  refine ⟨?_, ?_, ?_, ?_, ?_⟩
  · have records : (family.inOrder first).map Submission.record = List.ofFn family.records := by
      rw [RecordFamily.inOrder, List.map_ofFn]
      rfl
    rw [records, List.filter_eq_self.mpr]
    intro record member
    rcases List.mem_ofFn.mp member with ⟨index, rfl⟩
    exact decide_eq_true (family.recordPeriod_records index)
  · rw [RecordFamily.inOrder, List.pairwise_ofFn]
    intro earlier later before
    exact Nat.add_lt_add_left before first
  · intro call member
    rcases List.mem_ofFn.mp member with ⟨index, rfl⟩
    rw [families]
    exact ⟨fun row held => (pending row held).trans_le (Nat.le_add_right _ _),
      fun _ absent => nomatch absent⟩
  · intro call _ floor held
    rw [floors] at held
    cases held
  · rw [families]
    exact fun _ absent => nomatch absent

def placeWord (index : Fin 42) : UInt32 :=
  let channel := UInt32.ofNat (index.val / 6)
  let chunk := UInt32.ofNat (index.val % 6)
  let firstOrder := chunk * 23 + 1
  channel ||| chunk <<< 3 ||| firstOrder <<< 7 ||| min 23 (127 - firstOrder + 1) <<< 15 |||
    0x7F600000

/-- A record of the three-second family 3 of a configuration generation. -/
def threeSecondRecord (generation : UInt32) (index : Fin 42) : MeterRecord where
  words := fun word => ([0x3152544d, 0x001F0001, 256, 3, generation, 32000, 96000, 0x7f, 0x3e,
    0x1000, 0, 0x18700, 0, placeWord index, 0x4000003D, 0x030A327F] : List UInt32).getD word.val
      (if word = 62 then 100 else if word = 63 then 114 else 0)

def threeSecondProvenance (generation : UInt32) : HarmonicProvenance where
  period := .cycles150And180
  sequence := 3
  configurationGeneration := generation
  sampleRateHz := 32000
  sampleCount := 96000
  validMask := 0x7f
  status := 0x3e
  firstSample := 0x1000
  targetSample := 0x18700
  contributors := 15
  timeAligned := true
  firstSourceSequence := 100
  lastSourceSequence := 114
  qualifiedMaxOrder := 127
  nominalFrequencyHz := 50
  cycleCount := 10
  filterProfileId := 3

theorem entriesFault_empty {record : MeterRecord} {chunk : HarmonicRecordChunk}
    (empty : ∀ index < ordersPerRecord chunk.provenance.period, packedEntry record index = 0) :
    entriesFault record chunk = none := by
  unfold entriesFault
  rw [List.findSome?_eq_none_iff]
  intro index member
  dsimp only
  rw [empty index (List.mem_range.mp member)]
  split
  · rfl
  · simp [entryFault, harmonicPoint]

theorem threeSecondRecord_carries :
    ∀ index, Carries (threeSecondRecord 9 index) (threeSecondProvenance 9) index := by
  have header : ∀ index : Fin 42, (threeSecondRecord 9 index).headerValid = true ∧
      (threeSecondRecord 9 index).recordFormat = some .harmonicAggregate ∧
      ((threeSecondRecord 9 index).sampleRateHz ≠ 0 ∧
        (threeSecondRecord 9 index).blockSampleCount ≠ 0) ∧
      (threeSecondRecord 9 index).word 7 = 0x7f ∧ (threeSecondRecord 9 index).status = 0x3e ∧
      (harmonicProvenance (threeSecondRecord 9 index)).toOption =
        some (threeSecondProvenance 9) ∧
      (chunkOf (threeSecondRecord 9 index) (threeSecondProvenance 9)).map
        (fun chunk => (chunk.provenance, chunk.recordIndex)) =
          some (threeSecondProvenance 9, index) ∧
      ∀ place < 23, packedEntry (threeSecondRecord 9 index) place = 0 := by
    decide +kernel
  intro index
  rcases header index with ⟨valid, format, span, mask, status, provenance, placed, empty⟩
  rcases Option.map_eq_some_iff.mp placed with ⟨chunk, found, same⟩
  rw [Prod.mk.injEq] at same
  have entries : entriesFault (threeSecondRecord 9 index) chunk = none := by
    apply entriesFault_empty
    rw [same.1]
    exact empty
  refine ⟨chunk, ?_, same.1, same.2⟩
  unfold decodeHarmonicRecord
  rw [if_neg (by rw [valid, format]; decide), if_neg (not_or.mpr span),
    if_neg (by rw [mask]; decide), if_neg (by rw [status]; decide),
    Loops.toOption_ok provenance]
  dsimp only
  rw [found]
  dsimp only
  rw [show metadataFault (threeSecondProvenance 9) = none by decide, entries]

def threeSecondFamily : RecordFamily where
  provenance := threeSecondProvenance 9
  dataset := .harmonicCycles150And180
  records := threeSecondRecord 9
  routed := rfl
  carried := threeSecondRecord_carries

theorem whole_family_inserted :
    ∃ stored ∈ ((historyMachine.run volatileHistory
        ((threeSecondFamily.inOrder 1).map Submission.operation)).harmonics
          threeSecondFamily.dataset).families, threeSecondFamily.Row stored := by
  have delivered := (delivered_family_inserted (fun _ => ⟨.memory, {}⟩) [] threeSecondFamily
    (threeSecondFamily.inOrder 1)
    (inOrder_delivers (fun _ absent => nomatch absent) rfl rfl)).1.mpr
    ⟨fun _ absent => (nomatch absent), by decide, by decide⟩
  rcases delivered with ⟨before, call, later, stored, split, inserts⟩
  refine ⟨stored, ?_, inserts.row⟩
  rw [split]
  apply inserts.kept
  rw [inserts.table]
  -- without caps the retention keeps everything
  exact List.mem_append_right _ List.mem_cons_self

/-- One record of sequence 3 from before a new configuration. -/
def leftover : List Operation :=
  [.appendHarmonicRecord (threeSecondRecord 8 0) 1 0 (.ok ())]

/-- A fragment of an interrupted family with the same sequence keeps the new one out. -/
theorem leftover_fragment_blocks :
    DeliversFamily (historyMachine.run volatileHistory leftover) threeSecondFamily
        (threeSecondFamily.inOrder 2) ∧
      ¬ Materializes (historyMachine.run volatileHistory leftover) threeSecondFamily
          (threeSecondFamily.inOrder 2) ∧
      ∀ stored ∈ ((historyMachine.run (historyMachine.run volatileHistory leftover)
          ((threeSecondFamily.inOrder 2).map Submission.operation)).harmonics
            threeSecondFamily.dataset).families, ¬ threeSecondFamily.Row stored := by
  have delivers : DeliversFamily (historyMachine.run volatileHistory leftover) threeSecondFamily
      (threeSecondFamily.inOrder 2) :=
    inOrder_delivers (by decide +kernel) (by decide +kernel) (by decide +kernel)
  have blocked : Blocked threeSecondFamily (threeSecondFamily.inOrder 2)
      (historyMachine.run volatileHistory leftover) := by
    refine ⟨MeterHistoryStore.run_staging _ leftover, delivers.ownCount_eq.le, .inl ?_⟩
    decide +kernel
  have never := blocked_never blocked delivers.ownRecords
  refine ⟨delivers, ?_, ?_⟩
  · intro materializes
    rcases materializes.answered with ⟨stored, answered, payload⟩
    exact never stored answered payload
  · intro stored held row
    rcases families_answered held with before | answered
    · exact delivers.new stored before ⟨row.period, row.generation, row.sequence⟩
    · exact never stored answered row.payload

end Msap1.Historian
