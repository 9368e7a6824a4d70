import Msap1.Historian.HarmonicAssembly
import Msap1.Historian.ClearFloors

/-! The harmonic tables along a run: fragments are staged under the key of their record, no
sequence keeps all of its fragments, and every family has one provenance. -/

namespace Msap1.Historian

open Meter
open Spool (DatabaseStoragePolicy)
open MeterHistoryStore (Operation fragmentOf)

namespace HarmonicTables

variable {tables after : HarmonicTables} {row : PendingFragment} {policy : DatabaseStoragePolicy}
variable {inserted : Option HarmonicFamily}

def grown (tables : HarmonicTables) (row : PendingFragment) : List PendingFragment :=
  insertFragment (tables.abandoned row.period row.sourceSequence) row

/-- The pending rows once the sequence of a fragment is complete. -/
def finished (tables : HarmonicTables) (row : PendingFragment) : List PendingFragment :=
  (tables.grown row).filter (fun other =>
    !(other.period = row.period && other.sourceSequence = row.sourceSequence))

/-- The fragments that are staged beside a new one, which is the last of them. -/
def gatheredFor (tables : HarmonicTables) (row : PendingFragment) : List PendingFragment :=
  { tables with pending := tables.grown row }.staged row.period row.sourceSequence

/-- What a fragment that is appended does to the tables. -/
inductive Appended (tables : HarmonicTables) (policy : DatabaseStoragePolicy)
    (row : PendingFragment) : HarmonicTables → Option HarmonicFamily → Prop
  | staged (more : (tables.gatheredFor row).length ≠ harmonicRecordsPerFamily) :
      Appended tables policy row ⟨tables.grown row, tables.families⟩ none
  | ignored (family : HarmonicFamily)
      (full : (tables.gatheredFor row).length = harmonicRecordsPerFamily)
      (assembled : assembleFamily (inFragmentOrder (tables.gatheredFor row)) = .ok family)
      (known : tables.collides family) :
      Appended tables policy row ⟨tables.finished row, tables.families⟩ none
  | stored (family : HarmonicFamily)
      (full : (tables.gatheredFor row).length = harmonicRecordsPerFamily)
      (assembled : assembleFamily (inFragmentOrder (tables.gatheredFor row)) = .ok family)
      (free : ¬ tables.collides family) :
      Appended tables policy row ⟨tables.finished row,
        retained policy row.period row.measuredAt (tables.families ++ [family])⟩ (some family)

theorem appendFragment_ok (appended : tables.appendFragment policy row = .ok (after, inserted)) :
    Appended tables policy row after inserted := by
  unfold appendFragment at appended
  dsimp only at appended
  split at appended
  · next more =>
      cases appended
      exact .staged more
  · next full =>
      split at appended
      · cases appended
      · next family assembled =>
          split at appended
          · next known =>
              cases appended
              exact .ignored family (not_not.mp full) assembled known
          · next free =>
              cases appended
              exact .stored family (not_not.mp full) assembled free

theorem mem_grown {other : PendingFragment} (member : other ∈ tables.grown row) :
    other ∈ tables.pending ∨ other = row := by
  unfold grown insertFragment at member
  split at member
  · exact .inl (List.mem_of_mem_filter member)
  · rcases List.mem_append.mp member with old | new
    · exact .inl (List.mem_of_mem_filter old)
    · exact .inr (List.mem_singleton.mp new)

theorem mem_finished {other : PendingFragment} (member : other ∈ tables.finished row) :
    other ∈ tables.grown row := List.mem_of_mem_filter member

theorem mem_retained {families : List HarmonicFamily} {period : MeasurementPeriod}
    {measuredAt : Int} {family : HarmonicFamily}
    (member : family ∈ retained policy period measuredAt families) : family ∈ families := by
  unfold retained at member
  dsimp only at member
  split at member
  · split at member
    · exact member
    · exact List.mem_of_mem_filter member
  · split at member
    · exact List.mem_of_mem_filter member
    · exact List.mem_of_mem_filter (List.mem_of_mem_filter member)

theorem mem_surplusFamilies {surplus : Nat} {families : List HarmonicFamily}
    {family : HarmonicFamily} (member : family ∈ surplusFamilies surplus families) :
    family ∈ families := by
  induction families generalizing surplus with
  | nil => exact member
  | cons first rest ih =>
      unfold surplusFamilies at member
      split at member
      · cases member
      · rcases List.mem_cons.mp member with rfl | later
        · exact List.mem_cons_self
        · exact List.mem_cons_of_mem first (ih later)

theorem retained_other {families : List HarmonicFamily} {period : MeasurementPeriod}
    {measuredAt : Int} {family : HarmonicFamily} (apart : family.period ≠ period)
    (member : family ∈ families) : family ∈ retained policy period measuredAt families := by
  have spared : ∀ {young : List HarmonicFamily} (surplus : Nat), family ∈ young →
      family ∈ young.filter (fun other => !(surplusFamilies surplus
        ((young.filter (fun other => other.period = period)).mergeSort
          (fun left right => decide (left.measuredAt ≤ right.measuredAt)))).contains other) := by
    intro young surplus held
    refine List.mem_filter.mpr ⟨held, ?_⟩
    rw [Bool.not_eq_true', List.contains_eq_mem, decide_eq_false_iff_not]
    intro victim
    have own := (List.mergeSort_perm _ _).mem_iff.mp (mem_surplusFamilies victim)
    exact apart (of_decide_eq_true (List.mem_filter.mp own).2)
  have aged : ∀ age : Nat, family ∈ families.filter (fun other => !(other.period = period &&
      decide (other.measuredAt < Spool.ageCutoff measuredAt age))) :=
    fun age => List.mem_filter.mpr ⟨member, by simp [apart]⟩
  unfold retained
  dsimp only
  split
  · split
    · exact member
    · exact aged _
  · refine spared _ ?_
    split
    · exact member
    · exact aged _

theorem mem_staged {period : MeasurementPeriod} {sequence : UInt32} {other : PendingFragment} :
    other ∈ tables.staged period sequence ↔
      other ∈ tables.pending ∧ other.period = period ∧ other.sourceSequence = sequence := by
  rw [staged, List.mem_filter, Bool.and_eq_true, decide_eq_true_eq, decide_eq_true_eq]

section Groups

variable {period : MeasurementPeriod} {sequence : UInt32} {families : List HarmonicFamily}

theorem staged_abandoned (own : row.period = period → row.sourceSequence = sequence) :
    { tables with pending := tables.abandoned row.period row.sourceSequence }.staged
      period sequence = tables.staged period sequence := by
  unfold staged abandoned
  rw [List.filter_filter]
  apply List.filter_congr
  intro other _
  by_cases named : other.period = period ∧ other.sourceSequence = sequence
  · rcases named with ⟨rfl, rfl⟩
    by_cases same : other.period = row.period
    · simp [same, own same.symm]
    · simp [same]
  · rw [not_and] at named
    by_cases same : other.period = period
    · simp [same, named same]
    · simp [same]

theorem staged_grown_other (apart : row.period ≠ period) :
    ({ tables with pending := tables.grown row } : HarmonicTables).staged period sequence =
      tables.staged period sequence := by
  refine Eq.trans ?_ (staged_abandoned (fun same => absurd same apart))
  unfold grown insertFragment
  split
  · rfl
  · simp [staged, apart]

theorem staged_finished_other (apart : row.period ≠ period) :
    ({ tables with pending := tables.finished row } : HarmonicTables).staged period sequence =
      tables.staged period sequence := by
  refine Eq.trans ?_ (staged_grown_other apart)
  unfold staged finished
  rw [List.filter_filter]
  apply List.filter_congr
  intro other _
  by_cases same : other.period = period
  · have other : ¬ period = row.period := fun equal => apart equal.symm
    simp [same, other]
  · simp [same]

theorem staged_finished_own :
    ({ tables with pending := tables.finished row } : HarmonicTables).staged
      row.period row.sourceSequence = [] := by
  unfold staged finished
  rw [List.filter_filter, List.filter_eq_nil_iff]
  intro other _
  simp

theorem gatheredFor_eq (tables : HarmonicTables) (row : PendingFragment) :
    tables.gatheredFor row =
        tables.staged row.period row.sourceSequence ∧
      (∃ other ∈ tables.pending, other.streamCursor = row.streamCursor ∨
        other.period = row.period ∧ other.sourceSequence = row.sourceSequence ∧
          other.sourceFragment = row.sourceFragment) ∨
    tables.gatheredFor row = tables.staged row.period row.sourceSequence ++ [row] ∧
      ∀ other ∈ tables.staged row.period row.sourceSequence,
        other.sourceFragment ≠ row.sourceFragment := by
  have kept : ({ tables with pending := tables.abandoned row.period row.sourceSequence } :
      HarmonicTables).staged row.period row.sourceSequence =
        tables.staged row.period row.sourceSequence := staged_abandoned (fun _ => rfl)
  unfold gatheredFor grown insertFragment
  split
  · next taken =>
      rcases taken with ⟨other, member, key⟩
      exact .inl ⟨kept, other, List.mem_of_mem_filter member, key⟩
  · next free =>
      refine .inr ⟨?_, ?_⟩
      · refine Eq.trans ?_ (congrArg (· ++ [row]) kept)
        simp [staged]
      · intro other member same
        rw [← kept] at member
        rcases mem_staged.mp member with ⟨held, period, sequence⟩
        exact free ⟨other, held, .inr ⟨period, sequence, same⟩⟩

theorem staged_grown_sublist (apart : ¬ (row.period = period ∧ row.sourceSequence = sequence)) :
    (({ tables with pending := tables.grown row } : HarmonicTables).staged period
      sequence).Sublist (tables.staged period sequence) := by
  have kept : (({ tables with pending := tables.abandoned row.period row.sourceSequence } :
      HarmonicTables).staged period sequence).Sublist (tables.staged period sequence) :=
    List.Sublist.filter _ List.filter_sublist
  unfold grown insertFragment
  split
  · exact kept
  · rw [not_and] at apart
    have missing : (⟨tables.abandoned row.period row.sourceSequence ++ [row],
        tables.families⟩ : HarmonicTables).staged period sequence =
          (⟨tables.abandoned row.period row.sourceSequence, tables.families⟩ :
            HarmonicTables).staged period sequence := by
      by_cases same : row.period = period
      · simp [staged, same, apart same]
      · simp [staged, same]
    rw [missing]
    exact kept

end Groups

/-- A fragment is staged under the key of the record it holds. -/
def Keyed (row : PendingFragment) : Prop :=
  ∃ provenance, Carries row.payload provenance row.sourceFragment ∧
    provenance.period = row.period ∧ provenance.sequence = row.sourceSequence

/-- The staged fragments are keyed, and no sequence has all of them. -/
structure Staging (tables : HarmonicTables) : Prop where
  keys : ∀ period sequence,
    ((tables.staged period sequence).map PendingFragment.sourceFragment).Nodup
  short : ∀ period sequence,
    (tables.staged period sequence).length < harmonicRecordsPerFamily
  keyed : ∀ row ∈ tables.pending, Keyed row

theorem staging_empty : Staging {} :=
  ⟨fun _ _ => List.nodup_nil, fun _ _ => Nat.zero_lt_succ 41, fun _ absent => nomatch absent⟩

theorem staging_sublist (staging : Staging tables)
    (fewer : after.pending.Sublist tables.pending) : Staging after := by
  refine ⟨?_, ?_, fun row member => staging.keyed row (fewer.subset member)⟩
  · intro period sequence
    exact (staging.keys period sequence).sublist ((fewer.filter _).map _)
  · intro period sequence
    exact (fewer.filter _).length_le.trans_lt (staging.short period sequence)

theorem gatheredFor_keys (row : PendingFragment) (staging : Staging tables) :
    ((tables.gatheredFor row).map PendingFragment.sourceFragment).Nodup ∧
      (tables.gatheredFor row).length ≤ harmonicRecordsPerFamily := by
  have keys := staging.keys row.period row.sourceSequence
  have short := staging.short row.period row.sourceSequence
  rcases gatheredFor_eq tables row with ⟨same, -⟩ | ⟨joined, apart⟩
  · rw [same]
    exact ⟨keys, short.le⟩
  · rw [joined, List.map_append, List.length_append]
    refine ⟨?_, short⟩
    rw [List.map_singleton, List.nodup_append]
    refine ⟨keys, List.nodup_singleton _, ?_⟩
    intro fragment member last own
    rcases List.mem_map.mp member with ⟨other, held, rfl⟩
    rw [List.mem_singleton.mp own]
    exact apart other held

theorem appended_staging (appended : Appended tables policy row after inserted)
    (keyed : Keyed row) (staging : Staging tables) : Staging after := by
  have all : ∀ other ∈ tables.grown row, Keyed other := by
    intro other member
    rcases mem_grown member with old | rfl
    · exact staging.keyed other old
    · exact keyed
  have finished : ∀ families, Staging ⟨tables.finished row, families⟩ := by
    intro families
    have groups : ∀ period sequence,
        ((⟨tables.finished row, families⟩ : HarmonicTables).staged period sequence).Sublist
          (tables.staged period sequence) := by
      intro period sequence
      by_cases own : row.period = period ∧ row.sourceSequence = sequence
      · rcases own with ⟨rfl, rfl⟩
        rw [show (⟨tables.finished row, families⟩ : HarmonicTables).staged row.period
          row.sourceSequence = [] from staged_finished_own]
        exact List.nil_sublist _
      · exact (List.Sublist.filter _ List.filter_sublist).trans (staged_grown_sublist own)
    refine ⟨?_, ?_, fun other member => all other (mem_finished member)⟩
    · intro period sequence
      exact (staging.keys period sequence).sublist ((groups period sequence).map _)
    · intro period sequence
      exact (groups period sequence).length_le.trans_lt (staging.short period sequence)
  cases appended with
  | staged more =>
      rcases gatheredFor_keys row staging with ⟨keys, most⟩
      refine ⟨?_, ?_, all⟩
      · intro period sequence
        by_cases own : row.period = period ∧ row.sourceSequence = sequence
        · rcases own with ⟨rfl, rfl⟩
          exact keys
        · exact (staging.keys period sequence).sublist ((staged_grown_sublist own).map _)
      · intro period sequence
        by_cases own : row.period = period ∧ row.sourceSequence = sequence
        · rcases own with ⟨rfl, rfl⟩
          exact lt_of_le_of_ne most more
        · exact (staged_grown_sublist own).length_le.trans_lt (staging.short period sequence)
  | ignored family full assembled known => exact finished tables.families
  | stored family full assembled free => exact finished _

theorem gatheredFor_keyed (staging : Staging tables) (keyed : Keyed row) :
    ∀ other ∈ tables.gatheredFor row, Keyed other ∧ other.period = row.period ∧
      (other ∈ tables.pending ∨ other = row) := by
  intro other member
  rcases mem_staged.mp member with ⟨held, period, -⟩
  have known := mem_grown held
  refine ⟨?_, period, known⟩
  rcases known with old | rfl
  · exact staging.keyed other old
  · exact keyed

theorem assembled_period {family : HarmonicFamily} (staging : Staging tables) (keyed : Keyed row)
    (assembled : assembleFamily (inFragmentOrder (tables.gatheredFor row)) = .ok family) :
    ∃ provenance, Assembled (inFragmentOrder (tables.gatheredFor row)) family provenance ∧
      provenance.period = row.period := by
  rcases assembleFamily_ok assembled with ⟨provenance, shape⟩
  refine ⟨provenance, shape, ?_⟩
  have first : 0 < (inFragmentOrder (tables.gatheredFor row)).length := by
    rw [shape.count]
    exact Nat.zero_lt_succ 41
  have member := List.get_mem _ ⟨0, first⟩
  rcases gatheredFor_keyed staging keyed _ ((inFragmentOrder_perm _).mem_iff.mp member) with
    ⟨⟨named, carries, period, -⟩, own, -⟩
  rcases shape.carried _ member with ⟨index, carried⟩
  rw [(carried.unique carries).1, period, own]

end HarmonicTables

/-- All records of a family come from one provenance. -/
def OneProvenance (family : HarmonicFamily) : Prop :=
  ∃ provenance, ∀ record ∈ family.payload, ∃ index, Carries record provenance index

theorem Assembled.oneProvenance {rows : List PendingFragment} {family : HarmonicFamily}
    {provenance : HarmonicProvenance} (shape : Assembled rows family provenance) :
    OneProvenance family := by
  refine ⟨provenance, ?_⟩
  rw [shape.payload]
  intro record member
  rcases List.mem_map.mp member with ⟨row, held, rfl⟩
  exact shape.carried row held

namespace MeterHistoryStore

variable {history : MeterHistoryStore} {record : MeterRecord} {cursor : Nat} {measuredAt : Int}

/-- What an append of a harmonic record does to the store. -/
inductive HarmonicStep (history : MeterHistoryStore) (record : MeterRecord) (cursor : Nat)
    (measuredAt : Int) : MeterHistoryStore × Option HarmonicFamily → Prop
  | unchanged : HarmonicStep history record cursor measuredAt (history, none)
  | appended (chunk : HarmonicRecordChunk) (dataset : DatabaseDataset) (tables : HarmonicTables)
      (inserted : Option HarmonicFamily) (read : decodeHarmonicRecord record = .ok chunk)
      (routed : harmonicDatasetFor chunk.provenance.period = .ok dataset)
      (appended : (history.harmonics dataset).Appended (history.store.policies dataset)
        (fragmentOf chunk record cursor measuredAt) tables inserted) :
      HarmonicStep history record cursor measuredAt (history.withHarmonics dataset tables, inserted)

theorem after_harmonicStep (history : MeterHistoryStore) (record : MeterRecord) (cursor : Nat)
    (measuredAt : Int) (stored : Except Failure Unit) :
    HarmonicStep history record cursor measuredAt
      (history.after (.appendHarmonicRecord record cursor measuredAt stored)) := by
  unfold after
  dsimp only
  split
  · next result outcome =>
      unfold appendHarmonicRecord at outcome
      split at outcome
      · cases outcome
      · next chunk read =>
          split at outcome
          · cases outcome
          · split at outcome
            · cases outcome
            · next dataset routed =>
                split at outcome
                · cases outcome
                  exact .unchanged
                · split at outcome
                  · cases outcome
                  · split at outcome
                    · cases outcome
                    · next tables inserted done =>
                        cases outcome
                        exact .appended chunk dataset tables inserted read routed
                          (HarmonicTables.appendFragment_ok done)
  · exact .unchanged

theorem fragmentOf_keyed {chunk : HarmonicRecordChunk}
    (read : decodeHarmonicRecord record = .ok chunk) :
    HarmonicTables.Keyed (fragmentOf chunk record cursor measuredAt) :=
  ⟨chunk.provenance, ⟨chunk, read, rfl, rfl⟩, rfl, rfl⟩

theorem harmonics_withHarmonics (written dataset : DatabaseDataset) (tables : HarmonicTables) :
    (history.withHarmonics written tables).harmonics dataset =
      if history.store.volatile written = history.store.volatile dataset then tables
      else history.harmonics dataset := by
  unfold harmonics withHarmonics
  cases history.store.volatile written <;> cases volatile : history.store.volatile dataset <;>
    simp [volatile]

theorem harmonics_same {first second : DatabaseDataset}
    (same : history.store.volatile first = history.store.volatile second) :
    history.harmonics first = history.harmonics second := by
  unfold harmonics
  rw [same]

/-- Both databases stage keyed fragments and hold families of one provenance each. -/
structure Staging (history : MeterHistoryStore) : Prop where
  memory : history.memoryHarmonics.Staging
  persistent : history.persistentHarmonics.Staging
  families : ∀ family ∈ history.families, OneProvenance family

theorem Staging.harmonics (staging : history.Staging) (dataset : DatabaseDataset) :
    (history.harmonics dataset).Staging := by
  unfold MeterHistoryStore.harmonics
  split
  · exact staging.memory
  · exact staging.persistent

theorem mem_harmonics_families {dataset : DatabaseDataset} {family : HarmonicFamily}
    (member : family ∈ (history.harmonics dataset).families) : family ∈ history.families := by
  unfold MeterHistoryStore.harmonics at member
  split at member
  · exact List.mem_append_left _ member
  · exact List.mem_append_right _ member

theorem staging_fewer {after : MeterHistoryStore} (staging : history.Staging)
    (memory : after.memoryHarmonics.pending.Sublist history.memoryHarmonics.pending)
    (persistent : after.persistentHarmonics.pending.Sublist history.persistentHarmonics.pending)
    (families : ∀ family ∈ after.families, family ∈ history.families) : after.Staging :=
  ⟨HarmonicTables.staging_sublist staging.memory memory,
    HarmonicTables.staging_sublist staging.persistent persistent,
    fun family member => staging.families family (families family member)⟩

theorem staging_withHarmonics {dataset : DatabaseDataset} {tables : HarmonicTables}
    (staging : history.Staging) (written : tables.Staging)
    (families : ∀ family ∈ tables.families, OneProvenance family) :
    (history.withHarmonics dataset tables).Staging := by
  unfold withHarmonics
  split
  · refine ⟨written, staging.persistent, ?_⟩
    intro family member
    rcases List.mem_append.mp member with new | old
    · exact families family new
    · exact staging.families family (List.mem_append_right _ old)
  · refine ⟨staging.memory, written, ?_⟩
    intro family member
    rcases List.mem_append.mp member with old | new
    · exact staging.families family (List.mem_append_left _ old)
    · exact families family new

theorem appended_oneProvenance {tables after : HarmonicTables} {policy : DatabaseStoragePolicy}
    {row : PendingFragment} {inserted : Option HarmonicFamily}
    (appended : tables.Appended policy row after inserted)
    (families : ∀ family ∈ tables.families, OneProvenance family) :
    (∀ family ∈ after.families, OneProvenance family) ∧
      ∀ family, inserted = some family → OneProvenance family := by
  cases appended with
  | staged more => exact ⟨families, fun _ absent => nomatch absent⟩
  | ignored family full assembled known => exact ⟨families, fun _ absent => nomatch absent⟩
  | stored family full assembled free =>
      rcases assembleFamily_ok assembled with ⟨provenance, shape⟩
      refine ⟨?_, fun _ same => Option.some.inj same ▸ shape.oneProvenance⟩
      intro other member
      rcases List.mem_append.mp (HarmonicTables.mem_retained member) with old | new
      · exact families other old
      · rw [List.mem_singleton.mp new]
        exact shape.oneProvenance

theorem harmonicStep_staging {result : MeterHistoryStore × Option HarmonicFamily}
    (step : HarmonicStep history record cursor measuredAt result) (staging : history.Staging) :
    result.1.Staging ∧ ∀ family, result.2 = some family → OneProvenance family := by
  cases step with
  | unchanged => exact ⟨staging, fun _ absent => nomatch absent⟩
  | appended chunk dataset tables inserted read routed appended =>
      have uniform := appended_oneProvenance appended
        (fun family member => staging.families family (mem_harmonics_families member))
      have written := HarmonicTables.appended_staging appended (fragmentOf_keyed read)
        (staging.harmonics dataset)
      exact ⟨staging_withHarmonics staging written uniform.1, uniform.2⟩

theorem families_fewer {after : MeterHistoryStore}
    (memory : after.memoryHarmonics.families.Sublist history.memoryHarmonics.families)
    (persistent : after.persistentHarmonics.families.Sublist
      history.persistentHarmonics.families) :
    ∀ family ∈ after.families, family ∈ history.families := by
  intro family member
  exact (memory.append persistent).subset member

theorem clearDatasets_staging (datasets : List DatabaseDataset) (through : Nat)
    (clearing : Clearing) (staging : history.Staging) :
    (history.clearDatasets datasets through clearing).1.Staging := by
  unfold clearDatasets
  split
  · exact staging
  · cases clearing with
    | done =>
        exact staging_fewer staging List.filter_sublist List.filter_sublist
          (families_fewer List.filter_sublist List.filter_sublist)
    | memoryFailed failure => exact staging
    | persistentFailed failure =>
        exact staging_fewer staging List.filter_sublist (List.Sublist.refl _)
          (families_fewer List.filter_sublist (List.Sublist.refl _))
    | vacuumFailed failure =>
        exact staging_fewer staging List.filter_sublist List.filter_sublist
          (families_fewer List.filter_sublist List.filter_sublist)

theorem noFamily_provenance (family : HarmonicFamily) (absent : none = some family) :
    OneProvenance family := by
  cases absent

theorem after_staging (operation : Operation) (staging : history.Staging) :
    (history.after operation).1.Staging ∧
      ∀ family, (history.after operation).2 = some family → OneProvenance family := by
  cases operation with
  | append update cursor measuredAt stored =>
      cases outcome : history.append update cursor measuredAt stored with
      | error failure =>
          simp only [after, outcome]
          exact ⟨staging, noFamily_provenance⟩
      | ok later =>
          simp only [after, outcome]
          rcases Loops.bind_ok outcome with ⟨store, -, made⟩
          cases made
          exact ⟨⟨staging.memory, staging.persistent, staging.families⟩,
            noFamily_provenance⟩
  | appendHarmonicRecord record cursor measuredAt stored =>
      exact harmonicStep_staging
        (after_harmonicStep history record cursor measuredAt stored) staging
  | clearDatasets datasets through clearing =>
      exact ⟨clearDatasets_staging datasets through clearing staging,
        noFamily_provenance⟩
  | recreateDatabase through renamed =>
      refine ⟨?_, noFamily_provenance⟩
      cases renamed with
      | error failure => exact staging
      | ok done =>
          exact ⟨HarmonicTables.staging_empty, HarmonicTables.staging_empty,
            fun family member => absurd member List.not_mem_nil⟩
  | applyPolicies policies =>
      exact ⟨staging_fewer staging List.filter_sublist (List.Sublist.refl _)
        (families_fewer List.filter_sublist (List.Sublist.refl _)),
          noFamily_provenance⟩
  | restart policies =>
      exact ⟨staging_fewer staging (List.nil_sublist _) (List.Sublist.refl _)
        (families_fewer (List.nil_sublist _) (List.Sublist.refl _)),
          noFamily_provenance⟩

theorem run_staging (policies : DatabaseDataset → DatabaseStoragePolicy)
    (operations : List Operation) :
    (historyMachine.run { store := { policies } } operations).Staging := by
  apply historyMachine.run_invariant Staging
  · intro history operation staging
    exact (after_staging operation staging).1
  · exact ⟨HarmonicTables.staging_empty, HarmonicTables.staging_empty,
      fun _ absent => nomatch absent⟩

end MeterHistoryStore

end Msap1.Historian
