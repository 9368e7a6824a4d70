import Msap1.Historian.HarmonicStore

/-! What the staged fragments of a sequence are assembled to: one family of one provenance, and
always that family when all 42 fragments are its own. -/

namespace Msap1.Historian

open Meter

/-- A record carries a chunk of one provenance at one place. -/
structure Carries (record : MeterRecord) (provenance : HarmonicProvenance) (index : Fin 42) :
    Prop where
  decoded : ∃ chunk, decodeHarmonicRecord record = .ok chunk ∧ chunk.provenance = provenance ∧
    chunk.recordIndex = index

/-- The 42 records of one family, in the order of their fragments. -/
structure RecordFamily where
  provenance : HarmonicProvenance
  dataset : DatabaseDataset
  records : Fin 42 → MeterRecord
  routed : harmonicDatasetFor provenance.period = .ok dataset
  carried : ∀ index, Carries (records index) provenance index

theorem Carries.unique {record : MeterRecord} {first second : HarmonicProvenance}
    {left right : Fin 42} (one : Carries record first left) (other : Carries record second right) :
    first = second ∧ left = right := by
  rcases one.decoded with ⟨chunk, read, rfl, rfl⟩
  rcases other.decoded with ⟨same, again, rfl, rfl⟩
  rw [read] at again
  cases again
  exact ⟨rfl, rfl⟩

/-- Whose records the assembly has gathered so far. -/
structure Gathered (rows : List PendingFragment) (assembly : Assembly) : Prop where
  expected : assembly.expectedFragment = rows.length
  growing : ∀ family, assembly.assembler.partialFamily = some family →
    family.receivedCount < harmonicRecordsPerFamily ∧ family.receivedCount ≤ rows.length ∧
      (family.receivedCount = rows.length → ∀ row ∈ rows,
        ∃ index, Carries row.payload family.snapshot.provenance index)
  complete : ∀ snapshot, assembly.snapshot = some snapshot →
    harmonicRecordsPerFamily ≤ rows.length ∧
      (rows.length = harmonicRecordsPerFamily → ∀ row ∈ rows,
        ∃ index, Carries row.payload snapshot.provenance index)
  fragments : ∀ place (inside : place < rows.length),
    (rows.get ⟨place, inside⟩).sourceFragment.val = place
  cursors : ∀ row ∈ rows, row.streamCursor ≤ assembly.lastCursor
  reached : assembly.lastCursor = 0 ∨ ∃ row ∈ rows, assembly.lastCursor = row.streamCursor

section Gathering

variable {rows : List PendingFragment} {assembly after : Assembly} {row : PendingFragment}

theorem assembleRow_ok (assembled : assembleRow assembly row = .ok after) :
    ∃ chunk update, row.sourceFragment.val = assembly.expectedFragment ∧
      decodeHarmonicRecord row.payload = .ok chunk ∧
      (assembly.assembler.accept chunk).2 = .ok update ∧
      after = {
        assembler := (assembly.assembler.accept chunk).1
        snapshot := update.completed.or assembly.snapshot
        expectedFragment := assembly.expectedFragment + 1
        lastCursor := max assembly.lastCursor row.streamCursor
        measuredAt := max assembly.measuredAt row.measuredAt } := by
  unfold assembleRow at assembled
  split at assembled
  · cases assembled
  · next place =>
      split at assembled
      · cases assembled
      · next chunk read =>
          split at assembled
          · cases assembled
          · next assembler update accepted =>
              cases assembled
              refine ⟨chunk, update, not_not.mp place, read, ?_, ?_⟩
              · rw [accepted]
              · rw [accepted]

theorem gathered_fragments (gathered : Gathered rows assembly)
    (place : row.sourceFragment.val = assembly.expectedFragment) :
    ∀ index (inside : index < (rows ++ [row]).length),
      ((rows ++ [row]).get ⟨index, inside⟩).sourceFragment.val = index := by
  intro index inside
  rw [List.length_append, List.length_singleton] at inside
  by_cases old : index < rows.length
  · rw [List.get_eq_getElem, List.getElem_append_left old]
    exact gathered.fragments index old
  · have last : index = rows.length := by omega
    subst last
    rw [List.get_eq_getElem, List.getElem_concat_length rfl, place, gathered.expected]

theorem gathered_carry {provenance : HarmonicProvenance} {chunk : HarmonicRecordChunk}
    (read : decodeHarmonicRecord row.payload = .ok chunk)
    (same : chunk.provenance = provenance)
    (earlier : ∀ other ∈ rows, ∃ index, Carries other.payload provenance index) :
    ∀ other ∈ rows ++ [row], ∃ index, Carries other.payload provenance index := by
  intro other member
  rcases List.mem_append.mp member with old | new
  · exact earlier other old
  · cases List.mem_singleton.mp new
    exact ⟨chunk.recordIndex, ⟨chunk, read, same, rfl⟩⟩

theorem accepted_carry {chunk : HarmonicRecordChunk} {family : PartialFamily}
    {update : HarmonicAssemblyUpdate} (gathered : Gathered rows assembly)
    (read : decodeHarmonicRecord row.payload = .ok chunk)
    (accepted : HarmonicFamilyAssembler.Accepted assembly.assembler chunk family update) :
    family.receivedCount ≤ rows.length ∧ (family.receivedCount = rows.length →
      ∀ other ∈ rows ++ [row], ∃ index,
        Carries other.payload family.snapshot.provenance index) := by
  rcases accepted.found with ⟨known, -⟩ | ⟨fresh, -, -⟩
  · rcases gathered.growing family known with ⟨-, taken, all⟩
    exact ⟨taken, fun every => gathered_carry read accepted.same.symm (all every)⟩
  · have none : family.receivedCount = 0 := by rw [fresh]
    rw [none]
    refine ⟨Nat.zero_le _, ?_⟩
    intro empty
    have nil : rows = [] := List.length_eq_zero_iff.mp empty.symm
    exact gathered_carry read accepted.same.symm (by rw [nil]; exact fun _ absent => nomatch absent)

theorem assembleRow_gathered (gathered : Gathered rows assembly)
    (assembled : assembleRow assembly row = .ok after) : Gathered (rows ++ [row]) after := by
  rcases assembleRow_ok assembled with ⟨chunk, update, place, read, taken, rfl⟩
  rcases HarmonicFamilyAssembler.accept_ok taken with ⟨family, accepted⟩
  rcases accepted_carry gathered read accepted with ⟨few, carried⟩
  have longer : (rows ++ [row]).length = rows.length + 1 := List.length_append
  have cursors : ∀ other ∈ rows ++ [row],
      other.streamCursor ≤ max assembly.lastCursor row.streamCursor := by
    intro other member
    rcases List.mem_append.mp member with old | new
    · exact (gathered.cursors other old).trans (le_max_left _ _)
    · cases List.mem_singleton.mp new
      exact le_max_right _ _
  have expected : assembly.expectedFragment + 1 = (rows ++ [row]).length := by
    rw [longer, gathered.expected]
  have reached : max assembly.lastCursor row.streamCursor = 0 ∨ ∃ other ∈ rows ++ [row],
      max assembly.lastCursor row.streamCursor = other.streamCursor := by
    rcases le_total assembly.lastCursor row.streamCursor with later | earlier
    · exact .inr ⟨row, List.mem_append_right rows List.mem_cons_self, max_eq_right later⟩
    · rw [max_eq_left earlier]
      refine gathered.reached.imp_right ?_
      rintro ⟨other, member, same⟩
      exact ⟨other, List.mem_append_left [row] member, same⟩
  rcases accepted.after with ⟨full, done, next⟩ | ⟨more, unfinished, next⟩
  · refine ⟨expected, ?_, ?_, gathered_fragments gathered place, cursors, reached⟩
    · intro growing begun
      dsimp only at begun
      rw [next] at begun
      cases begun
    · intro snapshot completed
      dsimp only at completed
      rw [done, Option.some_or] at completed
      cases completed
      refine ⟨by omega, ?_⟩
      intro exact
      exact carried (by omega)
  · refine ⟨expected, ?_, ?_, gathered_fragments gathered place, cursors, reached⟩
    · intro growing begun
      dsimp only at begun
      rw [next] at begun
      cases begun
      refine ⟨?_, by dsimp only; omega, ?_⟩
      · have short : family.receivedCount < harmonicRecordsPerFamily := by
          rcases accepted.found with ⟨known, -⟩ | ⟨fresh, -, -⟩
          · exact (gathered.growing family known).1
          · rw [fresh]
            exact Nat.zero_lt_succ 41
        dsimp only
        omega
      · intro every
        exact carried (by dsimp only at every; omega)
    · intro snapshot completed
      dsimp only at completed
      rw [unfinished, Option.none_or] at completed
      have enough := (gathered.complete snapshot completed).1
      exact ⟨by omega, fun exact => by omega⟩

theorem foldlM_gathered {earlier : List PendingFragment} (gathered : Gathered earlier assembly)
    (assembled : rows.foldlM assembleRow assembly = .ok after) :
    Gathered (earlier ++ rows) after := by
  induction rows generalizing earlier assembly with
  | nil =>
      cases assembled
      rw [List.append_nil]
      exact gathered
  | cons row rows ih =>
      rw [List.foldlM_cons] at assembled
      rcases Loops.bind_ok assembled with ⟨next, first, rest⟩
      rw [List.append_cons]
      exact ih (assembleRow_gathered gathered first) rest

/-- What the rows of a family that is assembled have in common. -/
structure Assembled (rows : List PendingFragment) (family : HarmonicFamily)
    (provenance : HarmonicProvenance) : Prop where
  carried : ∀ row ∈ rows, ∃ index, Carries row.payload provenance index
  count : rows.length = harmonicRecordsPerFamily
  fragments : ∀ place (inside : place < rows.length),
    (rows.get ⟨place, inside⟩).sourceFragment.val = place
  cursors : ∀ row ∈ rows, row.streamCursor ≤ family.streamCursor
  reached : family.streamCursor = 0 ∨ ∃ row ∈ rows, family.streamCursor = row.streamCursor
  period : family.period = provenance.period
  sequence : family.sourceSequence = provenance.sequence
  generation : family.configurationGeneration = provenance.configurationGeneration
  payload : family.payload = rows.map PendingFragment.payload
  bounded : provenance.firstSample ≤ int64Max ∧ provenance.targetSample ≤ int64Max

theorem assembleFamily_ok {family : HarmonicFamily}
    (assembled : assembleFamily rows = .ok family) :
    ∃ provenance, Assembled rows family provenance := by
  unfold assembleFamily at assembled
  rcases Loops.bind_ok assembled with ⟨assembly, folded, rest⟩
  have start : Gathered [] {} :=
    ⟨rfl, fun _ begun => (nomatch begun), fun _ done => (nomatch done),
      fun _ inside => (nomatch inside), fun _ absent => (nomatch absent), .inl rfl⟩
  have gathered := foldlM_gathered start folded
  rw [List.nil_append] at gathered
  split at rest
  · cases rest
  · next snapshot completed =>
      split at rest
      · cases rest
      · next every =>
          split at rest
          · cases rest
          · next bounded =>
              cases rest
              have count : rows.length = harmonicRecordsPerFamily :=
                gathered.expected.symm.trans (not_not.mp every)
              rw [not_or, UInt64.not_lt, UInt64.not_lt] at bounded
              exact ⟨snapshot.provenance, (gathered.complete snapshot completed).2 count, count,
                gathered.fragments, gathered.cursors, gathered.reached, rfl, rfl, rfl, rfl, bounded⟩

end Gathering

section Completing

variable {family : RecordFamily} {assembly : Assembly}

/-- The first records of a family are in the assembly, and nothing else. -/
structure Continuing (family : RecordFamily) (count : Nat) (assembly : Assembly) : Prop where
  expected : assembly.expectedFragment = count
  begins : count = 0 → assembly.assembler = {}
  growing : 0 < count → count < harmonicRecordsPerFamily →
    ∃ grown, assembly.assembler.partialFamily = some grown ∧
      grown.snapshot.provenance = family.provenance ∧ grown.receivedCount = count ∧
      ∀ index, count ≤ index.val → grown.received index = false
  complete : count = harmonicRecordsPerFamily →
    ∃ snapshot, assembly.snapshot = some snapshot ∧ snapshot.provenance = family.provenance

theorem continuing_familyFor {count : Nat} {chunk : HarmonicRecordChunk}
    (continuing : Continuing family count assembly) (more : count < harmonicRecordsPerFamily)
    (same : chunk.provenance = family.provenance) :
    ∃ grown, assembly.assembler.familyFor chunk = .ok (grown, 0) ∧
      grown.snapshot.provenance = family.provenance ∧ grown.receivedCount = count ∧
      ∀ index, count ≤ index.val → grown.received index = false := by
  rcases Nat.eq_zero_or_pos count with zero | positive
  · refine ⟨{ snapshot := snapshotFrom chunk }, ?_, same, zero.symm, fun _ _ => rfl⟩
    rw [continuing.begins zero]
    rfl
  · rcases continuing.growing positive more with ⟨grown, begun, own, received, missing⟩
    refine ⟨grown, ?_, own, received, missing⟩
    simp only [HarmonicFamilyAssembler.familyFor, begun, own, same, if_true]

theorem assembleRow_continues {count : Nat} {row : PendingFragment}
    (continuing : Continuing family count assembly) (more : count < harmonicRecordsPerFamily)
    (place : row.sourceFragment.val = count)
    (own : row.payload = family.records row.sourceFragment) :
    ∃ after, assembleRow assembly row = .ok after ∧ Continuing family (count + 1) after := by
  rcases (family.carried row.sourceFragment).decoded with ⟨chunk, read, same, index⟩
  rcases continuing_familyFor continuing more same with ⟨grown, found, shared, received, missing⟩
  have free : grown.received chunk.recordIndex = false := by
    rw [index]
    exact missing row.sourceFragment (le_of_eq place.symm)
  have matching : ¬ grown.snapshot.provenance ≠ chunk.provenance :=
    not_not_intro (shared.trans same.symm)
  unfold assembleRow
  rw [if_neg (not_not_intro (place.trans continuing.expected.symm)), own, read]
  simp only [HarmonicFamilyAssembler.accept, found, if_neg matching, free, Bool.false_eq_true,
    if_false]
  by_cases full : grown.receivedCount + 1 = harmonicRecordsPerFamily
  · rw [if_pos full]
    refine ⟨_, rfl, ?_, ?_, ?_, ?_⟩
    · rw [← continuing.expected]
    · intro none
      cases none
    · intro _ unfinished
      omega
    · intro _
      exact ⟨grown.snapshot.with chunk, rfl, shared⟩
  · rw [if_neg full]
    refine ⟨_, rfl, ?_, ?_, ?_, ?_⟩
    · rw [← continuing.expected]
    · intro none
      cases none
    · intro _ _
      refine ⟨_, rfl, shared, congrArg (· + 1) received, ?_⟩
      intro later beyond
      dsimp only
      rw [index, Function.update_of_ne]
      · exact missing later (by omega)
      · intro same
        rw [same] at beyond
        omega
    · intro finished
      omega

theorem foldlM_continues {count : Nat} {rows : List PendingFragment}
    (continuing : Continuing family count assembly)
    (rest : count + rows.length = harmonicRecordsPerFamily)
    (places : ∀ place (inside : place < rows.length),
      (rows.get ⟨place, inside⟩).sourceFragment.val = count + place)
    (own : ∀ row ∈ rows, row.payload = family.records row.sourceFragment) :
    ∃ after, rows.foldlM assembleRow assembly = .ok after ∧
      Continuing family harmonicRecordsPerFamily after := by
  induction rows generalizing count assembly with
  | nil =>
      cases rest
      exact ⟨assembly, rfl, continuing⟩
  | cons row rows ih =>
      rw [List.length_cons] at rest
      have first : row.sourceFragment.val = count := places 0 (Nat.zero_lt_succ _)
      rcases assembleRow_continues continuing (by omega) first (own row List.mem_cons_self) with
        ⟨next, assembled, continues⟩
      have later : ∀ place (inside : place < rows.length),
          (rows.get ⟨place, inside⟩).sourceFragment.val = count + 1 + place := by
        intro place inside
        have found := places (place + 1) (Nat.succ_lt_succ inside)
        rw [Nat.add_assoc, Nat.add_comm 1 place]
        exact found
      rcases ih continues (by omega) later
        (fun other member => own other (List.mem_cons_of_mem row member)) with
        ⟨after, folded, complete⟩
      refine ⟨after, ?_, complete⟩
      rw [List.foldlM_cons, assembled]
      exact folded

theorem assembleFamily_complete {rows : List PendingFragment}
    (count : rows.length = harmonicRecordsPerFamily)
    (places : ∀ place (inside : place < rows.length),
      (rows.get ⟨place, inside⟩).sourceFragment.val = place)
    (own : ∀ row ∈ rows, row.payload = family.records row.sourceFragment)
    (bounded : family.provenance.firstSample ≤ int64Max ∧
      family.provenance.targetSample ≤ int64Max) :
    ∃ stored, assembleFamily rows = .ok stored := by
  have start : Continuing family 0 {} :=
    ⟨rfl, fun _ => rfl, fun positive => (nomatch positive), fun full => nomatch full⟩
  rcases foldlM_continues start (by omega) (fun place inside => by
    rw [Nat.zero_add]
    exact places place inside) own with ⟨after, folded, complete⟩
  rcases complete.complete rfl with ⟨snapshot, found, same⟩
  have small : ¬ (int64Max < snapshot.provenance.firstSample ∨
      int64Max < snapshot.provenance.targetSample) := by
    rw [not_or, UInt64.not_lt, UInt64.not_lt, same]
    exact bounded
  refine ⟨familyRow after snapshot.provenance (rows.map PendingFragment.payload), ?_⟩
  unfold assembleFamily
  rw [folded]
  dsimp only [bind, Except.bind]
  rw [found]
  dsimp only
  rw [if_neg (not_not_intro complete.expected), if_neg small]

end Completing

namespace HarmonicTables

theorem inFragmentOrder_perm (rows : List PendingFragment) : (inFragmentOrder rows).Perm rows :=
  List.mergeSort_perm _ _

theorem inFragmentOrder_fragments {rows : List PendingFragment}
    (distinct : (rows.map PendingFragment.sourceFragment).Nodup)
    (count : rows.length = harmonicRecordsPerFamily) :
    (inFragmentOrder rows).map PendingFragment.sourceFragment = List.finRange 42 := by
  have permuted : ((inFragmentOrder rows).map PendingFragment.sourceFragment).Perm
      (rows.map PendingFragment.sourceFragment) := (inFragmentOrder_perm rows).map _
  have all : (rows.map PendingFragment.sourceFragment).Perm (List.finRange 42) := by
    apply (List.subperm_of_subset distinct
      (fun index _ => List.mem_finRange index)).perm_of_length_le
    rw [List.length_map, count, List.length_finRange]
    exact le_refl 42
  have sorted : ((inFragmentOrder rows).map PendingFragment.sourceFragment).Pairwise (· ≤ ·) := by
    rw [List.pairwise_map]
    have ordered : (inFragmentOrder rows).Pairwise (fun left right =>
        decide (left.sourceFragment ≤ right.sourceFragment) = true) :=
      List.pairwise_mergeSort
        (fun _ _ _ first second => decide_eq_true
          ((of_decide_eq_true first).trans (of_decide_eq_true second)))
        (fun left right => by simpa using le_total left.sourceFragment right.sourceFragment) rows
    exact ordered.imp of_decide_eq_true
  exact (permuted.trans all).eq_of_pairwise' sorted (List.pairwise_le_finRange 42)

end HarmonicTables

end Msap1.Historian
