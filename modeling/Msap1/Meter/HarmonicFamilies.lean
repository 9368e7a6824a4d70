import Msap1.Machine
import Msap1.Meter.HarmonicSpectrum

/-! Runs of `HarmonicFamilyAssembler`: what a completed family is made of, and how the lost ones
are counted. -/

namespace Msap1.Meter

/-- What a run of accepted chunks has handed out since the reset. -/
structure Tally where
  first : Option UInt32 := none
  accepted : List HarmonicRecordChunk := []
  completed : List HarmonicSpectrumSnapshot := []
  incomplete : UInt32 := 0

def Tally.note (tally : Tally) (chunk : HarmonicRecordChunk) :
    Except Failure HarmonicAssemblyUpdate → Tally
  | .error _ => tally
  | .ok update => {
      first := tally.first.or (some chunk.provenance.sequence)
      accepted := tally.accepted ++ [chunk]
      completed := tally.completed ++ update.completed.toList
      incomplete := tally.incomplete + update.incompleteFamilies }

def assembling :
    Machine HarmonicFamilyAssembler HarmonicRecordChunk
      (Except Failure HarmonicAssemblyUpdate) where
  step := HarmonicFamilyAssembler.accept

def tallied : Machine (HarmonicFamilyAssembler × Tally) HarmonicRecordChunk
    (Except Failure HarmonicAssemblyUpdate) :=
  assembling.traced (fun _ tally chunk answer => tally.note chunk answer)

/-- The snapshot is made of one accepted chunk for each of the 42 places. -/
def Whole (accepted : List HarmonicRecordChunk) (snapshot : HarmonicSpectrumSnapshot) : Prop :=
  ∃ parts : Fin 42 → HarmonicRecordChunk, ∀ index,
    parts index ∈ accepted ∧ (parts index).recordIndex = index ∧ snapshot.Holds (parts index)

theorem Whole.more {accepted : List HarmonicRecordChunk} {snapshot : HarmonicSpectrumSnapshot}
    (whole : Whole accepted snapshot) (chunk : HarmonicRecordChunk) :
    Whole (accepted ++ [chunk]) snapshot := by
  rcases whole with ⟨parts, held⟩
  exact ⟨parts, fun index => ⟨List.mem_append_left _ (held index).1, (held index).2⟩⟩

/-- A partial family has received what it counts. -/
structure Growing (accepted : List HarmonicRecordChunk) (family : PartialFamily) : Prop where
  count : family.Counts
  parts : ∀ index, family.received index = true → ∃ chunk ∈ accepted,
    chunk.recordIndex = index ∧ family.snapshot.Holds chunk

namespace HarmonicFamilyAssembler

variable {assembler : HarmonicFamilyAssembler} {chunk : HarmonicRecordChunk}

/-- The sequence in progress, or the one behind the last completed. -/
def pendingSequence (assembler : HarmonicFamilyAssembler) : Option UInt32 :=
  match assembler.partialFamily with
  | some family => some family.snapshot.provenance.sequence
  | none => assembler.lastCompletedSequence.map (· + 1)

/-- The sequences passed over from the pending one are those that the chunk shows to be missing. -/
theorem familyFor_incomplete {family : PartialFamily} {incomplete : UInt32}
    (found : assembler.familyFor chunk = .ok (family, incomplete)) :
    incomplete = chunk.provenance.sequence -
      assembler.pendingSequence.getD chunk.provenance.sequence := by
  unfold familyFor at found
  unfold pendingSequence
  cases begun : assembler.partialFamily with
  | some old =>
      simp only [begun] at found
      split at found
      · next same =>
          cases found
          rw [Option.getD_some, same, UInt32.sub_self]
      · split at found
        · cases found
          rfl
        · cases found
  | none =>
      simp only [begun] at found
      cases last : assembler.lastCompletedSequence with
      | none =>
          rw [last] at found
          cases found
          exact (UInt32.sub_self _).symm
      | some sequence =>
          simp only [last] at found
          split at found
          · cases found
            rfl
          · cases found

theorem accept_incomplete {update : HarmonicAssemblyUpdate}
    (accepted : (assembler.accept chunk).2 = .ok update) :
    update.incompleteFamilies = chunk.provenance.sequence -
      assembler.pendingSequence.getD chunk.provenance.sequence := by
  cases found : assembler.familyFor chunk with
  | error failure =>
      rw [accept, found] at accepted
      cases accepted
  | ok pair =>
      rcases pair with ⟨family, incomplete⟩
      simp only [accept, found] at accepted
      split at accepted
      · cases accepted
      · split at accepted
        · cases accepted
        · rw [← familyFor_incomplete found]
          split at accepted <;> cases accepted <;> rfl

theorem Accepted.pending {family : PartialFamily} {update : HarmonicAssemblyUpdate}
    (step : Accepted assembler chunk family update) :
    (assembler.accept chunk).1.pendingSequence =
      some (chunk.provenance.sequence + UInt32.ofNat update.completed.toList.length) := by
  rcases step.after with ⟨-, completed, after⟩ | ⟨-, completed, after⟩
  · rw [after, completed]
    rfl
  · rw [after, completed]
    simp [pendingSequence, HarmonicSpectrumSnapshot.with, step.same]

theorem growing_with {accepted : List HarmonicRecordChunk} {family : PartialFamily}
    (growing : Growing accepted family) (same : family.snapshot.provenance = chunk.provenance)
    (missing : family.received chunk.recordIndex = false) :
    Growing (accepted ++ [chunk]) (family.grown chunk) where
  count := growing.count.grown missing
  parts := by
    intro index there
    dsimp only [PartialFamily.grown] at there
    by_cases own : index = chunk.recordIndex
    · subst own
      exact ⟨chunk, List.mem_append_right _ List.mem_cons_self, rfl,
        HarmonicSpectrumSnapshot.holds_with same⟩
    · rw [Function.update_of_ne own] at there
      rcases growing.parts index there with ⟨part, member, place, holds⟩
      refine ⟨part, List.mem_append_left _ member, place,
        HarmonicSpectrumSnapshot.holds_with_other holds same ?_⟩
      rw [place]
      exact own

theorem growing_fresh (accepted : List HarmonicRecordChunk) (chunk : HarmonicRecordChunk) :
    Growing accepted { snapshot := snapshotFrom chunk } where
  count := counts_fresh _
  parts := fun _ received => nomatch received

theorem growing_whole {accepted : List HarmonicRecordChunk} {family : PartialFamily}
    (growing : Growing accepted family) (full : family.receivedCount = harmonicRecordsPerFamily) :
    Whole accepted family.snapshot := by
  have parts := fun index => growing.parts index (growing.count.full full index)
  choose part held using parts
  exact ⟨part, held⟩

end HarmonicFamilyAssembler

open HarmonicFamilyAssembler

/-- What holds of the assembler beside the tally of its run. -/
structure Counted (state : HarmonicFamilyAssembler × Tally) : Prop where
  growing : ∀ family, state.1.partialFamily = some family → Growing state.2.accepted family
  whole : ∀ snapshot ∈ state.2.completed, Whole state.2.accepted snapshot
  last : (state.2.completed.map (fun snapshot => snapshot.provenance.sequence)).getLast? =
    state.1.lastCompletedSequence
  started : state.2.first.isSome = state.1.pendingSequence.isSome
  idle : state.2.first = none → state.2.completed = [] ∧ state.2.incomplete = 0
  count : ∀ first sequence, state.2.first = some first →
    state.1.pendingSequence = some sequence →
      UInt32.ofNat state.2.completed.length + state.2.incomplete = sequence - first

theorem counted_reset : Counted ({}, {}) where
  growing := fun _ absent => nomatch absent
  whole := fun _ absent => nomatch absent
  last := rfl
  started := rfl
  idle := fun _ => ⟨rfl, rfl⟩
  count := fun _ _ absent => nomatch absent

theorem next_counted {assembler : HarmonicFamilyAssembler} {tally : Tally}
    {chunk : HarmonicRecordChunk} (counted : Counted (assembler, tally)) :
    Counted (tallied.next (assembler, tally) chunk) := by
  have shape : tallied.next (assembler, tally) chunk =
      ((assembler.accept chunk).1, tally.note chunk (assembler.accept chunk).2) := rfl
  rw [shape]
  cases answer : (assembler.accept chunk).2 with
  | error failure =>
      rw [accept_error answer]
      exact counted
  | ok update =>
      rcases accept_ok answer with ⟨family, step⟩
      have missing := accept_incomplete answer
      have pending := step.pending
      have grown : Growing (tally.accepted ++ [chunk]) (family.grown chunk) := by
        apply growing_with ?_ step.same step.missing
        rcases step.found with ⟨known, -⟩ | ⟨rfl, -⟩
        · exact counted.growing family known
        · exact growing_fresh tally.accepted chunk
      refine ⟨?_, ?_, ?_, ?_, ?_, ?_⟩
      · intro later held
        rcases step.after with ⟨-, -, after⟩ | ⟨-, -, after⟩
        · rw [after] at held
          cases held
        · rw [after] at held
          cases held
          exact grown
      · intro snapshot member
        rcases List.mem_append.mp member with old | new
        · exact (counted.whole snapshot old).more chunk
        · rcases step.after with ⟨full, completed, -⟩ | ⟨-, completed, -⟩
          · rw [completed] at new
            rw [List.mem_singleton.mp new]
            exact growing_whole grown full
          · rw [completed] at new
            cases new
      · rcases step.after with ⟨-, completed, after⟩ | ⟨-, completed, after⟩
        · rw [after]
          simp [Tally.note, completed, HarmonicSpectrumSnapshot.with, step.same]
        · rw [after]
          simpa [Tally.note, completed] using counted.last
      · rw [pending]
        cases first : tally.first <;> simp [Tally.note, first]
      · intro none
        cases first : tally.first <;> simp [Tally.note, first] at none
      · intro first sequence known current
        rw [pending, Option.some.injEq] at current
        have more : UInt32.ofNat (tally.note chunk (.ok update)).completed.length =
            UInt32.ofNat tally.completed.length +
              UInt32.ofNat update.completed.toList.length := by
          simp [Tally.note]
        change UInt32.ofNat (tally.note chunk (.ok update)).completed.length +
          (tally.incomplete + update.incompleteFamilies) = _
        rw [more, missing, ← current]
        cases begun : tally.first with
        | none =>
            rcases counted.idle begun with ⟨completed, incomplete⟩
            have fresh := counted.started
            rw [begun] at fresh
            cases there : assembler.pendingSequence with
            | some pending =>
                rw [there] at fresh
                cases fresh
            | none =>
                simp only [Tally.note, begun, Option.none_or, Option.some.injEq] at known
                dsimp only at completed incomplete
                rw [completed, incomplete, Option.getD_none, ← known, UInt32.sub_self,
                  UInt32.add_comm chunk.provenance.sequence, UInt32.add_sub_cancel]
                simp
        | some start =>
            simp only [Tally.note, begun, Option.some_or, Option.some.injEq] at known
            cases there : assembler.pendingSequence with
            | none =>
                have fresh := counted.started
                rw [begun, there] at fresh
                cases fresh
            | some pending =>
                have before := counted.count start pending begun there
                dsimp only at before
                rw [Option.getD_some, ← known]
                grind

/-- A chunk that replaces a partial family is ahead of the last completed sequence too. -/
def Unreplayed (assembler : HarmonicFamilyAssembler) (chunk : HarmonicRecordChunk) : Prop :=
  match assembler.partialFamily, assembler.lastCompletedSequence with
  | some family, some last =>
      forwardOf chunk.provenance.sequence family.snapshot.provenance.sequence →
        forwardOf chunk.provenance.sequence last
  | _, _ => True

instance (assembler : HarmonicFamilyAssembler) (chunk : HarmonicRecordChunk) :
    Decidable (Unreplayed assembler chunk) := by
  unfold Unreplayed
  split <;> infer_instance

/-- Each completed sequence is ahead of the one before it. -/
def Ordered (completed : List HarmonicSpectrumSnapshot) : Prop :=
  (completed.map (fun snapshot => snapshot.provenance.sequence)).IsChain
    (fun earlier later => forwardOf later earlier)

instance (completed : List HarmonicSpectrumSnapshot) : Decidable (Ordered completed) := by
  unfold Ordered
  infer_instance

/-- The completed sequences are ordered, and a partial family is ahead of the last one. -/
structure Forward (state : HarmonicFamilyAssembler × Tally) : Prop where
  ordered : Ordered state.2.completed
  ahead : ∀ family last, state.1.partialFamily = some family →
    state.1.lastCompletedSequence = some last →
      forwardOf family.snapshot.provenance.sequence last

theorem begun_ahead {assembler : HarmonicFamilyAssembler} {chunk : HarmonicRecordChunk}
    {family : PartialFamily} {incomplete last : UInt32} (unreplayed : Unreplayed assembler chunk)
    (ahead : ∀ family last, assembler.partialFamily = some family →
      assembler.lastCompletedSequence = some last →
        forwardOf family.snapshot.provenance.sequence last)
    (found : assembler.familyFor chunk = .ok (family, incomplete))
    (completed : assembler.lastCompletedSequence = some last) :
    forwardOf chunk.provenance.sequence last := by
  unfold familyFor at found
  unfold Unreplayed at unreplayed
  cases begun : assembler.partialFamily with
  | some old =>
      rw [begun, completed] at unreplayed
      simp only [begun] at found
      split at found
      · next same =>
          rw [same]
          exact ahead old last begun completed
      · split at found
        · next forward => exact unreplayed forward
        · cases found
  | none =>
      simp only [begun, completed] at found
      split at found
      · next forward => exact forward
      · cases found

theorem next_forward {assembler : HarmonicFamilyAssembler} {tally : Tally}
    {chunk : HarmonicRecordChunk} (unreplayed : Unreplayed assembler chunk)
    (counted : Counted (assembler, tally)) (forward : Forward (assembler, tally)) :
    Forward (tallied.next (assembler, tally) chunk) := by
  have shape : tallied.next (assembler, tally) chunk =
      ((assembler.accept chunk).1, tally.note chunk (assembler.accept chunk).2) := rfl
  rw [shape]
  cases answer : (assembler.accept chunk).2 with
  | error failure =>
      rw [accept_error answer]
      exact forward
  | ok update =>
      rcases accept_ok answer with ⟨family, step⟩
      have ahead : ∀ last, assembler.lastCompletedSequence = some last →
          forwardOf chunk.provenance.sequence last := by
        intro last completed
        cases found : assembler.familyFor chunk with
        | error failure =>
            rw [accept, found] at answer
            cases answer
        | ok pair => exact begun_ahead unreplayed forward.ahead found completed
      have own : (family.snapshot.with chunk).provenance.sequence = chunk.provenance.sequence :=
        congrArg HarmonicProvenance.sequence step.same
      rcases step.after with ⟨-, completed, after⟩ | ⟨-, completed, after⟩
      · refine ⟨?_, ?_⟩
        · simp only [Ordered, Tally.note, completed, Option.toList_some, List.map_append,
            List.map_singleton]
          rw [List.isChain_append]
          refine ⟨forward.ordered, List.isChain_singleton _, ?_⟩
          intro earlier known later new
          rw [counted.last] at known
          simp only [List.head?_cons, Option.mem_def, Option.some.injEq] at new
          rw [← new, own]
          exact ahead earlier known
        · intro family last held
          rw [after] at held
          cases held
      · refine ⟨?_, ?_⟩
        · simpa only [Tally.note, completed, Option.toList_none, List.append_nil] using
            forward.ordered
        · intro begun last held known
          rw [after] at held known
          cases held
          exact own ▸ ahead last known

theorem run_counted (chunks : List HarmonicRecordChunk) :
    Counted (tallied.run ({}, {}) chunks) :=
  tallied.run_invariant Counted (fun _ _ counted => next_counted counted) ({}, {}) counted_reset
    chunks

theorem run_forward (chunks : List HarmonicRecordChunk)
    (unreplayed : tallied.Along (fun state chunk => Unreplayed state.1 chunk) ({}, {}) chunks) :
    Forward (tallied.run ({}, {}) chunks) := by
  have both := tallied.along_invariant (fun state chunk => Unreplayed state.1 chunk)
    (fun state => Counted state ∧ Forward state)
    (fun state chunk unreplayed holds =>
      ⟨next_counted holds.1, next_forward unreplayed holds.1 holds.2⟩)
    ({}, {}) ⟨counted_reset, List.isChain_nil, fun _ _ absent => nomatch absent⟩ chunks unreplayed
  exact both.2

/-- Completed families are whole, a rejected chunk leaves no trace, and the completed and the
missing families make up the way from the first sequence to the pending one. -/
structure FamiliesKept (assembler : HarmonicFamilyAssembler) (tally : Tally) : Prop where
  whole : ∀ snapshot ∈ tally.completed, Whole tally.accepted snapshot
  untouched : ∀ chunk failure, (assembler.accept chunk).2 = .error failure →
    (assembler.accept chunk).1 = assembler
  idle : tally.first = none → tally.completed = [] ∧ tally.incomplete = 0
  count : ∀ first, tally.first = some first → ∃ sequence,
    assembler.pendingSequence = some sequence ∧
      UInt32.ofNat tally.completed.length + tally.incomplete = sequence - first

theorem families_counted (chunks : List HarmonicRecordChunk) :
    FamiliesKept (tallied.run ({}, {}) chunks).1 (tallied.run ({}, {}) chunks).2 ∧
      (tallied.Along (fun state chunk => Unreplayed state.1 chunk) ({}, {}) chunks →
        Ordered (tallied.run ({}, {}) chunks).2.completed) := by
  have counted := run_counted chunks
  refine ⟨⟨counted.whole, fun _ _ => accept_error, counted.idle, ?_⟩,
    fun unreplayed => (run_forward chunks unreplayed).ordered⟩
  intro first known
  have started := counted.started
  rw [known, Option.isSome_some] at started
  rcases Option.isSome_iff_exists.mp started.symm with ⟨sequence, pending⟩
  exact ⟨sequence, pending, counted.count first sequence known pending⟩

def chunkOfSequence (sequence : UInt32) (index : Fin 42) : HarmonicRecordChunk where
  provenance := { sequence }
  channel := ⟨index.val / 6, by omega⟩
  chunk := ⟨index.val % 6, by omega⟩
  entries := []

def familyOf (sequence : UInt32) : List HarmonicRecordChunk :=
  List.ofFn (chunkOfSequence sequence)

theorem families_counted_gap :
    tallied.Along (fun state chunk => Unreplayed state.1 chunk) ({}, {})
        (familyOf 0 ++ [chunkOfSequence 1 0] ++ familyOf 3) ∧
      Ordered (tallied.run ({}, {})
        (familyOf 0 ++ [chunkOfSequence 1 0] ++ familyOf 3)).2.completed := by
  have unreplayed : tallied.Along (fun state chunk => Unreplayed state.1 chunk) ({}, {})
      (familyOf 0 ++ [chunkOfSequence 1 0] ++ familyOf 3) := by
    decide +kernel
  exact ⟨unreplayed, (families_counted _).2 unreplayed⟩

/-- Two partial families that lead half around and back to a completed sequence. -/
def wrapped : List HarmonicRecordChunk :=
  familyOf 0 ++ [chunkOfSequence 0x7FFFFFFF 0, chunkOfSequence 0xFFFFFFFE 0] ++ familyOf 0

/-- A completed family is completed once more. -/
theorem completed_family_replayed :
    (tallied.run ({}, {}) wrapped).2.completed.map (fun snapshot => snapshot.provenance.sequence) =
        [0, 0] ∧
      ¬Ordered (tallied.run ({}, {}) wrapped).2.completed := by
  decide +kernel

end Msap1.Meter
