import Msap1.Acquisition.Ingestor
import Msap1.Machine
import Msap1.Meter.IntervalRecords
import Msap1.Meter.TenSecondFrequency
import Msap1.Unrolled

/-! The continuity trackers of `record_ingestor.cpp` and its eight gap counters. A record is
accepted when `accept` makes it the baseline of its stream. Publication succeeds, and what the
decoders of the lifecycle, flicker and mains-signalling records refuse is a parameter. -/

namespace Msap1.Acquisition

open Meter

/-- The record streams that have a sequence, a baseline and a gap counter of their own. -/
inductive Stream where
  | basic
  | aggregate
  | tenMinute
  | twoHour
  | frequency10s
  | pqLifecycle
  | flicker
  | mainsSignal
  deriving DecidableEq, Repr

/-- Siblings, open previews, DEMAND and the families are no stream of this kind. -/
def Stream.ofFormat : RecordFormat → Option Stream
  | .interval .basic .fundamental => some .basic
  | .interval .aggregate .fundamental => some .aggregate
  | .interval .tenMinute .fundamental => some .tenMinute
  | .interval .twoHour .fundamental => some .twoHour
  | .frequency10s => some .frequency10s
  | .pqEventLifecycle => some .pqLifecycle
  | .flicker => some .flicker
  | .mainsSignal => some .mainsSignal
  | _ => none

/-- The streams whose record is decoded before the baseline is looked at. -/
def Stream.decodedFirst : Stream → Bool
  | pqLifecycle | flicker | mainsSignal => true
  | _ => false

def streamOf (record : MeterRecord) : Option Stream := record.recordFormat.bind Stream.ofFormat

/-- The basic stream keeps its newest record, `latest_record_`, and every other stream only the
sequence of its newest. -/
structure Continuity where
  configuration : WireConfiguration
  latestRecord : Option MeterRecord := none
  lastSequence : Stream → Option UInt32 := fun _ => none
  gaps : Stream → UInt64 := fun _ => 0

/-- The decoders of the three independent families, by whether they return. -/
structure FamilyDecoders where
  decodePqEventLifecycleRecord : MeterRecord → Bool
  decodeFlickerRecord : MeterRecord → Bool
  decodeMainsSignalRecord : MeterRecord → Bool

def FamilyDecoders.decodes (decoders : FamilyDecoders) (stream : Stream) (record : MeterRecord) :
    Bool :=
  match stream with
  | .basic => (checkPeriodic record).isOk
  | .aggregate => (checkAggregate record).isOk
  | .tenMinute => (checkTenMinute record).isOk
  | .twoHour => (checkTwoHour record).isOk
  | .frequency10s => (decodeFrequency10sMeterRecord record).isOk
  | .pqLifecycle => decoders.decodePqEventLifecycleRecord record
  | .flicker => decoders.decodeFlickerRecord record
  | .mainsSignal => decoders.decodeMainsSignalRecord record

def expectedFirst (latest : MeterRecord) : UInt64 :=
  latest.firstSampleIndex + latest.blockSampleCount.toUInt64

def intentionalUtcOverlap (latest record : MeterRecord) : Bool :=
  let first := record.firstSampleIndex
  let count := record.blockSampleCount.toUInt64
  let previousLast := expectedFirst latest - 1
  let rangeSafe := count != 0 && first ≤ Meter.uint64Max - (count - 1)
  record.timing.utcResynchronized && rangeSafe && latest.firstSampleIndex < first &&
    first ≤ previousLast && previousLast < first + count - 1

/-- The samples of two consecutive blocks neither touch nor overlap on purpose. -/
def discontinuous (latest record : MeterRecord) : Bool :=
  record.firstSampleIndex != expectedFirst latest && !intentionalUtcOverlap latest record

namespace Continuity

variable (decoders : FamilyDecoders) (state : Continuity)

def beginEpoch : Continuity := { configuration := state.configuration }

def matchesConfiguration (record : MeterRecord) : Bool :=
  record.headerValid && record.configurationGeneration == state.configuration.generation &&
    record.sampleRateHz == state.configuration.sampleRateHz

def last : Stream → Option UInt32
  | .basic => state.latestRecord.map MeterRecord.sequence
  | stream => state.lastSequence stream

def addGaps (stream : Stream) (missing : UInt32) : Continuity :=
  { state with
    gaps := Function.update state.gaps stream (state.gaps stream + missing.toUInt64) }

def advance (stream : Stream) (record : MeterRecord) : Continuity :=
  match stream with
  | .basic => { state with latestRecord := some record }
  | stream =>
      { state with
        lastSequence := Function.update state.lastSequence stream (some record.sequence) }

/-- The tracker of one sequence, with `none` for a stale record. The three families compare the
signed difference with zero, which is the same half-range rule. -/
def trackContinuity (stream : Stream) (record : MeterRecord) : Option Continuity :=
  match state.lastSequence stream with
  | none => some state
  | some last =>
      let expected := last + 1
      let forwardDistance := record.sequence - expected
      if forwardDistance = 0 then some state
      else if forwardDistance < 0x80000000 then some (state.addGaps stream forwardDistance)
      else none

def trackBasicContinuity (record : MeterRecord) : Option Continuity :=
  match state.latestRecord with
  | none => some state
  | some latest =>
      let expected := latest.sequence + 1
      let forwardDistance := record.sequence - expected
      if forwardDistance ≠ 0 ∧ forwardDistance < 0x80000000 then
        some (state.addGaps .basic forwardDistance)
      else if forwardDistance ≠ 0 then none
      else if discontinuous latest record then some (state.addGaps .basic 1)
      else some state

def trackAggregateContinuity (record : MeterRecord) : Option Continuity :=
  state.trackContinuity .aggregate record

def trackTenMinuteContinuity (record : MeterRecord) : Option Continuity :=
  state.trackContinuity .tenMinute record

def trackTwoHourContinuity (record : MeterRecord) : Option Continuity :=
  state.trackContinuity .twoHour record

def trackFrequency10sContinuity (record : MeterRecord) : Option Continuity :=
  state.trackContinuity .frequency10s record

def track (stream : Stream) (record : MeterRecord) : Option Continuity :=
  match stream with
  | .basic => state.trackBasicContinuity record
  | .aggregate => state.trackAggregateContinuity record
  | .tenMinute => state.trackTenMinuteContinuity record
  | .twoHour => state.trackTwoHourContinuity record
  | .frequency10s => state.trackFrequency10sContinuity record
  | .pqLifecycle | .flicker | .mainsSignal => state.trackContinuity stream record

/-- `MeterRecordIngestor::accept`, which answers the stream that a record became the baseline
of. -/
def accept (record : MeterRecord) : Continuity × Option Stream :=
  if state.matchesConfiguration record then
    match streamOf record with
    | none => (state, none)
    | some stream =>
        if stream.decodedFirst && !decoders.decodes stream record then (state, none)
        else
          match state.track stream record with
          | none => (state, none)
          | some counted =>
              if decoders.decodes stream record then (counted.advance stream record, some stream)
              else (counted, none)
  else (state, none)

@[simp] theorem addGaps_zero (stream : Stream) : state.addGaps stream 0 = state := by
  simp [addGaps]

@[simp] theorem last_addGaps (stream : Stream) (missing : UInt32) :
    (state.addGaps stream missing).last = state.last := rfl

@[simp] theorem gaps_advance (stream : Stream) (record : MeterRecord) :
    (state.advance stream record).gaps = state.gaps := by
  cases stream <;> rfl

theorem last_advance (stream other : Stream) (record : MeterRecord) :
    (state.advance stream record).last other =
      if other = stream then some record.sequence else state.last other := by
  cases stream <;> cases other <;> rfl

theorem latestRecord_advance (stream : Stream) (record : MeterRecord) :
    (state.advance stream record).latestRecord =
      if stream = .basic then some record else state.latestRecord := by
  cases stream <;> rfl

/-- What a tracker adds to its counter, with `none` for a stale record. -/
def added (stream : Stream) (record : MeterRecord) : Option UInt32 :=
  match state.last stream with
  | none => some 0
  | some last =>
      let forwardDistance := record.sequence - (last + 1)
      if forwardDistance = 0 then
        if stream = .basic ∧ state.latestRecord.any (discontinuous · record) then some 1
        else some 0
      else if forwardDistance < 0x80000000 then some forwardDistance
      else none

theorem trackContinuity_eq (stream : Stream) (other : stream ≠ .basic) (record : MeterRecord) :
    state.trackContinuity stream record =
      (state.added stream record).map (state.addGaps stream) := by
  have last : state.last stream = state.lastSequence stream := by
    cases stream <;> first | rfl | exact absurd rfl other
  rw [trackContinuity, added, last]
  cases state.lastSequence stream with
  | none => simp
  | some last =>
      simp only [other, false_and, if_false]
      split
      · simp
      · split <;> rfl

theorem trackBasicContinuity_eq (record : MeterRecord) :
    state.trackBasicContinuity record = (state.added .basic record).map (state.addGaps .basic) := by
  rw [trackBasicContinuity, added, last]
  cases state.latestRecord with
  | none => simp
  | some latest =>
      simp only [Option.map_some, Option.any_some, true_and]
      by_cases next : record.sequence - (latest.sequence + 1) = 0
      · by_cases broken : discontinuous latest record = true <;> simp [next, broken]
      · by_cases early : record.sequence - (latest.sequence + 1) < 0x80000000 <;>
          simp [next, early]

theorem track_eq (stream : Stream) (record : MeterRecord) :
    state.track stream record = (state.added stream record).map (state.addGaps stream) := by
  cases stream with
  | basic => exact trackBasicContinuity_eq state record
  | _ => exact trackContinuity_eq state _ (by decide) record

theorem accept_of_stream {record : MeterRecord} {stream : Stream}
    (matched : state.matchesConfiguration record = true)
    (belongs : streamOf record = some stream) :
    state.accept decoders record =
      match state.added stream record with
      | none => (state, none)
      | some missing =>
          if decoders.decodes stream record then
            ((state.addGaps stream missing).advance stream record, some stream)
          else if stream.decodedFirst then (state, none)
          else (state.addGaps stream missing, none) := by
  simp only [accept, matched, belongs, track_eq, if_true]
  cases state.added stream record with
  | none => simp
  | some missing =>
      by_cases decoded : decoders.decodes stream record = true
      · simp [decoded]
      · by_cases first : stream.decodedFirst = true <;> simp [decoded, first]

theorem accept_aside {record : MeterRecord}
    (aside : ¬ (state.matchesConfiguration record = true ∧ (streamOf record).isSome)) :
    state.accept decoders record = (state, none) := by
  by_cases matched : state.matchesConfiguration record = true
  · cases belongs : streamOf record with
    | none => simp [accept, matched, belongs]
    | some stream => exact absurd ⟨matched, by rw [belongs]; rfl⟩ aside
  · simp [accept, matched]

end Continuity

/-- How many sequence numbers, modulo 2^32, a record lies ahead of another. -/
def sequencesAhead (previous next : MeterRecord) : Nat := (next.sequence - previous.sequence).toNat

/-- The consecutive pairs of blocks, newest first, whose samples neither touch nor overlap on
purpose. -/
def brokenPairs : List MeterRecord → Nat
  | newest :: previous :: older =>
      (if newest.sequence = previous.sequence + 1 ∧ discontinuous previous newest then 1 else 0) +
        brokenPairs (previous :: older)
  | _ => 0

/-- What the gap counter of a stream is to say about the records it accepted, newest first. -/
def lost (stream : Stream) (accepted : List MeterRecord) : Nat :=
  Unrolled.missed sequencesAhead accepted +
    if stream = .basic then brokenPairs accepted else 0

abbrev AcceptedRecords := Stream → List MeterRecord

namespace Continuity

variable (decoders : FamilyDecoders)

def machine : Machine Continuity MeterRecord (Option Stream) where
  step := accept decoders

def noteAccepted (_ : Continuity) (accepted : AcceptedRecords) (record : MeterRecord) :
    Option Stream → AcceptedRecords
  | none => accepted
  | some stream => Function.update accepted stream (record :: accepted stream)

/-- The ingestor with the records that each of its streams has accepted beside it. -/
def observed : Machine (Continuity × AcceptedRecords) MeterRecord (Option Stream) :=
  (machine decoders).traced noteAccepted

def Exact (stream : Stream) (view : Continuity × AcceptedRecords) : Prop :=
  view.1.gaps stream = UInt64.ofNat (lost stream (view.2 stream))

instance (stream : Stream) (view : Continuity × AcceptedRecords) : Decidable (Exact stream view) :=
  inferInstanceAs (Decidable (_ = _))

/-- The record shows that numbers before it, or samples of the basic stream, are missing. -/
def ShowsLoss (state : Continuity) (stream : Stream) (record : MeterRecord) : Prop :=
  (∃ last, state.last stream = some last ∧ record.sequence - (last + 1) ≠ 0 ∧
    record.sequence - (last + 1) < 0x80000000) ∨
  (stream = .basic ∧ ∃ latest, state.latestRecord = some latest ∧
    record.sequence = latest.sequence + 1 ∧ discontinuous latest record = true)

/-- A record that shows a loss, in a stream that is tracked before it is decoded, is one that its
decoder takes. -/
def LossDecoded (stream : Stream) (state : Continuity) (record : MeterRecord) : Prop :=
  state.matchesConfiguration record = true → streamOf record = some stream →
    stream.decodedFirst = false → state.ShowsLoss stream record →
      decoders.decodes stream record = true

/-- The baselines are those of the records accepted last. -/
structure Following (view : Continuity × AcceptedRecords) : Prop where
  last : ∀ stream, view.1.last stream = ((view.2 stream).head?).map MeterRecord.sequence
  latest : view.1.latestRecord = (view.2 .basic).head?

theorem sub_eq_zero_iff {left right : UInt32} : left - right = 0 ↔ left = right := by
  constructor
  · intro zero
    rw [← UInt32.sub_add_cancel left right, zero, UInt32.zero_add]
  · rintro rfl
    exact UInt32.sub_self left

theorem added_ne_zero_iff {state : Continuity} {stream : Stream} {record : MeterRecord}
    {missing : UInt32} (adds : state.added stream record = some missing) :
    missing ≠ 0 ↔ state.ShowsLoss stream record := by
  rw [added] at adds
  cases last : state.last stream with
  | none =>
      rw [last] at adds
      cases adds
      have blank : stream = .basic → state.latestRecord = none := by
        rintro rfl
        simpa [Continuity.last] using last
      simp only [ShowsLoss, last, reduceCtorEq, false_and, exists_false, false_or, ne_eq,
        not_true_eq_false, false_iff, not_and, not_exists]
      intro basic latest present
      rw [blank basic] at present
      cases present
  | some previous =>
      simp only [last] at adds
      have newest : stream = .basic → ∃ latest, state.latestRecord = some latest ∧
          latest.sequence = previous := by
        rintro rfl
        simpa [Continuity.last] using last
      by_cases next : record.sequence - (previous + 1) = 0
      · simp only [next, if_true] at adds
        by_cases broken : stream = .basic ∧ state.latestRecord.any (discontinuous · record) = true
        · simp only [broken, and_self, if_true, Option.some.injEq] at adds
          obtain ⟨latest, present, same⟩ := newest broken.1
          have shown : discontinuous latest record = true := by simpa [present] using broken.2
          refine iff_of_true (by rw [← adds]; decide)
            (Or.inr ⟨broken.1, latest, present, ?_, shown⟩)
          rw [same]
          exact sub_eq_zero_iff.mp next
        · rw [if_neg broken] at adds
          cases adds
          refine iff_of_false (fun differs => differs rfl) ?_
          rintro (⟨last', same, differs, _⟩ | ⟨basic, latest, present, _, shown⟩)
          · rw [last] at same
            cases same
            exact differs next
          · exact broken ⟨basic, by simpa [present] using shown⟩
      · simp only [next, if_false] at adds
        split at adds
        · rename_i early
          cases adds
          exact iff_of_true next (Or.inl ⟨previous, last, next, early⟩)
        · cases adds

theorem fresh_of_added_none {state : Continuity} {stream : Stream} {record : MeterRecord}
    (stale : state.added stream record = none) : ¬ state.ShowsLoss stream record := by
  rw [added] at stale
  cases last : state.last stream with
  | none => simp [last] at stale
  | some previous =>
      simp only [last] at stale
      by_cases next : record.sequence - (previous + 1) = 0
      · simp only [next, if_true] at stale
        split at stale <;> cases stale
      · simp only [next, if_false, ite_eq_right_iff, reduceCtorEq, imp_false] at stale
        rintro (⟨other, same, _, early⟩ | ⟨rfl, latest, present, follows, _⟩)
        · rw [last] at same
          cases same
          exact stale early
        · simp only [Continuity.last, present, Option.map_some, Option.some.injEq] at last
          exact next (sub_eq_zero_iff.mpr (last ▸ follows))

/-- A half-range step ahead of the expected number misses as many numbers as it is ahead. -/
theorem ahead_of_distance {previous received : UInt32}
    (early : received - (previous + 1) < 0x80000000) :
    (received - previous).toNat = (received - (previous + 1)).toNat + 1 := by
  have bound : (received - (previous + 1)).toNat < 0x80000000 := early
  have split : received - previous = received - (previous + 1) + 1 := by grind
  rw [split, UInt32.toNat_add]
  exact Nat.mod_eq_of_lt (by simp only [UInt32.reduceToNat]; omega)

/-- What a tracker adds is what the record, once accepted, adds to the loss of its stream. -/
theorem lost_cons {state : Continuity} {accepted : AcceptedRecords} {stream : Stream}
    {record : MeterRecord} {missing : UInt32} (following : Following (state, accepted))
    (adds : state.added stream record = some missing) :
    lost stream (record :: accepted stream) = lost stream (accepted stream) + missing.toNat := by
  rw [added, following.last stream] at adds
  cases taken : accepted stream with
  | nil =>
      simp only [taken, List.head?_nil, Option.map_none, Option.some.injEq] at adds
      simp [lost, brokenPairs, ← adds]
  | cons previous older =>
      have latest : stream = .basic → state.latestRecord = some previous := by
        rintro rfl
        rw [following.latest]
        simp [taken]
      simp only [taken, List.head?_cons, Option.map_some] at adds
      rw [lost, lost, Unrolled.missed_cons]
      by_cases next : record.sequence - (previous.sequence + 1) = 0
      · have follows : record.sequence = previous.sequence + 1 := sub_eq_zero_iff.mp next
        have single : sequencesAhead previous record = 1 := by
          rw [sequencesAhead, ahead_of_distance (by rw [next]; decide), next]
          rfl
        simp only [next, if_true] at adds
        by_cases basic : stream = .basic
        · simp only [basic, latest basic, Option.any_some, true_and] at adds
          by_cases broken : discontinuous previous record = true
          · rw [if_pos broken] at adds
            cases adds
            simp [single, basic, brokenPairs, follows, broken]
            omega
          · rw [if_neg broken] at adds
            cases adds
            simp [single, basic, brokenPairs, broken]
        · simp only [basic, false_and, if_false, Option.some.injEq] at adds
          simp [single, basic, ← adds]
      · simp only [next, if_false] at adds
        split at adds
        · rename_i early
          cases adds
          have apart : record.sequence ≠ previous.sequence + 1 := fun same =>
            next (sub_eq_zero_iff.mpr same)
          rw [sequencesAhead, ahead_of_distance early, Nat.add_sub_cancel]
          simp only [brokenPairs, apart, false_and, if_false, Nat.zero_add]
          omega
        · cases adds

/-- The ways a record can go in the observed ingestor: past it, refused, with or without a count,
or into its stream. -/
inductive Taken (view : Continuity × AcceptedRecords) (record : MeterRecord) :
    Continuity × AcceptedRecords → Prop
  | aside (harmless : ∀ stream, LossDecoded decoders stream view.1 record) :
      Taken view record view
  | refused {stream : Stream} {missing : UInt32}
      (matched : view.1.matchesConfiguration record = true)
      (belongs : streamOf record = some stream) (tracked : stream.decodedFirst = false)
      (adds : view.1.added stream record = some missing)
      (fails : decoders.decodes stream record = false) :
      Taken view record (view.1.addGaps stream missing, view.2)
  | accepted {stream : Stream} {missing : UInt32}
      (adds : view.1.added stream record = some missing)
      (belongs : streamOf record = some stream)
      (returns : decoders.decodes stream record = true) :
      Taken view record ((view.1.addGaps stream missing).advance stream record,
        Function.update view.2 stream (record :: view.2 stream))

theorem observed_next (view : Continuity × AcceptedRecords) (record : MeterRecord) :
    Taken decoders view record ((observed decoders).next view record) := by
  obtain ⟨state, accepted⟩ := view
  rw [observed, Machine.traced_next]
  simp only [Machine.next, Machine.answer, machine]
  by_cases known : state.matchesConfiguration record = true ∧ (streamOf record).isSome
  · obtain ⟨matched, inside⟩ := known
    obtain ⟨stream, belongs⟩ := Option.isSome_iff_exists.mp inside
    rw [accept_of_stream decoders state matched belongs]
    cases adds : state.added stream record with
    | none =>
        apply Taken.aside
        intro other _ same _ shows
        rw [belongs] at same
        cases same
        exact absurd shows (fresh_of_added_none adds)
    | some missing =>
        by_cases returns : decoders.decodes stream record = true
        · simp only [returns, if_true]
          exact Taken.accepted adds belongs returns
        · by_cases first : stream.decodedFirst = true
          · simp only [returns, first, if_true]
            apply Taken.aside
            intro other _ same tracked
            rw [belongs] at same
            cases same
            rw [first] at tracked
            cases tracked
          · simp only [returns, first]
            exact Taken.refused matched belongs (by simpa using first) adds (by simpa using returns)
  · rw [accept_aside decoders state known]
    apply Taken.aside
    intro other matched belongs
    exact absurd ⟨matched, by rw [belongs]; rfl⟩ known

theorem following_taken {view after : Continuity × AcceptedRecords} {record : MeterRecord}
    (following : Following view) (taken : Taken decoders view record after) : Following after := by
  cases taken with
  | aside => exact following
  | refused => exact ⟨following.last, following.latest⟩
  | @accepted stream missing adds belongs returns =>
      constructor
      · intro other
        rw [last_advance]
        rcases eq_or_ne other stream with rfl | differs
        · simp
        · simp only [if_neg differs, last_addGaps, Function.update_of_ne differs]
          exact following.last other
      · simp only [latestRecord_advance]
        rcases eq_or_ne stream .basic with rfl | differs
        · simp
        · rw [if_neg differs, Function.update_of_ne differs.symm]
          exact following.latest

/-- The counter of a stream stays exact over a record just when the record is no loss that its
decoder refuses. -/
theorem exact_taken_iff {view after : Continuity × AcceptedRecords} {record : MeterRecord}
    {stream : Stream} (following : Following view) (exact : Exact stream view)
    (taken : Taken decoders view record after) :
    Exact stream after ↔ LossDecoded decoders stream view.1 record := by
  cases taken with
  | aside harmless => exact iff_of_true exact (harmless stream)
  | @refused other missing matched belongs tracked adds fails =>
      rcases eq_or_ne stream other with rfl | differs
      · have grows : Exact stream (view.1.addGaps stream missing, view.2) ↔ missing = 0 := by
          rw [Exact, ← exact]
          simp only [addGaps, Function.update_self]
          constructor
          · intro same
            have nothing : missing.toUInt64 = 0 := by grind
            have bound := congrArg UInt64.toNat nothing
            rw [UInt32.toNat_toUInt64] at bound
            exact UInt32.toNat_inj.mp bound
          · rintro rfl
            exact UInt64.add_zero _
        rw [grows]
        constructor
        · intro zero _ _ _ shows
          exact absurd zero ((added_ne_zero_iff adds).mpr shows)
        · intro allowed
          by_contra some
          have decoded := allowed matched belongs tracked ((added_ne_zero_iff adds).mp some)
          rw [fails] at decoded
          cases decoded
      · apply iff_of_true
        · rw [Exact, ← exact]
          simp only [addGaps, Function.update_of_ne differs]
        · intro _ same
          rw [belongs] at same
          exact absurd (Option.some.inj same).symm differs
  | @accepted other missing adds belongs returns =>
      rcases eq_or_ne stream other with rfl | differs
      · apply iff_of_true
        · rw [Exact]
          simp only [gaps_advance, addGaps, Function.update_self, lost_cons following adds]
          rw [exact, UInt64.ofNat_add, UInt64.ofNat_uInt32ToNat]
        · intro _ _ _ _
          exact returns
      · apply iff_of_true
        · rw [Exact]
          simp only [gaps_advance, addGaps, Function.update_of_ne differs]
          exact exact
        · intro _ same
          rw [belongs] at same
          exact absurd (Option.some.inj same).symm differs

theorem exact_prefixes_iff (stream : Stream) (records : List MeterRecord)
    (view : Continuity × AcceptedRecords) (following : Following view) :
    (∀ earlier, earlier <+: records → Exact stream ((observed decoders).run view earlier)) ↔
      Exact stream view ∧
        (machine decoders).Along (LossDecoded decoders stream) view.1 records := by
  induction records generalizing view with
  | nil => simp [Machine.Along]
  | cons record records ih =>
      have taken := observed_next decoders view record
      have step := ih ((observed decoders).next view record)
        (following_taken decoders following taken)
      constructor
      · intro always
        have start : Exact stream view := always [] List.nil_prefix
        have rest := step.mp (fun earlier inside =>
          always (record :: earlier) ((List.cons_prefix_cons).mpr ⟨rfl, inside⟩))
        exact ⟨start, (exact_taken_iff decoders following start taken).mp rest.1, rest.2⟩
      · rintro ⟨start, first, rest⟩ earlier inside
        cases earlier with
        | nil => exact start
        | cons head tail =>
            obtain ⟨rfl, within⟩ := List.cons_prefix_cons.mp inside
            exact step.mpr ⟨(exact_taken_iff decoders following start taken).mpr first, rest⟩
              tail within

/-- Every stream's counter tells its losses after every record of an epoch just when no record
that shows a loss is refused by a decoder that runs after the tracker. -/
theorem gaps_exact_iff (start : Continuity) (records : List MeterRecord) (stream : Stream) :
    (∀ earlier, earlier <+: records →
      Exact stream ((observed decoders).run (start.beginEpoch, fun _ => []) earlier)) ↔
      (machine decoders).Along (LossDecoded decoders stream) start.beginEpoch records := by
  have blank : Following (start.beginEpoch, fun _ => []) := by
    constructor
    · intro other
      cases other <;> rfl
    · rfl
  have zero : Exact stream (start.beginEpoch, fun _ => []) := by
    cases stream <;> rfl
  rw [exact_prefixes_iff decoders stream records _ blank]
  exact and_iff_right zero

/-- A 150/180-cycle record at 60 Hz with the given sequence and status. -/
def aggregateRecord (sequence status : UInt32) : MeterRecord :=
  .ofWords [(0, 0x3152544d), (1, 0x00020003), (2, 256), (3, sequence), (4, 1), (5, 32000),
    (6, 96000), (8, status), (9, 1000), (13, 0x00b43c0f), (14, 1), (15, 15), (36, 96999)]

/-- Record 3 shows that 2 is missing and is refused as incomplete; record 4 then shows 2 and 3. -/
def refusedAhead : List MeterRecord :=
  [aggregateRecord 1 2, aggregateRecord 3 0, aggregateRecord 4 2]

def silentFamilies : FamilyDecoders := ⟨fun _ => false, fun _ => false, fun _ => false⟩

def refusedView : Continuity × AcceptedRecords :=
  (observed silentFamilies).run (beginEpoch { configuration := ⟨1, 32000⟩ }, fun _ => [])
    refusedAhead

theorem refused_gap_counted_twice :
    refusedView.2 .aggregate = [aggregateRecord 4 2, aggregateRecord 1 2] ∧
      refusedView.1.gaps .aggregate = 3 ∧
        lost .aggregate (refusedView.2 .aggregate) = 2 ∧ ¬ Exact .aggregate refusedView := by
  decide +kernel

end Continuity

end Msap1.Acquisition
