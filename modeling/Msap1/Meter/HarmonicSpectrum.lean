import Msap1.Meter.Records
import Msap1.Sqlite

/-! `harmonic_spectrum.cpp`: the decoder of a harmonic chunk and the assembler of a family of
42 chunks. -/

namespace Msap1.Meter

def harmonicRecordsPerFamily : Nat := 42

def harmonicMaxOrder : Nat := 127

/-- `orders_per_record`: 24 for the base families, 23 for the aggregates. -/
def ordersPerRecord (period : MeasurementPeriod) : Nat := if period = .basic then 24 else 23

structure HarmonicPoint where
  order : UInt8 := 0
  magnitudeMicroUnits : UInt64 := 0
  angleMillidegrees : UInt32 := 0
  magnitudeValid : Bool := false
  angleValid : Bool := false
  deriving DecidableEq, Repr

/-- What `same_family` compares: every field that the chunks of one family share. -/
structure HarmonicProvenance where
  period : MeasurementPeriod := .basic
  sequence : UInt32 := 0
  configurationGeneration : UInt32 := 0
  sampleRateHz : UInt32 := 0
  sampleCount : UInt32 := 0
  validMask : UInt8 := 0
  status : UInt32 := 0
  firstSample : UInt64 := 0
  emitDrops : UInt32 := 0
  resultDrops : UInt32 := 0
  targetSample : UInt64 := 0
  contributors : UInt16 := 0
  overshootSamples : UInt16 := 0
  timeAligned : Bool := false
  contaminated : Bool := false
  firstSourceSequence : UInt32 := 0
  lastSourceSequence : UInt32 := 0
  measuredFrequencyMillihz : UInt32 := 0
  qualifiedMaxOrder : UInt8 := 0
  nominalFrequencyHz : UInt8 := 0
  cycleCount : UInt8 := 0
  filterProfileId : UInt8 := 0
  deriving DecidableEq, Repr

/-- A validated record. Its first order and the number of its orders follow from the chunk. -/
structure HarmonicRecordChunk where
  provenance : HarmonicProvenance
  channel : Fin 7
  chunk : Fin 6
  entries : List HarmonicPoint

namespace HarmonicRecordChunk

variable (chunk : HarmonicRecordChunk)

def firstOrder : Nat := chunk.chunk.val * ordersPerRecord chunk.provenance.period + 1

/-- `expected_order_count`. -/
def orderCount : Nat :=
  min (ordersPerRecord chunk.provenance.period) (harmonicMaxOrder - chunk.firstOrder + 1)

/-- The place of the chunk in its family, the fragment of its stream record. -/
def recordIndex : Fin 42 := ⟨chunk.channel.val * 6 + chunk.chunk.val, by omega⟩

/-- Whether the chunk brings the point of an order index. -/
def covers (channel : Fin 7) (index : Nat) : Prop :=
  channel = chunk.channel ∧ chunk.firstOrder ≤ index + 1 ∧
    index + 1 < chunk.firstOrder + chunk.orderCount

instance (channel : Fin 7) (index : Nat) : Decidable (chunk.covers channel index) := by
  unfold covers
  infer_instance

def pointAt (index : Nat) : HarmonicPoint := chunk.entries.getD (index + 1 - chunk.firstOrder) {}

end HarmonicRecordChunk

def entryFault (packed : UInt64) (point : HarmonicPoint) (qualifiedMaxOrder : UInt8)
    (laneValid : Bool) : Option String :=
  if packed >>> 62 ≠ 0 then some "harmonic entry uses reserved bits"
  else if (!point.magnitudeValid && point.magnitudeMicroUnits != 0) ||
      (!point.angleValid && point.angleMillidegrees != 0) ||
      (point.angleValid && (!point.magnitudeValid || decide (360000 ≤ point.angleMillidegrees))) ||
      (decide (qualifiedMaxOrder < point.order) && (point.magnitudeValid || point.angleValid)) ||
      (!laneValid && (point.magnitudeValid || point.angleValid)) then
    some "harmonic entry validity is malformed"
  else none

def harmonicPoint (order : UInt8) (packed : UInt64) : HarmonicPoint where
  order
  magnitudeMicroUnits := packed &&& 0xFFFFFFFFFF
  angleMillidegrees := (packed >>> 40 &&& 0xFFFFF).toUInt32
  magnitudeValid := packed &&& 0x1000000000000000 != 0
  angleValid := packed &&& 0x2000000000000000 != 0

def packedEntry (record : MeterRecord) (index : Nat) : UInt64 :=
  record.unsigned64 (Fin.ofNat 64 (16 + index * 2))

/-- The first fault of the entries, those beyond the orders of the chunk being zero. -/
def entriesFault (record : MeterRecord) (chunk : HarmonicRecordChunk) : Option String :=
  (List.range (ordersPerRecord chunk.provenance.period)).findSome? (fun index =>
    let packed := packedEntry record index
    if chunk.orderCount ≤ index then
      if packed ≠ 0 then some "harmonic record has nonzero padding entries" else none
    else entryFault packed (harmonicPoint (UInt8.ofNat (chunk.firstOrder + index)) packed)
      chunk.provenance.qualifiedMaxOrder
        (chunk.provenance.validMask &&& (1 <<< UInt8.ofNat chunk.channel.val) != 0))

/-- The period of an aggregate, from the low bits of its shape word. -/
def aggregatePeriod (shape : UInt32) : Option MeasurementPeriod :=
  if shape &&& 3 = 1 then some .cycles150And180
  else if shape &&& 3 = 2 then some .min10
  else if shape &&& 3 = 3 then some .hour2
  else none

def commonProvenance (record : MeterRecord) (period : MeasurementPeriod) : HarmonicProvenance where
  period
  sequence := record.sequence
  configurationGeneration := record.configurationGeneration
  sampleRateHz := record.sampleRateHz
  sampleCount := record.blockSampleCount
  validMask := record.validMask
  status := record.status
  firstSample := record.firstSampleIndex
  qualifiedMaxOrder := (record.word 15).toUInt8
  nominalFrequencyHz := (record.word 15 >>> 8).toUInt8
  cycleCount := (record.word 15 >>> 16).toUInt8
  filterProfileId := (record.word 15 >>> 24).toUInt8

def harmonicProvenance (record : MeterRecord) : Except Failure HarmonicProvenance :=
  if record.recordFormat = some .harmonicAggregate then
    match aggregatePeriod (record.word 14) with
    | none => .error (.invalidArgument "harmonic aggregate period is malformed")
    | some period =>
        let shape := record.word 14
        let provenance : HarmonicProvenance := { commonProvenance record period with
          targetSample := record.unsigned64 11
          contributors := (shape >>> 2 &&& 0xFFF).toUInt16
          overshootSamples := (shape >>> 14 &&& 0xFFFF).toUInt16
          timeAligned := shape &&& 0x40000000 != 0
          contaminated := shape &&& 0x80000000 != 0
          firstSourceSequence := record.word 62
          lastSourceSequence := record.word 63 }
        if provenance.contributors = 0 ∨ provenance.timeAligned = false ∨
            (record.status &&& 4 != 0) ≠ provenance.timeAligned ∨
            (record.status &&& 8 != 0) = provenance.contaminated then
          .error (.invalidArgument "harmonic aggregate provenance is malformed")
        else .ok provenance
  else .ok { commonProvenance record .basic with
    emitDrops := record.emitDrops
    resultDrops := record.resultDrops
    measuredFrequencyMillihz := record.word 14 }

def metadataFault (provenance : HarmonicProvenance) : Option String :=
  if 127 < provenance.qualifiedMaxOrder ∨
      ¬ ((provenance.nominalFrequencyHz = 50 ∧ provenance.cycleCount = 10) ∨
        (provenance.nominalFrequencyHz = 60 ∧ provenance.cycleCount = 12)) then
    some "harmonic record metadata is malformed"
  else if (provenance.status &&& 0x20 != 0) ≠ (provenance.qualifiedMaxOrder == 127) then
    some "harmonic full-range status disagrees with metadata"
  else if provenance.qualifiedMaxOrder < 127 ∧ provenance.status &&& 0x80 = 0 then
    some "limited harmonic range lacks rate-limit status"
  else if provenance.period = .basic ∧ provenance.status &&& 4 ≠ 0 ∧
      provenance.measuredFrequencyMillihz = 0 then
    some "grid-locked harmonic record has zero frequency"
  else none

/-- The chunk that the header word describes, if its geometry is that of its place. -/
def chunkOf (record : MeterRecord) (provenance : HarmonicProvenance) :
    Option HarmonicRecordChunk :=
  let header := record.word 13
  let channel := (header &&& 7).toNat
  let place := (header >>> 3 &&& 0xF).toNat
  if inside : channel < 7 ∧ place < 6 then
    let empty : HarmonicRecordChunk := ⟨provenance, ⟨channel, inside.1⟩, ⟨place, inside.2⟩, []⟩
    if (header >>> 20 &&& 0xF).toNat = 6 ∧ (header >>> 24).toNat = harmonicMaxOrder ∧
        (header >>> 7 &&& 0xFF).toNat = empty.firstOrder ∧
        (header >>> 15 &&& 0x1F).toNat = empty.orderCount then
      some { empty with
        entries := (List.range empty.orderCount).map (fun index =>
          harmonicPoint (UInt8.ofNat (empty.firstOrder + index)) (packedEntry record index)) }
    else none
  else none

def decodeHarmonicRecord (record : MeterRecord) : Except Failure HarmonicRecordChunk :=
  if record.headerValid = false ∨ (record.recordFormat ≠ some .harmonic ∧
      record.recordFormat ≠ some .harmonicAggregate) then
    .error (.invalidArgument "invalid harmonic record header")
  else if record.sampleRateHz = 0 ∨ record.blockSampleCount = 0 then
    .error (.invalidArgument "harmonic record has an empty sample span")
  else if record.word 7 &&& ~~~0x7F ≠ 0 then
    .error (.invalidArgument "harmonic record has an invalid lane mask")
  else if record.status &&& ~~~0xFF ≠ 0 ∨ record.status &&& 2 = 0 then
    .error (.invalidArgument "harmonic record status is malformed")
  else match harmonicProvenance record with
    | .error failure => .error failure
    | .ok provenance => match chunkOf record provenance with
      | none => .error (.invalidArgument "harmonic record chunk geometry is malformed")
      | some chunk => match metadataFault provenance with
        | some text => .error (.invalidArgument text)
        | none => match entriesFault record chunk with
          | some text => .error (.invalidArgument text)
          | none => .ok chunk

/-- A family, complete or still growing. -/
structure HarmonicSpectrumSnapshot where
  provenance : HarmonicProvenance
  channels : Fin 7 → Nat → HarmonicPoint

/-- `snapshot_from`: no point but its order. -/
def snapshotFrom (chunk : HarmonicRecordChunk) : HarmonicSpectrumSnapshot where
  provenance := chunk.provenance
  channels := fun _ index => { order := UInt8.ofNat (index + 1) }

def HarmonicSpectrumSnapshot.with (snapshot : HarmonicSpectrumSnapshot)
    (chunk : HarmonicRecordChunk) : HarmonicSpectrumSnapshot :=
  { snapshot with
    channels := fun channel index =>
      if chunk.covers channel index then chunk.pointAt index else snapshot.channels channel index }

/-- `forward_of`: ahead by less than half the range. -/
def forwardOf (candidate baseline : UInt32) : Prop :=
  candidate - baseline ≠ 0 ∧ candidate - baseline < 0x80000000

instance (candidate baseline : UInt32) : Decidable (forwardOf candidate baseline) := by
  unfold forwardOf
  infer_instance

structure PartialFamily where
  snapshot : HarmonicSpectrumSnapshot
  received : Fin 42 → Bool := fun _ => false
  receivedCount : Nat := 0

/-- The count of a partial family is that of its received chunks. -/
def PartialFamily.Counts (family : PartialFamily) : Prop :=
  family.receivedCount = (Finset.univ.filter (fun index => family.received index = true)).card

def PartialFamily.grown (family : PartialFamily) (chunk : HarmonicRecordChunk) : PartialFamily :=
  ⟨family.snapshot.with chunk, Function.update family.received chunk.recordIndex true,
    family.receivedCount + 1⟩

theorem counts_fresh (snapshot : HarmonicSpectrumSnapshot) :
    ({ snapshot } : PartialFamily).Counts := by
  simp [PartialFamily.Counts]

theorem PartialFamily.Counts.grown {family : PartialFamily} {chunk : HarmonicRecordChunk}
    (counts : family.Counts) (missing : family.received chunk.recordIndex = false) :
    (family.grown chunk).Counts := by
  have received : (Finset.univ.filter (fun index =>
      Function.update family.received chunk.recordIndex true index = true)) =
        insert chunk.recordIndex
          (Finset.univ.filter (fun index => family.received index = true)) := by
    ext index
    by_cases own : index = chunk.recordIndex <;> simp [own, Function.update_apply]
  unfold PartialFamily.Counts PartialFamily.grown
  rw [received, Finset.card_insert_of_notMem (by simp [missing]), counts]

theorem PartialFamily.Counts.full {family : PartialFamily} (counts : family.Counts)
    (full : family.receivedCount = harmonicRecordsPerFamily) (index : Fin 42) :
    family.received index = true := by
  have everything : Finset.univ.filter (fun index => family.received index = true) =
      Finset.univ := by
    apply Finset.eq_univ_of_card
    rw [← counts, full, Fintype.card_fin]
    rfl
  have there : index ∈ Finset.univ.filter (fun index => family.received index = true) := by
    rw [everything]
    exact Finset.mem_univ index
  exact (Finset.mem_filter.mp there).2

structure HarmonicFamilyAssembler where
  partialFamily : Option PartialFamily := none
  lastCompletedSequence : Option UInt32 := none

structure HarmonicAssemblyUpdate where
  incompleteFamilies : UInt32 := 0
  completed : Option HarmonicSpectrumSnapshot := none

namespace HarmonicFamilyAssembler

variable (assembler : HarmonicFamilyAssembler)

/-- The partial family that a chunk goes to and the families that it shows to be missing. -/
def familyFor (chunk : HarmonicRecordChunk) : Except Failure (PartialFamily × UInt32) :=
  let fresh : PartialFamily := { snapshot := snapshotFrom chunk }
  match assembler.partialFamily with
  | some family =>
      if chunk.provenance.sequence = family.snapshot.provenance.sequence then .ok (family, 0)
      else if forwardOf chunk.provenance.sequence family.snapshot.provenance.sequence then
        .ok (fresh, chunk.provenance.sequence - family.snapshot.provenance.sequence)
      else .error (.invalidArgument "stale harmonic family sequence")
  | none => match assembler.lastCompletedSequence with
    | none => .ok (fresh, 0)
    | some last =>
        if forwardOf chunk.provenance.sequence last then
          .ok (fresh, chunk.provenance.sequence - (last + 1))
        else .error (.invalidArgument "stale harmonic family sequence")

/-- `HarmonicFamilyAssembler::accept`; a chunk that it rejects leaves what it replaced gone. -/
def accept (chunk : HarmonicRecordChunk) :
    HarmonicFamilyAssembler × Except Failure HarmonicAssemblyUpdate :=
  match assembler.familyFor chunk with
  | .error failure => (assembler, .error failure)
  | .ok (family, incompleteFamilies) =>
      let begun := { assembler with partialFamily := some family }
      if family.snapshot.provenance ≠ chunk.provenance then
        (begun, .error (.invalidArgument "harmonic family provenance mismatch"))
      else if family.received chunk.recordIndex then
        (begun, .error (.invalidArgument "duplicate harmonic family chunk"))
      else
        let snapshot := family.snapshot.with chunk
        let received := Function.update family.received chunk.recordIndex true
        if family.receivedCount + 1 = harmonicRecordsPerFamily then
          ({ partialFamily := none, lastCompletedSequence := some chunk.provenance.sequence },
            .ok { incompleteFamilies, completed := some snapshot })
        else
          ({ assembler with partialFamily := some ⟨snapshot, received, family.receivedCount + 1⟩ },
            .ok { incompleteFamilies })

section Accept

variable {assembler} {chunk : HarmonicRecordChunk}

theorem not_forwardOf_self (sequence : UInt32) : ¬ forwardOf sequence sequence := by
  intro ahead
  exact ahead.1 (UInt32.sub_self sequence)

theorem familyFor_ok {family : PartialFamily} {incomplete : UInt32}
    (found : assembler.familyFor chunk = .ok (family, incomplete)) :
    (assembler.partialFamily = some family ∧
        family.snapshot.provenance.sequence = chunk.provenance.sequence) ∨
      (family = { snapshot := snapshotFrom chunk } ∧
        (∀ old, assembler.partialFamily = some old →
          old.snapshot.provenance.sequence ≠ chunk.provenance.sequence) ∧
        (assembler.partialFamily = none →
          assembler.lastCompletedSequence ≠ some chunk.provenance.sequence)) := by
  unfold familyFor at found
  cases begun : assembler.partialFamily with
  | some old =>
      simp only [begun] at found
      split at found
      · next same =>
          cases found
          exact .inl ⟨rfl, same.symm⟩
      · next other =>
          split at found
          · cases found
            refine .inr ⟨rfl, ?_, fun absent => nomatch absent⟩
            intro family known
            cases known
            exact fun same => other same.symm
          · cases found
  | none =>
      simp only [begun] at found
      cases last : assembler.lastCompletedSequence with
      | none =>
          rw [last] at found
          cases found
          exact .inr ⟨rfl, fun _ known => (nomatch known), fun _ known => nomatch known⟩
      | some sequence =>
          simp only [last] at found
          split at found
          · next ahead =>
              cases found
              refine .inr ⟨rfl, fun _ known => (nomatch known), ?_⟩
              intro _ same
              rw [Option.some.inj same] at ahead
              exact not_forwardOf_self _ ahead
          · cases found

theorem accept_error {failure : Failure} (rejected : (assembler.accept chunk).2 = .error failure) :
    (assembler.accept chunk).1 = assembler := by
  unfold accept at rejected ⊢
  cases found : assembler.familyFor chunk with
  | error failure => rfl
  | ok pair =>
      rcases pair with ⟨family, incomplete⟩
      simp only [found] at rejected ⊢
      rcases familyFor_ok found with ⟨known, -⟩ | ⟨rfl, -, -⟩
      · split
        · rw [← known]
        · next same =>
            rw [if_neg same] at rejected
            split
            · rw [← known]
            · next missing =>
                rw [if_neg missing] at rejected
                split at rejected <;> cases rejected
      · have same : ({ snapshot := snapshotFrom chunk } : PartialFamily).snapshot.provenance =
            chunk.provenance := rfl
        rw [if_neg (not_not_intro same), if_neg (by simp)] at rejected
        split at rejected <;> cases rejected

/-- What an accepted chunk does to the assembler. -/
structure Accepted (assembler : HarmonicFamilyAssembler) (chunk : HarmonicRecordChunk)
    (family : PartialFamily) (update : HarmonicAssemblyUpdate) : Prop where
  found : (assembler.partialFamily = some family ∧
      family.snapshot.provenance.sequence = chunk.provenance.sequence) ∨
    (family = { snapshot := snapshotFrom chunk } ∧
      (∀ old, assembler.partialFamily = some old →
        old.snapshot.provenance.sequence ≠ chunk.provenance.sequence) ∧
      (assembler.partialFamily = none →
        assembler.lastCompletedSequence ≠ some chunk.provenance.sequence))
  same : family.snapshot.provenance = chunk.provenance
  missing : family.received chunk.recordIndex = false
  after : (family.receivedCount + 1 = harmonicRecordsPerFamily ∧
      update.completed = some (family.snapshot.with chunk) ∧
      (assembler.accept chunk).1 = ⟨none, some chunk.provenance.sequence⟩) ∨
    (family.receivedCount + 1 ≠ harmonicRecordsPerFamily ∧ update.completed = none ∧
      (assembler.accept chunk).1 = { assembler with
        partialFamily := some ⟨family.snapshot.with chunk,
          Function.update family.received chunk.recordIndex true, family.receivedCount + 1⟩ })

theorem accept_ok {update : HarmonicAssemblyUpdate}
    (accepted : (assembler.accept chunk).2 = .ok update) :
    ∃ family, Accepted assembler chunk family update := by
  cases found : assembler.familyFor chunk with
  | error failure =>
      rw [accept, found] at accepted
      cases accepted
  | ok pair =>
      rcases pair with ⟨family, incomplete⟩
      have shape := accepted
      simp only [accept, found] at shape
      split at shape
      · cases shape
      · next same =>
          split at shape
          · cases shape
          · next missing =>
              rw [not_not] at same
              refine ⟨family, familyFor_ok found, same, Bool.eq_false_iff.mpr missing, ?_⟩
              by_cases full : family.receivedCount + 1 = harmonicRecordsPerFamily
              · rw [if_pos full] at shape
                cases shape
                refine .inl ⟨full, rfl, ?_⟩
                simp only [accept, found]
                rw [if_neg (not_not_intro same), if_neg missing, if_pos full]
              · rw [if_neg full] at shape
                cases shape
                refine .inr ⟨full, rfl, ?_⟩
                simp only [accept, found]
                rw [if_neg (not_not_intro same), if_neg missing, if_neg full]

end Accept

end HarmonicFamilyAssembler

/-- The points of a chunk are in the snapshot of its own family. -/
structure HarmonicSpectrumSnapshot.Holds (snapshot : HarmonicSpectrumSnapshot)
    (chunk : HarmonicRecordChunk) : Prop where
  provenance : snapshot.provenance = chunk.provenance
  points : ∀ channel index, chunk.covers channel index →
    snapshot.channels channel index = chunk.pointAt index

namespace HarmonicSpectrumSnapshot

variable {snapshot : HarmonicSpectrumSnapshot} {chunk other : HarmonicRecordChunk}

theorem holds_with (same : snapshot.provenance = chunk.provenance) :
    (snapshot.with chunk).Holds chunk :=
  ⟨same, fun _ _ covered => if_pos covered⟩

theorem covers_apart (family : other.provenance = chunk.provenance)
    (apart : other.recordIndex ≠ chunk.recordIndex) {channel : Fin 7} {index : Nat}
    (covered : other.covers channel index) : ¬ chunk.covers channel index := by
  rintro ⟨same, low, high⟩
  rcases covered with ⟨own, start, finish⟩
  apply apart
  have place : other.chunk.val = chunk.chunk.val := by
    unfold HarmonicRecordChunk.orderCount HarmonicRecordChunk.firstOrder at *
    rw [family] at start finish
    have cases : ordersPerRecord chunk.provenance.period = 24 ∨
        ordersPerRecord chunk.provenance.period = 23 := by
      unfold ordersPerRecord
      split
      · exact .inl rfl
      · exact .inr rfl
    rcases cases with orders | orders <;> rw [orders] at low high start finish <;> omega
  unfold HarmonicRecordChunk.recordIndex
  simp only [place, ← own, ← same]

theorem holds_with_other (held : snapshot.Holds other)
    (same : snapshot.provenance = chunk.provenance)
    (apart : other.recordIndex ≠ chunk.recordIndex) : (snapshot.with chunk).Holds other := by
  refine ⟨held.provenance, ?_⟩
  intro channel index covered
  have free := covers_apart (held.provenance.symm.trans same) apart covered
  exact (if_neg free).trans (held.points channel index covered)

end HarmonicSpectrumSnapshot

end Msap1.Meter
