import Msap1.Acquisition.LiveView
import Msap1.Meter.HarmonicSpectrum

/-! The families that `MeterRecordIngestor::accept` hands to `publish_records`. Beside the
assembler of every family stands a buffer of its raw records, keyed by less than the assembler
compares; the two stay in step whatever the publisher answers. -/

namespace Msap1.Acquisition

open Meter

variable {Value : Group → Type}

/-- A buffered record is `some none` once its payload has been moved to the publisher. -/
structure PendingHarmonicFamily where
  sequence : UInt32
  records : Fin 42 → Option (Option MeterRecord) := fun _ => none
  count : Nat := 0

/-- The assembler and the buffer of one period. -/
structure HarmonicLine where
  assembler : HarmonicFamilyAssembler := {}
  pending : Option PendingHarmonicFamily := none

/-- A family on its way to `publish_records`, with the values assembled from it. -/
inductive Handover (Value : Group → Type) where
  | harmonic (snapshot : HarmonicSpectrumSnapshot) (records : List (Option MeterRecord))
  | energy (values : Value .energy) (records : List (Option MeterRecord))

/-- What one call does beside its effect: the `std::logic_error` it throws, the family it
publishes. -/
structure Publication (Value : Group → Type) where
  fault : Option String := none
  family : Option (Handover Value) := none

namespace PendingHarmonicFamily

variable (pending : PendingHarmonicFamily)

def bufferFor (pending : Option PendingHarmonicFamily) (sequence : UInt32) :
    PendingHarmonicFamily :=
  match pending with
  | some family => if family.sequence = sequence then family else { sequence }
  | none => { sequence }

def stored (index : Fin 42) (record : MeterRecord) : PendingHarmonicFamily :=
  { pending with
    records := Function.update pending.records index (some (some record))
    count := pending.count + 1 }

/-- The buffer as the move to the publisher leaves it, up to the first gap. -/
def moved : PendingHarmonicFamily :=
  { pending with
    records := fun index =>
      if ∀ before ≤ index, (pending.records before).isSome = true then some none
      else pending.records index }

/-- What is left of the buffer once the family was handed over. -/
def leftBy : Published → Option PendingHarmonicFamily
  | .acknowledged => none
  | _ => some pending.moved

def payloads : List (Option MeterRecord) := List.ofFn (fun index => (pending.records index).join)

end PendingHarmonicFamily

namespace HarmonicLine

variable (line : HarmonicLine)

def publish (assembler : HarmonicFamilyAssembler) (pending : PendingHarmonicFamily)
    (snapshot : HarmonicSpectrumSnapshot) (published : Published) :
    HarmonicLine × Publication Value :=
  if pending.count ≠ harmonicRecordsPerFamily then
    (⟨assembler, some pending⟩,
      { fault := some "complete harmonic family has a partial publication buffer" })
  else if ∃ index, (pending.records index).isNone = true then
    (⟨assembler, some pending.moved⟩,
      { fault := some "complete harmonic family is missing a publication chunk" })
  else
    (⟨assembler, pending.leftBy published⟩,
      { family := some (.harmonic snapshot pending.payloads) })

/-- The HARMONIC branch of `accept`, once the record is decoded. -/
def accept (record : MeterRecord) (chunk : HarmonicRecordChunk) (published : Published) :
    HarmonicLine × Publication Value :=
  match line.assembler.accept chunk with
  | (assembler, .error _) => ({ line with assembler }, {})
  | (assembler, .ok update) =>
      let pending := PendingHarmonicFamily.bufferFor line.pending chunk.provenance.sequence
      if (pending.records chunk.recordIndex).isSome then
        (⟨assembler, some pending⟩,
          { fault := some "harmonic publication buffer received a duplicate chunk" })
      else
        match update.completed with
        | none => (⟨assembler, some (pending.stored chunk.recordIndex record)⟩, {})
        | some snapshot =>
            publish assembler (pending.stored chunk.recordIndex record) snapshot published

end HarmonicLine

/-- The ENERGY family that `accept` publishes, from the same buffer and assembler that it then
stores. -/
def energyPublication (decoders : Decoders Value) (ingestor : MeterRecordIngestor Value)
    (record : MeterRecord) (surroundings : Surroundings Value) : Publication Value :=
  match decodeEnergyIdentity record with
  | none => {}
  | some identity => match ingestor.bufferPart record identity with
    | (_, false) => {}
    | (pending, true) =>
        match (ingestor.energyAssembler.accept decoders record identity
          surroundings.receivedAt).2 with
        | some (some values) =>
            if pending.summary.isNone || pending.quadrants.isNone then
              { fault := some "complete ENERGY family has a partial publication buffer" }
            else { family := some (.energy values [pending.summary.join, pending.quadrants.join]) }
        | _ => {}

/-- The ingestor with its harmonic lines. -/
structure PublishingIngestor (Value : Group → Type) where
  ingestor : MeterRecordIngestor Value
  lines : MeasurementPeriod → HarmonicLine := fun _ => {}

namespace PublishingIngestor

variable (decoders : Decoders Value) (state : PublishingIngestor Value)

def acceptHarmonic (record : MeterRecord) (published : Published) :
    PublishingIngestor Value × Publication Value :=
  match decodeHarmonicRecord record with
  | .error _ => (state, {})
  | .ok chunk =>
      let period := chunk.provenance.period
      let result := (state.lines period).accept record chunk published
      ({ state with lines := Function.update state.lines period result.1 }, result.2)

def accept (record : MeterRecord) (surroundings : Surroundings Value) :
    PublishingIngestor Value × Publication Value :=
  if state.ingestor.matchesConfiguration record then
    match record.recordFormat with
    | some .harmonic | some .harmonicAggregate =>
        state.acceptHarmonic record surroundings.published
    | some .energy =>
        ({ state with ingestor := (state.ingestor.accept decoders record surroundings).1 },
          energyPublication decoders state.ingestor record surroundings)
    | _ =>
        ({ state with ingestor := (state.ingestor.accept decoders record surroundings).1 }, {})
  else (state, {})

def cleared : PublishingIngestor Value := { ingestor := state.ingestor.clearLatest }

def after : Call Value → PublishingIngestor Value × Publication Value
  | .accept record surroundings => state.accept decoders record surroundings
  | .beginEpoch => (state.cleared, {})
  | .clearLatest => (state.cleared, {})
  | .configure configuration =>
      ({ state with ingestor := { state.ingestor with configuration } }, {})

end PublishingIngestor

def publishing (decoders : Decoders Value) :
    Machine (PublishingIngestor Value) (Call Value) (Publication Value) where
  step := fun state call => state.after decoders call

/-- A buffered record is the raw record of a chunk that the snapshot holds. -/
def Sourced (snapshot : HarmonicSpectrumSnapshot) (index : Fin 42)
    (payload : Option MeterRecord) : Prop :=
  ∃ record chunk, payload = some record ∧ decodeHarmonicRecord record = .ok chunk ∧
    chunk.recordIndex = index ∧ snapshot.Holds chunk

/-- The buffer holds what the partial family has received, record for record. -/
structure Buffered (family : PartialFamily) (pending : PendingHarmonicFamily) : Prop where
  sequence : pending.sequence = family.snapshot.provenance.sequence
  count : pending.count = family.receivedCount
  received : family.Counts
  missing : ∀ index, family.received index = false → pending.records index = none
  records : ∀ index, family.received index = true →
    ∃ payload, pending.records index = some payload ∧ Sourced family.snapshot index payload

/-- Without a partial family, a buffer is left only by a family that could not be published. -/
def InStep (line : HarmonicLine) : Prop :=
  match line.assembler.partialFamily with
  | some family => ∃ pending, line.pending = some pending ∧ Buffered family pending
  | none => ∀ pending, line.pending = some pending →
      line.assembler.lastCompletedSequence = some pending.sequence

section Harmonic

variable {line : HarmonicLine} {chunk : HarmonicRecordChunk} {record : MeterRecord}

theorem buffered_fresh (chunk : HarmonicRecordChunk) :
    Buffered { snapshot := snapshotFrom chunk } { sequence := chunk.provenance.sequence } where
  sequence := rfl
  count := rfl
  received := counts_fresh _
  missing := fun _ _ => rfl
  records := fun _ received => nomatch received

theorem buffered_for {family : PartialFamily} {update : HarmonicAssemblyUpdate}
    (inStep : InStep line)
    (accepted : HarmonicFamilyAssembler.Accepted line.assembler chunk family update) :
    Buffered family (PendingHarmonicFamily.bufferFor line.pending chunk.provenance.sequence) := by
  unfold InStep at inStep
  rcases accepted.found with ⟨known, same⟩ | ⟨rfl, other, ended⟩
  · rw [known] at inStep
    rcases inStep with ⟨pending, held, buffered⟩
    rw [held, PendingHarmonicFamily.bufferFor, if_pos (buffered.sequence.trans same)]
    exact buffered
  · have replaced : PendingHarmonicFamily.bufferFor line.pending chunk.provenance.sequence =
        { sequence := chunk.provenance.sequence } := by
      unfold PendingHarmonicFamily.bufferFor
      cases held : line.pending with
      | none => rfl
      | some pending =>
          apply if_neg
          intro named
          cases begun : line.assembler.partialFamily with
          | none =>
              rw [begun] at inStep
              exact ended begun ((inStep pending held).trans (congrArg some named))
          | some old =>
              rw [begun] at inStep
              rcases inStep with ⟨own, mine, buffered⟩
              rw [held] at mine
              cases mine
              exact other old begun (buffered.sequence.symm.trans named)
    rw [replaced]
    exact buffered_fresh chunk

theorem buffered_stored {family : PartialFamily} {pending : PendingHarmonicFamily}
    (buffered : Buffered family pending) (decoded : decodeHarmonicRecord record = .ok chunk)
    (same : family.snapshot.provenance = chunk.provenance)
    (missing : family.received chunk.recordIndex = false) :
    Buffered ⟨family.snapshot.with chunk, Function.update family.received chunk.recordIndex true,
      family.receivedCount + 1⟩ (pending.stored chunk.recordIndex record) where
  sequence := buffered.sequence
  count := congrArg (· + 1) buffered.count
  received := buffered.received.grown missing
  missing := by
    intro index absent
    dsimp only at absent
    by_cases own : index = chunk.recordIndex
    · rw [own, Function.update_self] at absent
      cases absent
    · rw [Function.update_of_ne own] at absent
      exact (Function.update_of_ne own _ _).trans (buffered.missing index absent)
  records := by
    intro index there
    dsimp only at there
    by_cases own : index = chunk.recordIndex
    · subst own
      exact ⟨some record, Function.update_self _ _ _, record, chunk, rfl, decoded, rfl,
        HarmonicSpectrumSnapshot.holds_with same⟩
    · rw [Function.update_of_ne own] at there
      rcases buffered.records index there with ⟨payload, held, raw, part, named, read, place, holds⟩
      refine ⟨payload, (Function.update_of_ne own _ _).trans held, raw, part, named, read, place,
        HarmonicSpectrumSnapshot.holds_with_other holds same ?_⟩
      rw [place]
      exact own

theorem buffered_full {family : PartialFamily} {pending : PendingHarmonicFamily}
    (buffered : Buffered family pending) (full : family.receivedCount = harmonicRecordsPerFamily)
    (index : Fin 42) :
    ∃ payload, pending.records index = some payload ∧ Sourced family.snapshot index payload :=
  buffered.records index (buffered.received.full full index)

/-- What the family handed over by a line has to be. -/
def HarmonicWhole (publication : Publication Value) : Prop :=
  publication.fault = none ∧ ∀ handover, publication.family = some handover →
    ∃ snapshot records, handover = .harmonic snapshot records ∧ records.length = 42 ∧
      ∀ index : Fin 42, ∃ payload, records[index.val]? = some payload ∧
        Sourced snapshot index payload

theorem harmonicWhole_empty : HarmonicWhole ({} : Publication Value) :=
  ⟨rfl, fun _ none => nomatch none⟩

theorem publish_whole {family : PartialFamily} {pending : PendingHarmonicFamily}
    (buffered : Buffered family pending) (full : family.receivedCount = harmonicRecordsPerFamily)
    {sequence : UInt32} (named : family.snapshot.provenance.sequence = sequence)
    (published : Published) :
    InStep (HarmonicLine.publish ⟨none, some sequence⟩ pending family.snapshot published :
        HarmonicLine × Publication Value).1 ∧
      HarmonicWhole (HarmonicLine.publish ⟨none, some sequence⟩ pending family.snapshot published :
        HarmonicLine × Publication Value).2 := by
  have present : ¬ ∃ index, (pending.records index).isNone = true := by
    rintro ⟨index, absent⟩
    rcases buffered_full buffered full index with ⟨payload, held, -⟩
    rw [held] at absent
    cases absent
  have shape : (HarmonicLine.publish ⟨none, some sequence⟩ pending family.snapshot published :
      HarmonicLine × Publication Value) = (⟨⟨none, some sequence⟩, pending.leftBy published⟩,
        { family := some (.harmonic family.snapshot pending.payloads) }) :=
    (if_neg (not_not_intro (buffered.count.trans full))).trans (if_neg present)
  rw [shape]
  refine ⟨?_, rfl, ?_⟩
  · intro left kept
    cases published with
    | acknowledged => cases kept
    | _ =>
        rw [← Option.some.inj kept]
        exact congrArg some (buffered.sequence.trans named).symm
  · intro handover handed
    refine ⟨family.snapshot, pending.payloads, (Option.some.inj handed).symm, List.length_ofFn, ?_⟩
    intro index
    rcases buffered_full buffered full index with ⟨payload, held, sourced⟩
    refine ⟨payload, ?_, sourced⟩
    rw [PendingHarmonicFamily.payloads, List.getElem?_ofFn, dif_pos index.isLt, held]
    rfl

theorem accept_inStep (inStep : InStep line) (decoded : decodeHarmonicRecord record = .ok chunk)
    (published : Published) :
    InStep (line.accept record chunk published : HarmonicLine × Publication Value).1 ∧
      HarmonicWhole (line.accept record chunk published : HarmonicLine × Publication Value).2 := by
  cases outcome : (line.assembler.accept chunk).2 with
  | error failure =>
      have shape : (line.accept record chunk published : HarmonicLine × Publication Value) =
          (line, {}) := by
        have same := HarmonicFamilyAssembler.accept_error outcome
        rw [HarmonicLine.accept, ← Prod.mk.eta (p := line.assembler.accept chunk), outcome, same]
      rw [shape]
      exact ⟨inStep, harmonicWhole_empty⟩
  | ok update =>
      rcases HarmonicFamilyAssembler.accept_ok outcome with ⟨family, accepted⟩
      have buffered := buffered_for inStep accepted
      have stored := buffered_stored buffered decoded accepted.same accepted.missing
      have free : ¬ ((PendingHarmonicFamily.bufferFor line.pending
          chunk.provenance.sequence).records chunk.recordIndex).isSome = true := by
        rw [buffered.missing _ accepted.missing]
        exact Bool.false_ne_true
      have shape : (line.accept record chunk published : HarmonicLine × Publication Value) =
          match update.completed with
          | none => (⟨(line.assembler.accept chunk).1, some ((PendingHarmonicFamily.bufferFor
              line.pending chunk.provenance.sequence).stored chunk.recordIndex record)⟩, {})
          | some snapshot => HarmonicLine.publish (line.assembler.accept chunk).1
              ((PendingHarmonicFamily.bufferFor line.pending
                chunk.provenance.sequence).stored chunk.recordIndex record) snapshot published := by
        rw [HarmonicLine.accept, ← Prod.mk.eta (p := line.assembler.accept chunk), outcome]
        exact if_neg free
      rw [shape]
      rcases accepted.after with ⟨full, completed, after⟩ | ⟨-, completed, after⟩
      · rw [completed, after]
        exact publish_whole stored full
          (congrArg HarmonicProvenance.sequence accepted.same) published
      · rw [completed, after]
        exact ⟨⟨_, rfl, stored⟩, harmonicWhole_empty⟩

end Harmonic

section Energy

variable {decoders : Decoders Value} {ingestor : MeterRecordIngestor Value} {record : MeterRecord}
  {identity : EnergyFamilyIdentity}

namespace EnergyFamilyAssembler

/-- The assembler once it has turned to the family of a part. -/
def startedFor (assembler : EnergyFamilyAssembler) (incoming : EnergyFamilyIdentity) :
    EnergyFamilyAssembler :=
  match assembler.identity with
  | some identity => if identity = incoming then assembler else { identity := some incoming }
  | none => { assembler with identity := some incoming }

def part (assembler : EnergyFamilyAssembler) (record : MeterRecord) : Option MeterRecord :=
  if record.energyPart == 0 then assembler.summary else assembler.quadrants

def withPart (assembler : EnergyFamilyAssembler) (record : MeterRecord) : EnergyFamilyAssembler :=
  if (assembler.part record).isSome then assembler
  else if record.energyPart == 0 then { assembler with summary := some record }
  else { assembler with quadrants := some record }

/-- The end of `accept`: both parts make a family, which may fail to decode. -/
def finished (decoders : Decoders Value) (assembler : EnergyFamilyAssembler)
    (receivedAt : Int64) : EnergyFamilyAssembler × Option (Option (Value .energy)) :=
  match assembler.summary, assembler.quadrants with
  | some summary, some quadrants =>
      match decoders.energyFamily summary quadrants receivedAt with
      | none => (assembler, none)
      | some values => ({}, some (some values))
  | _, _ => (assembler, some none)

theorem accept_part {assembler : EnergyFamilyAssembler} {receivedAt : Int64}
    (agrees : ∀ earlier, (assembler.startedFor identity).part record = some earlier →
      earlier = record) :
    assembler.accept decoders record identity receivedAt =
      finished decoders ((assembler.startedFor identity).withPart record) receivedAt := by
  unfold accept
  refine (if_neg ?_).trans rfl
  intro refused
  split at refused
  · next earlier held =>
      rw [agrees earlier held, bne_self_eq_false] at refused
      cases refused
  · cases refused

end EnergyFamilyAssembler

def mirrored (identity : EnergyFamilyIdentity) (assembler : EnergyFamilyAssembler) :
    PendingEnergyFamily :=
  ⟨identity, assembler.summary.map some, assembler.quadrants.map some⟩

/-- The ENERGY buffer mirrors the assembler, or was moved to a publisher that failed. -/
def EnergyInStep (ingestor : MeterRecordIngestor Value) : Prop :=
  match ingestor.energyAssembler.identity with
  | some identity =>
      ingestor.pendingEnergyFamily = some (mirrored identity ingestor.energyAssembler)
  | none => ingestor.energyAssembler = {} ∧ ∀ pending,
      ingestor.pendingEnergyFamily = some pending →
        pending.summary = some none ∧ pending.quadrants = some none

/-- The part goes into a buffer, or contradicts what is there. -/
def intoBuffer (pending : PendingEnergyFamily) (record : MeterRecord) :
    PendingEnergyFamily × Bool :=
  match if record.energyPart == 0 then pending.summary else pending.quadrants with
  | some payload => (pending, payload == some record)
  | none =>
      if record.energyPart == 0 then ({ pending with summary := some (some record) }, true)
      else ({ pending with quadrants := some (some record) }, true)

theorem bufferPart_none (none : ingestor.pendingEnergyFamily = none) :
    ingestor.bufferPart record identity = intoBuffer { identity } record := by
  unfold MeterRecordIngestor.bufferPart
  rw [none]
  rfl

theorem bufferPart_own {pending : PendingEnergyFamily}
    (held : ingestor.pendingEnergyFamily = some pending) (own : pending.identity = identity) :
    ingestor.bufferPart record identity = intoBuffer pending record := by
  unfold MeterRecordIngestor.bufferPart
  simp only [held, if_pos own]
  rfl

theorem bufferPart_other {pending : PendingEnergyFamily}
    (held : ingestor.pendingEnergyFamily = some pending) (other : pending.identity ≠ identity) :
    ingestor.bufferPart record identity = intoBuffer { identity } record := by
  unfold MeterRecordIngestor.bufferPart
  simp only [held, if_neg other]
  rfl

theorem intoBuffer_mirrored (identity : EnergyFamilyIdentity) (record : MeterRecord)
    (assembler : EnergyFamilyAssembler) :
    (∃ earlier, assembler.part record = some earlier ∧ earlier ≠ record ∧
        intoBuffer (mirrored identity assembler) record = (mirrored identity assembler, false)) ∨
      ((∀ earlier, assembler.part record = some earlier → earlier = record) ∧
        intoBuffer (mirrored identity assembler) record =
          (mirrored identity (assembler.withPart record), true)) := by
  have slot : (if record.energyPart == 0 then (mirrored identity assembler).summary
      else (mirrored identity assembler).quadrants) = (assembler.part record).map some := by
    unfold EnergyFamilyAssembler.part mirrored
    split <;> rfl
  unfold intoBuffer
  rw [slot]
  cases held : assembler.part record with
  | some earlier =>
      by_cases same : earlier = record
      · refine .inr ⟨fun _ known => (Option.some.inj known).symm.trans same, ?_⟩
        rw [EnergyFamilyAssembler.withPart, held, same]
        simp
      · refine .inl ⟨earlier, rfl, same, ?_⟩
        simp [same]
  | none =>
      refine .inr ⟨fun _ known => (nomatch known), ?_⟩
      rw [EnergyFamilyAssembler.withPart, held]
      by_cases first : record.energyPart == 0
      · simp [first, mirrored]
      · simp [first, mirrored]

theorem bufferPart_inStep (inStep : EnergyInStep ingestor) (record : MeterRecord)
    (identity : EnergyFamilyIdentity) :
    (∃ pending, ingestor.bufferPart record identity = (pending, false) ∧
        ingestor.pendingEnergyFamily = some pending) ∨
      ((∀ earlier, (ingestor.energyAssembler.startedFor identity).part record = some earlier →
          earlier = record) ∧
        ingestor.bufferPart record identity = (mirrored identity
          ((ingestor.energyAssembler.startedFor identity).withPart record), true)) := by
  unfold EnergyInStep at inStep
  cases known : ingestor.energyAssembler.identity with
  | some own =>
      rw [known] at inStep
      by_cases same : own = identity
      · subst same
        have started : ingestor.energyAssembler.startedFor own = ingestor.energyAssembler := by
          rw [EnergyFamilyAssembler.startedFor, known]
          exact if_pos rfl
        have shape : ingestor.bufferPart record own =
            intoBuffer (mirrored own ingestor.energyAssembler) record :=
          bufferPart_own inStep rfl
        rw [started, shape]
        rcases intoBuffer_mirrored own record ingestor.energyAssembler
          with ⟨_, _, _, refused⟩ | kept
        · exact .inl ⟨_, refused, inStep⟩
        · exact .inr kept
      · have started : ingestor.energyAssembler.startedFor identity =
            { identity := some identity } := by
          rw [EnergyFamilyAssembler.startedFor, known]
          exact if_neg same
        rw [started, bufferPart_other inStep same]
        rcases intoBuffer_mirrored identity record { identity := some identity }
          with ⟨earlier, held, _, _⟩ | kept
        · simp [EnergyFamilyAssembler.part] at held
        · exact .inr kept
  | none =>
      rw [known] at inStep
      rcases inStep with ⟨empty, left⟩
      have started : ingestor.energyAssembler.startedFor identity =
          { identity := some identity } := by
        rw [EnergyFamilyAssembler.startedFor, known, empty]
      have turned : ingestor.bufferPart record identity = intoBuffer { identity } record →
          (∀ earlier, (ingestor.energyAssembler.startedFor identity).part record = some earlier →
            earlier = record) ∧ ingestor.bufferPart record identity = (mirrored identity
              ((ingestor.energyAssembler.startedFor identity).withPart record), true) := by
        intro shape
        rw [started, shape]
        rcases intoBuffer_mirrored identity record { identity := some identity }
          with ⟨earlier, held, _, _⟩ | kept
        · simp [EnergyFamilyAssembler.part] at held
        · exact kept
      cases held : ingestor.pendingEnergyFamily with
      | none => exact .inr (turned (bufferPart_none held))
      | some pending =>
          by_cases own : pending.identity = identity
          · refine .inl ⟨pending, ?_, rfl⟩
            rw [bufferPart_own held own, intoBuffer, (left pending held).1, (left pending held).2]
            split
            · next payload some =>
                split at some <;> cases some <;> rfl
            · next absent => split at absent <;> cases absent
          · exact .inr (turned (bufferPart_other held own))

/-- What the ENERGY family handed over has to be. -/
def EnergyWhole (decoders : Decoders Value) (receivedAt : Int64)
    (publication : Publication Value) : Prop :=
  publication.fault = none ∧ ∀ handover, publication.family = some handover →
    ∃ values summary quadrants, handover = .energy values [some summary, some quadrants] ∧
      decoders.energyFamily summary quadrants receivedAt = some values

theorem energyWhole_empty (decoders : Decoders Value) (receivedAt : Int64) :
    EnergyWhole decoders receivedAt {} :=
  ⟨rfl, fun _ none => nomatch none⟩

theorem startedFor_identity (assembler : EnergyFamilyAssembler) :
    (assembler.startedFor identity).identity = some identity := by
  unfold EnergyFamilyAssembler.startedFor
  split
  · next own known =>
      split
      · next same => rw [known, same]
      · rfl
  · rfl

theorem withPart_identity (assembler : EnergyFamilyAssembler) :
    (assembler.withPart record).identity = assembler.identity := by
  unfold EnergyFamilyAssembler.withPart
  split
  · rfl
  · split <;> rfl

theorem finished_cases (decoders : Decoders Value) (assembler : EnergyFamilyAssembler)
    (receivedAt : Int64) :
    ((assembler.finished decoders receivedAt).1 = assembler ∧
        ∀ values, (assembler.finished decoders receivedAt).2 ≠ some (some values)) ∨
      ∃ values summary quadrants, assembler.summary = some summary ∧
        assembler.quadrants = some quadrants ∧
        decoders.energyFamily summary quadrants receivedAt = some values ∧
        assembler.finished decoders receivedAt = ({}, some (some values)) := by
  unfold EnergyFamilyAssembler.finished
  split
  · next summary quadrants first second =>
      split
      · exact .inl ⟨rfl, fun _ absent => nomatch absent⟩
      · next values decoded =>
          exact .inr ⟨values, summary, quadrants, first, second, decoded, rfl⟩
  · exact .inl ⟨rfl, fun _ absent => nomatch absent⟩

theorem energyInStep_empty (empty : ingestor.energyAssembler = {})
    (left : ∀ pending, ingestor.pendingEnergyFamily = some pending →
      pending.summary = some none ∧ pending.quadrants = some none) : EnergyInStep ingestor := by
  unfold EnergyInStep
  rw [empty]
  exact ⟨rfl, left⟩

theorem energyInStep_mirrored (named : ingestor.energyAssembler.identity = some identity)
    (held : ingestor.pendingEnergyFamily = some (mirrored identity ingestor.energyAssembler)) :
    EnergyInStep ingestor := by
  unfold EnergyInStep
  rw [named]
  exact held

theorem publishEnergyFamily_inStep {surroundings : Surroundings Value}
    {pending : PendingEnergyFamily} {values : Value .energy}
    (empty : ingestor.energyAssembler = {}) (summary : pending.summary.isSome = true)
    (quadrants : pending.quadrants.isSome = true) :
    EnergyInStep (MeterRecordIngestor.publishEnergyFamily decoders ingestor surroundings pending
      identity values).1 := by
  have moved : (MeterRecordIngestor.PendingEnergyFamily.moved pending).summary = some none ∧
      (MeterRecordIngestor.PendingEnergyFamily.moved pending).quadrants = some none := by
    rcases Option.isSome_iff_exists.mp summary with ⟨first, held⟩
    rcases Option.isSome_iff_exists.mp quadrants with ⟨second, kept⟩
    simp [MeterRecordIngestor.PendingEnergyFamily.moved, held, kept]
  have present : ¬ (pending.summary.isNone || pending.quadrants.isNone) = true := by
    rw [← Option.not_isSome, ← Option.not_isSome, summary, quadrants]
    exact Bool.false_ne_true
  rw [MeterRecordIngestor.publishEnergyFamily, if_neg present]
  cases surroundings.published with
  | conflict =>
      refine energyInStep_empty empty ?_
      intro _ left
      cases left
  | failed =>
      refine energyInStep_empty (by exact empty) ?_
      intro left kept
      rw [← Option.some.inj kept]
      exact moved
  | acknowledged =>
      dsimp only
      split
      · refine energyInStep_empty (by exact empty) ?_
        intro left kept
        rw [← Option.some.inj kept]
        exact moved
      · refine energyInStep_empty empty ?_
        intro _ left
        cases left

theorem acceptEnergy_inStep (inStep : EnergyInStep ingestor) (record : MeterRecord)
    (surroundings : Surroundings Value) :
    EnergyInStep (ingestor.acceptEnergy decoders record surroundings).1 ∧
      EnergyWhole decoders surroundings.receivedAt
        (energyPublication decoders ingestor record surroundings) := by
  unfold MeterRecordIngestor.acceptEnergy energyPublication
  cases decoded : decodeEnergyIdentity record with
  | none => exact ⟨inStep, energyWhole_empty decoders _⟩
  | some identity =>
      rcases bufferPart_inStep inStep record identity with
        ⟨pending, refused, held⟩ | ⟨agrees, buffered⟩
      · dsimp only
        rw [refused]
        refine ⟨?_, energyWhole_empty decoders _⟩
        dsimp only
        rw [← held]
        exact inStep
      · dsimp only
        rw [buffered, EnergyFamilyAssembler.accept_part agrees]
        have named : ((ingestor.energyAssembler.startedFor identity).withPart record).identity =
            some identity := (withPart_identity _).trans (startedFor_identity _)
        generalize (ingestor.energyAssembler.startedFor identity).withPart record = assembler
          at named ⊢
        rcases finished_cases decoders assembler surroundings.receivedAt with
          ⟨same, waiting⟩ | ⟨values, summary, quadrants, first, second, read, shape⟩
        · generalize assembler.finished decoders surroundings.receivedAt = result at same waiting ⊢
          rcases result with ⟨after, outcome⟩
          cases (same : after = assembler)
          rcases outcome with _ | _ | values
          · exact ⟨energyInStep_mirrored named rfl, energyWhole_empty decoders _⟩
          · exact ⟨energyInStep_mirrored named rfl, energyWhole_empty decoders _⟩
          · exact absurd rfl (waiting values)
        · dsimp only
          rw [shape]
          refine ⟨publishEnergyFamily_inStep rfl ?_ ?_, ?_⟩
          · rw [mirrored, first]
            rfl
          · rw [mirrored, second]
            rfl
          · rw [mirrored, first, second]
            exact ⟨rfl, fun handover handed => ⟨values, summary, quadrants,
              (Option.some.inj handed).symm, read⟩⟩

end Energy

/-- A family of exactly the raw records from which its values were assembled. -/
def Whole (decoders : Decoders Value) : Handover Value → Prop
  | .harmonic snapshot records => records.length = 42 ∧ ∀ index : Fin 42, ∃ record chunk,
      records[index.val]? = some (some record) ∧ decodeHarmonicRecord record = .ok chunk ∧
        chunk.recordIndex = index ∧ snapshot.Holds chunk
  | .energy values records => ∃ summary quadrants receivedAt,
      records = [some summary, some quadrants] ∧
        decoders.energyFamily summary quadrants receivedAt = some values

/-- Every buffer is in step with its assembler. -/
structure Lockstep (state : PublishingIngestor Value) : Prop where
  energy : EnergyInStep state.ingestor
  harmonic : ∀ period, InStep (state.lines period)

section Run

variable (decoders : Decoders Value) {state : PublishingIngestor Value}

theorem inStep_empty : InStep {} := fun _ left => nomatch left

theorem acceptTracked_energy (ingestor : MeterRecordIngestor Value) (format : RecordFormat)
    (record : MeterRecord) (surroundings : Surroundings Value) :
    (ingestor.acceptTracked decoders format record surroundings).1.energyAssembler =
        ingestor.energyAssembler ∧
      (ingestor.acceptTracked decoders format record surroundings).1.pendingEnergyFamily =
        ingestor.pendingEnergyFamily := by
  have baseline : ∀ ingestor : MeterRecordIngestor Value,
      (ingestor.baseline format record).energyAssembler = ingestor.energyAssembler ∧
        (ingestor.baseline format record).pendingEnergyFamily =
          ingestor.pendingEnergyFamily := by
    intro ingestor
    unfold MeterRecordIngestor.baseline
    split <;> exact ⟨rfl, rfl⟩
  unfold MeterRecordIngestor.acceptTracked
  split
  · split
    · exact ⟨rfl, rfl⟩
    · unfold MeterRecordIngestor.publishUpdate
      split
      · exact ⟨rfl, rfl⟩
      · split <;> exact ⟨rfl, rfl⟩
      · dsimp only
        split
        · split
          · exact baseline _
          · exact ⟨rfl, rfl⟩
          · exact baseline _
        · exact baseline _
  · exact ⟨rfl, rfl⟩

theorem accept_energy (ingestor : MeterRecordIngestor Value) (record : MeterRecord)
    (surroundings : Surroundings Value) (other : record.recordFormat ≠ some .energy) :
    (ingestor.accept decoders record surroundings).1.energyAssembler = ingestor.energyAssembler ∧
      (ingestor.accept decoders record surroundings).1.pendingEnergyFamily =
        ingestor.pendingEnergyFamily := by
  unfold MeterRecordIngestor.accept
  split
  · split <;> first
      | exact ⟨rfl, rfl⟩
      | exact acceptTracked_energy decoders _ _ _ _
      | exact absurd (by assumption) other
  · exact ⟨rfl, rfl⟩

theorem energyInStep_same {before after : MeterRecordIngestor Value}
    (inStep : EnergyInStep before) (assembler : after.energyAssembler = before.energyAssembler)
    (pending : after.pendingEnergyFamily = before.pendingEnergyFamily) : EnergyInStep after := by
  unfold EnergyInStep at *
  rw [assembler, pending]
  exact inStep

theorem acceptHarmonic_lockstep (lockstep : Lockstep state) (record : MeterRecord)
    (published : Published) :
    Lockstep (state.acceptHarmonic record published).1 ∧
      HarmonicWhole (state.acceptHarmonic record published).2 := by
  unfold PublishingIngestor.acceptHarmonic
  cases decoded : decodeHarmonicRecord record with
  | error failure => exact ⟨lockstep, harmonicWhole_empty⟩
  | ok chunk =>
      have line : InStep ((state.lines chunk.provenance.period).accept record chunk published :
            HarmonicLine × Publication Value).1 ∧
          HarmonicWhole ((state.lines chunk.provenance.period).accept record chunk published :
            HarmonicLine × Publication Value).2 :=
        accept_inStep (lockstep.harmonic chunk.provenance.period) decoded published
      refine ⟨⟨lockstep.energy, ?_⟩, line.2⟩
      intro period
      by_cases own : period = chunk.provenance.period
      · subst own
        dsimp only
        rw [Function.update_self]
        exact line.1
      · dsimp only
        rw [Function.update_of_ne own]
        exact lockstep.harmonic period

theorem accept_lockstep (lockstep : Lockstep state) (record : MeterRecord)
    (surroundings : Surroundings Value) :
    Lockstep (state.accept decoders record surroundings).1 ∧
      (state.accept decoders record surroundings).2.fault = none ∧
      ∀ handover, (state.accept decoders record surroundings).2.family = some handover →
        Whole decoders handover := by
  have harmonic : ∀ publication : Publication Value, HarmonicWhole publication →
      publication.fault = none ∧ ∀ handover, publication.family = some handover →
        Whole decoders handover := by
    rintro publication ⟨sound, handed⟩
    refine ⟨sound, ?_⟩
    intro handover given
    rcases handed handover given with ⟨snapshot, records, rfl, length, whole⟩
    refine ⟨length, ?_⟩
    intro index
    rcases whole index with ⟨_, there, record, chunk, rfl, read, place, holds⟩
    exact ⟨record, chunk, there, read, place, holds⟩
  have quiet : ({} : Publication Value).fault = none ∧ ∀ handover,
      ({} : Publication Value).family = some handover → Whole decoders handover :=
    ⟨rfl, fun _ none => nomatch none⟩
  unfold PublishingIngestor.accept
  split
  · next matching =>
      split
      · exact (acceptHarmonic_lockstep lockstep record surroundings.published).imp_right
          (harmonic _)
      · exact (acceptHarmonic_lockstep lockstep record surroundings.published).imp_right
          (harmonic _)
      · next format =>
          have step :
              EnergyInStep (state.ingestor.acceptEnergy decoders record surroundings).1 ∧ _ :=
            acceptEnergy_inStep lockstep.energy record surroundings
          refine ⟨⟨?_, lockstep.harmonic⟩, step.2.1, ?_⟩
          · dsimp only
            rw [MeterRecordIngestor.accept, if_pos matching, format]
            exact step.1
          · intro handover handed
            rcases step.2.2 handover handed with ⟨values, summary, quadrants, rfl, read⟩
            exact ⟨summary, quadrants, _, rfl, read⟩
      · next other =>
          refine ⟨⟨?_, lockstep.harmonic⟩, quiet⟩
          have same := accept_energy decoders state.ingestor record surroundings other
          exact energyInStep_same lockstep.energy same.1 same.2
  · exact ⟨lockstep, quiet⟩

theorem next_lockstep (lockstep : Lockstep state) (call : Call Value) :
    Lockstep ((publishing decoders).next state call) := by
  cases call with
  | accept record surroundings => exact (accept_lockstep decoders lockstep record surroundings).1
  | beginEpoch =>
      exact ⟨energyInStep_empty rfl (fun _ left => nomatch left), fun _ => inStep_empty⟩
  | clearLatest =>
      exact ⟨energyInStep_empty rfl (fun _ left => nomatch left), fun _ => inStep_empty⟩
  | configure configuration =>
      exact ⟨energyInStep_same lockstep.energy rfl rfl, lockstep.harmonic⟩

/-- No call of any run finds a buffer out of step, and every family goes to the publisher with
exactly its own records. -/
theorem published_families_whole (decoders : Decoders Value) (configuration : WireConfiguration)
    (calls : List (Call Value)) (call : Call Value) :
    ((publishing decoders).answer ((publishing decoders).run
        { ingestor := { configuration } } calls) call).fault = none ∧
      ∀ handover, ((publishing decoders).answer ((publishing decoders).run
          { ingestor := { configuration } } calls) call).family = some handover →
        Whole decoders handover := by
  have start : Lockstep ({ ingestor := { configuration } } : PublishingIngestor Value) :=
    ⟨energyInStep_empty rfl (fun _ left => nomatch left), fun _ => inStep_empty⟩
  have lockstep := (publishing decoders).run_invariant Lockstep
    (fun _ call lockstep => next_lockstep decoders lockstep call) _ start calls
  generalize (publishing decoders).run { ingestor := { configuration } } calls = state
    at lockstep ⊢
  cases call with
  | accept record surroundings => exact (accept_lockstep decoders lockstep record surroundings).2
  | _ => exact ⟨rfl, fun _ none => nomatch none⟩

end Run

end Msap1.Acquisition
