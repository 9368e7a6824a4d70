import Msap1.Acquisition.Ingestor

/-! What the live view shows after any run of the ingestor, against the updates that the
ingestor handed to the store. -/

namespace Msap1.Acquisition

open Meter

variable {Value : Group → Type} (decoders : Decoders Value)

inductive Call (Value : Group → Type) where
  | accept (record : MeterRecord) (surroundings : Surroundings Value)
  | beginEpoch
  | clearLatest
  | configure (wire : WireConfiguration)

/-- The ingestor with the configuration it refers to, which the coordinator replaces. -/
def ingestor : Machine (MeterRecordIngestor Value) (Call Value) (Outcome Value) where
  step := fun state call =>
    match call with
    | .accept record surroundings => state.accept decoders record surroundings
    | .beginEpoch => (state.clearLatest, .aside)
    | .clearLatest => (state.clearLatest, .aside)
    | .configure wire => ({ state with configuration := wire }, .aside)

def started (wire : WireConfiguration) : MeterRecordIngestor Value := { configuration := wire }

/-- The group as the last update of a period that carried it left it. -/
def noteUpdate (period : MeasurementPeriod) (group : Group) (last : Option (Value group)) :
    Outcome Value → Option (Value group)
  | .applied update => if period = update.period then (update.values group).or last else last
  | _ => last

def lastAccepted (period : MeasurementPeriod) (group : Group) (outcomes : List (Outcome Value)) :
    Option (Value group) :=
  outcomes.foldl (noteUpdate period group) none

/-- A record that reaches the store has a sequence that is not behind the view of the period
its format is filed under. -/
def InOrder (state : MeterRecordIngestor Value) : Call Value → Prop
  | .accept record surroundings =>
      match (state.accept decoders record surroundings).2 with
      | .applied _ => ∀ period ∈ record.recordFormat.bind RecordFormat.period,
          (state.meterData.slot period).latestSequence ≤ record.sequence.toUInt64
      | _ => True
  | _ => True

/-- What `accept` does to the store: nothing, or one `apply` of the update it answers with,
which is filed under the record's own period and sequence. -/
structure Applies (before : MeterLatestStore Value) (record : MeterRecord)
    (result : MeterRecordIngestor Value × Outcome Value) : Prop where
  kept : (∀ update, result.2 ≠ .applied update) → result.1.meterData = before
  stored : ∀ update, result.2 = .applied update → result.1.meterData = before.apply update
  filed : ∀ update, result.2 = .applied update →
    record.recordFormat.bind RecordFormat.period = some update.period ∧
      update.sequence = record.sequence.toUInt64

theorem applies_nothing {before : MeterLatestStore Value} {record : MeterRecord}
    {state : MeterRecordIngestor Value} {outcome : Outcome Value}
    (same : state.meterData = before) (quiet : ∀ update, outcome ≠ .applied update) :
    Applies before record (state, outcome) where
  kept := fun _ => same
  stored := fun update applied => absurd applied (quiet update)
  filed := fun update applied => absurd applied (quiet update)

theorem applies_update {before : MeterLatestStore Value} {record : MeterRecord}
    {state : MeterRecordIngestor Value} {update : MeterUpdate Value}
    (stored : state.meterData = before.apply update)
    (period : record.recordFormat.bind RecordFormat.period = some update.period)
    (sequence : update.sequence = record.sequence.toUInt64) :
    Applies before record (state, .applied update) where
  kept := fun quiet => absurd rfl (quiet update)
  stored := by
    intro other applied
    cases applied
    exact stored
  filed := by
    intro other applied
    cases applied
    exact ⟨period, sequence⟩

variable (state : MeterRecordIngestor Value)

theorem publishEnergyFamily_applies (record : MeterRecord) (surroundings : Surroundings Value)
    (pending : PendingEnergyFamily) (identity : EnergyFamilyIdentity) (values : Value .energy)
    (format : record.recordFormat = some .energy)
    (sequence : identity.sequence = record.sequence) :
    Applies state.meterData record
      (state.publishEnergyFamily decoders surroundings pending identity values) := by
  rw [MeterRecordIngestor.publishEnergyFamily]
  split
  · exact applies_nothing rfl (by simp)
  · split
    · exact applies_nothing rfl (by simp)
    · exact applies_nothing rfl (by simp)
    · split
      · exact applies_nothing rfl (by simp)
      · refine applies_update rfl ?_ ?_
        · rw [format]
          rfl
        · rw [← sequence]
          rfl

theorem acceptEnergy_applies (record : MeterRecord) (surroundings : Surroundings Value)
    (format : record.recordFormat = some .energy) :
    Applies state.meterData record (state.acceptEnergy decoders record surroundings) := by
  unfold MeterRecordIngestor.acceptEnergy
  cases decoded : decodeEnergyIdentity record with
  | none => exact applies_nothing rfl (by simp)
  | some identity =>
      dsimp only
      generalize state.bufferPart record identity = buffered
      obtain ⟨pending, kept⟩ := buffered
      cases kept with
      | false => exact applies_nothing rfl (by simp)
      | true =>
          dsimp only
          generalize state.energyAssembler.accept decoders record identity
            surroundings.receivedAt = assembled
          obtain ⟨assembler, answer⟩ := assembled
          cases answer with
          | none => exact applies_nothing rfl (by simp)
          | some completed =>
              cases completed with
              | none => exact applies_nothing rfl (by simp)
              | some values =>
                  have sequence := decodeEnergyIdentity_sequence decoded
                  exact publishEnergyFamily_applies decoders
                    { state with
                      pendingEnergyFamily := some pending
                      energyAssembler := assembler }
                    record surroundings pending identity values format sequence

@[simp] theorem baseline_meterData (format : RecordFormat) (record : MeterRecord) :
    (state.baseline format record).meterData = state.meterData := by
  unfold MeterRecordIngestor.baseline
  split <;> rfl

theorem decode_filed {record : MeterRecord} {receivedAt : Int64} {update : MeterUpdate Value}
    (decoded : decoders.decode record receivedAt = some update) :
    record.recordFormat.bind RecordFormat.period = some update.period ∧
      update.sequence = record.sequence.toUInt64 := by
  simp only [Decoders.decode, Option.bind_eq_bind, Option.bind_eq_some_iff] at decoded
  obtain ⟨format, found, period, filed, values, _, same⟩ := decoded
  cases same
  exact ⟨by rw [found]; exact filed, rfl⟩

theorem publishUpdate_applies (format : RecordFormat) (record : MeterRecord)
    (surroundings : Surroundings Value) (update : MeterUpdate Value)
    (period : record.recordFormat.bind RecordFormat.period = some update.period)
    (sequence : update.sequence = record.sequence.toUInt64) :
    Applies state.meterData record (state.publishUpdate format record surroundings update) := by
  rw [MeterRecordIngestor.publishUpdate]
  split
  · exact applies_nothing rfl (by simp)
  · split
    · exact applies_nothing rfl (by simp)
    · exact applies_nothing rfl (by simp)
  · dsimp only
    split
    · split
      · exact applies_update (baseline_meterData _ format record) period sequence
      · exact applies_nothing rfl (by simp)
      · exact applies_update (baseline_meterData _ format record) period sequence
    · exact applies_update (baseline_meterData _ format record) period sequence

theorem acceptTracked_applies (format : RecordFormat) (record : MeterRecord)
    (surroundings : Surroundings Value) :
    Applies state.meterData record
      (state.acceptTracked decoders format record surroundings) := by
  rw [MeterRecordIngestor.acceptTracked]
  split
  · split
    · exact applies_nothing rfl (by simp)
    · next update decoded =>
      obtain ⟨period, sequence⟩ := decode_filed decoders decoded
      exact publishUpdate_applies state format record surroundings _ period sequence
  · exact applies_nothing rfl (by simp)

theorem accept_applies (record : MeterRecord) (surroundings : Surroundings Value) :
    Applies state.meterData record (state.accept decoders record surroundings) := by
  rw [MeterRecordIngestor.accept]
  split
  · split
    case h_9 format => exact acceptEnergy_applies decoders state record surroundings format
    case h_10 format _ => exact acceptTracked_applies decoders state _ record surroundings
    all_goals exact applies_nothing rfl (by simp)
  · exact applies_nothing rfl (by simp)

/-- One call in order: the view shows what the answered update carries over what it showed. -/
theorem shows_next (call : Call Value) (inOrder : InOrder decoders state call)
    (period : MeasurementPeriod) (group : Group) :
    ((ingestor decoders).next state call).meterData.shows period group =
      noteUpdate period group (state.meterData.shows period group)
        ((ingestor decoders).answer state call) := by
  cases call with
  | beginEpoch => rfl
  | clearLatest => rfl
  | configure wire => rfl
  | accept record surroundings =>
      change (state.accept decoders record surroundings).1.meterData.shows period group =
        noteUpdate period group (state.meterData.shows period group)
          (state.accept decoders record surroundings).2
      have applies := accept_applies decoders state record surroundings
      rw [InOrder] at inOrder
      cases outcome : (state.accept decoders record surroundings).2 with
      | applied update =>
          rw [outcome] at inOrder
          obtain ⟨filed, sequence⟩ := applies.filed update outcome
          have current := inOrder update.period (by rw [filed]; rfl)
          rw [← sequence] at current
          rw [applies.stored update outcome,
            MeterLatestStore.shows_apply_current state.meterData update current, noteUpdate]
      | aside => rw [applies.kept (by simp [outcome])]; rfl
      | buffered => rw [applies.kept (by simp [outcome])]; rfl
      | rejected => rw [applies.kept (by simp [outcome])]; rfl
      | quarantined => rw [applies.kept (by simp [outcome])]; rfl
      | thrown => rw [applies.kept (by simp [outcome])]; rfl

theorem shows_run (calls : List (Call Value))
    (inOrder : (ingestor decoders).Along (InOrder decoders) state calls)
    (period : MeasurementPeriod) (group : Group) :
    ((ingestor decoders).run state calls).meterData.shows period group =
      ((ingestor decoders).answers state calls).foldl (noteUpdate period group)
        (state.meterData.shows period group) := by
  induction calls generalizing state with
  | nil => rfl
  | cons call calls ih =>
      rw [Machine.run_cons, ih _ inOrder.2, shows_next decoders state call inOrder.1]
      rfl

/-- In every run whose records reach the store in order, an update is shown by the view as
soon as it is handed over, and each group of each view is that of the last update accepted. -/
theorem live_view_follows_updates (wire : WireConfiguration) (calls : List (Call Value))
    (inOrder : (ingestor decoders).Along (InOrder decoders) (started wire) calls) :
    (∀ before call after, calls = before ++ call :: after → ∀ update,
        (ingestor decoders).answer ((ingestor decoders).run (started wire) before) call =
          .applied update →
        ∀ group value, update.values group = some value →
          ((ingestor decoders).run (started wire) (before ++ [call])).meterData.shows
            update.period group = some value) ∧
      ∀ before after, calls = before ++ after → ∀ period group,
        ((ingestor decoders).run (started wire) before).meterData.shows period group =
          lastAccepted period group ((ingestor decoders).answers (started wire) before) := by
  constructor
  · intro before call after split update applied group value carried
    subst split
    have here := ((ingestor decoders).along_append.mp inOrder).2.1
    rw [Machine.run_concat, shows_next decoders _ call here, applied, noteUpdate, if_pos rfl,
      carried]
    rfl
  · intro before after split period group
    subst split
    exact shows_run decoders (started wire) before ((ingestor decoders).along_append.mp inOrder).1
      period group

def basicRecord (sequence generation first : UInt32) : MeterRecord where
  words := fun index =>
    match index.val with
    | 0 => 0x3152544d
    | 1 => RecordFormat.code (.interval .basic .fundamental)
    | 2 => 256
    | 3 => sequence
    | 4 => generation
    | 5 => 128000
    | 6 => 25600
    | 9 => first
    | 13 => 0x00010a32
    | _ => 0

/-- Decoders that keep, for each group of a BASIC record, the record it was decoded from. -/
def sourceDecoders : Decoders (fun _ => MeterRecord) where
  values := fun record _ => some fun
    | .fundamental => some record
    | .timing => some record
    | _ => none
  energyFamily := fun summary _ _ => some summary
  energyTiming := fun _ => basicRecord 0 0 0

def sourceSurroundings : Surroundings (fun _ => MeterRecord) where
  receivedAt := 0
  stampTiming := id
  stampAggregateTiming := id
  published := .acknowledged
  authorityEnergy := none
  authorityDemand := none

def sourceWire : WireConfiguration := ⟨1, 128000⟩

instance decidableInOrder (wire : MeterRecordIngestor (fun _ => MeterRecord))
    (call : Call (fun _ => MeterRecord)) : Decidable (InOrder sourceDecoders wire call) := by
  unfold InOrder
  split
  · split
    · infer_instance
    · infer_instance
  · infer_instance

theorem consecutive_blocks_shown :
    ((ingestor sourceDecoders).run (started sourceWire)
      [.accept (basicRecord 7 1 1) sourceSurroundings,
        .accept (basicRecord 8 1 25601) sourceSurroundings]).meterData.shows .basic
          .fundamental = some (basicRecord 8 1 25601) := by
  have follows := live_view_follows_updates sourceDecoders sourceWire
    [.accept (basicRecord 7 1 1) sourceSurroundings,
      .accept (basicRecord 8 1 25601) sourceSurroundings] (by decide +kernel)
  rw [follows.2 _ [] (by simp)]
  decide +kernel

/-- A reconfiguration that restarts the PL's sequence: the block is accepted and handed to the
store, and the view goes on showing the one from before. -/
theorem restarted_block_not_shown :
    let calls : List (Call (fun _ => MeterRecord)) :=
      [.accept (basicRecord 1000 1 1) sourceSurroundings, .configure ⟨2, 128000⟩, .clearLatest,
        .accept (basicRecord 1 2 60001) sourceSurroundings]
    lastAccepted .basic .fundamental
        ((ingestor sourceDecoders).answers (started sourceWire) calls) =
          some (basicRecord 1 2 60001) ∧
      ((ingestor sourceDecoders).run (started sourceWire) calls).meterData.shows .basic
          .fundamental = some (basicRecord 1000 1 1) ∧
      basicRecord 1 2 60001 ≠ basicRecord 1000 1 1 := by
  decide +kernel

end Msap1.Acquisition
