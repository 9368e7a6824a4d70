import Msap1.Machine
import Msap1.Meter.Records

/-! `record_ingestor.cpp` from a raw record to `MeterLatestStore::apply`. The decoded values of
a record are a parameter: only their sequence, period and groups decide what the live view
shows. Counters, logging and the caches of the formats that never reach the store are left
out. -/

namespace Msap1.Acquisition

open Meter

/-- The value groups of `MeterUpdate` and `MeterPeriodView`. -/
inductive Group where
  | fundamental
  | power
  | phasor
  | unbalance
  | energy
  | demand
  | powerQuality
  | frequency10s
  | timing
  | aggregateTiming
  deriving DecidableEq, Repr

abbrev Groups (Value : Group → Type) := (group : Group) → Option (Value group)

structure MeterUpdate (Value : Group → Type) where
  period : MeasurementPeriod
  sequence : UInt64
  configurationGeneration : UInt32
  values : Groups Value

/-- A group that no update has set yet is `none`. -/
structure MeterPeriodView (Value : Group → Type) where
  latestSequence : UInt64 := 0
  configurationGeneration : UInt32 := 0
  values : Groups Value := fun _ => none

abbrev MeterLatestStore (Value : Group → Type) :=
  MeasurementPeriod → Option (MeterPeriodView Value)

variable {Value : Group → Type}

namespace MeterLatestStore

def slot (store : MeterLatestStore Value) (period : MeasurementPeriod) : MeterPeriodView Value :=
  (store period).getD {}

/-- What `latest(period)` shows for one group. -/
def shows (store : MeterLatestStore Value) (period : MeasurementPeriod) (group : Group) :
    Option (Value group) :=
  (slot store period).values group

def apply (store : MeterLatestStore Value) (update : MeterUpdate Value) :
    MeterLatestStore Value :=
  if update.sequence < (slot store update.period).latestSequence then
    Function.update store update.period (some (slot store update.period))
  else
    Function.update store update.period (some {
      latestSequence := update.sequence
      configurationGeneration := update.configurationGeneration
      values := fun group =>
        (update.values group).or ((slot store update.period).values group) })

theorem shows_apply_current (store : MeterLatestStore Value) (update : MeterUpdate Value)
    (current : (slot store update.period).latestSequence ≤ update.sequence)
    (period : MeasurementPeriod) (group : Group) :
    shows (apply store update) period group =
      if period = update.period then (update.values group).or (shows store period group)
      else shows store period group := by
  have notBehind : ¬ update.sequence < (slot store update.period).latestSequence :=
    UInt64.not_lt.mpr current
  rw [apply, if_neg notBehind]
  by_cases same : period = update.period
  · subst same
    simp [shows, slot]
  · simp [shows, slot, same]

theorem shows_apply_behind (store : MeterLatestStore Value) (update : MeterUpdate Value)
    (behind : update.sequence < (slot store update.period).latestSequence)
    (period : MeasurementPeriod) (group : Group) :
    shows (apply store update) period group = shows store period group := by
  rw [apply, if_pos behind]
  by_cases same : period = update.period
  · subst same
    simp [shows, slot]
  · simp [shows, slot, same]

end MeterLatestStore

/-- What the decoders compute from the raw words. `none` stands for their exception. -/
structure Decoders (Value : Group → Type) where
  values : MeterRecord → Int64 → Option (Groups Value)
  energyFamily : MeterRecord → MeterRecord → Int64 → Option (Value .energy)
  energyTiming : EnergyFamilyIdentity → Value .timing

def Decoders.decode (decoders : Decoders Value) (record : MeterRecord) (receivedAt : Int64) :
    Option (MeterUpdate Value) := do
  let format ← record.recordFormat
  let period ← format.period
  let values ← decoders.values record receivedAt
  some {
    period
    sequence := record.sequence.toUInt64
    configurationGeneration := record.configurationGeneration
    values }

inductive Published where
  | acknowledged
  | conflict
  | failed
  deriving DecidableEq, Repr

/-- What `accept` is answered by the clock, the timebase and the publisher. The authority's
values are `none` when the publisher is no `EnergyAuthority`, and `some none` when it is one
without a durable snapshot. -/
structure Surroundings (Value : Group → Type) where
  receivedAt : Int64
  stampTiming : Value .timing → Value .timing
  stampAggregateTiming : Value .aggregateTiming → Value .aggregateTiming
  published : Published
  authorityEnergy : Option (Option (Value .energy))
  authorityDemand : Option (Option (Value .demand))

structure EnergyFamilyAssembler where
  identity : Option EnergyFamilyIdentity := none
  summary : Option MeterRecord := none
  quadrants : Option MeterRecord := none

/-- A buffered part is `some none` once its payload has been moved to the publisher. -/
structure PendingEnergyFamily where
  identity : EnergyFamilyIdentity
  summary : Option (Option MeterRecord) := none
  quadrants : Option (Option MeterRecord) := none

structure WireConfiguration where
  generation : UInt32
  sampleRateHz : UInt32
  deriving DecidableEq, Repr

structure MeterRecordIngestor (Value : Group → Type) where
  configuration : WireConfiguration
  latestRecord : Option MeterRecord := none
  lastAggregateSequence : Option UInt32 := none
  lastTenMinuteSequence : Option UInt32 := none
  lastTwoHourSequence : Option UInt32 := none
  lastFrequency10sSequence : Option UInt32 := none
  energyAssembler : EnergyFamilyAssembler := {}
  pendingEnergyFamily : Option PendingEnergyFamily := none
  meterData : MeterLatestStore Value := fun _ => none

/-- How a call of `accept` ends. -/
inductive Outcome (Value : Group → Type) where
  | aside
  | buffered
  | rejected
  | quarantined
  | thrown
  | applied (update : MeterUpdate Value)

/-- The half-range rule of every tracker: the next sequence or one less than 2^31 ahead of it
is taken, anything else is stale. -/
def continuous (last : Option UInt32) (received : UInt32) : Bool :=
  match last with
  | none => true
  | some last => received - (last + 1) < 0x80000000

namespace EnergyFamilyAssembler

/-- `EnergyFamilyAssembler::accept`, with `none` for its exceptions, which leave the part it
has stored in place. -/
def accept (decoders : Decoders Value) (assembler : EnergyFamilyAssembler)
    (record : MeterRecord) (incoming : EnergyFamilyIdentity) (receivedAt : Int64) :
    EnergyFamilyAssembler × Option (Option (Value .energy)) :=
  let started : EnergyFamilyAssembler :=
    match assembler.identity with
    | some identity => if identity = incoming then assembler else { identity := some incoming }
    | none => { assembler with identity := some incoming }
  let held := if record.energyPart == 0 then started.summary else started.quadrants
  let refused : Bool := match held with
    | some earlier => earlier.words != record.words
    | none => false
  if refused then (started, none)
  else
    let stored : EnergyFamilyAssembler :=
      if held.isSome then started
      else if record.energyPart == 0 then { started with summary := some record }
      else { started with quadrants := some record }
    match stored.summary, stored.quadrants with
    | some summary, some quadrants =>
        match decoders.energyFamily summary quadrants receivedAt with
        | none => (stored, none)
        | some values => ({}, some (some values))
    | _, _ => (stored, some none)

end EnergyFamilyAssembler

namespace MeterRecordIngestor

variable (decoders : Decoders Value) (state : MeterRecordIngestor Value)

def matchesConfiguration (record : MeterRecord) : Bool :=
  record.headerValid && record.configurationGeneration == state.configuration.generation &&
    record.sampleRateHz == state.configuration.sampleRateHz

/-- `pending_energy_family_` after a part, with `none` for the duplicate that differs. -/
def bufferPart (record : MeterRecord) (identity : EnergyFamilyIdentity) :
    PendingEnergyFamily × Bool :=
  let pending : PendingEnergyFamily :=
    match state.pendingEnergyFamily with
    | some pending => if pending.identity = identity then pending else { identity }
    | none => { identity }
  match if record.energyPart == 0 then pending.summary else pending.quadrants with
  | some payload => (pending, payload == some record)
  | none =>
      if record.energyPart == 0 then ({ pending with summary := some (some record) }, true)
      else ({ pending with quadrants := some (some record) }, true)

def PendingEnergyFamily.moved (pending : PendingEnergyFamily) : PendingEnergyFamily :=
  { pending with
    summary := pending.summary.map fun _ => none
    quadrants := pending.quadrants.map fun _ => none }

def energyUpdate (surroundings : Surroundings Value) (identity : EnergyFamilyIdentity)
    (values : Value .energy) : MeterUpdate Value where
  period := .basic
  sequence := identity.sequence.toUInt64
  configurationGeneration := identity.configurationGeneration
  values := fun
    | .energy => some values
    | .timing => some (surroundings.stampTiming (decoders.energyTiming identity))
    | _ => none

/-- Publication of a completed family and the update of the Basic view. -/
def publishEnergyFamily (surroundings : Surroundings Value) (pending : PendingEnergyFamily)
    (identity : EnergyFamilyIdentity) (values : Value .energy) :
    MeterRecordIngestor Value × Outcome Value :=
  if pending.summary.isNone || pending.quadrants.isNone then (state, .thrown)
  else
    match surroundings.published with
    | .conflict => ({ state with pendingEnergyFamily := none }, .quarantined)
    | .failed =>
        ({ state with pendingEnergyFamily := some (PendingEnergyFamily.moved pending) }, .thrown)
    | .acknowledged =>
        match surroundings.authorityEnergy with
        | some none =>
            ({ state with pendingEnergyFamily := some (PendingEnergyFamily.moved pending) },
              .thrown)
        | authority =>
            let update := energyUpdate decoders surroundings identity
              ((authority.bind id).getD values)
            ({ state with
                pendingEnergyFamily := none
                meterData := state.meterData.apply update }, .applied update)

def acceptEnergy (record : MeterRecord) (surroundings : Surroundings Value) :
    MeterRecordIngestor Value × Outcome Value :=
  match decodeEnergyIdentity record with
  | none => (state, .rejected)
  | some identity =>
      match bufferPart state record identity with
      | (pending, false) => ({ state with pendingEnergyFamily := some pending }, .rejected)
      | (pending, true) =>
          let assembled := state.energyAssembler.accept decoders record identity
            surroundings.receivedAt
          let buffered := { state with
            pendingEnergyFamily := some pending
            energyAssembler := assembled.1 }
          match assembled.2 with
          | none => (buffered, .rejected)
          | some none => (buffered, .buffered)
          | some (some values) =>
              publishEnergyFamily decoders buffered surroundings pending identity values

/-- Whether the format's own tracker takes the record. Siblings, DEMAND and the open previews
have none. -/
def tracked (format : RecordFormat) (record : MeterRecord) : Bool :=
  match format with
  | .frequency10s => continuous state.lastFrequency10sSequence record.sequence
  | .interval .aggregate .fundamental => continuous state.lastAggregateSequence record.sequence
  | .interval .tenMinute .fundamental => continuous state.lastTenMinuteSequence record.sequence
  | .interval .twoHour .fundamental => continuous state.lastTwoHourSequence record.sequence
  | .interval .basic .fundamental =>
      continuous (state.latestRecord.map MeterRecord.sequence) record.sequence
  | _ => true

/-- The continuity baseline that an accepted record becomes. -/
def baseline (format : RecordFormat) (record : MeterRecord) : MeterRecordIngestor Value :=
  match format with
  | .frequency10s => { state with lastFrequency10sSequence := some record.sequence }
  | .interval .aggregate .fundamental =>
      { state with lastAggregateSequence := some record.sequence }
  | .interval .tenMinute .fundamental =>
      { state with lastTenMinuteSequence := some record.sequence }
  | .interval .twoHour .fundamental =>
      { state with lastTwoHourSequence := some record.sequence }
  | .interval .basic .fundamental => { state with latestRecord := some record }
  | _ => state

/-- The two timings are stamped with the UTC state, but for the ten-second frequency, whose
record carries its own endpoints. -/
def stamped (surroundings : Surroundings Value) (format : RecordFormat)
    (values : Groups Value) : Groups Value
  | .timing =>
      if format = .frequency10s then values .timing
      else (values .timing).map surroundings.stampTiming
  | .aggregateTiming => (values .aggregateTiming).map surroundings.stampAggregateTiming
  | group => values group

def withDemand (values : Groups Value) (demand : Value .demand) : Groups Value
  | .demand => some demand
  | group => values group

/-- Publication of a decoded record and the update of its view. -/
def publishUpdate (format : RecordFormat) (record : MeterRecord)
    (surroundings : Surroundings Value) (update : MeterUpdate Value) :
    MeterRecordIngestor Value × Outcome Value :=
  match surroundings.published with
  | .failed => (state, .thrown)
  | .conflict => if (update.values .demand).isSome then (state, .quarantined) else (state, .thrown)
  | .acknowledged =>
      let finish (final : MeterUpdate Value) : MeterRecordIngestor Value × Outcome Value :=
        (baseline { state with meterData := state.meterData.apply final } format record,
          .applied final)
      if (update.values .demand).isSome then
        match surroundings.authorityDemand with
        | none => finish update
        | some none => (state, .thrown)
        | some (some demand) =>
            finish { update with values := withDemand update.values demand }
      else finish update

def acceptTracked (format : RecordFormat) (record : MeterRecord)
    (surroundings : Surroundings Value) : MeterRecordIngestor Value × Outcome Value :=
  if tracked state format record then
    match decoders.decode record surroundings.receivedAt with
    | none => (state, .rejected)
    | some update =>
        publishUpdate state format record surroundings
          { update with values := stamped surroundings format update.values }
  else (state, .rejected)

def accept (record : MeterRecord) (surroundings : Surroundings Value) :
    MeterRecordIngestor Value × Outcome Value :=
  if matchesConfiguration state record then
    match record.recordFormat with
    | none => (state, .rejected)
    | some .singleCycle | some .pqEvent | some .pqEventLifecycle | some .flicker
    | some .mainsSignal | some .harmonic | some .harmonicAggregate => (state, .aside)
    | some .energy => acceptEnergy decoders state record surroundings
    | some format => acceptTracked decoders state format record surroundings
  else (state, .rejected)

/-- `begin_epoch` and `clear_latest` drop the same baselines; neither touches the store. -/
def clearLatest : MeterRecordIngestor Value :=
  { configuration := state.configuration, meterData := state.meterData }

end MeterRecordIngestor

end Msap1.Acquisition
