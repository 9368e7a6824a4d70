import Msap1.Machine
import Mathlib.Algebra.Order.Floor.Div
import Mathlib.Data.List.Chain

/-! The UTC ten-second boundaries of the frequency observer. `refresh_time_sync` is limited to one
sync in ten seconds, and each sync programs the interval that starts at the next UTC multiple of
ten seconds. -/

namespace Msap1.Acquisition

def frequency10sIntervalNanoseconds : UInt64 := 10 * 1000000000

def sampleRateMillihzTimeScale : UInt64 := 1000000000000

def maximumFrequency10sSampleRateMillihz : UInt32 := 200000000

def uint64Max : UInt64 := 0xffffffffffffffff

/-- The rate limit of `refresh_time_sync` in nanoseconds. -/
def timeSyncInterval : Int := 10000000000

structure MeterTimeSync where
  sampleCounter : UInt64
  taiNanoseconds : UInt64
  realtimeNanoseconds : UInt64
  bracketNanoseconds : UInt64
  deriving DecidableEq, Repr

structure Frequency10sBoundary where
  startSampleIndex : UInt64
  endSampleIndex : UInt64
  utcStartNanoseconds : UInt64
  utcEndNanoseconds : UInt64
  utcUncertaintyNanoseconds : UInt64
  measuredSampleRateMillihz : UInt32
  boundaryGeneration : UInt32
  nominalFrequencyHz : UInt8
  referenceChannel : UInt8
  filterProfile : UInt8
  calibrationProfile : UInt8
  valid : Bool
  timeSynchronized : Bool
  deriving DecidableEq, Repr

def saturatingAdd (left right : UInt64) : UInt64 :=
  if uint64Max - left < right then uint64Max else left + right

def measuredSampleRateMillihz (previous current : MeterTimeSync) : Option UInt32 :=
  if current.sampleCounter ≤ previous.sampleCounter ∨
      current.taiNanoseconds ≤ previous.taiNanoseconds then none
  else
    let samples := current.sampleCounter - previous.sampleCounter
    let nanoseconds := current.taiNanoseconds - previous.taiNanoseconds
    if uint64Max / sampleRateMillihzTimeScale < samples then none
    else
      let numerator := samples * sampleRateMillihzTimeScale
      let halfNanoseconds := nanoseconds / 2 + nanoseconds % 2
      let rounded := numerator / nanoseconds +
        (if halfNanoseconds ≤ numerator % nanoseconds then 1 else 0)
      if rounded = 0 ∨ maximumFrequency10sSampleRateMillihz.toUInt64 < rounded then none
      else some rounded.toUInt32

def framesAtOrAfter (nanoseconds : UInt64) (sampleRateMillihz : UInt32) : Option UInt64 :=
  if sampleRateMillihz = 0 ∨ uint64Max / sampleRateMillihz.toUInt64 < nanoseconds then none
  else
    let product := nanoseconds * sampleRateMillihz.toUInt64
    some (product / sampleRateMillihzTimeScale +
      (if product % sampleRateMillihzTimeScale ≠ 0 then 1 else 0))

def nextFrequency10sBoundary (sync : MeterTimeSync) (sampleRateMillihz : UInt32)
    (uncertaintyNanoseconds : UInt64) (generation : UInt32)
    (nominalFrequencyHz referenceChannel : UInt8) (mappingValid timeSynchronized : Bool) :
    Option Frequency10sBoundary :=
  let remainder := sync.realtimeNanoseconds % frequency10sIntervalNanoseconds
  let untilStart := frequency10sIntervalNanoseconds - remainder
  if uint64Max - untilStart < sync.realtimeNanoseconds then none
  else
    let utcStart := sync.realtimeNanoseconds + untilStart
    if uint64Max - frequency10sIntervalNanoseconds < utcStart then none
    else
      let utcEnd := utcStart + frequency10sIntervalNanoseconds
      match framesAtOrAfter untilStart sampleRateMillihz,
          framesAtOrAfter (untilStart + frequency10sIntervalNanoseconds) sampleRateMillihz with
      | some startOffset, some endOffset =>
          if endOffset ≤ startOffset ∨ uint64Max - endOffset < sync.sampleCounter then none
          else some {
            startSampleIndex := sync.sampleCounter + startOffset
            endSampleIndex := sync.sampleCounter + endOffset
            utcStartNanoseconds := utcStart
            utcEndNanoseconds := utcEnd
            utcUncertaintyNanoseconds := uncertaintyNanoseconds
            measuredSampleRateMillihz := sampleRateMillihz
            boundaryGeneration := generation
            nominalFrequencyHz
            referenceChannel
            filterProfile := 1
            calibrationProfile := 1
            valid := mappingValid
            timeSynchronized }
      | _, _ => none

/-- What a running capture reads of its configuration. -/
structure CaptureRates where
  sampleRateHz : UInt32
  nominalFrequencyHz : UInt8
  referenceChannel : UInt8

structure UtcClockStatus where
  estimatedUncertaintyNs : UInt64
  synchronized : Bool

/-- What a call of `refresh_time_sync` meets: the steady clock, the latched sync, the kernel's
clock status, and whether `program_frequency_10s_boundary` returns. -/
structure SyncCall where
  now : Int
  sync : Option MeterTimeSync
  clockStatus : UtcClockStatus
  programs : Bool

/-- `programmed` are the boundaries written since the capture was started. -/
structure SyncState where
  lastTimeSync : Option Int := none
  previousFrequencyTimeSync : Option MeterTimeSync := none
  frequency10sBoundaryGeneration : UInt32 := 0
  programmed : List Frequency10sBoundary := []

namespace SyncState

variable (rates : CaptureRates) (state : SyncState)

def due (call : SyncCall) : Bool :=
  match state.lastTimeSync with
  | some last => !decide (call.now - last < timeSyncInterval)
  | none => true

def frequencyUncertainty (sync : MeterTimeSync) (status : UtcClockStatus) : UInt64 :=
  let elasticity := if rates.sampleRateHz = 0 then 0
    else 16 * 1000000000 / rates.sampleRateHz.toUInt64
  saturatingAdd (saturatingAdd sync.bracketNanoseconds elasticity) status.estimatedUncertaintyNs

def measuredRate (sync : MeterTimeSync) : Option UInt32 :=
  state.previousFrequencyTimeSync.bind (fun previous => measuredSampleRateMillihz previous sync)

/-- The measured rate, or else the configured one; zero stands for none. -/
def boundaryRate (sync : MeterTimeSync) : UInt32 :=
  match state.measuredRate sync with
  | some rate => rate
  | none => if rates.sampleRateHz ≤ maximumFrequency10sSampleRateMillihz / 1000
      then rates.sampleRateHz * 1000 else 0

def nextGeneration : UInt32 :=
  if state.frequency10sBoundaryGeneration + 1 = 0 then 1
  else state.frequency10sBoundaryGeneration + 1

def boundaryFor (sync : MeterTimeSync) (status : UtcClockStatus) : Option Frequency10sBoundary :=
  if state.boundaryRate rates sync = 0 then none
  else nextFrequency10sBoundary sync (state.boundaryRate rates sync)
    (frequencyUncertainty rates sync status) state.nextGeneration rates.nominalFrequencyHz
    rates.referenceChannel (state.measuredRate sync).isSome status.synchronized

/-- The state once a sync was taken, and the boundary that it programs. -/
def synced (call : SyncCall) (sync : MeterTimeSync) : SyncState × Option Frequency10sBoundary :=
  let boundary := (state.boundaryFor rates sync call.clockStatus).filter (fun _ => call.programs)
  ({ lastTimeSync := some call.now
     previousFrequencyTimeSync := some sync
     frequency10sBoundaryGeneration := if state.boundaryRate rates sync = 0
       then state.frequency10sBoundaryGeneration else state.nextGeneration
     programmed := state.programmed ++ boundary.toList }, boundary)

def refreshTimeSync (force : Bool) (call : SyncCall) : SyncState × Option Frequency10sBoundary :=
  if !force && !state.due call then (state, none)
  else match call.sync with
    | none => ({ state with lastTimeSync := some call.now }, none)
    | some sync => state.synced rates call sync

/-- The forced sync with which `start` ends. -/
def started (call : SyncCall) : SyncState :=
  (refreshTimeSync rates { state with previousFrequencyTimeSync := none, programmed := [] } true
    call).1

end SyncState

/-- The loop of `run` while the capture stays started. -/
def syncMachine (rates : CaptureRates) :
    Machine SyncState SyncCall (Option Frequency10sBoundary) where
  step state call := state.refreshTimeSync rates false call

theorem framesAtOrAfter_toNat {nanoseconds frames : UInt64} {rate : UInt32}
    (mapped : framesAtOrAfter nanoseconds rate = some frames) :
    frames.toNat = (nanoseconds.toNat * rate.toNat) ⌈/⌉ 1000000000000 := by
  unfold framesAtOrAfter at mapped
  split at mapped
  · cases mapped
  · next guarded =>
      rw [not_or, UInt64.not_lt, UInt64.le_iff_toNat_le, UInt64.toNat_div,
        UInt32.toNat_toUInt64] at guarded
      have positive : 0 < rate.toNat :=
        Nat.pos_of_ne_zero (fun zero => guarded.1 (UInt32.toNat_inj.mp zero))
      have within : nanoseconds.toNat * rate.toNat < 2 ^ 64 :=
        Nat.lt_of_le_of_lt ((Nat.le_div_iff_mul_le positive).mp guarded.2) (by decide)
      have product : (nanoseconds * rate.toUInt64).toNat = nanoseconds.toNat * rate.toNat := by
        rw [UInt64.toNat_mul, UInt32.toNat_toUInt64, Nat.mod_eq_of_lt within]
      have scale : sampleRateMillihzTimeScale.toNat = 1000000000000 := rfl
      have remains : (nanoseconds * rate.toUInt64 % sampleRateMillihzTimeScale).toNat =
          nanoseconds.toNat * rate.toNat % 1000000000000 := by
        rw [UInt64.toNat_mod, product, scale]
      cases mapped
      rw [Nat.ceilDiv_eq_add_pred_div, UInt64.toNat_add, UInt64.toNat_div, product, scale]
      split
      · next more =>
          have nonzero : nanoseconds.toNat * rate.toNat % 1000000000000 ≠ 0 := by
            intro zero
            exact more (UInt64.toNat_inj.mp (remains.trans zero))
          have one : (1 : UInt64).toNat = 1 := rfl
          rw [one]
          omega
      · next whole =>
          have zero : nanoseconds.toNat * rate.toNat % 1000000000000 = 0 := by
            rw [← remains, not_not.mp whole]
            rfl
          have none : (0 : UInt64).toNat = 0 := rfl
          rw [none]
          omega

theorem framesAtOrAfter_isSome {nanoseconds : UInt64} {rate : UInt32} :
    (framesAtOrAfter nanoseconds rate).isSome ↔
      0 < rate.toNat ∧ nanoseconds.toNat * rate.toNat < 2 ^ 64 := by
  have top : uint64Max.toNat = 2 ^ 64 - 1 := rfl
  rcases Nat.eq_zero_or_pos rate.toNat with zero | positive
  · have none : rate = 0 := UInt32.toNat_inj.mp zero
    simp [framesAtOrAfter, none]
  · have some : rate ≠ 0 := fun none => by
      rw [none] at positive
      exact absurd positive (lt_irrefl 0)
    have guard : uint64Max / rate.toUInt64 < nanoseconds ↔
        ¬ nanoseconds.toNat * rate.toNat < 2 ^ 64 := by
      rw [UInt64.lt_iff_toNat_lt, UInt64.toNat_div, UInt32.toNat_toUInt64, top,
        Nat.div_lt_iff_lt_mul positive]
      omega
    unfold framesAtOrAfter
    split
    · next refused =>
        have wraps := guard.mp (refused.resolve_left some)
        simp only [Option.isSome_none, wraps, and_false, Bool.false_eq_true]
    · next mapped =>
        have fits := not_not.mp (fun wraps => mapped (.inr (guard.mpr wraps)))
        simp only [Option.isSome_some, positive, fits, and_true]

namespace MeterTimeSync

variable (sync : MeterTimeSync)

def intervalStart : Nat := (sync.realtimeNanoseconds.toNat / 10000000000 + 1) * 10000000000

/-- The sample at or after a moment, counted on from the latched sample. -/
def sampleAt (utc rateMillihz : Nat) : Nat :=
  sync.sampleCounter.toNat +
    ((utc - sync.realtimeNanoseconds.toNat) * rateMillihz) ⌈/⌉ 1000000000000

/-- The next interval has samples at this rate, and nothing about it exceeds 64 bits. -/
def Fits (rateMillihz : Nat) : Prop :=
  0 < rateMillihz ∧ sync.intervalStart + 10000000000 < 2 ^ 64 ∧
    (sync.intervalStart + 10000000000 - sync.realtimeNanoseconds.toNat) * rateMillihz < 2 ^ 64 ∧
    sync.sampleAt sync.intervalStart rateMillihz <
      sync.sampleAt (sync.intervalStart + 10000000000) rateMillihz ∧
    sync.sampleAt (sync.intervalStart + 10000000000) rateMillihz < 2 ^ 64

instance (rateMillihz : Nat) : Decidable (sync.Fits rateMillihz) := by
  unfold Fits
  infer_instance

variable {sync} in
theorem intervalStart_later : sync.realtimeNanoseconds.toNat < sync.intervalStart ∧
    sync.intervalStart ≤ sync.realtimeNanoseconds.toNat + 10000000000 := by
  unfold intervalStart
  omega

end MeterTimeSync

/-- A boundary of the interval after a sync, mapped to samples at a rate. -/
structure MapsAt (sync : MeterTimeSync) (rateMillihz : Nat) (boundary : Frequency10sBoundary) :
    Prop where
  starts : boundary.utcStartNanoseconds.toNat = sync.intervalStart
  ends : boundary.utcEndNanoseconds.toNat = sync.intervalStart + 10000000000
  rate : boundary.measuredSampleRateMillihz.toNat = rateMillihz
  startSample : boundary.startSampleIndex.toNat =
    sync.sampleAt boundary.utcStartNanoseconds.toNat rateMillihz
  endSample : boundary.endSampleIndex.toNat =
    sync.sampleAt boundary.utcEndNanoseconds.toNat rateMillihz

theorem MapsAt.ahead {sync : MeterTimeSync} {rateMillihz : Nat} {boundary : Frequency10sBoundary}
    (maps : MapsAt sync rateMillihz boundary) :
    sync.realtimeNanoseconds < boundary.utcStartNanoseconds := by
  rw [UInt64.lt_iff_toNat_lt, maps.starts]
  exact MeterTimeSync.intervalStart_later.1

/-- The interval after a sync is mapped, from above and without wrap-around, if it fits. -/
theorem nextFrequency10sBoundary_maps (sync : MeterTimeSync) (rate generation : UInt32)
    (uncertainty : UInt64) (nominal reference : UInt8) (valid synchronized : Bool) :
    if sync.Fits rate.toNat then
      ∃ boundary, nextFrequency10sBoundary sync rate uncertainty generation nominal reference valid
        synchronized = some boundary ∧ MapsAt sync rate.toNat boundary
    else nextFrequency10sBoundary sync rate uncertainty generation nominal reference valid
      synchronized = none := by
  have interval : frequency10sIntervalNanoseconds.toNat = 10000000000 := rfl
  have top : uint64Max.toNat = 2 ^ 64 - 1 := rfl
  have later := @MeterTimeSync.intervalStart_later sync
  have remainder : (sync.realtimeNanoseconds % frequency10sIntervalNanoseconds).toNat =
      sync.realtimeNanoseconds.toNat % 10000000000 := by
    rw [UInt64.toNat_mod, interval]
  have ahead : (frequency10sIntervalNanoseconds -
      sync.realtimeNanoseconds % frequency10sIntervalNanoseconds).toNat =
        sync.intervalStart - sync.realtimeNanoseconds.toNat := by
    rw [UInt64.toNat_sub_of_le, remainder, interval]
    · unfold MeterTimeSync.intervalStart
      omega
    · rw [UInt64.le_iff_toNat_le, remainder, interval]
      omega
  unfold nextFrequency10sBoundary
  dsimp only
  generalize frequency10sIntervalNanoseconds -
    sync.realtimeNanoseconds % frequency10sIntervalNanoseconds = untilStart at ahead ⊢
  have double : (untilStart + frequency10sIntervalNanoseconds).toNat =
      untilStart.toNat + 10000000000 := by
    rw [UInt64.toNat_add, interval]
    omega
  have first : uint64Max - untilStart < sync.realtimeNanoseconds ↔
      2 ^ 64 ≤ sync.intervalStart := by
    rw [UInt64.lt_iff_toNat_lt, UInt64.toNat_sub_of_le _ _ (by
      rw [UInt64.le_iff_toNat_le, top]; omega), top]
    omega
  by_cases early : sync.intervalStart < 2 ^ 64
  · have start : (sync.realtimeNanoseconds + untilStart).toNat = sync.intervalStart := by
      rw [UInt64.toNat_add]
      omega
    have second : uint64Max - frequency10sIntervalNanoseconds <
        sync.realtimeNanoseconds + untilStart ↔
          2 ^ 64 ≤ sync.intervalStart + 10000000000 := by
      rw [UInt64.lt_iff_toNat_lt, start, UInt64.toNat_sub_of_le _ _ (by decide), top, interval]
      omega
    rw [if_neg (fun late => absurd (first.mp late) (not_le_of_gt early))]
    by_cases within : sync.intervalStart + 10000000000 < 2 ^ 64
    · rw [if_neg (fun late => absurd (second.mp late) (not_le_of_gt within))]
      have finish : (sync.realtimeNanoseconds + untilStart +
          frequency10sIntervalNanoseconds).toNat = sync.intervalStart + 10000000000 := by
        rw [UInt64.toNat_add _ frequency10sIntervalNanoseconds, interval, start]
        omega
      have sinceEnd : sync.intervalStart + 10000000000 - sync.realtimeNanoseconds.toNat =
          (untilStart + frequency10sIntervalNanoseconds).toNat := by omega
      have mapped : sync.Fits rate.toNat → (framesAtOrAfter untilStart rate).isSome ∧
          (framesAtOrAfter (untilStart + frequency10sIntervalNanoseconds) rate).isSome := by
        rintro ⟨positive, -, bounded, -⟩
        rw [sinceEnd] at bounded
        have shorter : untilStart.toNat * rate.toNat < 2 ^ 64 :=
          lt_of_le_of_lt (Nat.mul_le_mul_right _ (by omega)) bounded
        exact ⟨framesAtOrAfter_isSome.mpr ⟨positive, shorter⟩,
          framesAtOrAfter_isSome.mpr ⟨positive, bounded⟩⟩
      cases begins : framesAtOrAfter untilStart rate with
      | none =>
          rw [begins] at mapped
          rw [if_neg (fun fits => Bool.false_ne_true (mapped fits).1)]
      | some startOffset =>
          cases stops : framesAtOrAfter (untilStart + frequency10sIntervalNanoseconds) rate with
          | none =>
              rw [stops] at mapped
              rw [if_neg (fun fits => Bool.false_ne_true (mapped fits).2)]
          | some endOffset =>
              dsimp only
              rcases framesAtOrAfter_isSome.mp (Option.isSome_of_eq_some stops) with
                ⟨positive, bounded⟩
              have startSample : sync.sampleAt sync.intervalStart rate.toNat =
                  sync.sampleCounter.toNat + startOffset.toNat := by
                rw [MeterTimeSync.sampleAt, framesAtOrAfter_toNat begins, ahead]
              have endSample : sync.sampleAt (sync.intervalStart + 10000000000) rate.toNat =
                  sync.sampleCounter.toNat + endOffset.toNat := by
                rw [MeterTimeSync.sampleAt, framesAtOrAfter_toNat stops, sinceEnd]
              have guards : sync.Fits rate.toNat ↔ ¬ (endOffset ≤ startOffset ∨
                  uint64Max - endOffset < sync.sampleCounter) := by
                have below := endOffset.toNat_lt
                rw [MeterTimeSync.Fits, startSample, endSample, sinceEnd, not_or, UInt64.not_le,
                  UInt64.not_lt, UInt64.lt_iff_toNat_lt, UInt64.le_iff_toNat_le,
                  UInt64.toNat_sub_of_le _ _ (by rw [UInt64.le_iff_toNat_le, top]; omega), top]
                omega
              by_cases fits : sync.Fits rate.toNat
              · have counted : sync.sampleCounter.toNat + endOffset.toNat < 2 ^ 64 := by
                  rw [← endSample]
                  exact fits.2.2.2.2
                have shorter : startOffset.toNat < endOffset.toNat := by
                  have ordered := fits.2.2.2.1
                  omega
                rw [if_pos fits, if_neg (guards.mp fits)]
                refine ⟨_, rfl, start, finish, rfl, ?_, ?_⟩
                · dsimp only
                  rw [start, startSample, UInt64.toNat_add]
                  omega
                · dsimp only
                  rw [finish, endSample, UInt64.toNat_add]
                  omega
              · rw [if_neg fits]
                exact if_pos (not_not.mp (fun passes => fits (guards.mpr passes)))
    · rw [if_pos (second.mpr (Nat.le_of_not_lt within)), if_neg (fun fits => within fits.2.1)]
  · rw [if_pos (first.mpr (Nat.le_of_not_lt early)), if_neg]
    rintro ⟨-, within, -⟩
    exact early (lt_of_le_of_lt (Nat.le_add_right _ _) within)

/-- The later interval is the earlier one or starts where it ends. -/
def Follows (earlier later : Frequency10sBoundary) : Prop :=
  (later.utcStartNanoseconds = earlier.utcStartNanoseconds ∧
    later.utcEndNanoseconds = earlier.utcEndNanoseconds) ∨
    later.utcStartNanoseconds = earlier.utcEndNanoseconds

instance (earlier later : Frequency10sBoundary) : Decidable (Follows earlier later) := by
  unfold Follows
  infer_instance

/-- No whole interval is skipped. -/
def NeverSkips (programmed : List Frequency10sBoundary) : Prop := programmed.IsChain Follows

/-- UTC runs with the steady clock, and a sync is taken at the moment of its call. -/
def SameRate (offset : Int) (call : SyncCall) : Prop :=
  ∀ sync ∈ call.sync, (sync.realtimeNanoseconds.toNat : Int) = call.now + offset

/-- The calls come one after the other. -/
def InTurn (calls : List SyncCall) : Prop :=
  calls.IsChain (fun earlier later => earlier.now ≤ later.now)

/-- The calls that the rate limit lets through, each counted from the one let through before. -/
def admitted (last : Int) : List SyncCall → List SyncCall
  | [] => []
  | call :: calls =>
      if call.now - last < timeSyncInterval then admitted last calls
      else call :: admitted call.now calls

/-- A sync that was taken, and the one taken before it since the capture was started. -/
structure Attempt where
  previous : Option MeterTimeSync
  sync : MeterTimeSync
  call : SyncCall

def boundaryAttempts (previous : Option MeterTimeSync) : List SyncCall → List Attempt
  | [] => []
  | call :: calls =>
      match call.sync with
      | none => boundaryAttempts previous calls
      | some sync => ⟨previous, sync, call⟩ :: boundaryAttempts (some sync) calls

namespace Attempt

variable (rates : CaptureRates) (attempt : Attempt)

/-- The rate measured since the sync before, or else the configured one. -/
def rateMillihz : Nat :=
  match attempt.previous.bind (fun previous => measuredSampleRateMillihz previous attempt.sync) with
  | some measured => measured.toNat
  | none => if rates.sampleRateHz.toNat ≤ 200000 then rates.sampleRateHz.toNat * 1000 else 0

/-- The sync maps to a boundary and programming it returns. -/
def Programs : Prop := attempt.call.programs = true ∧ attempt.sync.Fits (attempt.rateMillihz rates)

instance : Decidable (attempt.Programs rates) := by
  unfold Programs
  infer_instance

end Attempt

/-- The syncs that program their boundary, of a capture started with the first call. -/
def programmings (rates : CaptureRates) (first : SyncCall) (calls : List SyncCall) : List Attempt :=
  (boundaryAttempts none (first :: admitted first.now calls)).filter
    (fun attempt => attempt.Programs rates)

/-- The later sync comes before the end of the interval that the earlier one programs. -/
def InTime (earlier later : Attempt) : Prop :=
  later.sync.realtimeNanoseconds.toNat < earlier.sync.intervalStart + 10000000000

instance (earlier later : Attempt) : Decidable (InTime earlier later) := by
  unfold InTime
  infer_instance

/-- The boundary of the interval after the sync of an attempt, at the rate of the attempt. -/
structure ProgramsExactly (rates : CaptureRates) (attempt : Attempt)
    (boundary : Frequency10sBoundary) : Prop where
  ahead : attempt.sync.realtimeNanoseconds < boundary.utcStartNanoseconds
  maps : MapsAt attempt.sync (attempt.rateMillihz rates) boundary

section Attempts

theorem admitted_sublist (last : Int) (calls : List SyncCall) :
    (admitted last calls).Sublist calls := by
  induction calls generalizing last with
  | nil => exact List.Sublist.refl []
  | cons call calls ih =>
      unfold admitted
      split
      · exact (ih last).cons call
      · exact (ih call.now).cons_cons call

theorem attempts_sublist (previous : Option MeterTimeSync) (calls : List SyncCall) :
    ((boundaryAttempts previous calls).map Attempt.call).Sublist calls := by
  induction calls generalizing previous with
  | nil => exact List.Sublist.refl []
  | cons call calls ih =>
      unfold boundaryAttempts
      split
      · exact (ih previous).cons call
      · next sync taken => exact (ih (some sync)).cons_cons call

theorem attempts_sync {previous : Option MeterTimeSync} {calls : List SyncCall} {attempt : Attempt}
    (member : attempt ∈ boundaryAttempts previous calls) :
    attempt.call.sync = some attempt.sync := by
  induction calls generalizing previous with
  | nil => cases member
  | cons call calls ih =>
      unfold boundaryAttempts at member
      split at member
      · exact ih member
      · next sync taken =>
          rcases List.mem_cons.mp member with rfl | later
          · exact taken
          · exact ih later

theorem programmings_ordered {rates : CaptureRates} {offset : Int} {first : SyncCall}
    {calls : List SyncCall} (inTurn : InTurn (first :: calls))
    (sameRate : ∀ call ∈ first :: calls, SameRate offset call) :
    (programmings rates first calls).Pairwise (fun earlier later =>
      earlier.sync.realtimeNanoseconds.toNat ≤ later.sync.realtimeNanoseconds.toNat) := by
  have some : ((boundaryAttempts none (first :: admitted first.now calls)).map Attempt.call).Sublist
      (first :: calls) :=
    (attempts_sublist none _).trans ((admitted_sublist first.now calls).cons_cons first)
  have turn : (first :: calls).Pairwise (fun earlier later => earlier.now ≤ later.now) :=
    List.isChain_iff_pairwise.mp inTurn
  have taken := List.pairwise_map.mp (turn.sublist some)
  refine (taken.imp_of_mem ?_).filter _
  intro earlier later before after ordered
  have one := sameRate _ (some.mem (List.mem_map_of_mem before)) earlier.sync (attempts_sync before)
  have two := sameRate _ (some.mem (List.mem_map_of_mem after)) later.sync (attempts_sync after)
  omega

end Attempts

section Runs

variable {rates : CaptureRates} {state : SyncState} {call : SyncCall}

theorem boundaryRate_toNat (rates : CaptureRates) (state : SyncState) (call : SyncCall)
    (sync : MeterTimeSync) :
    (state.boundaryRate rates sync).toNat =
      Attempt.rateMillihz rates ⟨state.previousFrequencyTimeSync, sync, call⟩ := by
  unfold SyncState.boundaryRate SyncState.measuredRate Attempt.rateMillihz
  dsimp only
  cases state.previousFrequencyTimeSync.bind (fun previous =>
      measuredSampleRateMillihz previous sync) with
  | some measured => rfl
  | none =>
      have limit : (maximumFrequency10sSampleRateMillihz / 1000).toNat = 200000 := rfl
      have guard : rates.sampleRateHz ≤ maximumFrequency10sSampleRateMillihz / 1000 ↔
          rates.sampleRateHz.toNat ≤ 200000 := by rw [UInt32.le_iff_toNat_le, limit]
      by_cases slow : rates.sampleRateHz.toNat ≤ 200000
      · simp only [if_pos slow, if_pos (guard.mpr slow), UInt32.toNat_mul]
        have thousand : (1000 : UInt32).toNat = 1000 := rfl
        rw [thousand]
        omega
      · simp only [if_neg slow, if_neg (fun fast => slow (guard.mp fast))]
        rfl

theorem synced_boundary (rates : CaptureRates) (state : SyncState) (call : SyncCall)
    (sync : MeterTimeSync) :
    if Attempt.Programs rates ⟨state.previousFrequencyTimeSync, sync, call⟩ then
      ∃ boundary, (state.synced rates call sync).2 = some boundary ∧
        ProgramsExactly rates ⟨state.previousFrequencyTimeSync, sync, call⟩ boundary
    else (state.synced rates call sync).2 = none := by
  have rate := boundaryRate_toNat rates state call sync
  have mapped := nextFrequency10sBoundary_maps sync (state.boundaryRate rates sync)
    state.nextGeneration (SyncState.frequencyUncertainty rates sync call.clockStatus)
    rates.nominalFrequencyHz rates.referenceChannel (state.measuredRate sync).isSome
    call.clockStatus.synchronized
  have none : state.boundaryRate rates sync = 0 →
      ¬ sync.Fits (state.boundaryRate rates sync).toNat := by
    rintro zero ⟨positive, -⟩
    rw [zero] at positive
    exact absurd positive (lt_irrefl 0)
  rw [rate] at mapped none
  have filtered : (state.synced rates call sync).2 =
    (state.boundaryFor rates sync call.clockStatus).filter (fun _ => call.programs) := rfl
  by_cases programs : Attempt.Programs rates ⟨state.previousFrequencyTimeSync, sync, call⟩
  · rcases programs with ⟨returns, fits⟩
    rw [if_pos ⟨returns, fits⟩, filtered]
    rw [if_pos fits] at mapped
    rcases mapped with ⟨boundary, found, maps⟩
    have kept : call.programs = true := returns
    rw [SyncState.boundaryFor, if_neg (fun zero => none zero fits), found, kept]
    exact ⟨boundary, rfl, maps.ahead, maps⟩
  · rw [if_neg programs, filtered]
    by_cases fits : sync.Fits (Attempt.rateMillihz rates
        ⟨state.previousFrequencyTimeSync, sync, call⟩)
    · have refused : call.programs = false :=
        Bool.eq_false_iff.mpr (fun returns => programs ⟨returns, fits⟩)
      rw [refused]
      cases state.boundaryFor rates sync call.clockStatus with
      | none => rfl
      | some boundary => rfl
    · rw [if_neg fits] at mapped
      rw [SyncState.boundaryFor, mapped, ite_self]
      rfl

/-- The attempts that program their boundary program it exactly, in this order, and nothing else
is programmed. -/
theorem run_programmed (rates : CaptureRates) (calls : List SyncCall) (state : SyncState)
    {last : Int} (synced : state.lastTimeSync = some last) :
    ∃ more, ((syncMachine rates).run state calls).programmed = state.programmed ++ more ∧
      List.Forall₂ (ProgramsExactly rates)
        ((boundaryAttempts state.previousFrequencyTimeSync (admitted last calls)).filter
          (fun attempt => attempt.Programs rates)) more := by
  induction calls generalizing state last with
  | nil => exact ⟨[], (List.append_nil _).symm, .nil⟩
  | cons call calls ih =>
      have step : (syncMachine rates).next state call =
          (state.refreshTimeSync rates false call).1 := rfl
      have due : state.due call = !decide (call.now - last < timeSyncInterval) := by
        rw [SyncState.due, synced]
      rw [Machine.run_cons, step]
      unfold SyncState.refreshTimeSync
      rw [due, Bool.not_false, Bool.true_and, Bool.not_not]
      unfold admitted
      by_cases limited : call.now - last < timeSyncInterval
      · rw [if_pos limited, if_pos (decide_eq_true limited)]
        exact ih state synced
      · rw [if_neg limited, if_neg (fun early => limited (of_decide_eq_true early)),
          boundaryAttempts]
        cases taken : call.sync with
        | none => exact ih { state with lastTimeSync := some call.now } rfl
        | some sync =>
            have boundary := synced_boundary rates state call sync
            have programmed : (state.synced rates call sync).1.programmed =
              state.programmed ++ (state.synced rates call sync).2.toList := rfl
            rcases ih (state.synced rates call sync).1 rfl with ⟨more, same, exact⟩
            dsimp only
            rw [same, programmed, List.append_assoc]
            refine ⟨_, rfl, ?_⟩
            rw [List.filter_cons]
            by_cases programs : Attempt.Programs rates
                ⟨state.previousFrequencyTimeSync, sync, call⟩
            · rw [if_pos programs] at boundary
              rcases boundary with ⟨next, found, maps⟩
              rw [if_pos (decide_eq_true programs), found]
              exact .cons maps exact
            · rw [if_neg programs] at boundary
              rw [if_neg (fun held => programs (of_decide_eq_true held)), boundary]
              exact exact

theorem started_programmed (rates : CaptureRates) (before : SyncState) (first : SyncCall)
    (calls : List SyncCall) :
    List.Forall₂ (ProgramsExactly rates) (programmings rates first calls)
      ((syncMachine rates).run (before.started rates first) calls).programmed := by
  unfold programmings boundaryAttempts SyncState.started SyncState.refreshTimeSync
  rw [Bool.not_true, Bool.false_and, if_neg Bool.false_ne_true]
  cases taken : first.sync with
  | none =>
      rcases run_programmed rates calls { before with
          previousFrequencyTimeSync := none, programmed := [], lastTimeSync := some first.now } rfl
        with ⟨more, same, exact⟩
      dsimp only
      rw [same]
      exact exact
  | some sync =>
      have boundary := synced_boundary rates
        { before with previousFrequencyTimeSync := none, programmed := [] } first sync
      rcases run_programmed rates calls (SyncState.synced rates
          { before with previousFrequencyTimeSync := none, programmed := [] } first sync).1 rfl
        with ⟨more, same, exact⟩
      dsimp only
      rw [same, List.filter_cons]
      split
      · next programs =>
          rw [if_pos (of_decide_eq_true programs)] at boundary
          rcases boundary with ⟨next, found, maps⟩
          have own : (SyncState.synced rates { before with
              previousFrequencyTimeSync := none, programmed := [] } first sync).1.programmed =
                [next] := congrArg Option.toList found
          rw [own]
          exact .cons maps exact
      · next idle =>
          rw [if_neg (fun programs => idle (decide_eq_true programs))] at boundary
          have own : (SyncState.synced rates { before with
              previousFrequencyTimeSync := none, programmed := [] } first sync).1.programmed =
                [] := congrArg Option.toList boundary
          rw [own]
          exact exact

theorem follows_iff {first second : Attempt} {earlier later : Frequency10sBoundary}
    (ordered : first.sync.realtimeNanoseconds.toNat ≤ second.sync.realtimeNanoseconds.toNat)
    (before : ProgramsExactly rates first earlier) (after : ProgramsExactly rates second later) :
    Follows earlier later ↔ InTime first second := by
  have start := before.maps.starts
  have finish := before.maps.ends
  have begins := after.maps.starts
  have stops := after.maps.ends
  unfold Follows InTime
  simp only [← UInt64.toNat_inj]
  unfold MeterTimeSync.intervalStart at *
  omega

/-- Boundaries programmed by syncs in turn follow each other exactly if the syncs are in time. -/
theorem neverSkips_iff {syncs : List Attempt} {programmed : List Frequency10sBoundary}
    (ordered : syncs.Pairwise (fun earlier later =>
      earlier.sync.realtimeNanoseconds.toNat ≤ later.sync.realtimeNanoseconds.toNat))
    (exact : List.Forall₂ (ProgramsExactly rates) syncs programmed) :
    NeverSkips programmed ↔ syncs.IsChain InTime := by
  unfold NeverSkips
  induction exact with
  | nil => simp
  | @cons first earlier syncs programmed before rest ih =>
      have tail := ih ordered.of_cons
      cases rest with
      | nil => simp
      | @cons second later syncs programmed after rest =>
          have near := List.rel_of_pairwise_cons ordered List.mem_cons_self
          rw [List.isChain_cons_cons, List.isChain_cons_cons, tail, follows_iff near before after]

end Runs

/-- Over every run of a started capture, the syncs that program a boundary are those that the rate
limit lets through, that map without wrap-around and whose programming returns; each programs, ahead
of its start, the interval after it, with the exact samples of its endpoints at the measured or the
configured rate. No interval is skipped exactly if each of them comes before the end of the interval
that the one before it programs. -/
theorem boundaries_follow (rates : CaptureRates) (before : SyncState) (offset : Int)
    (first : SyncCall) (calls : List SyncCall) (inTurn : InTurn (first :: calls))
    (sameRate : ∀ call ∈ first :: calls, SameRate offset call) :
    List.Forall₂ (ProgramsExactly rates) (programmings rates first calls)
        ((syncMachine rates).run (before.started rates first) calls).programmed ∧
      (NeverSkips ((syncMachine rates).run (before.started rates first) calls).programmed ↔
        (programmings rates first calls).IsChain InTime) := by
  have exact := started_programmed rates before first calls
  exact ⟨exact, neverSkips_iff (programmings_ordered inTurn sameRate) exact⟩

instance (offset : Int) (call : SyncCall) : Decidable (SameRate offset call) := by
  unfold SameRate
  infer_instance

def steadyRates : CaptureRates := ⟨32000, 50, 6⟩

/-- A call some nanoseconds after the start, at a steady 32 kHz. -/
def steadyCall (utc : UInt64) (elapsed : Nat) : SyncCall where
  now := elapsed
  sync := some ⟨(elapsed / 31250).toUInt64, elapsed.toUInt64, utc + elapsed.toUInt64, 0⟩
  clockStatus := ⟨1000, true⟩
  programs := true

def steadyCalls (utc : UInt64) : List SyncCall :=
  (List.range 41).map (fun poll => steadyCall utc (249000000 * (poll + 1)))

theorem steady_calls_follow :
    NeverSkips ((syncMachine steadyRates).run
      (SyncState.started steadyRates {} (steadyCall 1700000001000000000 0))
      (steadyCalls 1700000001000000000)).programmed ∧
      ((syncMachine steadyRates).run
        (SyncState.started steadyRates {} (steadyCall 1700000001000000000 0))
        (steadyCalls 1700000001000000000)).programmed.length = 2 := by
  have follow := boundaries_follow steadyRates {} 1700000001000000000
    (steadyCall 1700000001000000000 0) (steadyCalls 1700000001000000000)
    (by unfold InTurn; decide +kernel) (by decide +kernel)
  refine ⟨follow.2.mpr (by decide +kernel), ?_⟩
  rw [← follow.1.length_eq]
  decide +kernel

/-- A capture started 100 ms before a UTC multiple of ten seconds syncs again 10.209 s later, and
the interval between the two is never programmed. -/
theorem late_sync_skips :
    (steadyCall 1700000009900000000 0 :: steadyCalls 1700000009900000000).IsChain
        (fun earlier later => earlier.now ≤ later.now ∧ later.now ≤ earlier.now + 250000000) ∧
      (∀ call ∈ steadyCall 1700000009900000000 0 :: steadyCalls 1700000009900000000,
        SameRate 1700000009900000000 call ∧ call.sync.isSome ∧ call.programs) ∧
      ((syncMachine steadyRates).run
        (SyncState.started steadyRates {} (steadyCall 1700000009900000000 0))
        (steadyCalls 1700000009900000000)).programmed.map
          Frequency10sBoundary.utcStartNanoseconds = [1700000010000000000, 1700000030000000000] ∧
      ¬ NeverSkips ((syncMachine steadyRates).run
        (SyncState.started steadyRates {} (steadyCall 1700000009900000000 0))
        (steadyCalls 1700000009900000000)).programmed := by
  refine ⟨by decide +kernel, by decide +kernel, by decide +kernel, ?_⟩
  unfold NeverSkips
  decide +kernel

end Msap1.Acquisition
