import Mathlib.Data.UInt
import Msap1.Loops
import Msap1.SignedArithmetic

/-! `measurement_timebase.cpp`: the UTC labels that the latest sync point gives to samples. -/

namespace Msap1.Meter

open SignedArithmetic

inductive TimeQuality where
  | unsynchronized
  | synchronized
  | holdover
  deriving DecidableEq, Repr

structure TimeSyncPoint where
  sampleCounter : UInt64 := 0
  utcNs : Int64 := 0
  uncertaintyNs : UInt64 := 0
  sampleRateHz : UInt32 := 0
  configurationGeneration : UInt32 := 0
  utcSynchronized : Bool := false
  deriving DecidableEq

structure UtcEstimate where
  utc : Int
  uncertaintyNs : UInt64
  deriving DecidableEq, Repr

/-- Monotonic times and the threshold are in nanoseconds. -/
structure MeasurementTimebase where
  stalenessThreshold : Int := 30000000000
  latestSync : Option TimeSyncPoint := none
  lastSyncAt : Int := 0

def maxBackwardExtrapolationSeconds : UInt64 := 60

namespace MeasurementTimebase

variable (timebase : MeasurementTimebase)

def recordSync (sync : TimeSyncPoint) (now : Int) : MeasurementTimebase :=
  { timebase with latestSync := some sync, lastSyncAt := now }

def quality (now : Int) : TimeQuality :=
  match timebase.latestSync with
  | none => .unsynchronized
  | some sync =>
      if sync.utcSynchronized = false then .unsynchronized
      else if timebase.stalenessThreshold < now - timebase.lastSyncAt then .holdover
      else .synchronized

/-- More than a minute behind the sync point. -/
def farBehind (sync : TimeSyncPoint) (sampleIndex : UInt64) : Prop :=
  sampleIndex < sync.sampleCounter ∧ sync.sampleRateHz.toUInt64 * maxBackwardExtrapolationSeconds <
    sync.sampleCounter - sampleIndex

instance (sync : TimeSyncPoint) (sampleIndex : UInt64) :
    Decidable (farBehind sync sampleIndex) := by
  unfold farBehind
  infer_instance

/-- The extrapolation behind the guards, with the signed operations of the source. -/
def extrapolate (sync : TimeSyncPoint) (sampleIndex : UInt64) : Except Undefined UtcEstimate := do
  let delta := (sampleIndex - sync.sampleCounter).toInt64.toInt
  let rate : Int := sync.sampleRateHz.toNat
  let seconds ← signed64 (delta.tdiv rate * 1000000000)
  let remainder ← signed64 (delta.tmod rate * 1000000000)
  let whole ← signed64 (sync.utcNs.toInt + seconds)
  let utcNs ← signed64 (whole + remainder.tdiv rate)
  return ⟨utcNs, sync.uncertaintyNs⟩

def utcForSample (sampleIndex : UInt64) (configurationGeneration : UInt32) :
    Except Undefined (Option UtcEstimate) :=
  match timebase.latestSync with
  | none => .ok none
  | some sync =>
      if sync.utcSynchronized = false ∨ sync.sampleRateHz = 0 then .ok none
      else if configurationGeneration ≠ sync.configurationGeneration then .ok none
      else if farBehind sync sampleIndex then .ok none
      else (extrapolate sync sampleIndex).map some

end MeasurementTimebase

namespace TimeSyncPoint

variable (sync : TimeSyncPoint) (sampleIndex : UInt64)

/-- How far a sample is ahead of the sync point, below zero behind it. -/
def ahead : Int := (sampleIndex.toNat : Int) - sync.sampleCounter.toNat

def rate : Int := sync.sampleRateHz.toNat

def label : Int := sync.utcNs.toInt + (sync.ahead sampleIndex * 1000000000).tdiv sync.rate

/-- The distance and the parts of the label fit 64 signed bits. -/
structure Representable : Prop where
  distance : sync.ahead sampleIndex < 2 ^ 63
  seconds : Fits64 ((sync.ahead sampleIndex).tdiv sync.rate * 1000000000)
  whole : Fits64 (sync.utcNs.toInt + (sync.ahead sampleIndex).tdiv sync.rate * 1000000000)
  label : Fits64 (sync.label sampleIndex)

end TimeSyncPoint

/-- No estimate, or the true label with the uncertainty of the sync point. -/
def ExactLabel (sync : TimeSyncPoint) (sampleIndex : UInt64)
    (answer : Except Undefined (Option UtcEstimate)) : Prop :=
  answer = .ok none ∨ answer = .ok (some ⟨sync.label sampleIndex, sync.uncertaintyNs⟩)

instance (sync : TimeSyncPoint) (sampleIndex : UInt64)
    (answer : Except Undefined (Option UtcEstimate)) :
    Decidable (ExactLabel sync sampleIndex answer) := by
  unfold ExactLabel
  infer_instance

section Labels

open MeasurementTimebase

variable {sync : TimeSyncPoint} {sampleIndex : UInt64}

theorem rate_positive (rated : sync.sampleRateHz ≠ 0) : 0 < sync.rate := by
  have nonzero : sync.sampleRateHz.toNat ≠ 0 := by
    intro zero
    exact rated (UInt32.toNat_inj.mp zero)
  unfold TimeSyncPoint.rate
  omega

theorem rate_lt : sync.rate < 2 ^ 32 := by
  have small := sync.sampleRateHz.toNat_lt
  unfold TimeSyncPoint.rate
  omega

/-- A sample that is not far behind is within a minute, so its distance is no wrapped one. -/
theorem ahead_bounded (near : ¬farBehind sync sampleIndex) :
    -(60 * sync.rate) ≤ sync.ahead sampleIndex := by
  have narrow := sync.sampleRateHz.toNat_lt
  have counter := sync.sampleCounter.toNat_lt
  unfold farBehind at near
  rw [UInt64.lt_iff_toNat_lt, UInt64.lt_iff_toNat_lt, UInt64.toNat_sub, UInt64.toNat_mul,
    UInt32.toNat_toUInt64] at near
  have sixty : maxBackwardExtrapolationSeconds.toNat = 60 := rfl
  rw [sixty] at near
  unfold TimeSyncPoint.ahead TimeSyncPoint.rate
  omega

theorem delta_eq (near : ¬farBehind sync sampleIndex) :
    (sampleIndex - sync.sampleCounter).toInt64.toInt =
      if sync.ahead sampleIndex < 2 ^ 63 then sync.ahead sampleIndex
      else sync.ahead sampleIndex - 2 ^ 64 := by
  have bound := ahead_bounded near
  have narrow : sync.rate < 2 ^ 32 := rate_lt
  rw [toInt64_sub]
  unfold TimeSyncPoint.ahead at bound ⊢
  rw [if_neg (by omega)]

theorem remainder_fits (delta : Int) (rated : sync.sampleRateHz ≠ 0) :
    Fits64 (delta.tmod sync.rate * 1000000000) := by
  have positive := rate_positive rated
  have narrow : sync.rate < 2 ^ 32 := rate_lt
  have above := Int.tmod_lt_of_pos delta positive
  have below := Int.lt_tmod_of_pos delta positive
  unfold Fits64
  omega

theorem extrapolate_ok {estimate : UtcEstimate} (rated : sync.sampleRateHz ≠ 0)
    (done : extrapolate sync sampleIndex = .ok estimate) :
    estimate = ⟨sync.utcNs.toInt + ((sampleIndex - sync.sampleCounter).toInt64.toInt *
      1000000000).tdiv sync.rate, sync.uncertaintyNs⟩ := by
  unfold extrapolate at done
  rcases Loops.bind_ok done with ⟨seconds, secondsOk, done⟩
  rcases Loops.bind_ok done with ⟨remainder, remainderOk, done⟩
  rcases Loops.bind_ok done with ⟨whole, wholeOk, done⟩
  rcases Loops.bind_ok done with ⟨utcNs, utcOk, done⟩
  cases done
  rw [(signed64_ok utcOk).2, (signed64_ok wholeOk).2, (signed64_ok secondsOk).2,
    (signed64_ok remainderOk).2, ← tdiv_parts (rate_positive rated) 1000000000 (by decide)]
  congr 1
  exact Int.add_assoc _ _ _

theorem wrapped_label (rated : sync.sampleRateHz ≠ 0) (far : ¬sync.ahead sampleIndex < 2 ^ 63) :
    ((sync.ahead sampleIndex - 2 ^ 64) * 1000000000).tdiv sync.rate ≠
      (sync.ahead sampleIndex * 1000000000).tdiv sync.rate := by
  have positive := rate_positive rated
  have narrow : sync.rate < 2 ^ 32 := rate_lt
  have small := sampleIndex.toNat_lt
  have below : sync.ahead sampleIndex - 2 ^ 64 ≤ 0 := by
    unfold TimeSyncPoint.ahead
    omega
  have left : ((sync.ahead sampleIndex - 2 ^ 64) * 1000000000).tdiv sync.rate ≤ 0 :=
    calc
      _ ≤ (0 : Int).tdiv sync.rate := Int.tdiv_le_tdiv positive (by omega)
      _ = 0 := Int.zero_tdiv _
  have right : 1 ≤ (sync.ahead sampleIndex * 1000000000).tdiv sync.rate :=
    Int.le_tdiv_of_mul_le positive (by omega)
  omega

theorem extrapolate_exact (rated : sync.sampleRateHz ≠ 0) (near : ¬farBehind sync sampleIndex) :
    extrapolate sync sampleIndex = .ok ⟨sync.label sampleIndex, sync.uncertaintyNs⟩ ↔
      sync.Representable sampleIndex := by
  have delta := delta_eq near
  constructor
  · intro done
    have label := extrapolate_ok rated done
    have distance : sync.ahead sampleIndex < 2 ^ 63 := by
      by_contra far
      rw [delta, if_neg far, UtcEstimate.mk.injEq] at label
      exact wrapped_label rated far (Int.add_left_cancel label.1).symm
    rw [if_pos distance] at delta
    unfold extrapolate at done
    rcases Loops.bind_ok done with ⟨seconds, secondsOk, done⟩
    rcases Loops.bind_ok done with ⟨remainder, remainderOk, done⟩
    rcases Loops.bind_ok done with ⟨whole, wholeOk, done⟩
    rcases Loops.bind_ok done with ⟨utcNs, utcOk, done⟩
    rw [delta] at secondsOk remainderOk
    rw [(signed64_ok secondsOk).2] at wholeOk
    refine ⟨distance, (signed64_ok secondsOk).1, (signed64_ok wholeOk).1, ?_⟩
    cases done
    rcases signed64_ok utcOk with ⟨fits, same⟩
    rw [same]
    exact fits
  · rintro ⟨distance, seconds, whole, label⟩
    rw [if_pos distance] at delta
    have sum : sync.utcNs.toInt + (sync.ahead sampleIndex).tdiv sync.rate * 1000000000 +
        ((sync.ahead sampleIndex).tmod sync.rate * 1000000000).tdiv sync.rate =
          sync.label sampleIndex := by
      rw [Int.add_assoc, tdiv_parts (rate_positive rated) 1000000000 (by decide)]
      rfl
    have rate : (sync.sampleRateHz.toNat : Int) = sync.rate := rfl
    unfold extrapolate
    dsimp only
    rw [delta, rate, signed64_fits seconds, signed64_fits (remainder_fits _ rated)]
    dsimp only [bind, Except.bind]
    rw [signed64_fits whole]
    dsimp only
    rw [sum, signed64_fits label]
    rfl

theorem unsynchronized_unlabelled {timebase : MeasurementTimebase} {now : Int}
    (quality : timebase.quality now = .unsynchronized) (sampleIndex : UInt64)
    (configurationGeneration : UInt32) :
    timebase.utcForSample sampleIndex configurationGeneration = .ok none := by
  unfold MeasurementTimebase.quality at quality
  unfold utcForSample
  cases latest : timebase.latestSync with
  | none => rfl
  | some sync =>
      simp only [latest] at quality ⊢
      split at quality
      · next untrusted => exact if_pos (.inl untrusted)
      · split at quality <;> cases quality

variable {timebase : MeasurementTimebase}

theorem utcForSample_eq (recorded : timebase.latestSync = some sync)
    (trusted : sync.utcSynchronized = true) (rated : sync.sampleRateHz ≠ 0) :
    timebase.utcForSample sampleIndex sync.configurationGeneration =
      if farBehind sync sampleIndex then .ok none
      else (extrapolate sync sampleIndex).map some := by
  unfold utcForSample
  rw [recorded]
  dsimp only
  rw [if_neg (by simp [trusted, rated]), if_neg (not_not_intro rfl)]

theorem label_exact (recorded : timebase.latestSync = some sync)
    (trusted : sync.utcSynchronized = true) (rated : sync.sampleRateHz ≠ 0) :
    ExactLabel sync sampleIndex
        (timebase.utcForSample sampleIndex sync.configurationGeneration) ↔
      farBehind sync sampleIndex ∨ sync.Representable sampleIndex := by
  rw [utcForSample_eq recorded trusted rated]
  by_cases far : farBehind sync sampleIndex
  · rw [if_pos far]
    exact ⟨fun _ => .inl far, fun _ => .inl rfl⟩
  · rw [if_neg far, ← extrapolate_exact rated far]
    unfold ExactLabel
    cases extrapolate sync sampleIndex with
    | error undefined => simp [Except.map, far]
    | ok estimate => simp [Except.map, far]

theorem label_mono (rated : sync.sampleRateHz ≠ 0) {first second : UInt64}
    (order : first ≤ second) : sync.label first ≤ sync.label second := by
  have forward := UInt64.le_iff_toNat_le.mp order
  apply Int.add_le_add_left
  apply Int.tdiv_le_tdiv (rate_positive rated)
  unfold TimeSyncPoint.ahead
  omega

/-- The labels of one sync point are exact if and only if they fit; those that fit are in the order
of the samples, and nothing more than a minute behind the sync point has one. -/
theorem utc_labels_exact (recorded : timebase.latestSync = some sync)
    (trusted : sync.utcSynchronized = true) (rated : sync.sampleRateHz ≠ 0) :
    (∀ sampleIndex, ExactLabel sync sampleIndex
        (timebase.utcForSample sampleIndex sync.configurationGeneration) ↔
      farBehind sync sampleIndex ∨ sync.Representable sampleIndex) ∧
    (∀ first second earlier later, first ≤ second →
      sync.Representable first → sync.Representable second →
      timebase.utcForSample first sync.configurationGeneration = .ok (some earlier) →
      timebase.utcForSample second sync.configurationGeneration = .ok (some later) →
        earlier.utc ≤ later.utc) ∧
    ∀ sampleIndex : UInt64, sampleIndex.toNat + 60 * sync.sampleRateHz.toNat <
        sync.sampleCounter.toNat →
      timebase.utcForSample sampleIndex sync.configurationGeneration = .ok none := by
  have shown : ∀ {sampleIndex estimate}, sync.Representable sampleIndex →
      timebase.utcForSample sampleIndex sync.configurationGeneration = .ok (some estimate) →
        estimate.utc = sync.label sampleIndex := by
    intro sampleIndex estimate fits answer
    rcases (label_exact recorded trusted rated).mpr (.inr fits) with none | labelled
    · rw [none] at answer
      cases answer
    · rw [labelled] at answer
      cases answer
      rfl
  refine ⟨fun _ => label_exact recorded trusted rated, ?_, ?_⟩
  · intro first second earlier later order fits also one other
    rw [shown fits one, shown also other]
    exact label_mono rated order
  · intro sampleIndex behind
    rw [utcForSample_eq recorded trusted rated]
    apply if_pos
    by_contra near
    have bound := ahead_bounded near
    unfold TimeSyncPoint.ahead TimeSyncPoint.rate at bound
    omega

end Labels

def syncAt (sampleRateHz : UInt32) : TimeSyncPoint where
  utcNs := 1700000000000000000
  uncertaintyNs := 1000
  sampleRateHz := sampleRateHz
  configurationGeneration := 1
  utcSynchronized := true

def synchronizedAt (sampleRateHz : UInt32) : MeasurementTimebase :=
  ({} : MeasurementTimebase).recordSync (syncAt sampleRateHz) 0

theorem utc_labels_exact_second :
    (synchronizedAt 128000).utcForSample 128000 1 = .ok (some ⟨1700000001000000000, 1000⟩) ∧
      ExactLabel (syncAt 128000) 128000 ((synchronizedAt 128000).utcForSample 128000 1) := by
  refine ⟨by decide +kernel, ?_⟩
  have recorded : (synchronizedAt 128000).latestSync = some (syncAt 128000) := rfl
  have rated : (syncAt 128000).sampleRateHz ≠ 0 := by
    decide
  exact ((utc_labels_exact recorded rfl rated).1 128000).mpr
    (.inr ⟨by decide +kernel, by decide +kernel, by decide +kernel,
    by decide +kernel⟩)

/-- Far ahead of the sync point the label overflows, and half the range ahead it is one of the
past. -/
theorem far_index_mislabelled :
    (synchronizedAt 128000).utcForSample (2 ^ 50) 1 = .error .signedOverflow ∧
      (synchronizedAt 0xFFFFFFFF).utcForSample (2 ^ 63) 1 =
        .ok (some ⟨-447483648500000000, 1000⟩) ∧
      ¬ExactLabel (syncAt 0xFFFFFFFF) (2 ^ 63)
        ((synchronizedAt 0xFFFFFFFF).utcForSample (2 ^ 63) 1) := by
  decide +kernel

end Msap1.Meter
