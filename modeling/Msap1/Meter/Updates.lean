import Mathlib.Data.Nat.Bitwise
import Msap1.Loops
import Msap1.Meter.MeasurementTimebase
import Msap1.Meter.Records
import Msap1.Sqlite

/-! The updates that `meter_data.cpp` decodes from the records of the PL, with the checks and flag
words its decoders share. -/

namespace Msap1.Meter

inductive RecordKind where
  | fundamental
  | power
  | energy
  | demand
  | powerQuality
  | phasor
  | unbalance
  | harmonic
  | powerQualityEvent
  | flicker
  | mainsSignal
  | frequency10s
  deriving DecidableEq, Repr

inductive NominalFrequency where
  | hz50
  | hz60
  deriving DecidableEq, Repr

inductive Phase where
  | a
  | b
  | c
  deriving DecidableEq, Repr

abbrev PhaseABC (α : Type) := Phase → α

structure PhaseABCN (α : Type) where
  phases : PhaseABC α
  neutral : α

inductive LoadNature where
  | undefined
  | unity
  | lagging
  | leading
  deriving DecidableEq, Repr

structure FundamentalValues where
  frequency : Reading := {}
  voltageLn : PhaseABC Reading := fun _ => {}
  current : PhaseABCN Reading := ⟨fun _ => {}, {}⟩
  voltageLl : PhaseABC Reading := fun _ => {}

structure PowerValues where
  activePower : PhaseABC Reading
  apparentPower : PhaseABC Reading
  powerFactor : PhaseABC Reading
  totalActivePower : Reading
  totalApparentPower : Reading
  totalPowerFactor : Reading
  voltageCrest : PhaseABC Reading
  currentCrest : PhaseABCN Reading

structure PhasorValues where
  fundamentalVoltage : PhaseABC Reading
  fundamentalCurrent : PhaseABCN Reading
  fundamentalVoltageLl : PhaseABC Reading
  voltageAngle : PhaseABC Reading
  currentAngle : PhaseABCN Reading
  voltageLlAngle : PhaseABC Reading
  displacementAngle : PhaseABC Reading
  reactivePower : PhaseABC Reading
  totalReactivePower : Reading
  fundamentalActivePower : PhaseABC Reading
  totalFundamentalActivePower : Reading
  displacementPowerFactor : PhaseABC Reading
  totalDisplacementPowerFactor : Reading
  loadNature : PhaseABC LoadNature
  totalLoadNature : LoadNature
  angleReferenceValid : Bool
  phasorInvalid : Bool

inductive Sequence where
  | zero
  | positive
  | negative
  deriving DecidableEq, Repr

structure UnbalanceValues where
  voltageSequence : Sequence → Reading
  voltageAngle : Sequence → Reading
  currentSequence : Sequence → Reading
  currentAngle : Sequence → Reading
  voltageZeroRatio : Reading
  voltageUnbalance : Reading
  currentZeroRatio : Reading
  currentUnbalance : Reading
  angleReferenceValid : Bool
  phasorInvalid : Bool

structure BlockTiming where
  sequence : UInt64 := 0
  configurationGeneration : UInt32 := 0
  firstSampleIndex : UInt64 := 0
  sampleCount : UInt32 := 0
  sampleRateHz : UInt32 := 0
  cycleCount : UInt16 := 0
  nominalFrequency : NominalFrequency := .hz60
  cycleLocked : Bool := false
  freeRunFallback : Bool := false
  firstBlockAfterApply : Bool := false
  utcResynchronized : Bool := false
  timeQuality : TimeQuality := .unsynchronized
  utcStart : Option Int64 := none
  utcUncertaintyNs : Option UInt64 := none
  deriving DecidableEq

structure AggregateTiming where
  sequence : UInt64 := 0
  configurationGeneration : UInt32 := 0
  firstSampleIndex : UInt64 := 0
  lastSampleIndex : UInt64 := 0
  sampleCount : UInt32 := 0
  sampleRateHz : UInt32 := 0
  firstBasicSequence : UInt32 := 0
  lastBasicSequence : UInt32 := 0
  basicBlockCount : UInt16 := 0
  cycleCount : UInt32 := 0
  nominalFrequency : NominalFrequency := .hz60
  arithmeticError : Bool := false
  frequencyValid : Bool := false
  utcOverlap : Bool := false
  utcResynchronized : Bool := false
  timeAligned : Bool := false
  contaminated : Bool := false
  boundaryValid : Bool := false
  targetSampleIndex : Option UInt64 := none
  overshootSamples : Option UInt32 := none
  timeQuality : TimeQuality := .unsynchronized
  utcStart : Option Int64 := none
  utcUncertaintyNs : Option UInt64 := none
  deriving DecidableEq

structure Frequency10sMetadata where
  intervalEndSampleIndex : UInt64
  utcStartNanoseconds : UInt64
  utcEndNanoseconds : UInt64
  utcUncertaintyNanoseconds : UInt64
  measuredSampleRateMillihz : UInt32
  sourceSequence : UInt32
  boundaryGeneration : UInt32
  sourceStatus : UInt32
  status : UInt32
  reasons : UInt32
  observerDropCount : UInt32
  guardFlags : UInt8
  observedCrossings : UInt32
  includedCrossings : UInt32
  rejectedCycles : UInt32
  durationQ16Samples : UInt64
  firstCrossingQ16Samples : Int64
  lastCrossingQ16Samples : Int64
  nominalFrequencyHz : UInt8
  referenceChannel : UInt8
  filterProfile : UInt8
  calibrationProfile : UInt8
  deriving DecidableEq

/-- The update of a record, with the values its decoder fills. -/
structure MeterUpdate where
  period : MeasurementPeriod := .basic
  kind : RecordKind := .fundamental
  sequence : UInt64 := 0
  configurationGeneration : UInt32 := 0
  fundamental : Option FundamentalValues := none
  power : Option PowerValues := none
  phasor : Option PhasorValues := none
  unbalance : Option UnbalanceValues := none
  frequency10s : Option Frequency10sMetadata := none
  timing : Option BlockTiming := none
  aggregateTiming : Option AggregateTiming := none

/-- `if (bad) throw std::invalid_argument(text)`. -/
def reject (bad : Prop) [Decidable bad] (text : String) : Except Failure Unit :=
  if bad then .error (.invalidArgument text) else .ok ()

theorem not_rejected {bad : Prop} [Decidable bad] {text : String}
    (passed : reject bad text = .ok ()) : ¬bad := by
  intro holds
  rw [reject, if_pos holds] at passed
  cases passed

theorem reject_ok {Value : Type} {bad : Prop} [Decidable bad] {text : String}
    {rest : Unit → Except Failure Value} {result : Value}
    (returned : (reject bad text >>= rest) = .ok result) :
    ¬bad ∧ rest () = .ok result := by
  obtain ⟨_, passed, continued⟩ := Loops.bind_ok returned
  exact ⟨not_rejected passed, continued⟩

def MeterRecord.ofWords (words : List (Fin 64 × UInt32)) : MeterRecord :=
  ⟨fun index => (words.lookup index).getD 0⟩

def MeterRecord.signed64 (record : MeterRecord) (low : Fin 64) : Int64 :=
  (record.unsigned64 low).toInt64

/-- `sample_window`: the duration that the samples of a record cover at its rate. -/
def sampleWindow (sampleCount sampleRateHz : UInt32) : SampleWindow where
  sampleCount := sampleCount
  duration :=
    if sampleRateHz = 0 then 0
    else sampleCount.toUInt64.toInt64 * 1000000000 / sampleRateHz.toUInt64.toInt64

def carries (word flag : UInt32) : Bool := word &&& flag != 0

def raised (flags : List (Bool × UInt32)) : UInt32 :=
  flags.foldl (fun word flag => if flag.1 then word ||| flag.2 else word) 0

theorem and_or_distrib (word left right : UInt32) :
    word &&& (left ||| right) = word &&& left ||| word &&& right := by
  rw [← UInt32.toNat_inj]
  simp only [UInt32.toNat_and, UInt32.toNat_or]
  exact Nat.and_or_distrib_left _ _ _

theorem carried_bit {word flag : UInt32} {place : Nat} (single : flag.toNat = 2 ^ place)
    (carried : carries word flag = true) : word &&& flag = flag := by
  have some := bne_iff_ne.mp carried
  rw [ne_eq, ← UInt32.toNat_inj, UInt32.toNat_and, single, Nat.and_two_pow] at some
  rw [← UInt32.toNat_inj, UInt32.toNat_and, single, Nat.and_two_pow]
  cases set : word.toNat.testBit place with
  | false =>
      rw [set] at some
      exact absurd (Nat.zero_mul _) some
  | true => exact Nat.one_mul _

theorem raised_within {word : UInt32} {flags : List (Bool × UInt32)}
    (within : ∀ flag ∈ flags, flag.1 = true → word &&& flag.2 = flag.2) :
    word &&& raised flags = raised flags := by
  have grown : ∀ (flags : List (Bool × UInt32)) (before : UInt32),
      (∀ flag ∈ flags, flag.1 = true → word &&& flag.2 = flag.2) → word &&& before = before →
        word &&& flags.foldl (fun word flag => if flag.1 then word ||| flag.2 else word) before =
          flags.foldl (fun word flag => if flag.1 then word ||| flag.2 else word) before := by
    intro flags
    induction flags with
    | nil => exact fun before _ inside => inside
    | cons head rest ih =>
        intro before within inside
        rw [List.foldl_cons]
        apply ih _ fun flag member => within flag (List.mem_cons_of_mem _ member)
        split
        · next set =>
            rw [and_or_distrib, inside, within head List.mem_cons_self set]
        · exact inside
  exact grown flags 0 within (UInt32.and_zero)

theorem raised_zero {flags : List (Bool × UInt32)} (none : raised flags = 0) :
    ∀ flag ∈ flags, flag.2 ≠ 0 → flag.1 = false := by
  have grown : ∀ (flags : List (Bool × UInt32)) (word : UInt32),
      flags.foldl (fun word flag => if flag.1 then word ||| flag.2 else word) word = 0 →
        word = 0 ∧ ∀ flag ∈ flags, flag.2 ≠ 0 → flag.1 = false := by
    intro flags
    induction flags with
    | nil => exact fun word zero => ⟨zero, fun _ member => nomatch member⟩
    | cons head rest ih =>
        intro word zero
        rw [List.foldl_cons] at zero
        obtain ⟨before, later⟩ := ih _ zero
        by_cases set : head.1
        · rw [if_pos set, UInt32.or_eq_zero_iff] at before
          refine ⟨before.1, ?_⟩
          intro flag member bit
          rcases List.mem_cons.mp member with rfl | inside
          · exact absurd before.2 bit
          · exact later flag inside bit
        · rw [if_neg set] at before
          refine ⟨before, ?_⟩
          intro flag member bit
          rcases List.mem_cons.mp member with rfl | inside
          · exact Bool.not_eq_true _ ▸ set
          · exact later flag inside bit
  exact (grown flags 0 none).2

end Msap1.Meter
