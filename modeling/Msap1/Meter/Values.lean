import Mathlib.Data.Fin.VecNotation
import Mathlib.Tactic

/-! The typed meter values of `meter_data.hpp` that the energy ledger stores, with the
flattening used by `energy_demand.cpp`. -/

namespace Msap1.Meter

/-! The sizes of the arrays that literals index, under names that every module shares. -/

scoped instance four_neZero : NeZero 4 := ⟨by decide⟩
scoped instance eight_neZero : NeZero 8 := ⟨by decide⟩
scoped instance fortyTwo_neZero : NeZero 42 := ⟨by decide⟩
scoped instance sixtyFour_neZero : NeZero 64 := ⟨by decide⟩

theorem demandGroup_lt (index : Fin 12) : index.val / 4 < 3 := by omega

theorem demandLane_lt (index : Fin 12) : index.val % 4 < 4 := by omega

inductive MeasurementPeriod where
  | basic
  | cycles150And180
  | min10
  | hour2
  | min10Live
  | hour2Live
  | demand
  | seconds10
  deriving DecidableEq, Repr

inductive MeasurementQuality where
  | unavailable
  | valid
  | invalid
  | outOfRange
  | timedOut
  | arithmeticError
  deriving DecidableEq, Repr, Inhabited

structure SampleWindow where
  sampleCount : UInt32 := 0
  duration : Int64 := 0
  deriving DecidableEq, Repr, Inhabited

structure Reading where
  value : Int64 := 0
  quality : MeasurementQuality := .unavailable
  sourceSequence : UInt64 := 0
  measuredAt : Int64 := 0
  calculationWindow : SampleWindow := {}
  deriving DecidableEq, Repr, Inhabited

structure PhaseABCTotal (α : Type) where
  phaseA : α
  phaseB : α
  phaseC : α
  total : α
  deriving DecidableEq, Repr, Inhabited

namespace PhaseABCTotal

variable {α β : Type}

def lane (group : PhaseABCTotal α) : Fin 4 → α :=
  ![group.phaseA, group.phaseB, group.phaseC, group.total]

def ofLanes (lanes : Fin 4 → α) : PhaseABCTotal α :=
  ⟨lanes 0, lanes 1, lanes 2, lanes 3⟩

@[simp] theorem lane_ofLanes (lanes : Fin 4 → α) : (ofLanes lanes).lane = lanes := by
  funext index
  fin_cases index <;> rfl

end PhaseABCTotal

abbrev EnergyCounterArray := Fin 28 → Int64
abbrev DemandValueArray := Fin 4 → Int64

structure EnergyValues where
  activeImport : PhaseABCTotal Reading
  activeExport : PhaseABCTotal Reading
  apparent : PhaseABCTotal Reading
  reactiveQuadrants : Fin 4 → PhaseABCTotal Reading
  sessionId : UInt64 := 0
  lastSampleIndex : UInt64 := 0
  acceptedSamples : UInt64 := 0
  skippedSamples : UInt64 := 0
  acceptedBlocks : UInt32 := 0
  skippedBlocks : UInt32 := 0
  resetEpoch : UInt64 := 0
  saturated : Bool := false
  incompleteInput : Bool := false
  discontinuity : Bool := false
  deriving Inhabited

namespace EnergyValues

/-- The readings in the order of `for_each_energy_reading`, which is also the order of
`flatten_energy_counters`. -/
def readings (values : EnergyValues) : Fin 28 → Reading := fun index =>
  (![values.activeImport, values.activeExport, values.apparent, values.reactiveQuadrants 0,
    values.reactiveQuadrants 1, values.reactiveQuadrants 2, values.reactiveQuadrants 3]
      ⟨index / 4, by omega⟩).lane ⟨index % 4, by omega⟩

def withReadings (values : EnergyValues) (readings : Fin 28 → Reading) : EnergyValues :=
  { values with
    activeImport := ⟨readings 0, readings 1, readings 2, readings 3⟩
    activeExport := ⟨readings 4, readings 5, readings 6, readings 7⟩
    apparent := ⟨readings 8, readings 9, readings 10, readings 11⟩
    reactiveQuadrants := ![⟨readings 12, readings 13, readings 14, readings 15⟩,
      ⟨readings 16, readings 17, readings 18, readings 19⟩,
      ⟨readings 20, readings 21, readings 22, readings 23⟩,
      ⟨readings 24, readings 25, readings 26, readings 27⟩] }

@[simp] theorem readings_withReadings (values : EnergyValues) (readings : Fin 28 → Reading) :
    (values.withReadings readings).readings = readings := by
  funext index
  fin_cases index <;> rfl

@[simp] theorem withReadings_withReadings (values : EnergyValues)
    (first second : Fin 28 → Reading) :
    (values.withReadings first).withReadings second = values.withReadings second := rfl

def flattenEnergyCounters (values : EnergyValues) : EnergyCounterArray :=
  fun index => (values.readings index).value

def assignEnergyCounters (values : EnergyValues) (counters : EnergyCounterArray) :
    EnergyValues :=
  values.withReadings (fun index => { values.readings index with value := counters index })

@[simp] theorem readings_assignEnergyCounters (values : EnergyValues)
    (counters : EnergyCounterArray) (index : Fin 28) :
    (values.assignEnergyCounters counters).readings index =
      { values.readings index with value := counters index } := by
  rw [assignEnergyCounters, readings_withReadings]

@[simp] theorem flatten_assignEnergyCounters (values : EnergyValues)
    (counters : EnergyCounterArray) :
    (values.assignEnergyCounters counters).flattenEnergyCounters = counters := by
  funext index
  simp [flattenEnergyCounters]

/-- The window that the ledger compares and stores for the whole family. -/
def familyWindow (values : EnergyValues) : SampleWindow :=
  values.activeImport.phaseA.calculationWindow

theorem familyWindow_eq (values : EnergyValues) :
    values.familyWindow = (values.readings 0).calculationWindow := rfl

end EnergyValues

inductive DemandMethod where
  | fixedBlock
  | sliding
  deriving DecidableEq, Repr, Inhabited

structure DemandValues where
  currentActive : PhaseABCTotal Reading
  importPeak : PhaseABCTotal Reading
  exportPeak : PhaseABCTotal Reading
  importPeakSample : PhaseABCTotal UInt64
  exportPeakSample : PhaseABCTotal UInt64
  sessionId : UInt64 := 0
  lastSampleIndex : UInt64 := 0
  intervalAnchorSample : UInt64 := 0
  sourceIntervalCount : UInt32 := 0
  sourceStatus : UInt32 := 0
  windowSeconds : UInt32 := 0
  updateSeconds : UInt32 := 0
  profileGeneration : UInt32 := 0
  peakResetEpoch : UInt64 := 0
  method : DemandMethod := .sliding
  timeAligned : Bool := false
  contaminated : Bool := false
  boundaryValid : Bool := false
  saturated : Bool := false
  incompleteInput : Bool := false
  deriving Inhabited

def flattenDemandValues (group : PhaseABCTotal Reading) : DemandValueArray :=
  fun index => (group.lane index).value

def assignDemandValues (group : PhaseABCTotal Reading) (source : DemandValueArray) :
    PhaseABCTotal Reading :=
  .ofLanes (fun index => { group.lane index with value := source index })

@[simp] theorem flatten_assignDemandValues (group : PhaseABCTotal Reading)
    (source : DemandValueArray) :
    flattenDemandValues (assignDemandValues group source) = source := by
  funext index
  simp [flattenDemandValues, assignDemandValues]

@[simp] theorem lane_assignDemandValues (group : PhaseABCTotal Reading)
    (source : DemandValueArray) (index : Fin 4) :
    (assignDemandValues group source).lane index =
      { group.lane index with value := source index } := by
  rw [assignDemandValues, PhaseABCTotal.lane_ofLanes]

namespace DemandValues

/-- The readings in the order of `for_each_demand_reading`. -/
def readings (values : DemandValues) : Fin 12 → Reading := fun index =>
  (![values.currentActive, values.importPeak, values.exportPeak]
    ⟨index / 4, by omega⟩).lane ⟨index % 4, by omega⟩

def withReadings (values : DemandValues) (readings : Fin 12 → Reading) : DemandValues :=
  { values with
    currentActive := ⟨readings 0, readings 1, readings 2, readings 3⟩
    importPeak := ⟨readings 4, readings 5, readings 6, readings 7⟩
    exportPeak := ⟨readings 8, readings 9, readings 10, readings 11⟩ }

@[simp] theorem readings_withReadings (values : DemandValues) (readings : Fin 12 → Reading) :
    (values.withReadings readings).readings = readings := by
  funext index
  fin_cases index <;> rfl

@[simp] theorem withReadings_withReadings (values : DemandValues)
    (first second : Fin 12 → Reading) :
    (values.withReadings first).withReadings second = values.withReadings second := rfl

def familyWindow (values : DemandValues) : SampleWindow :=
  values.currentActive.phaseA.calculationWindow

theorem familyWindow_eq (values : DemandValues) :
    values.familyWindow = (values.readings 0).calculationWindow := rfl

end DemandValues

end Msap1.Meter
