import Msap1.Ledger.Persistence

/-! A reopened ledger cannot be told from the one that kept running, except by the stamps
of its readings: `measured_at` comes back as the commit time, and the source sequence of a
reading as the one of its family. -/

namespace Msap1.Ledger

open Meter

def undatedReading (reading : Reading) : Reading :=
  { reading with measuredAt := 0, sourceSequence := 0 }

def undatedEnergy (values : EnergyValues) : EnergyValues :=
  values.withReadings (fun index => undatedReading (values.readings index))

def undatedDemand (values : DemandValues) : DemandValues :=
  values.withReadings (fun index => undatedReading (values.readings index))

def EnergyLedger.undated (ledger : EnergyLedger) : EnergyLedger :=
  { ledger with
    latestEnergy := ledger.latestEnergy.map undatedEnergy
    latestDemand := ledger.latestDemand.map undatedDemand }

def Answer.undated : Answer → Answer
  | .energy values => .energy (undatedEnergy values)
  | .demand values => .demand (undatedDemand values)
  | other => other

section Undated

variable (values : EnergyValues) (demand : DemandValues) (ledger : EnergyLedger)

@[simp] theorem readings_undatedEnergy (index : Fin 28) :
    (undatedEnergy values).readings index = undatedReading (values.readings index) := by
  rw [undatedEnergy, EnergyValues.readings_withReadings]

@[simp] theorem readings_undatedDemand (index : Fin 12) :
    (undatedDemand demand).readings index = undatedReading (demand.readings index) := by
  rw [undatedDemand, DemandValues.readings_withReadings]

theorem undatedEnergy_congr {left right : EnergyValues}
    (bare : left.withReadings default = right.withReadings default)
    (readings : ∀ index, undatedReading (left.readings index) =
      undatedReading (right.readings index)) : undatedEnergy left = undatedEnergy right := by
  have same : (fun index => undatedReading (left.readings index)) =
      fun index => undatedReading (right.readings index) := funext readings
  unfold undatedEnergy
  rw [same]
  have merged := congrArg (fun bare : EnergyValues =>
    bare.withReadings (fun index => undatedReading (right.readings index))) bare
  rwa [EnergyValues.withReadings_withReadings, EnergyValues.withReadings_withReadings] at merged

theorem undatedDemand_congr {left right : DemandValues}
    (bare : left.withReadings default = right.withReadings default)
    (readings : ∀ index, undatedReading (left.readings index) =
      undatedReading (right.readings index)) : undatedDemand left = undatedDemand right := by
  have same : (fun index => undatedReading (left.readings index)) =
      fun index => undatedReading (right.readings index) := funext readings
  unfold undatedDemand
  rw [same]
  have merged := congrArg (fun bare : DemandValues =>
    bare.withReadings (fun index => undatedReading (right.readings index))) bare
  rwa [DemandValues.withReadings_withReadings, DemandValues.withReadings_withReadings] at merged

@[simp] theorem undatedEnergy_undatedEnergy :
    undatedEnergy (undatedEnergy values) = undatedEnergy values := by
  apply undatedEnergy_congr
  · rw [undatedEnergy, EnergyValues.withReadings_withReadings]
  · intro index
    rw [readings_undatedEnergy]
    rfl

@[simp] theorem undatedDemand_undatedDemand :
    undatedDemand (undatedDemand demand) = undatedDemand demand := by
  apply undatedDemand_congr
  · rw [undatedDemand, DemandValues.withReadings_withReadings]
  · intro index
    rw [readings_undatedDemand]
    rfl

theorem familyWindow_undatedEnergy :
    (undatedEnergy values).familyWindow = values.familyWindow := by
  rw [EnergyValues.familyWindow_eq, EnergyValues.familyWindow_eq, readings_undatedEnergy]
  rfl

theorem familyWindow_undatedDemand :
    (undatedDemand demand).familyWindow = demand.familyWindow := by
  rw [DemandValues.familyWindow_eq, DemandValues.familyWindow_eq, readings_undatedDemand]
  rfl

theorem qualities_undatedEnergy :
    encodeQualities (undatedEnergy values).readings = encodeQualities values.readings := by
  rw [encodeQualities_eq_iff]
  intro index
  rw [readings_undatedEnergy]
  rfl

theorem qualities_undatedDemand :
    encodeQualities (undatedDemand demand).readings = encodeQualities demand.readings := by
  rw [encodeQualities_eq_iff]
  intro index
  rw [readings_undatedDemand]
  rfl

theorem sameEnergyFamily_undated (session : EnergyValues) (state : EnergyState)
    (generation : UInt32) :
    sameEnergyFamily session (undatedEnergy values) state generation =
      sameEnergyFamily session values state generation := by
  unfold sameEnergyFamily
  rw [qualities_undatedEnergy, familyWindow_undatedEnergy]
  rfl

theorem sameDemandFamily_undated (session : DemandValues) (state : DemandState)
    (generation : UInt32) :
    sameDemandFamily session (undatedDemand demand) state generation =
      sameDemandFamily session demand state generation := by
  unfold sameDemandFamily
  rw [qualities_undatedDemand, familyWindow_undatedDemand]
  rfl

theorem undated_undated : ledger.undated.undated = ledger.undated := by
  simp [EnergyLedger.undated, Function.comp_def]

/-- Outcomes of two calls that agree when the stamps are taken off. -/
def undatedOutcome {Result : Type} (undatedResult : Result → Result) :
    Except Failure (Result × EnergyLedger) → Except Failure (Result × EnergyLedger) :=
  Except.map (fun (result, after) => (undatedResult result, after.undated))

theorem undatedOutcome_bind {Middle Result : Type} {undatedResult : Result → Result}
    (first : Except Failure Middle) {left right : Middle → Except Failure (Result × EnergyLedger)}
    (agree : ∀ middle, undatedOutcome undatedResult (left middle) =
      undatedOutcome undatedResult (right middle)) :
    undatedOutcome undatedResult (first >>= left) =
      undatedOutcome undatedResult (first >>= right) := by
  cases first with
  | error failure => rfl
  | ok middle => exact agree middle

theorem storeEnergy_undated (family : EnergyFamily) (totals : EnergyCounterArray × Bool)
    (stored : Except Failure Unit) :
    undatedOutcome undatedEnergy (storeEnergy ledger.undated family totals stored) =
      undatedOutcome undatedEnergy (storeEnergy ledger family totals stored) := by
  apply undatedOutcome_bind
  intro row
  apply undatedOutcome_bind
  intro done
  simp [EnergyLedger.undated, undatedOutcome, Except.map, pure, Except.pure, Function.comp_def]

theorem ingestEnergy_undated (family : EnergyFamily) (stored : Except Failure Unit) :
    undatedOutcome undatedEnergy (ingestEnergy ledger.undated family stored) =
      undatedOutcome undatedEnergy (ingestEnergy ledger family stored) := by
  have opening := undatedOutcome_bind
    (Loops.updateEach (openLane family.session.flattenEnergyCounters) (List.finRange 28)
      ledger.energyState.lifetimeCounters family.session.saturated)
    (fun totals => storeEnergy_undated ledger family totals stored)
  have continuing := undatedOutcome_bind
    (Loops.updateEach (continueLane family.session.flattenEnergyCounters
      ledger.energyState.sessionCounters) (List.finRange 28)
      ledger.energyState.lifetimeCounters family.session.saturated)
    (fun totals => storeEnergy_undated ledger family totals stored)
  unfold ingestEnergy
  have state : ledger.undated.energyState = ledger.energyState := rfl
  have latest : ledger.undated.latestEnergy = ledger.latestEnergy.map undatedEnergy := rfl
  simp only [state, latest]
  split
  · rfl
  · cases ledger.latestEnergy with
    | none => exact opening
    | some latest =>
        simp only [Option.map_some, sameEnergyFamily_undated]
        split
        · split
          · rfl
          · split
            · split
              · simp [undatedOutcome, Except.map, pure, Except.pure, undated_undated]
              · rfl
            · exact continuing
        · exact opening

theorem persistEnergy_undated (state : EnergyState) (sampleCount sampleRate : UInt32)
    (updatedNs : Int64) :
    persistEnergy (undatedEnergy values) state sampleCount sampleRate updatedNs =
      persistEnergy values state sampleCount sampleRate updatedNs := by
  unfold persistEnergy
  rw [qualities_undatedEnergy]
  rfl

theorem readings_resetEnergyValues (next : EnergyState) (index : Fin 28) :
    (resetEnergyValues values next).readings index =
      { values.readings index with value := next.lifetimeCounters index } :=
  EnergyValues.readings_assignEnergyCounters values next.lifetimeCounters index

theorem resetEnergyValues_undated (next : EnergyState) :
    undatedEnergy (resetEnergyValues (undatedEnergy values) next) =
      undatedEnergy (resetEnergyValues values next) := by
  apply undatedEnergy_congr
  · simp only [resetEnergyValues, undatedEnergy, EnergyValues.assignEnergyCounters,
      EnergyValues.withReadings]
  · intro index
    rw [readings_resetEnergyValues, readings_resetEnergyValues, readings_undatedEnergy]
    rfl

theorem familyWindow_resetEnergyValues (next : EnergyState) :
    (resetEnergyValues values next).familyWindow = values.familyWindow := by
  rw [EnergyValues.familyWindow_eq, EnergyValues.familyWindow_eq, readings_resetEnergyValues]

theorem persist_resetEnergyValues_undated (next : EnergyState) (sampleCount sampleRate : UInt32)
    (updatedNs : Int64) :
    persistEnergy (resetEnergyValues (undatedEnergy values) next) next sampleCount sampleRate
        updatedNs =
      persistEnergy (resetEnergyValues values next) next sampleCount sampleRate updatedNs := by
  rw [← persistEnergy_undated, resetEnergyValues_undated, persistEnergy_undated]

theorem storeEnergyReset_undated (request : ResetRequest) (latest : EnergyValues)
    (stored : Except Failure Unit) :
    undatedOutcome id (storeEnergyReset ledger.undated request (undatedEnergy latest) stored) =
      undatedOutcome id (storeEnergyReset ledger request latest stored) := by
  have database : ledger.undated.database = ledger.database := rfl
  have state : ledger.undated.energyState = ledger.energyState := rfl
  unfold storeEnergyReset
  simp only [database, state, familyWindow_resetEnergyValues, familyWindow_undatedEnergy,
    persist_resetEnergyValues_undated]
  apply undatedOutcome_bind
  intro row
  apply undatedOutcome_bind
  intro audit
  apply undatedOutcome_bind
  intro done
  simp [EnergyLedger.undated, undatedOutcome, Except.map, pure, Except.pure, Function.comp_def,
    resetEnergyValues_undated]

theorem resetEnergy_undated (request : ResetRequest) (stored : Except Failure Unit) :
    undatedOutcome id (resetEnergy ledger.undated request stored) =
      undatedOutcome id (resetEnergy ledger request stored) := by
  unfold resetEnergy
  apply undatedOutcome_bind
  intro valid
  have database : ledger.undated.database = ledger.database := rfl
  have state : ledger.undated.energyState = ledger.energyState := rfl
  have latest : ledger.undated.latestEnergy = ledger.latestEnergy.map undatedEnergy := rfl
  simp only [database, state, latest]
  split
  · simp [undatedOutcome, Except.map, pure, Except.pure, undated_undated]
  · cases ledger.latestEnergy with
    | none => rfl
    | some latest =>
        simp only [Option.map_some]
        split
        · rfl
        · exact storeEnergyReset_undated ledger request latest stored

theorem recordHistory_undated (result : DemandValues) (next : DemandState) (capturedNs : Int64)
    (database : Database) :
    recordHistory ledger.undated result next capturedNs database =
      recordHistory ledger result next capturedNs database := by
  have snapshot : recordEnergyHistory ledger.undated = recordEnergyHistory ledger := by
    funext target stamp rows
    unfold recordEnergyHistory
    have state : ledger.undated.energyState = ledger.energyState := rfl
    have latest : ledger.undated.latestEnergy = ledger.latestEnergy.map undatedEnergy := rfl
    simp only [state, latest]
    cases ledger.latestEnergy with
    | none => rfl
    | some latest =>
        simp only [Option.map_some, qualities_undatedEnergy]
        rfl
  unfold recordHistory
  rw [snapshot]

theorem storeDemand_undated (family : DemandFamily) (start : DemandState)
    (stored : Except Failure Unit) :
    undatedOutcome undatedDemand (storeDemand ledger.undated family start stored) =
      undatedOutcome undatedDemand (storeDemand ledger family start stored) := by
  have database : ledger.undated.database = ledger.database := rfl
  unfold storeDemand
  simp only [database, recordHistory_undated]
  apply undatedOutcome_bind
  intro row
  apply undatedOutcome_bind
  intro database
  apply undatedOutcome_bind
  intro done
  simp [EnergyLedger.undated, undatedOutcome, Except.map, pure, Except.pure, Function.comp_def]

theorem sameProfileInstance_undated (session : DemandValues) :
    sameProfileInstance ledger.undated session = sameProfileInstance ledger session := by
  simp [sameProfileInstance, sameSession, sameSemantics, EnergyLedger.undated]

theorem demandEpochState_undated (session : DemandValues) :
    demandEpochState ledger.undated session = demandEpochState ledger session := by
  have changed : profileChanged ledger.undated session = profileChanged ledger session := by
    simp [profileChanged, sameSession, sameSemantics, EnergyLedger.undated]
  unfold demandEpochState
  rw [changed, sameProfileInstance_undated]
  rfl

theorem ingestDemand_undated (family : DemandFamily) (stored : Except Failure Unit) :
    undatedOutcome undatedDemand (ingestDemand ledger.undated family stored) =
      undatedOutcome undatedDemand (ingestDemand ledger family stored) := by
  have starting := undatedOutcome_bind (demandEpochState ledger family.session)
    (fun start => storeDemand_undated ledger family start stored)
  have state : ledger.undated.demandState = ledger.demandState := rfl
  have latest : ledger.undated.latestDemand = ledger.latestDemand.map undatedDemand := rfl
  unfold ingestDemand
  simp only [state, latest, sameProfileInstance_undated, demandEpochState_undated]
  split
  · rfl
  · split
    · rfl
    · cases ledger.latestDemand with
      | none => exact starting
      | some latest =>
          simp only [Option.map_some, sameDemandFamily_undated]
          split
          · rfl
          · split
            · split
              · simp [undatedOutcome, Except.map, pure, Except.pure, undated_undated]
              · rfl
            · exact starting

theorem persistDemand_undated (state : DemandState) (sampleCount sampleRate : UInt32)
    (updatedNs : Int64) :
    persistDemand (undatedDemand demand) state sampleCount sampleRate updatedNs =
      persistDemand demand state sampleCount sampleRate updatedNs := by
  unfold persistDemand
  rw [qualities_undatedDemand]
  rfl

/-- The reported peaks replace values of the import and export groups only. -/
def peakValue (next : DemandState) (index : Fin 12) (value : Int64) : Int64 :=
  if index.val < 4 then value
  else if index.val < 8 then next.authoritativeImport ⟨index.val % 4, demandLane_lt index⟩
  else next.authoritativeExport ⟨index.val % 4, demandLane_lt index⟩

theorem readings_assignPeaks (next : DemandState) (index : Fin 12) :
    (assignPeaks demand next).readings index =
      { demand.readings index with
        value := peakValue next index (demand.readings index).value } := by
  fin_cases index <;> rfl

theorem assignPeaks_undated (next : DemandState) :
    undatedDemand (assignPeaks (undatedDemand demand) next) =
      undatedDemand (assignPeaks demand next) := by
  apply undatedDemand_congr
  · simp only [assignPeaks, undatedDemand, DemandValues.withReadings]
  · intro index
    rw [readings_assignPeaks, readings_assignPeaks, readings_undatedDemand]
    rfl

theorem familyWindow_assignPeaks (next : DemandState) :
    (assignPeaks demand next).familyWindow = demand.familyWindow := rfl

theorem persist_assignPeaks_undated (next : DemandState) (sampleCount sampleRate : UInt32)
    (updatedNs : Int64) :
    persistDemand (assignPeaks (undatedDemand demand) next) next sampleCount sampleRate
        updatedNs =
      persistDemand (assignPeaks demand next) next sampleCount sampleRate updatedNs := by
  rw [← persistDemand_undated, assignPeaks_undated, persistDemand_undated]

theorem storeDemandReset_undated (request : ResetRequest) (latest : DemandValues)
    (stored : Except Failure Unit) :
    undatedOutcome id (storeDemandReset ledger.undated request (undatedDemand latest) stored) =
      undatedOutcome id (storeDemandReset ledger request latest stored) := by
  have database : ledger.undated.database = ledger.database := rfl
  have state : ledger.undated.demandState = ledger.demandState := rfl
  unfold storeDemandReset
  simp only [database, state, familyWindow_assignPeaks, familyWindow_undatedDemand,
    persist_assignPeaks_undated]
  apply undatedOutcome_bind
  intro row
  apply undatedOutcome_bind
  intro audit
  apply undatedOutcome_bind
  intro done
  simp [EnergyLedger.undated, undatedOutcome, Except.map, pure, Except.pure, Function.comp_def,
    assignPeaks_undated]

theorem resetDemandPeaks_undated (request : ResetRequest) (stored : Except Failure Unit) :
    undatedOutcome id (resetDemandPeaks ledger.undated request stored) =
      undatedOutcome id (resetDemandPeaks ledger request stored) := by
  unfold resetDemandPeaks
  apply undatedOutcome_bind
  intro valid
  have database : ledger.undated.database = ledger.database := rfl
  have state : ledger.undated.demandState = ledger.demandState := rfl
  have latest : ledger.undated.latestDemand = ledger.latestDemand.map undatedDemand := rfl
  simp only [database, state, latest]
  split
  · simp [undatedOutcome, Except.map, pure, Except.pure, undated_undated]
  · cases ledger.latestDemand with
    | none => rfl
    | some latest =>
        simp only [Option.map_some]
        split
        · rfl
        · exact storeDemandReset_undated ledger request latest stored

end Undated

theorem settle_undated {Result : Type} {left right : EnergyLedger} {answer : Result → Answer}
    (undatedResult : Result → Result)
    {leftOutcome rightOutcome : Except Failure (Result × EnergyLedger)}
    (shown : ∀ result, (answer result).undated = answer (undatedResult result))
    (states : left.undated = right.undated)
    (outcomes : undatedOutcome undatedResult leftOutcome =
      undatedOutcome undatedResult rightOutcome) :
    (settle left answer leftOutcome).1.undated = (settle right answer rightOutcome).1.undated ∧
      (settle left answer leftOutcome).2.undated =
        (settle right answer rightOutcome).2.undated := by
  cases leftOutcome with
  | error failure =>
      cases rightOutcome with
      | error other =>
          cases outcomes
          exact ⟨states, rfl⟩
      | ok result => cases outcomes
  | ok result =>
      cases rightOutcome with
      | error other => cases outcomes
      | ok other =>
          obtain ⟨sameResult, sameLedger⟩ := Prod.mk.inj (Except.ok.inj outcomes)
          refine ⟨sameLedger, ?_⟩
          simp only [settle, shown, sameResult]

theorem step_undated (left right : EnergyLedger) (call : Call)
    (states : left.undated = right.undated) :
    (machine.next left call).undated = (machine.next right call).undated ∧
      (machine.answer left call).undated = (machine.answer right call).undated := by
  unfold Machine.next Machine.answer
  cases call with
  | ingestEnergy family stored =>
      refine settle_undated undatedEnergy (fun _ => rfl) states ?_
      rw [← ingestEnergy_undated left, states, ingestEnergy_undated right]
  | ingestDemand family stored =>
      refine settle_undated undatedDemand (fun _ => rfl) states ?_
      rw [← ingestDemand_undated left, states, ingestDemand_undated right]
  | resetEnergy request stored =>
      refine settle_undated id (fun _ => rfl) states ?_
      rw [← resetEnergy_undated left, states, resetEnergy_undated right]
  | resetDemandPeaks request stored =>
      refine settle_undated id (fun _ => rfl) states ?_
      rw [← resetDemandPeaks_undated left, states, resetDemandPeaks_undated right]
  | restart =>
      have database : left.undated.database = right.undated.database := by rw [states]
      change left.database = right.database at database
      simp only [machine, database]
      exact ⟨trivial, trivial⟩

end Msap1.Ledger
