import Msap1.Ledger.Outcomes

/-! The database always holds the checkpoints that are in memory. -/

namespace Msap1.Ledger

open Meter

/-- An energy checkpoint and the row that `persist_energy` wrote for it. -/
structure EnergyCheckpoint (row : EnergyRow) (values : EnergyValues) (state : EnergyState) :
    Prop where
  written : ∃ sampleCount sampleRate updatedNs,
    persistEnergy values state sampleCount sampleRate updatedNs = .ok row
  counters : values.flattenEnergyCounters = state.lifetimeCounters
  sessionId : values.sessionId = state.sessionId
  resetEpoch : values.resetEpoch = state.epoch

inductive EnergyStored : Option EnergyRow → Option EnergyValues → EnergyState → Prop where
  | empty : EnergyStored none none {}
  | checkpoint {row : EnergyRow} {values : EnergyValues} {state : EnergyState}
      (stored : EnergyCheckpoint row values state) : EnergyStored (some row) (some values) state

structure DemandCheckpoint (row : DemandRow) (values : DemandValues) (state : DemandState) :
    Prop where
  written : ∃ sampleCount sampleRate updatedNs,
    persistDemand values state sampleCount sampleRate updatedNs = .ok row
  current : flattenDemandValues values.currentActive = state.current
  importPeak : flattenDemandValues values.importPeak = state.authoritativeImport
  exportPeak : flattenDemandValues values.exportPeak = state.authoritativeExport
  importAnchors : values.importPeakSample = .ofLanes state.importAnchors
  exportAnchors : values.exportPeakSample = .ofLanes state.exportAnchors
  sessionId : values.sessionId = state.sessionId
  peakResetEpoch : values.peakResetEpoch = state.epoch
  method : values.method = state.method
  windowSeconds : values.windowSeconds = state.windowSeconds
  updateSeconds : values.updateSeconds = state.updateSeconds
  profileGeneration : values.profileGeneration = state.profileGeneration

inductive DemandStored : Option DemandRow → Option DemandValues → DemandState → Prop where
  | empty : DemandStored none none {}
  | checkpoint {row : DemandRow} {values : DemandValues} {state : DemandState}
      (stored : DemandCheckpoint row values state) : DemandStored (some row) (some values) state

structure Persisted (ledger : EnergyLedger) : Prop where
  energy : EnergyStored ledger.database.energyState ledger.latestEnergy ledger.energyState
  demand : DemandStored ledger.database.demandState ledger.latestDemand ledger.demandState

theorem persisted_empty : Persisted {} := ⟨.empty, .empty⟩

theorem energyStored_some {row : Option EnergyRow} {latest : EnergyValues} {state : EnergyState}
    (stored : EnergyStored row (some latest) state) :
    ∃ written, row = some written ∧ EnergyCheckpoint written latest state := by
  cases stored with
  | checkpoint stored => exact ⟨_, rfl, stored⟩

theorem demandStored_some {row : Option DemandRow} {latest : DemandValues} {state : DemandState}
    (stored : DemandStored row (some latest) state) :
    ∃ written, row = some written ∧ DemandCheckpoint written latest state := by
  cases stored with
  | checkpoint stored => exact ⟨_, rfl, stored⟩

theorem persistEnergy_restored (values : EnergyValues) (state : EnergyState)
    (window : SampleWindow) (measuredAt : Int64) (sampleCount sampleRate : UInt32)
    (updatedNs : Int64) :
    persistEnergy (restoredEnergy values state window measuredAt) state sampleCount sampleRate
        updatedNs = persistEnergy values state sampleCount sampleRate updatedNs := by
  have qualities : encodeQualities (restoredEnergy values state window measuredAt).readings =
      encodeQualities values.readings := by
    rw [encodeQualities_eq_iff]
    intro index
    rw [restoredEnergy, EnergyValues.readings_withReadings]
  unfold persistEnergy
  rw [qualities]
  rfl

theorem persistDemand_restored {values : DemandValues} {state : DemandState}
    (method : values.method = state.method)
    (windowSeconds : values.windowSeconds = state.windowSeconds)
    (updateSeconds : values.updateSeconds = state.updateSeconds)
    (profile : values.profileGeneration = state.profileGeneration)
    (window : SampleWindow) (measuredAt : Int64) (sampleCount sampleRate : UInt32)
    (updatedNs : Int64) :
    persistDemand (restoredDemand values state window measuredAt) state sampleCount sampleRate
        updatedNs = persistDemand values state sampleCount sampleRate updatedNs := by
  have qualities : encodeQualities (restoredDemand values state window measuredAt).readings =
      encodeQualities values.readings := by
    rw [encodeQualities_eq_iff]
    intro index
    rw [restoredDemand, DemandValues.readings_withReadings]
  unfold persistDemand
  rw [qualities, method, windowSeconds, updateSeconds, profile]
  rfl

theorem energyStored_load {row : Option EnergyRow} {latest : Option EnergyValues}
    {state : EnergyState} (stored : EnergyStored row latest state) :
    ∃ loaded, row.mapM loadEnergy = .ok loaded ∧ (loaded.map Prod.fst).getD {} = state ∧
      EnergyStored row (loaded.map Prod.snd) state ∧
      (loaded.map Prod.snd).isSome = latest.isSome := by
  cases stored with
  | empty => exact ⟨none, rfl, rfl, .empty, rfl⟩
  | @checkpoint row values state stored =>
      obtain ⟨sampleCount, sampleRate, updatedNs, written⟩ := stored.written
      refine ⟨some (state, restoredEnergy values state
        (storedWindow (integer32 sampleCount) (integer32 sampleRate)) updatedNs), ?_, rfl, ?_, rfl⟩
      · simp only [Option.mapM_some, loadEnergy_persistEnergy written]
        rfl
      · refine .checkpoint ⟨⟨sampleCount, sampleRate, updatedNs, ?_⟩, ?_, rfl, rfl⟩
        · rw [persistEnergy_restored]
          exact written
        · funext index
          rw [EnergyValues.flattenEnergyCounters, restoredEnergy,
            EnergyValues.readings_withReadings]

theorem demandStored_load {row : Option DemandRow} {latest : Option DemandValues}
    {state : DemandState} (stored : DemandStored row latest state) :
    ∃ loaded, row.mapM loadDemand = .ok loaded ∧ (loaded.map Prod.fst).getD {} = state ∧
      DemandStored row (loaded.map Prod.snd) state ∧
      (loaded.map Prod.snd).isSome = latest.isSome := by
  cases stored with
  | empty => exact ⟨none, rfl, rfl, .empty, rfl⟩
  | @checkpoint row values state stored =>
      obtain ⟨sampleCount, sampleRate, updatedNs, written⟩ := stored.written
      have loaded := loadDemand_persistDemand stored.method stored.windowSeconds
        stored.updateSeconds stored.profileGeneration written
      refine ⟨some (state, restoredDemand values state
        (storedWindow (integer32 sampleCount) (integer32 sampleRate)) updatedNs), ?_, rfl, ?_, rfl⟩
      · simp only [Option.mapM_some, loaded]
        rfl
      · refine .checkpoint ⟨⟨sampleCount, sampleRate, updatedNs, ?_⟩, ?_, ?_, ?_, rfl, rfl, rfl,
          rfl, rfl, rfl, rfl, rfl⟩
        · rw [persistDemand_restored stored.method stored.windowSeconds stored.updateSeconds
            stored.profileGeneration]
          exact written
        all_goals
          funext index
          fin_cases index <;> rfl

/-- Reopening a database that holds the checkpoints gives a ledger with the same checkpoints. -/
theorem reopen_persisted {ledger : EnergyLedger} (persisted : Persisted ledger) :
    ∃ reopened, reopen ledger.database = .ok reopened ∧ Persisted reopened ∧
      reopened.database = ledger.database ∧ reopened.energyState = ledger.energyState ∧
      reopened.demandState = ledger.demandState ∧
      reopened.latestEnergy.isSome = ledger.latestEnergy.isSome ∧
      reopened.latestDemand.isSome = ledger.latestDemand.isSome := by
  obtain ⟨energy, loadedEnergy, energyState, energyStored, energyKnown⟩ :=
    energyStored_load persisted.energy
  obtain ⟨demand, loadedDemand, demandState, demandStored, demandKnown⟩ :=
    demandStored_load persisted.demand
  refine ⟨{
    database := ledger.database
    latestEnergy := energy.map Prod.snd
    latestDemand := demand.map Prod.snd
    energyState := (energy.map Prod.fst).getD {}
    demandState := (demand.map Prod.fst).getD {} },
    ?_, ?_, rfl, energyState, demandState, energyKnown, demandKnown⟩
  · simp only [reopen, loadedEnergy, loadedDemand]
    rfl
  · refine ⟨?_, ?_⟩
    · simp only [energyState]
      exact energyStored
    · simp only [demandState]
      exact demandStored

theorem storeEnergy_persisted {ledger after : EnergyLedger} {family : EnergyFamily}
    {totals : EnergyCounterArray × Bool} {stored : Except Failure Unit} {answer : EnergyValues}
    (persisted : Persisted ledger)
    (returned : storeEnergy ledger family totals stored = .ok (answer, after)) :
    Persisted after := by
  obtain ⟨row, written, -, rfl⟩ := storeEnergy_ok returned
  refine ⟨.checkpoint ⟨⟨_, _, _, written⟩, ?_, rfl, rfl⟩, persisted.demand⟩
  exact EnergyValues.flatten_assignEnergyCounters family.session totals.1

theorem resetEnergy_persisted {ledger after : EnergyLedger} {request : ResetRequest}
    (persisted : Persisted ledger) (reset : EnergyReset ledger request after) :
    Persisted after := by
  obtain ⟨-, -, latest, row, audit, present, written, -, rfl⟩ := reset
  obtain ⟨old, -, stored⟩ := energyStored_some (present ▸ persisted.energy)
  refine ⟨.checkpoint ⟨⟨_, _, _, written⟩, ?_, stored.sessionId, rfl⟩, persisted.demand⟩
  exact EnergyValues.flatten_assignEnergyCounters latest _

theorem storeDemand_persisted {ledger after : EnergyLedger} {family : DemandFamily}
    {start : DemandState} {stored : Except Failure Unit} {answer : DemandValues}
    (persisted : Persisted ledger)
    (returned : storeDemand ledger family start stored = .ok (answer, after)) :
    Persisted after := by
  obtain ⟨row, database, written, recorded, -, rfl⟩ := storeDemand_ok returned
  obtain ⟨energyRow, demandRow, -, -⟩ := recordHistory_keeps recorded
  refine ⟨?_, ?_⟩
  · change EnergyStored database.energyState _ _
    rw [energyRow]
    exact persisted.energy
  · change DemandStored database.demandState _ _
    rw [demandRow]
    exact .checkpoint ⟨⟨_, _, _, written⟩, rfl,
      flatten_assignDemandValues _ _, flatten_assignDemandValues _ _, rfl, rfl, rfl, rfl, rfl,
      rfl, rfl, rfl⟩

theorem resetDemand_persisted {ledger after : EnergyLedger} {request : ResetRequest}
    (persisted : Persisted ledger) (reset : DemandReset ledger request after) :
    Persisted after := by
  obtain ⟨-, -, latest, row, audit, present, written, -, rfl⟩ := reset
  obtain ⟨old, -, stored⟩ := demandStored_some (present ▸ persisted.demand)
  exact ⟨persisted.energy, .checkpoint ⟨⟨_, _, _, written⟩, stored.current,
    flatten_assignDemandValues _ _, flatten_assignDemandValues _ _, rfl, rfl, stored.sessionId,
    rfl, stored.method, stored.windowSeconds, stored.updateSeconds, stored.profileGeneration⟩⟩

theorem step_persisted {ledger after : EnergyLedger} {call : Call} {answer : Answer}
    (persisted : Persisted ledger) (step : Step ledger call after answer) : Persisted after := by
  cases step with
  | refused | replayedEnergy | replayedDemand | replayedEnergyReset | replayedDemandReset =>
      exact persisted
  | acceptedEnergy _ written => exact storeEnergy_persisted persisted written
  | acceptedDemand _ written => exact storeDemand_persisted persisted written
  | resetEnergy _ reset => exact resetEnergy_persisted persisted reset
  | resetDemand _ reset => exact resetDemand_persisted persisted reset
  | restarted opened =>
      obtain ⟨reopened, loaded, kept, -⟩ := reopen_persisted persisted
      rw [opened] at loaded
      cases loaded
      exact kept
  | unopened refused =>
      obtain ⟨reopened, loaded, -⟩ := reopen_persisted persisted
      rw [refused] at loaded
      cases loaded

theorem run_persisted (calls : List Call) : Persisted (machine.run {} calls) :=
  machine.run_invariant Persisted
    (fun ledger call persisted => step_persisted persisted (step_cases ledger call))
    {} persisted_empty calls

end Msap1.Ledger
