import Msap1.Ledger.Stamps

/-! Restarts are invisible to the decisions of a ledger whose families carry the windows of
`source_window`. -/

namespace Msap1.Ledger

open Meter

def EnergyWindows (values : EnergyValues) (window : SampleWindow) : Prop :=
  FamilyWindow window ∧ ∀ index, (values.readings index).calculationWindow = window

def DemandWindows (values : DemandValues) (window : SampleWindow) : Prop :=
  FamilyWindow window ∧ ∀ index, (values.readings index).calculationWindow = window

/-- A call whose family, if it carries one, is a record of the acquisition. -/
def Call.Windowed : Call → Prop
  | .ingestEnergy family _ => ∃ window, EnergyWindows family.session window
  | .ingestDemand family _ => ∃ window, DemandWindows family.session window
  | _ => True

/-- A stored row was written with the columns of its own window. -/
def EnergyWindowed (row : Option EnergyRow) (latest : Option EnergyValues)
    (state : EnergyState) : Prop :=
  ∀ stored values, row = some stored → latest = some values → ∃ window updatedNs,
    EnergyWindows values window ∧
      persistEnergy values state window.sampleCount (sampleRate window) updatedNs = .ok stored

def DemandWindowed (row : Option DemandRow) (latest : Option DemandValues)
    (state : DemandState) : Prop :=
  ∀ stored values, row = some stored → latest = some values → ∃ window updatedNs,
    DemandWindows values window ∧
      persistDemand values state window.sampleCount (sampleRate window) updatedNs = .ok stored

structure Recoverable (ledger : EnergyLedger) : Prop extends Persisted ledger where
  energyWindow : EnergyWindowed ledger.database.energyState ledger.latestEnergy ledger.energyState
  demandWindow : DemandWindowed ledger.database.demandState ledger.latestDemand ledger.demandState

theorem recoverable_empty : Recoverable {} := by
  refine ⟨persisted_empty, fun row values absent => ?_, fun row values absent => ?_⟩
  · cases absent
  · cases absent

theorem readings_restoredEnergy (values : EnergyValues) (state : EnergyState)
    (window : SampleWindow) (measuredAt : Int64) (index : Fin 28) :
    (restoredEnergy values state window measuredAt).readings index = {
      value := state.lifetimeCounters index
      quality := (values.readings index).quality
      sourceSequence := state.sourceSequence.toUInt64
      measuredAt
      calculationWindow := window } := by
  rw [restoredEnergy, EnergyValues.readings_withReadings]

theorem undated_restoredEnergy {row : EnergyRow} {values : EnergyValues} {state : EnergyState}
    {window : SampleWindow} (stored : EnergyCheckpoint row values state)
    (windows : EnergyWindows values window) (measuredAt : Int64) :
    undatedEnergy (restoredEnergy values state window measuredAt) = undatedEnergy values := by
  apply undatedEnergy_congr
  · simp only [restoredEnergy, EnergyValues.withReadings, ← stored.sessionId, ← stored.resetEpoch]
  · intro index
    have value : state.lifetimeCounters index = (values.readings index).value := by
      rw [← stored.counters]
      rfl
    rw [readings_restoredEnergy, value, ← windows.2 index]
    rfl

theorem readings_restoredDemand (values : DemandValues) (state : DemandState)
    (window : SampleWindow) (measuredAt : Int64) (index : Fin 12) :
    (restoredDemand values state window measuredAt).readings index = {
      value := (![state.current, state.authoritativeImport, state.authoritativeExport]
        ⟨index / 4, demandGroup_lt index⟩) ⟨index % 4, demandLane_lt index⟩
      quality := (values.readings index).quality
      sourceSequence := state.sourceSequence.toUInt64
      measuredAt
      calculationWindow := window } := by
  rw [restoredDemand, DemandValues.readings_withReadings]

theorem value_demandReading (values : DemandValues) (index : Fin 12) :
    (values.readings index).value = (![flattenDemandValues values.currentActive,
      flattenDemandValues values.importPeak, flattenDemandValues values.exportPeak]
        ⟨index / 4, demandGroup_lt index⟩) ⟨index % 4, demandLane_lt index⟩ := by
  fin_cases index <;> rfl

theorem undated_restoredDemand {row : DemandRow} {values : DemandValues} {state : DemandState}
    {window : SampleWindow} (stored : DemandCheckpoint row values state)
    (windows : DemandWindows values window) (measuredAt : Int64) :
    undatedDemand (restoredDemand values state window measuredAt) = undatedDemand values := by
  apply undatedDemand_congr
  · simp only [restoredDemand, DemandValues.withReadings, ← stored.sessionId,
      ← stored.peakResetEpoch, ← stored.importAnchors, ← stored.exportAnchors, ← stored.method,
      ← stored.windowSeconds, ← stored.updateSeconds, ← stored.profileGeneration]
  · intro index
    have value := value_demandReading values index
    rw [stored.current, stored.importPeak, stored.exportPeak] at value
    rw [readings_restoredDemand, ← value, ← windows.2 index]
    rfl

theorem energy_reload {row : Option EnergyRow} {latest : Option EnergyValues}
    {state : EnergyState} (stored : EnergyStored row latest state)
    (windowed : EnergyWindowed row latest state) :
    ∃ loaded, row.mapM loadEnergy = .ok loaded ∧ (loaded.map Prod.fst).getD {} = state ∧
      (loaded.map Prod.snd).map undatedEnergy = latest.map undatedEnergy ∧
      EnergyWindowed row (loaded.map Prod.snd) state := by
  cases stored with
  | empty => exact ⟨none, rfl, rfl, rfl, windowed⟩
  | @checkpoint row values state stored =>
      obtain ⟨window, updatedNs, windows, written⟩ := windowed row values rfl rfl
      refine ⟨some (state, restoredEnergy values state window updatedNs), ?_, rfl, ?_, ?_⟩
      · simp only [Option.mapM_some, loadEnergy_persistEnergy written,
          storedWindow_sampleRate windows.1]
        rfl
      · simp only [Option.map_some, undated_restoredEnergy stored windows]
      · rintro kept restored ⟨⟩ ⟨⟩
        refine ⟨window, updatedNs, ⟨windows.1, fun index => ?_⟩, ?_⟩
        · rw [readings_restoredEnergy]
        · rw [persistEnergy_restored]
          exact written

theorem demand_reload {row : Option DemandRow} {latest : Option DemandValues}
    {state : DemandState} (stored : DemandStored row latest state)
    (windowed : DemandWindowed row latest state) :
    ∃ loaded, row.mapM loadDemand = .ok loaded ∧ (loaded.map Prod.fst).getD {} = state ∧
      (loaded.map Prod.snd).map undatedDemand = latest.map undatedDemand ∧
      DemandWindowed row (loaded.map Prod.snd) state := by
  cases stored with
  | empty => exact ⟨none, rfl, rfl, rfl, windowed⟩
  | @checkpoint row values state stored =>
      obtain ⟨window, updatedNs, windows, written⟩ := windowed row values rfl rfl
      have loaded := loadDemand_persistDemand stored.method stored.windowSeconds
        stored.updateSeconds stored.profileGeneration written
      refine ⟨some (state, restoredDemand values state window updatedNs), ?_, rfl, ?_, ?_⟩
      · simp only [Option.mapM_some, loaded, storedWindow_sampleRate windows.1]
        rfl
      · simp only [Option.map_some, undated_restoredDemand stored windows]
      · rintro kept restored ⟨⟩ ⟨⟩
        refine ⟨window, updatedNs, ⟨windows.1, fun index => ?_⟩, ?_⟩
        · rw [readings_restoredDemand]
        · rw [persistDemand_restored stored.method stored.windowSeconds stored.updateSeconds
            stored.profileGeneration]
          exact written

theorem reopen_recoverable {ledger : EnergyLedger} (recoverable : Recoverable ledger) :
    ∃ reopened, reopen ledger.database = .ok reopened ∧ reopened.undated = ledger.undated ∧
      Recoverable reopened := by
  obtain ⟨energy, loadedEnergy, energyState, energySame, energyWindow⟩ :=
    energy_reload recoverable.energy recoverable.energyWindow
  obtain ⟨demand, loadedDemand, demandState, demandSame, demandWindow⟩ :=
    demand_reload recoverable.demand recoverable.demandWindow
  have opened : reopen ledger.database = .ok {
      database := ledger.database
      latestEnergy := energy.map Prod.snd
      latestDemand := demand.map Prod.snd
      energyState := ledger.energyState
      demandState := ledger.demandState } := by
    simp only [reopen, loadedEnergy, loadedDemand, bind, Except.bind, energyState, demandState]
    rfl
  obtain ⟨reopened, again, persisted, -⟩ := reopen_persisted recoverable.toPersisted
  rw [opened] at again
  cases again
  refine ⟨_, opened, ?_, persisted, energyWindow, demandWindow⟩
  simp only [EnergyLedger.undated, energySame, demandSame]

theorem readings_energyResult (family : EnergyFamily) (epoch : UInt64)
    (totals : EnergyCounterArray × Bool) (index : Fin 28) :
    (energyResult family epoch totals).readings index =
      { family.session.readings index with value := totals.1 index } :=
  EnergyValues.readings_assignEnergyCounters family.session totals.1 index

theorem readings_demandResult (family : DemandFamily) (start : DemandState) (index : Fin 12) :
    (demandResult family start).readings index =
      { family.session.readings index with
        value := peakValue (demandNext family start) index
          (family.session.readings index).value } :=
  readings_assignPeaks family.session (demandNext family start) index

theorem step_recoverable {ledger after : EnergyLedger} {call : Call} {answer : Answer}
    (recoverable : Recoverable ledger) (windowed : call.Windowed)
    (step : Step ledger call after answer) : Recoverable after := by
  have persisted := step_persisted recoverable.toPersisted step
  cases step with
  | refused | replayedEnergy | replayedDemand | replayedEnergyReset | replayedDemandReset =>
      exact recoverable
  | @acceptedEnergy family stored totals answer after _ written =>
      obtain ⟨window, windows⟩ := windowed
      have own : family.session.familyWindow = window := windows.2 0
      obtain ⟨row, persistedRow, -, rfl⟩ := storeEnergy_ok written
      refine ⟨persisted, ?_, recoverable.demandWindow⟩
      rintro kept values ⟨⟩ ⟨⟩
      rw [own] at persistedRow
      refine ⟨window, _, ⟨windows.1, fun index => ?_⟩, persistedRow⟩
      rw [readings_energyResult]
      exact windows.2 index
  | @acceptedDemand family stored start answer after _ written =>
      obtain ⟨window, windows⟩ := windowed
      have own : family.session.familyWindow = window := windows.2 0
      obtain ⟨row, database, persistedRow, recorded, -, rfl⟩ := storeDemand_ok written
      obtain ⟨energyRow, demandRow, -, -⟩ := recordHistory_keeps recorded
      refine ⟨persisted, ?_, ?_⟩
      · change EnergyWindowed database.energyState _ _
        rw [energyRow]
        exact recoverable.energyWindow
      · change DemandWindowed database.demandState _ _
        rw [demandRow]
        rintro kept values ⟨⟩ ⟨⟩
        rw [own] at persistedRow
        refine ⟨window, _, ⟨windows.1, fun index => ?_⟩, persistedRow⟩
        rw [readings_demandResult]
        exact windows.2 index
  | resetEnergy _ reset =>
      obtain ⟨-, -, latest, row, audit, present, written, -, rfl⟩ := reset
      refine ⟨persisted, ?_, recoverable.demandWindow⟩
      rintro kept values ⟨⟩ ⟨⟩
      obtain ⟨old, oldRow, -⟩ := energyStored_some (present ▸ recoverable.energy)
      obtain ⟨window, -, windows, -⟩ := recoverable.energyWindow old latest oldRow present
      have own : latest.familyWindow = window := windows.2 0
      rw [own] at written
      refine ⟨window, _, ⟨windows.1, fun index => ?_⟩, written⟩
      rw [readings_resetEnergyValues]
      exact windows.2 index
  | resetDemand _ reset =>
      obtain ⟨-, -, latest, row, audit, present, written, -, rfl⟩ := reset
      refine ⟨persisted, recoverable.energyWindow, ?_⟩
      rintro kept values ⟨⟩ ⟨⟩
      obtain ⟨old, oldRow, -⟩ := demandStored_some (present ▸ recoverable.demand)
      obtain ⟨window, -, windows, -⟩ := recoverable.demandWindow old latest oldRow present
      have own : latest.familyWindow = window := windows.2 0
      rw [own] at written
      refine ⟨window, _, ⟨windows.1, fun index => ?_⟩, written⟩
      rw [readings_assignPeaks]
      exact windows.2 index
  | restarted opened =>
      obtain ⟨reopened, again, -, kept⟩ := reopen_recoverable recoverable
      rw [opened] at again
      cases again
      exact kept
  | unopened refused =>
      obtain ⟨reopened, again, -⟩ := reopen_recoverable recoverable
      rw [refused] at again
      cases again

theorem run_recoverable (calls : List Call) (windowed : ∀ call ∈ calls, call.Windowed) :
    Recoverable (machine.run {} calls) :=
  machine.run_invariant_of Recoverable Call.Windowed
    (fun ledger call allowed recoverable =>
      step_recoverable recoverable allowed (step_cases ledger call))
    {} recoverable_empty calls windowed

/-- The last families that were accepted or repeated. -/
structure LastFamilies where
  energy : Option EnergyFamily := none
  demand : Option DemandFamily := none

def noteFamilies (_ : EnergyLedger) (last : LastFamilies) (call : Call) (answer : Answer) :
    LastFamilies :=
  match call, answer with
  | .ingestEnergy family _, .energy _ => { last with energy := some family }
  | .ingestDemand family _, .demand _ => { last with demand := some family }
  | _, _ => last

def lastFamilies (calls : List Call) : LastFamilies :=
  ((machine.traced noteFamilies).run ({}, {}) calls).2

/-- The ledger still recognises the last families. -/
structure Repeatable (ledger : EnergyLedger) (last : LastFamilies) : Prop where
  energy : ∀ family, last.energy = some family →
    ∃ values, EnergyReplayed ledger family values
  demand : ∀ family, last.demand = some family →
    ∃ values, DemandReplayed ledger family values

theorem ingestEnergy_replayed {ledger : EnergyLedger} {family : EnergyFamily}
    {values : EnergyValues} (replayed : EnergyReplayed ledger family values)
    (stored : Except Failure Unit) : ingestEnergy ledger family stored = .ok (values, ledger) := by
  have nonnegative : ¬ ∃ index, family.session.flattenEnergyCounters index < 0 := by
    rintro ⟨index, negative⟩
    rw [Int64.lt_iff_toInt_lt, Int64.toInt_zero] at negative
    have kept := replayed.nonnegative index
    omega
  have current : ¬ family.sourceSequence < ledger.energyState.sourceSequence := by
    rw [replayed.sequence]
    exact UInt32.lt_irrefl _
  unfold ingestEnergy
  simp only [if_neg nonnegative, replayed.stored, if_pos replayed.session, if_neg current,
    if_pos replayed.sequence, if_pos replayed.content]
  rfl

theorem ingestDemand_replayed {ledger : EnergyLedger} {family : DemandFamily}
    {values : DemandValues} (replayed : DemandReplayed ledger family values)
    (stored : Except Failure Unit) : ingestDemand ledger family stored = .ok (values, ledger) := by
  have nonnegative : ¬ ∃ index, flattenDemandValues family.session.importPeak index < 0 ∨
      flattenDemandValues family.session.exportPeak index < 0 := by
    rintro ⟨index, negative⟩
    rw [Int64.lt_iff_toInt_lt, Int64.lt_iff_toInt_lt, Int64.toInt_zero] at negative
    have importKept := replayed.wellFormed.importNonnegative index
    have exportKept := replayed.wellFormed.exportNonnegative index
    omega
  have current : ¬ (sameProfileInstance ledger family.session = true ∧
      family.sourceSequence < ledger.demandState.sourceSequence) := by
    rw [replayed.sequence]
    exact fun both => UInt32.lt_irrefl _ both.2
  unfold ingestDemand
  simp only [if_neg replayed.wellFormed.profile, if_neg nonnegative, replayed.stored,
    if_neg current, if_pos (And.intro replayed.sameInstance replayed.sequence),
    if_pos replayed.content]
  rfl

theorem energyReplayed_accepted {ledger after : EnergyLedger} {family : EnergyFamily}
    {totals : EnergyCounterArray × Bool} {stored : Except Failure Unit} {answer : EnergyValues}
    (accumulated : Accumulated ledger family.session totals)
    (written : storeEnergy ledger family totals stored = .ok (answer, after)) :
    EnergyReplayed after family answer := by
  obtain ⟨row, -, rfl, rfl⟩ := storeEnergy_ok written
  refine ⟨accumulated.nonnegative, rfl, rfl, rfl, ?_⟩
  have qualities : encodeQualities family.session.readings =
      encodeQualities (energyResult family ledger.energyState.epoch totals).readings := by
    rw [encodeQualities_eq_iff]
    intro index
    rw [readings_energyResult]
  have window : (energyResult family ledger.energyState.epoch totals).familyWindow =
      family.session.familyWindow := by
    rw [EnergyValues.familyWindow_eq, EnergyValues.familyWindow_eq, readings_energyResult]
  simp only [sameEnergyFamily, ← qualities, window, decide_eq_true_eq, sameWindow_iff]
  refine ⟨rfl, rfl, rfl, rfl, rfl, rfl, rfl, rfl, rfl, ?_, trivial, trivial⟩
  exact fun lost => lost.2 (accumulated.saturated lost.1)

theorem demandReplayed_accepted {ledger after : EnergyLedger} {family : DemandFamily}
    {start : DemandState} {stored : Except Failure Unit} {answer : DemandValues}
    (accepted : DemandAccepted ledger family start)
    (written : storeDemand ledger family start stored = .ok (answer, after)) :
    DemandReplayed after family answer := by
  obtain ⟨row, database, -, -, rfl, rfl⟩ := storeDemand_ok written
  refine ⟨accepted.wellFormed, rfl, ?_, rfl, ?_⟩
  · simp [sameProfileInstance, sameSession, sameSemantics, demandNext]
  · have qualities : encodeQualities family.session.readings =
        encodeQualities (demandResult family start).readings := by
      rw [encodeQualities_eq_iff]
      intro index
      rw [readings_demandResult]
    have window : (demandResult family start).familyWindow = family.session.familyWindow := rfl
    simp only [sameDemandFamily, ← qualities, window, decide_eq_true_eq, sameWindow_iff]
    refine ⟨rfl, rfl, rfl, rfl, rfl, rfl, rfl, rfl, rfl, rfl, rfl, rfl, ?_, trivial, trivial⟩
    rintro ⟨set, lost⟩
    exact lost (by simp [demandResult, set])

theorem energyReplayed_reset {ledger after : EnergyLedger} {request : ResetRequest}
    {family : EnergyFamily} {values : EnergyValues} (replayed : EnergyReplayed ledger family values)
    (reset : EnergyReset ledger request after) :
    ∃ later, EnergyReplayed after family later := by
  obtain ⟨-, -, latest, row, audit, present, -, -, rfl⟩ := reset
  rw [replayed.stored] at present
  cases present
  refine ⟨_, replayed.nonnegative, rfl, replayed.session, replayed.sequence, ?_⟩
  have qualities : encodeQualities (resetEnergyValues values
      (resetEnergyState ledger.energyState)).readings = encodeQualities values.readings := by
    rw [encodeQualities_eq_iff]
    intro index
    rw [readings_resetEnergyValues]
  have content := replayed.content
  unfold sameEnergyFamily at content ⊢
  rw [qualities, familyWindow_resetEnergyValues]
  exact content

theorem demandReplayed_reset {ledger after : EnergyLedger} {request : ResetRequest}
    {family : DemandFamily} {values : DemandValues} (replayed : DemandReplayed ledger family values)
    (reset : DemandReset ledger request after) :
    ∃ later, DemandReplayed after family later := by
  obtain ⟨-, -, latest, row, audit, present, -, -, rfl⟩ := reset
  rw [replayed.stored] at present
  cases present
  have known := replayed.stored
  refine ⟨_, replayed.wellFormed, rfl, ?_, replayed.sequence, ?_⟩
  · have same := replayed.sameInstance
    simp only [sameProfileInstance, sameSession, sameSemantics, known] at same ⊢
    exact same
  · have qualities : encodeQualities (assignPeaks values
        (resetDemandState ledger.demandState)).readings = encodeQualities values.readings := by
      rw [encodeQualities_eq_iff]
      intro index
      rw [readings_assignPeaks]
    have content := replayed.content
    unfold sameDemandFamily at content ⊢
    rw [qualities, familyWindow_assignPeaks]
    exact content

theorem repeatable_undated {ledger other : EnergyLedger} {last : LastFamilies}
    (states : other.undated = ledger.undated) (repeatable : Repeatable ledger last) :
    Repeatable other last := by
  have energyState : other.undated.energyState = ledger.undated.energyState := by rw [states]
  have demandState : other.undated.demandState = ledger.undated.demandState := by rw [states]
  have energy : other.undated.latestEnergy = ledger.undated.latestEnergy := by rw [states]
  have demand : other.undated.latestDemand = ledger.undated.latestDemand := by rw [states]
  change other.energyState = ledger.energyState at energyState
  change other.demandState = ledger.demandState at demandState
  refine ⟨fun family known => ?_, fun family known => ?_⟩
  · obtain ⟨values, replayed⟩ := repeatable.energy family known
    simp only [EnergyLedger.undated, replayed.stored, Option.map_some] at energy
    obtain ⟨found, present, same⟩ := Option.map_eq_some_iff.mp energy
    refine ⟨found, replayed.nonnegative, present, ?_, ?_, ?_⟩
    · rw [energyState]
      exact replayed.session
    · rw [energyState]
      exact replayed.sequence
    · rw [energyState, ← sameEnergyFamily_undated, same, sameEnergyFamily_undated]
      exact replayed.content
  · obtain ⟨values, replayed⟩ := repeatable.demand family known
    have matching := replayed.sameInstance
    rw [← sameProfileInstance_undated, ← states, sameProfileInstance_undated] at matching
    simp only [EnergyLedger.undated, replayed.stored, Option.map_some] at demand
    obtain ⟨found, present, same⟩ := Option.map_eq_some_iff.mp demand
    refine ⟨found, replayed.wellFormed, present, matching, ?_, ?_⟩
    · rw [demandState]
      exact replayed.sequence
    · rw [demandState, ← sameDemandFamily_undated, same, sameDemandFamily_undated]
      exact replayed.content

theorem energyReplayed_congr {ledger after : EnergyLedger} {family : EnergyFamily}
    (known : ∃ values, EnergyReplayed ledger family values)
    (latest : after.latestEnergy = ledger.latestEnergy)
    (state : after.energyState = ledger.energyState) :
    ∃ values, EnergyReplayed after family values := by
  obtain ⟨values, replayed⟩ := known
  exact ⟨values, replayed.nonnegative, latest ▸ replayed.stored, state ▸ replayed.session,
    state ▸ replayed.sequence, state ▸ replayed.content⟩

theorem demandReplayed_congr {ledger after : EnergyLedger} {family : DemandFamily}
    (known : ∃ values, DemandReplayed ledger family values)
    (latest : after.latestDemand = ledger.latestDemand)
    (state : after.demandState = ledger.demandState) :
    ∃ values, DemandReplayed after family values := by
  obtain ⟨values, replayed⟩ := known
  refine ⟨values, replayed.wellFormed, latest ▸ replayed.stored, ?_, state ▸ replayed.sequence,
    state ▸ replayed.content⟩
  have same := replayed.sameInstance
  simp only [sameProfileInstance, sameSession, sameSemantics, latest, state] at same ⊢
  exact same

theorem repeatable_empty : Repeatable {} {} := by
  refine ⟨fun family absent => ?_, fun family absent => ?_⟩
  · cases absent
  · cases absent

theorem step_repeatable {ledger after : EnergyLedger} {last : LastFamilies} {call : Call}
    {answer : Answer} (recoverable : Recoverable ledger) (repeatable : Repeatable ledger last)
    (step : Step ledger call after answer) :
    Repeatable after (noteFamilies ledger last call answer) := by
  cases step with
  | refused call failure => cases call <;> exact repeatable
  | replayedEnergy replayed =>
      refine ⟨?_, repeatable.demand⟩
      rintro family ⟨⟩
      exact ⟨_, replayed⟩
  | acceptedEnergy accumulated written =>
      have replayed := energyReplayed_accepted accumulated written
      obtain ⟨row, -, -, rfl⟩ := storeEnergy_ok written
      refine ⟨?_, fun family known =>
        demandReplayed_congr (repeatable.demand family known) rfl rfl⟩
      rintro family ⟨⟩
      exact ⟨_, replayed⟩
  | replayedDemand replayed =>
      refine ⟨repeatable.energy, ?_⟩
      rintro family ⟨⟩
      exact ⟨_, replayed⟩
  | acceptedDemand accepted written =>
      have replayed := demandReplayed_accepted accepted written
      obtain ⟨row, database, -, -, -, rfl⟩ := storeDemand_ok written
      refine ⟨fun family known =>
        energyReplayed_congr (repeatable.energy family known) rfl rfl, ?_⟩
      rintro family ⟨⟩
      exact ⟨_, replayed⟩
  | replayedEnergyReset | replayedDemandReset => exact repeatable
  | resetEnergy _ reset =>
      refine ⟨fun family known => ?_, ?_⟩
      · obtain ⟨values, replayed⟩ := repeatable.energy family known
        exact energyReplayed_reset replayed reset
      · obtain ⟨-, -, latest, row, audit, -, -, -, rfl⟩ := reset
        exact fun family known =>
          demandReplayed_congr (repeatable.demand family known) rfl rfl
  | resetDemand _ reset =>
      refine ⟨?_, fun family known => ?_⟩
      · obtain ⟨-, -, latest, row, audit, -, -, -, rfl⟩ := reset
        exact fun family known =>
          energyReplayed_congr (repeatable.energy family known) rfl rfl
      · obtain ⟨values, replayed⟩ := repeatable.demand family known
        exact demandReplayed_reset replayed reset
  | restarted opened =>
      obtain ⟨reopened, again, states, -⟩ := reopen_recoverable recoverable
      rw [opened] at again
      cases again
      exact repeatable_undated states repeatable
  | unopened refused =>
      obtain ⟨reopened, again, -⟩ := reopen_recoverable recoverable
      rw [refused] at again
      cases again

theorem run_repeatable (calls : List Call) (windowed : ∀ call ∈ calls, call.Windowed) :
    Repeatable (machine.run {} calls) (lastFamilies calls) := by
  have invariant := (machine.traced noteFamilies).run_invariant_of
    (fun state => Recoverable state.1 ∧ Repeatable state.1 state.2) Call.Windowed
    (fun (ledger, last) call allowed holds =>
      ⟨step_recoverable holds.1 allowed (step_cases ledger call),
        step_repeatable holds.1 holds.2 (step_cases ledger call)⟩)
    ({}, {}) ⟨recoverable_empty, repeatable_empty⟩ calls windowed
  rw [← machine.traced_state noteFamilies {} {} calls]
  exact invariant.2

/-- After any run of calls, whether they returned or threw, the database reopens, and every
later run of calls is answered as by the ledger that kept running, up to the stamps. A
repetition of the last accepted family is answered with the stored snapshot. -/
theorem restart_invisible (calls : List Call) (windowed : ∀ call ∈ calls, call.Windowed) :
    ∃ reopened, reopen (machine.run {} calls).database = .ok reopened ∧
      (∀ later : List Call,
        (machine.answers reopened later).map Answer.undated =
            (machine.answers (machine.run {} calls) later).map Answer.undated ∧
          (machine.run reopened later).undated =
            (machine.run (machine.run {} calls) later).undated) ∧
      (∀ family stored, (lastFamilies calls).energy = some family →
        ∃ values, ingestEnergy reopened family stored = .ok (values, reopened) ∧
          some (undatedEnergy values) = (machine.run {} calls).energy.map undatedEnergy) ∧
      (∀ family stored, (lastFamilies calls).demand = some family →
        ∃ values, ingestDemand reopened family stored = .ok (values, reopened) ∧
          some (undatedDemand values) = (machine.run {} calls).demand.map undatedDemand) := by
  obtain ⟨reopened, opened, states, -⟩ := reopen_recoverable (run_recoverable calls windowed)
  have repeatable := repeatable_undated states (run_repeatable calls windowed)
  refine ⟨reopened, opened, fun later => ?_, fun family stored known => ?_,
    fun family stored known => ?_⟩
  · have agrees := machine.run_agrees (fun left right => left.undated = right.undated)
      Answer.undated step_undated reopened (machine.run {} calls) states later
    exact ⟨agrees.2, agrees.1⟩
  · obtain ⟨values, replayed⟩ := repeatable.energy family known
    refine ⟨values, ingestEnergy_replayed replayed stored, ?_⟩
    have latest : reopened.undated.latestEnergy = (machine.run {} calls).undated.latestEnergy := by
      rw [states]
    simp only [EnergyLedger.undated, replayed.stored, Option.map_some] at latest
    exact latest
  · obtain ⟨values, replayed⟩ := repeatable.demand family known
    refine ⟨values, ingestDemand_replayed replayed stored, ?_⟩
    have latest : reopened.undated.latestDemand = (machine.run {} calls).undated.latestDemand := by
      rw [states]
    simp only [EnergyLedger.undated, replayed.stored, Option.map_some] at latest
    exact latest

/-- A family of 3 samples at 128 kHz: the stored rate is 128002, the duration comes back. -/
def shortWindowFamily : EnergyFamily where
  session := (default : EnergyValues).withReadings
    (fun _ => { quality := .valid, calculationWindow := ⟨3, 23437⟩ })
  sourceSequence := 1
  generation := 1
  ingestedAtNanoseconds := 5

theorem shortWindow_restart :
    sampleRate ⟨3, 23437⟩ = 128002 ∧
    (lastFamilies [.ingestEnergy shortWindowFamily (.ok ())]).energy = some shortWindowFamily ∧
      ∃ reopened,
        reopen (machine.run {} [.ingestEnergy shortWindowFamily (.ok ())]).database =
          .ok reopened ∧
        ∃ values, ingestEnergy reopened shortWindowFamily (.ok ()) = .ok (values, reopened) := by
  have windowed : ∀ call ∈ [Call.ingestEnergy shortWindowFamily (.ok ())], call.Windowed := by
    intro call member
    rw [List.mem_singleton.mp member]
    refine ⟨⟨3, 23437⟩, ⟨3, 128000, by decide, by decide, by decide, by decide⟩, fun index => ?_⟩
    rw [shortWindowFamily, EnergyValues.readings_withReadings]
  have last : (lastFamilies [.ingestEnergy shortWindowFamily (.ok ())]).energy =
      some shortWindowFamily := by rfl
  obtain ⟨reopened, opened, -, repeated, -⟩ := restart_invisible _ windowed
  obtain ⟨values, answered, -⟩ := repeated shortWindowFamily (.ok ()) last
  exact ⟨by decide, last, reopened, opened, values, answered⟩

end Msap1.Ledger
