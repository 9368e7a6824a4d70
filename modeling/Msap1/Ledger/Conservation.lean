import Msap1.Consumption
import Msap1.Ledger.Persistence

/-! Lifetime energy is the clamped consumption of the accepted families. -/

namespace Msap1.Ledger

open Arithmetic Consumption Meter

abbrev EnergyLog := List (Entry UInt64 (Fin 28))

def familyCounters (session : EnergyValues) : Fin 28 → Int :=
  fun index => (session.flattenEnergyCounters index).toInt

/-- The families that `ingest_energy` returned for, and the resets that took effect. -/
def noteEnergy (_ : EnergyLedger) (log : EnergyLog) (call : Call) (answer : Answer) : EnergyLog :=
  match call, answer with
  | .ingestEnergy family _, .energy _ =>
      .reading family.session.sessionId (familyCounters family.session) :: log
  | .resetEnergy _ _, .reset ⟨_, false⟩ => .reset :: log
  | _, _ => log

def energyLog (calls : List Call) : EnergyLog :=
  ((machine.traced noteEnergy).run ({}, []) calls).2

/-- The checkpoint against its log: the current session and where it stands, and the
lifetime counters as consumption clamped to 64 bits. -/
structure Conserved (ledger : EnergyLedger) (log : EnergyLog) : Prop where
  current : (sessions log).head? =
    if ledger.latestEnergy.isSome then some ledger.energyState.sessionId else none
  counters : ledger.latestEnergy.isSome → ∀ index,
    lastReading ledger.energyState.sessionId index log =
      (ledger.energyState.sessionCounters index).toInt
  lifetime : ∀ index, (ledger.energyState.lifetimeCounters index).toInt =
    min Int64.maxValue.toInt (consumed log index)

theorem cleared_counter : (0 : Int64).toInt = min Int64.maxValue.toInt 0 := by decide

theorem conserved_empty : Conserved {} [] := by
  refine ⟨rfl, fun known => ?_, fun index => ?_⟩
  · cases known
  · exact cleared_counter

theorem conserved_baseline {ledger : EnergyLedger} {log : EnergyLog}
    (conserved : Conserved ledger log) {sessionId : UInt64}
    (separate : NoReturn (sessionId :: sessions log)) (index : Fin 28) :
    (energyBaseline ledger sessionId index).toInt = lastReading sessionId index log := by
  unfold energyBaseline
  split
  · next continuing =>
      rw [continuing.2, conserved.counters continuing.1]
  · next fresh =>
      rw [Int64.toInt_zero, lastReading_absent]
      have current := conserved.current
      cases known : ledger.latestEnergy.isSome with
      | false =>
          rw [known] at current
          have empty : sessions log = [] := List.head?_eq_none_iff.mp (by simpa using current)
          rw [empty]
          exact List.not_mem_nil
      | true =>
          rw [known, if_pos rfl] at current
          have different : sessionId ≠ ledger.energyState.sessionId :=
            fun same => fresh ⟨known, same⟩
          obtain ⟨earlier, shape⟩ := List.head?_eq_some_iff.mp current
          rw [shape] at separate ⊢
          exact noReturn_fresh separate different

theorem conserved_accepted {ledger after : EnergyLedger} {log : EnergyLog}
    {family : EnergyFamily} {totals : EnergyCounterArray × Bool} {stored : Except Failure Unit}
    {answer : EnergyValues} (conserved : Conserved ledger log)
    (separate : NoReturn (family.session.sessionId :: sessions log))
    (accumulated : Accumulated ledger family.session totals)
    (written : storeEnergy ledger family totals stored = .ok (answer, after)) :
    Conserved after
      (.reading family.session.sessionId (familyCounters family.session) :: log) := by
  obtain ⟨row, -, -, rfl⟩ := storeEnergy_ok written
  refine ⟨rfl, fun _ index => if_pos rfl, fun index => ?_⟩
  have baseline := conserved_baseline conserved separate index
  have grown := accumulated.grown index
  calc
    (totals.1 index).toInt
        = min Int64.maxValue.toInt ((ledger.energyState.lifetimeCounters index).toInt +
            ((family.session.flattenEnergyCounters index).toInt -
              (energyBaseline ledger family.session.sessionId index).toInt)) :=
          accumulated.total index
    _ = min Int64.maxValue.toInt (consumed log index +
            ((family.session.flattenEnergyCounters index).toInt -
              (energyBaseline ledger family.session.sessionId index).toInt)) := by
          rw [conserved.lifetime index, min_add_clamp _ _ _ (by omega)]
    _ = min Int64.maxValue.toInt (consumed
          (.reading family.session.sessionId (familyCounters family.session) :: log) index) := by
          rw [consumed_reading, baseline, familyCounters]

theorem conserved_replayed {ledger : EnergyLedger} {log : EnergyLog} {family : EnergyFamily}
    {answer : EnergyValues} (conserved : Conserved ledger log)
    (replayed : EnergyReplayed ledger family answer) :
    Conserved ledger
      (.reading family.session.sessionId (familyCounters family.session) :: log) := by
  have known : ledger.latestEnergy.isSome := by rw [replayed.stored]; rfl
  have content := replayed.content
  simp only [sameEnergyFamily, decide_eq_true_eq] at content
  have reading : ∀ index, familyCounters family.session index =
      (ledger.energyState.sessionCounters index).toInt := by
    intro index
    rw [familyCounters, content.1]
  refine ⟨?_, fun _ index => ?_, fun index => ?_⟩
  · rw [sessions, replayed.session, if_pos known]
    rfl
  · rw [lastReading, if_pos replayed.session, reading]
  · rw [consumed_reading, replayed.session, conserved.counters known, reading, sub_self, add_zero]
    exact conserved.lifetime index

theorem conserved_reset {ledger after : EnergyLedger} {log : EnergyLog} {request : ResetRequest}
    (conserved : Conserved ledger log) (reset : EnergyReset ledger request after) :
    Conserved after (.reset :: log) := by
  obtain ⟨-, -, latest, row, audit, present, -, -, rfl⟩ := reset
  have known : ledger.latestEnergy.isSome := by rw [present]; rfl
  refine ⟨?_, fun _ index => conserved.counters known index, fun index => ?_⟩
  · have current := conserved.current
    rw [if_pos known] at current
    exact current
  · rw [consumed_reset]
    exact cleared_counter

theorem conserved_congr {ledger after : EnergyLedger} {log : EnergyLog}
    (conserved : Conserved ledger log) (state : after.energyState = ledger.energyState)
    (known : after.latestEnergy.isSome = ledger.latestEnergy.isSome) : Conserved after log := by
  refine ⟨?_, ?_, ?_⟩
  · rw [state, known]
    exact conserved.current
  · rw [state, known]
    exact conserved.counters
  · rw [state]
    exact conserved.lifetime

theorem step_conserved {ledger after : EnergyLedger} {log : EnergyLog} {call : Call}
    {answer : Answer} (persisted : Persisted ledger) (conserved : Conserved ledger log)
    (step : Step ledger call after answer)
    (separate : NoReturn (sessions (noteEnergy ledger log call answer))) :
    Conserved after (noteEnergy ledger log call answer) := by
  cases step with
  | refused call failure => cases call <;> exact conserved
  | replayedEnergy replayed => exact conserved_replayed conserved replayed
  | acceptedEnergy accumulated written =>
      exact conserved_accepted conserved separate accumulated written
  | replayedDemand => exact conserved
  | acceptedDemand _ written =>
      obtain ⟨row, database, -, -, -, rfl⟩ := storeDemand_ok written
      exact conserved_congr conserved rfl rfl
  | replayedEnergyReset | replayedDemandReset => exact conserved
  | resetEnergy _ reset => exact conserved_reset conserved reset
  | resetDemand _ reset =>
      obtain ⟨-, -, latest, row, audit, -, -, -, rfl⟩ := reset
      exact conserved_congr conserved rfl rfl
  | restarted opened =>
      obtain ⟨reopened, loaded, -, -, state, -, known, -⟩ := reopen_persisted persisted
      rw [opened] at loaded
      cases loaded
      exact conserved_congr conserved state known
  | unopened refused =>
      obtain ⟨reopened, loaded, -⟩ := reopen_persisted persisted
      rw [refused] at loaded
      cases loaded

theorem sessions_noteEnergy (ledger : EnergyLedger) (log : EnergyLog) (call : Call)
    (answer : Answer) :
    (sessions log).Sublist (sessions (noteEnergy ledger log call answer)) := by
  unfold noteEnergy
  split
  · exact List.sublist_cons_self _ _
  · exact List.Sublist.refl _
  · exact List.Sublist.refl _

theorem run_conserved (calls : List Call) (separate : NoReturn (sessions (energyLog calls))) :
    Conserved (machine.run {} calls) (energyLog calls) := by
  have invariant := (machine.traced noteEnergy).run_invariant
    (fun state => Persisted state.1 ∧ (NoReturn (sessions state.2) → Conserved state.1 state.2))
    (fun (ledger, log) call holds => ⟨step_persisted holds.1 (step_cases ledger call),
      fun apart => step_conserved holds.1
        (holds.2 (noReturn_sublist (sessions_noteEnergy ledger _ _ _) apart))
          (step_cases ledger call)
        apart⟩)
    ({}, []) ⟨persisted_empty, fun _ => conserved_empty⟩ calls
  rw [← machine.traced_state noteEnergy {} [] calls]
  exact invariant.2 separate

/-- Over every run, whatever was refused, repeated, reset or reopened: the lifetime counters,
and the snapshot that reports them, are the clamped consumption since the last reset. -/
theorem lifetime_conserved (calls : List Call)
    (separate : NoReturn (sessions (energyLog calls))) (index : Fin 28) :
    ((machine.run {} calls).energyState.lifetimeCounters index).toInt =
        min Int64.maxValue.toInt (consumed (energyLog calls) index) ∧
      ∀ values, (machine.run {} calls).energy = some values →
        (values.flattenEnergyCounters index).toInt =
          min Int64.maxValue.toInt (consumed (energyLog calls) index) := by
  have conserved := run_conserved calls separate
  refine ⟨conserved.lifetime index, fun values reported => ?_⟩
  rw [EnergyLedger.energy] at reported
  obtain ⟨row, -, stored⟩ := energyStored_some (reported ▸ (run_persisted calls).energy)
  rw [stored.counters]
  exact conserved.lifetime index

/-- A family whose first counter stands at `counter`, the others at zero. -/
def importFamily (sessionId : UInt64) (sourceSequence : UInt32) (counter : Int64) :
    EnergyFamily where
  session := { (default : EnergyValues) with
    activeImport := { (default : PhaseABCTotal Reading) with phaseA := { value := counter } }
    sessionId }
  sourceSequence
  generation := 1
  ingestedAtNanoseconds := 0

/-- Session 7 counts to 50, is cleared there, goes on to 60; session 9 adds 5 after a restart. -/
def resetAndRestart : List Call := [
  .ingestEnergy (importFamily 7 1 50) (.ok ()),
  .resetEnergy ⟨0, "key", "actor", "request", 0⟩ (.ok ()),
  .ingestEnergy (importFamily 7 2 60) (.ok ()),
  .ingestEnergy (importFamily 7 2 60) (.ok ()),
  .restart,
  .ingestEnergy (importFamily 9 1 5) (.ok ())]

theorem resetAndRestart_conserved :
    sessions (energyLog resetAndRestart) = [9, 7, 7, 7] ∧
      ((machine.run {} resetAndRestart).energyState.lifetimeCounters 0).toInt =
        min Int64.maxValue.toInt (consumed (energyLog resetAndRestart) 0) ∧
      consumed (energyLog resetAndRestart) 0 = 15 := by
  have listed : sessions (energyLog resetAndRestart) = [9, 7, 7, 7] := by decide +kernel
  refine ⟨listed, (lifetime_conserved resetAndRestart ?_ 0).1, by decide +kernel⟩
  rw [listed]
  intro first second found
  have listedTriple := List.mem_sublists.mpr found
  simp only [List.sublists, List.foldr_cons, List.foldr_nil] at listedTriple
  rcases (by simpa using listedTriple :
    first = 9 ∧ second = 7 ∧ first = 7 ∨ first = 7 ∧ second = 7 ∧ first = 7) with
      ⟨nine, -, seven⟩ | ⟨rfl, rfl, -⟩
  · rw [nine] at seven
    exact absurd seven (by decide)
  · rfl

end Msap1.Ledger
