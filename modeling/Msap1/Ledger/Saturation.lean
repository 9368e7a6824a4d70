import Msap1.Ledger.Conservation

/-! The saturation flag of the snapshots against counters that were clipped. -/

namespace Msap1.Ledger

open Meter

theorem saturatingAdd_raised {value delta total : Int64} {before after : Bool}
    (returned : saturatingAdd value delta before = .ok (total, after)) :
    after = true ↔ before = true ∨ Int64.maxValue.toInt < value.toInt + delta.toInt := by
  have top : Int64.maxValue.toInt = 2 ^ 63 - 1 := by decide
  have deltaRange := delta.toInt_lt
  unfold saturatingAdd at returned
  split at returned
  · cases returned
  · next nonnegative =>
      rw [Int64.lt_iff_toInt_lt, not_lt, Int64.toInt_zero] at nonnegative
      have room : (Int64.maxValue - delta).toInt = Int64.maxValue.toInt - delta.toInt := by
        rw [Int64.toInt_sub, top]
        apply Int.bmod_eq_of_le <;> omega
      split at returned
      · next full =>
          cases returned
          rw [gt_iff_lt, Int64.lt_iff_toInt_lt, room] at full
          exact ⟨fun _ => Or.inr (by omega), fun _ => rfl⟩
      · next fits =>
          cases returned
          rw [gt_iff_lt, Int64.lt_iff_toInt_lt, room, not_lt] at fits
          exact ⟨Or.inl, fun raised => raised.elim id fun clipped => by omega⟩

/-- A flag that every pass keeps or raises is up at the end when it was up or some pass raised
it. -/
theorem updateEach_raised {Key Value Failure : Type} [DecidableEq Key]
    {body : Key → Value → Bool → Except Failure (Value × Bool)} {Raises : Key → Value → Prop}
    (raised : ∀ key value flag after later, body key value flag = .ok (after, later) →
      (later = true ↔ flag = true ∨ Raises key value))
    {keys : List Key} (distinct : keys.Nodup) {entries after : Key → Value} {flag last : Bool}
    (finished : Loops.updateEach body keys entries flag = .ok (after, last)) :
    last = true ↔ flag = true ∨ ∃ key ∈ keys, Raises key (entries key) := by
  unfold Loops.updateEach at finished
  induction keys generalizing entries flag with
  | nil =>
      cases finished
      simp
  | cons key keys ih =>
      rw [List.foldlM_cons] at finished
      obtain ⟨middle, first, finished⟩ := Loops.bind_ok finished
      obtain ⟨fresh, rest⟩ := List.nodup_cons.mp distinct
      obtain ⟨value, executed, updated⟩ := Loops.updateEntry_ok first
      have later := ih rest finished
      have own := raised _ _ _ _ _ executed
      have kept : (∃ other ∈ keys, Raises other (middle.1 other)) ↔
          ∃ other ∈ keys, Raises other (entries other) := by
        apply exists_congr
        intro other
        apply and_congr_right
        intro member
        have apart : other ≠ key := fun same => fresh (same ▸ member)
        rw [updated, Function.update_of_ne apart]
      rw [later, own, kept, List.exists_mem_cons_iff, or_assoc]

def increment (ledger : EnergyLedger) (session : EnergyValues) (index : Fin 28) : Int :=
  (session.flattenEnergyCounters index).toInt -
    (energyBaseline ledger session.sessionId index).toInt

/-- A family of the sequence number at which its session stands. -/
def Repeated (ledger : EnergyLedger) (family : EnergyFamily) : Prop :=
  ledger.latestEnergy.isSome ∧ family.session.sessionId = ledger.energyState.sessionId ∧
    family.sourceSequence = ledger.energyState.sourceSequence

/-- A family overflows a counter. -/
def Overflows (ledger : EnergyLedger) (session : EnergyValues) : Prop :=
  ∃ index, Int64.maxValue.toInt <
    (ledger.energyState.lifetimeCounters index).toInt + increment ledger session index

theorem totals_raised {ledger : EnergyLedger} {session : EnergyValues}
    {body : Fin 28 → Int64 → Bool → Except Failure (Int64 × Bool)}
    {totals : EnergyCounterArray × Bool}
    (raised : ∀ index value flag after later, body index value flag = .ok (after, later) →
      (later = true ↔ flag = true ∨
        Int64.maxValue.toInt < value.toInt + increment ledger session index))
    (finished : Loops.updateEach body (List.finRange 28) ledger.energyState.lifetimeCounters
      session.saturated = .ok totals) :
    totals.2 = true ↔ session.saturated = true ∨ Overflows ledger session := by
  rw [updateEach_raised raised (List.nodup_finRange 28) finished, Overflows]
  simp only [List.mem_finRange, true_and]

theorem continueLane_raised {ledger : EnergyLedger} {session : EnergyValues}
    (present : ledger.latestEnergy.isSome)
    (same : session.sessionId = ledger.energyState.sessionId) (index : Fin 28)
    (value : Int64) (flag : Bool) (after : Int64) (later : Bool)
    (executed : continueLane session.flattenEnergyCounters ledger.energyState.sessionCounters index
      value flag = .ok (after, later)) :
    later = true ↔ flag = true ∨
      Int64.maxValue.toInt < value.toInt + increment ledger session index := by
  unfold continueLane at executed
  split at executed
  · cases executed
  · next kept =>
      rw [Int64.lt_iff_toInt_lt, not_lt] at kept
      have difference := toInt_sub_of_nonneg kept (saturatingAdd_ok executed).1
      have baseline : energyBaseline ledger session.sessionId =
          ledger.energyState.sessionCounters := if_pos ⟨present, same⟩
      rw [saturatingAdd_raised executed, difference, increment, baseline]

theorem openLane_raised {ledger : EnergyLedger} {session : EnergyValues}
    (fresh : ¬(ledger.latestEnergy.isSome ∧ session.sessionId = ledger.energyState.sessionId))
    (index : Fin 28) (value : Int64) (flag : Bool) (after : Int64) (later : Bool)
    (executed : openLane session.flattenEnergyCounters index value flag = .ok (after, later)) :
    later = true ↔ flag = true ∨
      Int64.maxValue.toInt < value.toInt + increment ledger session index := by
  have baseline : energyBaseline ledger session.sessionId = fun _ => 0 := if_neg fresh
  rw [saturatingAdd_raised executed, increment, baseline, Int64.toInt_zero, sub_zero]

theorem ingestEnergy_raised {ledger after : EnergyLedger} {family : EnergyFamily}
    {stored : Except Failure Unit} {answer : EnergyValues} (fresh : ¬Repeated ledger family)
    (returned : ingestEnergy ledger family stored = .ok (answer, after)) :
    answer.saturated = true ↔
      family.session.saturated = true ∨ Overflows ledger family.session := by
  have flagged : ∀ {totals}, storeEnergy ledger family totals stored = .ok (answer, after) →
      answer.saturated = totals.2 := by
    intro totals written
    obtain ⟨row, -, rfl, -⟩ := storeEnergy_ok written
    rfl
  have opened : ¬(ledger.latestEnergy.isSome ∧
        family.session.sessionId = ledger.energyState.sessionId) →
      (Loops.updateEach (openLane family.session.flattenEnergyCounters) (List.finRange 28)
          ledger.energyState.lifetimeCounters family.session.saturated >>=
        fun totals => storeEnergy ledger family totals stored) = .ok (answer, after) →
      (answer.saturated = true ↔
        family.session.saturated = true ∨ Overflows ledger family.session) := by
    intro apart finished
    obtain ⟨totals, finished, written⟩ := Loops.bind_ok finished
    rw [flagged written]
    exact totals_raised (openLane_raised apart) finished
  unfold ingestEnergy at returned
  simp only at returned
  split at returned
  · cases returned
  split at returned
  · next latest present =>
      have known : ledger.latestEnergy.isSome := by rw [present]; rfl
      split at returned
      · next same =>
          split at returned
          · cases returned
          split at returned
          · next repeated => exact absurd ⟨known, same, repeated⟩ fresh
          · obtain ⟨totals, finished, written⟩ := Loops.bind_ok returned
            rw [flagged written]
            exact totals_raised (continueLane_raised known same) finished
      · next different => exact opened (fun both => different both.2) returned
  · next absent => exact opened (fun both => by rw [absent] at both; cases both.1) returned

/-- The true sum of the accepted increments since the last reset. -/
def noteSum (ledger : EnergyLedger) (sum : Fin 28 → Int) (call : Call) (answer : Answer) :
    Fin 28 → Int :=
  match call, answer with
  | .ingestEnergy family _, .energy _ => fun index =>
      sum index + increment ledger family.session index
  | .resetEnergy _ _, .reset ⟨_, false⟩ => fun _ => 0
  | _, _ => sum

/-- Some lifetime counter is smaller than its true sum. -/
def Clipped (ledger : EnergyLedger) (sum : Fin 28 → Int) : Prop :=
  ∃ index, (ledger.energyState.lifetimeCounters index).toInt < sum index

instance (ledger : EnergyLedger) (sum : Fin 28 → Int) : Decidable (Clipped ledger sum) :=
  inferInstanceAs (Decidable (∃ _, _))

def summing : Machine (EnergyLedger × (Fin 28 → Int)) Call Answer := machine.traced noteSum

/-- An `ingest_energy` that returns shows that a counter is clipped. -/
def ShowsClipped (state : EnergyLedger × (Fin 28 → Int)) (call : Call) : Prop :=
  match call with
  | .ingestEnergy _ _ => ∀ values, summing.answer state call = .energy values →
      Clipped (summing.next state call).1 (summing.next state call).2 → values.saturated = true
  | _ => True

/-- A new family that comes when a counter is clipped reports a saturation of its own, or
overflows a counter once more. -/
def ReportsAgain (state : EnergyLedger × (Fin 28 → Int)) (call : Call) : Prop :=
  match call with
  | .ingestEnergy family _ => ∀ values, summing.answer state call = .energy values →
      ¬Repeated state.1 family → Clipped state.1 state.2 →
        family.session.saturated = true ∨ Overflows state.1 family.session
  | _ => True

/-- The counters are the clamped sums, and the latest snapshot shows when that clips one. -/
structure Shown (ledger : EnergyLedger) (sum : Fin 28 → Int) : Prop where
  persisted : Persisted ledger
  summed : ∀ index, (ledger.energyState.lifetimeCounters index).toInt =
    min Int64.maxValue.toInt (sum index)
  flagged : ∀ latest, ledger.latestEnergy = some latest → Clipped ledger sum →
    latest.saturated = true

theorem shown_empty : Shown {} fun _ => 0 := by
  have cleared : (0 : Int64).toInt = min Int64.maxValue.toInt 0 := by decide
  refine ⟨persisted_empty, fun _ => cleared, ?_⟩
  intro latest known
  cases known

theorem replayed_increment {ledger : EnergyLedger} {family : EnergyFamily} {answer : EnergyValues}
    (replayed : EnergyReplayed ledger family answer) (index : Fin 28) :
    increment ledger family.session index = 0 := by
  have known : ledger.latestEnergy.isSome := by rw [replayed.stored]; rfl
  have content := replayed.content
  simp only [sameEnergyFamily, decide_eq_true_eq] at content
  have baseline : energyBaseline ledger family.session.sessionId =
      ledger.energyState.sessionCounters := if_pos ⟨known, replayed.session⟩
  rw [increment, baseline, content.1, sub_self]

theorem clipped_accepted {ledger after : EnergyLedger} {sum : Fin 28 → Int}
    {family : EnergyFamily} {totals : EnergyCounterArray × Bool} {stored : Except Failure Unit}
    {answer : EnergyValues} (shown : Shown ledger sum)
    (accumulated : Accumulated ledger family.session totals)
    (written : storeEnergy ledger family totals stored = .ok (answer, after)) :
    (∀ index, (after.energyState.lifetimeCounters index).toInt =
        min Int64.maxValue.toInt (sum index + increment ledger family.session index)) ∧
      (Clipped after (fun index => sum index + increment ledger family.session index) ↔
        Clipped ledger sum ∨ Overflows ledger family.session) := by
  obtain ⟨row, -, -, rfl⟩ := storeEnergy_ok written
  have clamped : ∀ index, (totals.1 index).toInt =
      min Int64.maxValue.toInt (sum index + increment ledger family.session index) := by
    intro index
    have grown := accumulated.grown index
    have before := shown.summed index
    have total := accumulated.total index
    unfold increment
    omega
  refine ⟨clamped, ?_⟩
  unfold Clipped Overflows
  rw [← exists_or]
  apply exists_congr
  intro index
  have grown := accumulated.grown index
  have before := shown.summed index
  have later := clamped index
  change (totals.1 index).toInt < sum index + increment ledger family.session index ↔ _
  unfold increment at *
  omega

theorem load_saturated {row : Option EnergyRow} {latest : Option EnergyValues}
    {state : EnergyState} {loaded : Option (EnergyState × EnergyValues)}
    (stored : EnergyStored row latest state) (done : row.mapM loadEnergy = .ok loaded) :
    (loaded.map Prod.snd).map EnergyValues.saturated = latest.map EnergyValues.saturated := by
  cases stored with
  | empty =>
      cases done
      rfl
  | checkpoint stored =>
      obtain ⟨sampleCount, sampleRate, updatedNs, written⟩ := stored.written
      simp only [Option.mapM_some, loadEnergy_persistEnergy written] at done
      cases done
      rfl

theorem reopen_saturated {ledger reopened : EnergyLedger} (persisted : Persisted ledger)
    (opened : reopen ledger.database = .ok reopened) :
    reopened.latestEnergy.map EnergyValues.saturated =
      ledger.latestEnergy.map EnergyValues.saturated := by
  obtain ⟨energy, loaded, rest⟩ := Loops.bind_ok opened
  obtain ⟨demand, -, returned⟩ := Loops.bind_ok rest
  cases returned
  exact load_saturated persisted.energy loaded

theorem shown_congr {ledger after : EnergyLedger} {sum : Fin 28 → Int} (shown : Shown ledger sum)
    (persisted : Persisted after) (state : after.energyState = ledger.energyState)
    (flags : after.latestEnergy.map EnergyValues.saturated =
      ledger.latestEnergy.map EnergyValues.saturated) : Shown after sum := by
  refine ⟨persisted, ?_, ?_⟩
  · rw [state]
    exact shown.summed
  · intro latest known clipped
    rw [known, Option.map_some] at flags
    obtain ⟨before, present, same⟩ := Option.map_eq_some_iff.mp flags.symm
    rw [← same]
    apply shown.flagged before present
    unfold Clipped at clipped ⊢
    rwa [state] at clipped

theorem ingestEnergy_repeated {ledger after : EnergyLedger} {family : EnergyFamily}
    {stored : Except Failure Unit} {answer : EnergyValues} (repeated : Repeated ledger family)
    (returned : ingestEnergy ledger family stored = .ok (answer, after)) :
    EnergyReplayed ledger family answer ∧ after = ledger := by
  obtain ⟨known, same, sequence⟩ := repeated
  obtain ⟨latest, present⟩ := Option.isSome_iff_exists.mp known
  unfold ingestEnergy at returned
  simp only [present] at returned
  split at returned
  · cases returned
  · next negative =>
      have current : ¬family.sourceSequence < ledger.energyState.sourceSequence := by
        rw [sequence]
        exact UInt32.lt_irrefl _
      rw [if_neg current] at returned
      split at returned
      · next content =>
          cases returned
          have nonnegative : ∀ index, 0 ≤ (family.session.flattenEnergyCounters index).toInt := by
            intro index
            have kept := not_exists.mp negative index
            rwa [Int64.lt_iff_toInt_lt, not_lt, Int64.toInt_zero] at kept
          exact ⟨⟨nonnegative, present, same, sequence, content⟩, rfl⟩
      · cases returned

/-- A family that returns shows a clipped counter just when it is a repetition or reports the
saturation again, and then its snapshot shows it to the calls that follow. -/
theorem ingest_shown {ledger after : EnergyLedger} {sum : Fin 28 → Int} {family : EnergyFamily}
    {stored : Except Failure Unit} {answer : EnergyValues} (shown : Shown ledger sum)
    (returned : ingestEnergy ledger family stored = .ok (answer, after)) :
    ((Clipped after (fun index => sum index + increment ledger family.session index) →
        answer.saturated = true) ↔
      (¬Repeated ledger family → Clipped ledger sum →
        family.session.saturated = true ∨ Overflows ledger family.session)) ∧
      ((Clipped after (fun index => sum index + increment ledger family.session index) →
        answer.saturated = true) →
          Shown after fun index => sum index + increment ledger family.session index) := by
  by_cases repeated : Repeated ledger family
  · obtain ⟨replayed, rfl⟩ := ingestEnergy_repeated repeated returned
    have same : (fun index => sum index + increment after family.session index) = sum := by
      funext index
      rw [replayed_increment replayed, add_zero]
    rw [same]
    exact ⟨⟨fun _ fresh => absurd repeated fresh,
      fun _ => shown.flagged answer replayed.stored⟩, fun _ => shown⟩
  · have raised := ingestEnergy_raised repeated returned
    rcases ingestEnergy_cases returned with ⟨replayed, -⟩ | ⟨totals, accumulated, written⟩
    · have known : ledger.latestEnergy.isSome := by rw [replayed.stored]; rfl
      exact absurd ⟨known, replayed.session, replayed.sequence⟩ repeated
    · obtain ⟨summed, clipped⟩ := clipped_accepted shown accumulated written
      obtain ⟨row, -, answered, kept⟩ := storeEnergy_ok written
      refine ⟨?_, ?_⟩
      · rw [clipped, raised]
        constructor
        · exact fun flagged _ before => flagged (Or.inl before)
        · rintro reports (before | overflows)
          · exact reports repeated before
          · exact Or.inr overflows
      · intro flagged
        refine ⟨storeEnergy_persisted shown.persisted written, summed, ?_⟩
        intro latest present
        rw [kept] at present
        cases present
        rw [← answered]
        exact flagged

theorem other_shown {ledger : EnergyLedger} {sum : Fin 28 → Int} {call : Call}
    (shown : Shown ledger sum) (other : ∀ family stored, call ≠ .ingestEnergy family stored) :
    Shown (machine.next ledger call) (noteSum ledger sum call (machine.answer ledger call)) := by
  have step := step_cases ledger call
  have persisted := step_persisted shown.persisted step
  generalize machine.next ledger call = after at step persisted
  generalize machine.answer ledger call = answer at step
  cases step with
  | refused call failure =>
      have same : noteSum ledger sum call (.failed failure) = sum := by cases call <;> rfl
      rw [same]
      exact shown
  | replayedEnergy replayed => exact absurd rfl (other _ _)
  | acceptedEnergy accumulated written => exact absurd rfl (other _ _)
  | replayedDemand => exact shown
  | acceptedDemand _ written =>
      obtain ⟨row, database, -, -, -, rfl⟩ := storeDemand_ok written
      exact shown_congr shown persisted rfl rfl
  | replayedEnergyReset | replayedDemandReset => exact shown
  | resetEnergy _ reset =>
      obtain ⟨-, -, latest, row, audit, present, -, -, rfl⟩ := reset
      have cleared : (0 : Int64).toInt = min Int64.maxValue.toInt 0 := by decide
      refine ⟨persisted, fun _ => cleared, ?_⟩
      rintro values - ⟨index, below⟩
      exact absurd below (lt_irrefl _)
  | resetDemand _ reset =>
      obtain ⟨-, -, latest, row, audit, -, -, -, rfl⟩ := reset
      exact shown_congr shown persisted rfl rfl
  | restarted opened =>
      obtain ⟨reopened, loaded, -, -, state, -⟩ := reopen_persisted shown.persisted
      rw [opened] at loaded
      cases loaded
      exact shown_congr shown persisted state (reopen_saturated shown.persisted opened)
  | unopened refused =>
      obtain ⟨reopened, loaded, -⟩ := reopen_persisted shown.persisted
      rw [refused] at loaded
      cases loaded

theorem step_shown {state : EnergyLedger × (Fin 28 → Int)} {call : Call}
    (shown : Shown state.1 state.2) :
    (ShowsClipped state call ↔ ReportsAgain state call) ∧
      (ShowsClipped state call →
        Shown (summing.next state call).1 (summing.next state call).2) := by
  obtain ⟨ledger, sum⟩ := state
  cases call with
  | ingestEnergy family stored =>
      cases outcome : ingestEnergy ledger family stored with
      | error failure =>
          have kept : summing.step (ledger, sum) (.ingestEnergy family stored) =
              ((ledger, sum), .failed failure) := by
            simp [summing, Machine.traced, Machine.next, Machine.answer, machine, settle, outcome,
              noteSum]
          unfold ShowsClipped ReportsAgain Machine.answer Machine.next
          rw [kept]
          refine ⟨⟨?_, ?_⟩, fun _ => shown⟩
          · rintro shows values ⟨⟩
          · rintro reports values ⟨⟩
      | ok result =>
          obtain ⟨answer, after⟩ := result
          have kept : summing.step (ledger, sum) (.ingestEnergy family stored) =
              ((after, fun index => sum index + increment ledger family.session index),
                .energy answer) := by
            simp [summing, Machine.traced, Machine.next, Machine.answer, machine, settle, outcome,
              noteSum]
          obtain ⟨exact_when, later⟩ := ingest_shown shown outcome
          unfold ShowsClipped ReportsAgain Machine.answer Machine.next
          rw [kept]
          constructor
          · constructor
            · rintro shows values ⟨⟩
              exact exact_when.mp (shows answer rfl)
            · rintro reports values ⟨⟩
              exact exact_when.mpr (reports answer rfl)
          · exact fun shows => later (shows answer rfl)
  | ingestDemand | resetEnergy | resetDemandPeaks | restart =>
      refine ⟨Iff.rfl, fun _ => other_shown shown ?_⟩
      intro family stored same
      cases same

theorem along_shown (calls : List Call) (state : EnergyLedger × (Fin 28 → Int))
    (shown : Shown state.1 state.2) :
    summing.Along ShowsClipped state calls ↔ summing.Along ReportsAgain state calls := by
  induction calls generalizing state with
  | nil => exact Iff.rfl
  | cons call calls ih =>
      obtain ⟨same, later⟩ := @step_shown state call shown
      constructor
      · rintro ⟨shows, rest⟩
        exact ⟨same.mp shows, (ih _ (later shows)).mp rest⟩
      · rintro ⟨reports, rest⟩
        have shows := same.mpr reports
        exact ⟨shows, (ih _ (later shows)).mpr rest⟩

/-- Over every run every snapshot shows a clipped counter exactly when every new family that comes
after the clipping reports it again. -/
theorem saturation_shown_iff (calls : List Call) :
    summing.Along ShowsClipped ({}, fun _ => 0) calls ↔
      summing.Along ReportsAgain ({}, fun _ => 0) calls :=
  along_shown calls ({}, fun _ => 0) shown_empty

/-- Session 7 fills a counter, session 9 overflows it by one and comes again without a change. -/
def clippedThenQuiet : List Call := [
  .ingestEnergy (importFamily 7 1 Int64.maxValue) (.ok ()),
  .ingestEnergy (importFamily 9 1 1) (.ok ()),
  .ingestEnergy (importFamily 9 2 1) (.ok ())]

def shownFlag : Answer → Option Bool
  | .energy values => some values.saturated
  | _ => none

theorem clipped_counter_hidden :
    (summing.answers ({}, fun _ => 0) clippedThenQuiet).map shownFlag =
        [some false, some true, some false] ∧
      Clipped (summing.run ({}, fun _ => 0) clippedThenQuiet).1
        (summing.run ({}, fun _ => 0) clippedThenQuiet).2 ∧
      ¬summing.Along ShowsClipped ({}, fun _ => 0) clippedThenQuiet := by
  have flags : (summing.answers ({}, fun _ => 0) clippedThenQuiet).map shownFlag =
      [some false, some true, some false] := by decide +kernel
  have clipped : Clipped (summing.run ({}, fun _ => 0) clippedThenQuiet).1
      (summing.run ({}, fun _ => 0) clippedThenQuiet).2 := by decide +kernel
  refine ⟨flags, clipped, ?_⟩
  rintro ⟨-, -, shows, -⟩
  have last := (List.cons.inj (List.cons.inj (List.cons.inj flags).2).2).1
  unfold shownFlag at last
  split at last
  · next values answered =>
      have flag := shows values answered clipped
      rw [flag] at last
      cases last
  · cases last

end Msap1.Ledger
