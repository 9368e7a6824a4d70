import Msap1.Ledger.Operations

/-! What each ledger call can do: one inversion lemma a call. -/

namespace Msap1.Ledger

open Meter

theorem saturatingAdd_ok {value delta total : Int64} {before after : Bool}
    (returned : saturatingAdd value delta before = .ok (total, after)) :
    0 ≤ delta.toInt ∧ total.toInt = min Int64.maxValue.toInt (value.toInt + delta.toInt) := by
  have top : Int64.maxValue.toInt = 2 ^ 63 - 1 := by decide
  have valueRange := value.toInt_lt
  have valueLow := value.le_toInt
  have deltaRange := delta.toInt_lt
  unfold saturatingAdd at returned
  split at returned
  · cases returned
  · next nonnegative =>
      rw [Int64.lt_iff_toInt_lt, not_lt, Int64.toInt_zero] at nonnegative
      have room : (Int64.maxValue - delta).toInt = Int64.maxValue.toInt - delta.toInt := by
        rw [Int64.toInt_sub, top]
        apply Int.bmod_eq_of_le <;> omega
      refine ⟨nonnegative, ?_⟩
      split at returned
      · next full =>
          cases returned
          rw [gt_iff_lt, Int64.lt_iff_toInt_lt, room] at full
          omega
      · next fits =>
          cases returned
          rw [gt_iff_lt, Int64.lt_iff_toInt_lt, room, not_lt] at fits
          have exact : (value + delta).toInt = value.toInt + delta.toInt := by
            rw [Int64.toInt_add]
            apply Int.bmod_eq_of_le <;> omega
          omega

theorem saturatingAdd_flag {value delta total : Int64} {before after : Bool}
    (returned : saturatingAdd value delta before = .ok (total, after)) (set : before = true) :
    after = true := by
  unfold saturatingAdd at returned
  split at returned
  · cases returned
  · split at returned
    · cases returned
      rfl
    · cases returned
      exact set

/-- Where the counters of a session stood when its next family arrives. -/
def energyBaseline (ledger : EnergyLedger) (sessionId : UInt64) : EnergyCounterArray :=
  if ledger.latestEnergy.isSome ∧ sessionId = ledger.energyState.sessionId then
    ledger.energyState.sessionCounters
  else fun _ => 0

/-- The totals of an accepted family: every counter grows by what its session added. -/
structure Accumulated (ledger : EnergyLedger) (session : EnergyValues)
    (totals : EnergyCounterArray × Bool) : Prop where
  nonnegative : ∀ index, 0 ≤ (session.flattenEnergyCounters index).toInt
  grown : ∀ index, (energyBaseline ledger session.sessionId index).toInt ≤
    (session.flattenEnergyCounters index).toInt
  total : ∀ index, (totals.1 index).toInt = min Int64.maxValue.toInt
    ((ledger.energyState.lifetimeCounters index).toInt +
      ((session.flattenEnergyCounters index).toInt -
        (energyBaseline ledger session.sessionId index).toInt))
  saturated : session.saturated = true → totals.2 = true

theorem toInt_sub_of_nonneg {left right : Int64} (kept : right.toInt ≤ left.toInt)
    (positive : 0 ≤ (left - right).toInt) : (left - right).toInt = left.toInt - right.toInt := by
  rw [Int64.toInt_sub] at positive ⊢
  have high := left.toInt_lt
  have low := right.le_toInt
  rcases lt_or_ge (left.toInt - right.toInt) (2 ^ 63) with small | large
  · apply Int.bmod_eq_of_le <;> omega
  · exfalso
    have wrapped : (left.toInt - right.toInt).bmod (2 ^ 64) =
        left.toInt - right.toInt - 2 ^ 64 := by
      rw [← Int.sub_bmod_right]
      apply Int.bmod_eq_of_le <;> omega
    omega

theorem continueLane_ok {counters sessionCounters : EnergyCounterArray} {index : Fin 28}
    {lifetime total : Int64} {before after : Bool}
    (returned : continueLane counters sessionCounters index lifetime before = .ok (total, after)) :
    (sessionCounters index).toInt ≤ (counters index).toInt ∧
      total.toInt = min Int64.maxValue.toInt (lifetime.toInt +
        ((counters index).toInt - (sessionCounters index).toInt)) := by
  unfold continueLane at returned
  split at returned
  · cases returned
  · next kept =>
      rw [Int64.lt_iff_toInt_lt, not_lt] at kept
      obtain ⟨positive, sum⟩ := saturatingAdd_ok returned
      rw [toInt_sub_of_nonneg kept positive] at sum
      exact ⟨kept, sum⟩

theorem continue_accumulated {ledger : EnergyLedger} {session : EnergyValues}
    {totals : EnergyCounterArray × Bool}
    (nonnegative : ∀ index, 0 ≤ (session.flattenEnergyCounters index).toInt)
    (present : ledger.latestEnergy.isSome)
    (same : session.sessionId = ledger.energyState.sessionId)
    (finished : Loops.updateEach
      (continueLane session.flattenEnergyCounters ledger.energyState.sessionCounters)
      (List.finRange 28) ledger.energyState.lifetimeCounters session.saturated = .ok totals) :
    Accumulated ledger session totals := by
  obtain ⟨each, -⟩ := Loops.updateEach_ok (List.nodup_finRange 28) finished
  have baseline : energyBaseline ledger session.sessionId = ledger.energyState.sessionCounters :=
    if_pos ⟨present, same⟩
  refine ⟨nonnegative, fun index => ?_, fun index => ?_, ?_⟩
  · obtain ⟨before, after, executed⟩ := each index (List.mem_finRange index)
    rw [baseline]
    exact (continueLane_ok executed).1
  · obtain ⟨before, after, executed⟩ := each index (List.mem_finRange index)
    rw [baseline]
    exact (continueLane_ok executed).2
  · refine Loops.updateEach_flag (· = true) ?_ finished
    intro index lifetime before total after executed
    unfold continueLane at executed
    split at executed
    · cases executed
    · exact saturatingAdd_flag executed

theorem open_accumulated {ledger : EnergyLedger} {session : EnergyValues}
    {totals : EnergyCounterArray × Bool}
    (nonnegative : ∀ index, 0 ≤ (session.flattenEnergyCounters index).toInt)
    (fresh : ¬ (ledger.latestEnergy.isSome ∧ session.sessionId = ledger.energyState.sessionId))
    (finished : Loops.updateEach (openLane session.flattenEnergyCounters)
      (List.finRange 28) ledger.energyState.lifetimeCounters session.saturated = .ok totals) :
    Accumulated ledger session totals := by
  obtain ⟨each, -⟩ := Loops.updateEach_ok (List.nodup_finRange 28) finished
  have baseline : energyBaseline ledger session.sessionId = fun _ => 0 := if_neg fresh
  refine ⟨nonnegative, fun index => ?_, fun index => ?_, ?_⟩
  · rw [baseline]
    exact nonnegative index
  · obtain ⟨before, after, executed⟩ := each index (List.mem_finRange index)
    rw [baseline, Int64.toInt_zero, sub_zero]
    exact (saturatingAdd_ok executed).2
  · exact Loops.updateEach_flag (· = true)
      (fun _ _ _ _ _ executed => saturatingAdd_flag executed) finished

/-- A repeated family: the ledger answers what it stored and stays as it is. -/
structure EnergyReplayed (ledger : EnergyLedger) (family : EnergyFamily)
    (answer : EnergyValues) : Prop where
  nonnegative : ∀ index, 0 ≤ (family.session.flattenEnergyCounters index).toInt
  stored : ledger.latestEnergy = some answer
  session : family.session.sessionId = ledger.energyState.sessionId
  sequence : family.sourceSequence = ledger.energyState.sourceSequence
  content : sameEnergyFamily family.session answer ledger.energyState family.generation = true

theorem ingestEnergy_cases {ledger after : EnergyLedger} {family : EnergyFamily}
    {stored : Except Failure Unit} {answer : EnergyValues}
    (returned : ingestEnergy ledger family stored = .ok (answer, after)) :
    (EnergyReplayed ledger family answer ∧ after = ledger) ∨
      ∃ totals, Accumulated ledger family.session totals ∧
        storeEnergy ledger family totals stored = .ok (answer, after) := by
  unfold ingestEnergy at returned
  simp only at returned
  split at returned
  · cases returned
  · next negative =>
      have nonnegative : ∀ index, 0 ≤ (family.session.flattenEnergyCounters index).toInt := by
        intro index
        have kept := not_exists.mp negative index
        rwa [Int64.lt_iff_toInt_lt, not_lt, Int64.toInt_zero] at kept
      have opened : ¬ (ledger.latestEnergy.isSome ∧
            family.session.sessionId = ledger.energyState.sessionId) →
          (Loops.updateEach (openLane family.session.flattenEnergyCounters) (List.finRange 28)
              ledger.energyState.lifetimeCounters family.session.saturated >>=
            fun totals => storeEnergy ledger family totals stored) = .ok (answer, after) →
          ∃ totals, Accumulated ledger family.session totals ∧
            storeEnergy ledger family totals stored = .ok (answer, after) := by
        intro fresh finished
        obtain ⟨totals, finished, written⟩ := Loops.bind_ok finished
        exact ⟨totals, open_accumulated nonnegative fresh finished, written⟩
      split at returned
      · next latest present =>
          split at returned
          · next same =>
              split at returned
              · cases returned
              · split at returned
                · next repeated =>
                    split at returned
                    · next content =>
                        cases returned
                        exact .inl ⟨⟨nonnegative, present, same, repeated, content⟩, rfl⟩
                    · cases returned
                · obtain ⟨totals, finished, written⟩ := Loops.bind_ok returned
                  have known : ledger.latestEnergy.isSome := by rw [present]; rfl
                  exact .inr ⟨totals, continue_accumulated nonnegative known same finished,
                    written⟩
          · next different => exact .inr (opened (fun both => different both.2) returned)
      · next absent =>
          exact .inr (opened (fun both => by rw [absent] at both; cases both.1) returned)

theorem storeEnergy_ok {ledger after : EnergyLedger} {family : EnergyFamily}
    {totals : EnergyCounterArray × Bool} {stored : Except Failure Unit} {answer : EnergyValues}
    (returned : storeEnergy ledger family totals stored = .ok (answer, after)) :
    ∃ row, persistEnergy (energyResult family ledger.energyState.epoch totals)
        (energyNext family ledger.energyState totals.1) family.session.familyWindow.sampleCount
        (sampleRate family.session.familyWindow) family.ingestedAtNanoseconds = .ok row ∧
      answer = energyResult family ledger.energyState.epoch totals ∧
      after = { ledger with
        database := { ledger.database with energyState := some row }
        energyState := energyNext family ledger.energyState totals.1
        latestEnergy := some (energyResult family ledger.energyState.epoch totals) } := by
  obtain ⟨row, persisted, returned⟩ := Loops.bind_ok returned
  obtain ⟨-, -, returned⟩ := Loops.bind_ok returned
  cases returned
  exact ⟨row, persisted, rfl, rfl⟩

/-- What an effective reset does to the energy half. -/
structure EnergyReset (ledger : EnergyLedger) (request : ResetRequest)
    (after : EnergyLedger) : Prop where
  unused : replayedEpoch ledger.database.energyResetAudit request.idempotencyKey = none
  expected : request.expectedEpoch = ledger.energyState.epoch
  changed : ∃ latest row audit, ledger.latestEnergy = some latest ∧
    persistEnergy (resetEnergyValues latest (resetEnergyState ledger.energyState))
      (resetEnergyState ledger.energyState) latest.familyWindow.sampleCount
      (sampleRate latest.familyWindow) request.requestedAtNanoseconds = .ok row ∧
    auditRow request ledger.energyState.epoch (ledger.energyState.epoch + 1) = .ok audit ∧
    after = { ledger with
      database := { ledger.database with
        energyState := some row
        energyResetAudit := ledger.database.energyResetAudit ++ [audit] }
      energyState := resetEnergyState ledger.energyState
      latestEnergy := some (resetEnergyValues latest (resetEnergyState ledger.energyState)) }

theorem resetEnergy_cases {ledger after : EnergyLedger} {request : ResetRequest}
    {stored : Except Failure Unit} {result : ResetResult}
    (returned : resetEnergy ledger request stored = .ok (result, after)) :
    validateReset request = .ok () ∧
      ((∃ epoch, replayedEpoch ledger.database.energyResetAudit request.idempotencyKey =
          some epoch ∧ result = ⟨epoch, true⟩ ∧ after = ledger) ∨
        (EnergyReset ledger request after ∧ result = ⟨ledger.energyState.epoch + 1, false⟩)) := by
  obtain ⟨⟨⟩, valid, returned⟩ := Loops.bind_ok returned
  refine ⟨valid, ?_⟩
  split at returned
  · next epoch replayed =>
      cases returned
      exact .inl ⟨epoch, replayed, rfl, rfl⟩
  · next unused =>
      split at returned
      · cases returned
      · next latest present =>
          split at returned
          · cases returned
          · next expected =>
              obtain ⟨row, persisted, returned⟩ := Loops.bind_ok returned
              obtain ⟨audit, audited, returned⟩ := Loops.bind_ok returned
              obtain ⟨-, -, returned⟩ := Loops.bind_ok returned
              cases returned
              exact .inr ⟨⟨unused, not_not.mp expected, latest, row, audit, present, persisted,
                audited, rfl⟩, rfl⟩

/-- The checks a demand family passes before the ledger looks at its own state. -/
structure DemandWellFormed (session : DemandValues) : Prop where
  profile : ¬ (session.profileGeneration = 0 ∨ session.windowSeconds = 0 ∨
    session.updateSeconds = 0)
  importNonnegative : ∀ index, 0 ≤ (flattenDemandValues session.importPeak index).toInt
  exportNonnegative : ∀ index, 0 ≤ (flattenDemandValues session.exportPeak index).toInt

/-- A repeated interval of the current profile instance. -/
structure DemandReplayed (ledger : EnergyLedger) (family : DemandFamily)
    (answer : DemandValues) : Prop where
  wellFormed : DemandWellFormed family.session
  stored : ledger.latestDemand = some answer
  sameInstance : sameProfileInstance ledger family.session = true
  sequence : family.sourceSequence = ledger.demandState.sourceSequence
  content : sameDemandFamily family.session answer ledger.demandState family.generation = true

/-- A new interval: it continues the current profile instance only with a later sequence. -/
structure DemandAccepted (ledger : EnergyLedger) (family : DemandFamily)
    (start : DemandState) : Prop where
  wellFormed : DemandWellFormed family.session
  later : sameProfileInstance ledger family.session = true →
    ledger.demandState.sourceSequence < family.sourceSequence
  start : demandEpochState ledger family.session = .ok start

theorem ingestDemand_cases {ledger after : EnergyLedger} {family : DemandFamily}
    {stored : Except Failure Unit} {answer : DemandValues}
    (returned : ingestDemand ledger family stored = .ok (answer, after)) :
    (DemandReplayed ledger family answer ∧ after = ledger) ∨
      ∃ start, DemandAccepted ledger family start ∧
        storeDemand ledger family start stored = .ok (answer, after) := by
  unfold ingestDemand at returned
  simp only at returned
  split at returned
  · cases returned
  · next profile =>
    split at returned
    · cases returned
    · next negative =>
        have nonnegative : ∀ index,
            0 ≤ (flattenDemandValues family.session.importPeak index).toInt ∧
            0 ≤ (flattenDemandValues family.session.exportPeak index).toInt := by
          intro index
          have kept := not_exists.mp negative index
          rw [not_or, Int64.lt_iff_toInt_lt, Int64.lt_iff_toInt_lt, not_lt, not_lt,
            Int64.toInt_zero] at kept
          exact kept
        have wellFormed : DemandWellFormed family.session :=
          ⟨profile, fun index => (nonnegative index).1, fun index => (nonnegative index).2⟩
        split at returned
        · next latest present =>
            split at returned
            · cases returned
            · next fresh =>
                split at returned
                · next repeated =>
                    split at returned
                    · next content =>
                        cases returned
                        exact .inl ⟨⟨wellFormed, present, repeated.1, repeated.2, content⟩, rfl⟩
                    · cases returned
                · next distinct =>
                    obtain ⟨start, started, written⟩ := Loops.bind_ok returned
                    refine .inr ⟨start, ⟨wellFormed, ?_, started⟩, written⟩
                    intro same
                    have reached : ledger.demandState.sourceSequence ≤ family.sourceSequence :=
                      UInt32.not_lt.mp (fun lower => fresh ⟨same, lower⟩)
                    exact UInt32.lt_of_le_of_ne reached
                      (fun equal => distinct ⟨same, equal.symm⟩)
        · next absent =>
            obtain ⟨start, started, written⟩ := Loops.bind_ok returned
            refine .inr ⟨start, ⟨wellFormed, ?_, started⟩, written⟩
            intro same
            simp [sameProfileInstance, sameSession, absent] at same

theorem recordHistory_keeps {ledger : EnergyLedger} {result : DemandValues} {next : DemandState}
    {ingestedAtNanoseconds : Int64} {database after : Database}
    (returned : recordHistory ledger result next ingestedAtNanoseconds database = .ok after) :
    after.energyState = database.energyState ∧ after.demandState = database.demandState ∧
      after.energyResetAudit = database.energyResetAudit ∧
      after.demandResetAudit = database.demandResetAudit := by
  unfold recordHistory at returned
  split at returned
  · obtain ⟨energyHistory, -, returned⟩ := Loops.bind_ok returned
    obtain ⟨demandHistory, -, returned⟩ := Loops.bind_ok returned
    cases returned
    exact ⟨rfl, rfl, rfl, rfl⟩
  · cases returned
    exact ⟨rfl, rfl, rfl, rfl⟩

theorem storeDemand_ok {ledger after : EnergyLedger} {family : DemandFamily}
    {start : DemandState} {stored : Except Failure Unit} {answer : DemandValues}
    (returned : storeDemand ledger family start stored = .ok (answer, after)) :
    ∃ row database, persistDemand (demandResult family start) (demandNext family start)
        family.session.familyWindow.sampleCount (sampleRate family.session.familyWindow)
        family.ingestedAtNanoseconds = .ok row ∧
      recordHistory ledger (demandResult family start) (demandNext family start)
        family.ingestedAtNanoseconds { ledger.database with demandState := some row } =
          .ok database ∧
      answer = demandResult family start ∧
      after = { ledger with
        database
        demandState := demandNext family start
        latestDemand := some (demandResult family start) } := by
  obtain ⟨row, persisted, returned⟩ := Loops.bind_ok returned
  obtain ⟨database, recorded, returned⟩ := Loops.bind_ok returned
  obtain ⟨-, -, returned⟩ := Loops.bind_ok returned
  cases returned
  exact ⟨row, database, persisted, recorded, rfl, rfl⟩

structure DemandReset (ledger : EnergyLedger) (request : ResetRequest)
    (after : EnergyLedger) : Prop where
  unused : replayedEpoch ledger.database.demandResetAudit request.idempotencyKey = none
  expected : request.expectedEpoch = ledger.demandState.epoch
  changed : ∃ latest row audit, ledger.latestDemand = some latest ∧
    persistDemand (assignPeaks latest (resetDemandState ledger.demandState))
      (resetDemandState ledger.demandState) latest.familyWindow.sampleCount
      (sampleRate latest.familyWindow) request.requestedAtNanoseconds = .ok row ∧
    auditRow request ledger.demandState.epoch (ledger.demandState.epoch + 1) = .ok audit ∧
    after = { ledger with
      database := { ledger.database with
        demandState := some row
        demandResetAudit := ledger.database.demandResetAudit ++ [audit] }
      demandState := resetDemandState ledger.demandState
      latestDemand := some (assignPeaks latest (resetDemandState ledger.demandState)) }

theorem resetDemandPeaks_cases {ledger after : EnergyLedger} {request : ResetRequest}
    {stored : Except Failure Unit} {result : ResetResult}
    (returned : resetDemandPeaks ledger request stored = .ok (result, after)) :
    validateReset request = .ok () ∧
      ((∃ epoch, replayedEpoch ledger.database.demandResetAudit request.idempotencyKey =
          some epoch ∧ result = ⟨epoch, true⟩ ∧ after = ledger) ∨
        (DemandReset ledger request after ∧ result = ⟨ledger.demandState.epoch + 1, false⟩)) := by
  obtain ⟨⟨⟩, valid, returned⟩ := Loops.bind_ok returned
  refine ⟨valid, ?_⟩
  split at returned
  · next epoch replayed =>
      cases returned
      exact .inl ⟨epoch, replayed, rfl, rfl⟩
  · next unused =>
      split at returned
      · cases returned
      · next latest present =>
          split at returned
          · cases returned
          · next expected =>
              obtain ⟨row, persisted, returned⟩ := Loops.bind_ok returned
              obtain ⟨audit, audited, returned⟩ := Loops.bind_ok returned
              obtain ⟨-, -, returned⟩ := Loops.bind_ok returned
              cases returned
              exact .inr ⟨⟨unused, not_not.mp expected, latest, row, audit, present, persisted,
                audited, rfl⟩, rfl⟩

/-- Everything one call can do to the ledger, with what it answers. -/
inductive Step (ledger : EnergyLedger) : Call → EnergyLedger → Answer → Prop where
  | refused (call : Call) (failure : Failure) (notRestart : call ≠ .restart) :
      Step ledger call ledger (.failed failure)
  | replayedEnergy {family stored answer} (replayed : EnergyReplayed ledger family answer) :
      Step ledger (.ingestEnergy family stored) ledger (.energy answer)
  | acceptedEnergy {family stored totals answer after}
      (accumulated : Accumulated ledger family.session totals)
      (written : storeEnergy ledger family totals stored = .ok (answer, after)) :
      Step ledger (.ingestEnergy family stored) after (.energy answer)
  | replayedDemand {family stored answer} (replayed : DemandReplayed ledger family answer) :
      Step ledger (.ingestDemand family stored) ledger (.demand answer)
  | acceptedDemand {family stored start answer after}
      (accepted : DemandAccepted ledger family start)
      (written : storeDemand ledger family start stored = .ok (answer, after)) :
      Step ledger (.ingestDemand family stored) after (.demand answer)
  | replayedEnergyReset {request stored epoch} (valid : validateReset request = .ok ())
      (known : replayedEpoch ledger.database.energyResetAudit request.idempotencyKey =
        some epoch) :
      Step ledger (.resetEnergy request stored) ledger (.reset ⟨epoch, true⟩)
  | resetEnergy {request stored after} (valid : validateReset request = .ok ())
      (reset : EnergyReset ledger request after) :
      Step ledger (.resetEnergy request stored) after
        (.reset ⟨ledger.energyState.epoch + 1, false⟩)
  | replayedDemandReset {request stored epoch} (valid : validateReset request = .ok ())
      (known : replayedEpoch ledger.database.demandResetAudit request.idempotencyKey =
        some epoch) :
      Step ledger (.resetDemandPeaks request stored) ledger (.reset ⟨epoch, true⟩)
  | resetDemand {request stored after} (valid : validateReset request = .ok ())
      (reset : DemandReset ledger request after) :
      Step ledger (.resetDemandPeaks request stored) after
        (.reset ⟨ledger.demandState.epoch + 1, false⟩)
  | restarted {reopened} (opened : reopen ledger.database = .ok reopened) :
      Step ledger .restart reopened .reopened
  | unopened {failure} (refused : reopen ledger.database = .error failure) :
      Step ledger .restart { database := ledger.database } (.failed failure)

theorem step_cases (ledger : EnergyLedger) (call : Call) :
    Step ledger call (machine.next ledger call) (machine.answer ledger call) := by
  unfold Machine.next Machine.answer
  cases call with
  | ingestEnergy family stored =>
      simp only [machine]
      cases outcome : ingestEnergy ledger family stored with
      | error failure => exact .refused _ _ (by simp)
      | ok result =>
          obtain ⟨answer, after⟩ := result
          rcases ingestEnergy_cases outcome with ⟨replayed, rfl⟩ | ⟨totals, accumulated, written⟩
          · exact .replayedEnergy replayed
          · exact .acceptedEnergy accumulated written
  | ingestDemand family stored =>
      simp only [machine]
      cases outcome : ingestDemand ledger family stored with
      | error failure => exact .refused _ _ (by simp)
      | ok result =>
          obtain ⟨answer, after⟩ := result
          rcases ingestDemand_cases outcome with ⟨replayed, rfl⟩ | ⟨start, accepted, written⟩
          · exact .replayedDemand replayed
          · exact .acceptedDemand accepted written
  | resetEnergy request stored =>
      simp only [machine]
      cases outcome : resetEnergy ledger request stored with
      | error failure => exact .refused _ _ (by simp)
      | ok result =>
          obtain ⟨answer, after⟩ := result
          obtain ⟨valid, ⟨epoch, known, rfl, rfl⟩ | ⟨reset, rfl⟩⟩ := resetEnergy_cases outcome
          · exact .replayedEnergyReset valid known
          · exact .resetEnergy valid reset
  | resetDemandPeaks request stored =>
      simp only [machine]
      cases outcome : resetDemandPeaks ledger request stored with
      | error failure => exact .refused _ _ (by simp)
      | ok result =>
          obtain ⟨answer, after⟩ := result
          obtain ⟨valid, ⟨epoch, known, rfl, rfl⟩ | ⟨reset, rfl⟩⟩ := resetDemandPeaks_cases outcome
          · exact .replayedDemandReset valid known
          · exact .resetDemand valid reset
  | restart =>
      simp only [machine]
      cases outcome : reopen ledger.database with
      | error failure => exact .unopened outcome
      | ok reopened => exact .restarted outcome

end Msap1.Ledger
