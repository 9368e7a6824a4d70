import Msap1.Ledger.Persistence

/-! Resets take effect once for each idempotency key, and the audit tables tell every epoch. -/

namespace Msap1.Ledger

open Meter

inductive EpochEnd where
  | reset (idempotencyKey : String)
  | profileChange
  deriving DecidableEq, Repr

def resetKeys (history : List EpochEnd) : List String :=
  history.filterMap (fun ended => match ended with
    | .reset key => some key
    | .profileChange => none)

/-- The rows a history leaves: each reset with the epochs around it. -/
def auditRows (history : List EpochEnd) : List (String × Int × Int) :=
  history.zipIdx.filterMap (fun (ended, position) => match ended with
    | .reset key => some (key, (position : Int), (position : Int) + 1)
    | .profileChange => none)

def AuditRow.entry (row : AuditRow) : String × Int × Int :=
  (row.idempotencyKey, row.previousEpoch.toInt, row.resultingEpoch.toInt)

/-- An audit table tells the history, the epoch counts it, and no key comes twice. -/
structure Audited (audit : List AuditRow) (epoch : UInt64) (history : List EpochEnd) : Prop where
  rows : audit.map AuditRow.entry = auditRows history
  epoch : epoch.toNat = history.length
  keys : (resetKeys history).Nodup

theorem audited_empty : Audited [] 0 [] := ⟨rfl, rfl, List.nodup_nil⟩

theorem auditRows_concat_reset (history : List EpochEnd) (key : String) :
    auditRows (history ++ [.reset key]) =
      auditRows history ++ [(key, (history.length : Int), (history.length : Int) + 1)] := by
  simp [auditRows, List.zipIdx_append]

theorem auditRows_concat_profileChange (history : List EpochEnd) :
    auditRows (history ++ [.profileChange]) = auditRows history := by
  simp [auditRows, List.zipIdx_append]

theorem resetKeys_concat_reset (history : List EpochEnd) (key : String) :
    resetKeys (history ++ [.reset key]) = resetKeys history ++ [key] := by
  simp [resetKeys]

theorem resetKeys_concat_profileChange (history : List EpochEnd) :
    resetKeys (history ++ [.profileChange]) = resetKeys history := by
  simp [resetKeys]

theorem mem_auditRows {history : List EpochEnd} {entry : String × Int × Int}
    (member : entry ∈ auditRows history) :
    ∃ position : Nat, history[position]? = some (.reset entry.1) ∧
      entry.2.2 = (position : Int) + 1 := by
  obtain ⟨⟨ended, position⟩, inside, produced⟩ := List.mem_filterMap.mp member
  cases ended with
  | profileChange => cases produced
  | reset key =>
      cases produced
      exact ⟨position, List.mem_zipIdx_iff_getElem?.mp inside, rfl⟩

theorem keys_auditRows (history : List EpochEnd) :
    (auditRows history).map Prod.fst = resetKeys history := by
  induction history using List.reverseRecOn with
  | nil => rfl
  | append_singleton history ended ih =>
      cases ended with
      | reset key => rw [auditRows_concat_reset, resetKeys_concat_reset, List.map_append, ih]; rfl
      | profileChange => rw [auditRows_concat_profileChange, resetKeys_concat_profileChange, ih]

theorem toNat_toUInt64 {column : Int64} {value : Nat} (known : column.toInt = value) :
    column.toUInt64.toNat = value := by
  change column.toBitVec.toNat = value
  change column.toBitVec.toInt = value at known
  rw [BitVec.toInt_eq_toNat_cond] at known
  have wide := column.toBitVec.isLt
  split at known <;> omega

theorem toInt_toInt64 {value : UInt64} (small : value ≤ int64Max) :
    value.toInt64.toInt = value.toNat := by
  have limit : int64Max.toNat = 2 ^ 63 - 1 := by decide
  rw [UInt64.le_iff_toNat_le, limit] at small
  rw [Int64.toInt, UInt64.toBitVec_toInt64, BitVec.toInt_eq_toNat_bmod, UInt64.toNat_toBitVec]
  apply Int.bmod_eq_of_le <;> omega

theorem toNat_succ {epoch : UInt64} (bounded : epoch ≤ int64Max) :
    (epoch + 1).toNat = epoch.toNat + 1 := by
  have limit : int64Max.toNat = 2 ^ 63 - 1 := by decide
  rw [UInt64.le_iff_toNat_le, limit] at bounded
  rw [UInt64.toNat_add, UInt64.toNat_one]
  omega

theorem auditRow_entry {request : ResetRequest} {previous resulting : UInt64} {row : AuditRow}
    (returned : auditRow request previous resulting = .ok row) :
    row.entry = (request.idempotencyKey, (previous.toNat : Int), (resulting.toNat : Int)) := by
  obtain ⟨previousColumn, previousBound, returned⟩ := Loops.bind_ok returned
  obtain ⟨resultingColumn, resultingBound, returned⟩ := Loops.bind_ok returned
  cases returned
  obtain ⟨rfl, previousSmall⟩ := bindUnsigned_ok previousBound
  obtain ⟨rfl, resultingSmall⟩ := bindUnsigned_ok resultingBound
  simp only [AuditRow.entry, toInt_toInt64 previousSmall, toInt_toInt64 resultingSmall]

section Replay

variable {audit : List AuditRow} {epoch : UInt64} {history : List EpochEnd}

theorem replayedEpoch_some (audited : Audited audit epoch history) {key : String}
    {resulting : UInt64} (known : replayedEpoch audit key = some resulting) :
    ∃ position : Nat, history[position]? = some (.reset key) ∧ resulting.toNat = position + 1 := by
  obtain ⟨row, found, rfl⟩ := Option.map_eq_some_iff.mp known
  have member : row.entry ∈ auditRows history := by
    rw [← audited.rows]
    exact List.mem_map_of_mem (List.mem_of_find?_eq_some found)
  obtain ⟨position, recorded, resulting⟩ := mem_auditRows member
  have same : row.idempotencyKey = key := by simpa using List.find?_some found
  refine ⟨position, ?_, ?_⟩
  · rw [← same]
    exact recorded
  · exact toNat_toUInt64 resulting

theorem replayedEpoch_none (audited : Audited audit epoch history) {key : String} :
    replayedEpoch audit key = none ↔ key ∉ resetKeys history := by
  rw [← keys_auditRows, ← audited.rows, replayedEpoch, Option.map_eq_none_iff,
    List.find?_eq_none, List.map_map]
  simp [AuditRow.entry]

theorem audited_reset (audited : Audited audit epoch history) (bounded : epoch ≤ int64Max)
    {request : ResetRequest} {row : AuditRow}
    (unused : replayedEpoch audit request.idempotencyKey = none)
    (written : auditRow request epoch (epoch + 1) = .ok row) :
    Audited (audit ++ [row]) (epoch + 1) (history ++ [.reset request.idempotencyKey]) := by
  have entry := auditRow_entry written
  rw [toNat_succ bounded, audited.epoch] at entry
  refine ⟨?_, ?_, ?_⟩
  · rw [List.map_append, auditRows_concat_reset, audited.rows, List.map_singleton, entry]
    push_cast
    rfl
  · rw [toNat_succ bounded, audited.epoch, List.length_append, List.length_singleton]
  · rw [resetKeys_concat_reset]
    have fresh := (replayedEpoch_none audited).mp unused
    exact List.nodup_append.mpr ⟨audited.keys, List.nodup_singleton _, fun used member key single =>
      fun same => fresh (by rw [← List.mem_singleton.mp single, ← same]; exact member)⟩

theorem audited_profileChange (audited : Audited audit epoch history)
    (bounded : epoch ≤ int64Max) : Audited audit (epoch + 1) (history ++ [.profileChange]) := by
  refine ⟨?_, ?_, ?_⟩
  · rw [auditRows_concat_profileChange]
    exact audited.rows
  · rw [toNat_succ bounded, audited.epoch, List.length_append, List.length_singleton]
  · rw [resetKeys_concat_profileChange]
    exact audited.keys

end Replay

theorem energyEpoch_bounded {ledger : EnergyLedger} (persisted : Persisted ledger) :
    ledger.energyState.epoch ≤ int64Max := by
  have stored := persisted.energy
  generalize ledger.database.energyState = row, ledger.latestEnergy = latest,
    ledger.energyState = state at stored
  cases stored with
  | empty => exact UInt64.le_iff_toNat_le.mpr (by decide)
  | checkpoint stored =>
      obtain ⟨sampleCount, sampleRate, updatedNs, written⟩ := stored.written
      exact persistEnergy_epoch written

theorem demandEpoch_bounded {ledger : EnergyLedger} (persisted : Persisted ledger) :
    ledger.demandState.epoch ≤ int64Max := by
  have stored := persisted.demand
  generalize ledger.database.demandState = row, ledger.latestDemand = latest,
    ledger.demandState = state at stored
  cases stored with
  | empty => exact UInt64.le_iff_toNat_le.mpr (by decide)
  | checkpoint stored =>
      obtain ⟨sampleCount, sampleRate, updatedNs, written⟩ := stored.written
      exact persistDemand_epoch written

/-- The epochs that ended so far, in each half of the ledger. -/
structure EpochHistory where
  energy : List EpochEnd := []
  demand : List EpochEnd := []

def noteEpochs (ledger : EnergyLedger) (history : EpochHistory) (call : Call) (answer : Answer) :
    EpochHistory :=
  match call, answer with
  | .resetEnergy request _, .reset ⟨_, false⟩ =>
      { history with energy := history.energy ++ [.reset request.idempotencyKey] }
  | .resetDemandPeaks request _, .reset ⟨_, false⟩ =>
      { history with demand := history.demand ++ [.reset request.idempotencyKey] }
  | .ingestDemand family _, .demand _ =>
      if profileChanged ledger family.session then
        { history with demand := history.demand ++ [.profileChange] }
      else history
  | _, _ => history

def epochHistory (calls : List Call) : EpochHistory :=
  ((machine.traced noteEpochs).run ({}, {}) calls).2

structure LedgerAudited (ledger : EnergyLedger) (history : EpochHistory) : Prop where
  energy : Audited ledger.database.energyResetAudit ledger.energyState.epoch history.energy
  demand : Audited ledger.database.demandResetAudit ledger.demandState.epoch history.demand
  onlyResets : EpochEnd.profileChange ∉ history.energy

theorem demandEpochState_epoch {ledger : EnergyLedger} {session : DemandValues}
    {start : DemandState} (returned : demandEpochState ledger session = .ok start) :
    start.epoch = if profileChanged ledger session then ledger.demandState.epoch + 1
      else ledger.demandState.epoch := by
  unfold demandEpochState at returned
  simp only at returned
  split at returned
  · next changed =>
      cases returned
      rw [if_pos changed]
  · next kept =>
      rw [if_neg kept]
      split at returned
      · cases returned
        rfl
      · split at returned
        · cases returned
        · cases returned
          rfl

theorem step_audited {ledger after : EnergyLedger} {history : EpochHistory} {call : Call}
    {answer : Answer} (persisted : Persisted ledger) (audited : LedgerAudited ledger history)
    (step : Step ledger call after answer) :
    LedgerAudited after (noteEpochs ledger history call answer) := by
  cases step with
  | refused call failure => cases call <;> exact audited
  | replayedEnergy => exact audited
  | acceptedEnergy _ written =>
      obtain ⟨row, -, -, rfl⟩ := storeEnergy_ok written
      exact ⟨audited.energy, audited.demand, audited.onlyResets⟩
  | @replayedDemand family stored answer replayed =>
      have kept : profileChanged ledger family.session = false := by
        have same := replayed.sameInstance
        simp only [sameProfileInstance, decide_eq_true_eq] at same
        simp [profileChanged, same.2.1, same.2.2]
      simp only [noteEpochs, kept]
      exact audited
  | @acceptedDemand family stored start answer after accepted written =>
      obtain ⟨row, database, -, recorded, -, rfl⟩ := storeDemand_ok written
      obtain ⟨-, -, energyAudit, demandAudit⟩ := recordHistory_keeps recorded
      have epoch := demandEpochState_epoch accepted.start
      simp only [noteEpochs]
      split
      · next changed =>
          rw [if_pos changed] at epoch
          refine ⟨?_, ?_, audited.onlyResets⟩
          · rw [energyAudit]
            exact audited.energy
          · rw [demandAudit]
            change Audited _ start.epoch _
            rw [epoch]
            exact audited_profileChange audited.demand (demandEpoch_bounded persisted)
      · next kept =>
          rw [if_neg kept] at epoch
          refine ⟨?_, ?_, audited.onlyResets⟩
          · rw [energyAudit]
            exact audited.energy
          · rw [demandAudit]
            change Audited _ start.epoch _
            rw [epoch]
            exact audited.demand
  | replayedEnergyReset | replayedDemandReset => exact audited
  | resetEnergy _ reset =>
      obtain ⟨unused, -, latest, row, audit, -, -, written, rfl⟩ := reset
      refine ⟨audited_reset audited.energy (energyEpoch_bounded persisted) unused written,
        audited.demand, ?_⟩
      simpa [noteEpochs] using audited.onlyResets
  | resetDemand _ reset =>
      obtain ⟨unused, -, latest, row, audit, -, -, written, rfl⟩ := reset
      exact ⟨audited.energy,
        audited_reset audited.demand (demandEpoch_bounded persisted) unused written,
        audited.onlyResets⟩
  | restarted opened =>
      obtain ⟨reopened, loaded, -, database, energyState, demandState, -⟩ :=
        reopen_persisted persisted
      rw [opened] at loaded
      cases loaded
      refine ⟨?_, ?_, audited.onlyResets⟩
      · rw [database, energyState]
        exact audited.energy
      · rw [database, demandState]
        exact audited.demand
  | unopened refused =>
      obtain ⟨reopened, loaded, -⟩ := reopen_persisted persisted
      rw [refused] at loaded
      cases loaded

theorem run_audited (calls : List Call) :
    LedgerAudited (machine.run {} calls) (epochHistory calls) := by
  have invariant := (machine.traced noteEpochs).run_invariant
    (fun state => Persisted state.1 ∧ LedgerAudited state.1 state.2)
    (fun (ledger, history) call holds => ⟨step_persisted holds.1 (step_cases ledger call),
      step_audited holds.1 holds.2 (step_cases ledger call)⟩)
    ({}, {}) ⟨persisted_empty, audited_empty, audited_empty, List.not_mem_nil⟩ calls
  rw [← machine.traced_state noteEpochs {} {} calls]
  exact invariant.2

/-- How a request with a given key can end. `kept` says that nothing changed, `effect` what an
effective reset does. -/
inductive ResetOutcome (history : List EpochEnd) (epoch : UInt64) (request : ResetRequest)
    (kept effect : Prop) : Answer → Prop where
  | malformed {failure : Failure} (invalid : validateReset request = .error failure)
      (same : kept) : ResetOutcome history epoch request kept effect (.failed failure)
  | replayed {position : Nat} {resulting : UInt64}
      (used : history[position]? = some (.reset request.idempotencyKey))
      (first : resulting.toNat = position + 1) (same : kept) :
      ResetOutcome history epoch request kept effect (.reset ⟨resulting, true⟩)
  | refused {failure : Failure} (unused : request.idempotencyKey ∉ resetKeys history)
      (same : kept) : ResetOutcome history epoch request kept effect (.failed failure)
  | effective (unused : request.idempotencyKey ∉ resetKeys history) (done : effect) :
      ResetOutcome history epoch request kept effect (.reset ⟨epoch + 1, false⟩)

/-- One epoch on, all counters at zero, and one audit row for the step. -/
structure EnergyCleared (ledger after : EnergyLedger) (request : ResetRequest) : Prop where
  epoch : after.energyState.epoch = ledger.energyState.epoch + 1
  counters : ∀ index, after.energyState.lifetimeCounters index = 0
  reported : ∃ values, after.energy = some values ∧ ∀ index, values.flattenEnergyCounters index = 0
  audit : ∃ row, after.database.energyResetAudit = ledger.database.energyResetAudit ++ [row] ∧
    row.entry = (request.idempotencyKey, (ledger.energyState.epoch.toNat : Int),
      (ledger.energyState.epoch.toNat : Int) + 1)

structure DemandCleared (ledger after : EnergyLedger) (request : ResetRequest) : Prop where
  epoch : after.demandState.epoch = ledger.demandState.epoch + 1
  peaks : ∀ index, after.demandState.authoritativeImport index = 0 ∧
    after.demandState.authoritativeExport index = 0
  reported : ∃ values, after.demand = some values ∧ ∀ index,
    flattenDemandValues values.importPeak index = 0 ∧
      flattenDemandValues values.exportPeak index = 0
  audit : ∃ row, after.database.demandResetAudit = ledger.database.demandResetAudit ++ [row] ∧
    row.entry = (request.idempotencyKey, (ledger.demandState.epoch.toNat : Int),
      (ledger.demandState.epoch.toNat : Int) + 1)

theorem validateReset_cases (request : ResetRequest) :
    (∃ failure, validateReset request = .error failure) ∨ validateReset request = .ok () := by
  cases validateReset request with
  | error failure => exact .inl ⟨failure, rfl⟩
  | ok done => exact .inr rfl

theorem energyReset_cleared {ledger after : EnergyLedger} {request : ResetRequest}
    (persisted : Persisted ledger) (reset : EnergyReset ledger request after) :
    EnergyCleared ledger after request := by
  obtain ⟨-, -, latest, row, audit, -, -, written, rfl⟩ := reset
  refine ⟨rfl, fun _ => rfl, ⟨_, rfl, fun index => ?_⟩, audit, rfl, ?_⟩
  · exact congrFun (EnergyValues.flatten_assignEnergyCounters latest _) index
  · rw [auditRow_entry written, toNat_succ (energyEpoch_bounded persisted)]
    rfl

theorem demandReset_cleared {ledger after : EnergyLedger} {request : ResetRequest}
    (persisted : Persisted ledger) (reset : DemandReset ledger request after) :
    DemandCleared ledger after request := by
  obtain ⟨-, -, latest, row, audit, -, -, written, rfl⟩ := reset
  refine ⟨rfl, fun _ => ⟨rfl, rfl⟩, ⟨_, rfl, fun index => ⟨?_, ?_⟩⟩, audit, rfl, ?_⟩
  · exact congrFun (flatten_assignDemandValues latest.importPeak _) index
  · exact congrFun (flatten_assignDemandValues latest.exportPeak _) index
  · rw [auditRow_entry written, toNat_succ (demandEpoch_bounded persisted)]
    rfl

theorem resetEnergy_outcome {ledger : EnergyLedger} {history : EpochHistory}
    (persisted : Persisted ledger) (audited : LedgerAudited ledger history)
    (request : ResetRequest) (stored : Except Failure Unit) :
    ResetOutcome history.energy ledger.energyState.epoch request
      (machine.next ledger (.resetEnergy request stored) = ledger)
      (EnergyCleared ledger (machine.next ledger (.resetEnergy request stored)) request)
      (machine.answer ledger (.resetEnergy request stored)) := by
  unfold Machine.next Machine.answer
  simp only [machine]
  cases outcome : resetEnergy ledger request stored with
  | error failure =>
      rcases validateReset_cases request with ⟨invalid, malformed⟩ | valid
      · rw [resetEnergy, malformed] at outcome
        cases outcome
        exact .malformed malformed rfl
      · refine .refused (fun used => ?_) rfl
        cases known : replayedEpoch ledger.database.energyResetAudit request.idempotencyKey with
        | none => exact (replayedEpoch_none audited.energy).mp known used
        | some epoch =>
            rw [resetEnergy, valid] at outcome
            simp only [bind, Except.bind, known] at outcome
            cases outcome
  | ok result =>
      obtain ⟨answer, after⟩ := result
      obtain ⟨-, ⟨epoch, known, rfl, rfl⟩ | ⟨reset, rfl⟩⟩ := resetEnergy_cases outcome
      · obtain ⟨position, used, first⟩ := replayedEpoch_some audited.energy known
        exact .replayed used first rfl
      · exact .effective ((replayedEpoch_none audited.energy).mp reset.unused)
          (energyReset_cleared persisted reset)

theorem resetDemand_outcome {ledger : EnergyLedger} {history : EpochHistory}
    (persisted : Persisted ledger) (audited : LedgerAudited ledger history)
    (request : ResetRequest) (stored : Except Failure Unit) :
    ResetOutcome history.demand ledger.demandState.epoch request
      (machine.next ledger (.resetDemandPeaks request stored) = ledger)
      (DemandCleared ledger (machine.next ledger (.resetDemandPeaks request stored)) request)
      (machine.answer ledger (.resetDemandPeaks request stored)) := by
  unfold Machine.next Machine.answer
  simp only [machine]
  cases outcome : resetDemandPeaks ledger request stored with
  | error failure =>
      rcases validateReset_cases request with ⟨invalid, malformed⟩ | valid
      · rw [resetDemandPeaks, malformed] at outcome
        cases outcome
        exact .malformed malformed rfl
      · refine .refused (fun used => ?_) rfl
        cases known : replayedEpoch ledger.database.demandResetAudit request.idempotencyKey with
        | none => exact (replayedEpoch_none audited.demand).mp known used
        | some epoch =>
            rw [resetDemandPeaks, valid] at outcome
            simp only [bind, Except.bind, known] at outcome
            cases outcome
  | ok result =>
      obtain ⟨answer, after⟩ := result
      obtain ⟨-, ⟨epoch, known, rfl, rfl⟩ | ⟨reset, rfl⟩⟩ := resetDemandPeaks_cases outcome
      · obtain ⟨position, used, first⟩ := replayedEpoch_some audited.demand known
        exact .replayed used first rfl
      · exact .effective ((replayedEpoch_none audited.demand).mp reset.unused)
          (demandReset_cleared persisted reset)

theorem noteEpochs_extends (ledger : EnergyLedger) (history : EpochHistory) (call : Call)
    (answer : Answer) :
    history.energy <+: (noteEpochs ledger history call answer).energy ∧
      history.demand <+: (noteEpochs ledger history call answer).demand := by
  unfold noteEpochs
  split
  · exact ⟨List.prefix_append _ _, List.prefix_rfl⟩
  · exact ⟨List.prefix_rfl, List.prefix_append _ _⟩
  · split
    · exact ⟨List.prefix_rfl, List.prefix_append _ _⟩
    · exact ⟨List.prefix_rfl, List.prefix_rfl⟩
  · exact ⟨List.prefix_rfl, List.prefix_rfl⟩

theorem epochHistory_extends (calls later : List Call) :
    (epochHistory calls).energy <+: (epochHistory (calls ++ later)).energy ∧
      (epochHistory calls).demand <+: (epochHistory (calls ++ later)).demand := by
  unfold epochHistory
  rw [Machine.run_append]
  exact (machine.traced noteEpochs).run_invariant
    (fun state => (epochHistory calls).energy <+: state.2.energy ∧
      (epochHistory calls).demand <+: state.2.demand)
    (fun (ledger, history) call holds => by
      have grown := noteEpochs_extends ledger history call (machine.answer ledger call)
      exact ⟨holds.1.trans grown.1, holds.2.trans grown.2⟩)
    _ ⟨List.prefix_rfl, List.prefix_rfl⟩ later

theorem auditRows_onlyResets {history : List EpochEnd}
    (onlyResets : EpochEnd.profileChange ∉ history) :
    (auditRows history).map Prod.snd =
      (List.range history.length).map (fun epoch : Nat => ((epoch : Int), (epoch : Int) + 1)) := by
  induction history using List.reverseRecOn with
  | nil => rfl
  | append_singleton history ended ih =>
      have earlier := ih (fun member => onlyResets (List.mem_append_left _ member))
      cases ended with
      | profileChange => exact absurd (List.mem_append_right _ List.mem_cons_self) onlyResets
      | reset key =>
          rw [auditRows_concat_reset, List.map_append, earlier, List.length_append,
            List.length_singleton, List.range_succ, List.map_append]
          rfl

/-- After any run: the energy audit is the chain 0→1→2→… up to the current epoch, every key
stands in it once, and a further request either replays its key, changes nothing, or is the
one effective reset of a new key. The demand audit is the same with its epochs also counted
by profile changes. -/
theorem resets_exactly_once (calls : List Call) :
    let ledger := machine.run {} calls
    let history := epochHistory calls
    (ledger.database.energyResetAudit.map
        (fun row => (row.previousEpoch.toInt, row.resultingEpoch.toInt)) =
      (List.range ledger.energyState.epoch.toNat).map
        (fun epoch : Nat => ((epoch : Int), (epoch : Int) + 1))) ∧
      Audited ledger.database.energyResetAudit ledger.energyState.epoch history.energy ∧
      Audited ledger.database.demandResetAudit ledger.demandState.epoch history.demand ∧
      (∀ request stored, ResetOutcome history.energy ledger.energyState.epoch request
        (machine.next ledger (.resetEnergy request stored) = ledger)
        (EnergyCleared ledger (machine.next ledger (.resetEnergy request stored)) request)
        (machine.answer ledger (.resetEnergy request stored))) ∧
      (∀ request stored, ResetOutcome history.demand ledger.demandState.epoch request
        (machine.next ledger (.resetDemandPeaks request stored) = ledger)
        (DemandCleared ledger (machine.next ledger (.resetDemandPeaks request stored)) request)
        (machine.answer ledger (.resetDemandPeaks request stored))) ∧
      ∀ later, history.energy <+: (epochHistory (calls ++ later)).energy ∧
        history.demand <+: (epochHistory (calls ++ later)).demand := by
  have persisted := run_persisted calls
  have audited := run_audited calls
  refine ⟨?_, audited.energy, audited.demand, resetEnergy_outcome persisted audited,
    resetDemand_outcome persisted audited, epochHistory_extends calls⟩
  rw [audited.energy.epoch, ← auditRows_onlyResets audited.onlyResets, ← audited.energy.rows,
    List.map_map]
  rfl

end Msap1.Ledger
