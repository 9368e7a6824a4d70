import Msap1.Ledger.Persistence

/-! Demand peaks are the largest candidates of their epoch, and suppressed session peaks do
not come back. The log of accepted intervals and effective resets is kept newest first. -/

namespace Msap1.Ledger

open Meter

/-- What a session peak belongs to: one session under one demand profile. -/
structure ProfileInstance where
  sessionId : UInt64
  method : DemandMethod
  windowSeconds : UInt32
  updateSeconds : UInt32
  profileGeneration : UInt32
  deriving DecidableEq, Repr

def profileInstance (session : DemandValues) : ProfileInstance :=
  ⟨session.sessionId, session.method, session.windowSeconds, session.updateSeconds,
    session.profileGeneration⟩

def ProfileInstance.semantics (profile : ProfileInstance) : DemandMethod × UInt32 × UInt32 :=
  (profile.method, profile.windowSeconds, profile.updateSeconds)

inductive DemandEntry where
  | interval (family : DemandFamily)
  | reset

abbrev DemandLog := List DemandEntry

def lastInterval : DemandLog → Option DemandFamily
  | [] => none
  | .interval family :: _ => some family
  | .reset :: log => lastInterval log

/-- A record that follows one of other semantics, or of another profile generation in its
own session, begins an epoch. -/
def beginsEpoch (previous : Option DemandFamily) (family : DemandFamily) : Bool :=
  match previous with
  | none => false
  | some earlier =>
      let before := profileInstance earlier.session
      let now := profileInstance family.session
      now.semantics ≠ before.semantics ∨
        now.sessionId = before.sessionId ∧ now.profileGeneration ≠ before.profileGeneration

/-- The raw peak of the instance when it was last reset, zero when it never was. -/
def suppressed (raw : DemandFamily → Int) (profile : ProfileInstance) : DemandLog → Int
  | [] => 0
  | .interval family :: log =>
      if profileInstance family.session = profile then suppressed raw profile log else 0
  | .reset :: log => match lastInterval log with
    | none => 0
    | some family => if profileInstance family.session = profile then raw family else 0

def rawImport (lane : Fin 4) (family : DemandFamily) : Int :=
  (flattenDemandValues family.session.importPeak lane).toInt

def rawExport (lane : Fin 4) (family : DemandFamily) : Int :=
  (flattenDemandValues family.session.exportPeak lane).toInt

def currentReading (lane : Fin 4) (family : DemandFamily) : Reading :=
  family.session.currentActive.lane lane

def importCurrent (lane : Fin 4) (family : DemandFamily) : List Int :=
  if (currentReading lane family).quality = .valid ∧ 0 < (currentReading lane family).value.toInt
  then [(currentReading lane family).value.toInt]
  else []

/-- The magnitude of a negative value, where the smallest one counts as the largest. -/
def exportCurrent (lane : Fin 4) (family : DemandFamily) : List Int :=
  if (currentReading lane family).quality = .valid ∧ (currentReading lane family).value.toInt < 0
  then [min Int64.maxValue.toInt (-(currentReading lane family).value.toInt)]
  else []

/-- The values that may be the peak of the current epoch. -/
def candidates (current : DemandFamily → List Int) (raw : DemandFamily → Int) :
    DemandLog → List Int
  | [] => []
  | .reset :: _ => []
  | .interval family :: log =>
      (if suppressed raw (profileInstance family.session) log < raw family then [raw family]
          else []) ++
        current family ++
        (if beginsEpoch (lastInterval log) family then [] else candidates current raw log)

def importCandidates (lane : Fin 4) : DemandLog → List Int :=
  candidates (importCurrent lane) (rawImport lane)

def exportCandidates (lane : Fin 4) : DemandLog → List Int :=
  candidates (exportCurrent lane) (rawExport lane)

/-- A retry of the last interval: the same instance and the same sequence. -/
def repeats (log : DemandLog) (family : DemandFamily) : Bool :=
  match lastInterval log with
  | none => false
  | some earlier => profileInstance earlier.session = profileInstance family.session ∧
      earlier.sourceSequence = family.sourceSequence

def noteDemand (_ : EnergyLedger) (log : DemandLog) (call : Call) (answer : Answer) : DemandLog :=
  match call, answer with
  | .ingestDemand family _, .demand _ =>
      if repeats log family then log else .interval family :: log
  | .resetDemandPeaks _ _, .reset ⟨_, false⟩ => .reset :: log
  | _, _ => log

def demandLog (calls : List Call) : DemandLog :=
  ((machine.traced noteDemand).run ({}, []) calls).2

def stateInstance (state : DemandState) : ProfileInstance :=
  ⟨state.sessionId, state.method, state.windowSeconds, state.updateSeconds,
    state.profileGeneration⟩

/-- One direction of the checkpoint against the log. -/
structure PeaksTold (raw baseline authoritative : Fin 4 → Int64)
    (profile : ProfileInstance) (rawOf : Fin 4 → DemandFamily → Int)
    (currentOf : Fin 4 → DemandFamily → List Int) (log : DemandLog) : Prop where
  raw : ∀ family, lastInterval log = some family → ∀ lane, (raw lane).toInt = rawOf lane family
  baseline : ∀ lane, (lastInterval log).isSome →
    (baseline lane).toInt = suppressed (rawOf lane) profile log
  authoritative : ∀ lane, (authoritative lane).toInt =
    (candidates (currentOf lane) (rawOf lane) log).foldr max 0

/-- The demand checkpoint against its log. -/
structure DemandTold (ledger : EnergyLedger) (log : DemandLog) : Prop where
  known : (lastInterval log).isSome = ledger.latestDemand.isSome
  identity : ∀ family, lastInterval log = some family →
    profileInstance family.session = stateInstance ledger.demandState ∧
      family.sourceSequence = ledger.demandState.sourceSequence
  imports : PeaksTold ledger.demandState.rawImport ledger.demandState.baselineImport
    ledger.demandState.authoritativeImport (stateInstance ledger.demandState) rawImport
    importCurrent log
  exports : PeaksTold ledger.demandState.rawExport ledger.demandState.baselineExport
    ledger.demandState.authoritativeExport (stateInstance ledger.demandState) rawExport
    exportCurrent log

theorem suppressed_other {raw : DemandFamily → Int} {profile : ProfileInstance} {log : DemandLog}
    (other : ∀ family, lastInterval log = some family → profileInstance family.session ≠ profile) :
    suppressed raw profile log = 0 := by
  cases log with
  | nil => rfl
  | cons entry log =>
      cases entry with
      | interval family => exact if_neg (other family rfl)
      | reset =>
          cases known : lastInterval log with
          | none => simp only [suppressed, known]
          | some family =>
              have different := other family known
              simp only [suppressed, known, if_neg different]

theorem observeCurrent_import (reading : Reading) (lastSampleIndex : UInt64) (lane : PeakLane) :
    (observeCurrent reading lastSampleIndex lane).authoritativeImport.toInt =
      (if reading.quality = .valid ∧ 0 < reading.value.toInt then [reading.value.toInt]
        else []).foldr max lane.authoritativeImport.toInt := by
  unfold observeCurrent
  simp only [gt_iff_lt, Int64.lt_iff_toInt_lt, Int64.toInt_zero]
  by_cases positive : reading.quality = .valid ∧ 0 < reading.value.toInt
  · rw [if_pos positive, List.foldr_cons, List.foldr_nil]
    have notNegative : ¬ (reading.quality = .valid ∧ reading.value.toInt < 0) := by
      rintro ⟨-, negative⟩
      omega
    by_cases higher : lane.authoritativeImport.toInt < reading.value.toInt
    · rw [if_pos ⟨positive.1, positive.2, higher⟩, max_eq_left (by omega)]
    · rw [if_neg (fun all => higher all.2.2), if_neg notNegative, max_eq_right (by omega)]
  · rw [if_neg positive, List.foldr_nil, if_neg (fun higher => positive ⟨higher.1, higher.2.1⟩)]
    split
    · split <;> rfl
    · rfl

theorem demandMagnitude_negative {value : Int64} (negative : value.toInt < 0) :
    (demandMagnitude value).1.toInt = min Int64.maxValue.toInt (-value.toInt) := by
  have top : Int64.maxValue.toInt = 2 ^ 63 - 1 := by decide
  have low := value.le_toInt
  unfold demandMagnitude
  split
  · next proper =>
      have above : value.toInt ≠ -2 ^ 63 := by
        intro smallest
        exact proper (Int64.toInt_inj.mp (by rw [smallest]; decide))
      have below : value < 0 := by rw [Int64.lt_iff_toInt_lt, Int64.toInt_zero]; exact negative
      have negated : (-value).toInt = -value.toInt := by
        rw [Int64.toInt_neg]
        apply Int.bmod_eq_of_le <;> omega
      simp only [if_pos below, negated]
      omega
  · next smallest =>
      rw [not_not] at smallest
      have bottom : value.toInt = -2 ^ 63 := by rw [smallest]; decide
      simp only
      omega

theorem observeCurrent_export (reading : Reading) (lastSampleIndex : UInt64) (lane : PeakLane) :
    (observeCurrent reading lastSampleIndex lane).authoritativeExport.toInt =
      (if reading.quality = .valid ∧ reading.value.toInt < 0 then
        [min Int64.maxValue.toInt (-reading.value.toInt)] else []).foldr max
          lane.authoritativeExport.toInt := by
  unfold observeCurrent
  simp only [gt_iff_lt, Int64.lt_iff_toInt_lt, Int64.toInt_zero]
  by_cases negative : reading.quality = .valid ∧ reading.value.toInt < 0
  · have magnitude := demandMagnitude_negative negative.2
    have notPositive : ¬ (reading.quality = .valid ∧ 0 < reading.value.toInt ∧
        lane.authoritativeImport.toInt < reading.value.toInt) := by
      rintro ⟨-, positive, -⟩
      omega
    simp only [if_neg notPositive, if_pos negative, List.foldr_cons, List.foldr_nil, ← magnitude]
    split
    · next higher => exact (max_eq_left (le_of_lt higher)).symm
    · next notHigher => exact (max_eq_right (not_lt.mp notHigher)).symm
  · simp only [if_neg negative, List.foldr_nil]
    split <;> rfl

theorem raised_peak (incoming baseline current : Int64) :
    (if incoming > baseline ∧ incoming > current then incoming else current).toInt =
      (if baseline.toInt < incoming.toInt then [incoming.toInt] else []).foldr max
        current.toInt := by
  simp only [gt_iff_lt, Int64.lt_iff_toInt_lt]
  by_cases eligible : baseline.toInt < incoming.toInt
  · rw [if_pos eligible, List.foldr_cons, List.foldr_nil]
    by_cases higher : current.toInt < incoming.toInt
    · rw [if_pos ⟨eligible, higher⟩, max_eq_left (by omega)]
    · rw [if_neg (fun both => higher both.2), max_eq_right (by omega)]
  · rw [if_neg eligible, List.foldr_nil, if_neg (fun both => eligible both.1)]

section Incoming

variable (incomingImport incomingExport baselineImport baselineExport : Int64)
  (importAnchor exportAnchor : UInt64) (lane : PeakLane)

theorem observeIncoming_import :
    (observeIncoming incomingImport incomingExport baselineImport baselineExport importAnchor
        exportAnchor lane).authoritativeImport.toInt =
      (if baselineImport.toInt < incomingImport.toInt then [incomingImport.toInt] else []).foldr
        max lane.authoritativeImport.toInt := by
  rw [← raised_peak]
  unfold observeIncoming
  congr 1
  by_cases imported : incomingImport > baselineImport ∧ incomingImport > lane.authoritativeImport
  · simp only [if_pos imported]
    split <;> rfl
  · simp only [if_neg imported]
    split <;> rfl

theorem observeIncoming_export :
    (observeIncoming incomingImport incomingExport baselineImport baselineExport importAnchor
        exportAnchor lane).authoritativeExport.toInt =
      (if baselineExport.toInt < incomingExport.toInt then [incomingExport.toInt] else []).foldr
        max lane.authoritativeExport.toInt := by
  rw [← raised_peak]
  unfold observeIncoming
  congr 1
  by_cases imported : incomingImport > baselineImport ∧ incomingImport > lane.authoritativeImport
  · simp only [if_pos imported]
    split <;> rfl
  · simp only [if_neg imported]
    split <;> rfl

end Incoming

theorem observeLane_import (family : DemandFamily) (start : DemandState) (lane : Fin 4) :
    (observeLane family.session start lane).authoritativeImport.toInt =
      ((if (start.baselineImport lane).toInt < rawImport lane family then [rawImport lane family]
          else []) ++ importCurrent lane family).foldr max
        (start.authoritativeImport lane).toInt := by
  rw [observeLane, observeIncoming_import, observeCurrent_import, List.foldr_append]
  rfl

theorem observeLane_export (family : DemandFamily) (start : DemandState) (lane : Fin 4) :
    (observeLane family.session start lane).authoritativeExport.toInt =
      ((if (start.baselineExport lane).toInt < rawExport lane family then [rawExport lane family]
          else []) ++ exportCurrent lane family).foldr max
        (start.authoritativeExport lane).toInt := by
  rw [observeLane, observeIncoming_export, observeCurrent_export, List.foldr_append]
  rfl

theorem demandEpochState_arrays {ledger : EnergyLedger} {session : DemandValues}
    {start : DemandState} (returned : demandEpochState ledger session = .ok start) :
    (∀ lane, start.baselineImport lane =
        if sameProfileInstance ledger session then ledger.demandState.baselineImport lane else 0) ∧
      (∀ lane, start.baselineExport lane =
        if sameProfileInstance ledger session then ledger.demandState.baselineExport lane else 0) ∧
      (∀ lane, start.authoritativeImport lane = if profileChanged ledger session then 0
        else ledger.demandState.authoritativeImport lane) ∧
      ∀ lane, start.authoritativeExport lane = if profileChanged ledger session then 0
        else ledger.demandState.authoritativeExport lane := by
  unfold demandEpochState at returned
  simp only at returned
  split at returned
  · next changed =>
      have other : sameProfileInstance ledger session = false := by
        by_contra same
        simp only [sameProfileInstance, Bool.not_eq_false, decide_eq_true_eq] at same
        simp [profileChanged, same.2.1, same.2.2] at changed
      cases returned
      simp [changed, other]
  · next kept =>
      split at returned
      · next other =>
          cases returned
          simp [kept, other]
      · next same =>
          split at returned
          · cases returned
          · cases returned
            rw [not_not] at same
            simp [kept, same]

theorem sameProfileInstance_iff (ledger : EnergyLedger) (session : DemandValues) :
    sameProfileInstance ledger session = true ↔
      ledger.latestDemand.isSome ∧ profileInstance session = stateInstance ledger.demandState := by
  simp only [sameProfileInstance, sameSession, sameSemantics, profileInstance, stateInstance,
    decide_eq_true_eq, ProfileInstance.mk.injEq]
  tauto

section Told

variable {ledger : EnergyLedger} {log : DemandLog}

theorem profileChanged_eq (told : DemandTold ledger log) (family : DemandFamily) :
    profileChanged ledger family.session = beginsEpoch (lastInterval log) family := by
  cases last : lastInterval log with
  | none =>
      have absent := told.known
      rw [last] at absent
      simp [profileChanged, beginsEpoch, ← absent]
  | some earlier =>
      have present := told.known
      rw [last] at present
      obtain ⟨identity, -⟩ := told.identity earlier last
      simp only [profileChanged, beginsEpoch, sameSession, sameSemantics, ← present, identity]
      simp [profileInstance, stateInstance, ProfileInstance.semantics]

/-- The baseline the next interval is compared with is the suppressed peak of its instance. -/
theorem started_baseline {raw baseline authoritative : Fin 4 → Int64}
    {rawOf : Fin 4 → DemandFamily → Int} {currentOf : Fin 4 → DemandFamily → List Int}
    (told : DemandTold ledger log)
    (peaks : PeaksTold raw baseline authoritative (stateInstance ledger.demandState) rawOf
      currentOf log)
    (family : DemandFamily) (lane : Fin 4) :
    (if sameProfileInstance ledger family.session then baseline lane else 0).toInt =
      suppressed (rawOf lane) (profileInstance family.session) log := by
  by_cases same : sameProfileInstance ledger family.session = true
  · obtain ⟨present, identity⟩ := (sameProfileInstance_iff ledger family.session).mp same
    rw [if_pos same, identity]
    exact peaks.baseline lane (by rw [told.known]; exact present)
  · rw [if_neg same, Int64.toInt_zero, suppressed_other]
    intro earlier last matching
    apply same
    rw [sameProfileInstance_iff, ← told.known, last, ← (told.identity earlier last).1, matching]
    exact ⟨rfl, rfl⟩

theorem peaksTold_interval {raw baseline authoritative : Fin 4 → Int64}
    {nextRaw nextBaseline nextAuthoritative : Fin 4 → Int64}
    {rawOf : Fin 4 → DemandFamily → Int} {currentOf : Fin 4 → DemandFamily → List Int}
    {family : DemandFamily} (told : DemandTold ledger log)
    (peaks : PeaksTold raw baseline authoritative (stateInstance ledger.demandState) rawOf
      currentOf log)
    (incoming : ∀ lane, (nextRaw lane).toInt = rawOf lane family)
    (started : ∀ lane, nextBaseline lane =
      if sameProfileInstance ledger family.session then baseline lane else 0)
    (observed : ∀ lane, (nextAuthoritative lane).toInt =
      ((if (nextBaseline lane).toInt < rawOf lane family then [rawOf lane family] else []) ++
        currentOf lane family).foldr max
          (if profileChanged ledger family.session then 0 else authoritative lane).toInt) :
    PeaksTold nextRaw nextBaseline nextAuthoritative (profileInstance family.session) rawOf
      currentOf (.interval family :: log) := by
  have suppression : ∀ lane, (nextBaseline lane).toInt =
      suppressed (rawOf lane) (profileInstance family.session) log := by
    intro lane
    rw [started, started_baseline told peaks]
  refine ⟨?_, fun lane _ => ?_, fun lane => ?_⟩
  · rintro last ⟨⟩ lane
    exact incoming lane
  · rw [suppression, suppressed, if_pos rfl]
  · have earlier : (if profileChanged ledger family.session then 0
        else authoritative lane).toInt = (if beginsEpoch (lastInterval log) family then []
          else candidates (currentOf lane) (rawOf lane) log).foldr max 0 := by
      rw [profileChanged_eq told]
      split
      · rfl
      · exact peaks.authoritative lane
    rw [observed, suppression, earlier, candidates, ← List.foldr_append]

theorem demandTold_accepted {after : EnergyLedger} {family : DemandFamily} {start : DemandState}
    {stored : Except Failure Unit} {answer : DemandValues} (told : DemandTold ledger log)
    (accepted : DemandAccepted ledger family start)
    (written : storeDemand ledger family start stored = .ok (answer, after)) :
    DemandTold after (.interval family :: log) := by
  obtain ⟨row, database, -, -, -, rfl⟩ := storeDemand_ok written
  obtain ⟨baselineImport, baselineExport, authoritativeImport, authoritativeExport⟩ :=
    demandEpochState_arrays accepted.start
  refine ⟨rfl, ?_, ?_, ?_⟩
  · rintro last ⟨⟩
    exact ⟨rfl, rfl⟩
  · refine peaksTold_interval told told.imports (fun _ => rfl) baselineImport (fun lane => ?_)
    rw [← authoritativeImport]
    exact observeLane_import family start lane
  · refine peaksTold_interval told told.exports (fun _ => rfl) baselineExport (fun lane => ?_)
    rw [← authoritativeExport]
    exact observeLane_export family start lane

theorem peaksTold_reset {raw baseline authoritative : Fin 4 → Int64}
    {rawOf : Fin 4 → DemandFamily → Int} {currentOf : Fin 4 → DemandFamily → List Int}
    (told : DemandTold ledger log)
    (peaks : PeaksTold raw baseline authoritative (stateInstance ledger.demandState) rawOf
      currentOf log) :
    PeaksTold raw raw (fun _ => 0) (stateInstance ledger.demandState) rawOf currentOf
      (.reset :: log) := by
  refine ⟨peaks.raw, fun lane present => ?_, fun lane => rfl⟩
  obtain ⟨family, last⟩ := Option.isSome_iff_exists.mp present
  rw [lastInterval] at last
  simp only [suppressed, last, if_pos (told.identity family last).1]
  exact peaks.raw family last lane

theorem demandTold_reset {after : EnergyLedger} {request : ResetRequest}
    (told : DemandTold ledger log) (reset : DemandReset ledger request after) :
    DemandTold after (.reset :: log) := by
  obtain ⟨-, -, latest, row, audit, present, -, -, rfl⟩ := reset
  have imports := peaksTold_reset told told.imports
  have exports := peaksTold_reset told told.exports
  refine ⟨?_, told.identity, imports, exports⟩
  have known := told.known
  rw [present] at known
  exact known

theorem demandTold_congr {after : EnergyLedger} (told : DemandTold ledger log)
    (state : after.demandState = ledger.demandState)
    (known : after.latestDemand.isSome = ledger.latestDemand.isSome) : DemandTold after log := by
  refine ⟨?_, ?_, ?_, ?_⟩
  · rw [known]
    exact told.known
  · rw [state]
    exact told.identity
  · rw [state]
    exact told.imports
  · rw [state]
    exact told.exports

theorem repeats_replayed {family : DemandFamily} {answer : DemandValues}
    (told : DemandTold ledger log) (replayed : DemandReplayed ledger family answer) :
    repeats log family = true := by
  obtain ⟨present, identity⟩ :=
    (sameProfileInstance_iff ledger family.session).mp replayed.sameInstance
  rw [← told.known] at present
  obtain ⟨earlier, last⟩ := Option.isSome_iff_exists.mp present
  obtain ⟨matching, sequence⟩ := told.identity earlier last
  simp [repeats, last, matching, sequence, identity, replayed.sequence]

theorem repeats_accepted {family : DemandFamily} {start : DemandState}
    (told : DemandTold ledger log) (accepted : DemandAccepted ledger family start) :
    repeats log family = false := by
  cases last : lastInterval log with
  | none => simp [repeats, last]
  | some earlier =>
      obtain ⟨matching, sequence⟩ := told.identity earlier last
      by_contra again
      simp only [repeats, last, Bool.not_eq_false, decide_eq_true_eq] at again
      have same : sameProfileInstance ledger family.session = true := by
        rw [sameProfileInstance_iff, ← told.known, last, ← matching, again.1]
        exact ⟨rfl, rfl⟩
      have later := accepted.later same
      rw [← sequence, again.2] at later
      exact UInt32.lt_irrefl _ later

theorem step_demandTold {after : EnergyLedger} {call : Call} {answer : Answer}
    (persisted : Persisted ledger) (told : DemandTold ledger log)
    (step : Step ledger call after answer) :
    DemandTold after (noteDemand ledger log call answer) := by
  cases step with
  | refused call failure => cases call <;> exact told
  | replayedEnergy => exact told
  | acceptedEnergy _ written =>
      obtain ⟨row, -, -, rfl⟩ := storeEnergy_ok written
      exact demandTold_congr told rfl rfl
  | replayedDemand replayed =>
      simp only [noteDemand, repeats_replayed told replayed, if_true]
      exact told
  | acceptedDemand accepted written =>
      simp only [noteDemand, repeats_accepted told accepted, Bool.false_eq_true, if_false]
      exact demandTold_accepted told accepted written
  | replayedEnergyReset | replayedDemandReset => exact told
  | resetEnergy _ reset =>
      obtain ⟨-, -, latest, row, audit, -, -, -, rfl⟩ := reset
      exact demandTold_congr told rfl rfl
  | resetDemand _ reset => exact demandTold_reset told reset
  | restarted opened =>
      obtain ⟨reopened, loaded, -, -, -, state, -, known⟩ := reopen_persisted persisted
      rw [opened] at loaded
      cases loaded
      exact demandTold_congr told state known
  | unopened refused =>
      obtain ⟨reopened, loaded, -⟩ := reopen_persisted persisted
      rw [refused] at loaded
      cases loaded

end Told

theorem demandTold_empty : DemandTold {} [] := by
  refine ⟨rfl, ?_, ⟨?_, ?_, fun _ => rfl⟩, ⟨?_, ?_, fun _ => rfl⟩⟩
  · rintro family ⟨⟩
  · rintro family ⟨⟩
  · rintro lane ⟨⟩
  · rintro family ⟨⟩
  · rintro lane ⟨⟩

theorem run_demandTold (calls : List Call) :
    DemandTold (machine.run {} calls) (demandLog calls) := by
  have invariant := (machine.traced noteDemand).run_invariant
    (fun state => Persisted state.1 ∧ DemandTold state.1 state.2)
    (fun (ledger, log) call holds => ⟨step_persisted holds.1 (step_cases ledger call),
      step_demandTold holds.1 holds.2 (step_cases ledger call)⟩)
    ({}, []) ⟨persisted_empty, demandTold_empty⟩ calls
  rw [← machine.traced_state noteDemand {} [] calls]
  exact invariant.2

/-- After any run the authoritative peaks, in the checkpoint and as reported, are the largest
candidates of the current epoch, and zero when it has none. -/
theorem peaks_exact (calls : List Call) (lane : Fin 4) :
    ((machine.run {} calls).demandState.authoritativeImport lane).toInt =
        (importCandidates lane (demandLog calls)).foldr max 0 ∧
      ((machine.run {} calls).demandState.authoritativeExport lane).toInt =
        (exportCandidates lane (demandLog calls)).foldr max 0 ∧
      ∀ values, (machine.run {} calls).demand = some values →
        (flattenDemandValues values.importPeak lane).toInt =
            (importCandidates lane (demandLog calls)).foldr max 0 ∧
          (flattenDemandValues values.exportPeak lane).toInt =
            (exportCandidates lane (demandLog calls)).foldr max 0 := by
  have told := run_demandTold calls
  have imports := told.imports.authoritative lane
  have exports := told.exports.authoritative lane
  refine ⟨imports, exports, fun values reported => ?_⟩
  rw [EnergyLedger.demand] at reported
  obtain ⟨row, -, stored⟩ := demandStored_some (reported ▸ (run_persisted calls).demand)
  rw [stored.importPeak, stored.exportPeak]
  exact ⟨imports, exports⟩

end Msap1.Ledger
