import Msap1.Acquisition.MeterConfiguration
import Msap1.Loops
import Msap1.Machine
import Msap1.Settings.WireFields
import Msap1.Settings.WireImage

/-! `CaptureCoordinator` between calls of `apply_product_settings` and `apply_sample_rate`, with
what the RPU has accepted. Live settings take effect as after a restart, unless they change the
meter source without changing the wire image. -/

namespace Msap1.Acquisition

structure DemandConfig where
  method : UInt32
  windowSeconds : UInt32
  updateSeconds : UInt32
  deriving DecidableEq, Repr

def demandConfiguration (settings : DemandSettings) : DemandConfig where
  method := if settings.method = "fixed_block" then 0 else 1
  windowSeconds := settings.windowSeconds
  updateSeconds := if settings.method = "fixed_block" then 600 else 3

/-- What the two cores of the RPU accepted last. -/
structure Rpu where
  demand : Option DemandConfig := none
  aggregationM18 : Option ConfigPayload := none
  captureM18 : Option ConfigPayload := none
  meter : Option ConfigPayload := none
  capturing : Bool := false
  deriving DecidableEq

inductive Transaction where
  | demandConfigSet
  | adcCaptureStop
  | aggregationM18ConfigSet
  | captureM18ConfigSet
  | meterConfigSet
  | adcCaptureStart
  deriving DecidableEq, Repr

/-- The transaction that fails in a call; it may have taken effect all the same. -/
structure FailurePoint where
  transaction : Transaction
  tookEffect : Bool
  deriving DecidableEq, Repr

/-- A transaction with the RPU; an error carries the RPU as the failure leaves it. -/
def transact (point : Option FailurePoint) (transaction : Transaction) (effect : Rpu → Rpu)
    (rpu : Rpu) : Except Rpu Rpu :=
  match point with
  | some failure =>
      if failure.transaction = transaction then
        .error (if failure.tookEffect then effect rpu else rpu)
      else .ok (effect rpu)
  | none => .ok (effect rpu)

section Coordinator

variable {Number Analog Rest : Type}

structure CaptureCoordinator (Number Analog Rest : Type) where
  productSettings : ProductSettings Number Analog Rest
  configuration : PreparedMeterConfiguration Number Analog
  context : WaveformCaptureContext
  archiveLimitBytes : UInt64
  desiredDemand : DemandConfig
  running : Bool
  rpu : Rpu

def configureMeter (configuration : PreparedMeterConfiguration Number Analog)
    (point : Option FailurePoint) (rpu : Rpu) : Except Rpu Rpu := do
  let rpu ← transact point .aggregationM18ConfigSet
    (fun rpu => { rpu with aggregationM18 := some configuration.m18Wire }) rpu
  let rpu ← transact point .captureM18ConfigSet
    (fun rpu => { rpu with captureM18 := some configuration.m18Wire }) rpu
  transact point .meterConfigSet (fun rpu => { rpu with meter := some configuration.wire }) rpu

/-- The transactions of `start`. -/
def startCapture (configuration : PreparedMeterConfiguration Number Analog)
    (point : Option FailurePoint) (rpu : Rpu) : Except Rpu Rpu := do
  let rpu ← transact point .adcCaptureStop (fun rpu => { rpu with capturing := false }) rpu
  let rpu ← configureMeter configuration point rpu
  transact point .adcCaptureStart (fun rpu => { rpu with capturing := true }) rpu

/-- A configuration reaches the RPU through a restart, or directly while capture is stopped. -/
def sendConfiguration (restart : Bool) (configuration : PreparedMeterConfiguration Number Analog)
    (point : Option FailurePoint) (rpu : Rpu) : Except Rpu Rpu :=
  if restart then startCapture configuration point rpu
  else configureMeter configuration point rpu

/-- The RPU behind a rollback, whose transactions succeed. -/
def rolledBack (result : Except Rpu Rpu) : Rpu :=
  match result with
  | .ok rpu => rpu
  | .error rpu => rpu

namespace CaptureCoordinator

variable (platform : Platform Number Analog Rest)
  (coordinator : CaptureCoordinator Number Analog Rest)

def stop : CaptureCoordinator Number Analog Rest :=
  { coordinator with running := false, rpu := { coordinator.rpu with capturing := false } }

/-- The shared part of `apply_complete_configuration` and `apply_sample_rate`; the flag says
whether the RPU took the staged configuration. -/
def applyCompleteConfiguration (staged : PreparedMeterConfiguration Number Analog)
    (point : Option FailurePoint) : CaptureCoordinator Number Analog Rest × Bool :=
  let restart := coordinator.running
  let stopped := if restart then coordinator.stop else coordinator
  match sendConfiguration restart staged point stopped.rpu with
  | .ok rpu => ({ stopped with configuration := staged, running := restart, rpu }, true)
  | .error rpu =>
      ({ stopped with
        configuration := coordinator.configuration
        running := restart
        rpu := rolledBack (sendConfiguration restart coordinator.configuration none rpu) }, false)

/-- `AggregationHealthMonitor::configure_demand` keeps the profile it is asked for. -/
def configureDemand (demand : DemandConfig) (point : Option FailurePoint) :
    CaptureCoordinator Number Analog Rest × Bool :=
  match transact point .demandConfigSet (fun rpu => { rpu with demand := some demand })
      coordinator.rpu with
  | .ok rpu => ({ coordinator with desiredDemand := demand, rpu }, true)
  | .error rpu => ({ coordinator with desiredDemand := demand, rpu }, false)

end CaptureCoordinator

def setArchiveLimitGib (limitGib : UInt32) : Except String UInt64 :=
  if limitGib < 1 ∨ 16 < limitGib then .error "waveform archive limit must be 1..16 GiB"
  else .ok (limitGib.toUInt64 * 1024 * 1024 * 1024)

def checkedContext (context : WaveformCaptureContext) : Except String WaveformCaptureContext :=
  if context.channels = [] ∨ 7 < context.channels.length then
    .error "MNCWF v4 capture context has an invalid channel count"
  else .ok context

/-- How a call ends: it returns, throws because a transaction failed, or throws for another
reason. -/
inductive CallEnd where
  | returned
  | rpuFailed
  | rejected (reason : String)
  deriving DecidableEq, Repr

namespace CaptureCoordinator

variable (platform : Platform Number Analog Rest)
  (coordinator : CaptureCoordinator Number Analog Rest)

/-- The end of `apply_product_settings`, once the RPU has what it needs. -/
def adoptSettings (candidate : ProductSettings Number Analog Rest) :
    CaptureCoordinator Number Analog Rest × CallEnd :=
  match waveformCaptureContext platform candidate coordinator.configuration with
  | .error reason => (coordinator, .rejected reason)
  | .ok context =>
      match setArchiveLimitGib candidate.waveform.archiveLimitGib with
      | .error reason => (coordinator, .rejected reason)
      | .ok archiveLimitBytes =>
          let adopted := { coordinator with productSettings := candidate, archiveLimitBytes }
          match checkedContext context with
          | .error reason => (adopted, .rejected reason)
          | .ok context => ({ adopted with context }, .returned)

def demandChanged (candidate : ProductSettings Number Analog Rest) : Bool :=
  candidate.demand.method ≠ coordinator.productSettings.demand.method ||
    candidate.demand.windowSeconds ≠ coordinator.productSettings.demand.windowSeconds

/-- The capture pipeline is restarted only for a configuration of another generation. -/
def applyPipeline (staged : PreparedMeterConfiguration Number Analog)
    (point : Option FailurePoint) : CaptureCoordinator Number Analog Rest × Bool :=
  if staged.wire.generation ≠ coordinator.configuration.wire.generation then
    coordinator.applyCompleteConfiguration staged point
  else (coordinator, true)

/-- Both steps towards the RPU, with the rollback of the demand profile around them. -/
def applyLive (candidate : ProductSettings Number Analog Rest)
    (staged : PreparedMeterConfiguration Number Analog) (point : Option FailurePoint) :
    CaptureCoordinator Number Analog Rest × Bool :=
  let previousDemand := demandConfiguration coordinator.productSettings.demand
  if coordinator.demandChanged candidate then
    match coordinator.configureDemand (demandConfiguration candidate.demand) point with
    | (demanded, false) => ((demanded.configureDemand previousDemand none).1, false)
    | (demanded, true) =>
        match demanded.applyPipeline staged point with
        | (applied, true) => (applied, true)
        | (applied, false) => ((applied.configureDemand previousDemand none).1, false)
  else coordinator.applyPipeline staged point

def applyProductSettings (candidate : Except String (ProductSettings Number Analog Rest))
    (point : Option FailurePoint) : CaptureCoordinator Number Analog Rest × CallEnd :=
  match (do
      let candidate ← candidate
      platform.validate candidate
      let staged ← prepareProductConfiguration platform candidate
      return (candidate, staged)) with
  | .error reason => (coordinator, .rejected reason)
  | .ok (candidate, staged) =>
      match coordinator.applyLive candidate staged point with
      | (applied, true) => applied.adoptSettings platform candidate
      | (applied, false) => (applied, .rpuFailed)

def applySampleRate (sampleRateHz : UInt32) (point : Option FailurePoint) :
    CaptureCoordinator Number Analog Rest × CallEnd :=
  if !supportedAdcSampleRate sampleRateHz then
    (coordinator, .rejected "unsupported ADC sample rate")
  else
    let stagedSettings := { coordinator.productSettings with sampleRateHz }
    match stagedConfiguration platform coordinator.configuration.source sampleRateHz
        stagedSettings with
    | .error reason => (coordinator, .rejected reason)
    | .ok staged =>
        match coordinator.applyCompleteConfiguration staged point with
        | (applied, false) => (applied, .rpuFailed)
        | (applied, true) =>
            match (do checkedContext (← waveformCaptureContext platform stagedSettings
                applied.configuration)) with
            | .error reason => (applied, .rejected reason)
            | .ok context => ({ applied with context }, .returned)

end CaptureCoordinator

/-- A coordinator constructed and started on some settings. -/
def freshlyStarted (platform : Platform Number Analog Rest)
    (settings : ProductSettings Number Analog Rest) :
    Except String (CaptureCoordinator Number Analog Rest) := do
  let configuration ← prepareProductConfiguration platform settings
  let context ← checkedContext (← waveformCaptureContext platform settings configuration)
  let demand := demandConfiguration settings.demand
  return {
    productSettings := settings
    configuration
    context
    archiveLimitBytes := settings.waveform.archiveLimitGib.toUInt64 * 1024 * 1024 * 1024
    desiredDemand := demand
    running := true
    rpu := {
      demand := some demand
      aggregationM18 := some configuration.m18Wire
      captureM18 := some configuration.m18Wire
      meter := some configuration.wire
      capturing := true } }

inductive CoordinatorCall (Number Analog Rest : Type) where
  | applyProductSettings (candidate : Except String (ProductSettings Number Analog Rest))
      (point : Option FailurePoint)
  | applySampleRate (sampleRateHz : UInt32) (point : Option FailurePoint)

def coordinatorMachine (platform : Platform Number Analog Rest) :
    Machine (CaptureCoordinator Number Analog Rest) (CoordinatorCall Number Analog Rest)
      CallEnd where
  step coordinator call := match call with
    | .applyProductSettings candidate point =>
        coordinator.applyProductSettings platform candidate point
    | .applySampleRate sampleRateHz point => coordinator.applySampleRate platform sampleRateHz point

/-- The RPU with a configuration, a demand profile, and capture as it should be. -/
def acceptedRpu (configuration : PreparedMeterConfiguration Number Analog) (demand : DemandConfig)
    (running : Bool) : Rpu where
  demand := some demand
  aggregationM18 := some configuration.m18Wire
  captureM18 := some configuration.m18Wire
  meter := some configuration.wire
  capturing := running

section Transactions

variable {configuration : PreparedMeterConfiguration Number Analog} {point : Option FailurePoint}
  {rpu after : Rpu} {restart : Bool}

theorem transact_ok {transaction : Transaction} {effect : Rpu → Rpu}
    (succeeded : transact point transaction effect rpu = .ok after) : after = effect rpu := by
  unfold transact at succeeded
  split at succeeded
  · split at succeeded
    · cases succeeded
    · exact (Except.ok.inj succeeded).symm
  · exact (Except.ok.inj succeeded).symm

theorem transact_keeps {View : Type} (view : Rpu → View) {transaction : Transaction}
    {effect : Rpu → Rpu} (failed : transact point transaction effect rpu = .error after)
    (keeps : ∀ rpu, view (effect rpu) = view rpu) : view after = view rpu := by
  unfold transact at failed
  split at failed
  · split at failed
    · cases failed
      split
      · exact keeps rpu
      · rfl
    · cases failed
  · cases failed

theorem configureMeter_ok (succeeded : configureMeter configuration point rpu = .ok after) :
    after = { rpu with
      aggregationM18 := some configuration.m18Wire
      captureM18 := some configuration.m18Wire
      meter := some configuration.wire } := by
  rcases Loops.bind_ok succeeded with ⟨first, aggregation, succeeded⟩
  rcases Loops.bind_ok succeeded with ⟨second, capture, succeeded⟩
  rw [transact_ok succeeded, transact_ok capture, transact_ok aggregation]

theorem configureMeter_keeps (failed : configureMeter configuration point rpu = .error after) :
    (after.demand, after.capturing) = (rpu.demand, rpu.capturing) := by
  rcases Loops.bind_error failed with aggregation | ⟨first, aggregation, failed⟩
  · exact transact_keeps (fun rpu => (rpu.demand, rpu.capturing)) aggregation (fun _ => rfl)
  · rcases Loops.bind_error failed with capture | ⟨second, capture, failed⟩
    · rw [transact_keeps (fun rpu => (rpu.demand, rpu.capturing)) capture (fun _ => rfl),
        transact_ok aggregation]
    · rw [transact_keeps (fun rpu => (rpu.demand, rpu.capturing)) failed (fun _ => rfl),
        transact_ok capture, transact_ok aggregation]

theorem startCapture_ok (succeeded : startCapture configuration point rpu = .ok after) :
    after = { rpu with
      aggregationM18 := some configuration.m18Wire
      captureM18 := some configuration.m18Wire
      meter := some configuration.wire
      capturing := true } := by
  rcases Loops.bind_ok succeeded with ⟨first, stopped, succeeded⟩
  rcases Loops.bind_ok succeeded with ⟨second, configured, succeeded⟩
  rw [transact_ok succeeded, configureMeter_ok configured, transact_ok stopped]

theorem startCapture_keeps (failed : startCapture configuration point rpu = .error after) :
    after.demand = rpu.demand := by
  rcases Loops.bind_error failed with stopped | ⟨first, stopped, failed⟩
  · exact transact_keeps Rpu.demand stopped (fun _ => rfl)
  · rcases Loops.bind_error failed with configured | ⟨second, configured, failed⟩
    · rw [(Prod.mk.inj (configureMeter_keeps configured)).1, transact_ok stopped]
    · rw [transact_keeps Rpu.demand failed (fun _ => rfl), configureMeter_ok configured,
        transact_ok stopped]

theorem sendConfiguration_ok {demand : DemandConfig} (known : rpu.demand = some demand)
    (stopped : rpu.capturing = false)
    (succeeded : sendConfiguration restart configuration point rpu = .ok after) :
    after = acceptedRpu configuration demand restart := by
  unfold sendConfiguration at succeeded
  cases restart with
  | true =>
      rw [startCapture_ok succeeded, known]
      rfl
  | false =>
      rw [configureMeter_ok succeeded, known, stopped]
      rfl

theorem sendConfiguration_keeps
    (failed : sendConfiguration restart configuration point rpu = .error after) :
    after.demand = rpu.demand ∧ (restart = false → after.capturing = rpu.capturing) := by
  unfold sendConfiguration at failed
  cases restart with
  | true => exact ⟨startCapture_keeps failed, fun contrary => nomatch contrary⟩
  | false =>
      have kept := Prod.mk.inj (configureMeter_keeps failed)
      exact ⟨kept.1, fun _ => kept.2⟩

end Transactions

/-- The RPU has accepted what the coordinator holds. -/
def Accepted (coordinator : CaptureCoordinator Number Analog Rest) : Prop :=
  coordinator.rpu =
    acceptedRpu coordinator.configuration coordinator.desiredDemand coordinator.running

def archiveLimitBytes (settings : ProductSettings Number Analog Rest) : UInt64 :=
  settings.waveform.archiveLimitGib.toUInt64 * 1024 * 1024 * 1024

structure Settled (coordinator : CaptureCoordinator Number Analog Rest) : Prop where
  accepted : Accepted coordinator
  demand : coordinator.desiredDemand = demandConfiguration coordinator.productSettings.demand
  archive : coordinator.archiveLimitBytes = archiveLimitBytes coordinator.productSettings

section Applying

variable {coordinator after : CaptureCoordinator Number Analog Rest}
  {staged : PreparedMeterConfiguration Number Analog} {point : Option FailurePoint}

/-- The RPU as `apply_complete_configuration` finds it once capture is stopped. -/
def stoppedRpu (coordinator : CaptureCoordinator Number Analog Rest) : Rpu :=
  (if coordinator.running then coordinator.stop else coordinator).rpu

theorem stoppedRpu_demand (accepted : Accepted coordinator) :
    (stoppedRpu coordinator).demand = some coordinator.desiredDemand := by
  unfold stoppedRpu CaptureCoordinator.stop
  split
  · rw [accepted]
    rfl
  · rw [accepted]
    rfl

theorem stoppedRpu_capturing (accepted : Accepted coordinator) :
    (stoppedRpu coordinator).capturing = false := by
  unfold stoppedRpu CaptureCoordinator.stop
  split
  · rfl
  · next idle =>
      rw [accepted]
      exact Bool.eq_false_of_not_eq_true idle

theorem rolledBack_accepted {configuration : PreparedMeterConfiguration Number Analog}
    {demand : DemandConfig} {rpu : Rpu} {restart : Bool} (known : rpu.demand = some demand)
    (stopped : restart = false → rpu.capturing = false) :
    rolledBack (sendConfiguration restart configuration none rpu) =
      acceptedRpu configuration demand restart := by
  cases restart with
  | true => simp [rolledBack, sendConfiguration, startCapture, configureMeter, transact, bind,
      Except.bind, acceptedRpu, known]
  | false => simp [rolledBack, sendConfiguration, configureMeter, transact, bind, Except.bind,
      acceptedRpu, known, stopped rfl]

theorem applyComplete_taken (accepted : Accepted coordinator)
    (taken : coordinator.applyCompleteConfiguration staged point = (after, true)) :
    after = { coordinator with
      configuration := staged
      rpu := acceptedRpu staged coordinator.desiredDemand coordinator.running } := by
  unfold CaptureCoordinator.applyCompleteConfiguration at taken
  dsimp only at taken
  change (match sendConfiguration coordinator.running staged point (stoppedRpu coordinator) with
    | .ok rpu => _
    | .error rpu => _) = _ at taken
  split at taken
  · next rpu sent =>
      have reached := sendConfiguration_ok (stoppedRpu_demand accepted)
        (stoppedRpu_capturing accepted) sent
      cases taken
      rw [reached]
      split <;> rfl
  · cases taken

theorem applyComplete_refused (accepted : Accepted coordinator)
    (refused : coordinator.applyCompleteConfiguration staged point = (after, false)) :
    after = coordinator := by
  unfold CaptureCoordinator.applyCompleteConfiguration at refused
  dsimp only at refused
  change (match sendConfiguration coordinator.running staged point (stoppedRpu coordinator) with
    | .ok rpu => _
    | .error rpu => _) = _ at refused
  split at refused
  · cases refused
  · next rpu failed =>
      have kept := sendConfiguration_keeps failed
      have restored : rolledBack (sendConfiguration coordinator.running coordinator.configuration
          none rpu) = coordinator.rpu := by
        rw [accepted]
        apply rolledBack_accepted (kept.1.trans (stoppedRpu_demand accepted))
        intro idle
        exact (kept.2 idle).trans (stoppedRpu_capturing accepted)
      cases refused
      rw [restored]
      split <;> rfl

theorem configureDemand_taken {demand : DemandConfig}
    (taken : coordinator.configureDemand demand point = (after, true)) :
    after = { coordinator with
      desiredDemand := demand
      rpu := { coordinator.rpu with demand := some demand } } := by
  unfold CaptureCoordinator.configureDemand at taken
  split at taken
  · next rpu sent =>
      cases taken
      rw [transact_ok sent]
  · cases taken

/-- Whatever came of an attempt, asking for the old profile again restores the coordinator. -/
theorem configureDemand_restored {demand : DemandConfig} {taken : Bool}
    (accepted : Accepted coordinator)
    (asked : coordinator.configureDemand demand point = (after, taken)) :
    (after.configureDemand coordinator.desiredDemand none).1 = coordinator := by
  have sent : after.rpu = { coordinator.rpu with demand := after.rpu.demand } ∧
      after = { coordinator with desiredDemand := demand, rpu := after.rpu } := by
    unfold CaptureCoordinator.configureDemand transact at asked
    split at asked
    · next rpu result =>
        cases asked
        refine ⟨?_, rfl⟩
        split at result
        · split at result
          · cases result
          · cases result
            rfl
        · cases result
          rfl
    · next rpu result =>
        cases asked
        refine ⟨?_, rfl⟩
        split at result
        · split at result
          · cases result
            split <;> rfl
          · cases result
        · cases result
  unfold CaptureCoordinator.configureDemand transact
  dsimp only
  rw [sent.2]
  dsimp only
  rw [sent.1]
  have own : coordinator.rpu = { coordinator.rpu with
      demand := some coordinator.desiredDemand } := by
    conv_lhs => rw [accepted]
    conv_rhs => rw [accepted]
    rfl
  rw [← own]

/-- The configuration that settings leave behind: the staged one only if its generation is new. -/
def nextConfiguration (coordinator : CaptureCoordinator Number Analog Rest)
    (staged : PreparedMeterConfiguration Number Analog) :
    PreparedMeterConfiguration Number Analog :=
  if staged.wire.generation ≠ coordinator.configuration.wire.generation then staged
  else coordinator.configuration

theorem applyPipeline_taken (accepted : Accepted coordinator)
    (taken : coordinator.applyPipeline staged point = (after, true)) :
    after = { coordinator with
      configuration := nextConfiguration coordinator staged
      rpu := acceptedRpu (nextConfiguration coordinator staged) coordinator.desiredDemand
        coordinator.running } := by
  unfold CaptureCoordinator.applyPipeline at taken
  unfold nextConfiguration
  split at taken
  · next other =>
      rw [if_pos other]
      exact applyComplete_taken accepted taken
  · next same =>
      rw [if_neg same, ← accepted]
      exact (Prod.mk.inj taken).1.symm

theorem applyPipeline_refused (accepted : Accepted coordinator)
    (refused : coordinator.applyPipeline staged point = (after, false)) : after = coordinator := by
  unfold CaptureCoordinator.applyPipeline at refused
  split at refused
  · exact applyComplete_refused accepted refused
  · cases refused

variable {candidate : ProductSettings Number Analog Rest}

theorem demand_unchanged (same : ¬ coordinator.demandChanged candidate) :
    candidate.demand = coordinator.productSettings.demand := by
  unfold CaptureCoordinator.demandChanged at same
  simp only [ne_eq, Bool.or_eq_true, decide_eq_true_eq, not_or, not_not] at same
  exact DemandSettings.ext same.1 same.2

theorem configureDemand_accepted {demand : DemandConfig} (accepted : Accepted coordinator)
    (taken : coordinator.configureDemand demand point = (after, true)) : Accepted after := by
  rw [configureDemand_taken taken]
  unfold Accepted
  dsimp only
  rw [accepted]
  rfl

theorem applyLive_taken (settled : Settled coordinator)
    (taken : coordinator.applyLive candidate staged point = (after, true)) :
    after = { coordinator with
      configuration := nextConfiguration coordinator staged
      desiredDemand := demandConfiguration candidate.demand
      rpu := acceptedRpu (nextConfiguration coordinator staged)
        (demandConfiguration candidate.demand) coordinator.running } := by
  unfold CaptureCoordinator.applyLive at taken
  dsimp only at taken
  split at taken
  · split at taken
    · cases taken
    · next demanded asked =>
        split at taken
        · next applied piped =>
            cases taken
            rw [applyPipeline_taken (configureDemand_accepted settled.accepted asked) piped,
              configureDemand_taken asked]
            rfl
        · cases taken
  · next same =>
      rw [applyPipeline_taken settled.accepted taken, demand_unchanged same, ← settled.demand]

theorem applyLive_refused (settled : Settled coordinator)
    (refused : coordinator.applyLive candidate staged point = (after, false)) :
    after = coordinator := by
  unfold CaptureCoordinator.applyLive at refused
  dsimp only at refused
  rw [← settled.demand] at refused
  split at refused
  · split at refused
    · next demanded asked =>
        cases refused
        exact configureDemand_restored settled.accepted asked
    · next demanded asked =>
        split at refused
        · cases refused
        · next applied piped =>
            cases refused
            rw [applyPipeline_refused (configureDemand_accepted settled.accepted asked) piped]
            exact configureDemand_restored settled.accepted asked
  · exact applyPipeline_refused settled.accepted refused

variable {platform : Platform Number Analog Rest}

theorem checkedContext_ok {context checked : WaveformCaptureContext}
    (passed : checkedContext context = .ok checked) : checked = context := by
  unfold checkedContext at passed
  split at passed
  · cases passed
  · exact (Except.ok.inj passed).symm

theorem adoptSettings_returned
    (returned : coordinator.adoptSettings platform candidate = (after, .returned)) :
    ∃ context, waveformCaptureContext platform candidate coordinator.configuration = .ok context ∧
      checkedContext context = .ok context ∧
      after = { coordinator with
        productSettings := candidate
        context
        archiveLimitBytes := archiveLimitBytes candidate } := by
  unfold CaptureCoordinator.adoptSettings at returned
  split at returned
  · cases returned
  · next context derived =>
      split at returned
      · cases returned
      · next limit limited =>
          have bytes : limit = archiveLimitBytes candidate := by
            unfold setArchiveLimitGib at limited
            split at limited
            · cases limited
            · exact (Except.ok.inj limited).symm
          dsimp only at returned
          split at returned
          · cases returned
          · next checked passed =>
              have same := checkedContext_ok passed
              subst same
              cases returned
              exact ⟨checked, derived, passed, by rw [bytes]⟩

theorem adoptSettings_end :
    (coordinator.adoptSettings platform candidate).2 ≠ .rpuFailed := by
  unfold CaptureCoordinator.adoptSettings
  split
  · exact fun contrary => nomatch contrary
  · split
    · exact fun contrary => nomatch contrary
    · dsimp only
      split <;> exact fun contrary => nomatch contrary

theorem applyProductSettings_returned {given : Except String (ProductSettings Number Analog Rest)}
    (settled : Settled coordinator)
    (returned : coordinator.applyProductSettings platform given point = (after, .returned)) :
    ∃ settings staged context, given = .ok settings ∧
      prepareProductConfiguration platform settings = .ok staged ∧
      waveformCaptureContext platform settings (nextConfiguration coordinator staged) =
        .ok context ∧ checkedContext context = .ok context ∧
      after = {
        productSettings := settings
        configuration := nextConfiguration coordinator staged
        context
        archiveLimitBytes := archiveLimitBytes settings
        desiredDemand := demandConfiguration settings.demand
        running := coordinator.running
        rpu := acceptedRpu (nextConfiguration coordinator staged)
          (demandConfiguration settings.demand) coordinator.running } := by
  unfold CaptureCoordinator.applyProductSettings at returned
  split at returned
  · cases returned
  · next settings staged prepared =>
      rcases Loops.bind_ok prepared with ⟨decoded, known, prepared⟩
      rcases Loops.bind_ok prepared with ⟨_, _, prepared⟩
      rcases Loops.bind_ok prepared with ⟨configuration, ready, prepared⟩
      cases prepared
      split at returned
      · next applied live =>
          rcases adoptSettings_returned returned with ⟨context, derived, passed, rfl⟩
          rw [applyLive_taken settled live] at derived ⊢
          exact ⟨settings, staged, context, known, ready, derived, passed, rfl⟩
      · cases returned

theorem applyProductSettings_failed {given : Except String (ProductSettings Number Analog Rest)}
    (settled : Settled coordinator)
    (failed : coordinator.applyProductSettings platform given point = (after, .rpuFailed)) :
    after = coordinator := by
  unfold CaptureCoordinator.applyProductSettings at failed
  split at failed
  · cases failed
  · split at failed
    · exact absurd (congrArg Prod.snd failed) adoptSettings_end
    · next applied live =>
        cases failed
        exact applyLive_refused settled live

theorem applySampleRate_returned {sampleRateHz : UInt32} (settled : Settled coordinator)
    (returned : coordinator.applySampleRate platform sampleRateHz point = (after, .returned)) :
    ∃ staged context, after = { coordinator with
      configuration := staged
      context
      rpu := acceptedRpu staged coordinator.desiredDemand coordinator.running } := by
  unfold CaptureCoordinator.applySampleRate at returned
  split at returned
  · cases returned
  · dsimp only at returned
    split at returned
    · cases returned
    · next staged _ =>
        split at returned
        · cases returned
        · next applied taken =>
            split at returned
            · cases returned
            · next context _ =>
                cases returned
                rw [applyComplete_taken settled.accepted taken]
                exact ⟨staged, context, rfl⟩

theorem applySampleRate_failed {sampleRateHz : UInt32} (settled : Settled coordinator)
    (failed : coordinator.applySampleRate platform sampleRateHz point = (after, .rpuFailed)) :
    after = coordinator := by
  unfold CaptureCoordinator.applySampleRate at failed
  split at failed
  · cases failed
  · dsimp only at failed
    split at failed
    · cases failed
    · split at failed
      · next applied refused =>
          cases failed
          exact applyComplete_refused settled.accepted refused
      · split at failed
        · cases failed
        · cases failed

end Applying

section Runs

variable {platform : Platform Number Analog Rest}
  {coordinator : CaptureCoordinator Number Analog Rest}
  {call : CoordinatorCall Number Analog Rest}

theorem failed_call (settled : Settled coordinator)
    (failed : (coordinatorMachine platform).answer coordinator call = .rpuFailed) :
    (coordinatorMachine platform).next coordinator call = coordinator := by
  cases call with
  | applyProductSettings candidate point =>
      exact applyProductSettings_failed settled (Prod.ext rfl failed)
  | applySampleRate sampleRateHz point =>
      exact applySampleRate_failed settled (Prod.ext rfl failed)

theorem settled_next
    (ended : ∀ reason, (coordinatorMachine platform).answer coordinator call ≠ .rejected reason)
    (settled : Settled coordinator) :
    Settled ((coordinatorMachine platform).next coordinator call) := by
  cases answered : (coordinatorMachine platform).answer coordinator call with
  | rejected reason => exact absurd answered (ended reason)
  | rpuFailed =>
      rw [failed_call settled answered]
      exact settled
  | returned =>
      cases call with
      | applyProductSettings candidate point =>
          rcases applyProductSettings_returned settled (Prod.ext rfl answered) with
            ⟨settings, staged, context, -, -, -, -, after⟩
          have reached : (coordinatorMachine platform).next coordinator
              (.applyProductSettings candidate point) = _ := after
          rw [reached]
          exact ⟨rfl, rfl, rfl⟩
      | applySampleRate sampleRateHz point =>
          rcases applySampleRate_returned settled (Prod.ext rfl answered) with
            ⟨staged, context, after⟩
          have reached : (coordinatorMachine platform).next coordinator
              (.applySampleRate sampleRateHz point) = _ := after
          rw [reached]
          exact ⟨rfl, settled.demand, settled.archive⟩

theorem settled_fresh {settings : ProductSettings Number Analog Rest}
    (started : freshlyStarted platform settings = .ok coordinator) : Settled coordinator := by
  rcases Loops.bind_ok started with ⟨configuration, _, started⟩
  rcases Loops.bind_ok started with ⟨derived, _, started⟩
  rcases Loops.bind_ok started with ⟨context, _, started⟩
  cases started
  exact ⟨rfl, rfl, rfl⟩

theorem settled_stop (settled : Settled coordinator) : Settled coordinator.stop := by
  refine ⟨?_, settled.demand, settled.archive⟩
  unfold Accepted CaptureCoordinator.stop
  dsimp only
  rw [settled.accepted]
  rfl

end Runs

/-- What a restart would set up anew. -/
structure LiveView (Number Analog Rest : Type) where
  productSettings : ProductSettings Number Analog Rest
  configuration : PreparedMeterConfiguration Number Analog
  context : WaveformCaptureContext
  archiveLimitBytes : UInt64
  demand : DemandConfig
  acceptedDemand : Option DemandConfig
  acceptedAggregationM18 : Option ConfigPayload
  acceptedCaptureM18 : Option ConfigPayload
  acceptedMeter : Option ConfigPayload

def CaptureCoordinator.view (coordinator : CaptureCoordinator Number Analog Rest) :
    LiveView Number Analog Rest where
  productSettings := coordinator.productSettings
  configuration := coordinator.configuration
  context := coordinator.context
  archiveLimitBytes := coordinator.archiveLimitBytes
  demand := coordinator.desiredDemand
  acceptedDemand := coordinator.rpu.demand
  acceptedAggregationM18 := coordinator.rpu.aggregationM18
  acceptedCaptureM18 := coordinator.rpu.captureM18
  acceptedMeter := coordinator.rpu.meter

/-- The fingerprints of two configurations do not collide. -/
def CollisionFree (staged current : PreparedMeterConfiguration Number Analog) : Prop :=
  staged.wire.generation = current.wire.generation →
    staged.wire = current.wire ∧ staged.m18Wire = current.m18Wire

theorem fresh_view {platform : Platform Number Analog Rest}
    {settings : ProductSettings Number Analog Rest}
    {staged : PreparedMeterConfiguration Number Analog}
    {fresh : CaptureCoordinator Number Analog Rest}
    (prepared : prepareProductConfiguration platform settings = .ok staged)
    (started : freshlyStarted platform settings = .ok fresh) :
    fresh.view.configuration = staged := by
  rcases Loops.bind_ok started with ⟨configuration, ready, started⟩
  rcases Loops.bind_ok started with ⟨derived, _, started⟩
  rcases Loops.bind_ok started with ⟨context, _, started⟩
  cases started
  exact Except.ok.inj (ready.symm.trans prepared)

theorem adopted_as_fresh {platform : Platform Number Analog Rest}
    {settings : ProductSettings Number Analog Rest}
    {staged : PreparedMeterConfiguration Number Analog} {context : WaveformCaptureContext}
    (prepared : prepareProductConfiguration platform settings = .ok staged)
    (derived : waveformCaptureContext platform settings staged = .ok context)
    (passed : checkedContext context = .ok context) (running : Bool) :
    ∃ fresh, freshlyStarted platform settings = .ok fresh ∧
      CaptureCoordinator.view {
        productSettings := settings
        configuration := staged
        context
        archiveLimitBytes := archiveLimitBytes settings
        desiredDemand := demandConfiguration settings.demand
        running
        rpu := acceptedRpu staged (demandConfiguration settings.demand) running } = fresh.view := by
  unfold freshlyStarted
  simp only [prepared, derived, passed, bind, Except.bind, pure, Except.pure]
  exact ⟨_, rfl, rfl⟩

/-- Over every history of calls, settings that are applied live and return leave what a restart on
them would exactly if they change the generation or keep the meter source; a call that a
transaction fails leaves everything as it was. -/
theorem live_settings_as_restarted (platform : Platform Number Analog Rest)
    (initial : ProductSettings Number Analog Rest) (first : CaptureCoordinator Number Analog Rest)
    (began : freshlyStarted platform initial = .ok first) (running : Bool)
    (calls : List (CoordinatorCall Number Analog Rest))
    (ended : (coordinatorMachine platform).Along (fun coordinator call =>
      ∀ reason, (coordinatorMachine platform).answer coordinator call ≠ .rejected reason)
        (if running then first else first.stop) calls)
    (before : CaptureCoordinator Number Analog Rest)
    (reached : before = (coordinatorMachine platform).run
      (if running then first else first.stop) calls) :
    (∀ settings staged point, prepareProductConfiguration platform settings = .ok staged →
      CollisionFree staged before.configuration →
      (coordinatorMachine platform).answer before (.applyProductSettings (.ok settings) point) =
        .returned →
      ((∃ fresh, freshlyStarted platform settings = .ok fresh ∧
        ((coordinatorMachine platform).next before
          (.applyProductSettings (.ok settings) point)).view = fresh.view) ↔
        staged.wire.generation ≠ before.configuration.wire.generation ∨
          toMeterConfiguration settings = before.configuration.source)) ∧
      ∀ call, (coordinatorMachine platform).answer before call = .rpuFailed →
        ((coordinatorMachine platform).next before call).view = before.view ∧
          ((coordinatorMachine platform).next before call).running = before.running := by
  have start : Settled (if running then first else first.stop) := by
    split
    · exact settled_fresh began
    · exact settled_stop (settled_fresh began)
  have settled : Settled before := by
    rw [reached]
    exact Machine.along_invariant _ _ Settled (fun _ _ ended kept => settled_next ended kept) _
      start calls ended
  constructor
  · intro settings staged point prepared collisionFree returned
    rcases applyProductSettings_returned settled (Prod.ext rfl returned) with
      ⟨known, ready, context, same, again, derived, passed, after⟩
    cases same
    have unique : ready = staged := Except.ok.inj (again.symm.trans prepared)
    rw [unique] at derived after
    have result : (coordinatorMachine platform).next before
        (.applyProductSettings (.ok settings) point) = _ := after
    have source : staged.source = toMeterConfiguration settings := by
      rcases Loops.bind_ok prepared with ⟨wire, _, prepared⟩
      rcases Loops.bind_ok prepared with ⟨m18Wire, _, prepared⟩
      cases prepared
      rfl
    rw [result]
    constructor
    · rintro ⟨fresh, started, view⟩
      have configuration := congrArg LiveView.configuration view
      rw [fresh_view prepared started] at configuration
      change nextConfiguration before staged = staged at configuration
      unfold nextConfiguration at configuration
      split at configuration
      · next other => exact .inl other
      · right
        rw [configuration, source]
    · intro covered
      have adopted : nextConfiguration before staged = staged := by
        unfold nextConfiguration
        split
        · rfl
        · next generation =>
            have wires := collisionFree (not_not.mp generation)
            have origin := covered.resolve_left generation
            rw [← source] at origin
            cases staged
            cases configuration : before.configuration
            rw [configuration] at wires origin
            rw [PreparedMeterConfiguration.mk.injEq]
            exact ⟨origin.symm, wires.1.symm, wires.2.symm⟩
      rw [adopted] at derived ⊢
      exact adopted_as_fresh prepared derived passed before.running
  · intro call failed
    rw [failed_call settled failed]
    exact ⟨rfl, rfl⟩

end Coordinator

/-- The names of the voltage channels as the document, and their digits as its digest. -/
def benchExternals : Externals ℚ Settings.AnalogSettings (Settings.Policies Unit) where
  encodeSettings settings := String.join (settings.voltageChannels.map fun channel => channel.name)
  encodeSource source := String.join (source.voltageChannels.map fun channel => channel.name)
  settingsHash text := String.ofList (((text.toList.map fun letter =>
    Nat.digitChar (letter.toNat % 16)) ++ List.replicate 64 '0').take 64)
  sha256 text := text.toUTF8.toList.take 32
  machineIdentity := "bench"
  image := ⟨false, "", ""⟩
  utcOffsetSeconds := 0

def benchPlatform : Platform ℚ Settings.AnalogSettings (Settings.Policies Unit) :=
  Settings.wirePlatform (fun _ => .ok ()) benchExternals

/-- The factory settings but for the name of a voltage channel and the sample rate. -/
def benchSettings (name : String) (sampleRateHz : UInt32) : Settings.ProductSettings Unit :=
  { Settings.factorySettings 120 with
    sampleRateHz
    voltageChannels := [Settings.voltageDivider 4 "VLC", Settings.voltageDivider 5 "VLB",
      Settings.voltageDivider 6 name] }

def benchFirst : CaptureCoordinator ℚ Settings.AnalogSettings (Settings.Policies Unit) :=
  (freshlyStarted benchPlatform (benchSettings "VA" 32000)).toOption.get (by decide +kernel)

theorem benchFirst_started :
    freshlyStarted benchPlatform (benchSettings "VA" 32000) = .ok benchFirst :=
  Loops.toOption_ok (Option.some_get _).symm

/-- What the settings with another channel name are prepared to. -/
def benchRenamed : PreparedMeterConfiguration ℚ Settings.AnalogSettings :=
  (prepareProductConfiguration benchPlatform (benchSettings "UA" 32000)).toOption.get
    (by decide +kernel)

theorem benchRenamed_prepared :
    prepareProductConfiguration benchPlatform (benchSettings "UA" 32000) = .ok benchRenamed :=
  Loops.toOption_ok (Option.some_get _).symm

/-- After a temporary sample rate, settings with another channel name take full effect. -/
theorem renamed_channel_restarts :
    ∃ fresh, freshlyStarted benchPlatform (benchSettings "UA" 32000) = .ok fresh ∧
      ((coordinatorMachine benchPlatform).next
        ((coordinatorMachine benchPlatform).run benchFirst [.applySampleRate 16000 none])
        (.applyProductSettings (.ok (benchSettings "UA" 32000)) none)).view = fresh.view := by
  have ran : (coordinatorMachine benchPlatform).answer benchFirst (.applySampleRate 16000 none) =
        .returned ∧
      benchRenamed.wire.generation ≠ ((coordinatorMachine benchPlatform).run benchFirst
        [.applySampleRate 16000 none]).configuration.wire.generation ∧
      (coordinatorMachine benchPlatform).answer ((coordinatorMachine benchPlatform).run benchFirst
        [.applySampleRate 16000 none]) (.applyProductSettings (.ok (benchSettings "UA" 32000))
          none) = .returned := by
    decide +kernel
  have ended : (coordinatorMachine benchPlatform).Along (fun coordinator call =>
      ∀ reason, (coordinatorMachine benchPlatform).answer coordinator call ≠ .rejected reason)
        (if true then benchFirst else benchFirst.stop) [.applySampleRate 16000 none] := by
    refine ⟨?_, trivial⟩
    intro reason
    rw [if_pos rfl, ran.1]
    exact fun contrary => nomatch contrary
  apply ((live_settings_as_restarted benchPlatform (benchSettings "VA" 32000) benchFirst
    benchFirst_started true [.applySampleRate 16000 none] ended
      ((coordinatorMachine benchPlatform).run benchFirst [.applySampleRate 16000 none])
        (by rw [if_pos rfl])).1 (benchSettings "UA" 32000) benchRenamed none benchRenamed_prepared
          (fun same => absurd same ran.2.1) ran.2.2).mpr
  exact .inl ran.2.1

/-- Settings that only rename a voltage channel return without reaching the configuration that
captures are described with. -/
theorem renamed_channel_lost :
    (coordinatorMachine benchPlatform).answer benchFirst
        (.applyProductSettings (.ok (benchSettings "UA" 32000)) none) = .returned ∧
      (∃ staged, prepareProductConfiguration benchPlatform (benchSettings "UA" 32000) =
        .ok staged ∧ CollisionFree staged benchFirst.configuration) ∧
      ¬ ∃ fresh, freshlyStarted benchPlatform (benchSettings "UA" 32000) = .ok fresh ∧
        ((coordinatorMachine benchPlatform).next benchFirst
          (.applyProductSettings (.ok (benchSettings "UA" 32000)) none)).view = fresh.view := by
  have ran : (coordinatorMachine benchPlatform).answer benchFirst
        (.applyProductSettings (.ok (benchSettings "UA" 32000)) none) = .returned ∧
      (benchRenamed.wire = benchFirst.configuration.wire ∧
        benchRenamed.m18Wire = benchFirst.configuration.m18Wire) ∧
      ((coordinatorMachine benchPlatform).next benchFirst (.applyProductSettings
        (.ok (benchSettings "UA" 32000)) none)).view.configuration ≠ benchRenamed := by
    decide +kernel
  refine ⟨ran.1, ⟨benchRenamed, benchRenamed_prepared, fun _ => ran.2.1⟩, ?_⟩
  rintro ⟨fresh, started, same⟩
  have configuration := congrArg LiveView.configuration same
  rw [fresh_view benchRenamed_prepared started] at configuration
  exact ran.2.2 configuration

end Msap1.Acquisition
