import Msap1.DataSender.Recovery
import Msap1.DataSender.Writers

/-! `DataSenderEngine`: the jobs, their watermarks and the generation of due windows. The
datalogger itself is a parameter. -/

namespace Msap1.DataSender

/-- A job as the scheduler sees it; `query` stands for what only the datalogger reads. -/
structure DatalogJobSnapshot (Query : Type) where
  jobId : String
  revision : UInt64
  generationInterval : UtcNanoseconds
  format : ContentFormat
  query : Query

structure ScheduledJob (Query : Type) where
  snapshot : DatalogJobSnapshot Query
  enabled : Bool
  localOnly : Bool
  channelIds : List String

structure ScheduledJobStatus where
  jobId : String
  revision : UInt64
  enabled : Bool
  nextWindow : Option UtcWindow := none
  lastGeneratedWindow : Option UtcWindow := none
  lastGeneratedAt : UtcNanoseconds := 0
  lastError : String := ""
  deriving DecidableEq, Repr

/-- `Datalogger::generate`. -/
abbrev Datalogger (Query : Type) :=
  DatalogJobSnapshot Query → UtcWindow → UtcNanoseconds → Except SenderFailure MeterDataset

/-- The identity that `HistoricalDatasetGenerator::generate` gives the artifact of a window. -/
def artifactName {Query : Type} (job : DatalogJobSnapshot Query) (window : UtcWindow) : String :=
  job.jobId ++ "-r" ++ toString job.revision ++ "-" ++ toString window.start ++ "-" ++
    toString window.finish ++ "-" ++ contentFormatName job.format

def generationSettleDelay : UtcNanoseconds := 30000000000

def nextBoundary (now interval : UtcNanoseconds) : Except SenderFailure UtcNanoseconds :=
  if now < 0 ∨ interval ≤ 0 ∨ 9223372036854775807 - interval < now then
    .error (.failure (.invalidArgument "UTC scheduling interval is invalid"))
  else .ok ((now + interval - 1) / interval * interval)

/-- What one durable effect of the engine was for. -/
inductive Deed where
  | reset (now : UtcNanoseconds) (watermark : JobWatermark) (interval : UtcNanoseconds)
  | enqueuing (now : UtcNanoseconds) (jobId : String) (revision : UInt64) (window : UtcWindow)
  | completed (now : UtcNanoseconds) (jobId : String) (revision : UInt64) (window : UtcWindow)
      (skipped : Bool)
  deriving DecidableEq, Repr

/-- The durable effects of a call of the engine, and what each left. -/
abbrev Steps := List (Deed × Outbox)

def Steps.last (outbox : Outbox) (steps : Steps) : Outbox :=
  Trail.last outbox (steps.map Prod.snd)

section Jobs

variable {Query : Type}

def jobValid (job : ScheduledJob Query) : Bool :=
  job.snapshot.jobId ≠ "" && job.snapshot.revision ≠ 0 &&
    decide (0 < job.snapshot.generationInterval)

def carriedStatus (statuses : List ScheduledJobStatus) (job : ScheduledJob Query) :
    ScheduledJobStatus :=
  match statuses.find? (fun status => status.jobId = job.snapshot.jobId) with
  | some previous =>
      if previous.revision = job.snapshot.revision then { previous with enabled := job.enabled }
      else ⟨job.snapshot.jobId, job.snapshot.revision, job.enabled, none, none, 0, ""⟩
  | none => ⟨job.snapshot.jobId, job.snapshot.revision, job.enabled, none, none, 0, ""⟩

def windowFrom (job : ScheduledJob Query) (start : UtcNanoseconds) : UtcWindow :=
  ⟨start, start + job.snapshot.generationInterval⟩

/-- The watermark that still belongs to the revision of a job. -/
def currentWatermark (outbox : Outbox) (job : ScheduledJob Query) : Option JobWatermark :=
  (outbox.watermark job.snapshot.jobId).filter (fun watermark =>
    watermark.jobRevision = job.snapshot.revision)

/-- The body of the loop of `apply_jobs`. -/
def applyJob (now : UtcNanoseconds) (statuses : List ScheduledJobStatus) (outbox : Outbox)
    (job : ScheduledJob Query) : Except SenderFailure (Steps × ScheduledJobStatus) :=
  if ¬ jobValid job then .error (.failure (.invalidArgument "scheduled job is invalid"))
  else
    let status := carriedStatus statuses job
    if ¬ job.enabled then .ok ([], { status with nextWindow := none })
    else match currentWatermark outbox job with
      | some watermark =>
          .ok ([], { status with nextWindow := some (windowFrom job watermark.completedThrough) })
      | none => match nextBoundary now job.snapshot.generationInterval with
        | .error failure => .error failure
        | .ok boundary =>
            let watermark := ⟨job.snapshot.jobId, job.snapshot.revision, boundary⟩
            match outbox.storeWatermark watermark with
            | .error failure => .error failure
            | .ok stored =>
                .ok ([(.reset now watermark job.snapshot.generationInterval, stored)],
                  { status with
                    nextWindow := some (windowFrom job boundary)
                    lastGeneratedWindow := none
                    lastGeneratedAt := 0
                    lastError := "" })

/-- The loop of `apply_jobs` over the sorted jobs. -/
def applyAll (now : UtcNanoseconds) (statuses : List ScheduledJobStatus) :
    Outbox → List (ScheduledJob Query) → Steps × Except SenderFailure (List ScheduledJobStatus)
  | _, [] => ([], .ok [])
  | outbox, job :: jobs => match applyJob now statuses outbox job with
    | .error failure => ([], .error failure)
    | .ok (steps, status) =>
        let rest := applyAll now statuses (steps.last outbox) jobs
        (steps ++ rest.1, rest.2.map (fun others => status :: others))

def sortedJobs (jobs : List (ScheduledJob Query)) : List (ScheduledJob Query) :=
  jobs.mergeSort (fun left right => decide (left.snapshot.jobId ≤ right.snapshot.jobId))

inductive WindowOutcome where
  | generated
  | skippedExpired (text : String)
  | storageBlocked (text : String)
  | sourceDeferred (text : String)
  | thrown (failure : SenderFailure)
  deriving DecidableEq, Repr

def WindowOutcome.advances : WindowOutcome → Bool
  | .generated => true
  | .skippedExpired _ => true
  | _ => false

/-- Generate a window, serialize it and put it into the outbox: the `try` block up to the
watermark. -/
def enqueueWindow (sha256 : Body → String) (generate : Datalogger Query) (available : Nat)
    (now : UtcNanoseconds) (outbox : Outbox) (job : ScheduledJob Query) (window : UtcWindow) :
    List Outbox × Except SenderFailure Unit :=
  match generate job.snapshot window now with
  | .error failure => ([], .error failure)
  | .ok dataset => match writeContent sha256 job.snapshot.format dataset with
    | .error failure => ([], .error failure)
    | .ok generated => outbox.enqueue sha256 dataset.toGeneratedDataset generated job.channelIds
        job.localOnly available

def completeWindow (outbox : Outbox) (job : ScheduledJob Query) (window : UtcWindow) :
    Except SenderFailure Outbox :=
  outbox.storeWatermark ⟨job.snapshot.jobId, job.snapshot.revision, window.finish⟩

/-- The handlers of `generate_due` for a failure without a retention gap. -/
def deferredBy : SenderFailure → WindowOutcome
  | .datalogError .storageFailure text => .storageBlocked text
  | .datalogError _ text => .sourceDeferred text
  | _ => .sourceDeferred "generation dependency is unavailable"

/-- The body of the loop of `generate_due` on a due window. -/
def generateWindow (sha256 : Body → String) (generate : Datalogger Query) (available : Nat)
    (now : UtcNanoseconds) (outbox : Outbox) (job : ScheduledJob Query) (window : UtcWindow) :
    Steps × WindowOutcome :=
  let tried := enqueueWindow sha256 generate available now outbox job window
  let steps : Steps := tried.1.map (fun after =>
    (.enqueuing now job.snapshot.jobId job.snapshot.revision window, after))
  let completed (skipped : Bool) : Deed :=
    .completed now job.snapshot.jobId job.snapshot.revision window skipped
  match tried.2 with
  | .ok () => match completeWindow (steps.last outbox) job window with
    | .error failure => (steps, deferredBy failure)
    | .ok stored => (steps ++ [(completed false, stored)], .generated)
  | .error (.datalogError .sourceRetentionGap text) =>
      match completeWindow (steps.last outbox) job window with
      | .error failure => (steps, .thrown failure)
      | .ok stored => (steps ++ [(completed true, stored)], .skippedExpired text)
  | .error failure => (steps, deferredBy failure)

def dueWindow (now : UtcNanoseconds) (outbox : Outbox) (job : ScheduledJob Query) :
    Option UtcWindow :=
  match currentWatermark outbox job with
  | none => none
  | some watermark =>
      let window := windowFrom job watermark.completedThrough
      if now < window.finish + generationSettleDelay then none else some window

/-- A run over due windows: its durable effects, the windows it tried and whether the call
returned from the middle. -/
structure Generation (Query : Type) where
  steps : Steps := []
  attempts : List (ScheduledJob Query × UtcWindow × WindowOutcome) := []
  halted : Bool := false

variable (sha256 : Body → String) (generate : Datalogger Query) (available : Nat)
  (now : UtcNanoseconds)

/-- The inner loop of `generate_due`, with what is left of the budget. -/
def generateJob (job : ScheduledJob Query) : Nat → Outbox → Generation Query
  | 0, _ => {}
  | budget + 1, outbox => match dueWindow now outbox job with
    | none => {}
    | some window =>
        let tried := generateWindow sha256 generate available now outbox job window
        if tried.2.advances then
          let rest := generateJob job budget (tried.1.last outbox)
          ⟨tried.1 ++ rest.steps, (job, window, tried.2) :: rest.attempts, rest.halted⟩
        else ⟨tried.1, [(job, window, tried.2)], true⟩

/-- The outer loop of `generate_due`. -/
def generateJobs : List (ScheduledJob Query) → Nat → Outbox → Generation Query
  | [], _, _ => {}
  | job :: jobs, budget, outbox =>
      if ¬ job.enabled then generateJobs jobs budget outbox
      else
        let first := generateJob sha256 generate available now job budget outbox
        if first.halted then first
        else
          let rest := generateJobs jobs (budget - first.attempts.length) (first.steps.last outbox)
          ⟨first.steps ++ rest.steps, first.attempts ++ rest.attempts, rest.halted⟩

end Jobs

structure GenerationRunResult where
  generated : Nat
  skippedExpired : Nat
  storageBlocked : Bool
  sourceDeferred : Bool
  deriving DecidableEq, Repr

def isGenerated : WindowOutcome → Bool
  | .generated => true
  | _ => false

def isSkipped : WindowOutcome → Bool
  | .skippedExpired _ => true
  | _ => false

def isBlocked : WindowOutcome → Bool
  | .storageBlocked _ => true
  | _ => false

def isDeferred : WindowOutcome → Bool
  | .sourceDeferred _ => true
  | _ => false

/-- The counters of `generate_due`, or what it threw. -/
def runResult {Query : Type} (generation : Generation Query) :
    Except SenderFailure GenerationRunResult :=
  let outcomes := generation.attempts.map (fun attempt => attempt.2.2)
  match outcomes.getLast? with
  | some (WindowOutcome.thrown failure) => .error failure
  | _ => .ok ⟨outcomes.countP isGenerated, outcomes.countP isSkipped, outcomes.any isBlocked,
      outcomes.any isDeferred⟩

/-- The status of a job after one of its windows was tried. -/
def statusAfter (now interval : UtcNanoseconds) (window : UtcWindow) (status : ScheduledJobStatus) :
    WindowOutcome → ScheduledJobStatus
  | .generated => { status with
      lastGeneratedWindow := some window
      lastGeneratedAt := now
      lastError := ""
      nextWindow := some ⟨window.finish, window.finish + interval⟩ }
  | .skippedExpired text => { status with
      lastError := text
      nextWindow := some ⟨window.finish, window.finish + interval⟩ }
  | .storageBlocked text => { status with lastError := text }
  | .sourceDeferred text => { status with lastError := text }
  | .thrown _ => status

def updateFirst (jobId : String) (change : ScheduledJobStatus → ScheduledJobStatus) :
    List ScheduledJobStatus → List ScheduledJobStatus
  | [] => []
  | status :: statuses =>
      if status.jobId = jobId then change status :: statuses
      else status :: updateFirst jobId change statuses

/-- The engine, with the outbox it works on. -/
structure Engine (Query : Type) where
  jobs : List (ScheduledJob Query) := []
  statuses : List ScheduledJobStatus := []
  outbox : Outbox := {}

namespace Engine

variable {Query : Type} (sha256 : Body → String) (engine : Engine Query)

/-- `apply_jobs`: a failure leaves the jobs as they were, but not the watermarks that were
already stored. -/
def applyJobs (now : UtcNanoseconds) (jobs : List (ScheduledJob Query)) :
    Steps × Except SenderFailure (Engine Query) :=
  let sorted := sortedJobs jobs
  let applied := applyAll now engine.statuses engine.outbox sorted
  (applied.1, applied.2.map (fun statuses => ⟨sorted, statuses, applied.1.last engine.outbox⟩))

def generation (generate : Datalogger Query) (available : Nat) (now : UtcNanoseconds)
    (maximumWindows : Nat) : Generation Query :=
  generateJobs sha256 generate available now engine.jobs maximumWindows engine.outbox

def generateDue (generate : Datalogger Query) (available : Nat) (now : UtcNanoseconds)
    (maximumWindows : Nat) : Engine Query × Except SenderFailure GenerationRunResult :=
  if maximumWindows = 0 ∨ 100 < maximumWindows then
    (engine, .error (.failure (.invalidArgument "generation batch limit is invalid")))
  else
    let done := engine.generation sha256 generate available now maximumWindows
    ({ engine with
        statuses := done.attempts.foldl (fun statuses attempt =>
          updateFirst attempt.1.snapshot.jobId (fun status =>
            statusAfter now attempt.1.snapshot.generationInterval attempt.2.1 status
              attempt.2.2) statuses) engine.statuses
        outbox := done.steps.last engine.outbox }, runResult done)

end Engine

/-- A call of the engine, to its end or cut short by the end of the process; a new process with
its new objects; and the calls that everybody else makes on the outbox. -/
inductive EngineEvent (Query : Type) where
  | applyJobs (now : UtcNanoseconds) (jobs : List (ScheduledJob Query))
  | generateDue (now : UtcNanoseconds) (maximumWindows : Nat) (generate : Datalogger Query)
      (available : Nat)
  | interruptedApply (now : UtcNanoseconds) (jobs : List (ScheduledJob Query)) (effects : Nat)
  | interruptedGenerate (now : UtcNanoseconds) (maximumWindows : Nat)
      (generate : Datalogger Query) (available effects : Nat)
  | restart (policy : OutboxStoragePolicy)
  | outbox (event : Event)

namespace EngineEvent

variable {Query : Type}

def now? : EngineEvent Query → Option UtcNanoseconds
  | .applyJobs now _ => some now
  | .generateDue now _ _ _ => some now
  | .interruptedApply now _ _ => some now
  | .interruptedGenerate now _ _ _ _ => some now
  | .restart _ => none
  | .outbox _ => none

def jobs : EngineEvent Query → List (ScheduledJob Query)
  | .applyJobs _ jobs => jobs
  | .interruptedApply _ jobs _ => jobs
  | _ => []

/-- The durable effects of an event of the engine itself. -/
def steps (sha256 : Body → String) (engine : Engine Query) : EngineEvent Query → Steps
  | .applyJobs now jobs => (engine.applyJobs now jobs).1
  | .generateDue now maximumWindows generate available =>
      if maximumWindows = 0 ∨ 100 < maximumWindows then []
      else (engine.generation sha256 generate available now maximumWindows).steps
  | .interruptedApply now jobs effects => (engine.applyJobs now jobs).1.take effects
  | .interruptedGenerate now maximumWindows generate available effects =>
      (engine.generation sha256 generate available now maximumWindows).steps.take effects
  | .restart _ => []
  | .outbox _ => []

def after (sha256 : Body → String) (engine : Engine Query) : EngineEvent Query → Engine Query
  | .applyJobs now jobs => match (engine.applyJobs now jobs).2 with
    | .ok applied => applied
    | .error _ => { engine with outbox := (engine.applyJobs now jobs).1.last engine.outbox }
  | .generateDue now maximumWindows generate available =>
      (engine.generateDue sha256 generate available now maximumWindows).1
  | .interruptedApply now jobs effects =>
      { engine with
        outbox := Steps.last engine.outbox ((engine.applyJobs now jobs).1.take effects) }
  | .interruptedGenerate now maximumWindows generate available effects =>
      { engine with
        outbox := Steps.last engine.outbox ((engine.generation sha256 generate available now
          maximumWindows).steps.take effects) }
  | .restart policy => { outbox := { engine.outbox with policy, initialized := false } }
  | .outbox event => { engine with outbox := (machine sha256).next engine.outbox event }

end EngineEvent

/-- The engine as a machine; the answer of an event is what it did durably. -/
def engineMachine (Query : Type) (sha256 : Body → String) :
    Machine (Engine Query) (EngineEvent Query) (List Deed) where
  step := fun engine event =>
    (event.after sha256 engine, (event.steps sha256 engine).map Prod.fst)

def engineHistory (Query : Type) (sha256 : Body → String) :
    Machine (Engine Query × List Deed) (EngineEvent Query) (List Deed) :=
  (engineMachine Query sha256).traced (fun _ log _ deeds => log ++ deeds)

end Msap1.DataSender
