import Msap1.DataSender.Scheduler
import Msap1.DataSender.Deliveries

/-! The windows of a job tile time: what the engine does to the watermarks, and the order of
the windows over any run. -/

namespace Msap1.DataSender

/-- The intervals of the jobs, one for each job and revision. -/
abbrev Intervals := String → UInt64 → UtcNanoseconds

/-- Only one watermark changed. -/
def Marked (outbox : Outbox) (watermark : JobWatermark) (after : Outbox) : Prop :=
  ∀ jobId, after.watermark jobId =
    if jobId = watermark.jobId then some watermark else outbox.watermark jobId

/-- The window that the watermark of a job calls for, once it is due. -/
structure Called (intervals : Intervals) (now : UtcNanoseconds) (outbox : Outbox)
    (jobId : String) (revision : UInt64) (window : UtcWindow) : Prop where
  current : outbox.watermark jobId = some ⟨jobId, revision, window.start⟩
  positive : 0 < intervals jobId revision
  whole : window.finish = window.start + intervals jobId revision
  settled : window.finish + generationSettleDelay ≤ now

/-- What a call gets from the datalogger: the dataset of a window with its serialized content, and
the windows that the source has nothing left of. -/
structure Sources where
  produced : String → UInt64 → UtcWindow → MeterDataset → GeneratedContent → Prop
  expired : String → UInt64 → UtcWindow → Prop

/-- The answers of a datalogger for the enabled jobs among some. -/
def sourcesOf {Query : Type} (sha256 : Body → String) (generate : Datalogger Query)
    (now : UtcNanoseconds) (jobs : List (ScheduledJob Query)) : Sources where
  produced jobId revision window dataset content := ∃ job ∈ jobs, job.enabled = true ∧
    job.snapshot.jobId = jobId ∧ job.snapshot.revision = revision ∧
      generate job.snapshot window now = .ok dataset ∧
        writeContent sha256 job.snapshot.format dataset = .ok content
  expired jobId revision window := ∃ job ∈ jobs, job.enabled = true ∧
    job.snapshot.jobId = jobId ∧ job.snapshot.revision = revision ∧
      ∃ text, generate job.snapshot window now = .error (.datalogError .sourceRetentionGap text)

def EngineEvent.sources {Query : Type} (sha256 : Body → String) (engine : Engine Query) :
    EngineEvent Query → Sources
  | .generateDue now _ generate _ => sourcesOf sha256 generate now engine.jobs
  | .interruptedGenerate now _ generate _ _ => sourcesOf sha256 generate now engine.jobs
  | _ => ⟨fun _ _ _ _ _ => False, fun _ _ _ => False⟩

/-- The artifact of a dataset is in the outbox, with this content. -/
def Manifested (outbox : Outbox) (dataset : GeneratedDataset) (content : GeneratedContent) : Prop :=
  ∃ row ∈ outbox.artifacts, row.artifactId = dataset.artifactId ∧
    Outbox.sameManifest row dataset content = true

/-- Artifacts, deliveries and payloads are as they were. -/
structure Unsent (outbox after : Outbox) : Prop where
  artifacts : after.artifacts = outbox.artifacts
  deliveries : after.deliveries = outbox.deliveries
  files : after.files = outbox.files

/-- One durable effect of the engine at a given time. -/
inductive Doing (intervals : Intervals) (sources : Sources) (now : UtcNanoseconds) :
    Outbox → Deed → Outbox → Prop where
  | reset {outbox after jobId revision boundary}
      (stale : ∀ watermark, outbox.watermark jobId = some watermark →
        watermark.jobRevision ≠ revision)
      (first : nextBoundary now (intervals jobId revision) = .ok boundary)
      (marked : Marked outbox ⟨jobId, revision, boundary⟩ after)
      (unsent : Unsent outbox after) :
      Doing intervals sources now outbox
        (.reset now ⟨jobId, revision, boundary⟩ (intervals jobId revision)) after
  | written {outbox jobId revision window dataset content localOnly}
      (called : Called intervals now outbox jobId revision window)
      (produced : sources.produced jobId revision window dataset content) :
      Doing intervals sources now outbox (.enqueuing now jobId revision window)
        (outbox.writePayload content localOnly)
  | manifested {outbox jobId revision window} {dataset : MeterDataset}
      {content channelIds localOnly}
      (called : Called intervals now outbox jobId revision window)
      (produced : sources.produced jobId revision window dataset content) :
      Doing intervals sources now outbox (.enqueuing now jobId revision window)
        (outbox.insertManifest dataset.toGeneratedDataset content channelIds localOnly)
  | generated {outbox after jobId revision window dataset content}
      (called : Called intervals now outbox jobId revision window)
      (produced : sources.produced jobId revision window dataset content)
      (stored : Manifested outbox dataset.toGeneratedDataset content)
      (marked : Marked outbox ⟨jobId, revision, window.finish⟩ after)
      (unsent : Unsent outbox after) :
      Doing intervals sources now outbox (.completed now jobId revision window false) after
  | skipped {outbox after jobId revision window}
      (called : Called intervals now outbox jobId revision window)
      (expired : sources.expired jobId revision window)
      (marked : Marked outbox ⟨jobId, revision, window.finish⟩ after)
      (unsent : Unsent outbox after) :
      Doing intervals sources now outbox (.completed now jobId revision window true) after

/-- Durable effects one after another. -/
def Chained (intervals : Intervals) (sources : Sources) (now : UtcNanoseconds) :
    Outbox → Steps → Prop
  | _, [] => True
  | outbox, (deed, after) :: steps =>
      Doing intervals sources now outbox deed after ∧ Chained intervals sources now after steps

section Chains

variable {Query : Type} {intervals : Intervals} {sources : Sources} {now : UtcNanoseconds}
  {outbox : Outbox}

@[simp] theorem steps_last_nil : Steps.last outbox [] = outbox := rfl

@[simp] theorem steps_last_cons (deed : Deed) (after : Outbox) (steps : Steps) :
    Steps.last outbox ((deed, after) :: steps) = Steps.last after steps := by
  rw [Steps.last, List.map_cons, Trail.last_cons, Steps.last]

theorem steps_last_append (first second : Steps) :
    Steps.last outbox (first ++ second) = Steps.last (Steps.last outbox first) second := by
  rw [Steps.last, List.map_append, Trail.last_append]
  rfl

theorem chained_append {first second : Steps} (begins : Chained intervals sources now outbox first)
    (continues : Chained intervals sources now (first.last outbox) second) :
    Chained intervals sources now outbox (first ++ second) := by
  induction first generalizing outbox with
  | nil => exact continues
  | cons step first ih =>
      rcases step with ⟨deed, after⟩
      rw [steps_last_cons] at continues
      exact ⟨begins.1, ih begins.2 continues⟩

theorem chained_take {steps : Steps} (chained : Chained intervals sources now outbox steps)
    (count : Nat) : Chained intervals sources now outbox (steps.take count) := by
  induction steps generalizing outbox count with
  | nil =>
      rw [List.take_nil]
      trivial
  | cons step steps ih =>
      rcases step with ⟨deed, after⟩
      cases count with
      | zero => trivial
      | succ count => exact ⟨chained.1, ih chained.2 count⟩

theorem watermark_job {jobId : String} {watermark : JobWatermark}
    (found : outbox.watermark jobId = some watermark) : watermark.jobId = jobId := by
  have facts := List.find?_some found
  simpa using facts

theorem storeWatermark_marked {watermark : JobWatermark} {after : Outbox}
    (stored : outbox.storeWatermark watermark = .ok after) :
    Marked outbox watermark after ∧ Unsent outbox after := by
  unfold Outbox.storeWatermark at stored
  split at stored
  · cases stored
  · split at stored
    · cases stored
    · cases stored
      refine ⟨?_, rfl, rfl, rfl⟩
      intro jobId
      unfold Outbox.watermark
      by_cases same : jobId = watermark.jobId
      · rw [if_pos same, List.find?_cons_of_pos]
        simp [same]
      · rw [if_neg same, List.find?_cons_of_neg]
        · rw [List.find?_filter]
          congr 1
          funext other
          by_cases matching : other.jobId = jobId
          · simp [matching, same]
          · simp [matching]
        · simpa using fun equal => same equal.symm

/-- A job of the run, with a valid interval. -/
structure Fits (intervals : Intervals) (job : ScheduledJob Query) : Prop where
  interval : job.snapshot.generationInterval = intervals job.snapshot.jobId job.snapshot.revision
  positive : 0 < job.snapshot.generationInterval

theorem currentWatermark_some {job : ScheduledJob Query} {watermark : JobWatermark}
    (found : currentWatermark outbox job = some watermark) :
    outbox.watermark job.snapshot.jobId = some watermark ∧
      watermark.jobRevision = job.snapshot.revision := by
  rw [currentWatermark, Option.filter_eq_some_iff] at found
  exact ⟨found.1, by simpa using found.2⟩

theorem currentWatermark_none {job : ScheduledJob Query}
    (missing : currentWatermark outbox job = none) (watermark : JobWatermark)
    (found : outbox.watermark job.snapshot.jobId = some watermark) :
    watermark.jobRevision ≠ job.snapshot.revision := by
  intro same
  rw [currentWatermark, found, Option.filter_some, if_pos (by simpa using same)] at missing
  cases missing

theorem dueWindow_called {job : ScheduledJob Query} (fits : Fits intervals job)
    {window : UtcWindow} (due : dueWindow now outbox job = some window) :
    Called intervals now outbox job.snapshot.jobId job.snapshot.revision window := by
  unfold dueWindow at due
  split at due
  · cases due
  · next watermark found =>
      dsimp only at due
      split at due
      · cases due
      · next settled =>
          cases due
          rcases currentWatermark_some found with ⟨stored, revision⟩
          constructor
          · rw [stored, ← watermark_job stored, ← revision]
            rfl
          · rw [← fits.interval]
            exact fits.positive
          · rw [← fits.interval]
            rfl
          · exact not_lt.mp settled

theorem enqueue_watermarks (sha256 : Body → String) (dataset : GeneratedDataset)
    (content : GeneratedContent) (channelIds : List String) (localOnly : Bool) (available : Nat) :
    ∀ after ∈ (outbox.enqueue sha256 dataset content channelIds localOnly available).1,
      after.watermarks = outbox.watermarks := by
  intro after member
  rcases (enqueue_cases dataset content channelIds localOnly available :
    (outbox.enqueue sha256 dataset content channelIds localOnly available).1 = [] ∨ _) with
    nothing | ⟨-, written⟩ | ⟨-, -, inserted⟩
  · rw [nothing] at member
    cases member
  · rw [written] at member
    rw [List.mem_singleton.mp member]
    rfl
  · rw [inserted] at member
    rcases List.mem_cons.mp member with first | rest
    · rw [first]
      rfl
    · rw [List.mem_singleton.mp rest]
      rfl

theorem enqueueWindow_watermarks (sha256 : Body → String) (generate : Datalogger Query)
    (available : Nat) (job : ScheduledJob Query) (window : UtcWindow) :
    ∀ after ∈ (enqueueWindow sha256 generate available now outbox job window).1,
      after.watermarks = outbox.watermarks := by
  unfold enqueueWindow
  split
  · intro after member
    cases member
  · split
    · intro after member
      cases member
    · exact enqueue_watermarks sha256 _ _ _ _ _

theorem watermark_congr {after : Outbox} (same : after.watermarks = outbox.watermarks)
    (jobId : String) : after.watermark jobId = outbox.watermark jobId := by
  rw [Outbox.watermark, Outbox.watermark, same]

theorem called_congr {jobId : String} {revision : UInt64} {window : UtcWindow} {after : Outbox}
    (same : after.watermarks = outbox.watermarks)
    (called : Called intervals now outbox jobId revision window) :
    Called intervals now after jobId revision window := by
  refine ⟨?_, called.positive, called.whole, called.settled⟩
  rw [watermark_congr same]
  exact called.current

/-- The effects of the `enqueue` of a window, as steps of the engine. -/
def enqueuingSteps (now : UtcNanoseconds) (jobId : String) (revision : UInt64)
    (window : UtcWindow) (trail : List Outbox) : Steps :=
  trail.map (fun after => (.enqueuing now jobId revision window, after))

theorem sameManifest_row (dataset : GeneratedDataset) (content : GeneratedContent)
    (localOnly : Bool) : Outbox.sameManifest (Outbox.manifestRow dataset content localOnly) dataset
      content = true := by
  simp [Outbox.sameManifest, Outbox.manifestRow]

/-- What `enqueue` leaves and answers: nothing and a failure; nothing, where the artifact is there
already; a payload without a manifest and a failure; or the artifact. -/
inductive EnqueueTrail (outbox : Outbox) (dataset : GeneratedDataset) (content : GeneratedContent)
    (channelIds : List String) (localOnly : Bool) :
    List Outbox → Except SenderFailure Unit → Prop where
  | refused {failure} (reason : ∀ text, failure ≠ .datalogError .sourceRetentionGap text) :
      EnqueueTrail outbox dataset content channelIds localOnly [] (.error failure)
  | known (stored : Manifested outbox dataset content) :
      EnqueueTrail outbox dataset content channelIds localOnly [] (.ok ())
  | written {failure} (reason : ∀ text, failure ≠ .datalogError .sourceRetentionGap text) :
      EnqueueTrail outbox dataset content channelIds localOnly
        [outbox.writePayload content localOnly] (.error failure)
  | manifested : EnqueueTrail outbox dataset content channelIds localOnly
      [outbox.writePayload content localOnly,
        (outbox.writePayload content localOnly).insertManifest dataset content channelIds
          localOnly] (.ok ())

theorem enqueueArguments_reason {sha256 : Body → String} {dataset : GeneratedDataset}
    {content : GeneratedContent} {channelIds : List String} {localOnly : Bool}
    {failure : SenderFailure}
    (failed : outbox.enqueueArguments sha256 dataset content channelIds localOnly =
      .error failure) (text : String) : failure ≠ .datalogError .sourceRetentionGap text := by
  unfold Outbox.enqueueArguments at failed
  split at failed
  · cases failed
    exact SenderFailure.noConfusion
  · split at failed
    · cases failed
      intro same
      cases same
    · split at failed
      · cases failed
        intro same
        cases same
      · split at failed
        · cases failed
          intro same
          cases same
        · cases failed

theorem enqueue_trail (sha256 : Body → String) (dataset : GeneratedDataset)
    (content : GeneratedContent) (channelIds : List String) (localOnly : Bool) (available : Nat) :
    EnqueueTrail outbox dataset content channelIds localOnly
      (outbox.enqueue sha256 dataset content channelIds localOnly available).1
      (outbox.enqueue sha256 dataset content channelIds localOnly available).2 := by
  unfold Outbox.enqueue
  split
  · next failure failed => exact .refused (enqueueArguments_reason failed)
  · split
    · next artifact found =>
        split
        · next same =>
            have named := List.find?_some (show outbox.artifacts.find? _ = some artifact from found)
            exact .known ⟨artifact, List.mem_of_find?_eq_some found, of_decide_eq_true named, same⟩
        · exact .refused (fun text same => by cases same)
    · split
      · exact .refused (fun text same => by cases same)
      · split
        · exact .refused (fun text same => by cases same)
        · dsimp only
          split
          · exact .written (fun text same => by cases same)
          · split
            · exact .written (fun text same => by cases same)
            · exact .manifested

theorem writeContent_reason {sha256 : Body → String} {format : ContentFormat}
    {dataset : MeterDataset} {failure : SenderFailure}
    (failed : writeContent sha256 format dataset = .error failure) (text : String) :
    failure ≠ .datalogError .sourceRetentionGap text := by
  unfold writeContent at failed
  split at failed
  · cases failed
    intro same
    cases same
  · split at failed
    · cases failed
      intro same
      cases same
    · cases failed

/-- The watermarks stay, every effect enqueues the artifact that the source gives, a return means
that it is in the outbox, and a retention gap is the answer of the source. -/
theorem enqueueWindow_chained (sha256 : Body → String) (generate : Datalogger Query)
    (available : Nat) {jobs : List (ScheduledJob Query)} {job : ScheduledJob Query}
    (member : job ∈ jobs) (enabled : job.enabled = true) {window : UtcWindow}
    (called : Called intervals now outbox job.snapshot.jobId job.snapshot.revision window) :
    let sources := sourcesOf sha256 generate now jobs
    let tried := enqueueWindow sha256 generate available now outbox job window
    let steps := enqueuingSteps now job.snapshot.jobId job.snapshot.revision window tried.1
    Chained intervals sources now outbox steps ∧
      (steps.last outbox).watermarks = outbox.watermarks ∧
      (tried.2 = .ok () → ∃ dataset content, sources.produced job.snapshot.jobId
        job.snapshot.revision window dataset content ∧
          Manifested (steps.last outbox) dataset.toGeneratedDataset content) ∧
      ∀ text, tried.2 = .error (.datalogError .sourceRetentionGap text) →
        sources.expired job.snapshot.jobId job.snapshot.revision window := by
  intro sources tried steps
  simp only [steps, tried, enqueueWindow]
  cases generated : generate job.snapshot window now with
  | error failure =>
      refine ⟨trivial, rfl, (fun wrong => by cases wrong), ?_⟩
      intro text gap
      have reason : failure = .datalogError .sourceRetentionGap text := Except.error.inj gap
      rw [reason] at generated
      exact ⟨job, member, enabled, rfl, rfl, text, generated⟩
  | ok dataset =>
      dsimp only
      cases serialized : writeContent sha256 job.snapshot.format dataset with
      | error failure =>
          refine ⟨trivial, rfl, (fun wrong => by cases wrong), ?_⟩
          intro text gap
          exact absurd (Except.error.inj gap) (writeContent_reason serialized text)
      | ok content =>
          dsimp only
          have produced : sources.produced job.snapshot.jobId job.snapshot.revision window dataset
              content := ⟨job, member, enabled, rfl, rfl, generated, serialized⟩
          have trail := @enqueue_trail outbox sha256 dataset.toGeneratedDataset content
            job.channelIds job.localOnly available
          generalize outbox.enqueue sha256 dataset.toGeneratedDataset content job.channelIds
            job.localOnly available = enqueued at trail
          rcases enqueued with ⟨effects, result⟩
          cases trail with
          | refused reason =>
              refine ⟨trivial, rfl, (fun wrong => by cases wrong), ?_⟩
              intro text gap
              exact absurd (Except.error.inj gap) (reason text)
          | known stored =>
              refine ⟨trivial, rfl, fun _ => ⟨dataset, content, produced, stored⟩, ?_⟩
              exact fun text gap => by cases gap
          | written reason =>
              refine ⟨⟨.written called produced, trivial⟩, rfl,
                (fun wrong => by cases wrong), ?_⟩
              intro text gap
              exact absurd (Except.error.inj gap) (reason text)
          | manifested =>
              have still : Called intervals now (outbox.writePayload content job.localOnly)
                  job.snapshot.jobId job.snapshot.revision window :=
                ⟨called.current, called.positive, called.whole, called.settled⟩
              refine ⟨⟨.written called produced, .manifested still produced, trivial⟩, rfl, ?_,
                (fun text gap => by cases gap)⟩
              intro _
              refine ⟨dataset, content, produced, ?_⟩
              exact ⟨_, List.mem_append_right _ List.mem_cons_self, rfl,
                sameManifest_row _ content job.localOnly⟩

theorem generateWindow_cases (sha256 : Body → String) (generate : Datalogger Query)
    (available : Nat) (now : UtcNanoseconds) (outbox : Outbox) (job : ScheduledJob Query)
    (window : UtcWindow) :
    let steps := enqueuingSteps now job.snapshot.jobId job.snapshot.revision window
      (enqueueWindow sha256 generate available now outbox job window).1
    let tried := generateWindow sha256 generate available now outbox job window
    tried.2.advances = false ∧ tried.1 = steps ∨
      tried.2.advances = true ∧ ∃ stored skipped,
        completeWindow (steps.last outbox) job window = .ok stored ∧
          tried.1 = steps ++ [(.completed now job.snapshot.jobId job.snapshot.revision window
            skipped, stored)] := by
  intro steps tried
  have deferred : ∀ failure, (deferredBy failure).advances = false := by
    intro failure
    unfold deferredBy
    split <;> rfl
  simp only [tried, generateWindow]
  split
  · split
    · exact .inl ⟨deferred _, rfl⟩
    · next stored returned => exact .inr ⟨rfl, stored, false, returned, rfl⟩
  · split
    · exact .inl ⟨rfl, rfl⟩
    · next stored returned => exact .inr ⟨rfl, stored, true, returned, rfl⟩
  · exact .inl ⟨deferred _, rfl⟩

theorem generateWindow_chained (sha256 : Body → String) (generate : Datalogger Query)
    (available : Nat) {jobs : List (ScheduledJob Query)} {job : ScheduledJob Query}
    (member : job ∈ jobs) (enabled : job.enabled = true) {window : UtcWindow}
    (called : Called intervals now outbox job.snapshot.jobId job.snapshot.revision window) :
    let tried := generateWindow sha256 generate available now outbox job window
    Chained intervals (sourcesOf sha256 generate now jobs) now outbox tried.1 ∧
      (tried.2.advances = false → (tried.1.last outbox).watermarks = outbox.watermarks) ∧
      (tried.2.advances = true → Marked outbox ⟨job.snapshot.jobId, job.snapshot.revision,
        window.finish⟩ (tried.1.last outbox)) := by
  intro tried
  rcases enqueueWindow_chained sha256 generate available member enabled called with
    ⟨chained, kept, stored, gap⟩
  have still := called_congr kept called
  have deferred : ∀ failure, (deferredBy failure).advances = false := by
    intro failure
    unfold deferredBy
    split <;> rfl
  simp only [tried, generateWindow]
  change Chained _ _ _ _ (enqueuingSteps now job.snapshot.jobId job.snapshot.revision window
    (enqueueWindow sha256 generate available now outbox job window).1) at chained
  generalize enqueueWindow sha256 generate available now outbox job window = enqueued at *
  rcases enqueued with ⟨trail, result⟩
  unfold enqueuingSteps at *
  dsimp only at *
  generalize trail.map (fun after => (Deed.enqueuing now job.snapshot.jobId job.snapshot.revision
    window, after)) = steps at *
  have marks : ∀ {after}, Marked (Steps.last outbox steps)
      ⟨job.snapshot.jobId, job.snapshot.revision,
      window.finish⟩ after → Marked outbox ⟨job.snapshot.jobId, job.snapshot.revision,
        window.finish⟩ after := by
    intro after marked jobId
    rw [marked jobId, watermark_congr kept]
  split
  · rcases stored rfl with ⟨dataset, content, produced, manifested⟩
    split
    · next failure _ =>
        exact ⟨chained, fun _ => kept, fun wrong => by rw [deferred failure] at wrong; cases wrong⟩
    · next after returned =>
        rcases storeWatermark_marked returned with ⟨marked, unsent⟩
        refine ⟨chained_append chained ⟨.generated still produced manifested marked unsent,
          trivial⟩, (fun wrong => by cases wrong), ?_⟩
        intro _
        rw [steps_last_append, steps_last_cons, steps_last_nil]
        exact marks marked
  · next text =>
      split
      · exact ⟨chained, fun _ => kept, fun wrong => by cases wrong⟩
      · next after returned =>
          rcases storeWatermark_marked returned with ⟨marked, unsent⟩
          refine ⟨chained_append chained ⟨.skipped still (gap text rfl) marked unsent, trivial⟩,
            (fun wrong => by cases wrong), ?_⟩
          intro _
          rw [steps_last_append, steps_last_cons, steps_last_nil]
          exact marks marked
  · exact ⟨chained, fun _ => kept, fun wrong => by rw [deferred _] at wrong; cases wrong⟩

theorem generateJob_chained (sha256 : Body → String) (generate : Datalogger Query)
    (available : Nat) {jobs : List (ScheduledJob Query)} {job : ScheduledJob Query}
    (member : job ∈ jobs) (enabled : job.enabled = true) (fits : Fits intervals job)
    (budget : Nat) :
    Chained intervals (sourcesOf sha256 generate now jobs) now outbox
      (generateJob sha256 generate available now job budget outbox).steps := by
  induction budget generalizing outbox with
  | zero => trivial
  | succ budget ih =>
      unfold generateJob
      split
      · trivial
      · next window due =>
          have chained := (generateWindow_chained sha256 generate available member enabled
            (dueWindow_called fits due)).1
          dsimp only
          split
          · exact chained_append chained ih
          · exact chained

theorem generateJobs_chained (sha256 : Body → String) (generate : Datalogger Query)
    (available : Nat) {all : List (ScheduledJob Query)} (jobs : List (ScheduledJob Query))
    (some : jobs ⊆ all) (fits : ∀ job ∈ jobs, Fits intervals job) (budget : Nat) :
    Chained intervals (sourcesOf sha256 generate now all) now outbox
      (generateJobs sha256 generate available now jobs budget outbox).steps := by
  induction jobs generalizing outbox budget with
  | nil => trivial
  | cons job jobs ih =>
      have rest : jobs ⊆ all := fun other member => some (List.mem_cons_of_mem job member)
      have later : ∀ other ∈ jobs, Fits intervals other := fun other member =>
        fits other (List.mem_cons_of_mem job member)
      unfold generateJobs
      split
      · exact ih rest later budget
      · next enabled =>
          have chained : Chained intervals (sourcesOf sha256 generate now all) now outbox
              (generateJob sha256 generate available now job budget outbox).steps :=
            generateJob_chained sha256 generate available (some List.mem_cons_self)
              (not_not.mp enabled) (fits job List.mem_cons_self) budget
          dsimp only
          split
          · exact chained
          · exact chained_append chained (ih rest later _)

/-- `apply_jobs` starts a job anew if it is enabled and its watermark is missing or of another
revision. -/
def NeedsStart (marks : String → Option JobWatermark) (job : ScheduledJob Query) : Prop :=
  job.enabled = true ∧
    ∀ mark ∈ marks job.snapshot.jobId, mark.jobRevision ≠ job.snapshot.revision

instance (marks : String → Option JobWatermark) (job : ScheduledJob Query) :
    Decidable (NeedsStart marks job) :=
  inferInstanceAs (Decidable (_ ∧ _))

theorem applyJob_stores {statuses : List ScheduledJobStatus} {job : ScheduledJob Query}
    {steps : Steps} {status : ScheduledJobStatus}
    (applied : applyJob now statuses outbox job = .ok (steps, status)) :
    0 < job.snapshot.generationInterval ∧
      (¬ NeedsStart outbox.watermark job ∧ steps = [] ∨
        NeedsStart outbox.watermark job ∧ ∃ boundary stored,
          nextBoundary now job.snapshot.generationInterval = .ok boundary ∧
          outbox.storeWatermark ⟨job.snapshot.jobId, job.snapshot.revision, boundary⟩ =
            .ok stored ∧
          steps = [(.reset now ⟨job.snapshot.jobId, job.snapshot.revision, boundary⟩
            job.snapshot.generationInterval, stored)]) := by
  unfold applyJob at applied
  split at applied
  · cases applied
  · next valid =>
      have positive : 0 < job.snapshot.generationInterval := by
        simp only [jobValid, Bool.and_eq_true, decide_eq_true_eq, not_not] at valid
        exact valid.2
      refine ⟨positive, ?_⟩
      dsimp only at applied
      split at applied
      · next disabled =>
          cases applied
          exact .inl ⟨fun needs => disabled needs.1, rfl⟩
      · next enabled =>
          split at applied
          · next watermark current =>
              cases applied
              rcases currentWatermark_some current with ⟨stored, same⟩
              exact .inl ⟨fun needs => needs.2 watermark stored same, rfl⟩
          · next missing =>
              split at applied
              · cases applied
              · next boundary first =>
                  split at applied
                  · cases applied
                  · next stored returned =>
                      cases applied
                      exact .inr ⟨⟨not_not.mp enabled, currentWatermark_none missing⟩, boundary,
                        stored, first, returned, rfl⟩

theorem applyJob_cases {statuses : List ScheduledJobStatus} {job : ScheduledJob Query}
    {steps : Steps} {status : ScheduledJobStatus}
    (applied : applyJob now statuses outbox job = .ok (steps, status)) :
    0 < job.snapshot.generationInterval ∧
      (¬ NeedsStart outbox.watermark job ∧ steps = [] ∨
        NeedsStart outbox.watermark job ∧ ∃ boundary stored,
          nextBoundary now job.snapshot.generationInterval = .ok boundary ∧
          Marked outbox ⟨job.snapshot.jobId, job.snapshot.revision, boundary⟩ stored ∧
          Unsent outbox stored ∧
          steps = [(.reset now ⟨job.snapshot.jobId, job.snapshot.revision, boundary⟩
            job.snapshot.generationInterval, stored)]) := by
  rcases applyJob_stores applied with
    ⟨positive, idle | ⟨needs, boundary, stored, first, returned, steps⟩⟩
  · exact ⟨positive, .inl idle⟩
  · rcases storeWatermark_marked returned with ⟨marked, unsent⟩
    exact ⟨positive, .inr ⟨needs, boundary, stored, first, marked, unsent, steps⟩⟩

theorem applyJob_chained {statuses : List ScheduledJobStatus} {job : ScheduledJob Query}
    (interval : job.snapshot.generationInterval =
      intervals job.snapshot.jobId job.snapshot.revision) {steps : Steps}
    {status : ScheduledJobStatus} (applied : applyJob now statuses outbox job =
      .ok (steps, status)) : Chained intervals sources now outbox steps := by
  rcases applyJob_cases applied with ⟨-, ⟨-, rfl⟩ | ⟨needs, boundary, stored, first, marked,
    unsent, rfl⟩⟩
  · trivial
  · refine ⟨?_, trivial⟩
    rw [interval] at first ⊢
    exact .reset needs.2 first marked unsent

theorem applyAll_chained (statuses : List ScheduledJobStatus) (jobs : List (ScheduledJob Query))
    (fixed : ∀ job ∈ jobs, job.snapshot.generationInterval =
      intervals job.snapshot.jobId job.snapshot.revision) :
    Chained intervals sources now outbox (applyAll now statuses outbox jobs).1 := by
  induction jobs generalizing outbox with
  | nil => trivial
  | cons job jobs ih =>
      unfold applyAll
      split
      · trivial
      · next steps status applied =>
          exact chained_append (applyJob_chained (fixed job List.mem_cons_self) applied)
            (ih fun other member => fixed other (List.mem_cons_of_mem job member))

theorem applyAll_fits (statuses : List ScheduledJobStatus) (jobs : List (ScheduledJob Query))
    (fixed : ∀ job ∈ jobs, job.snapshot.generationInterval =
      intervals job.snapshot.jobId job.snapshot.revision)
    (returned : (applyAll now statuses outbox jobs).2.isOk = true) :
    ∀ job ∈ jobs, Fits intervals job := by
  induction jobs generalizing outbox with
  | nil => exact fun job member => absurd member List.not_mem_nil
  | cons job jobs ih =>
      unfold applyAll at returned
      split at returned
      · cases returned
      · next steps status applied =>
          intro other member
          rcases List.mem_cons.mp member with head | tail
          · rw [head]
            exact ⟨fixed job List.mem_cons_self, (applyJob_cases applied).1⟩
          · apply @ih (steps.last outbox)
              (fun other member => fixed other (List.mem_cons_of_mem job member)) _ other tail
            dsimp only at returned
            cases outcome : (applyAll now statuses (steps.last outbox) jobs).2 with
            | error failure =>
                rw [outcome] at returned
                cases returned
            | ok value => rfl

/-- The deeds of `apply_jobs`: a new start, at the first boundary, of each job that needs one. -/
def newStarts (now : UtcNanoseconds) :
    (String → Option JobWatermark) → List (ScheduledJob Query) → List Deed
  | _, [] => []
  | marks, job :: jobs =>
      if NeedsStart marks job then
        let watermark : JobWatermark := ⟨job.snapshot.jobId, job.snapshot.revision,
          (now + job.snapshot.generationInterval - 1) / job.snapshot.generationInterval *
            job.snapshot.generationInterval⟩
        .reset now watermark job.snapshot.generationInterval ::
          newStarts now (Function.update marks job.snapshot.jobId (some watermark)) jobs
      else newStarts now marks jobs

theorem marked_update {watermark : JobWatermark} {after : Outbox}
    (marked : Marked outbox watermark after) :
    after.watermark = Function.update outbox.watermark watermark.jobId (some watermark) := by
  funext jobId
  rw [marked jobId, Function.update_apply]

theorem applyAll_starts (now : UtcNanoseconds) (statuses : List ScheduledJobStatus)
    (outbox : Outbox) (jobs : List (ScheduledJob Query)) :
    (applyAll now statuses outbox jobs).1.map Prod.fst <+: newStarts now outbox.watermark jobs ∧
      ((applyAll now statuses outbox jobs).2.isOk = true →
        (applyAll now statuses outbox jobs).1.map Prod.fst =
          newStarts now outbox.watermark jobs) := by
  induction jobs generalizing outbox with
  | nil => exact ⟨List.prefix_refl [], fun _ => rfl⟩
  | cons job jobs ih =>
      unfold applyAll
      split
      · exact ⟨List.nil_prefix, fun wrong => by cases wrong⟩
      · next steps status applied =>
          rcases ih (steps.last outbox) with ⟨begins, whole⟩
          have carried : ((applyAll now statuses (steps.last outbox) jobs).2.map
              (fun others => status :: others)).isOk = true →
                (applyAll now statuses (steps.last outbox) jobs).2.isOk = true := by
            intro returned
            cases outcome : (applyAll now statuses (steps.last outbox) jobs).2 with
            | error failure =>
                rw [outcome] at returned
                cases returned
            | ok value => rfl
          rcases applyJob_cases applied with ⟨-, ⟨idle, rfl⟩ | ⟨needs, boundary, stored, first,
            marked, -, rfl⟩⟩
          · unfold newStarts
            rw [if_neg idle]
            exact ⟨begins, fun returned => whole (carried returned)⟩
          · have reached : boundary = (now + job.snapshot.generationInterval - 1) /
                job.snapshot.generationInterval * job.snapshot.generationInterval := by
              unfold nextBoundary at first
              split at first
              · cases first
              · exact (Except.ok.inj first).symm
            unfold newStarts
            rw [if_pos needs, ← reached]
            rw [steps_last_cons, steps_last_nil, marked_update marked] at begins whole
            rw [steps_last_cons, steps_last_nil] at carried ⊢
            refine ⟨(List.prefix_cons_inj _).mpr begins, ?_⟩
            intro returned
            exact congrArg (List.cons _) (whole (carried returned))

end Chains

/-- The watermark that the deeds so far leave for a job. -/
def follow (jobId : String) (mark : Option JobWatermark) : Deed → Option JobWatermark
  | .reset _ watermark _ => if jobId = watermark.jobId then some watermark else mark
  | .enqueuing _ _ _ _ => mark
  | .completed _ job revision window _ =>
      if jobId = job then some ⟨job, revision, window.finish⟩ else mark

def lastMark (log : List Deed) (jobId : String) : Option JobWatermark :=
  log.foldl (follow jobId) none

def windowOf (jobId : String) : Deed → Option UtcWindow
  | .reset _ _ _ => none
  | .enqueuing _ job _ window => if job = jobId then some window else none
  | .completed _ job _ window _ => if job = jobId then some window else none

def windowsOf (log : List Deed) (jobId : String) : List UtcWindow :=
  log.filterMap (windowOf jobId)

/-- A window that goes on exactly where the deeds so far have come to, on the grid of its
interval, and that was settled at the time. -/
structure NextTile (intervals : Intervals) (log : List Deed) (now : UtcNanoseconds)
    (jobId : String) (revision : UInt64) (window : UtcWindow) : Prop where
  contiguous : lastMark log jobId = some ⟨jobId, revision, window.start⟩
  grid : ∃ number : Int, window = ⟨number * intervals jobId revision,
    (number + 1) * intervals jobId revision⟩
  settled : window.finish + generationSettleDelay ≤ now

/-- A new start at the first boundary at or after the time, because the watermark is of another
revision or missing, and not before the end of any window so far. -/
structure NewStart (intervals : Intervals) (log : List Deed) (now : UtcNanoseconds)
    (watermark : JobWatermark) : Prop where
  stale : ∀ mark, lastMark log watermark.jobId = some mark →
    mark.jobRevision ≠ watermark.jobRevision
  grid : ∃ number : Int, watermark.completedThrough =
    number * intervals watermark.jobId watermark.jobRevision
  first : now ≤ watermark.completedThrough ∧ watermark.completedThrough <
    now + intervals watermark.jobId watermark.jobRevision
  after : ∀ window ∈ windowsOf log watermark.jobId, window.finish ≤ watermark.completedThrough

/-- A deed is right after the ones before it. -/
def Rightly (intervals : Intervals) (log : List Deed) : Deed → Prop
  | .reset now watermark _ => NewStart intervals log now watermark
  | .enqueuing now jobId revision window => NextTile intervals log now jobId revision window
  | .completed now jobId revision window _ => NextTile intervals log now jobId revision window

/-- The watermarks are where the deeds left them, every deed was right, and the windows are in
order. -/
structure Tiled (intervals : Intervals) (outbox : Outbox) (log : List Deed) : Prop where
  marks : ∀ jobId, outbox.watermark jobId = lastMark log jobId
  grid : ∀ jobId mark, outbox.watermark jobId = some mark → ∃ number : Int,
    mark.completedThrough = number * intervals jobId mark.jobRevision
  rightly : ∀ before deed after, log = before ++ deed :: after → Rightly intervals before deed
  behind : ∀ jobId, ∀ window ∈ windowsOf log jobId, ∃ mark, outbox.watermark jobId = some mark ∧
    (window.finish ≤ mark.completedThrough ∨ window = ⟨mark.completedThrough,
      mark.completedThrough + intervals jobId mark.jobRevision⟩)
  ordered : ∀ jobId, (windowsOf log jobId).Pairwise (fun first second =>
    first = second ∨ first.finish ≤ second.start)

section Tiling

variable {intervals : Intervals} {now : UtcNanoseconds} {outbox after : Outbox} {log : List Deed}

theorem lastMark_concat (log : List Deed) (deed : Deed) (jobId : String) :
    lastMark (log ++ [deed]) jobId = follow jobId (lastMark log jobId) deed := by
  rw [lastMark, List.foldl_append]
  rfl

theorem windowsOf_concat (log : List Deed) (deed : Deed) (jobId : String) :
    windowsOf (log ++ [deed]) jobId = windowsOf log jobId ++ (windowOf jobId deed).toList := by
  rw [windowsOf, List.filterMap_append]
  cases found : windowOf jobId deed with
  | none => rw [List.filterMap_cons_none found, List.filterMap_nil, Option.toList_none, windowsOf]
  | some window =>
      rw [List.filterMap_cons_some found, List.filterMap_nil, Option.toList_some, windowsOf]

theorem nextBoundary_ok {interval boundary : UtcNanoseconds}
    (returned : nextBoundary now interval = .ok boundary) :
    (∃ number : Int, boundary = number * interval) ∧ now ≤ boundary ∧
      boundary < now + interval := by
  unfold nextBoundary at returned
  split at returned
  · cases returned
  · next valid =>
      cases returned
      have positive : 0 < interval := by
        simp only [not_or, not_le] at valid
        exact valid.2.1
      refine ⟨⟨_, rfl⟩, ?_, ?_⟩
      · have above := Int.lt_ediv_add_one_mul_self (now + interval - 1) positive
        linarith
      · have below := Int.ediv_mul_le (now + interval - 1) positive.ne'
        linarith

theorem rightly_concat {deed : Deed}
    (earlier : ∀ before other rest, log = before ++ other :: rest →
      Rightly intervals before other)
    (rightly : Rightly intervals log deed) :
    ∀ before other rest, log ++ [deed] = before ++ other :: rest →
      Rightly intervals before other := by
  intro before other rest same
  rcases List.eq_nil_or_concat rest with none | ⟨others, final, concat⟩
  · rw [none] at same
    rcases List.append_inj' same rfl with ⟨left, right⟩
    cases right
    rw [← left]
    exact rightly
  · rw [concat, List.concat_eq_append, ← List.cons_append, ← List.append_assoc] at same
    exact earlier before other others (List.append_inj' same rfl).1

theorem ordered_concat {windows : List UtcWindow} {window : UtcWindow}
    (ordered : windows.Pairwise (fun first second =>
      first = second ∨ first.finish ≤ second.start))
    (last : ∀ other ∈ windows, other = window ∨ other.finish ≤ window.start) :
    (windows ++ [window]).Pairwise (fun first second =>
      first = second ∨ first.finish ≤ second.start) := by
  rw [List.pairwise_append]
  refine ⟨ordered, List.pairwise_singleton _ _, ?_⟩
  intro other member single same
  rw [List.mem_singleton.mp same]
  exact last other member

theorem called_tile (tiled : Tiled intervals outbox log) {jobId : String} {revision : UInt64}
    {window : UtcWindow} (called : Called intervals now outbox jobId revision window) :
    NextTile intervals log now jobId revision window := by
  constructor
  · rw [← tiled.marks]
    exact called.current
  · rcases tiled.grid jobId _ called.current with ⟨number, start⟩
    refine ⟨number, ?_⟩
    rcases window with ⟨first, finish⟩
    have whole := called.whole
    dsimp only at start whole
    rw [whole, start]
    congr 1
    ring
  · exact called.settled

theorem called_last (tiled : Tiled intervals outbox log) {jobId : String} {revision : UInt64}
    {window : UtcWindow} (called : Called intervals now outbox jobId revision window) :
    ∀ other ∈ windowsOf log jobId, other = window ∨ other.finish ≤ window.start := by
  intro other member
  rcases tiled.behind jobId other member with ⟨mark, current, past | pending⟩
  · rw [called.current] at current
    cases current
    exact .inr past
  · rw [called.current] at current
    cases current
    left
    rw [pending]
    rcases window with ⟨first, finish⟩
    rw [UtcWindow.mk.injEq]
    exact ⟨rfl, called.whole.symm⟩

/-- Every window so far has ended. -/
def Elapsed (now : UtcNanoseconds) (log : List Deed) : Prop :=
  ∀ jobId, ∀ window ∈ windowsOf log jobId, window.finish ≤ now

theorem called_elapsed {jobId : String} {revision : UInt64} {window : UtcWindow}
    (called : Called intervals now outbox jobId revision window) : window.finish ≤ now := by
  have settled := called.settled
  unfold generationSettleDelay at settled
  linarith

theorem windowOf_elapsed {job : String} {revision : UInt64} {own : UtcWindow} {deed : Deed}
    (called : Called intervals now outbox job revision own)
    (about : ∀ jobId, windowOf jobId deed = if job = jobId then some own else none) :
    ∀ jobId window, windowOf jobId deed = some window → window.finish ≤ now := by
  intro jobId window found
  rw [about jobId] at found
  split at found
  · cases found
    exact called_elapsed called
  · cases found

theorem elapsed_concat (elapsed : Elapsed now log) {deed : Deed}
    (ended : ∀ jobId window, windowOf jobId deed = some window → window.finish ≤ now) :
    Elapsed now (log ++ [deed]) := by
  intro jobId window member
  rw [windowsOf_concat] at member
  rcases List.mem_append.mp member with old | new
  · exact elapsed jobId window old
  · exact ended jobId window (Option.mem_toList.mp new)

theorem reset_tiled (tiled : Tiled intervals outbox log) (elapsed : Elapsed now log)
    {jobId : String} {revision : UInt64} {boundary interval : UtcNanoseconds}
    (stale : ∀ watermark, outbox.watermark jobId = some watermark →
      watermark.jobRevision ≠ revision)
    (first : nextBoundary now (intervals jobId revision) = .ok boundary)
    (marked : Marked outbox ⟨jobId, revision, boundary⟩ after) :
    Tiled intervals after (log ++ [.reset now ⟨jobId, revision, boundary⟩ interval]) := by
  rcases nextBoundary_ok first with ⟨grid, reached, near⟩
  have windows : ∀ job, windowsOf (log ++ [.reset now ⟨jobId, revision, boundary⟩ interval]) job =
      windowsOf log job := by
    intro job
    rw [windowsOf_concat]
    exact List.append_nil _
  constructor
  · intro job
    rw [lastMark_concat, marked job, follow, tiled.marks]
  · intro job mark found
    rw [marked job] at found
    split at found
    · next same =>
        cases found
        rw [same]
        exact grid
    · exact tiled.grid job mark found
  · apply rightly_concat tiled.rightly
    refine ⟨?_, grid, ⟨reached, near⟩, ?_⟩
    · intro mark found
      rw [← tiled.marks] at found
      exact stale mark found
    · intro window member
      exact (elapsed jobId window member).trans reached
  · intro job window member
    rw [windows] at member
    rcases tiled.behind job window member with ⟨mark, current, place⟩
    rw [marked job]
    split
    · exact ⟨_, rfl, .inl ((elapsed job window member).trans reached)⟩
    · exact ⟨mark, current, place⟩
  · intro job
    rw [windows]
    exact tiled.ordered job

theorem enqueuing_tiled (tiled : Tiled intervals outbox log) {jobId : String}
    {revision : UInt64} {window : UtcWindow}
    (called : Called intervals now outbox jobId revision window)
    (same : after.watermarks = outbox.watermarks) :
    Tiled intervals after (log ++ [.enqueuing now jobId revision window]) := by
  constructor
  · intro job
    rw [lastMark_concat, watermark_congr same, tiled.marks, follow]
  · intro job mark found
    rw [watermark_congr same] at found
    exact tiled.grid job mark found
  · exact rightly_concat tiled.rightly (called_tile tiled called)
  · intro job other member
    rw [watermark_congr same]
    rw [windowsOf_concat] at member
    rcases List.mem_append.mp member with old | new
    · exact tiled.behind job other old
    · rw [windowOf] at new
      split at new
      · next this =>
          rw [List.mem_singleton.mp new, ← this]
          refine ⟨_, called.current, .inr ?_⟩
          rcases window with ⟨start, finish⟩
          rw [UtcWindow.mk.injEq]
          exact ⟨rfl, called.whole⟩
      · cases new
  · intro job
    rw [windowsOf_concat, windowOf]
    split
    · next this =>
        rw [← this]
        exact ordered_concat (tiled.ordered jobId) (called_last tiled called)
    · rw [Option.toList_none, List.append_nil]
      exact tiled.ordered job

theorem completed_tiled (tiled : Tiled intervals outbox log) {jobId : String}
    {revision : UInt64} {window : UtcWindow} {skipped : Bool}
    (called : Called intervals now outbox jobId revision window)
    (marked : Marked outbox ⟨jobId, revision, window.finish⟩ after) :
    Tiled intervals after (log ++ [.completed now jobId revision window skipped]) := by
  have forward : window.start ≤ window.finish := by
    rw [called.whole]
    have positive := called.positive
    linarith
  constructor
  · intro job
    rw [lastMark_concat, marked job, follow, tiled.marks]
  · intro job mark found
    rw [marked job] at found
    split at found
    · next same =>
        cases found
        rcases (called_tile tiled called).grid with ⟨number, tile⟩
        refine ⟨number + 1, ?_⟩
        rw [same, tile]
    · exact tiled.grid job mark found
  · exact rightly_concat tiled.rightly (called_tile tiled called)
  · intro job other member
    rw [windowsOf_concat] at member
    rw [marked job]
    rcases List.mem_append.mp member with old | new
    · split
      · next this =>
          rw [this] at old
          refine ⟨_, rfl, .inl ?_⟩
          rcases called_last tiled called other old with same | before
          · rw [same]
          · exact before.trans forward
      · exact tiled.behind job other old
    · rw [windowOf] at new
      split at new
      · next this =>
          rw [List.mem_singleton.mp new, if_pos this.symm]
          exact ⟨_, rfl, .inl (le_refl _)⟩
      · cases new
  · intro job
    rw [windowsOf_concat, windowOf]
    split
    · next this =>
        rw [← this]
        exact ordered_concat (tiled.ordered jobId) (called_last tiled called)
    · rw [Option.toList_none, List.append_nil]
      exact tiled.ordered job

theorem doing_tiled {sources : Sources} {deed : Deed}
    (doing : Doing intervals sources now outbox deed after)
    (tiled : Tiled intervals outbox log) (elapsed : Elapsed now log) :
    Tiled intervals after (log ++ [deed]) ∧ Elapsed now (log ++ [deed]) := by
  cases doing with
  | reset stale first marked unsent =>
      refine ⟨reset_tiled tiled elapsed stale first marked, elapsed_concat elapsed ?_⟩
      intro jobId window found
      cases found
  | written called produced =>
      exact ⟨enqueuing_tiled tiled called rfl,
        elapsed_concat elapsed (windowOf_elapsed called (fun _ => rfl))⟩
  | manifested called produced =>
      exact ⟨enqueuing_tiled tiled called rfl,
        elapsed_concat elapsed (windowOf_elapsed called (fun _ => rfl))⟩
  | generated called produced stored marked unsent =>
      exact ⟨completed_tiled tiled called marked,
        elapsed_concat elapsed (windowOf_elapsed called (fun _ => rfl))⟩
  | skipped called expired marked unsent =>
      exact ⟨completed_tiled tiled called marked,
        elapsed_concat elapsed (windowOf_elapsed called (fun _ => rfl))⟩

theorem chained_tiled {sources : Sources} {steps : Steps}
    (chained : Chained intervals sources now outbox steps)
    (tiled : Tiled intervals outbox log) (elapsed : Elapsed now log) :
    Tiled intervals (steps.last outbox) (log ++ steps.map Prod.fst) ∧
      Elapsed now (log ++ steps.map Prod.fst) := by
  induction steps generalizing outbox log with
  | nil =>
      rw [List.map_nil, List.append_nil]
      exact ⟨tiled, elapsed⟩
  | cons step steps ih =>
      rcases step with ⟨deed, after⟩
      rcases doing_tiled chained.1 tiled elapsed with ⟨next, ended⟩
      rw [steps_last_cons, List.map_cons, List.append_cons]
      exact ih chained.2 next ended

end Tiling

section Runs

variable {Query : Type} {sha256 : Body → String} {intervals : Intervals} {engine : Engine Query}
  {log : List Deed}

theorem after_outbox (event : EngineEvent Query) (own : event.now?.isSome) :
    (event.after sha256 engine).outbox = (event.steps sha256 engine).last engine.outbox := by
  cases event with
  | applyJobs now jobs =>
      rw [EngineEvent.after, EngineEvent.steps]
      split
      · next applied returned =>
          unfold Engine.applyJobs at returned ⊢
          dsimp only at returned ⊢
          cases outcome : (applyAll now engine.statuses engine.outbox (sortedJobs jobs)).2 with
          | error failure =>
              rw [outcome] at returned
              cases returned
          | ok statuses =>
              rw [outcome] at returned
              cases returned
              rfl
      · rfl
  | generateDue now maximumWindows generate available =>
      rw [EngineEvent.after, EngineEvent.steps, Engine.generateDue]
      split
      · rfl
      · rfl
  | interruptedApply now jobs effects => rfl
  | interruptedGenerate now maximumWindows generate available effects => rfl
  | restart policy => cases own
  | outbox event => cases own

/-- The intervals are the ones of the run, and nobody but the engine stores watermarks. -/
structure Regular (intervals : Intervals) (event : EngineEvent Query) : Prop where
  fixed : ∀ job ∈ event.jobs, job.snapshot.generationInterval =
    intervals job.snapshot.jobId job.snapshot.revision
  only : ∀ other watermark, event = .outbox other → other.issued ≠ .storeWatermark watermark

theorem sorted_jobs (jobs : List (ScheduledJob Query)) (job : ScheduledJob Query) :
    job ∈ sortedJobs jobs ↔ job ∈ jobs := by
  rw [sortedJobs, List.mem_mergeSort]

theorem steps_chained {event : EngineEvent Query} (regular : Regular intervals event)
    (fits : ∀ job ∈ engine.jobs, Fits intervals job) {now : UtcNanoseconds}
    (time : event.now? = some now) :
    Chained intervals (event.sources sha256 engine) now engine.outbox
      (event.steps sha256 engine) := by
  have applies : ∀ jobs, (∀ job ∈ jobs, job.snapshot.generationInterval =
      intervals job.snapshot.jobId job.snapshot.revision) →
      ∀ sources, Chained intervals sources now engine.outbox (engine.applyJobs now jobs).1 := by
    intro jobs fixed sources
    apply applyAll_chained engine.statuses (sortedJobs jobs)
    intro job member
    exact fixed job ((sorted_jobs jobs job).mp member)
  cases event with
  | applyJobs moment jobs =>
      cases time
      exact applies jobs regular.fixed _
  | generateDue moment maximumWindows generate available =>
      cases time
      rw [EngineEvent.steps]
      split
      · trivial
      · exact generateJobs_chained sha256 generate available engine.jobs (List.Subset.refl _) fits
          maximumWindows
  | interruptedApply moment jobs effects =>
      cases time
      exact chained_take (applies jobs regular.fixed _) effects
  | interruptedGenerate moment maximumWindows generate available effects =>
      cases time
      exact chained_take
        (generateJobs_chained sha256 generate available engine.jobs (List.Subset.refl _) fits
          maximumWindows) effects
  | restart policy => cases time
  | outbox other => cases time

theorem after_fits {event : EngineEvent Query} (regular : Regular intervals event)
    (fits : ∀ job ∈ engine.jobs, Fits intervals job) :
    ∀ job ∈ (event.after sha256 engine).jobs, Fits intervals job := by
  cases event with
  | applyJobs now jobs =>
      rw [EngineEvent.after]
      split
      · next applied returned =>
          unfold Engine.applyJobs at returned
          dsimp only at returned
          cases outcome : (applyAll now engine.statuses engine.outbox (sortedJobs jobs)).2 with
          | error failure =>
              rw [outcome] at returned
              cases returned
          | ok statuses =>
              rw [outcome] at returned
              cases returned
              refine applyAll_fits engine.statuses (sortedJobs jobs) ?_ (by rw [outcome]; rfl)
              intro job member
              exact regular.fixed job ((sorted_jobs jobs job).mp member)
      · exact fits
  | generateDue now maximumWindows generate available =>
      rw [EngineEvent.after, Engine.generateDue]
      split
      · exact fits
      · exact fits
  | interruptedApply now jobs effects => exact fits
  | interruptedGenerate now maximumWindows generate available effects => exact fits
  | restart policy =>
      intro job member
      cases member
  | outbox event => exact fits

theorem tiled_congr {outbox after : Outbox} (same : after.watermarks = outbox.watermarks)
    (tiled : Tiled intervals outbox log) : Tiled intervals after log := by
  have equal : ∀ jobId, after.watermark jobId = outbox.watermark jobId := watermark_congr same
  constructor
  · intro jobId
    rw [equal, tiled.marks]
  · intro jobId mark found
    rw [equal] at found
    exact tiled.grid jobId mark found
  · exact tiled.rightly
  · intro jobId window member
    rw [equal]
    exact tiled.behind jobId window member
  · exact tiled.ordered

theorem event_watermarks (event : Event) {outbox : Outbox}
    (other : ∀ watermark, event.issued ≠ .storeWatermark watermark) :
    ((machine sha256).next outbox event).watermarks = outbox.watermarks := by
  rw [next_states]
  apply Trail.walks_invariant_within (fun state => state.watermarks = outbox.watermarks) _
    (states_walk event) rfl
  intro before after _ effect same
  exact (effect_watermarks effect other).trans same

theorem next_tiled (sha256 : Body → String) {event : EngineEvent Query}
    (regular : Regular intervals event)
    (fits : ∀ job ∈ engine.jobs, Fits intervals job) (tiled : Tiled intervals engine.outbox log)
    (elapsed : ∀ now, event.now? = some now → Elapsed now log) :
    Tiled intervals (event.after sha256 engine).outbox
        (log ++ (event.steps sha256 engine).map Prod.fst) ∧
      ∀ now, event.now? = some now →
        Elapsed now (log ++ (event.steps sha256 engine).map Prod.fst) := by
  cases time : event.now? with
  | some now =>
      rw [after_outbox event (by rw [time]; rfl)]
      rcases chained_tiled (steps_chained regular fits time) tiled (elapsed now time) with
        ⟨next, ended⟩
      refine ⟨next, ?_⟩
      intro other same
      cases same
      exact ended
  | none =>
      cases event with
      | restart policy =>
          refine ⟨?_, fun now wrong => by cases wrong⟩
          rw [EngineEvent.steps, List.map_nil, List.append_nil]
          apply tiled_congr _ tiled
          rfl
      | outbox other =>
          refine ⟨?_, fun now wrong => by cases wrong⟩
          rw [EngineEvent.steps, List.map_nil, List.append_nil]
          apply tiled_congr _ tiled
          exact event_watermarks other (fun watermark => regular.only other watermark rfl)
      | _ => cases time

theorem run_tiled (events : List (EngineEvent Query))
    (regular : ∀ event ∈ events, Regular intervals event)
    (clock : (events.filterMap EngineEvent.now?).Pairwise (· ≤ ·))
    (fits : ∀ job ∈ engine.jobs, Fits intervals job) (tiled : Tiled intervals engine.outbox log)
    (elapsed : ∀ now ∈ events.filterMap EngineEvent.now?, Elapsed now log) :
    Tiled intervals ((engineHistory Query sha256).run (engine, log) events).1.outbox
      ((engineHistory Query sha256).run (engine, log) events).2 := by
  induction events generalizing engine log with
  | nil => exact tiled
  | cons event events ih =>
      have here := regular event List.mem_cons_self
      have now : ∀ now, event.now? = some now → Elapsed now log := by
        intro now time
        apply elapsed now
        rw [List.filterMap_cons_some time]
        exact List.mem_cons_self
      rcases next_tiled sha256 here fits tiled now with ⟨next, ended⟩
      rw [Machine.run_cons]
      apply ih (fun other member => regular other (List.mem_cons_of_mem event member)) _
        (after_fits here fits) next
      · intro later member
        cases time : event.now? with
        | none =>
            have steps : event.steps sha256 engine = [] := by
              cases event with
              | restart policy => rfl
              | outbox other => rfl
              | _ => cases time
            rw [steps, List.map_nil, List.append_nil]
            apply elapsed later
            rw [List.filterMap_cons_none time]
            exact member
        | some moment =>
            rw [List.filterMap_cons_some time, List.pairwise_cons] at clock
            intro jobId window inside
            exact (ended moment time jobId window inside).trans (clock.1 later member)
      · cases time : event.now? with
        | none =>
            rw [List.filterMap_cons_none time] at clock
            exact clock
        | some moment =>
            rw [List.filterMap_cons_some time, List.pairwise_cons] at clock
            exact clock.2

theorem run_fits (events : List (EngineEvent Query))
    (regular : ∀ event ∈ events, Regular intervals event)
    (fits : ∀ job ∈ engine.jobs, Fits intervals job) :
    ∀ job ∈ ((engineHistory Query sha256).run (engine, log) events).1.jobs,
      Fits intervals job := by
  apply (engineHistory Query sha256).run_invariant_of
    (fun whole => ∀ job ∈ whole.1.jobs, Fits intervals job) (Regular intervals) _ _ fits events
    regular
  intro whole event own known
  exact after_fits own known

theorem tiled_start (intervals : Intervals) (policy : OutboxStoragePolicy) :
    Tiled intervals { policy } [] := by
  constructor
  · intro jobId
    rfl
  · intro jobId mark found
    cases found
  · intro before deed after same
    cases before with
    | nil => cases same
    | cons head tail => cases same
  · intro jobId window member
    cases member
  · intro jobId
    exact List.Pairwise.nil

theorem failed_stays (sha256 : Body → String) (generate : Datalogger Query) (available : Nat)
    (now : UtcNanoseconds) (outbox : Outbox) (job : ScheduledJob Query) (window : UtcWindow)
    (failed : (generateWindow sha256 generate available now outbox job window).2.advances = false)
    (jobId : String) :
    ((generateWindow sha256 generate available now outbox job window).1.last outbox).watermark
      jobId = outbox.watermark jobId := by
  rcases generateWindow_cases sha256 generate available now outbox job window with
    ⟨-, steps⟩ | ⟨advances, -⟩
  · rw [steps]
    apply watermark_congr
    rw [Steps.last, enqueuingSteps, List.map_map]
    apply Trail.last_forall (fun state : Outbox => state.watermarks = outbox.watermarks)
    · rfl
    · intro after member
      rw [List.mem_map] at member
      rcases member with ⟨original, inside, same⟩
      rw [← same]
      exact enqueueWindow_watermarks sha256 generate available job window original inside
  · rw [failed] at advances
    cases advances

theorem advanced_marks (sha256 : Body → String) (generate : Datalogger Query) (available : Nat)
    (now : UtcNanoseconds) (outbox : Outbox) (job : ScheduledJob Query) (window : UtcWindow)
    (advances : (generateWindow sha256 generate available now outbox job window).2.advances =
      true) :
    Marked outbox ⟨job.snapshot.jobId, job.snapshot.revision, window.finish⟩
      ((generateWindow sha256 generate available now outbox job window).1.last outbox) := by
  rcases generateWindow_cases sha256 generate available now outbox job window with
    ⟨stays, -⟩ | ⟨-, stored, skipped, returned, steps⟩
  · rw [stays] at advances
    cases advances
  · have kept : ((enqueuingSteps now job.snapshot.jobId job.snapshot.revision window
        (enqueueWindow sha256 generate available now outbox job window).1).last
          outbox).watermarks = outbox.watermarks := by
      rw [Steps.last, enqueuingSteps, List.map_map]
      apply Trail.last_forall (fun state : Outbox => state.watermarks = outbox.watermarks)
      · rfl
      · intro after member
        rcases List.mem_map.mp member with ⟨original, inside, same⟩
        rw [← same]
        exact enqueueWindow_watermarks sha256 generate available job window original inside
    rw [steps, steps_last_append, steps_last_cons, steps_last_nil]
    intro jobId
    rw [(storeWatermark_marked returned).1 jobId, watermark_congr kept]

end Runs

/-- Over every run of the engine with a clock that does not go back, the windows of every job tile
time from each new start on. In every state of such a run, what the next call of the engine does
durably is one after another a new start, the payload and the manifest of the artifact that the
source gives for the window the watermark calls for, and that window's end as watermark, once its
artifact is in the outbox or the source has nothing left of it; `apply_jobs` starts anew exactly the
enabled jobs whose watermark is missing or of another revision; and a window moves the watermark to
its end, or no watermark when it fails. -/
theorem windows_tile {Query : Type} (sha256 : Body → String) (intervals : Intervals)
    (policy : OutboxStoragePolicy) (events : List (EngineEvent Query))
    (regular : ∀ event ∈ events, Regular intervals event)
    (clock : (events.filterMap EngineEvent.now?).Pairwise (· ≤ ·)) :
    let reached := (engineHistory Query sha256).run ({ outbox := { policy } }, []) events
    Tiled intervals reached.1.outbox reached.2 ∧
      (∀ event, Regular intervals event → ∀ now, event.now? = some now →
        Chained intervals (event.sources sha256 reached.1) now reached.1.outbox
            (event.steps sha256 reached.1) ∧
          (event.after sha256 reached.1).outbox =
            (event.steps sha256 reached.1).last reached.1.outbox) ∧
      (∀ now jobs,
        (reached.1.applyJobs now jobs).1.map Prod.fst <+:
            newStarts now reached.1.outbox.watermark (sortedJobs jobs) ∧
          ((reached.1.applyJobs now jobs).2.isOk = true →
            (reached.1.applyJobs now jobs).1.map Prod.fst =
              newStarts now reached.1.outbox.watermark (sortedJobs jobs))) ∧
      ∀ (generate : Datalogger Query) available now job window,
        let tried := generateWindow sha256 generate available now reached.1.outbox job window
        (tried.2.advances = true → Marked reached.1.outbox ⟨job.snapshot.jobId,
          job.snapshot.revision, window.finish⟩ (tried.1.last reached.1.outbox)) ∧
        (tried.2.advances = false → ∀ jobId,
          (tried.1.last reached.1.outbox).watermark jobId = reached.1.outbox.watermark jobId) := by
  intro reached
  refine ⟨?_, ?_, ?_, ?_⟩
  · apply run_tiled events regular clock
    · intro job member
      cases member
    · exact tiled_start intervals policy
    · intro now _ jobId window member
      cases member
  · intro event own now time
    refine ⟨steps_chained own ?_ time, after_outbox event (by rw [time]; rfl)⟩
    apply run_fits events regular
    intro job member
    cases member
  · intro now jobs
    rcases applyAll_starts now reached.1.statuses reached.1.outbox (sortedJobs jobs) with
      ⟨begins, whole⟩
    refine ⟨begins, ?_⟩
    intro returned
    apply whole
    unfold Engine.applyJobs at returned
    dsimp only at returned
    cases outcome : (applyAll now reached.1.statuses reached.1.outbox (sortedJobs jobs)).2 with
    | error failure =>
        rw [outcome] at returned
        cases returned
    | ok statuses => rfl
  · intro generate available now job window
    exact ⟨advanced_marks sha256 generate available now reached.1.outbox job window,
      failed_stays sha256 generate available now reached.1.outbox job window⟩

/-- The windows of one revision of a job that are done with. -/
def revisionWindows (log : List Deed) (jobId : String) (revision : UInt64) : List UtcWindow :=
  log.filterMap (fun deed => match deed with
    | .completed _ job done window _ =>
        if job = jobId ∧ done = revision then some window else none
    | _ => none)

def tenSecondJob (revision : UInt64) : ScheduledJob Unit :=
  ⟨⟨"j", revision, 10000000000, .json, ()⟩, true, true, []⟩

/-- A source that answers every job with the artifact identity of the datalogger. -/
def namingSource : Datalogger Unit := fun job window now =>
  .ok { artifactId := artifactName job window
        jobId := job.jobId, jobRevision := job.revision, generatedAt := now
        artifactWindow := window, productId := "p", deviceId := "d", sourcePeriod := .basic
        format := job.format }

def expiredSource : Datalogger Unit := fun _ _ _ =>
  .error (.datalogError .sourceRetentionGap "source retention gap")

/-- The first revision is applied again after a second one: its first window is generated, the
source has nothing left of the next one. -/
def returningRevision : List (EngineEvent Unit) :=
  [.outbox (.call (.initializeOutbox (fun _ => true))), .applyJobs 0 [tenSecondJob 1],
    .generateDue 40000000000 4 namingSource 1000000000, .applyJobs 41000000000 [tenSecondJob 2],
    .applyJobs 55000000000 [tenSecondJob 1], .generateDue 100000000000 4 expiredSource 0]

def returned : Engine Unit × List Deed :=
  (engineHistory Unit lengthDigest).run ({ outbox := {} }, []) returningRevision

theorem returning_revision_tiles :
    Tiled (fun _ _ => 10000000000) returned.1.outbox returned.2 ∧
      returned.1.outbox.artifacts.map Artifact.sourceWindow = [⟨0, 10000000000⟩] := by
  refine ⟨(windows_tile lengthDigest (fun _ _ => 10000000000) {} returningRevision ?_ ?_).1,
    by decide +kernel⟩
  · intro event member
    simp only [returningRevision, List.mem_cons, List.not_mem_nil, or_false] at member
    have applied : ∀ now revision, Regular (fun _ _ => 10000000000)
        (.applyJobs now [tenSecondJob revision]) := by
      intro now revision
      constructor
      · intro job member
        rw [List.mem_singleton.mp member, tenSecondJob]
      · intro other watermark wrong
        cases wrong
    have generated : ∀ now (source : Datalogger Unit) available,
        Regular (fun _ _ => 10000000000) (.generateDue now 4 source available) := by
      intro now source available
      constructor
      · intro job member
        cases member
      · intro other watermark wrong
        cases wrong
    rcases member with same | same | same | same | same | same
    · rw [same]
      constructor
      · intro job member
        cases member
      · intro other watermark called stores
        cases called
        cases stores
    · rw [same]
      exact applied 0 1
    · rw [same]
      exact generated 40000000000 namingSource 1000000000
    · rw [same]
      exact applied 41000000000 2
    · rw [same]
      exact applied 55000000000 1
    · rw [same]
      exact generated 100000000000 expiredSource 0
  · decide

/-- The windows of the first revision have a hole where the second one was applied. -/
theorem returning_revision_leaves_hole :
    revisionWindows returned.2 "j" 1 = [⟨0, 10000000000⟩, ⟨60000000000, 70000000000⟩] ∧
      ¬ List.IsChain (fun first second => first.finish = second.start)
        (revisionWindows returned.2 "j" 1) := by
  have windows : revisionWindows returned.2 "j" 1 =
      [⟨0, 10000000000⟩, ⟨60000000000, 70000000000⟩] := by decide +kernel
  rw [windows]
  exact ⟨rfl, by simp⟩

end Msap1.DataSender
