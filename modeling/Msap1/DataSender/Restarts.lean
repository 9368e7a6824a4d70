import Msap1.DataSender.CrashPoints

/-! The engine after a crash: a new process recovers the outbox, applies the job again and
calls `generate_due`. -/

namespace Msap1.DataSender

/-- Calls on the outbox lead from one state to another. -/
def Reaches (sha256 : Body → String) (outbox after : Outbox) : Prop :=
  ∃ events, after = (machine sha256).run outbox events

/-- Wherever the steps of the engine are cut, calls on the outbox lead there. -/
def Reached (sha256 : Body → String) (outbox : Outbox) (steps : Steps) : Prop :=
  ∀ count, Reaches sha256 outbox (Steps.last outbox (steps.take count))

section Reaching

variable {Query : Type} {sha256 : Body → String} {outbox : Outbox}

theorem reaches_refl : Reaches sha256 outbox outbox := ⟨[], rfl⟩

theorem reaches_trans {between after : Outbox} (first : Reaches sha256 outbox between)
    (second : Reaches sha256 between after) : Reaches sha256 outbox after := by
  rcases first with ⟨earlier, reached⟩
  rcases second with ⟨later, finished⟩
  refine ⟨earlier ++ later, ?_⟩
  rw [Machine.run_append, ← reached, finished]

theorem reaches_next (event : Event) :
    Reaches sha256 outbox ((machine sha256).next outbox event) := ⟨[event], rfl⟩

theorem reached_nil : Reached sha256 outbox [] := by
  intro count
  rw [List.take_nil]
  exact reaches_refl

theorem reached_last {steps : Steps} (reached : Reached sha256 outbox steps) :
    Reaches sha256 outbox (steps.last outbox) := by
  have whole := reached steps.length
  rwa [List.take_length] at whole

theorem reached_append {first second : Steps} (begins : Reached sha256 outbox first)
    (continues : Reached sha256 (first.last outbox) second) :
    Reached sha256 outbox (first ++ second) := by
  intro count
  rw [List.take_append, steps_last_append]
  by_cases inside : count ≤ first.length
  · rw [Nat.sub_eq_zero_of_le inside, List.take_zero, steps_last_nil]
    exact begins count
  · rw [List.take_of_length_le (by omega)]
    exact reaches_trans (reached_last begins) (continues _)

theorem reached_call {steps : Steps} (call : Call)
    (trail : steps.map Prod.snd = (outbox.effects sha256 call).1) :
    Reached sha256 outbox steps := by
  intro count
  rw [Steps.last, List.map_take, trail]
  exact reaches_next (.stopped call count)

theorem reached_stored {watermark : JobWatermark} {stored : Outbox} {deed : Deed}
    (returned : outbox.storeWatermark watermark = .ok stored) :
    Reached sha256 outbox [(deed, stored)] := by
  apply reached_call (.storeWatermark watermark)
  rw [Outbox.effects, returned]
  rfl

theorem generateWindow_reached (sha256 : Body → String) (generate : Datalogger Query)
    (available : Nat) (now : UtcNanoseconds) (outbox : Outbox) (job : ScheduledJob Query)
    (window : UtcWindow) :
    Reached sha256 outbox (generateWindow sha256 generate available now outbox job window).1 := by
  have tries : Reached sha256 outbox (enqueuingSteps now job.snapshot.jobId job.snapshot.revision
      window (enqueueWindow sha256 generate available now outbox job window).1) := by
    unfold enqueueWindow
    split
    · exact reached_nil
    · next dataset _ =>
        split
        · exact reached_nil
        · next content _ =>
            apply reached_call (.enqueue dataset.toGeneratedDataset content
              job.channelIds job.localOnly available)
            rw [enqueuingSteps, List.map_map]
            exact List.map_id _
  rcases generateWindow_cases sha256 generate available now outbox job window with
    ⟨-, steps⟩ | ⟨-, stored, skipped, returned, steps⟩
  · rw [steps]
    exact tries
  · rw [steps]
    exact reached_append tries (reached_stored returned)

theorem generateJob_reached (sha256 : Body → String) (generate : Datalogger Query)
    (available : Nat) (now : UtcNanoseconds) (job : ScheduledJob Query) (budget : Nat)
    (outbox : Outbox) :
    Reached sha256 outbox (generateJob sha256 generate available now job budget outbox).steps := by
  induction budget generalizing outbox with
  | zero => exact reached_nil
  | succ budget ih =>
      unfold generateJob
      split
      · exact reached_nil
      · next window _ =>
          have tried := generateWindow_reached sha256 generate available now outbox job window
          dsimp only
          split
          · exact reached_append tried (ih _)
          · exact tried

theorem generateJobs_reached (generate : Datalogger Query) (available : Nat)
    (now : UtcNanoseconds) (jobs : List (ScheduledJob Query)) (budget : Nat) (outbox : Outbox) :
    Reached sha256 outbox
      (generateJobs sha256 generate available now jobs budget outbox).steps := by
  induction jobs generalizing budget outbox with
  | nil => exact reached_nil
  | cons job jobs ih =>
      unfold generateJobs
      split
      · exact ih budget outbox
      · have first := generateJob_reached sha256 generate available now job budget outbox
        dsimp only
        split
        · exact first
        · exact reached_append first (ih _ _)

theorem applyAll_reached (now : UtcNanoseconds) (statuses : List ScheduledJobStatus)
    (jobs : List (ScheduledJob Query)) (outbox : Outbox) :
    Reached sha256 outbox (applyAll now statuses outbox jobs).1 := by
  induction jobs generalizing outbox with
  | nil => exact reached_nil
  | cons job jobs ih =>
      unfold applyAll
      split
      · exact reached_nil
      · next steps status returned =>
          apply reached_append _ (ih _)
          rcases applyJob_stores returned with
            ⟨-, ⟨-, nothing⟩ | ⟨-, boundary, stored, -, kept, one⟩⟩
          · rw [nothing]
            exact reached_nil
          · rw [one]
            exact reached_stored kept

theorem steps_reached (engine : Engine Query) (event : EngineEvent Query) :
    Reached sha256 engine.outbox (event.steps sha256 engine) := by
  have prefixes : ∀ {steps : Steps} (effects : Nat), Reached sha256 engine.outbox steps →
      Reached sha256 engine.outbox (steps.take effects) := by
    intro steps effects reached count
    rw [List.take_take]
    exact reached _
  cases event with
  | applyJobs now jobs => exact applyAll_reached now engine.statuses _ engine.outbox
  | generateDue now maximumWindows generate available =>
      rw [EngineEvent.steps]
      split
      · exact reached_nil
      · exact generateJobs_reached generate available now engine.jobs _ engine.outbox
  | interruptedApply now jobs effects =>
      exact prefixes effects (applyAll_reached now engine.statuses _ engine.outbox)
  | interruptedGenerate now maximumWindows generate available effects =>
      exact prefixes effects
        (generateJobs_reached generate available now engine.jobs _ engine.outbox)
  | restart policy => exact reached_nil
  | outbox event => exact reached_nil

theorem after_reached (engine : Engine Query) (event : EngineEvent Query) :
    Reaches sha256 engine.outbox (event.after sha256 engine).outbox := by
  cases event with
  | restart policy => exact reaches_next (.crash policy)
  | outbox event => exact reaches_next event
  | _ =>
      rw [after_outbox _ rfl]
      exact reached_last (steps_reached engine _)

theorem engine_reaches (sha256 : Body → String) (engine : Engine Query)
    (events : List (EngineEvent Query)) :
    Reaches sha256 engine.outbox ((engineMachine Query sha256).run engine events).outbox := by
  apply (engineMachine Query sha256).run_invariant
    (fun reached => Reaches sha256 engine.outbox reached.outbox)
  · intro reached event known
    exact reaches_trans known (after_reached reached event)
  · exact reaches_refl

theorem reaches_consistent {policy : OutboxStoragePolicy} {after : Outbox}
    (reaches : Reaches sha256 { policy } after) : ∃ log, Consistent sha256 log after := by
  rcases reaches with ⟨events, reached⟩
  have consistent := logging_consistent sha256 policy events
  rw [logging, Machine.traced_state, ← reached] at consistent
  exact ⟨_, consistent⟩

end Reaching

/-- A later call of `generate_due`, with what its source gives for the window. -/
structure Regeneration (Query : Type) where
  now : UtcNanoseconds
  maximumWindows : Nat
  generate : Datalogger Query
  available : Nat
  dataset : MeterDataset
  content : GeneratedContent

def Regeneration.event {Query : Type} (again : Regeneration Query) : EngineEvent Query :=
  .generateDue again.now again.maximumWindows again.generate again.available

/-- The source of a later call works, and the window is due. -/
structure Works {Query : Type} (sha256 : Body → String) (job : ScheduledJob Query)
    (window : UtcWindow) (artifactId : String) (again : Regeneration Query) : Prop where
  limit : 0 < again.maximumWindows ∧ again.maximumWindows ≤ 100
  settled : window.finish + generationSettleDelay ≤ again.now
  generates : again.generate job.snapshot window again.now = .ok again.dataset
  writes : writeContent sha256 job.snapshot.format again.dataset = .ok again.content
  identity : again.dataset.artifactId = artifactId
  window : again.dataset.artifactWindow = window
  revision : again.dataset.jobRevision = job.snapshot.revision

/-- The next window of the job is the given one, and the outbox is open. -/
structure Waiting {Query : Type} (job : ScheduledJob Query) (window : UtcWindow)
    (outbox : Outbox) : Prop where
  ready : outbox.initialized = true
  next : ∃ mark, currentWatermark outbox job = some mark ∧
    windowFrom job mark.completedThrough = window

section Again

variable {Query : Type} {sha256 : Body → String} {generate : Datalogger Query} {available : Nat}
  {now : UtcNanoseconds} {base outbox : Outbox} {job : ScheduledJob Query} {window : UtcWindow}
  {dataset : MeterDataset} {content : GeneratedContent} {again : Regeneration Query}

theorem writes_shape {format : ContentFormat}
    (writes : writeContent sha256 format dataset = .ok content) :
    content.artifactId = dataset.artifactId ∧
      content.filename = dataset.artifactId ++ "." ++ content.extension ∧
      content.sha256 = sha256 content.body ∧
      content.extension = contentFormatName format := by
  unfold writeContent at writes
  split at writes
  · cases writes
  · split at writes
    · cases writes
    · cases writes
      cases format with
      | json => exact ⟨rfl, rfl, rfl, rfl⟩
      | csv => exact ⟨rfl, rfl, rfl, rfl⟩

theorem works_filename (first : FirstTime sha256 generate available now base job window dataset
    content) (works : Works sha256 job window dataset.artifactId again) :
    again.content.filename = content.filename := by
  rcases writes_shape works.writes with ⟨-, filename, -, extension⟩
  rcases writes_shape first.writes with ⟨-, original, -, kind⟩
  rw [filename, original, extension, kind, works.identity]

theorem first_accepted (first : FirstTime sha256 generate available now base job window dataset
    content) :
    (base.enqueue sha256 dataset.toGeneratedDataset content job.channelIds job.localOnly
      available).2 = .ok () := by
  have succeeds := first.succeeds
  unfold generateWindow enqueueWindow at succeeds
  rw [first.generates] at succeeds
  dsimp only at succeeds
  rw [first.writes] at succeeds
  dsimp only at succeeds
  split at succeeds
  · next accepted => exact accepted
  · split at succeeds
    · cases succeeds
    · cases succeeds
  · exact absurd succeeds (deferredBy_stays _)

theorem accepted_arguments {dataset : GeneratedDataset} {channelIds : List String}
    {localOnly : Bool}
    (accepted : (outbox.enqueue sha256 dataset content channelIds localOnly available).2 =
      .ok ()) :
    outbox.enqueueArguments sha256 dataset content channelIds localOnly = .ok () := by
  unfold Outbox.enqueue at accepted
  split at accepted
  · cases accepted
  · next passed => exact passed

theorem again_arguments (digest : Digest sha256)
    (first : FirstTime sha256 generate available now base job window dataset content)
    (works : Works sha256 job window dataset.artifactId again)
    (ready : outbox.initialized = true) :
    outbox.enqueueArguments sha256 again.dataset.toGeneratedDataset again.content job.channelIds
      job.localOnly = .ok () := by
  have passed := accepted_arguments (first_accepted first)
  rcases writes_shape works.writes with ⟨identity, filename, checksum, extension⟩
  rcases writes_shape first.writes with ⟨-, -, -, kind⟩
  have place := works_filename first works
  unfold Outbox.enqueueArguments at passed ⊢
  split at passed
  · cases passed
  · split at passed
    · cases passed
    · next facts =>
        rw [if_neg (by simp [ready])]
        simp only [not_or, not_not, not_and] at facts
        rcases facts with ⟨safe, -, name, -, -, -, -⟩
        rw [if_neg]
        · exact passed
        · simp only [not_or, not_not]
          refine ⟨?_, identity, ?_, filename, ?_, checksum.symm, ?_⟩
          · rw [works.identity]
            exact safe
          · rw [place]
            exact name
          · rw [extension]
            cases job.snapshot.format with
            | json => simp [contentFormatName]
            | csv => simp [contentFormatName]
          · rw [checksum]
            exact digest.size _

theorem again_tries (works : Works sha256 job window dataset.artifactId again) :
    enqueueWindow sha256 again.generate again.available again.now outbox job window =
      outbox.enqueue sha256 again.dataset.toGeneratedDataset again.content job.channelIds
        job.localOnly again.available := by
  unfold enqueueWindow
  rw [works.generates]
  dsimp only
  rw [works.writes]

theorem waiting_due (waiting : Waiting job window outbox)
    (works : Works sha256 job window dataset.artifactId again) :
    dueWindow again.now outbox job = some window := by
  rcases waiting.next with ⟨mark, current, place⟩
  rw [← place]
  apply dueWindow_of current
  rw [place]
  exact works.settled

theorem refused_call {text : String} (waiting : Waiting job window outbox)
    (works : Works sha256 job window dataset.artifactId again)
    (refused : outbox.enqueue sha256 again.dataset.toGeneratedDataset again.content
      job.channelIds job.localOnly again.available =
        ([], .error (.datalogError .storageFailure text))) :
    (generateJob sha256 again.generate again.available again.now job again.maximumWindows
        outbox).steps = [] ∧
      (generateJob sha256 again.generate again.available again.now job again.maximumWindows
        outbox).halted = true := by
  have outcome : generateWindow sha256 again.generate again.available again.now outbox job window =
      ([], .storageBlocked text) := by
    unfold generateWindow
    rw [again_tries works, refused]
    rfl
  cases limit : again.maximumWindows with
  | zero => exact absurd limit works.limit.1.ne'
  | succ budget =>
      unfold generateJob
      rw [waiting_due waiting works]
      dsimp only
      rw [outcome]
      exact ⟨rfl, rfl⟩

theorem stored_again {watermark : JobWatermark} {stored : Outbox} (other : Outbox)
    (returned : outbox.storeWatermark watermark = .ok stored) :
    ∃ after, other.storeWatermark watermark = .ok after := by
  unfold Outbox.storeWatermark at returned ⊢
  split at returned
  · cases returned
  · next identity =>
      rw [if_neg identity]
      split at returned
      · cases returned
      · exact ⟨_, rfl⟩

theorem stored_bound {watermark : JobWatermark} {stored : Outbox}
    (returned : outbox.storeWatermark watermark = .ok stored) :
    ∃ value, bindUnsigned watermark.jobRevision = .ok value := by
  unfold Outbox.storeWatermark at returned
  split at returned
  · cases returned
  · split at returned
    · cases returned
    · next value bound => exact ⟨value, bound⟩

theorem accepted_call (positive : 0 < job.snapshot.generationInterval)
    (first : FirstTime sha256 generate available now base job window dataset content)
    (waiting : Waiting job window outbox)
    (works : Works sha256 job window dataset.artifactId again)
    (accepted : (outbox.enqueue sha256 again.dataset.toGeneratedDataset again.content
      job.channelIds job.localOnly again.available).2 = .ok ())
    (single : Single sha256 job window dataset.artifactId (Trail.last outbox
      (outbox.enqueue sha256 again.dataset.toGeneratedDataset again.content job.channelIds
        job.localOnly again.available).1)) :
    Complete sha256 job window dataset.artifactId
      ((generateJob sha256 again.generate again.available again.now job again.maximumWindows
        outbox).steps.last outbox) := by
  rcases first_steps first with ⟨earlier, -, -, returned, -⟩
  rcases stored_again (Trail.last outbox (outbox.enqueue sha256
    again.dataset.toGeneratedDataset again.content job.channelIds job.localOnly
      again.available).1) returned with ⟨stored, marked⟩
  have outcome : generateWindow sha256 again.generate again.available again.now outbox job window =
      (enqueuingSteps again.now job.snapshot.jobId job.snapshot.revision window
        (outbox.enqueue sha256 again.dataset.toGeneratedDataset again.content job.channelIds
          job.localOnly again.available).1 ++
        [(.completed again.now job.snapshot.jobId job.snapshot.revision window false, stored)],
        .generated) := by
    unfold generateWindow
    rw [again_tries works]
    dsimp only
    rw [accepted]
    dsimp only
    have completed : completeWindow (Steps.last outbox (enqueuingSteps again.now
        job.snapshot.jobId job.snapshot.revision window (outbox.enqueue sha256
          again.dataset.toGeneratedDataset again.content job.channelIds job.localOnly
            again.available).1)) job window = .ok stored := by
      rw [enqueuingSteps_last]
      exact marked
    unfold enqueuingSteps at completed
    rw [completed]
    rfl
  have done : Complete sha256 job window dataset.artifactId stored := by
    rcases stored_tables marked with ⟨artifacts, deliveries, files⟩
    refine ⟨⟨_, currentWatermark_marked (storeWatermark_marked marked).1, le_refl _⟩, ?_⟩
    rcases single with ⟨artifact, rows, body, standing, alone, facts⟩
    refine ⟨artifact, rows, body, standing_congr artifacts deliveries files standing, ?_, facts⟩
    rw [artifacts]
    exact alone
  cases limit : again.maximumWindows with
  | zero => exact absurd limit works.limit.1.ne'
  | succ budget =>
      unfold generateJob
      rw [waiting_due waiting works]
      dsimp only
      rw [outcome]
      dsimp only
      rw [if_pos (by rfl), steps_last_append, steps_last_append, steps_last_cons, steps_last_nil]
      exact complete_job positive (.inl rfl) again.generate again.available budget stored done

theorem foreign_refused (digest : Digest sha256) (positive : 0 < job.snapshot.generationInterval)
    (first : FirstTime sha256 generate available now base job window dataset content)
    (waiting : Waiting job window outbox)
    (works : Works sha256 job window dataset.artifactId again) {artifact : Artifact}
    (known : outbox.artifact? dataset.artifactId = some artifact)
    (zero : artifact.sourceWindow = ⟨0, 0⟩) :
    ∃ text, outbox.enqueue sha256 again.dataset.toGeneratedDataset again.content job.channelIds
      job.localOnly again.available = ([], .error (.datalogError .storageFailure text)) := by
  have other : Outbox.sameManifest artifact again.dataset.toGeneratedDataset again.content =
      false := by
    rcases waiting.next with ⟨mark, -, place⟩
    have later : window.start < window.finish := by
      rw [← place, windowFrom]
      dsimp only
      linarith
    have apart : artifact.sourceWindow ≠ again.dataset.artifactWindow := by
      rw [zero, works.window]
      intro same
      rw [← same] at later
      exact lt_irrefl _ later
    simp [Outbox.sameManifest, apart]
  unfold Outbox.enqueue
  rw [again_arguments digest first works waiting.ready]
  dsimp only
  rw [works.identity, known]
  dsimp only
  rw [other]
  exact ⟨_, rfl⟩

theorem orphaned_refused (digest : Digest sha256) (positive : 0 < job.snapshot.generationInterval)
    (first : FirstTime sha256 generate available now base job window dataset content)
    (waiting : Waiting job window outbox)
    (works : Works sha256 job window dataset.artifactId again) {body : Body}
    (orphaned : Orphaned dataset.artifactId job.localOnly content.filename body outbox) :
    ∃ text, outbox.enqueue sha256 again.dataset.toGeneratedDataset again.content job.channelIds
      job.localOnly again.available = ([], .error (.datalogError .storageFailure text)) := by
  cases known : outbox.artifact? dataset.artifactId with
  | some artifact =>
      have row := List.mem_of_find?_eq_some known
      have identity := List.find?_some known
      simp only [decide_eq_true_eq] at identity
      exact foreign_refused digest positive first waiting works known
        (orphaned.recovered artifact row identity)
  | none =>
      unfold Outbox.enqueue
      rw [again_arguments digest first works waiting.ready]
      dsimp only
      rw [works.identity, known]
      dsimp only
      split
      · exact ⟨_, rfl⟩
      · rw [works_filename first works, orphaned.payload]
        exact ⟨_, rfl⟩

theorem usurped_refused (digest : Digest sha256) (positive : 0 < job.snapshot.generationInterval)
    (first : FirstTime sha256 generate available now base job window dataset content)
    (waiting : Waiting job window outbox)
    (works : Works sha256 job window dataset.artifactId again)
    (usurped : Usurped dataset.artifactId outbox) :
    ∃ text, outbox.enqueue sha256 again.dataset.toGeneratedDataset again.content job.channelIds
      job.localOnly again.available = ([], .error (.datalogError .storageFailure text)) := by
  rcases usurped.taken with ⟨artifact, row, identity⟩
  cases known : outbox.artifact? dataset.artifactId with
  | some found =>
      have same := List.find?_some known
      simp only [decide_eq_true_eq] at same
      exact foreign_refused digest positive first waiting works known
        (usurped.recovered found (List.mem_of_find?_eq_some known) same)
  | none =>
      have missing := List.find?_eq_none.mp known artifact row
      simp [identity] at missing

theorem standing_known (consistent : ∃ log, Consistent sha256 log outbox) {artifact : Artifact}
    {rows : List Delivery} {body : Body} (standing : Standing artifact rows body outbox) :
    outbox.artifact? artifact.artifactId = some artifact ∧
      outbox.artifacts.filter (fun row => row.artifactId = artifact.artifactId) = [artifact] := by
  rcases consistent with ⟨log, consistent⟩
  have alone : ∀ row ∈ outbox.artifacts, row.artifactId = artifact.artifactId →
      row = artifact := by
    intro row member same
    exact pairwise_unique Artifact.artifactId consistent.identities member standing.row same
  have distinct : outbox.artifacts.Nodup := by
    apply consistent.identities.imp
    intro left right apart same
    exact apart (by rw [same])
  constructor
  · unfold Outbox.artifact?
    cases known : outbox.artifacts.find? (fun row => row.artifactId = artifact.artifactId) with
    | none =>
        have missing := List.find?_eq_none.mp known artifact standing.row
        simp at missing
    | some row =>
        have identity := List.find?_some known
        simp only [decide_eq_true_eq] at identity
        rw [alone row (List.mem_of_find?_eq_some known) identity]
  · have members : ∀ row ∈ outbox.artifacts.filter (fun row =>
        row.artifactId = artifact.artifactId), row = artifact := by
      intro row member
      rcases List.mem_filter.mp member with ⟨inside, identity⟩
      simp only [decide_eq_true_eq] at identity
      exact alone row inside identity
    have present : artifact ∈ outbox.artifacts.filter (fun row =>
        row.artifactId = artifact.artifactId) :=
      List.mem_filter.mpr ⟨standing.row, by simp⟩
    exact nodup_singleton_of (distinct.filter _) present members

/-- The regenerated content is the one that is stored. -/
def SameContent (content : GeneratedContent) (again : Regeneration Query) : Prop :=
  again.content.sha256 = content.sha256 ∧ again.content.body.length = content.body.length

/-- The artifact a first try leaves. -/
def FirstStanding (job : ScheduledJob Query) (dataset : MeterDataset) (content : GeneratedContent)
    (outbox : Outbox) : Prop :=
  Standing (Outbox.manifestRow dataset.toGeneratedDataset content job.localOnly)
    (job.channelIds.map (fun channel =>
      { artifactId := dataset.artifactId, channelId := channel })) content.body outbox

theorem first_sound (first : FirstTime sha256 generate available now base job window dataset
    content) :
    Sound sha256 (Outbox.manifestRow dataset.toGeneratedDataset content job.localOnly)
      (job.channelIds.map (fun channel =>
        { artifactId := dataset.artifactId, channelId := channel })) content.body := by
  rcases writes_shape first.writes with ⟨-, -, checksum, -⟩
  refine ⟨rfl, rfl, checksum.symm, ?_⟩
  cases channels : job.channelIds with
  | nil => exact .inl rfl
  | cons channel others =>
      right
      exact ⟨_, List.mem_cons_self, by simp⟩

theorem standing_single (consistent : ∃ log, Consistent sha256 log outbox)
    (checksum : sha256 content.body = content.sha256) (span : dataset.artifactWindow = window)
    (standing : FirstStanding job dataset content outbox) :
    Single sha256 job window dataset.artifactId outbox := by
  refine ⟨_, _, _, standing, (standing_known consistent standing).2, span, rfl, rfl, rfl,
    checksum, ?_⟩
  rw [List.map_map]
  exact List.map_id _

theorem inserted_standing {log : List (String × Body)}
    (consistent : Consistent sha256 log outbox)
    (insertable : Insertable sha256 outbox dataset.toGeneratedDataset content job.channelIds
      job.localOnly) :
    FirstStanding job dataset content (outbox.insertManifest dataset.toGeneratedDataset content
      job.channelIds job.localOnly) := by
  refine ⟨List.mem_append_right _ List.mem_cons_self, ?_, insertable.stored⟩
  have old : outbox.deliveries.filter (fun delivery =>
      delivery.artifactId = dataset.artifactId) = [] := by
    rw [List.filter_eq_nil_iff]
    intro delivery member
    rcases consistent.owned delivery member with ⟨owner, row, identity⟩
    rw [← identity, decide_eq_true_eq]
    exact absent_row insertable.absent row
  have new : ((job.channelIds.map (fun channel =>
      ({ artifactId := dataset.artifactId, channelId := channel } : Delivery))).filter
        (fun delivery => delivery.artifactId = dataset.artifactId)) =
      job.channelIds.map (fun channel =>
        { artifactId := dataset.artifactId, channelId := channel }) := by
    rw [List.filter_eq_self]
    intro delivery member
    rcases List.mem_map.mp member with ⟨channel, -, same⟩
    rw [← same]
    simp
  unfold Outbox.deliveriesOf Outbox.insertManifest Outbox.manifestRow
  dsimp only
  rw [List.filter_append, old, new, List.nil_append]

/-- A stored artifact is taken for the regenerated one when it has its content, and is in its
way otherwise. -/
theorem standing_tried (digest : Digest sha256)
    (consistent : ∃ log, Consistent sha256 log outbox)
    (first : FirstTime sha256 generate available now base job window dataset content)
    (waiting : Waiting job window outbox)
    (works : Works sha256 job window dataset.artifactId again)
    (standing : FirstStanding job dataset content outbox) :
    (SameContent content again → outbox.enqueue sha256 again.dataset.toGeneratedDataset
        again.content job.channelIds job.localOnly again.available = ([], .ok ())) ∧
      (¬ SameContent content again → ∃ text, outbox.enqueue sha256
        again.dataset.toGeneratedDataset again.content job.channelIds job.localOnly
          again.available = ([], .error (.datalogError .storageFailure text))) := by
  have known := (standing_known consistent standing).1
  have compared : Outbox.sameManifest
      (Outbox.manifestRow dataset.toGeneratedDataset content job.localOnly)
      again.dataset.toGeneratedDataset again.content = true ↔ SameContent content again := by
    have place := works_filename first works
    have span : dataset.artifactWindow = again.dataset.artifactWindow :=
      first.window.trans works.window.symm
    have revision : dataset.jobRevision = again.dataset.jobRevision :=
      first.revision.trans works.revision.symm
    simp only [Outbox.sameManifest, Outbox.manifestRow, place, span, revision, Bool.and_eq_true,
      decide_eq_true_eq, SameContent]
    tauto
  have owner : again.dataset.artifactId =
      (Outbox.manifestRow dataset.toGeneratedDataset content job.localOnly).artifactId :=
    works.identity
  unfold Outbox.enqueue
  rw [again_arguments digest first works waiting.ready]
  dsimp only
  rw [owner, known]
  dsimp only
  constructor
  · intro same
    rw [if_pos (compared.mpr same)]
  · intro different
    rw [if_neg (fun same => different (compared.mp same))]
    exact ⟨_, rfl⟩

theorem untouched_accepted (digest : Digest sha256)
    (consistent : ∃ log, Consistent sha256 log outbox)
    (first : FirstTime sha256 generate available now base job window dataset content)
    (waiting : Waiting job window outbox)
    (works : Works sha256 job window dataset.artifactId again)
    (room : outbox.guardAllows again.available again.content.body.length = true)
    (untouched : Untouched dataset.artifactId job.localOnly content.filename outbox) :
    (outbox.enqueue sha256 again.dataset.toGeneratedDataset again.content job.channelIds
        job.localOnly again.available).2 = .ok () ∧
      Single sha256 job window dataset.artifactId (Trail.last outbox
        (outbox.enqueue sha256 again.dataset.toGeneratedDataset again.content job.channelIds
          job.localOnly again.available).1) := by
  have absent : outbox.artifact? again.dataset.artifactId = none := by
    unfold Outbox.artifact?
    rw [List.find?_eq_none]
    intro row member
    rw [works.identity]
    simpa using (untouched.unknown row member).1
  have place := works_filename first works
  have accepted : (outbox.enqueue sha256 again.dataset.toGeneratedDataset again.content
      job.channelIds job.localOnly again.available).2 = .ok () := by
    have bound : ∃ value, bindUnsigned again.dataset.jobRevision = .ok value := by
      rcases first_steps first with ⟨stored, -, -, returned, -⟩
      rw [works.revision]
      exact stored_bound returned
    rcases bound with ⟨value, bound⟩
    unfold Outbox.enqueue
    rw [again_arguments digest first works waiting.ready]
    dsimp only
    rw [absent]
    dsimp only
    rw [if_neg (by simp [room]), place, untouched.free, if_neg (by simp), bound]
    dsimp only
    rw [if_neg]
    rintro ⟨row, member, same⟩
    exact (untouched.unknown row member).2 same
  refine ⟨accepted, ?_⟩
  rcases enqueue_fresh accepted absent with ⟨free, insertable, trail⟩
  rw [trail, Trail.last_cons, Trail.last_cons, Trail.last_nil, ← works.identity]
  rcases consistent with ⟨log, consistent⟩
  have written := consistent_written consistent again.content job.localOnly
  exact standing_single ⟨_, consistent_inserted written insertable⟩ insertable.checksum
    works.window (inserted_standing written insertable)

theorem waiting_incomplete (positive : 0 < job.snapshot.generationInterval)
    (waiting : Waiting job window outbox) (artifactId : String) :
    ¬ Complete sha256 job window artifactId outbox := by
  intro complete
  rcases complete.past with ⟨mark, current, past⟩
  rcases waiting.next with ⟨other, known, place⟩
  rw [current] at known
  cases known
  rw [← place, windowFrom] at past
  dsimp only at past
  linarith

variable {engine : Engine Query}

theorem generateJobs_idle {idle : List (ScheduledJob Query)}
    (resting : ∀ other ∈ idle, other.enabled = false) (jobs : List (ScheduledJob Query))
    (budget : Nat) :
    generateJobs sha256 generate available now (idle ++ jobs) budget outbox =
      generateJobs sha256 generate available now jobs budget outbox := by
  induction idle with
  | nil => rfl
  | cons other idle ih =>
      rw [List.cons_append, generateJobs,
        if_pos (by simp [resting other List.mem_cons_self])]
      exact ih (fun one member => resting one (List.mem_cons_of_mem other member))

/-- Of the enabled jobs the engine comes to a given one first, and no other one has its id. -/
def Foremost (job : ScheduledJob Query) (jobs : List (ScheduledJob Query)) : Prop :=
  ∃ idle others, jobs = idle ++ job :: others ∧ (∀ other ∈ idle, other.enabled = false) ∧
    ∀ other ∈ others, other.snapshot.jobId ≠ job.snapshot.jobId

theorem foremost_apart {jobs : List (ScheduledJob Query)} (foremost : Foremost job jobs) :
    Apart job jobs := by
  rcases foremost with ⟨idle, others, order, resting, apart⟩
  intro other member enabled
  rw [order] at member
  rcases List.mem_append.mp member with front | rest
  · rw [resting other front] at enabled
    cases enabled
  · rcases List.mem_cons.mp rest with same | behind
    · exact .inl same
    · exact .inr (apart other behind)

theorem call_after (works : Works sha256 job window dataset.artifactId again) :
    ((engineMachine Query sha256).next engine again.event).jobs = engine.jobs ∧
      ((engineMachine Query sha256).next engine again.event).outbox =
        (generateJobs sha256 again.generate again.available again.now engine.jobs
          again.maximumWindows engine.outbox).steps.last engine.outbox := by
  have inside : ¬ (again.maximumWindows = 0 ∨ 100 < again.maximumWindows) := by
    have limit := works.limit
    omega
  simp only [Machine.next, engineMachine, Regeneration.event, EngineEvent.after,
    Engine.generateDue, if_neg inside, Engine.generation, and_self]

section Runs

variable (foremost : Foremost job engine.jobs) (enabled : job.enabled = true)
  {later : List (Regeneration Query)}
  (works : ∀ again ∈ later, Works sha256 job window dataset.artifactId again)

include foremost

include enabled in
theorem refused_after (works : Works sha256 job window dataset.artifactId again) {text : String}
    (waiting : Waiting job window engine.outbox)
    (refused : engine.outbox.enqueue sha256 again.dataset.toGeneratedDataset again.content
      job.channelIds job.localOnly again.available =
        ([], .error (.datalogError .storageFailure text))) :
    ((engineMachine Query sha256).next engine again.event).outbox = engine.outbox := by
  rcases foremost with ⟨idle, others, order, resting, -⟩
  rcases refused_call waiting works refused with ⟨nothing, halted⟩
  rw [(call_after works).2, order, generateJobs_idle resting, generateJobs,
    if_neg (by simp [enabled])]
  dsimp only
  rw [if_pos halted, nothing, steps_last_nil]

include enabled in
theorem accepted_after (positive : 0 < job.snapshot.generationInterval)
    (first : FirstTime sha256 generate available now base job window dataset content)
    (waiting : Waiting job window engine.outbox)
    (works : Works sha256 job window dataset.artifactId again)
    (accepted : (engine.outbox.enqueue sha256 again.dataset.toGeneratedDataset again.content
      job.channelIds job.localOnly again.available).2 = .ok ())
    (single : Single sha256 job window dataset.artifactId (Trail.last engine.outbox
      (engine.outbox.enqueue sha256 again.dataset.toGeneratedDataset again.content job.channelIds
        job.localOnly again.available).1)) :
    Complete sha256 job window dataset.artifactId
      ((engineMachine Query sha256).next engine again.event).outbox := by
  have one := accepted_call positive first waiting works accepted single
  rcases foremost with ⟨idle, others, order, resting, apart⟩
  rw [(call_after works).2, order, generateJobs_idle resting, generateJobs,
    if_neg (by simp [enabled])]
  dsimp only
  split
  · exact one
  · rw [steps_last_append]
    apply complete_jobs positive _ _ _ _ _ one
    intro other member _
    exact .inr (apart other member)

include works

theorem later_complete
    (complete : Complete sha256 job window dataset.artifactId engine.outbox)
    (positive : 0 < job.snapshot.generationInterval) :
    Complete sha256 job window dataset.artifactId
      ((engineMachine Query sha256).run engine (later.map Regeneration.event)).outbox := by
  induction later generalizing engine with
  | nil => exact complete
  | cons again later ih =>
      rcases call_after (works again List.mem_cons_self) with ⟨jobs, outbox⟩
      rw [List.map_cons, Machine.run_cons]
      apply ih (by rwa [jobs])
      · intro other member
        exact works other (List.mem_cons_of_mem again member)
      · rw [outbox]
        exact complete_jobs positive again.generate again.available (foremost_apart foremost)
          again.maximumWindows _ complete

include enabled

theorem later_refused (waiting : Waiting job window engine.outbox)
    (refused : ∀ again ∈ later, ∃ text, engine.outbox.enqueue sha256
      again.dataset.toGeneratedDataset again.content job.channelIds job.localOnly
        again.available = ([], .error (.datalogError .storageFailure text))) :
    ((engineMachine Query sha256).run engine (later.map Regeneration.event)).outbox =
      engine.outbox := by
  induction later generalizing engine with
  | nil => rfl
  | cons again later ih =>
      rcases refused again List.mem_cons_self with ⟨text, here⟩
      have outbox := refused_after foremost enabled (works again List.mem_cons_self) waiting here
      have jobs : ((engineMachine Query sha256).next engine again.event).jobs = engine.jobs :=
        (call_after (works again List.mem_cons_self)).1
      rw [List.map_cons, Machine.run_cons, ih (by rwa [jobs]), outbox]
      · intro other member
        exact works other (List.mem_cons_of_mem again member)
      · rwa [outbox]
      · intro other member
        rw [outbox]
        exact refused other (List.mem_cons_of_mem again member)

theorem later_standing (digest : Digest sha256)
    (positive : 0 < job.snapshot.generationInterval)
    (consistent : ∃ log, Consistent sha256 log engine.outbox)
    (first : FirstTime sha256 generate available now base job window dataset content)
    (waiting : Waiting job window engine.outbox)
    (standing : FirstStanding job dataset content engine.outbox) :
    Complete sha256 job window dataset.artifactId
        ((engineMachine Query sha256).run engine (later.map Regeneration.event)).outbox ↔
      ∃ again ∈ later, SameContent content again := by
  induction later generalizing engine with
  | nil =>
      constructor
      · intro complete
        exact absurd complete (waiting_incomplete positive waiting _)
      · rintro ⟨again, member, -⟩
        cases member
  | cons again later ih =>
      have one := works again List.mem_cons_self
      have rest : ∀ other ∈ later, Works sha256 job window dataset.artifactId other :=
        fun other member => works other (List.mem_cons_of_mem again member)
      have jobs : ((engineMachine Query sha256).next engine again.event).jobs = engine.jobs :=
        (call_after one).1
      rcases standing_tried digest consistent first waiting one standing with ⟨taken, refused⟩
      rw [List.map_cons, Machine.run_cons]
      by_cases same : SameContent content again
      · have checksum := (first_sound first).checksum
        have complete : Complete sha256 job window dataset.artifactId
            ((engineMachine Query sha256).next engine again.event).outbox := by
          apply accepted_after foremost enabled positive first waiting one
          · rw [taken same]
          · rw [taken same]
            exact standing_single consistent checksum first.window standing
        constructor
        · intro _
          exact ⟨again, List.mem_cons_self, same⟩
        · intro _
          exact later_complete (by rwa [jobs]) rest complete positive
      · rcases refused same with ⟨text, refused⟩
        have outbox := refused_after foremost enabled one waiting refused
        rw [ih (by rwa [jobs]) rest (by rwa [outbox]) (by rwa [outbox]) (by rwa [outbox])]
        constructor
        · rintro ⟨other, member, content⟩
          exact ⟨other, List.mem_cons_of_mem again member, content⟩
        · rintro ⟨other, member, content⟩
          rcases List.mem_cons.mp member with here | there
          · rw [here] at content
            exact absurd content same
          · exact ⟨other, there, content⟩

theorem later_orphaned (digest : Digest sha256)
    (positive : 0 < job.snapshot.generationInterval)
    (first : FirstTime sha256 generate available now base job window dataset content)
    (waiting : Waiting job window engine.outbox) (body : Body)
    (orphaned : Orphaned dataset.artifactId job.localOnly content.filename body engine.outbox) :
    ¬ Complete sha256 job window dataset.artifactId
      ((engineMachine Query sha256).run engine (later.map Regeneration.event)).outbox := by
  rw [later_refused foremost enabled works waiting]
  · exact waiting_incomplete positive waiting _
  · intro call member
    exact orphaned_refused digest positive first waiting (works call member) orphaned

theorem later_usurped (digest : Digest sha256)
    (positive : 0 < job.snapshot.generationInterval)
    (first : FirstTime sha256 generate available now base job window dataset content)
    (waiting : Waiting job window engine.outbox)
    (usurped : Usurped dataset.artifactId engine.outbox) :
    ¬ Complete sha256 job window dataset.artifactId
      ((engineMachine Query sha256).run engine (later.map Regeneration.event)).outbox := by
  rw [later_refused foremost enabled works waiting]
  · exact waiting_incomplete positive waiting _
  · intro call member
    exact usurped_refused digest positive first waiting (works call member) usurped

omit works in
theorem later_untouched (digest : Digest sha256)
    (positive : 0 < job.snapshot.generationInterval)
    (consistent : ∃ log, Consistent sha256 log engine.outbox)
    (first : FirstTime sha256 generate available now base job window dataset content)
    (waiting : Waiting job window engine.outbox)
    (works : ∀ call ∈ again :: later, Works sha256 job window dataset.artifactId call)
    (room : engine.outbox.guardAllows again.available again.content.body.length = true)
    (untouched : Untouched dataset.artifactId job.localOnly content.filename engine.outbox) :
    Complete sha256 job window dataset.artifactId ((engineMachine Query sha256).run engine
      ((again :: later).map Regeneration.event)).outbox := by
  have one := works again List.mem_cons_self
  have jobs : ((engineMachine Query sha256).next engine again.event).jobs = engine.jobs :=
    (call_after one).1
  rw [List.map_cons, Machine.run_cons]
  apply later_complete (by rwa [jobs]) _ _ positive
  · intro call member
    exact works call (List.mem_cons_of_mem again member)
  · rcases untouched_accepted digest consistent first waiting one room untouched with
      ⟨accepted, single⟩
    exact accepted_after foremost enabled positive first waiting one accepted single

end Runs

end Again

/-- What a process leaves that ends at a point of its work on a window. -/
def crashed {Query : Type} (sha256 : Body → String) (generate : Datalogger Query)
    (available : Nat) (now : UtcNanoseconds) (outbox : Outbox) (job : ScheduledJob Query)
    (window : UtcWindow) (point : CrashPoint) : Outbox :=
  Steps.last outbox
    ((generateWindow sha256 generate available now outbox job window).1.take point.effects)

def reopened (sha256 : Body → String) (policy : OutboxStoragePolicy) (removable : String → Bool)
    (outbox : Outbox) : Outbox :=
  (machine sha256).run outbox [.crash policy, .call (.initializeOutbox removable)]

/-- A new process, up to its first call of `generate_due`. -/
def restarting {Query : Type} (policy : OutboxStoragePolicy) (removable : String → Bool)
    (restartAt : UtcNanoseconds) (jobs : List (ScheduledJob Query)) : List (EngineEvent Query) :=
  [.restart policy, .outbox (.call (.initializeOutbox removable)), .applyJobs restartAt jobs]

/-- Two outboxes that differ in the watermarks of other jobs at most. -/
structure Alike (jobId : String) (outbox after : Outbox) : Prop where
  tables : Unsent outbox after
  policy : after.policy = outbox.policy
  initialized : after.initialized = outbox.initialized
  watermark : after.watermark jobId = outbox.watermark jobId

/-- The engine of a new process that works on what an old one left. -/
structure Resumed {Query : Type} (sha256 : Body → String) (policy : OutboxStoragePolicy)
    (removable : String → Bool) (job : ScheduledJob Query) (left : Outbox)
    (engine : Engine Query) : Prop where
  foremost : Foremost job engine.jobs
  alike : Alike job.snapshot.jobId (reopened sha256 policy removable left) engine.outbox
  consistent : ∃ log, Consistent sha256 log engine.outbox

section Restart

variable {Query : Type} {sha256 : Body → String} {outbox : Outbox} {job : ScheduledJob Query}
  {policy : OutboxStoragePolicy} {removable : String → Bool}

theorem initialized_ready
    (returned : (outbox.initializeOutbox sha256 removable).2 = .ok ()) :
    ((machine sha256).next outbox (.call (.initializeOutbox removable))).initialized = true := by
  unfold Machine.next machine Outbox.effects
  dsimp only
  unfold Outbox.initializeOutbox at returned ⊢
  split at returned
  · next ready =>
      rw [if_pos ready]
      exact ready
  · next closed =>
      rw [if_neg closed]
      dsimp only at returned ⊢
      split at returned
      · cases returned
      · dsimp only
        rw [Trail.last_append]
        rfl

theorem reopened_watermark (jobId : String) :
    (reopened sha256 policy removable outbox).watermark jobId = outbox.watermark jobId := by
  apply watermark_congr
  rw [reopened, Machine.run_cons, Machine.run_cons, Machine.run_nil]
  apply event_watermarks
  intro watermark
  simp [Event.issued]

theorem alike_refl {jobId : String} : Alike jobId outbox outbox :=
  ⟨⟨rfl, rfl, rfl⟩, rfl, rfl, rfl⟩

theorem alike_trans {jobId : String} {between after : Outbox} (first : Alike jobId outbox between)
    (second : Alike jobId between after) : Alike jobId outbox after := by
  refine ⟨⟨?_, ?_, ?_⟩, ?_, ?_, ?_⟩
  · exact second.tables.artifacts.trans first.tables.artifacts
  · exact second.tables.deliveries.trans first.tables.deliveries
  · exact second.tables.files.trans first.tables.files
  · exact second.policy.trans first.policy
  · exact second.initialized.trans first.initialized
  · exact second.watermark.trans first.watermark

theorem stored_alike {jobId : String} {watermark : JobWatermark} {after : Outbox}
    (different : watermark.jobId ≠ jobId)
    (returned : outbox.storeWatermark watermark = .ok after) : Alike jobId outbox after := by
  rcases storeWatermark_marked returned with ⟨marked, unsent⟩
  refine ⟨unsent, ?_, ?_, ?_⟩
  rotate_left 2
  · rw [marked, if_neg different.symm]
  all_goals
    unfold Outbox.storeWatermark at returned
    split at returned
    · cases returned
    · split at returned
      · cases returned
      · cases returned
        rfl

theorem applyAll_alike {mark : JobWatermark} {now : UtcNanoseconds}
    {statuses : List ScheduledJobStatus} {jobs : List (ScheduledJob Query)}
    (apart : Apart job jobs) (current : currentWatermark outbox job = some mark) :
    Alike job.snapshot.jobId outbox
      ((applyAll now statuses outbox jobs).1.last outbox) := by
  induction jobs generalizing outbox with
  | nil => exact alike_refl
  | cons other jobs ih =>
      have rest : Apart job jobs := fun one member => apart one (List.mem_cons_of_mem other member)
      unfold applyAll
      split
      · exact alike_refl
      · next steps status returned =>
          dsimp only
          rw [steps_last_append]
          have first : Alike job.snapshot.jobId outbox (steps.last outbox) := by
            rcases applyJob_stores returned with
              ⟨-, ⟨-, nothing⟩ | ⟨needs, boundary, stored, -, kept, one⟩⟩
            · rw [nothing]
              exact alike_refl
            · rw [one]
              apply stored_alike _ kept
              rcases apart other List.mem_cons_self needs.1 with same | different
              · subst same
                rcases currentWatermark_some current with ⟨known, revision⟩
                exact absurd revision (needs.2 mark known)
              · exact different
          apply alike_trans first
          apply ih rest
          rw [currentWatermark_congr first.watermark]
          exact current

theorem restart_resumes {start : OutboxStoragePolicy} {restartAt : UtcNanoseconds}
    {jobs : List (ScheduledJob Query)} {mark : JobWatermark}
    (reaches : Reaches sha256 { policy := start } outbox)
    (foremost : Foremost job (sortedJobs jobs))
    (current : currentWatermark outbox job = some mark)
    (applied : (({ outbox := reopened sha256 policy removable outbox } :
      Engine Query).applyJobs restartAt jobs).2.isOk = true) :
    Resumed sha256 policy removable job outbox ((engineMachine Query sha256).run { outbox }
      (restarting policy removable restartAt jobs)) := by
  have reached := reaches_consistent (reaches_trans reaches (engine_reaches sha256
    ({ outbox } : Engine Query) (restarting policy removable restartAt jobs)))
  have known : currentWatermark (reopened sha256 policy removable outbox) job = some mark := by
    rw [currentWatermark_congr (reopened_watermark job.snapshot.jobId)]
    exact current
  unfold Engine.applyJobs at applied
  cases all : (applyAll restartAt [] (reopened sha256 policy removable outbox)
      (sortedJobs jobs)).2 with
  | error failure =>
      dsimp only at applied
      rw [all] at applied
      cases applied
  | ok statuses =>
      have served : (engineMachine Query sha256).run { outbox }
          (restarting policy removable restartAt jobs) = ⟨sortedJobs jobs, statuses,
            (applyAll restartAt [] (reopened sha256 policy removable outbox)
              (sortedJobs jobs)).1.last (reopened sha256 policy removable outbox)⟩ := by
        have last : (EngineEvent.applyJobs restartAt jobs).after sha256
            { outbox := reopened sha256 policy removable outbox } = ⟨sortedJobs jobs, statuses,
              (applyAll restartAt [] (reopened sha256 policy removable outbox)
                (sortedJobs jobs)).1.last (reopened sha256 policy removable outbox)⟩ := by
          simp only [EngineEvent.after, Engine.applyJobs, all, Except.map]
        exact last
      rw [served] at reached ⊢
      exact ⟨foremost, applyAll_alike (foremost_apart foremost) known, reached⟩

theorem reopened_keeps {Holds : Outbox → Prop} {log : List (String × Body)}
    (consistent : Consistent sha256 log outbox)
    (closes : ∀ policy, Holds { outbox with policy, initialized := false })
    (recovers : ∀ before log after, Consistent sha256 log before →
      Effect sha256 before (.initializeOutbox removable) after → Holds before → Holds after) :
    Holds (reopened sha256 policy removable outbox) := by
  have closed := next_consistent (.crash policy) consistent
  rw [reopened, Machine.run_cons, Machine.run_cons, Machine.run_nil]
  apply next_keeps _ closed (closes policy)
  intro before known consistent after _ effect holds
  exact recovers before known after consistent effect holds

variable {generate : Datalogger Query} {available : Nat} {now : UtcNanoseconds} {base : Outbox}
  {window : UtcWindow} {dataset : MeterDataset} {content : GeneratedContent}

theorem written_orphaned (first : FirstTime sha256 generate available now base job window dataset
    content) :
    Orphaned dataset.artifactId job.localOnly content.filename content.body
      (base.writePayload content job.localOnly) := by
  rcases first_steps first with ⟨-, free, insertable, -, -⟩
  refine ⟨file_appended content free, ?_, ?_⟩
  · intro artifact row name
    exact absurd name (insertable.unique artifact row)
  · intro artifact row identity
    exact absurd identity (absent_row first.absent row)

theorem base_standing {log : List (String × Body)} (consistent : Consistent sha256 log base)
    (first : FirstTime sha256 generate available now base job window dataset content) :
    FirstStanding job dataset content ((base.writePayload content job.localOnly).insertManifest
      dataset.toGeneratedDataset content job.channelIds job.localOnly) := by
  rcases first_steps first with ⟨-, -, insertable, -, -⟩
  exact inserted_standing (consistent_written consistent content job.localOnly) insertable

theorem reopened_standing {log : List (String × Body)} (consistent : Consistent sha256 log outbox)
    (first : FirstTime sha256 generate available now base job window dataset content)
    (standing : FirstStanding job dataset content outbox) :
    FirstStanding job dataset content (reopened sha256 policy removable outbox) := by
  apply reopened_keeps consistent
  · intro opened
    exact ⟨standing.row, standing.deliveries, standing.payload⟩
  · intro before known after consistent effect holds
    exact effect_standing consistent (first_sound first) effect holds

theorem reopened_eq : reopened sha256 policy removable outbox = Trail.last
    { outbox with policy, initialized := false }
    (({ outbox with policy, initialized := false } : Outbox).initializeOutbox sha256
      removable).1 := rfl

theorem not_numbered (job : DatalogJobSnapshot Query) (window : UtcWindow) :
    ¬ Numbered (artifactName job window) := by
  rintro ⟨digit, last, hexadecimal⟩
  unfold artifactName at last
  rw [String.toList_append] at last
  cases format : job.format with
  | json =>
      rw [format, List.getLast?_append_of_ne_nil _ (by decide)] at last
      cases last
      revert hexadecimal
      decide
  | csv =>
      rw [format, List.getLast?_append_of_ne_nil _ (by decide)] at last
      cases last
      revert hexadecimal
      decide

end Restart

theorem crashed_eq {Query : Type} {sha256 : Body → String} {generate : Datalogger Query}
    {available : Nat} {now : UtcNanoseconds} {outbox : Outbox} {job : ScheduledJob Query}
    {window : UtcWindow} {dataset : MeterDataset} {content : GeneratedContent}
    (first : FirstTime sha256 generate available now outbox job window dataset content) :
    ∃ stored, ((outbox.writePayload content job.localOnly).insertManifest
        dataset.toGeneratedDataset content job.channelIds job.localOnly).storeWatermark
          ⟨job.snapshot.jobId, job.snapshot.revision, window.finish⟩ = .ok stored ∧
      ∀ point, crashed sha256 generate available now outbox job window point = Trail.last outbox
        ([outbox.writePayload content job.localOnly,
          (outbox.writePayload content job.localOnly).insertManifest dataset.toGeneratedDataset
            content job.channelIds job.localOnly, stored].take point.effects) := by
  rcases first_steps first with ⟨stored, -, -, kept, steps⟩
  refine ⟨stored, kept, ?_⟩
  intro point
  rw [← steps, ← List.map_take]
  rfl

section Points

variable {Query : Type} {sha256 : Body → String} {job : ScheduledJob Query}
  {policy : OutboxStoragePolicy} {removable : String → Bool} {generate : Datalogger Query}
  {available : Nat} {now : UtcNanoseconds} {base left : Outbox} {window : UtcWindow}
  {dataset : MeterDataset} {content : GeneratedContent} {again : Regeneration Query}
  {later : List (Regeneration Query)} {engine : Engine Query}
  (digest : Digest sha256) (positive : 0 < job.snapshot.generationInterval)
  (enabled : job.enabled = true)
  (first : FirstTime sha256 generate available now base job window dataset content)
  (resumed : Resumed sha256 policy removable job left engine)
  (returned : (({ left with policy, initialized := false } : Outbox).initializeOutbox sha256
    removable).2 = .ok ())

include first resumed

include returned in
theorem resumed_waiting (same : left.watermarks = base.watermarks) :
    Waiting job window engine.outbox := by
  rcases dueWindow_some first.due with ⟨mark, current, place, -⟩
  refine ⟨?_, mark, ?_, place.symm⟩
  · rw [resumed.alike.initialized]
    exact initialized_ready returned
  · rw [currentWatermark_congr resumed.alike.watermark,
      currentWatermark_congr (reopened_watermark job.snapshot.jobId),
      currentWatermark_congr (watermark_congr same job.snapshot.jobId)]
    exact current

theorem resumed_standing {log : List (String × Body)} (consistent : Consistent sha256 log left)
    (standing : FirstStanding job dataset content left) :
    FirstStanding job dataset content engine.outbox :=
  standing_congr resumed.alike.tables.artifacts resumed.alike.tables.deliveries
    resumed.alike.tables.files (reopened_standing consistent first standing)

include positive

theorem complete_after_watermark {log : List (String × Body)}
    (consistent : Consistent sha256 log left) (standing : FirstStanding job dataset content left)
    (marked : currentWatermark left job =
      some ⟨job.snapshot.jobId, job.snapshot.revision, window.finish⟩)
    (works : ∀ call ∈ later, Works sha256 job window dataset.artifactId call) :
    Complete sha256 job window dataset.artifactId
      ((engineMachine Query sha256).run engine (later.map Regeneration.event)).outbox := by
  apply later_complete resumed.foremost works _ positive
  refine ⟨⟨⟨job.snapshot.jobId, job.snapshot.revision, window.finish⟩, ?_, le_refl _⟩,
    standing_single resumed.consistent (first_sound first).checksum first.window
      (resumed_standing first resumed consistent standing)⟩
  rw [currentWatermark_congr resumed.alike.watermark,
    currentWatermark_congr (reopened_watermark job.snapshot.jobId)]
  exact marked

include digest enabled returned

theorem complete_after_commit {log : List (String × Body)}
    (consistent : Consistent sha256 log left) (standing : FirstStanding job dataset content left)
    (same : left.watermarks = base.watermarks)
    (works : ∀ call ∈ later, Works sha256 job window dataset.artifactId call) :
    Complete sha256 job window dataset.artifactId
        ((engineMachine Query sha256).run engine (later.map Regeneration.event)).outbox ↔
      ∃ call ∈ later, SameContent content call :=
  later_standing resumed.foremost enabled works digest positive resumed.consistent first
    (resumed_waiting first resumed returned same)
    (resumed_standing first resumed consistent standing)

theorem stuck_after_rename {log : List (String × Body)} (consistent : Consistent sha256 log left)
    (written : left = base.writePayload content job.localOnly)
    (works : ∀ call ∈ later, Works sha256 job window dataset.artifactId call) :
    ¬ Complete sha256 job window dataset.artifactId
      ((engineMachine Query sha256).run engine (later.map Regeneration.event)).outbox := by
  have waiting : Waiting job window engine.outbox :=
    resumed_waiting first resumed returned (by rw [written]; rfl)
  have kept : Orphaned dataset.artifactId job.localOnly content.filename content.body
      (reopened sha256 policy removable left) := by
    apply reopened_keeps consistent
    · intro opened
      have orphaned := written_orphaned first
      rw [← written] at orphaned
      exact ⟨orphaned.payload, orphaned.unsent, orphaned.recovered⟩
    · intro before known after consistent effect holds
      exact effect_orphaned consistent effect holds
  apply later_orphaned resumed.foremost enabled works digest positive first waiting content.body
  rcases resumed.alike.tables with ⟨artifacts, deliveries, files⟩
  constructor
  · rw [Outbox.file?, files]
    exact kept.payload
  · rw [artifacts, deliveries]
    exact kept.unsent
  · rw [artifacts]
    exact kept.recovered

theorem complete_before_rename (same : left = base)
    (works : ∀ call ∈ again :: later, Works sha256 job window dataset.artifactId call)
    (room : (reopened sha256 policy removable left).guardAllows again.available
      again.content.body.length = true) :
    Complete sha256 job window dataset.artifactId ((engineMachine Query sha256).run engine
        ((again :: later).map Regeneration.event)).outbox ↔
      left.stray removable dataset.artifactId = false := by
  have waiting : Waiting job window engine.outbox :=
    resumed_waiting first resumed returned (by rw [same])
  rcases resumed.alike.tables with ⟨artifacts, -, files⟩
  rcases first_steps first with ⟨-, free, insertable, -, -⟩
  rcases writes_shape first.writes with ⟨-, filename, -, extension⟩
  have kind : content.extension = "json" ∨ content.extension = "csv" := by
    rw [extension]
    cases job.snapshot.format with
    | json => exact .inl rfl
    | csv => exact .inr rfl
  have unknown : ∀ artifact ∈ left.artifacts, artifact.artifactId ≠ dataset.artifactId := by
    rw [same]
    exact fun artifact row => absent_row first.absent row
  have proper : safeIdentity dataset.artifactId = true :=
    enqueueArguments_safe (accepted_arguments (first_accepted first))
  cases stray : left.stray removable dataset.artifactId with
  | true =>
      simp only [Bool.true_eq_false, iff_false]
      rcases stray_taken digest rfl returned unknown proper stray with ⟨taken, recovered⟩
      apply later_usurped resumed.foremost enabled works digest positive first waiting
      constructor
      · rw [artifacts, reopened_eq]
        exact taken
      · rw [artifacts, reopened_eq]
        exact recovered
  | false =>
      simp only [iff_true]
      apply later_untouched resumed.foremost enabled digest positive resumed.consistent first
        waiting works
      · unfold Outbox.guardAllows Outbox.payloadBytes at room ⊢
        rw [files, resumed.alike.policy]
        exact room
      · constructor
        · rw [artifacts, reopened_eq, filename]
          apply stray_free digest rfl returned unknown _ stray kind
          · intro artifact row
            rw [← filename]
            apply insertable.unique artifact
            rw [same] at row
            exact row
          · rw [first.named]
            exact not_numbered job.snapshot window
        · rw [Outbox.file?, files, reopened_eq]
          simp only [Outbox.file?, Option.map_eq_none_iff, List.find?_eq_none] at free ⊢
          intro file member
          apply free file
          have kept := initialized_files digest rfl returned file member
          rw [same] at kept
          exact kept

end Points

/-- One job, whose first window is due after 40 seconds, in an outbox with a half-deleted
artifact. -/
def firstJob : List (EngineEvent Unit) :=
  [.outbox (.call (.initializeOutbox (fun _ => true))), .outbox enqueueReport,
    .outbox (.stopped (.erase ["report"] true) 1), .applyJobs 0 [localJob "a"]]

def firstEngine : Engine Unit := (engineMachine Unit lengthDigest).run {} firstJob

def firstWindow : UtcWindow := ⟨0, 10000000000⟩

/-- What the source and the writer give for the first window at a time. -/
def firstDataset (now : UtcNanoseconds) : MeterDataset where
  artifactId := "a-r1-0-10000000000-json"
  jobId := "a"
  jobRevision := 1
  generatedAt := now
  artifactWindow := firstWindow
  productId := "p"
  deviceId := "d"
  sourcePeriod := .basic
  format := .json

def firstContent (now : UtcNanoseconds) : GeneratedContent :=
  contentOf lengthDigest (firstDataset now) (jsonBody (firstDataset now)) "application/json"
    "json"

/-- `generate_due` with its default limit, 100 seconds after the start. -/
def secondTry : Regeneration Unit :=
  ⟨100000000000, 4, namingSource, 1000000000, firstDataset 100000000000,
    firstContent 100000000000⟩

/-- The outbox a process leaves that works on the first window after 40 seconds. -/
def leftAt (point : CrashPoint) : Outbox :=
  crashed lengthDigest namingSource 1000000000 40000000000 firstEngine.outbox (localJob "a")
    firstWindow point

theorem lengthDigest_digest : Digest lengthDigest := by
  have small : ∀ rest, rest < 10 → (String.ofList (List.replicate 63 '0' ++
      [Char.ofNat (48 + rest)])).utf8ByteSize = 64 ∧
        hexadecimal (Char.ofNat (48 + rest)) = true := by
    decide +kernel
  constructor
  · intro body
    exact (small _ (Nat.mod_lt _ (by decide))).1
  · intro body character member
    rw [lengthDigest, String.toList_ofList] at member
    rcases List.mem_append.mp member with zero | digit
    · rw [List.eq_of_mem_replicate zero]
      decide
    · rw [List.mem_singleton.mp digit]
      exact (small _ (Nat.mod_lt _ (by decide))).2

theorem first_writes (now : UtcNanoseconds) :
    writeContent lengthDigest (localJob "a").snapshot.format (firstDataset now) =
      .ok (firstContent now) := by
  unfold writeContent
  rw [if_neg (by simp [firstDataset, localJob]), if_neg (by simp [firstDataset])]
  rfl

theorem first_window_first : FirstTime lengthDigest namingSource 1000000000 40000000000
    firstEngine.outbox (localJob "a") firstWindow (firstDataset 40000000000)
    (firstContent 40000000000) := by
  constructor
  · decide +kernel
  · decide +kernel
  · exact first_writes 40000000000
  · decide +kernel
  · decide +kernel
  · decide +kernel
  · rfl
  · rfl

theorem second_try_works : Works lengthDigest (localJob "a") firstWindow
    (firstDataset 40000000000).artifactId secondTry := by
  constructor
  · decide
  · decide
  · decide +kernel
  · exact first_writes 100000000000
  · rfl
  · rfl
  · rfl

theorem second_tries_work (calls : Nat) : ∀ call ∈ List.replicate calls secondTry,
    Works lengthDigest (localJob "a") firstWindow (firstDataset 40000000000).artifactId call := by
  intro call member
  rw [List.eq_of_mem_replicate member]
  exact second_try_works

theorem first_foremost :
    Foremost (localJob "a") (sortedJobs [localJob "a", localJob "b"]) := by
  refine ⟨[], [localJob "b"], ?_, by simp, ?_⟩
  · apply List.mergeSort_of_pairwise
    simp [localJob]
  · intro other member
    rw [List.mem_singleton.mp member]
    decide

def firstReopened (point : CrashPoint) : Outbox :=
  reopened lengthDigest {} (fun _ => true) (leftAt point)

theorem first_applied (point : CrashPoint) :
    (({ outbox := firstReopened point } : Engine Unit).applyJobs 45000000000
      [localJob "a", localJob "b"]).2.isOk = true := by
  have order : sortedJobs [localJob "a", localJob "b"] = [localJob "a", localJob "b"] := by
    apply List.mergeSort_of_pairwise
    simp [localJob]
  unfold Engine.applyJobs
  rw [order]
  cases point <;> decide +kernel

theorem first_resumes {point : CrashPoint}
    (current : currentWatermark (leftAt point) (localJob "a") = some ⟨"a", 1, 0⟩) :
    Resumed lengthDigest {} (fun _ => true) (localJob "a") (leftAt point)
      ((engineMachine Unit lengthDigest).run { outbox := leftAt point }
        (restarting {} (fun _ => true) 45000000000 [localJob "a", localJob "b"])) :=
  restart_resumes (reaches_trans (engine_reaches lengthDigest { outbox := { policy := {} } }
    firstJob) (generateWindow_reached lengthDigest namingSource 1000000000 40000000000
      firstEngine.outbox (localJob "a") firstWindow point.effects)) first_foremost current
      (first_applied point)

end Msap1.DataSender
