import Msap1.WebBackend.ExportSteps

/-! What one step of the manager may do to a job: nothing but the clean-up, an eviction or a new
position, unless the job is the one that the call or the worker is about. -/

namespace Msap1.WebBackend

open Manager

variable {options : TaskOptions} {sha256 : Bytes → String} {moment : Moment} {m after : Manager}

/-- What may happen to a job that a step is not about. -/
inductive Fate (options : TaskOptions) (moment : Moment) : JobRecord → JobRecord → Prop
  | kept (job : JobRecord) : Fate options moment job job
  | swept (job new : JobRecord) (rest : Fate options moment (swept options moment job) new) :
      Fate options moment job new
  | evicted (job new : JobRecord) (ready : job.ready = true) (idle : job.streaming = false)
      (rest : Fate options moment (evictedRecord job) new) : Fate options moment job new
  | moved (queue : List String) (job new : JobRecord)
      (rest : Fate options moment (numbered queue job) new) : Fate options moment job new

theorem swept_same (job : JobRecord) : SameJob job (swept options moment job) := by
  have tame := swept_tame options moment job
  exact ⟨tame.id, tame.request, tame.key, tame.format, tame.filename⟩

theorem SameJob.trans {first second third : JobRecord} (one : SameJob first second)
    (other : SameJob second third) : SameJob first third :=
  ⟨other.id.trans one.id, other.request.trans one.request, other.key.trans one.key,
    other.format.trans one.format, other.filename.trans one.filename⟩

theorem Fate.same {job new : JobRecord} (fate : Fate options moment job new) :
    SameJob job new := by
  induction fate with
  | kept job => exact ⟨rfl, rfl, rfl, rfl, rfl⟩
  | swept job new rest ih => exact (swept_same job).trans ih
  | evicted job new ready idle rest ih =>
      have first : SameJob job (evictedRecord job) := ⟨rfl, rfl, rfl, rfl, rfl⟩
      exact first.trans ih
  | moved queue job new rest ih => exact (numbered_same queue job).trans ih

theorem Fate.trans {first second third : JobRecord} (one : Fate options moment first second)
    (other : Fate options moment second third) : Fate options moment first third := by
  induction one with
  | kept job => exact other
  | swept job new rest ih => exact .swept job third (ih other)
  | evicted job new ready idle rest ih => exact .evicted job third ready idle (ih other)
  | moved queue job new rest ih => exact .moved queue job third (ih other)

theorem Reclaimed.fate {self : String} (reclaimed : Reclaimed options moment self m after)
    (sound : Sound options sha256 m) :
    ∀ job ∈ m.jobs, ∃ new ∈ after.jobs, Fate options moment job new := by
  induction reclaimed with
  | done m => exact fun job held => ⟨job, held, .kept job⟩
  | swept m after rest ih =>
      intro job held
      rcases ih (cleanupExpired_sound sound) (Manager.swept options moment job)
        (List.mem_map_of_mem held) with ⟨new, member, fate⟩
      exact ⟨new, member, .swept job new fate⟩
  | evicted m after target held ready idle other rest ih =>
      intro job found
      have sounds := evicted_sound sound held ready
      by_cases own : job.id = target.id
      · rw [sound.same found held own]
        rcases ih sounds (evictedRecord target) (changed_mem held) with ⟨new, member, fate⟩
        exact ⟨new, member, .evicted target new ready idle fate⟩
      · exact ih sounds job (other_mem_changed found own)

/-- What `cancel` makes of a job, which nobody streams if it is ready. -/
structure Cancelled (old new : JobRecord) : Prop where
  free : old.state = .ready → old.streaming = false
  same : SameJob old new
  state : new.state = .cancelled
  code : new.dto.errorCode = "conversion_cancelled"

inductive JobChange (options : TaskOptions) (moment : Moment) (sha256 : Bytes → String)
    (m : Manager) (action : Action) (job : JobRecord) : JobRecord → Prop
  | spared {new : JobRecord} (fate : Fate options moment job new) :
      JobChange options moment sha256 m action job new
  | cancelled {owner jobId : String} {middle new : JobRecord} (call : action = .cancel owner jobId)
      (named : job.id = jobId) (own : job.dto.request.owner = owner)
      (found : (m.cleanupExpired options moment).findOwned jobId owner = some middle)
      (fate : Fate options moment job middle) (cancelled : Cancelled middle new) :
      JobChange options moment sha256 m action job new
  | streamed {reader offset limit : Nat} {owner jobId : String} {middle : JobRecord}
      (call : action = .beginRead reader owner jobId offset limit)
      (named : job.id = jobId) (own : job.dto.request.owner = owner)
      (fate : Fate options moment job middle) :
      JobChange options moment sha256 m action job (streamedRecord moment middle)
  | unstreamed {reader : Nat} {failure : Option String} {read : ReadCall}
      (call : action = .endRead reader failure)
      (began : m.reads.find? (fun call => call.reader = reader) = some read)
      (named : job.id = read.jobId)
      (ended : ∀ chunk, m.readArtifact read failure = .ok chunk → chunk.endOfFile = true) :
      JobChange options moment sha256 m action job (unstreamedRecord job)
  | started (call : action = .takeJob) (state : job.state = .queued) :
      JobChange options moment sha256 m action job (runningRecord moment job)
  | progressed {processedFrames totalFrames : Nat}
      (call : action = .progress processedFrames totalFrames) :
      JobChange options moment sha256 m action job (progressed processedFrames totalFrames job)
  | completed {content : Bytes} {profile : String} {frames : Nat} (call : action = .complete)
      (state : job.state = .running) :
      JobChange options moment sha256 m action job
        (readyRecord options moment sha256 content profile frames job)
  | discarded (call : action = .complete) (state : job.state = .cancelled) :
      JobChange options moment sha256 m action job { job with artifact := none }
  | reported (thrown : Thrown) (call : action = .report)
      (phase : m.worker = .failing job.id thrown) :
      JobChange options moment sha256 m action job (failedRecord options moment thrown job)

theorem progressed_same (processedFrames totalFrames : Nat) (job : JobRecord) :
    SameJob job (progressed processedFrames totalFrames job) := by
  have tame := progressed_tame processedFrames totalFrames job
  exact ⟨tame.id, tame.request, tame.key, tame.format, tame.filename⟩

theorem JobChange.same {action : Action} {job new : JobRecord}
    (change : JobChange options moment sha256 m action job new) : SameJob job new := by
  cases change with
  | spared fate => exact fate.same
  | cancelled call named own found fate cancelled => exact fate.same.trans cancelled.same
  | streamed call named own fate => exact fate.same.trans ⟨rfl, rfl, rfl, rfl, rfl⟩
  | unstreamed call began named ended => exact ⟨rfl, rfl, rfl, rfl, rfl⟩
  | started call state => exact ⟨rfl, rfl, rfl, rfl, rfl⟩
  | progressed call => exact progressed_same _ _ job
  | completed call state => exact ⟨rfl, rfl, rfl, rfl, rfl⟩
  | discarded call state => exact ⟨rfl, rfl, rfl, rfl, rfl⟩
  | reported thrown call phase => exact ⟨rfl, rfl, rfl, rfl, rfl⟩

/-- Every job of a manager changes as the step allows. -/
def Changes (options : TaskOptions) (moment : Moment) (sha256 : Bytes → String) (m : Manager)
    (action : Action) (after : Manager) : Prop :=
  ∀ job ∈ m.jobs, ∃ new ∈ after.jobs, JobChange options moment sha256 m action job new

theorem changes_same {action : Action} (jobs : after.jobs = m.jobs) :
    Changes options moment sha256 m action after :=
  fun job held => ⟨job, jobs ▸ held, .spared (.kept job)⟩

theorem changes_swept {action : Action} :
    Changes options moment sha256 m action (m.cleanupExpired options moment) :=
  fun job held => ⟨_, List.mem_map_of_mem held, .spared (.swept job _ (.kept _))⟩

theorem modify_changes {Change : JobRecord → JobRecord → Prop} (jobId : String)
    (change : JobRecord → JobRecord) (kept : ∀ job, Change job job)
    (own : ∀ job ∈ m.jobs, job.id = jobId → Change job (change job)) :
    ∀ job ∈ m.jobs, ∃ new ∈ changed m.jobs jobId change, Change job new := by
  intro job held
  by_cases named : job.id = jobId
  · exact ⟨change job, List.mem_map.mpr ⟨job, held, if_pos named⟩, own job held named⟩
  · exact ⟨job, other_mem_changed held named, kept job⟩

theorem dequeued_changes {Change : JobRecord → JobRecord → Prop} {target new : JobRecord}
    (sound : Sound options sha256 m) (held : target ∈ m.jobs)
    (moved : ∀ queue job, Change job (numbered queue job)) (own : Change target new) :
    ∀ job ∈ m.jobs, ∃ later ∈ dequeued m target new, Change job later := by
  intro job found
  by_cases named : job.id = target.id
  · rw [sound.same found held named]
    exact ⟨new, dequeued_mem held, own⟩
  · exact ⟨_, other_mem_dequeued found named, moved _ job⟩

theorem changes_modify {action : Action} (jobId : String) (change : JobRecord → JobRecord)
    (jobs : after.jobs = changed m.jobs jobId change)
    (own : ∀ job ∈ m.jobs, job.id = jobId →
      JobChange options moment sha256 m action job (change job)) :
    Changes options moment sha256 m action after := by
  unfold Changes
  rw [jobs]
  exact modify_changes jobId change (fun job => .spared (.kept job)) own

/-- What `cancel` does to the job that it found, and to the others. -/
def CancelChange (options : TaskOptions) (moment : Moment) (target : JobRecord)
    (job new : JobRecord) : Prop :=
  Fate options moment job new ∨ (job = target ∧ Cancelled target new)

theorem cancelJob_changes {target : JobRecord} (sound : Sound options sha256 m)
    (held : target ∈ m.jobs) (listed : target.listed = true) :
    ∀ job ∈ m.jobs, ∃ new ∈ (m.cancelJob options moment target).1.jobs,
      CancelChange options moment target job new := by
  have kept : ∀ job, CancelChange options moment target job job := fun job => .inl (.kept job)
  have ended : target.state = .failed ∨ target.state = .cancelled →
      ∀ job ∈ m.jobs, ∃ new ∈ (m.modify target.id (cancelledRecord options moment)).jobs,
        CancelChange options moment target job new := by
    intro state
    refine modify_changes target.id (cancelledRecord options moment) kept ?_
    intro other found named
    rw [sound.same found held named]
    refine .inr ⟨rfl, ?_, ⟨rfl, rfl, rfl, rfl, rfl⟩, rfl, rfl⟩
    intro ready
    rw [ready] at state
    rcases state with absent | absent <;> cases absent
  unfold cancelJob
  cases state : target.state with
  | queued =>
      simp only [reduceCtorEq, if_true, if_false, false_and]
      have table : ∀ job ∈ m.jobs, ∃ new ∈ dequeued m target
          (cancelledRecord options moment target),
          CancelChange options moment target job new := by
        refine dequeued_changes sound held (fun queue job => .inl (.moved queue job _ (.kept _)))
          (.inr ⟨rfl, ?_, cancelledRecord_same target, rfl, rfl⟩)
        rw [state]
        exact fun absent => nomatch absent
      rw [← dequeued_eq (cancelledRecord options moment) sound held] at table
      exact table
  | running =>
      simp only [reduceCtorEq, if_true, if_false, false_and]
      have table : ∀ job ∈ m.jobs, ∃ new ∈ changed m.jobs target.id
            (fun job => cancelledRecord options moment (stoppedRecord job)),
          CancelChange options moment target job new := by
        refine modify_changes target.id _ kept ?_
        intro other found named
        rw [sound.same found held named]
        refine .inr ⟨rfl, ?_, ⟨rfl, rfl, rfl, rfl, rfl⟩, rfl, rfl⟩
        rw [state]
        exact fun absent => nomatch absent
      have both : ((m.modify target.id stoppedRecord).modify target.id
          (cancelledRecord options moment)).jobs = changed m.jobs target.id
            (fun job => cancelledRecord options moment (stoppedRecord job)) := by
        change (m.jobs.map _).map _ = m.jobs.map _
        rw [List.map_map]
        apply List.map_congr_left
        intro other _
        dsimp only [Function.comp]
        by_cases named : other.id = target.id
        · simp only [named, if_true]
          exact if_pos named
        · simp only [named, if_false]
      rw [both]
      exact table
  | ready =>
      have backed := (sound.jobs target held).ready (ready_iff.mpr ⟨listed, state⟩)
      simp only [reduceCtorEq, if_false, true_and, backed.1, Option.isSome_some, if_true]
      split
      · exact fun job found => ⟨job, found, kept job⟩
      · next idle =>
          split
          · refine modify_changes target.id (fun job =>
              cancelledRecord options moment { job with artifact := none }) kept ?_
            intro other found named
            rw [sound.same found held named]
            exact .inr ⟨rfl, fun _ => Bool.eq_false_iff.mpr idle, ⟨rfl, rfl, rfl, rfl, rfl⟩,
              rfl, rfl⟩
          · exact fun job found => ⟨job, found, kept job⟩
  | failed =>
      simp only [reduceCtorEq, if_false, false_and]
      exact ended (.inl state)
  | cancelled =>
      simp only [reduceCtorEq, if_false, false_and]
      exact ended (.inr state)

theorem cancel_changes (sound : Sound options sha256 m) (owner jobId : String) :
    Changes options moment sha256 m (.cancel owner jobId)
      (m.cancel options moment owner jobId).1 := by
  unfold cancel
  split
  · exact changes_same rfl
  · dsimp only
    split
    · exact changes_swept
    · next job found =>
        rcases findOwned_mem found with ⟨held, rfl, listed, rfl⟩
        intro old member
        have first : Fate options moment old (swept options moment old) := .swept old _ (.kept _)
        rcases cancelJob_changes (cleanupExpired_sound sound) held listed
          (swept options moment old) (List.mem_map_of_mem member) with
          ⟨new, present, fate | ⟨rfl, cancelled⟩⟩
        · exact ⟨new, present, .spared (first.trans fate)⟩
        · exact ⟨new, present, .cancelled rfl first.same.id.symm
            (congrArg _ first.same.request).symm found first cancelled⟩

theorem beginRead_changes (sound : Sound options sha256 m) (reader : Nat) (owner jobId : String)
    (offset limit : Nat) :
    Changes options moment sha256 m (.beginRead reader owner jobId offset limit)
      (m.beginRead options moment reader owner jobId offset limit).1 := by
  unfold beginRead
  split
  · exact changes_same rfl
  · split
    · exact changes_same rfl
    · split
      · exact changes_same rfl
      · dsimp only
        split
        · exact changes_swept
        · next job found =>
            rcases findOwned_mem found with ⟨held, rfl, listed, rfl⟩
            split
            · exact changes_swept
            · split
              · exact changes_swept
              · intro old member
                have same : SameJob old (swept options moment old) := swept_same old
                have present : swept options moment old ∈ m.jobs.map (swept options moment) :=
                  List.mem_map_of_mem member
                by_cases named : (swept options moment old).id = job.id
                · refine ⟨streamedRecord moment (swept options moment old),
                    List.mem_map.mpr ⟨_, present, if_pos named⟩, ?_⟩
                  have own : swept options moment old = job :=
                    (cleanupExpired_sound sound).same present held named
                  refine .streamed rfl (same.id.symm.trans named) ?_ (.swept old _ (.kept _))
                  rw [← same.request, own]
                · exact ⟨_, List.mem_map.mpr ⟨_, present, if_neg named⟩,
                    .spared (.swept old _ (.kept _))⟩

theorem endRead_changes (reader : Nat) (failure : Option String) :
    Changes options moment sha256 m (.endRead reader failure)
      (m.endRead reader failure).1 := by
  unfold endRead
  split
  · exact changes_same rfl
  · next call began =>
      dsimp only
      split
      · next thrown failed =>
          refine changes_modify call.jobId unstreamedRecord rfl ?_
          intro job _ named
          refine .unstreamed rfl began named ?_
          intro chunk read
          rw [failed] at read
          cases read
      · next chunk read =>
          dsimp only
          split
          · next ended =>
              refine changes_modify call.jobId unstreamedRecord rfl ?_
              intro job _ named
              refine .unstreamed rfl began named ?_
              intro other again
              rw [read] at again
              cases again
              exact ended
          · exact changes_same rfl

theorem submit_changes (sound : Sound options sha256 m) (request : ExportRequest)
    (source : SourceOutcome) (jobId : String) :
    Changes options moment sha256 m (.submit request source jobId)
      (m.submit options moment request source jobId).1 := by
  have swept : Sound options sha256 (m.cleanupExpired options moment) := cleanupExpired_sound sound
  have reclaims : ∀ {later : Manager},
      Reclaimed options moment jobId (m.cleanupExpired options moment) later →
        ∀ job ∈ m.jobs, ∃ new ∈ later.jobs, Fate options moment job new := by
    intro later reclaimed
    exact Reclaimed.fate (.swept m later reclaimed) sound
  have spared : ∀ {later : Manager},
      (∀ job ∈ m.jobs, ∃ new ∈ later.jobs, Fate options moment job new) →
        Changes options moment sha256 m (.submit request source jobId) later := by
    intro later fates job held
    rcases fates job held with ⟨new, member, fate⟩
    exact ⟨new, member, .spared fate⟩
  unfold submit
  split
  · exact changes_same rfl
  · split
    · exact changes_same rfl
    · dsimp only
      split
      · exact changes_swept
      · split
        · exact changes_swept
        · split
          · next later message prepared =>
              exact spared (reclaims (prepareWrite_reclaimed prepared).1)
          · next later thrown prepared =>
              exact spared (reclaims (prepareWrite_reclaimed prepared).1)
          · next later prepared =>
              apply spared
              intro job held
              rcases reclaims (prepareWrite_reclaimed prepared).1 job held with
                ⟨new, member, fate⟩
              exact ⟨_, appended_mem (.inl member), fate.trans (.moved _ new _ (.kept _))⟩

theorem lookup_changes (request : ExportRequest) :
    Changes options moment sha256 m (.lookup request) (m.lookup options moment request).1 := by
  unfold lookup
  split
  · exact changes_same rfl
  · dsimp only
    split
    · exact changes_swept
    · split <;> exact changes_swept

theorem status_changes (owner jobId : String) :
    Changes options moment sha256 m (.status owner jobId)
      (m.status options moment owner jobId).1 := by
  unfold status
  split
  · exact changes_same rfl
  · dsimp only
    split <;> exact changes_swept

theorem takeJob_changes (sound : Sound options sha256 m) :
    Changes options moment sha256 m .takeJob (m.takeJob moment) := by
  have taken : m.takeJob moment = m ∨ _ := takeJob_started sound
  rcases taken with same | ⟨job, held, state, idle, started⟩
  · exact changes_same (congrArg Manager.jobs same)
  · unfold Changes
    rw [started]
    exact dequeued_changes sound held (fun queue job => .spared (.moved queue job _ (.kept _)))
      (.started rfl state)

theorem startWrite_changes (sound : Sound options sha256 m) (bytes : Bytes) :
    Changes options moment sha256 m (.startWrite bytes) (m.startWrite options moment bytes) := by
  unfold startWrite
  split
  · next jobId written phase =>
      split
      · next later prepared =>
          intro job held
          rcases (prepareWrite_reclaimed prepared).1.fate sound job held with ⟨new, member, fate⟩
          exact ⟨new, member, .spared fate⟩
      · next later thrown prepared =>
          intro job held
          rcases (prepareWrite_reclaimed prepared).1.fate sound job held with ⟨new, member, fate⟩
          refine ⟨new, ?_, .spared fate⟩
          unfold unwound
          dsimp only
          split <;> exact member
  · exact changes_same rfl

theorem unwound_jobs (jobId : String) (thrown : Thrown) :
    (m.unwound moment jobId thrown).jobs = m.jobs := by
  unfold unwound
  dsimp only
  split <;> rfl

theorem openSink_changes (failure : Option String) :
    Changes options moment sha256 m (.openSink failure) (m.openSink failure) := by
  unfold openSink
  split
  · split <;> exact changes_same rfl
  · exact changes_same rfl

theorem continueWrite_changes (count : Nat) :
    Changes options moment sha256 m (.continueWrite count) (m.continueWrite count) := by
  unfold continueWrite
  split <;> exact changes_same rfl

theorem progress_changes (processedFrames totalFrames : Nat) :
    Changes options moment sha256 m (.progress processedFrames totalFrames)
      (m.progress processedFrames totalFrames) := by
  unfold progress
  split
  · next jobId written granted phase =>
      exact changes_modify jobId (progressed processedFrames totalFrames) rfl
        (fun job _ _ => .progressed rfl)
  · exact changes_same rfl

theorem throwFrom_changes (thrown : Thrown) :
    Changes options moment sha256 m (.throwFrom thrown) (m.throwFrom moment thrown) := by
  unfold throwFrom
  split
  · exact changes_same (unwound_jobs _ _)
  · exact changes_same rfl

theorem finish_changes (profile : String) (frames : Nat) (publication : Publication) :
    Changes options moment sha256 m (.finish profile frames publication)
      (m.finish moment profile frames publication) := by
  unfold finish
  split
  · split
    · exact changes_same rfl
    · split
      · exact changes_same (unwound_jobs _ _)
      · split
        · exact changes_same (unwound_jobs _ _)
        · exact changes_same (unwound_jobs _ _)
        · exact changes_same rfl
        · exact changes_same rfl
  · exact changes_same rfl

theorem complete_changes (sound : Sound options sha256 m) :
    Changes options moment sha256 m .complete (m.complete options moment sha256) := by
  unfold complete
  split
  · next jobId content profile frames phase =>
      have busy : m.worker.job = some jobId := by
        rw [phase]
        rfl
      split
      · exact changes_same rfl
      · next job found =>
          rcases record_mem found with ⟨held, rfl⟩
          split
          · next gone =>
              split
              · refine changes_modify job.id (fun job => { job with artifact := none }) rfl ?_
                intro other member named
                rw [sound.same member held named]
                exact .discarded rfl gone
              · exact changes_same rfl
          · next alive =>
              refine changes_modify job.id
                (readyRecord options moment sha256 content profile frames) rfl ?_
              intro other member named
              rw [sound.same member held named]
              rcases (worker_job sound held busy).1 with running | gone
              · exact .completed rfl running
              · exact absurd gone alive
  · exact changes_same rfl

theorem report_changes :
    Changes options moment sha256 m .report (m.report options moment) := by
  unfold report
  split
  · next jobId thrown phase =>
      refine changes_modify jobId (failedRecord options moment thrown) rfl ?_
      rintro job _ rfl
      exact .reported thrown rfl phase
  · exact changes_same rfl

theorem next_changes (call : Moment × Action) (sound : Sound options sha256 m) :
    Changes options call.1 sha256 m call.2 ((exportManager options sha256).next m call) := by
  rcases call with ⟨moment, action⟩
  change Changes options moment sha256 m action (m.after options moment sha256 action).1
  cases action with
  | lookup request => exact lookup_changes request
  | submit request source jobId => exact submit_changes sound request source jobId
  | status owner jobId => exact status_changes owner jobId
  | cancel owner jobId => exact cancel_changes sound owner jobId
  | beginRead reader owner jobId offset limit =>
      exact beginRead_changes sound reader owner jobId offset limit
  | endRead reader failure => exact endRead_changes reader failure
  | takeJob => exact takeJob_changes sound
  | openSink failure => exact openSink_changes failure
  | startWrite bytes => exact startWrite_changes sound bytes
  | continueWrite count => exact continueWrite_changes count
  | progress processedFrames totalFrames => exact progress_changes processedFrames totalFrames
  | throwFrom thrown => exact throwFrom_changes thrown
  | finish profile frames publication => exact finish_changes profile frames publication
  | complete => exact complete_changes sound
  | report => exact report_changes

end Msap1.WebBackend
