import Msap1.WebBackend.ExportInvariants

/-! Every critical section and every worker step of the manager keeps the invariant. -/

namespace Msap1.WebBackend

open Manager

variable {options : TaskOptions} {sha256 : Bytes → String} {moment : Moment} {m after : Manager}

section Over

/-- What no step changes of a job. -/
structure SameJob (old new : JobRecord) : Prop where
  id : new.id = old.id
  request : new.dto.request = old.dto.request
  key : new.key = old.key
  format : new.format = old.format
  filename : new.dto.filename = old.dto.filename

theorem jobSound_over {old new : JobRecord} (sound : JobSound sha256 m old)
    (same : SameJob old new)
    (artifact : new.artifact = none ∨ new.artifact = old.artifact)
    (state : new.state = .failed ∨ new.state = .cancelled) (gone : old.id ∉ after.queue)
    (position : new.dto.queuePosition = 0)
    (code : new.state = .cancelled → new.dto.errorCode = "conversion_cancelled") :
    JobSound sha256 after new where
  key := by rw [same.key, same.request, sound.key]
  owner := by rw [same.request]; exact sound.owner
  named := by
    rw [same.id, same.format]
    rcases artifact with none | kept
    · rw [none]
      exact fun _ absent => nomatch absent
    · rw [kept]
      exact sound.named
  waiting := by rcases state with failed | cancelled <;> simp [*]
  queued := by
    rw [same.id]
    rcases state with failed | cancelled
    · rw [failed]
      exact ⟨fun absent => (nomatch absent), fun waiting => absurd waiting gone⟩
    · rw [cancelled]
      exact ⟨fun absent => (nomatch absent), fun waiting => absurd waiting gone⟩
  position := by
    rw [position, same.id, WebBackend.position, if_neg gone]
  running := by rcases state with failed | cancelled <;> simp [*]
  ready := by
    intro ready
    have own := (ready_iff.mp ready).2
    rcases state with failed | cancelled
    · rw [failed] at own
      cases own
    · rw [cancelled] at own
      cases own
  code := code

theorem over_not_live {job : JobRecord} (state : job.state = .failed ∨ job.state = .cancelled) :
    job.live ≠ true := by
  intro live
  have active := (live_iff.mp live).2
  rcases state with failed | cancelled
  · rw [failed] at active
    rcases active with absent | absent | absent <;> cases absent
  · rw [cancelled] at active
    rcases active with absent | absent | absent <;> cases absent

theorem over_artifactBytes {job : JobRecord}
    (state : job.state = .failed ∨ job.state = .cancelled) : job.artifactBytes = 0 := by
  apply if_neg
  intro ready
  have own := (ready_iff.mp ready).2
  rcases state with failed | cancelled
  · rw [failed] at own
    cases own
  · rw [cancelled] at own
    cases own

theorem position_zero {job : JobRecord} (sound : JobSound sha256 m job)
    (state : job.state ≠ .queued) : job.id ∉ m.queue ∧ job.dto.queuePosition = 0 := by
  have gone : job.id ∉ m.queue := fun waiting => state (sound.queued.mpr waiting)
  refine ⟨gone, ?_⟩
  rw [sound.position, position, if_neg gone]

theorem removeFile_other (sound : Sound options sha256 m) {target job : JobRecord}
    (held : target ∈ m.jobs) (other : job.id ≠ target.id) :
    (m.removeFile target.artifact).files (.artifact job.id job.format) =
      m.files (.artifact job.id job.format) := by
  apply if_neg
  intro named
  have file := (sound.jobs target held).named _ named.symm
  rw [ExportFile.artifact.injEq] at file
  exact other file.1

theorem removeFile_part (sound : Sound options sha256 m) {target : JobRecord}
    (held : target ∈ m.jobs) (jobId : String) :
    (m.removeFile target.artifact).files (.part jobId) = m.files (.part jobId) := by
  apply if_neg
  intro named
  cases (sound.jobs target held).named _ named.symm

theorem sound_over {target : JobRecord} (change : JobRecord → JobRecord)
    (sound : Sound options sha256 m) (held : target ∈ m.jobs)
    (jobs : after.jobs = changed m.jobs target.id change) (queue : after.queue = m.queue)
    (worker : after.worker = m.worker)
    (files : after.files = m.files ∨ after.files = (m.removeFile target.artifact).files)
    (same : SameJob target (change target))
    (artifact : (change target).artifact = none ∨ (change target).artifact = target.artifact)
    (state : (change target).state = .failed ∨ (change target).state = .cancelled)
    (cancelled : m.worker.job = some target.id → (change target).state = .cancelled)
    (gone : target.state ≠ .queued) (position : (change target).dto.queuePosition = 0)
    (code : (change target).state = .cancelled →
      (change target).dto.errorCode = "conversion_cancelled") :
    Sound options sha256 after := by
  have parts : ∀ jobId, after.files (.part jobId) = m.files (.part jobId) := by
    intro jobId
    rcases files with kept | removed
    · rw [kept]
    · rw [removed, removeFile_part sound held]
  have others : ∀ job ∈ m.jobs, job.id ≠ target.id →
      after.files (.artifact job.id job.format) = m.files (.artifact job.id job.format) := by
    intro job _ other
    rcases files with kept | removed
    · rw [kept]
    · rw [removed, removeFile_other sound held other]
  have unqueued := (position_zero (sound.jobs target held) gone).1
  refine sound_changed change sound held jobs queue same.id same.key ?_ ?_ ?_ ?_ ?_ ?_ ?_ ?_
  · exact fun live => absurd live (over_not_live state)
  · exact jobSound_over (sound.jobs target held) same artifact state (queue ▸ unqueued) position
      code
  · rw [worker]
    exact fun job found _ => (sound.jobs job found).running
  · exact fun job found other _ => others job found other
  · rw [worker, jobs]
    intro jobId busy
    rcases sound.worker jobId busy with ⟨job, found, named, running⟩
    by_cases own : job.id = target.id
    · refine ⟨change target, changed_mem held, by rw [same.id, ← own, named], .inr ?_⟩
      apply cancelled
      rw [busy, ← named, own]
    · exact ⟨job, other_mem_changed found own, named, running⟩
  · apply sound.output.transfer worker parts
    rw [jobs]
    intro new member running _
    rcases mem_changed sound held member with rfl | ⟨old, other⟩
    · rcases state with failed | cancelled <;> simp_all
    · exact ⟨new, old, rfl, rfl, running, others new old other⟩
  · intro jobId content partial'
    rw [parts jobId] at partial'
    rw [worker]
    exact sound.parts jobId content partial'
  · rw [over_artifactBytes state, worker]
    have quota := sound.quota
    omega

end Over

section Reserve

theorem oldestOf_mem {jobs : List JobRecord} {job : JobRecord}
    (oldest : oldestOf moment jobs = some job) : job ∈ jobs := by
  induction jobs generalizing job with
  | nil => cases oldest
  | cons first jobs ih =>
      rw [oldestOf] at oldest
      split at oldest
      · cases oldest
        exact List.mem_cons_self
      · next best found =>
          split at oldest
          · cases oldest
            exact List.mem_cons_self
          · cases oldest
            exact List.mem_cons_of_mem first (ih found)

theorem candidate_mem {self : String} {job : JobRecord}
    (oldest : oldestOf moment (m.candidates self) = some job) :
    job ∈ m.jobs ∧ job.ready = true ∧ job.streaming = false ∧ job.id ≠ self := by
  have member := oldestOf_mem oldest
  rw [candidates, List.mem_filter] at member
  simpa [and_assoc] using member

theorem evicted_sound {job : JobRecord} (sound : Sound options sha256 m) (held : job ∈ m.jobs)
    (ready : job.ready = true) : Sound options sha256 (m.evicted job) := by
  have state := (ready_iff.mp ready).2
  have queued : job.state ≠ .queued := by
    rw [state]
    decide
  refine sound_over evictedRecord sound held rfl rfl rfl (.inr rfl) ⟨rfl, rfl, rfl, rfl, rfl⟩
    (.inl rfl) (.inl rfl) ?_ queued (position_zero (sound.jobs job held) queued).2
    (fun absent => nomatch absent)
  intro busy
  rcases sound.worker job.id busy with ⟨other, found, same, running⟩
  rw [sound.same found held same, state] at running
  rcases running with absent | absent <;> cases absent

/-- What the clean-up and evictions make of a manager, in favour of one job. -/
inductive Reclaimed (options : TaskOptions) (moment : Moment) (self : String) :
    Manager → Manager → Prop
  | done (m : Manager) : Reclaimed options moment self m m
  | swept (m after : Manager)
      (rest : Reclaimed options moment self (m.cleanupExpired options moment) after) :
      Reclaimed options moment self m after
  | evicted (m after : Manager) (job : JobRecord) (held : job ∈ m.jobs) (ready : job.ready = true)
      (idle : job.streaming = false) (other : job.id ≠ self)
      (rest : Reclaimed options moment self (m.evicted job) after) :
      Reclaimed options moment self m after

variable {self : String}

theorem Reclaimed.sound (reclaimed : Reclaimed options moment self m after)
    (sound : Sound options sha256 m) : Sound options sha256 after := by
  induction reclaimed with
  | done m => exact sound
  | swept m after rest ih => exact ih (cleanupExpired_sound sound)
  | evicted m after job held ready idle other rest ih => exact ih (evicted_sound sound held ready)

theorem Reclaimed.frame (reclaimed : Reclaimed options moment self m after) :
    after.queue = m.queue ∧ after.worker = m.worker ∧ after.reads = m.reads := by
  induction reclaimed with
  | done m => exact ⟨rfl, rfl, rfl⟩
  | swept m after rest ih => exact ih
  | evicted m after job held ready idle other rest ih => exact ih

theorem Reclaimed.ids (reclaimed : Reclaimed options moment self m after) :
    after.jobs.map JobRecord.id = m.jobs.map JobRecord.id := by
  induction reclaimed with
  | done m => rfl
  | swept m after rest ih =>
      rw [ih]
      exact ids_map (fun job _ => (swept_tame options moment job).id)
  | evicted m after job held ready idle other rest ih =>
      rw [ih]
      apply ids_map
      intro job _
      split <;> rfl

theorem Reclaimed.live (reclaimed : Reclaimed options moment self m after) {new : JobRecord}
    (held : new ∈ after.jobs) (live : new.live = true) :
    ∃ old ∈ m.jobs, old.live = true ∧ new.key = old.key := by
  induction reclaimed with
  | done m => exact ⟨new, held, live, rfl⟩
  | swept m after rest ih =>
      rcases ih held with ⟨middle, member, alive, key⟩
      rcases List.mem_map.mp member with ⟨old, found, rfl⟩
      have tame := swept_tame options moment old
      exact ⟨old, found, tame.live alive, key.trans tame.key⟩
  | evicted m after job found ready idle other rest ih =>
      rcases ih held with ⟨middle, member, alive, key⟩
      rcases List.mem_map.mp member with ⟨old, present, rfl⟩
      split at alive
      · exact absurd alive (over_not_live (.inl rfl))
      · next apart =>
          rw [if_neg apart] at key
          exact ⟨old, present, alive, key⟩

theorem reserve_reclaimed {current additional : Nat} {left round : Nat}
    {result : Except Thrown Unit}
    (reserved : reserve options moment self current additional left round m = (after, result)) :
    Reclaimed options moment self m after ∧ (result = .ok () →
      current + additional ≤ options.maximumTotalBytes ∧
        after.readyBytes self ≤ options.maximumTotalBytes - (current + additional)) := by
  induction left generalizing round m with
  | zero =>
      unfold reserve at reserved
      split at reserved
      · cases reserved
        exact ⟨.done _, fun absent => nomatch absent⟩
      · split at reserved
        · next fits =>
            cases reserved
            exact ⟨.done _, fun _ => fits.1⟩
        · cases reserved
          exact ⟨.done _, fun absent => nomatch absent⟩
  | succ left ih =>
      unfold reserve at reserved
      split at reserved
      · cases reserved
        exact ⟨.done _, fun absent => nomatch absent⟩
      · split at reserved
        · next fits =>
            cases reserved
            exact ⟨.done _, fun _ => fits.1⟩
        · cases oldest : oldestOf moment (m.candidates self) with
          | none =>
              simp only [oldest] at reserved
              cases reserved
              exact ⟨.done _, fun absent => nomatch absent⟩
          | some job =>
              simp only [oldest] at reserved
              rcases candidate_mem oldest with ⟨held, ready, idle, other⟩
              split at reserved
              · rcases ih reserved with ⟨rest, fits⟩
                exact ⟨.evicted m after job held ready idle other rest, fits⟩
              · cases reserved
                exact ⟨.done _, fun absent => nomatch absent⟩

theorem prepareWrite_reclaimed {current additional : Nat} {result : Except Thrown Unit}
    (prepared : m.prepareWrite options moment self current additional = (after, result)) :
    Reclaimed options moment self m after ∧ (result = .ok () →
      current + additional ≤ options.maximumTotalBytes ∧
        after.readyBytes self ≤ options.maximumTotalBytes - (current + additional)) := by
  unfold prepareWrite at prepared
  dsimp only at prepared
  split at prepared
  · cases prepared
    exact ⟨.swept m _ (.done _), fun absent => nomatch absent⟩
  · rcases reserve_reclaimed prepared with ⟨rest, fits⟩
    exact ⟨.swept m after rest, fits⟩

theorem prepareWrite_room {current additional : Nat} (sound : Sound options sha256 m)
    (prepared : m.prepareWrite options moment self current additional = (after, .ok ()))
    (unready : ∀ job ∈ after.jobs, job.id = self → job.ready = false) :
    after.artifactBytes + (current + additional) ≤ options.maximumTotalBytes := by
  rcases prepareWrite_reclaimed prepared with ⟨reclaimed, fits⟩
  have room := fits rfl
  rw [readyBytes_eq (reclaimed.sound sound) unready] at room
  omega

end Reserve

section Queue

/-- `update_queue_positions_locked` for one job. -/
def numbered (queue : List String) (job : JobRecord) : JobRecord :=
  if job.id ∈ queue then
    { job with dto := { job.dto with queuePosition := queue.idxOf job.id + 1 } }
  else job

theorem numbered_same (queue : List String) (job : JobRecord) :
    SameJob job (numbered queue job) := by
  unfold numbered
  split <;> exact ⟨rfl, rfl, rfl, rfl, rfl⟩

theorem numbered_state (queue : List String) (job : JobRecord) :
    (numbered queue job).state = job.state ∧ (numbered queue job).listed = job.listed ∧
      (numbered queue job).artifact = job.artifact ∧
      (numbered queue job).dto.bytes = job.dto.bytes ∧
      (numbered queue job).dto.sha256 = job.dto.sha256 := by
  unfold numbered
  split <;> exact ⟨rfl, rfl, rfl, rfl, rfl⟩

theorem numbered_live (queue : List String) (job : JobRecord) :
    (numbered queue job).live = job.live := by
  unfold numbered
  split <;> rfl

theorem numbered_artifactBytes (queue : List String) (job : JobRecord) :
    (numbered queue job).artifactBytes = job.artifactBytes := by
  unfold numbered
  split <;> rfl

theorem numbered_jobSound {job : JobRecord} (sound : JobSound sha256 m job)
    (stays : job.id ∈ after.queue ↔ job.id ∈ m.queue)
    (running : job.state = .running → after.worker.job = some job.id)
    (files : after.files = m.files) : JobSound sha256 after (numbered after.queue job) := by
  have same := numbered_same after.queue job
  rcases numbered_state after.queue job with ⟨state, listed, artifact, bytes, digest⟩
  refine ⟨?_, ?_, ?_, ?_, ?_, ?_, ?_, ?_, ?_⟩
  · rw [same.key, same.request, sound.key]
  · rw [same.request]
    exact sound.owner
  · rw [artifact, same.id, same.format]
    exact sound.named
  · rw [state, listed, artifact, same.id, same.format]
    exact sound.waiting
  · rw [state, same.id, stays]
    exact sound.queued
  · rw [same.id, position, numbered]
    by_cases waiting : job.id ∈ after.queue
    · rw [if_pos waiting, if_pos waiting]
    · rw [if_neg waiting, if_neg waiting, sound.position, position,
        if_neg (fun old => waiting (stays.mpr old))]
  · rw [state, same.id]
    exact running
  · intro ready
    have old : job.ready = true := by
      rcases ready_iff.mp ready with ⟨present, now⟩
      exact ready_iff.mpr ⟨listed ▸ present, state ▸ now⟩
    rcases sound.ready old with ⟨named, content, held, length, hash⟩
    refine ⟨?_, content, ?_, ?_, ?_⟩
    · rw [artifact, same.id, same.format, named]
    · rw [same.id, same.format, files, held]
    · rw [bytes, length]
    · rw [digest, hash]
  · unfold numbered
    split <;> exact sound.code

def dequeued (m : Manager) (target : JobRecord) (new : JobRecord) : List JobRecord :=
  m.jobs.map (fun job => if job.id = target.id then new
    else numbered (m.queue.filter (· ≠ target.id)) job)

theorem mem_dequeued {target new job : JobRecord} (member : job ∈ dequeued m target new) :
    job = new ∨ ∃ old ∈ m.jobs, old.id ≠ target.id ∧
      job = numbered (m.queue.filter (· ≠ target.id)) old := by
  rcases List.mem_map.mp member with ⟨old, found, same⟩
  split at same
  · exact .inl same.symm
  · next other => exact .inr ⟨old, found, other, same.symm⟩

theorem dequeued_mem {target new : JobRecord} (held : target ∈ m.jobs) :
    new ∈ dequeued m target new :=
  List.mem_map.mpr ⟨target, held, if_pos rfl⟩

theorem other_mem_dequeued {target new job : JobRecord} (held : job ∈ m.jobs)
    (other : job.id ≠ target.id) :
    numbered (m.queue.filter (· ≠ target.id)) job ∈ dequeued m target new :=
  List.mem_map.mpr ⟨job, held, if_neg other⟩

/-- A queued job that is cancelled or taken by the idle worker leaves the others in order. -/
theorem sound_dequeued {target : JobRecord} (new : JobRecord) (sound : Sound options sha256 m)
    (held : target ∈ m.jobs) (waiting : target.state = .queued)
    (jobs : after.jobs = dequeued m target new)
    (queue : after.queue = m.queue.filter (· ≠ target.id)) (files : after.files = m.files)
    (same : SameJob target new) (own : JobSound sha256 after new)
    (unready : new.artifactBytes = 0)
    (worker : after.worker = m.worker ∨ m.worker = .idle ∧ after.worker = .starting target.id ∧
      new.state = .running) : Sound options sha256 after := by
  have away : m.worker.job ≠ some target.id := by
    intro busy
    rcases sound.worker target.id busy with ⟨job, found, named, state⟩
    rw [sound.same found held named, waiting] at state
    rcases state with absent | absent <;> cases absent
  have running : ∀ job ∈ m.jobs, job.state = .running → after.worker.job = some job.id := by
    intro job found state
    have busy := (sound.jobs job found).running state
    rcases worker with kept | ⟨idle, -, -⟩
    · rw [kept, busy]
    · rw [idle] at busy
      cases busy
  have live : new.live = true → target.live = true := by
    intro _
    exact live_iff.mpr ⟨((sound.jobs target held).waiting (.inl waiting)).1, .inl waiting⟩
  refine ⟨?_, ?_, ?_, ?_, ?_, ?_, ?_, ?_, ?_⟩
  · have ids : after.jobs.map JobRecord.id = m.jobs.map JobRecord.id := by
      rw [jobs, dequeued]
      apply ids_map
      intro job _
      split
      · next named => rw [same.id, named]
      · exact (numbered_same _ job).id
    rw [ids]
    exact sound.ids
  · rw [jobs]
    intro job member
    rcases mem_dequeued member with rfl | ⟨old, found, other, rfl⟩
    · exact own
    · rw [← queue]
      apply numbered_jobSound (sound.jobs old found) _ (running old found) files
      rw [queue, List.mem_filter, decide_eq_true_eq]
      exact and_iff_left other
  · rw [queue]
    exact sound.distinct.filter _
  · rw [queue, jobs]
    intro jobId listed
    rw [List.mem_filter, decide_eq_true_eq] at listed
    rcases sound.known jobId listed.1 with ⟨job, found, named⟩
    refine ⟨_, other_mem_dequeued found (by rw [named]; exact listed.2), ?_⟩
    rw [(numbered_same _ job).id, named]
  · rw [jobs]
    intro first one second another firstLive secondLive keys
    rcases mem_dequeued one with rfl | ⟨old, found, -, rfl⟩ <;>
      rcases mem_dequeued another with rfl | ⟨rest, also, -, rfl⟩
    · rfl
    · rw [same.id, (numbered_same _ rest).id]
      rw [same.key, (numbered_same _ rest).key] at keys
      exact sound.unique target held rest also (live firstLive)
        (numbered_live _ rest ▸ secondLive) keys
    · rw [same.id, (numbered_same _ old).id]
      rw [same.key, (numbered_same _ old).key] at keys
      exact sound.unique old found target held (numbered_live _ old ▸ firstLive)
        (live secondLive) keys
    · rw [(numbered_same _ old).id, (numbered_same _ rest).id]
      rw [(numbered_same _ old).key, (numbered_same _ rest).key] at keys
      exact sound.unique old found rest also (numbered_live _ old ▸ firstLive)
        (numbered_live _ rest ▸ secondLive) keys
  · rw [jobs]
    intro jobId busy
    rcases worker with kept | ⟨-, taken, state⟩
    · rw [kept] at busy
      rcases sound.worker jobId busy with ⟨job, found, named, state⟩
      have other : job.id ≠ target.id := by
        intro own
        rw [busy, ← named, own] at away
        exact away rfl
      refine ⟨_, other_mem_dequeued found other, ?_, ?_⟩
      · rw [(numbered_same _ job).id, named]
      · rw [(numbered_state _ job).1]
        exact state
    · rw [taken] at busy
      cases busy
      exact ⟨new, dequeued_mem held, same.id, .inl state⟩
  · rcases worker with kept | ⟨-, taken, -⟩
    · apply sound.output.transfer kept (fun jobId => congrFun files _)
      rw [jobs]
      intro job member state busy
      rcases mem_dequeued member with rfl | ⟨old, found, -, rfl⟩
      · rw [same.id] at busy
        exact absurd busy away
      · rw [(numbered_state _ old).1] at state
        exact ⟨old, found, (numbered_same _ old).id.symm, (numbered_same _ old).format.symm, state,
          congrFun files _⟩
    · rw [taken]
      trivial
  · intro jobId content part
    rw [files] at part
    rcases sound.parts jobId content part with ⟨granted, converting⟩
    rcases worker with kept | ⟨idle, -, -⟩
    · exact ⟨granted, kept.trans converting⟩
    · rw [idle] at converting
      cases converting
  · have bytes : after.artifactBytes ≤ m.artifactBytes := by
      unfold Manager.artifactBytes
      rw [jobs, dequeued, List.map_map]
      apply List.sum_le_sum
      intro job found
      dsimp only [Function.comp]
      split
      · rw [unready]
        exact Nat.zero_le _
      · rw [numbered_artifactBytes]
    have reserved : after.worker.reserved = m.worker.reserved := by
      rcases worker with kept | ⟨idle, taken, -⟩
      · rw [kept]
      · rw [idle, taken]
        rfl
    rw [reserved]
    exact (Nat.add_le_add_right bytes _).trans sound.quota

theorem dequeued_eq {target : JobRecord} (change : JobRecord → JobRecord)
    (sound : Sound options sha256 m) (held : target ∈ m.jobs) :
    changed (m.jobs.map (numbered (m.queue.filter (· ≠ target.id)))) target.id change =
      dequeued m target (change target) := by
  have gone : target.id ∉ m.queue.filter (· ≠ target.id) := by
    rw [List.mem_filter, decide_eq_true_eq]
    exact fun waiting => waiting.2 rfl
  rw [dequeued, changed, List.map_map]
  apply List.map_congr_left
  intro other also
  dsimp only [Function.comp]
  rw [(numbered_same _ other).id]
  split
  · next same => rw [sound.same also held same, numbered, if_neg gone]
  · rfl

/-- A job that a request has just put at the end of the queue. -/
structure Submitted (new : JobRecord) : Prop where
  key : new.key = new.dto.request.key
  owner : validOwner new.dto.request.owner
  state : new.state = .queued
  listed : new.listed = true
  artifact : new.artifact = some (.artifact new.id new.format)

theorem submitted_jobSound {new : JobRecord} (submitted : Submitted new)
    (last : new.id ∈ after.queue) : JobSound sha256 after (numbered after.queue new) := by
  have same := numbered_same after.queue new
  rcases numbered_state after.queue new with ⟨state, listed, artifact, -, -⟩
  refine ⟨?_, ?_, ?_, ?_, ?_, ?_, ?_, ?_, ?_⟩
  · rw [same.key, same.request, submitted.key]
  · rw [same.request]
    exact submitted.owner
  · rw [artifact, same.id, same.format, submitted.artifact]
    exact fun _ named => (Option.some.inj named).symm
  · rw [listed, artifact, same.id, same.format]
    exact fun _ => ⟨submitted.listed, submitted.artifact⟩
  · rw [state, same.id]
    exact ⟨fun _ => last, fun _ => submitted.state⟩
  · rw [same.id, position, numbered, if_pos last, if_pos last]
  · rw [state, submitted.state]
    exact fun absent => nomatch absent
  · intro ready
    have other := (ready_iff.mp ready).2
    rw [state, submitted.state] at other
    cases other
  · rw [state, submitted.state]
    exact fun absent => nomatch absent

theorem mem_appended {new job : JobRecord} (member : job ∈ (m.appended new).jobs) :
    ∃ old, (old ∈ m.jobs ∨ old = new) ∧ job = numbered (m.appended new).queue old := by
  rcases List.mem_map.mp member with ⟨old, found, same⟩
  refine ⟨old, ?_, same.symm⟩
  rcases List.mem_append.mp found with old | last
  · exact .inl old
  · exact .inr (List.mem_singleton.mp last)

theorem appended_mem {new job : JobRecord} (found : job ∈ m.jobs ∨ job = new) :
    numbered (m.appended new).queue job ∈ (m.appended new).jobs := by
  apply List.mem_map_of_mem
  rcases found with old | rfl
  · exact List.mem_append_left _ old
  · exact List.mem_append_right _ List.mem_cons_self

theorem appended_sound {new : JobRecord} (sound : Sound options sha256 m)
    (submitted : Submitted new) (fresh : ∀ job ∈ m.jobs, job.id ≠ new.id)
    (only : ∀ job ∈ m.jobs, job.live = true → job.key ≠ new.key) :
    Sound options sha256 (m.appended new) := by
  have ids : (m.appended new).jobs.map JobRecord.id = m.jobs.map JobRecord.id ++ [new.id] := by
    rw [show (m.appended new).jobs = (m.jobs ++ [new]).map (numbered (m.appended new).queue) from
      rfl, ids_map (fun job _ => (numbered_same _ job).id), List.map_append, List.map_singleton]
  have last : new.id ∈ (m.appended new).queue := List.mem_append_right _ List.mem_cons_self
  have absent : new.id ∉ m.queue := by
    intro waiting
    rcases sound.known new.id waiting with ⟨job, found, same⟩
    exact fresh job found same
  have one : ∀ {job : JobRecord}, job ∈ m.jobs ∨ job = new → job.live = true →
      job.key = new.key → job.id = new.id := by
    intro job found live same
    rcases found with old | rfl
    · exact absurd same (only job old live)
    · rfl
  refine ⟨?_, ?_, ?_, ?_, ?_, ?_, ?_, ?_, ?_⟩
  · rw [ids, List.nodup_append]
    refine ⟨sound.ids, List.nodup_singleton _, ?_⟩
    intro jobId found last own
    rcases List.mem_map.mp found with ⟨job, held, rfl⟩
    rw [List.mem_singleton.mp own]
    exact fresh job held
  · intro job member
    rcases mem_appended member with ⟨old, found | rfl, rfl⟩
    · refine numbered_jobSound (sound.jobs old found) ?_ ?_ ?_
      · change old.id ∈ m.queue ++ [new.id] ↔ _
        rw [List.mem_append, List.mem_singleton]
        exact or_iff_left (fresh old found)
      · exact (sound.jobs old found).running
      · rfl
    · exact submitted_jobSound submitted last
  · change (m.queue ++ [new.id]).Nodup
    rw [List.nodup_append]
    refine ⟨sound.distinct, List.nodup_singleton _, ?_⟩
    intro jobId waiting last own same
    rw [List.mem_singleton.mp own] at same
    exact absent (same ▸ waiting)
  · intro jobId waiting
    rcases List.mem_append.mp waiting with old | last
    · rcases sound.known jobId old with ⟨job, found, same⟩
      exact ⟨_, appended_mem (.inl found), (numbered_same _ job).id.trans same⟩
    · rw [List.mem_singleton.mp last]
      exact ⟨_, appended_mem (.inr rfl), (numbered_same _ new).id⟩
  · intro first firstMem second secondMem firstLive secondLive keys
    rcases mem_appended firstMem with ⟨old, found, rfl⟩
    rcases mem_appended secondMem with ⟨rest, also, rfl⟩
    rw [numbered_live] at firstLive secondLive
    rw [(numbered_same _ old).key, (numbered_same _ rest).key] at keys
    rw [(numbered_same _ old).id, (numbered_same _ rest).id]
    rcases found with left | rfl
    · rcases also with right | rfl
      · exact sound.unique old left rest right firstLive secondLive keys
      · exact one (.inl left) firstLive keys
    · exact (one also secondLive keys.symm).symm
  · intro jobId busy
    rcases sound.worker jobId busy with ⟨job, found, same, running⟩
    refine ⟨_, appended_mem (.inl found), (numbered_same _ job).id.trans same, ?_⟩
    rw [(numbered_state _ job).1]
    exact running
  · refine sound.output.transfer ?_ ?_ ?_
    · rfl
    · exact fun _ => rfl
    · intro job member running _
      rcases mem_appended member with ⟨old, found, rfl⟩
      rw [(numbered_state _ old).1] at running
      refine ⟨old, ?_, (numbered_same _ old).id.symm, (numbered_same _ old).format.symm, running,
        rfl⟩
      rcases found with held | rfl
      · exact held
      · rw [submitted.state] at running
        cases running
  · exact sound.parts
  · have unready : new.artifactBytes = 0 := by
      apply if_neg
      intro ready
      have other := (ready_iff.mp ready).2
      rw [submitted.state] at other
      cases other
    have bytes : (m.appended new).artifactBytes = m.artifactBytes := by
      have same : (m.jobs ++ [new]).map
          (JobRecord.artifactBytes ∘ numbered (m.appended new).queue) =
            (m.jobs ++ [new]).map JobRecord.artifactBytes :=
        List.map_congr_left (fun job _ => numbered_artifactBytes _ job)
      unfold Manager.artifactBytes
      rw [show (m.appended new).jobs = (m.jobs ++ [new]).map (numbered (m.appended new).queue) from
        rfl, List.map_map, same, List.map_append, List.sum_append, List.map_singleton,
        List.sum_singleton, unready, Nat.add_zero]
    rw [bytes]
    exact sound.quota

end Queue

section Work

theorem sound_worker (sound : Sound options sha256 m) (jobs : after.jobs = m.jobs)
    (queue : after.queue = m.queue) (worker : after.worker.job = m.worker.job)
    (files : ∀ job ∈ m.jobs, job.ready = true →
      after.files (.artifact job.id job.format) = m.files (.artifact job.id job.format))
    (output : after.worker.Output after)
    (parts : ∀ jobId content, after.files (.part jobId) = some content →
      ∃ granted, after.worker = .converting jobId content granted)
    (quota : m.artifactBytes + after.worker.reserved ≤ options.maximumTotalBytes) :
    Sound options sha256 after where
  ids := by rw [jobs]; exact sound.ids
  jobs := by
    rw [jobs]
    intro job held
    exact (Tame.refl job).jobSound (sound.jobs job held) queue
      (fun running => worker.trans ((sound.jobs job held).running running)) (files job held)
  distinct := by rw [queue]; exact sound.distinct
  known := by rw [queue, jobs]; exact sound.known
  unique := by rw [jobs]; exact sound.unique
  worker := by rw [worker, jobs]; exact sound.worker
  output := output
  parts := parts
  quota := by
    unfold Manager.artifactBytes at quota ⊢
    rw [jobs]
    exact quota

theorem sound_idle (sound : Sound options sha256 m) (jobs : after.jobs = m.jobs)
    (queue : after.queue = m.queue) (files : after.files = m.files) (idle : after.worker = .idle)
    (ended : ∀ job ∈ m.jobs, m.worker.job = some job.id → job.state ≠ .running)
    (closed : ∀ jobId written granted, m.worker ≠ .converting jobId written granted) :
    Sound options sha256 after where
  ids := by rw [jobs]; exact sound.ids
  jobs := by
    rw [jobs]
    intro job held
    refine (Tame.refl job).jobSound (sound.jobs job held) queue ?_ (fun _ => congrFun files _)
    intro running
    exact absurd running (ended job held ((sound.jobs job held).running running))
  distinct := by rw [queue]; exact sound.distinct
  known := by rw [queue, jobs]; exact sound.known
  unique := by rw [jobs]; exact sound.unique
  worker := by rw [idle]; exact fun _ absent => nomatch absent
  output := by rw [idle]; trivial
  parts := by
    rw [files]
    intro jobId content part
    rcases sound.parts jobId content part with ⟨granted, converting⟩
    exact absurd converting (closed jobId content granted)
  quota := by
    have quota := sound.quota
    unfold Manager.artifactBytes at quota ⊢
    rw [jobs, idle]
    exact (Nat.le_add_right _ _).trans quota

theorem worker_job (sound : Sound options sha256 m) {job : JobRecord} (held : job ∈ m.jobs)
    (busy : m.worker.job = some job.id) :
    (job.state = .running ∨ job.state = .cancelled) ∧ job.ready = false ∧
      job.state ≠ .queued := by
  rcases sound.worker job.id busy with ⟨other, found, same, state⟩
  rw [sound.same found held same] at state
  refine ⟨state, ?_, ?_⟩
  · rw [← Bool.not_eq_true, ready_iff]
    rintro ⟨-, ready⟩
    rw [ready] at state
    rcases state with absent | absent <;> cases absent
  · intro queued
    rw [queued] at state
    rcases state with absent | absent <;> cases absent

theorem unwound_sound {jobId : String} {thrown : Thrown} (sound : Sound options sha256 m)
    (busy : m.worker.job = some jobId)
    (own : ∀ other content granted, m.worker = .converting other content granted → other = jobId)
    (removes : moment.removes = true) :
    Sound options sha256 (m.unwound moment jobId thrown) := by
  have files : (m.unwound moment jobId thrown).files =
      (m.removeFile (some (.part jobId))).files := by
    unfold unwound
    rw [if_pos removes]
  have jobs : (m.unwound moment jobId thrown).jobs = m.jobs ∧
      (m.unwound moment jobId thrown).queue = m.queue := by
    unfold unwound
    rw [if_pos removes]
    exact ⟨rfl, rfl⟩
  refine sound_worker sound jobs.1 jobs.2 busy.symm ?_ trivial ?_ ?_
  · rw [files]
    exact fun _ _ _ => rfl
  · rw [files]
    intro other content part
    by_cases same : other = jobId
    · rw [same] at part
      rw [show (m.removeFile (some (.part jobId))).files (.part jobId) = none from if_pos rfl]
        at part
      cases part
    · have kept : m.files (.part other) = some content := by
        rw [← part]
        refine (if_neg ?_).symm
        intro named
        rw [Option.some.injEq, ExportFile.part.injEq] at named
        exact same named
      rcases sound.parts other content kept with ⟨granted, converting⟩
      exact absurd (own other content granted converting) same
  · exact (Nat.le_add_right _ _).trans sound.quota

theorem openSink_sound (sound : Sound options sha256 m) (failure : Option String) :
    Sound options sha256 (m.openSink failure) := by
  unfold openSink
  split
  · next jobId phase =>
      have stopped : ∀ thrown, Sound options sha256 { m with worker := .failing jobId thrown } := by
        intro thrown
        refine sound_worker sound rfl rfl ?_ (fun _ _ _ => rfl) trivial ?_ ?_
        · rw [phase]
          rfl
        · intro other content part
          rcases sound.parts other content part with ⟨granted, converting⟩
          rw [phase] at converting
          cases converting
        · exact (Nat.le_add_right _ _).trans sound.quota
      split
      · refine sound_worker sound rfl rfl ?_ ?_ (if_pos rfl) ?_ ?_
        · rw [phase]
          rfl
        · exact fun _ _ _ => rfl
        · intro other content part
          dsimp only at part
          split at part
          · next same =>
              cases same
              cases part
              exact ⟨[], rfl⟩
          · rcases sound.parts other content part with ⟨granted, converting⟩
            rw [phase] at converting
            cases converting
        · exact (Nat.le_add_right _ _).trans sound.quota
      · exact stopped _
      · exact stopped _
  · exact sound

theorem startWrite_sound (sound : Sound options sha256 m) (bytes : Bytes)
    (removes : moment.removes = true) :
    Sound options sha256 (m.startWrite options moment bytes) := by
  unfold startWrite
  split
  · next jobId written phase =>
      split
      · next later prepared =>
          have reclaimed := (prepareWrite_reclaimed prepared).1
          have reached := reclaimed.sound sound
          have converting : later.worker = .converting jobId written [] :=
            reclaimed.frame.2.1.trans phase
          have room := prepareWrite_room sound prepared (by
            intro job held same
            apply (worker_job reached held _).2.1
            rw [converting, same]
            rfl)
          have output := reached.output
          rw [converting] at output
          refine sound_worker reached rfl rfl ?_ (fun _ _ _ => rfl) output ?_ room
          · rw [converting]
            rfl
          · intro other content part
            rcases reached.parts other content part with ⟨granted, own⟩
            rw [converting] at own
            cases own
            exact ⟨bytes, rfl⟩
      · next later thrown prepared =>
          have reclaimed := (prepareWrite_reclaimed prepared).1
          have converting : later.worker = .converting jobId written [] :=
            reclaimed.frame.2.1.trans phase
          apply unwound_sound (reclaimed.sound sound) _ _ removes
          · rw [converting]
            rfl
          · intro other content granted own
            rw [converting] at own
            cases own
            rfl
  · exact sound

theorem continueWrite_sound (sound : Sound options sha256 m) (count : Nat) :
    Sound options sha256 (m.continueWrite count) := by
  unfold continueWrite
  split
  · next jobId written granted phase =>
      refine sound_worker sound rfl rfl ?_ ?_ (if_pos rfl) ?_ ?_
      · rw [phase]
        rfl
      · exact fun _ _ _ => rfl
      · intro other content part
        dsimp only at part
        split at part
        · next same =>
            cases same
            cases part
            exact ⟨granted.drop count, rfl⟩
        · next apart =>
            rcases sound.parts other content part with ⟨rest, converting⟩
            rw [phase] at converting
            cases converting
            exact absurd rfl apart
      · have quota := sound.quota
        rw [phase] at quota
        simp only [Worker.reserved, List.length_append, List.length_take, List.length_drop]
          at quota ⊢
        omega
  · exact sound

theorem progressed_tame (processedFrames totalFrames : Nat) (job : JobRecord) :
    Tame job (progressed processedFrames totalFrames job) := by
  unfold progressed
  split
  · exact ⟨rfl, rfl, rfl, rfl, rfl, rfl, rfl, rfl, rfl, rfl, rfl,
      fun listed => listed, fun _ => rfl⟩
  · exact Tame.refl job

theorem modify_tame {jobId : String} {change : JobRecord → JobRecord}
    (sound : Sound options sha256 m) (tame : ∀ job, Tame job (change job)) :
    Sound options sha256 (m.modify jobId change) := by
  refine sound_tame sound ?_ rfl rfl rfl (fun _ => rfl) (fun _ _ _ => rfl)
  intro job _
  split
  · exact tame job
  · exact Tame.refl job

theorem progress_sound (sound : Sound options sha256 m) (processedFrames totalFrames : Nat) :
    Sound options sha256 (m.progress processedFrames totalFrames) := by
  unfold progress
  split
  · exact modify_tame sound (fun job => progressed_tame processedFrames totalFrames job)
  · exact sound

theorem throwFrom_sound (sound : Sound options sha256 m) (thrown : Thrown)
    (removes : moment.removes = true) : Sound options sha256 (m.throwFrom moment thrown) := by
  unfold throwFrom
  split
  · next jobId written granted phase =>
      apply unwound_sound sound _ _ removes
      · rw [phase]
        rfl
      · intro other content rest own
        rw [phase] at own
        cases own
        rfl
  · exact sound

/-- The converted file under its own name, with the job about to be completed or to fail. -/
theorem renamed_sound {jobId : String} {written : Bytes} {job : JobRecord} {worker : Worker}
    (sound : Sound options sha256 m) (held : job ∈ m.jobs) (named : job.id = jobId)
    (phase : m.worker = .converting jobId written [])
    (next : (∃ profile frames, worker = .published jobId written profile frames) ∨
      ∃ thrown, worker = .failing jobId thrown) :
    Sound options sha256 { m with
      files := fun file => if file = .artifact job.id job.format then some written
        else if file = .part jobId then none else m.files file
      worker } := by
  have busy : m.worker.job = some job.id := by
    rw [phase, named]
    rfl
  have quota := sound.quota
  rw [phase] at quota
  refine sound_worker sound rfl rfl ?_ ?_ ?_ ?_ ?_
  · rcases next with ⟨profile, frames, rfl⟩ | ⟨thrown, rfl⟩ <;> exact (named ▸ busy).symm
  · intro other found ready
    have apart : other.id ≠ job.id := by
      intro same
      rw [sound.same found held same, (worker_job sound held busy).2.1] at ready
      cases ready
    refine (if_neg ?_).trans (if_neg ?_)
    · rw [ExportFile.artifact.injEq]
      exact fun same => apart same.1
    · exact fun same => nomatch same
  · rcases next with ⟨profile, frames, rfl⟩ | ⟨thrown, rfl⟩
    · intro other found same running
      have own := sound.same found held (same.trans named.symm)
      rw [own, ← named]
      exact if_pos rfl
    · trivial
  · intro other content part
    have kept : (if ExportFile.part other = .part jobId then none else m.files (.part other)) =
        some content := part
    split at kept
    · cases kept
    · next apart =>
        rcases sound.parts other content kept with ⟨granted, converting⟩
        rw [phase] at converting
        cases converting
        exact absurd rfl apart
  · rcases next with ⟨profile, frames, rfl⟩ | ⟨thrown, rfl⟩
    · simpa [Worker.reserved] using quota
    · exact (Nat.le_add_right _ _).trans quota

theorem finish_sound (sound : Sound options sha256 m) (profile : String) (frames : Nat)
    (publication : Publication) (removes : moment.removes = true) :
    Sound options sha256 (m.finish moment profile frames publication) := by
  unfold finish
  split
  · next jobId written phase =>
      have unwinds : ∀ thrown, Sound options sha256 (m.unwound moment jobId thrown) := by
        intro thrown
        apply unwound_sound sound _ _ removes
        · rw [phase]
          rfl
        · intro other content granted own
          rw [phase] at own
          cases own
          rfl
      split
      · exact sound
      · next job found =>
          rcases record_mem found with ⟨held, named⟩
          split
          · exact unwinds _
          · split
            · exact unwinds _
            · exact unwinds _
            · next artifact known =>
                rw [(sound.jobs job held).named artifact known]
                exact renamed_sound sound held named phase (.inr ⟨_, rfl⟩)
            · next artifact known =>
                rw [(sound.jobs job held).named artifact known]
                exact renamed_sound sound held named phase (.inl ⟨profile, frames, rfl⟩)
  · exact sound

theorem ready_sound {jobId : String} {content : Bytes} {profile : String} {frames : Nat}
    {job : JobRecord} (sound : Sound options sha256 m) (held : job ∈ m.jobs)
    (named : job.id = jobId) (phase : m.worker = .published jobId content profile frames)
    (running : job.state = .running) :
    Sound options sha256 { m.modify jobId (readyRecord options moment sha256 content profile frames)
      with worker := .idle } := by
  subst named
  have own := sound.jobs job held
  have queued : job.state ≠ .queued := by
    rw [running]
    decide
  have file : m.files (.artifact job.id job.format) = some content := by
    have output := sound.output
    rw [phase] at output
    exact output job held rfl running
  have busy : m.worker.job = some job.id := by
    rw [phase]
    rfl
  have gone := (position_zero own queued).1
  have waiting := own.waiting (.inr running)
  refine sound_changed (readyRecord options moment sha256 content profile frames) sound held rfl rfl
    rfl rfl ?_ ?_ ?_ (fun _ _ _ _ => rfl) ?_ trivial ?_ ?_
  · intro _
    exact live_iff.mpr ⟨waiting.1, .inr (.inl running)⟩
  · refine ⟨own.key, own.owner, own.named, ?_, ?_, ?_, ?_, ?_, fun absent => nomatch absent⟩
    · rintro (absent | absent) <;> cases absent
    · exact ⟨fun absent => (nomatch absent), fun listed => absurd listed gone⟩
    · exact (if_neg gone).symm
    · exact fun absent => nomatch absent
    · exact fun _ => ⟨waiting.2, content, file, rfl, rfl⟩
  · intro other found apart run
    have also := (sound.jobs other found).running run
    rw [busy] at also
    exact absurd (Option.some.inj also).symm apart
  · exact fun _ absent => nomatch absent
  · intro other part held
    rcases sound.parts other part held with ⟨granted, converting⟩
    rw [phase] at converting
    cases converting
  · have quota := sound.quota
    rw [phase] at quota
    have bytes : (readyRecord options moment sha256 content profile frames job).artifactBytes ≤
        content.length := by
      unfold JobRecord.artifactBytes
      split
      · exact le_refl _
      · exact Nat.zero_le _
    simp only [Worker.reserved] at quota ⊢
    omega

theorem complete_sound (sound : Sound options sha256 m) (removes : moment.removes = true) :
    Sound options sha256 (m.complete options moment sha256) := by
  unfold complete
  split
  · next jobId content profile frames phase =>
      split
      · next absent =>
          rcases sound.worker jobId (by rw [phase]; rfl) with ⟨job, held, named, -⟩
          have found := List.find?_eq_none.mp absent job held
          exact absurd (decide_eq_true named) found
      · next job found =>
          rcases record_mem found with ⟨held, named⟩
          subst named
          have busy : m.worker.job = some job.id := by
            rw [phase]
            rfl
          have state := worker_job sound held busy
          split
          · next cancelled =>
              have gone : Sound options sha256 ((m.removeFile job.artifact).modify job.id
                  (fun job => { job with artifact := none })) :=
                sound_over (fun job => { job with artifact := none }) sound held rfl rfl rfl
                  (.inr rfl) ⟨rfl, rfl, rfl, rfl, rfl⟩ (.inl rfl) (.inr cancelled)
                    (fun _ => cancelled)
                  state.2.2 (position_zero (sound.jobs job held) state.2.2).2
                  (sound.jobs job held).code
              refine sound_idle gone rfl rfl rfl rfl ?_ ?_
              · intro other member own running
                change m.worker.job = some other.id at own
                rcases mem_changed sound held member with rfl | ⟨-, apart⟩
                · have now : job.state = .running := running
                  rw [cancelled] at now
                  cases now
                · rw [busy] at own
                  exact apart (Option.some.inj own).symm
              · intro other written granted converting
                change m.worker = _ at converting
                rw [phase] at converting
                cases converting
          · next active =>
              exact ready_sound sound held rfl phase (state.1.resolve_right active)
  · exact sound

theorem reported_over (thrown : Thrown) :
    (reported thrown).1 = .failed ∨ (reported thrown).1 = .cancelled := by
  cases thrown with
  | conversion code message missing =>
      rw [reported]
      split
      · exact .inr rfl
      · exact .inl rfl
  | _ => exact .inl rfl

theorem reported_code (thrown : Thrown) (state : (reported thrown).1 = .cancelled) :
    (reported thrown).2.1 = "conversion_cancelled" := by
  cases thrown with
  | conversion code message missing =>
      rw [reported] at state ⊢
      dsimp only at state ⊢
      split at state
      · next cancelled =>
          rw [cancelled]
          rfl
      · cases state
  | _ => cases state

theorem report_sound (sound : Sound options sha256 m) :
    Sound options sha256 (m.report options moment) := by
  unfold report
  split
  · next jobId thrown phase =>
      have busy : m.worker.job = some jobId := by
        rw [phase]
        rfl
      rcases sound.worker jobId busy with ⟨job, held, rfl, -⟩
      have state := worker_job sound held busy
      have ended : (failedRecord options moment thrown job).state = .failed ∨
          (failedRecord options moment thrown job).state = .cancelled := reported_over thrown
      have gone := (position_zero (sound.jobs job held) state.2.2).1
      refine sound_changed (failedRecord options moment thrown) sound held rfl rfl rfl rfl
        ?_ ?_ ?_ (fun _ _ _ _ => rfl) ?_ trivial ?_ ?_
      · exact fun live => absurd live (over_not_live ended)
      · exact jobSound_over (sound.jobs job held) ⟨rfl, rfl, rfl, rfl, rfl⟩
          (.inr rfl) ended gone rfl
          (reported_code thrown)
      · intro other found apart run
        have also := (sound.jobs other found).running run
        rw [busy] at also
        exact absurd (Option.some.inj also).symm apart
      · exact fun _ absent => nomatch absent
      · intro other part held
        rcases sound.parts other part held with ⟨granted, converting⟩
        rw [phase] at converting
        cases converting
      · have quota := sound.quota
        rw [over_artifactBytes ended]
        simp only [Worker.reserved]
        omega
  · exact sound

theorem filter_head {jobId : String} {queue : List String} (distinct : (jobId :: queue).Nodup) :
    (jobId :: queue).filter (· ≠ jobId) = queue := by
  rw [List.nodup_cons] at distinct
  rw [List.filter_cons_of_neg (by simp), List.filter_eq_self]
  intro other waiting
  rw [decide_eq_true_eq]
  rintro rfl
  exact distinct.1 waiting

theorem record_eq (sound : Sound options sha256 m) {job : JobRecord} (held : job ∈ m.jobs) :
    m.record job.id = some job := by
  cases found : m.record job.id with
  | none =>
      exact absurd (decide_eq_true rfl) (List.find?_eq_none.mp found job held)
  | some other =>
      rcases record_mem found with ⟨member, same⟩
      rw [sound.same member held same]

theorem takeJob_started (sound : Sound options sha256 m) :
    m.takeJob moment = m ∨ ∃ job ∈ m.jobs, job.state = .queued ∧ m.worker = .idle ∧
      m.takeJob moment = { m with
        jobs := dequeued m job (runningRecord moment job)
        queue := m.queue.filter (· ≠ job.id)
        worker := .starting job.id } := by
  unfold takeJob
  split
  · next jobId queue idle waiting =>
      right
      have listed : jobId ∈ m.queue := by
        rw [waiting]
        exact List.mem_cons_self
      rcases sound.known jobId listed with ⟨job, held, rfl⟩
      have state := (sound.jobs job held).queued.mpr listed
      have rest : m.queue.filter (· ≠ job.id) = queue := by
        have distinct := sound.distinct
        rw [waiting] at distinct ⊢
        exact filter_head distinct
      have gone : job.id ∉ queue := by
        have distinct := sound.distinct
        rw [waiting, List.nodup_cons] at distinct
        exact distinct.1
      have found : (updateQueuePositions { m with queue }).record job.id = some job := by
        have first := record_eq sound held
        unfold record at first ⊢
        rw [show (updateQueuePositions { m with queue }).jobs =
          m.jobs.map (numbered queue) from rfl,
          List.find?_map]
        have same : ((fun job' => decide (job'.id = job.id)) ∘ numbered queue) =
            (fun job' : JobRecord => decide (job'.id = job.id)) := by
          funext other
          dsimp only [Function.comp]
          rw [(numbered_same queue other).id]
        rw [same, first]
        change some (numbered queue job) = some job
        rw [numbered, if_neg gone]
      have table := dequeued_eq (runningRecord moment) sound held
      rw [rest] at table
      refine ⟨job, held, state, idle, ?_⟩
      dsimp only
      rw [found]
      dsimp only
      rw [if_neg (by rw [state]; decide), rest, ← table]
      rfl
  · exact .inl rfl

theorem takeJob_sound (sound : Sound options sha256 m) :
    Sound options sha256 (m.takeJob moment) := by
  have taken : m.takeJob moment = m ∨ _ := takeJob_started sound
  rcases taken with same | ⟨job, held, state, idle, started⟩
  · rw [same]
    exact sound
  · rw [started]
    have own := sound.jobs job held
    have waits := own.waiting (.inl state)
    have gone : job.id ∉ m.queue.filter (· ≠ job.id) := by
      rw [List.mem_filter, decide_eq_true_eq]
      exact fun waiting => waiting.2 rfl
    refine sound_dequeued (runningRecord moment job) sound held state rfl rfl rfl
      ⟨rfl, rfl, rfl, rfl, rfl⟩ ?_ ?_ (.inr ⟨idle, rfl, rfl⟩)
    · refine ⟨own.key, own.owner, own.named, ?_, ?_, ?_, fun _ => rfl, ?_,
        fun absent => nomatch absent⟩
      · exact fun _ => waits
      · exact ⟨fun absent => (nomatch absent), fun again => absurd again gone⟩
      · exact (if_neg gone).symm
      · intro ready
        cases (ready_iff.mp ready).2
    · apply if_neg
      intro ready
      cases (ready_iff.mp ready).2

end Work

section Calls

theorem cancelledRecord_same (job : JobRecord) :
    SameJob job (cancelledRecord options moment job) := ⟨rfl, rfl, rfl, rfl, rfl⟩

theorem cancelled_sound {job : JobRecord} (sound : Sound options sha256 m) (held : job ∈ m.jobs)
    (queued : job.state ≠ .queued) :
    Sound options sha256 (m.modify job.id (cancelledRecord options moment)) :=
  sound_over (cancelledRecord options moment) sound held rfl rfl rfl (.inl rfl)
    (cancelledRecord_same job) (.inr rfl) (.inr rfl) (fun _ => rfl) queued rfl (fun _ => rfl)

theorem stopped_tame (job : JobRecord) : Tame job (stoppedRecord job) :=
  ⟨rfl, rfl, rfl, rfl, rfl, rfl, rfl, rfl, rfl, rfl, rfl, fun listed => listed, fun _ => rfl⟩

theorem unqueued_sound {job : JobRecord} (sound : Sound options sha256 m) (held : job ∈ m.jobs)
    (queued : job.state = .queued) :
    Sound options sha256 ((updateQueuePositions { m with
      queue := m.queue.filter (· ≠ job.id) }).modify job.id (cancelledRecord options moment)) := by
  have gone : job.id ∉ m.queue.filter (· ≠ job.id) := by
    rw [List.mem_filter, decide_eq_true_eq]
    exact fun waiting => waiting.2 rfl
  refine sound_dequeued (cancelledRecord options moment job) sound held queued
    (dequeued_eq _ sound held) rfl rfl (cancelledRecord_same job) ?_ ?_ (.inl rfl)
  · exact jobSound_over (sound.jobs job held) (cancelledRecord_same job) (.inr rfl) (.inr rfl) gone
      rfl (fun _ => rfl)
  · exact over_artifactBytes (.inr rfl)

theorem cancelJob_sound {job : JobRecord} (sound : Sound options sha256 m) (held : job ∈ m.jobs)
    (listed : job.listed = true) : Sound options sha256 (m.cancelJob options moment job).1 := by
  unfold cancelJob
  cases state : job.state with
  | queued =>
      simp only [reduceCtorEq, if_true, if_false, false_and]
      exact unqueued_sound sound held state
  | running =>
      simp only [reduceCtorEq, if_true, if_false, false_and]
      have stopped : Sound options sha256 (m.modify job.id stoppedRecord) :=
        modify_tame sound stopped_tame
      have member : stoppedRecord job ∈ (m.modify job.id stoppedRecord).jobs :=
        List.mem_map.mpr ⟨job, held, if_pos rfl⟩
      have queued : (stoppedRecord job).state ≠ .queued := by
        change job.state ≠ .queued
        rw [state]
        decide
      have cancelled : Sound options sha256 ((m.modify job.id stoppedRecord).modify
          (stoppedRecord job).id (cancelledRecord options moment)) :=
        cancelled_sound stopped member queued
      exact cancelled
  | ready =>
      have queued : job.state ≠ .queued := by
        rw [state]
        decide
      have backed := (sound.jobs job held).ready (ready_iff.mpr ⟨listed, state⟩)
      simp only [reduceCtorEq, if_false, true_and, backed.1, Option.isSome_some, if_true]
      split
      · exact sound
      · split
        · exact sound_over (fun job => cancelledRecord options moment { job with artifact := none })
            sound held rfl rfl rfl (.inr (by rw [backed.1]; rfl)) ⟨rfl, rfl, rfl, rfl, rfl⟩
              (.inl rfl)
            (.inr rfl) (fun _ => rfl) queued rfl (fun _ => rfl)
        · exact sound
  | failed =>
      simp only [reduceCtorEq, if_false, false_and]
      exact cancelled_sound sound held (by rw [state]; decide)
  | cancelled =>
      simp only [reduceCtorEq, if_false, false_and]
      exact cancelled_sound sound held (by rw [state]; decide)

theorem reads_sound (sound : Sound options sha256 m) (reads : List ReadCall) :
    Sound options sha256 { m with reads } :=
  sound_tame sound (fun job _ => Tame.refl job) (List.map_id' m.jobs).symm rfl rfl (fun _ => rfl)
    (fun _ _ _ => rfl)

theorem beginRead_sound (sound : Sound options sha256 m) (reader : Nat) (owner jobId : String)
    (offset limit : Nat) :
    Sound options sha256 (m.beginRead options moment reader owner jobId offset limit).1 := by
  have swept : Sound options sha256 (m.cleanupExpired options moment) := cleanupExpired_sound sound
  unfold beginRead
  split
  · exact sound
  · split
    · exact sound
    · split
      · exact sound
      · dsimp only
        split
        · exact swept
        · split
          · exact swept
          · split
            · exact swept
            · apply reads_sound
              apply modify_tame swept
              exact fun job => ⟨rfl, rfl, rfl, rfl, rfl, rfl, rfl, rfl, rfl, rfl, rfl,
                fun listed => listed, fun _ => rfl⟩

theorem unstreamed_sound (sound : Sound options sha256 m) (jobId : String) :
    Sound options sha256 (m.unstreamed jobId) :=
  modify_tame sound (fun _ => ⟨rfl, rfl, rfl, rfl, rfl, rfl, rfl, rfl, rfl, rfl, rfl,
    fun listed => listed, fun _ => rfl⟩)

theorem endRead_sound (sound : Sound options sha256 m) (reader : Nat) (failure : Option String) :
    Sound options sha256 (m.endRead reader failure).1 := by
  unfold endRead
  split
  · exact sound
  · dsimp only
    split
    · exact unstreamed_sound (reads_sound sound _) _
    · dsimp only
      split
      · exact unstreamed_sound (reads_sound sound _) _
      · exact reads_sound sound _

theorem parseRequest_owner {request : ExportRequest} {parsed : ParsedRequest}
    (accepted : parseRequest request = .ok parsed) : validOwner request.owner = true := by
  unfold parseRequest at accepted
  rcases Loops.bind_ok accepted with ⟨checked, owner, -⟩
  unfold validateOwner at owner
  split at owner
  · assumption
  · cases owner

theorem activeJob_none {key : String} (absent : m.activeJob key = none) :
    ∀ job ∈ m.jobs, job.live = true → job.key ≠ key := by
  intro job held live same
  have found := List.find?_eq_none.mp absent job held
  rw [live, same, decide_eq_true rfl] at found
  exact found rfl

theorem newRecord_submitted {request : ExportRequest} {parsed : ParsedRequest}
    (accepted : parseRequest request = .ok parsed) (frames : Nat) (jobId : String) :
    Submitted (newRecord moment request parsed frames jobId) :=
  ⟨rfl, parseRequest_owner accepted, rfl, rfl, rfl⟩

theorem cleanupExpired_ids :
    (m.cleanupExpired options moment).jobs.map JobRecord.id = m.jobs.map JobRecord.id :=
  ids_map (fun job _ => (swept_tame options moment job).id)

theorem submit_sound (sound : Sound options sha256 m) (request : ExportRequest)
    (source : SourceOutcome) (jobId : String) (fresh : ∀ job ∈ m.jobs, job.id ≠ jobId) :
    Sound options sha256 (m.submit options moment request source jobId).1 := by
  have swept : Sound options sha256 (m.cleanupExpired options moment) := cleanupExpired_sound sound
  unfold submit
  split
  · exact sound
  · next parsed accepted =>
      split
      · exact sound
      · next frames opened =>
          dsimp only
          split
          · exact swept
          · next absent =>
              split
              · exact swept
              · split
                · next later message prepared =>
                    exact (prepareWrite_reclaimed prepared).1.sound swept
                · next later thrown prepared =>
                    exact (prepareWrite_reclaimed prepared).1.sound swept
                · next later prepared =>
                    have reclaimed := (prepareWrite_reclaimed prepared).1
                    refine appended_sound (reclaimed.sound swept)
                      (newRecord_submitted accepted frames jobId) ?_ ?_
                    · intro job held same
                      have old : job.id ∈ later.jobs.map JobRecord.id := List.mem_map_of_mem held
                      rw [reclaimed.ids, cleanupExpired_ids] at old
                      rcases List.mem_map.mp old with ⟨other, member, named⟩
                      exact fresh other member (named.trans same)
                    · intro job held live same
                      rcases reclaimed.live held live with ⟨old, member, alive, key⟩
                      exact activeJob_none absent old member alive (key.symm.trans same)

theorem lookup_sound (sound : Sound options sha256 m) (request : ExportRequest) :
    Sound options sha256 (m.lookup options moment request).1 := by
  unfold lookup
  split
  · exact sound
  · dsimp only
    split
    · exact cleanupExpired_sound sound
    · split <;> exact cleanupExpired_sound sound

theorem status_sound (sound : Sound options sha256 m) (owner jobId : String) :
    Sound options sha256 (m.status options moment owner jobId).1 := by
  unfold status
  split
  · exact sound
  · dsimp only
    split <;> exact cleanupExpired_sound sound

theorem cancel_sound (sound : Sound options sha256 m) (owner jobId : String) :
    Sound options sha256 (m.cancel options moment owner jobId).1 := by
  unfold cancel
  split
  · exact sound
  · dsimp only
    split
    · exact cleanupExpired_sound sound
    · next job found =>
        rcases findOwned_mem found with ⟨held, -, listed, -⟩
        exact cancelJob_sound (cleanupExpired_sound sound) held listed

end Calls

/-- Removals succeed, and a new job has an id that none had before. -/
def Orderly (m : Manager) (call : Moment × Action) : Prop :=
  call.1.removes = true ∧ match call.2 with
    | .submit _ _ jobId => ∀ job ∈ m.jobs, job.id ≠ jobId
    | _ => True

instance (m : Manager) (call : Moment × Action) : Decidable (Orderly m call) := by
  unfold Orderly
  cases call.2 <;> infer_instance

theorem next_sound (call : Moment × Action) (orderly : Orderly m call)
    (sound : Sound options sha256 m) :
    Sound options sha256 ((exportManager options sha256).next m call) := by
  rcases call with ⟨moment, action⟩
  rcases orderly with ⟨removes, fresh⟩
  change Sound options sha256 (m.after options moment sha256 action).1
  cases action with
  | lookup request => exact lookup_sound sound request
  | submit request source jobId => exact submit_sound sound request source jobId fresh
  | status owner jobId => exact status_sound sound owner jobId
  | cancel owner jobId => exact cancel_sound sound owner jobId
  | beginRead reader owner jobId offset limit =>
      exact beginRead_sound sound reader owner jobId offset limit
  | endRead reader failure => exact endRead_sound sound reader failure
  | takeJob => exact takeJob_sound sound
  | openSink failure => exact openSink_sound sound failure
  | startWrite bytes => exact startWrite_sound sound bytes removes
  | continueWrite count => exact continueWrite_sound sound count
  | progress processedFrames totalFrames => exact progress_sound sound processedFrames totalFrames
  | throwFrom thrown => exact throwFrom_sound sound thrown removes
  | finish profile frames publication => exact finish_sound sound profile frames publication removes
  | complete => exact complete_sound sound removes
  | report => exact report_sound sound

theorem run_sound (calls : List (Moment × Action))
    (orderly : (exportManager options sha256).Along Orderly {} calls) :
    Sound options sha256 ((exportManager options sha256).run {} calls) :=
  (exportManager options sha256).along_invariant Orderly (Sound options sha256)
    (fun _ call orderly sound => next_sound call orderly sound) {} sound_empty calls orderly

end Msap1.WebBackend
