import Msap1.WebBackend.ExportTaskManager

/-! What every interleaving of calls and worker steps keeps: one live job for each key, queue
positions in the order of the queue, files behind every ready job, and the total of their bytes
within its limit. -/

namespace Msap1.WebBackend

/-- The position that a queue gives to a job, zero outside of it. -/
def position (queue : List String) (jobId : String) : Nat :=
  if jobId ∈ queue then queue.idxOf jobId + 1 else 0

def JobRecord.artifactBytes (job : JobRecord) : Nat := if job.ready then job.dto.bytes else 0

def Worker.reserved : Worker → Nat
  | .converting _ written granted => written.length + granted.length
  | .published _ content _ _ => content.length
  | _ => 0

def Manager.partialBytes (m : Manager) : Nat :=
  match m.worker with
  | .converting jobId _ _ => ((m.files (.part jobId)).map List.length).getD 0
  | _ => 0

def Manager.artifactBytes (m : Manager) : Nat := (m.jobs.map JobRecord.artifactBytes).sum

/-- The file that a ready job names holds its bytes. -/
def Backed (sha256 : Bytes → String) (files : ExportFile → Option Bytes) (job : JobRecord) : Prop :=
  job.artifact = some (.artifact job.id job.format) ∧
    ∃ content, files (.artifact job.id job.format) = some content ∧
      content.length = job.dto.bytes ∧ job.dto.sha256 = some (sha256 content)

/-- What holds of one job beside the rest of the manager. -/
structure JobSound (sha256 : Bytes → String) (m : Manager) (job : JobRecord) : Prop where
  key : job.key = job.dto.request.key
  owner : validOwner job.dto.request.owner
  named : ∀ file, job.artifact = some file → file = .artifact job.id job.format
  waiting : job.state = .queued ∨ job.state = .running →
    job.listed ∧ job.artifact = some (.artifact job.id job.format)
  queued : job.state = .queued ↔ job.id ∈ m.queue
  position : job.dto.queuePosition = position m.queue job.id
  running : job.state = .running → m.worker.job = some job.id
  ready : job.ready → Backed sha256 m.files job
  code : job.state = .cancelled → job.dto.errorCode = "conversion_cancelled"

/-- What the worker has in its files. -/
def Worker.Output (m : Manager) : Worker → Prop
  | .converting jobId written _ => m.files (.part jobId) = some written
  | .published jobId content _ _ => ∀ job ∈ m.jobs, job.id = jobId → job.state = .running →
      m.files (.artifact jobId job.format) = some content
  | _ => True

structure Sound (options : TaskOptions) (sha256 : Bytes → String) (m : Manager) : Prop where
  ids : (m.jobs.map JobRecord.id).Nodup
  jobs : ∀ job ∈ m.jobs, JobSound sha256 m job
  distinct : m.queue.Nodup
  known : ∀ jobId ∈ m.queue, ∃ job ∈ m.jobs, job.id = jobId
  unique : ∀ first ∈ m.jobs, ∀ second ∈ m.jobs, first.live → second.live →
    first.key = second.key → first.id = second.id
  worker : ∀ jobId, m.worker.job = some jobId → ∃ job ∈ m.jobs, job.id = jobId ∧
    (job.state = .running ∨ job.state = .cancelled)
  output : m.worker.Output m
  parts : ∀ jobId content, m.files (.part jobId) = some content →
    ∃ granted, m.worker = .converting jobId content granted
  quota : m.artifactBytes + m.worker.reserved ≤ options.maximumTotalBytes

section Table

variable {options : TaskOptions} {sha256 : Bytes → String} {m : Manager}

theorem sound_empty : Sound options sha256 {} where
  ids := List.nodup_nil
  jobs := fun _ absent => nomatch absent
  distinct := List.nodup_nil
  known := fun _ absent => nomatch absent
  unique := fun _ absent => nomatch absent
  worker := fun _ absent => nomatch absent
  output := trivial
  parts := fun _ _ absent => nomatch absent
  quota := Nat.zero_le _

theorem Sound.same (sound : Sound options sha256 m) {first second : JobRecord}
    (one : first ∈ m.jobs) (other : second ∈ m.jobs) (same : first.id = second.id) :
    first = second :=
  List.inj_on_of_nodup_map sound.ids one other same

theorem record_mem {jobId : String} {job : JobRecord} (found : m.record jobId = some job) :
    job ∈ m.jobs ∧ job.id = jobId := by
  rw [Manager.record, List.find?_eq_some_iff_append] at found
  rcases found with ⟨same, before, after, split, -⟩
  refine ⟨?_, of_decide_eq_true same⟩
  rw [split]
  exact List.mem_append_right _ List.mem_cons_self

theorem findOwned_mem {jobId owner : String} {job : JobRecord}
    (found : m.findOwned jobId owner = some job) :
    job ∈ m.jobs ∧ job.id = jobId ∧ job.listed ∧ job.dto.request.owner = owner := by
  rw [Manager.findOwned, Option.filter_eq_some_iff] at found
  rcases found with ⟨first, owned⟩
  have held := List.find?_some first
  rw [Bool.and_eq_true, decide_eq_true_eq] at held
  exact ⟨List.mem_of_find?_eq_some first, held.2, held.1, of_decide_eq_true owned⟩

theorem activeJob_mem {key : String} {job : JobRecord} (found : m.activeJob key = some job) :
    job ∈ m.jobs ∧ job.live ∧ job.key = key := by
  have held := List.find?_some found
  rw [Bool.and_eq_true, decide_eq_true_eq] at held
  exact ⟨List.mem_of_find?_eq_some found, held.1, held.2⟩

theorem live_iff {job : JobRecord} : job.live = true ↔
    job.listed = true ∧ (job.state = .queued ∨ job.state = .running ∨ job.state = .ready) := by
  unfold JobRecord.live JobState.active
  cases job.listed <;> cases job.state <;> simp

theorem ready_iff {job : JobRecord} : job.ready = true ↔
    job.listed = true ∧ job.state = .ready := by
  unfold JobRecord.ready
  rw [Bool.and_eq_true, decide_eq_true_eq]

/-- The bytes of the other ready jobs are those of all of them, beside a job that is not ready. -/
theorem readyBytes_eq (sound : Sound options sha256 m) {self : String}
    (unready : ∀ job ∈ m.jobs, job.id = self → job.ready = false) :
    m.readyBytes self = m.artifactBytes := by
  have sum : ∀ jobs : List JobRecord, (∀ job ∈ jobs, job.id = self → job.ready = false) →
      ((jobs.filter (fun job => job.ready && job.id ≠ self)).map
        (fun job => job.dto.bytes)).sum = (jobs.map JobRecord.artifactBytes).sum := by
    intro jobs unready
    induction jobs with
    | nil => rfl
    | cons job jobs ih =>
        have rest := ih (fun other member => unready other (List.mem_cons_of_mem job member))
        rw [List.map_cons, List.sum_cons, ← rest, List.filter_cons]
        cases ready : job.ready with
        | false => simp [JobRecord.artifactBytes, ready]
        | true =>
            have other : job.id ≠ self := by
              intro same
              rw [unready job List.mem_cons_self same] at ready
              cases ready
            simp [JobRecord.artifactBytes, ready, other]
  have small : m.artifactBytes < 2 ^ 64 :=
    (Nat.le_of_add_right_le sound.quota).trans_lt options.representable.2
  unfold Manager.readyBytes
  rw [sum m.jobs unready]
  exact Nat.mod_eq_of_lt small

end Table

section Tame

variable {options : TaskOptions} {sha256 : Bytes → String} {m after : Manager}

/-- A change of a job that the invariant does not see, but that may take it off the table once it
is over. -/
structure Tame (old new : JobRecord) : Prop where
  id : new.id = old.id
  request : new.dto.request = old.dto.request
  key : new.key = old.key
  format : new.format = old.format
  filename : new.dto.filename = old.dto.filename
  artifact : new.artifact = old.artifact
  state : new.state = old.state
  position : new.dto.queuePosition = old.dto.queuePosition
  bytes : new.dto.bytes = old.dto.bytes
  sha256 : new.dto.sha256 = old.dto.sha256
  code : new.dto.errorCode = old.dto.errorCode
  listed : new.listed = true → old.listed = true
  kept : old.state = .queued ∨ old.state = .running → new.listed = old.listed

theorem Tame.refl (job : JobRecord) : Tame job job :=
  ⟨rfl, rfl, rfl, rfl, rfl, rfl, rfl, rfl, rfl, rfl, rfl, fun listed => listed, fun _ => rfl⟩

theorem Tame.ready {old new : JobRecord} (tame : Tame old new) (ready : new.ready = true) :
    old.ready = true := by
  rcases ready_iff.mp ready with ⟨listed, state⟩
  exact ready_iff.mpr ⟨tame.listed listed, tame.state ▸ state⟩

theorem Tame.live {old new : JobRecord} (tame : Tame old new) (live : new.live = true) :
    old.live = true := by
  rcases live_iff.mp live with ⟨listed, state⟩
  rw [tame.state] at state
  exact live_iff.mpr ⟨tame.listed listed, state⟩

theorem Tame.artifactBytes {old new : JobRecord} (tame : Tame old new) :
    new.artifactBytes ≤ old.artifactBytes := by
  unfold JobRecord.artifactBytes
  split
  · next ready =>
      rw [if_pos (tame.ready ready), tame.bytes]
  · exact Nat.zero_le _

theorem Tame.backed {old new : JobRecord} (tame : Tame old new)
    {files : ExportFile → Option Bytes} (backed : Backed sha256 m.files old)
    (same : files (.artifact old.id old.format) = m.files (.artifact old.id old.format)) :
    Backed sha256 files new := by
  rcases backed with ⟨artifact, content, held, length, digest⟩
  refine ⟨?_, content, ?_, ?_, ?_⟩
  · rw [tame.artifact, tame.id, tame.format, artifact]
  · rw [tame.id, tame.format, same, held]
  · rw [tame.bytes, length]
  · rw [tame.sha256, digest]

theorem Tame.jobSound {old new : JobRecord} (tame : Tame old new) (sound : JobSound sha256 m old)
    (queue : after.queue = m.queue)
    (running : old.state = .running → after.worker.job = some old.id)
    (files : new.ready = true → after.files (.artifact old.id old.format) =
      m.files (.artifact old.id old.format)) : JobSound sha256 after new where
  key := by rw [tame.key, tame.request, sound.key]
  owner := by rw [tame.request]; exact sound.owner
  named := by rw [tame.artifact, tame.id, tame.format]; exact sound.named
  waiting := by
    rw [tame.state, tame.artifact, tame.id, tame.format]
    intro waiting
    rw [tame.kept waiting]
    exact sound.waiting waiting
  queued := by rw [tame.state, tame.id, queue]; exact sound.queued
  position := by rw [tame.position, tame.id, queue, sound.position]
  running := by rw [tame.state, tame.id]; exact running
  ready := fun ready => tame.backed (sound.ready (tame.ready ready)) (files ready)
  code := by rw [tame.state, tame.code]; exact sound.code

theorem ids_map {jobs : List JobRecord} {change : JobRecord → JobRecord}
    (same : ∀ job ∈ jobs, (change job).id = job.id) :
    (jobs.map change).map JobRecord.id = jobs.map JobRecord.id := by
  rw [List.map_map]
  exact List.map_congr_left same

theorem Worker.Output.transfer (output : m.worker.Output m) (worker : after.worker = m.worker)
    (parts : ∀ jobId, after.files (.part jobId) = m.files (.part jobId))
    (running : ∀ new ∈ after.jobs, new.state = .running → m.worker.job = some new.id →
      ∃ old ∈ m.jobs, old.id = new.id ∧ old.format = new.format ∧ old.state = .running ∧
        after.files (.artifact old.id old.format) = m.files (.artifact old.id old.format)) :
    after.worker.Output after := by
  rw [worker]
  cases phase : m.worker with
  | converting jobId written granted =>
      rw [phase] at output
      exact (parts jobId).trans output
  | published jobId content profile frames =>
      rw [phase] at output running
      rintro new member rfl now
      rcases running new member now rfl with ⟨old, held, same, format, state, kept⟩
      rw [same, format] at kept
      rw [kept, ← format]
      exact output old held same state
  | idle => trivial
  | starting jobId => trivial
  | failing jobId thrown => trivial

/-- Tame changes of the table keep the invariant, if the files of its running and ready jobs
stay. -/
theorem sound_tame {change : JobRecord → JobRecord} (sound : Sound options sha256 m)
    (tame : ∀ job ∈ m.jobs, Tame job (change job)) (jobs : after.jobs = m.jobs.map change)
    (queue : after.queue = m.queue) (worker : after.worker = m.worker)
    (parts : ∀ jobId, after.files (.part jobId) = m.files (.part jobId))
    (files : ∀ job ∈ m.jobs, (change job).ready = true ∨ job.state = .running →
      after.files (.artifact job.id job.format) = m.files (.artifact job.id job.format)) :
    Sound options sha256 after where
  ids := by
    rw [jobs, ids_map (fun job member => (tame job member).id)]
    exact sound.ids
  jobs := by
    rw [jobs]
    intro new member
    rcases List.mem_map.mp member with ⟨job, held, rfl⟩
    apply (tame job held).jobSound (sound.jobs job held) queue
    · rw [worker]
      exact (sound.jobs job held).running
    · exact fun ready => files job held (.inl ready)
  distinct := by rw [queue]; exact sound.distinct
  known := by
    rw [queue, jobs]
    intro jobId waiting
    rcases sound.known jobId waiting with ⟨job, held, same⟩
    exact ⟨change job, List.mem_map_of_mem held, (tame job held).id.trans same⟩
  unique := by
    rw [jobs]
    intro first one second other firstLive secondLive key
    rcases List.mem_map.mp one with ⟨old, held, rfl⟩
    rcases List.mem_map.mp other with ⟨rest, also, rfl⟩
    rw [(tame old held).key, (tame rest also).key] at key
    rw [(tame old held).id, (tame rest also).id]
    exact sound.unique old held rest also ((tame old held).live firstLive)
      ((tame rest also).live secondLive) key
  worker := by
    rw [worker, jobs]
    intro jobId busy
    rcases sound.worker jobId busy with ⟨job, held, same, state⟩
    refine ⟨change job, List.mem_map_of_mem held, (tame job held).id.trans same, ?_⟩
    rw [(tame job held).state]
    exact state
  output := by
    apply sound.output.transfer worker parts
    rw [jobs]
    intro new member running _
    rcases List.mem_map.mp member with ⟨job, held, rfl⟩
    rw [(tame job held).state] at running
    exact ⟨job, held, (tame job held).id.symm, (tame job held).format.symm, running,
      files job held (.inr running)⟩
  parts := by
    intro jobId content held
    rw [worker]
    rw [parts jobId] at held
    exact sound.parts jobId content held
  quota := by
    have fewer : after.artifactBytes ≤ m.artifactBytes := by
      unfold Manager.artifactBytes
      rw [jobs, List.map_map]
      exact List.sum_le_sum (fun job held => (tame job held).artifactBytes)
    rw [worker]
    exact (Nat.add_le_add_right fewer _).trans sound.quota

end Tame

section Reclaim

variable {options : TaskOptions} {sha256 : Bytes → String} {moment : Moment} {m : Manager}

theorem lapsed_tame (options : TaskOptions) (moment : Moment) (job : JobRecord) :
    Tame job (Manager.lapsed options moment job) := by
  unfold Manager.lapsed
  split
  · exact ⟨rfl, rfl, rfl, rfl, rfl, rfl, rfl, rfl, rfl, rfl, rfl,
      fun listed => listed, fun _ => rfl⟩
  · exact Tame.refl job

theorem outlived_terminal {job : JobRecord}
    (outlived : Manager.outlived options moment job = true) :
    job.state.terminal = true := by
  unfold Manager.outlived at outlived
  simp only [Bool.and_eq_true] at outlived
  exact outlived.1.1.1.1.1.2

theorem swept_tame (options : TaskOptions) (moment : Moment) (job : JobRecord) :
    Tame job (Manager.swept options moment job) := by
  have tame := lapsed_tame options moment job
  unfold Manager.swept
  split
  · next outlived =>
      refine ⟨tame.id, tame.request, tame.key, tame.format, tame.filename, tame.artifact,
        tame.state,
        tame.position, tame.bytes, tame.sha256, tame.code, (fun absent => nomatch absent), ?_⟩
      intro waiting
      have terminal := outlived_terminal outlived
      rw [tame.state] at terminal
      rcases waiting with state | state
      · rw [state] at terminal
        cases terminal
      · rw [state] at terminal
        cases terminal
  · exact tame

theorem cleanupExpired_files (sound : Sound options sha256 m) {job : JobRecord}
    (held : job ∈ m.jobs)
    (stays : Manager.outlived options moment (Manager.lapsed options moment job) = false) :
    (m.cleanupExpired options moment).files (.artifact job.id job.format) =
      m.files (.artifact job.id job.format) := by
  apply if_neg
  rintro ⟨other, member, outlived, named⟩
  have file := (sound.jobs other member).named _ named
  rw [ExportFile.artifact.injEq] at file
  have same := sound.same held member file.1
  rw [same, outlived] at stays
  cases stays

theorem cleanupExpired_sound (sound : Sound options sha256 m) :
    Sound options sha256 (m.cleanupExpired options moment) := by
  refine sound_tame sound (fun job _ => swept_tame options moment job) ?_ ?_ ?_ ?_ ?_
  · rfl
  · rfl
  · rfl
  · intro jobId
    apply if_neg
    rintro ⟨other, member, -, named⟩
    cases (sound.jobs other member).named _ named
  · intro job held needed
    apply cleanupExpired_files sound held
    rw [← Bool.not_eq_true]
    intro outlived
    rcases needed with ready | running
    · rw [Manager.swept, if_pos outlived] at ready
      cases (ready_iff.mp ready).1
    · have terminal := outlived_terminal outlived
      rw [(lapsed_tame options moment job).state, running] at terminal
      cases terminal

end Reclaim

section Change

variable {options : TaskOptions} {sha256 : Bytes → String} {m after : Manager}
variable {target : JobRecord} {change : JobRecord → JobRecord}

def changed (jobs : List JobRecord) (jobId : String) (change : JobRecord → JobRecord) :
    List JobRecord :=
  jobs.map (fun job => if job.id = jobId then change job else job)

theorem mem_changed (sound : Sound options sha256 m) (held : target ∈ m.jobs) {new : JobRecord}
    (member : new ∈ changed m.jobs target.id change) :
    new = change target ∨ new ∈ m.jobs ∧ new.id ≠ target.id := by
  rcases List.mem_map.mp member with ⟨job, found, same⟩
  split at same
  · next own =>
      rw [sound.same found held own] at same
      exact .inl same.symm
  · next other =>
      rw [← same]
      exact .inr ⟨found, other⟩

theorem changed_mem (held : target ∈ m.jobs) : change target ∈ changed m.jobs target.id change :=
  List.mem_map.mpr ⟨target, held, if_pos rfl⟩

theorem other_mem_changed {job : JobRecord} {jobId : String} (held : job ∈ m.jobs)
    (other : job.id ≠ jobId) : job ∈ changed m.jobs jobId change :=
  List.mem_map.mpr ⟨job, held, if_neg other⟩

theorem ids_changed (sound : Sound options sha256 m) (held : target ∈ m.jobs)
    (id : (change target).id = target.id) :
    (changed m.jobs target.id change).map JobRecord.id = m.jobs.map JobRecord.id := by
  apply ids_map
  intro job found
  split
  · next own =>
      rw [sound.same found held own]
      exact id
  · rfl

theorem artifactBytes_changed (sound : Sound options sha256 m) (held : target ∈ m.jobs)
    (change : JobRecord → JobRecord) :
    ((changed m.jobs target.id change).map JobRecord.artifactBytes).sum + target.artifactBytes =
      m.artifactBytes + (change target).artifactBytes := by
  have sum : ∀ jobs : List JobRecord, (jobs.map JobRecord.id).Nodup → target ∈ jobs →
      ((changed jobs target.id change).map JobRecord.artifactBytes).sum + target.artifactBytes =
        (jobs.map JobRecord.artifactBytes).sum + (change target).artifactBytes := by
    intro jobs distinct member
    induction jobs with
    | nil => cases member
    | cons job jobs ih =>
        rw [List.map_cons, List.nodup_cons] at distinct
        simp only [changed, List.map_cons, List.sum_cons]
        rcases List.mem_cons.mp member with rfl | later
        · have rest : jobs.map (fun job => if job.id = target.id then change job else job) =
              jobs.map (fun job => job) := by
            apply List.map_congr_left
            intro other also
            apply if_neg
            intro same
            exact distinct.1 (List.mem_map.mpr ⟨other, also, same⟩)
          rw [List.map_id'] at rest
          rw [rest, if_pos rfl]
          omega
        · have other : job.id ≠ target.id := by
            intro same
            exact distinct.1 (List.mem_map.mpr ⟨target, later, same.symm⟩)
          have sums := ih distinct.2 later
          unfold changed at sums
          rw [if_neg other]
          omega
  exact sum m.jobs sound.ids held

/-- A change of one job keeps the invariant, if the job, its files and the worker fit together
after it. -/
theorem sound_changed (change : JobRecord → JobRecord) (sound : Sound options sha256 m)
    (held : target ∈ m.jobs)
    (jobs : after.jobs = changed m.jobs target.id change) (queue : after.queue = m.queue)
    (id : (change target).id = target.id) (key : (change target).key = target.key)
    (live : (change target).live = true → target.live = true)
    (own : JobSound sha256 after (change target))
    (running : ∀ job ∈ m.jobs, job.id ≠ target.id → job.state = .running →
      after.worker.job = some job.id)
    (files : ∀ job ∈ m.jobs, job.id ≠ target.id → job.ready = true →
      after.files (.artifact job.id job.format) = m.files (.artifact job.id job.format))
    (worker : ∀ jobId, after.worker.job = some jobId → ∃ job ∈ after.jobs, job.id = jobId ∧
      (job.state = .running ∨ job.state = .cancelled))
    (output : after.worker.Output after)
    (parts : ∀ jobId content, after.files (.part jobId) = some content →
      ∃ granted, after.worker = .converting jobId content granted)
    (quota : m.artifactBytes + (change target).artifactBytes + after.worker.reserved ≤
      options.maximumTotalBytes + target.artifactBytes) :
    Sound options sha256 after where
  ids := by
    rw [jobs, ids_changed sound held id]
    exact sound.ids
  jobs := by
    rw [jobs]
    intro new member
    rcases mem_changed sound held member with rfl | ⟨old, other⟩
    · exact own
    · exact (Tame.refl new).jobSound (sound.jobs new old) queue (running new old other)
        (files new old other)
  distinct := by rw [queue]; exact sound.distinct
  known := by
    rw [queue, jobs]
    intro jobId waiting
    rcases sound.known jobId waiting with ⟨job, found, same⟩
    by_cases target : job.id = target.id
    · exact ⟨_, changed_mem held, by rw [id, ← target, same]⟩
    · exact ⟨job, other_mem_changed found target, same⟩
  unique := by
    rw [jobs]
    intro first one second other firstLive secondLive keys
    rcases mem_changed sound held one with rfl | ⟨old, -⟩ <;>
      rcases mem_changed sound held other with rfl | ⟨also, -⟩
    · rfl
    · rw [id]
      exact sound.unique target held second also (live firstLive) secondLive (key ▸ keys)
    · rw [id]
      exact sound.unique first old target held firstLive (live secondLive) (key ▸ keys)
    · exact sound.unique first old second also firstLive secondLive keys
  worker := worker
  output := output
  parts := parts
  quota := by
    have sums := artifactBytes_changed sound held change
    unfold Manager.artifactBytes at sums quota ⊢
    rw [jobs]
    omega

end Change

end Msap1.WebBackend
