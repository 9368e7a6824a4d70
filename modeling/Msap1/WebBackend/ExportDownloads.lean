import Msap1.WebBackend.ExportOwners

/-! The outcomes of the jobs and the downloads of their artifacts over whole runs. -/

namespace Msap1.WebBackend

open Manager

variable {options : TaskOptions} {sha256 : Bytes → String} {moment : Moment} {m after : Manager}

/-- A sequence of reads of one artifact from its start, with the time of the last one. -/
structure Download where
  reader : Nat
  jobId : String
  last : Nat
  deriving DecidableEq

/-- The downloads that have not ended, at the time of the last step. -/
structure Watch where
  clock : Nat := 0
  downloads : List Download := []

def Download.current (options : TaskOptions) (steady : Nat) (download : Download) : Bool :=
  steady - download.last < options.streamLease

def Download.of (reader : Nat) (jobId : String) (download : Download) : Bool :=
  download.reader = reader && download.jobId = jobId

/-- A read at the start of the artifact begins a download, and a later one within the lease goes on
with it. -/
def Watch.began (options : TaskOptions) (watch : Watch) (reader : Nat) (jobId : String)
    (offset steady : Nat) : List Download :=
  let others := watch.downloads.filter (fun download => !download.of reader jobId)
  if offset = 0 ∨ watch.downloads.any (fun download =>
      download.of reader jobId && download.current options steady) then
    ⟨reader, jobId, steady⟩ :: others
  else others

def Watch.ended (watch : Watch) (reader : Nat) (jobId : String) : Answer → List Download
  | .chunk chunk =>
      if chunk.endOfFile then
        watch.downloads.filter (fun download => !download.of reader jobId)
      else watch.downloads
  | _ => watch.downloads.filter (fun download => !download.of reader jobId)

def noteDownloads (options : TaskOptions) (m : Manager) (watch : Watch) (call : Moment × Action)
    (answer : Answer) : Watch where
  clock := call.1.steady
  downloads := match call.2 with
    | .beginRead reader _ jobId offset _ =>
        if (∃ call ∈ m.reads, call.reader = reader) ∨ answer ≠ .nothing then watch.downloads
        else watch.began options reader jobId offset call.1.steady
    | .endRead reader _ => match m.reads.find? (fun call => call.reader = reader) with
        | none => watch.downloads
        | some read => watch.ended reader read.jobId answer
    | _ => watch.downloads

/-- The manager beside the downloads that are under way. -/
def watchedExports (options : TaskOptions) (sha256 : Bytes → String) :
    Machine (Manager × Watch) (Moment × Action) Answer :=
  (exportManager options sha256).traced (noteDownloads options)

/-- The read behind an `endRead` goes on with the artifact. -/
def Manager.goesOn (m : Manager) (read : ReadCall) (failure : Option String) : Bool :=
  match m.readArtifact read failure with
  | .ok chunk => !chunk.endOfFile
  | .error _ => false

/-- A failed job is not cancelled, the conversion of a cancelled job reports nothing but its
cancellation, and a stream ends only when no other download of the artifact is under way. -/
def Undisturbed (options : TaskOptions) (m : Manager) (watch : Watch) (call : Moment × Action) :
    Prop :=
  match call.2 with
  | .cancel owner jobId =>
      match (m.cleanupExpired options call.1).findOwned jobId owner with
      | none => True
      | some job => job.state ≠ .failed
  | .report => match m.worker with
      | .failing jobId thrown => ∀ job ∈ m.jobs, job.id = jobId → job.state = .cancelled →
          (reported thrown).1 = .cancelled
      | _ => True
  | .endRead reader failure => match m.reads.find? (fun call => call.reader = reader) with
      | none => True
      | some read => m.goesOn read failure = true ∨ ∀ download ∈ watch.downloads,
          download.jobId = read.jobId → download.current options call.1.steady = true →
            download.reader = reader
  | _ => True

def decidableOwned : (owned : Option JobRecord) → Decidable (match owned with
    | none => True
    | some job => job.state ≠ .failed)
  | none => isTrue trivial
  | some job => inferInstanceAs (Decidable (job.state ≠ .failed))

def decidableEnded (m : Manager) (watch : Watch) (moment : Moment) (reader : Nat)
    (failure : Option String) : (ended : Option ReadCall) → Decidable (match ended with
      | none => True
      | some read => m.goesOn read failure = true ∨ ∀ download ∈ watch.downloads,
          download.jobId = read.jobId → download.current options moment.steady = true →
            download.reader = reader)
  | none => isTrue trivial
  | some read => inferInstanceAs (Decidable (m.goesOn read failure = true ∨
      ∀ download ∈ watch.downloads, download.jobId = read.jobId →
        download.current options moment.steady = true → download.reader = reader))

def decidableReport (m : Manager) : (worker : Worker) → Decidable (match worker with
    | .failing jobId thrown => ∀ job ∈ m.jobs, job.id = jobId → job.state = .cancelled →
        (reported thrown).1 = .cancelled
    | _ => True)
  | .failing jobId thrown => inferInstanceAs (Decidable (∀ job ∈ m.jobs, job.id = jobId →
      job.state = .cancelled → (reported thrown).1 = .cancelled))
  | .idle => isTrue trivial
  | .starting _ => isTrue trivial
  | .converting _ _ _ => isTrue trivial
  | .published _ _ _ _ => isTrue trivial

instance (m : Manager) (watch : Watch) : (call : Moment × Action) →
    Decidable (Undisturbed options m watch call)
  | (moment, .cancel owner jobId) =>
      decidableOwned ((m.cleanupExpired options moment).findOwned jobId owner)
  | (_, .report) => decidableReport m m.worker
  | (moment, .endRead reader failure) =>
      decidableEnded m watch moment reader failure (m.reads.find? fun call => call.reader = reader)
  | (_, .lookup _) => isTrue trivial
  | (_, .submit _ _ _) => isTrue trivial
  | (_, .status _ _) => isTrue trivial
  | (_, .beginRead _ _ _ _ _) => isTrue trivial
  | (_, .takeJob) => isTrue trivial
  | (_, .openSink _) => isTrue trivial
  | (_, .startWrite _) => isTrue trivial
  | (_, .continueWrite _) => isTrue trivial
  | (_, .progress _ _) => isTrue trivial
  | (_, .throwFrom _) => isTrue trivial
  | (_, .finish _ _ _) => isTrue trivial
  | (_, .complete) => isTrue trivial

/-- The steady clock does not go back, and no step meets one of the three disturbances. -/
def Careful (options : TaskOptions) (state : Manager × Watch) (call : Moment × Action) : Prop :=
  Orderly state.1 call ∧ state.2.clock ≤ call.1.steady ∧ Undisturbed options state.1 state.2 call

instance (state : Manager × Watch) (call : Moment × Action) :
    Decidable (Careful options state call) := by
  unfold Careful
  infer_instance

section Outcomes

/-- What may happen to a job that a step is not about leaves its outcome, unless the job is ready
and evicted. -/
theorem Fate.outcome {job new : JobRecord} (fate : Fate options moment job new) :
    (new.state = job.state ∧ new.dto.errorCode = job.dto.errorCode) ∨
      (job.state = .ready ∧ new.state = .failed ∧ new.dto.errorCode = "artifact_evicted") := by
  induction fate with
  | kept job => exact .inl ⟨rfl, rfl⟩
  | swept job new rest ih =>
      have tame := swept_tame options moment job
      rw [tame.state, tame.code] at ih
      exact ih
  | evicted job new ready idle rest ih =>
      right
      rcases ih with ⟨state, code⟩ | ⟨absent, -⟩
      · exact ⟨(ready_iff.mp ready).2, state, code⟩
      · cases absent
  | moved queue job new rest ih =>
      have same : (numbered queue job).state = job.state ∧
          (numbered queue job).dto.errorCode = job.dto.errorCode := by
        unfold numbered
        split <;> exact ⟨rfl, rfl⟩
      rw [same.1, same.2] at ih
      exact ih

theorem Fate.streaming {job new : JobRecord} (fate : Fate options moment job new)
    (ready : job.ready = true) (streaming : job.streaming = true)
    (current : moment.steady - job.streamActivity < options.streamLease) :
    new.ready = true ∧ new.streaming = true ∧ new.streamActivity = job.streamActivity := by
  induction fate with
  | kept job => exact ⟨ready, streaming, rfl⟩
  | swept job new rest ih =>
      have alive : lapsed options moment job = job := by
        unfold lapsed
        rw [if_neg]
        rintro ⟨-, -, -, over_lease⟩
        omega
      have held : Manager.swept options moment job = job := by
        unfold Manager.swept
        rw [alive, if_neg]
        unfold outlived
        rw [streaming]
        simp
      rw [held] at ih
      exact ih ready streaming current
  | evicted job new _ idle rest ih =>
      rw [streaming] at idle
      cases idle
  | moved queue job new rest ih =>
      have same : (numbered queue job).ready = job.ready ∧
          (numbered queue job).streaming = job.streaming ∧
          (numbered queue job).streamActivity = job.streamActivity := by
        unfold numbered
        split <;> exact ⟨rfl, rfl, rfl⟩
      rw [same.1, same.2.1, same.2.2] at ih
      exact ih ready streaming current

theorem progressed_outcome (processedFrames totalFrames : Nat) (job : JobRecord) :
    (progressed processedFrames totalFrames job).state = job.state ∧
      (progressed processedFrames totalFrames job).dto.errorCode = job.dto.errorCode ∧
      (progressed processedFrames totalFrames job).ready = job.ready ∧
      (progressed processedFrames totalFrames job).streaming = job.streaming ∧
      (progressed processedFrames totalFrames job).streamActivity = job.streamActivity := by
  unfold progressed
  split <;> exact ⟨rfl, rfl, rfl, rfl, rfl⟩

variable {watch : Watch} {call : Moment × Action}

theorem change_final {job new : JobRecord} (careful : Careful options (m, watch) call)
    (sound : Sound options sha256 m) (held : job ∈ m.jobs)
    (change : JobChange options call.1 sha256 m call.2 job new)
    (state : job.state = .failed ∨ job.state = .cancelled) :
    new.state = job.state ∧ new.dto.errorCode = job.dto.errorCode := by
  rcases call with ⟨moment, action⟩
  have unready : job.state ≠ .ready := by
    intro ready
    rw [ready] at state
    rcases state with absent | absent <;> cases absent
  have kept : ∀ {middle : JobRecord}, Fate options moment job middle →
      middle.state = job.state ∧ middle.dto.errorCode = job.dto.errorCode := by
    intro middle fate
    rcases fate.outcome with same | ⟨ready, -⟩
    · exact same
    · exact absurd ready unready
  have allowed := careful.2.2
  unfold Undisturbed at allowed
  cases change with
  | spared fate => exact kept fate
  | cancelled asked named own found fate cancelled =>
      dsimp only at asked
      subst asked
      dsimp only at allowed
      rw [found] at allowed
      dsimp only at allowed
      rw [(kept fate).1] at allowed
      have old := state.resolve_left allowed
      rw [cancelled.state, cancelled.code, old, (sound.jobs job held).code old]
      exact ⟨rfl, rfl⟩
  | streamed asked named own fate =>
      have same := kept fate
      exact same
  | unstreamed asked began named ended => exact ⟨rfl, rfl⟩
  | started asked queued =>
      rw [queued] at state
      rcases state with absent | absent <;> cases absent
  | progressed asked =>
      rename_i processedFrames totalFrames
      have same := progressed_outcome processedFrames totalFrames job
      exact ⟨same.1, same.2.1⟩
  | completed asked running =>
      rw [running] at state
      rcases state with absent | absent <;> cases absent
  | discarded asked cancelled => exact ⟨rfl, rfl⟩
  | reported thrown asked phase =>
      dsimp only at asked
      subst asked
      dsimp only at allowed
      rw [phase] at allowed
      dsimp only at allowed
      have busy : m.worker.job = some job.id := by
        rw [phase]
        rfl
      have old : job.state = .cancelled := by
        rcases (worker_job sound held busy).1 with running | cancelled
        · rw [running] at state
          rcases state with absent | absent <;> cases absent
        · exact cancelled
      have now := allowed job held rfl old
      refine ⟨now.trans old.symm, ?_⟩
      rw [(sound.jobs job held).code old]
      exact reported_code thrown now

theorem change_ready {job new : JobRecord} (sound : Sound options sha256 m) (held : job ∈ m.jobs)
    (change : JobChange options call.1 sha256 m call.2 job new) (state : job.state = .ready) :
    new.state = .ready ∨
      (new.state = .cancelled ∧ call.2 = .cancel job.dto.request.owner job.id) ∨
      (new.state = .failed ∧ new.dto.errorCode = "artifact_evicted") := by
  have kept : ∀ {middle : JobRecord}, Fate options call.1 job middle →
      middle.state = .ready ∨ (middle.state = .failed ∧
        middle.dto.errorCode = "artifact_evicted") := by
    intro middle fate
    rcases fate.outcome with ⟨same, -⟩ | ⟨-, evicted⟩
    · exact .inl (same.trans state)
    · exact .inr evicted
  cases change with
  | spared fate =>
      rcases kept fate with ready | evicted
      · exact .inl ready
      · exact .inr (.inr evicted)
  | cancelled asked named own found fate cancelled =>
      refine .inr (.inl ⟨cancelled.state, ?_⟩)
      rw [asked, named, own]
  | streamed asked named own fate =>
      rcases kept fate with ready | evicted
      · exact .inl ready
      · exact .inr (.inr evicted)
  | unstreamed asked began named ended => exact .inl state
  | started asked queued =>
      rw [queued] at state
      cases state
  | progressed asked =>
      rename_i processedFrames totalFrames
      exact .inl ((progressed_outcome processedFrames totalFrames job).1.trans state)
  | completed asked running =>
      rw [running] at state
      cases state
  | discarded asked cancelled =>
      rw [cancelled] at state
      cases state
  | reported thrown asked phase =>
      have busy : m.worker.job = some job.id := by
        rw [phase]
        rfl
      have working := (worker_job sound held busy).1
      rw [state] at working
      rcases working with absent | absent <;> cases absent

end Outcomes

section Downloads

variable {watch : Watch} {call : Moment × Action}

theorem endRead_ended {reader : Nat} {failure : Option String} {read : ReadCall}
    (began : m.reads.find? (fun call => call.reader = reader) = some read)
    (stops : m.goesOn read failure = false) {download : Download}
    (member : download ∈ watch.ended reader read.jobId (m.endRead reader failure).2) :
    download.of reader read.jobId = false := by
  have gone : ∀ {downloads : List Download},
      download ∈ downloads.filter (fun download => !download.of reader read.jobId) →
        download.of reader read.jobId = false := by
    intro downloads member
    simpa using (List.mem_filter.mp member).2
  unfold goesOn at stops
  unfold endRead at member
  rw [began] at member
  dsimp only at member
  split at stops
  · next chunk result =>
      rw [result] at member
      rw [Bool.not_eq_false'] at stops
      simp only [Watch.ended, stops, if_true] at member
      exact gone member
  · next thrown result =>
      rw [result] at member
      exact gone member

theorem mem_ended {reader : Nat} {jobId : String} {answer : Answer} {download : Download}
    (member : download ∈ watch.ended reader jobId answer) : download ∈ watch.downloads := by
  unfold Watch.ended at member
  split at member
  · split at member
    · exact (List.mem_filter.mp member).1
    · exact member
  · exact (List.mem_filter.mp member).1

/-- A download that is under way after a step was under way before, and no read of it ended, or the
step begins it or goes on with it. -/
theorem mem_noted {download : Download}
    (member : download ∈ (noteDownloads options m watch call
      ((exportManager options sha256).answer m call)).downloads) :
    (download ∈ watch.downloads ∧ ∀ reader failure read, call.2 = .endRead reader failure →
      m.reads.find? (fun call => call.reader = reader) = some read →
        m.goesOn read failure = false → download.of reader read.jobId = false) ∨
    ∃ reader owner jobId offset limit, call.2 = .beginRead reader owner jobId offset limit ∧
      download = ⟨reader, jobId, call.1.steady⟩ ∧ ¬(∃ call ∈ m.reads, call.reader = reader) ∧
        (m.beginRead options call.1 reader owner jobId offset limit).2 = .nothing := by
  rcases call with ⟨moment, action⟩
  cases action with
  | beginRead reader owner jobId offset limit =>
      dsimp only [noteDownloads] at member
      split at member
      · exact .inl ⟨member, fun _ _ _ absent => nomatch absent⟩
      · next begun =>
          rw [not_or, not_not] at begun
          unfold Watch.began at member
          dsimp only at member
          split at member
          · rcases List.mem_cons.mp member with rfl | old
            · exact .inr ⟨reader, owner, jobId, offset, limit, rfl, rfl, begun.1, begun.2⟩
            · exact .inl ⟨(List.mem_filter.mp old).1, fun _ _ _ absent => nomatch absent⟩
          · exact .inl ⟨(List.mem_filter.mp member).1, fun _ _ _ absent => nomatch absent⟩
  | endRead reader failure =>
      left
      dsimp only [noteDownloads] at member
      cases began : m.reads.find? (fun call => call.reader = reader) with
      | none =>
          rw [began] at member
          refine ⟨member, ?_⟩
          intro other _ read same found
          cases same
          rw [began] at found
          cases found
      | some read =>
          rw [began] at member
          refine ⟨mem_ended member, ?_⟩
          intro other _ again same found stops
          cases same
          rw [began] at found
          cases found
          exact endRead_ended began stops member
  | _ => exact .inl ⟨member, fun _ _ _ absent => nomatch absent⟩

/-- Every download that is under way has its ready job and a stream as recent as its last read. -/
structure Watching (options : TaskOptions) (sha256 : Bytes → String) (state : Manager × Watch) :
    Prop where
  sound : Sound options sha256 state.1
  past : ∀ download ∈ state.2.downloads, download.last ≤ state.2.clock
  streaming : ∀ download ∈ state.2.downloads, download.current options state.2.clock = true →
    ∃ job ∈ state.1.jobs, job.id = download.jobId ∧ job.ready = true ∧ job.streaming = true ∧
      download.last ≤ job.streamActivity

theorem watching_empty : Watching options sha256 ({}, {}) where
  sound := sound_empty
  past := fun _ absent => nomatch absent
  streaming := fun _ absent => nomatch absent

/-- A job whose stream is within the lease stays ready, and so does its stream unless the step ends
it. -/
theorem change_streaming {job new : JobRecord} {last : Nat} (sound : Sound options sha256 m)
    (held : job ∈ m.jobs) (change : JobChange options call.1 sha256 m call.2 job new)
    (ready : job.ready = true) (streaming : job.streaming = true)
    (activity : last ≤ job.streamActivity) (past : last ≤ call.1.steady)
    (current : call.1.steady - last < options.streamLease)
    (goes : ∀ reader failure read, call.2 = .endRead reader failure →
      m.reads.find? (fun call => call.reader = reader) = some read → job.id = read.jobId →
        m.goesOn read failure = true) :
    new.ready = true ∧ new.streaming = true ∧ last ≤ new.streamActivity := by
  have state := (ready_iff.mp ready).2
  have lease : call.1.steady - job.streamActivity < options.streamLease := by omega
  cases change with
  | spared fate =>
      rcases fate.streaming ready streaming lease with ⟨now, goes, same⟩
      exact ⟨now, goes, same ▸ activity⟩
  | cancelled asked named own found fate cancelled =>
      rcases fate.streaming ready streaming lease with ⟨now, goes, -⟩
      rw [cancelled.free (ready_iff.mp now).2] at goes
      cases goes
  | streamed asked named own fate =>
      rcases fate.streaming ready streaming lease with ⟨now, -, -⟩
      exact ⟨now, rfl, past⟩
  | unstreamed asked began named ended =>
      rename_i reader failure read
      have on := goes reader failure read asked began named
      unfold goesOn at on
      split at on
      · next chunk result =>
          rw [ended chunk result] at on
          cases on
      · cases on
  | started asked queued =>
      rw [queued] at state
      cases state
  | progressed asked =>
      rename_i processedFrames totalFrames
      rcases progressed_outcome processedFrames totalFrames job with ⟨-, -, same, stream, kept⟩
      exact ⟨same.trans ready, stream.trans streaming, kept ▸ activity⟩
  | completed asked running =>
      rw [running] at state
      cases state
  | discarded asked cancelled =>
      rw [cancelled] at state
      cases state
  | reported thrown asked phase =>
      have busy : m.worker.job = some job.id := by
        rw [phase]
        rfl
      rw [(worker_job sound held busy).2.1] at ready
      cases ready

theorem next_watching (careful : Careful options (m, watch) call)
    (watching : Watching options sha256 (m, watch)) :
    Watching options sha256 ((watchedExports options sha256).next (m, watch) call) := by
  rcases careful with ⟨orderly, forward, undisturbed⟩
  have sound := watching.sound
  rw [watchedExports, Machine.traced_next]
  refine ⟨next_sound call orderly sound, ?_, ?_⟩
  · intro download member
    change download.last ≤ call.1.steady
    rcases mem_noted member with ⟨old, -⟩ | ⟨reader, owner, jobId, offset, limit, -, rfl, -⟩
    · exact (watching.past download old).trans forward
    · exact le_rfl
  · intro download member current
    change download.current options call.1.steady = true at current
    rcases mem_noted member with ⟨old, ends⟩ |
      ⟨reader, owner, jobId, offset, limit, asked, rfl, idle, begun⟩
    · have recent := of_decide_eq_true current
      have past := watching.past download old
      have before : download.current options watch.clock = true := by
        apply decide_eq_true
        dsimp only at forward past
        omega
      rcases watching.streaming download old before with
        ⟨job, held, named, ready, streaming, activity⟩
      rcases next_changes call sound job held with ⟨new, present, change⟩
      have same := change.same
      have kept := change_streaming sound held change ready streaming activity
        (past.trans forward) recent ?_
      · exact ⟨new, present, same.id.trans named, kept⟩
      · intro reader failure read asked began own
        by_contra stops
        rw [Bool.not_eq_true] at stops
        have apart := ends reader failure read asked began stops
        unfold Undisturbed at undisturbed
        rw [asked] at undisturbed
        dsimp only at undisturbed
        rw [began] at undisturbed
        dsimp only at undisturbed
        rw [stops] at undisturbed
        have mine := undisturbed.resolve_left nofun download old (named.symm.trans own) current
        rw [Download.of, mine, ← named, own] at apart
        simp at apart
    · rcases call with ⟨moment, action⟩
      dsimp only at asked
      subst asked
      have cases : (_ ∧ (_ ∨ (m.beginRead options moment reader owner jobId offset limit).2 ≠ _)) ∨
          _ :=
        beginRead_opened reader owner jobId offset limit
      rcases cases with ⟨-, pending | failed⟩ | ⟨read, job, opened, -⟩
      · exact absurd pending idle
      · exact absurd begun failed
      · have same := opened.call
        injection same with _ _ named
        refine ⟨streamedRecord moment job, opened.streamed, ?_, opened.ready, rfl, le_rfl⟩
        exact opened.named.trans named.symm

end Downloads

section Runs

/-- The jobs that are over keep their state and error code. -/
def OutcomesKept (m later : Manager) : Prop :=
  ∀ job ∈ m.jobs, job.state = .failed ∨ job.state = .cancelled →
    ∃ new ∈ later.jobs, new.id = job.id ∧ new.state = job.state ∧
      new.dto.errorCode = job.dto.errorCode

/-- A ready job stays ready, is cancelled by its owner or evicted. -/
def ReadyKept (m : Manager) (call : Moment × Action) (later : Manager) : Prop :=
  ∀ job ∈ m.jobs, job.state = .ready → ∃ new ∈ later.jobs, new.id = job.id ∧
    (new.state = .ready ∨
      (new.state = .cancelled ∧ call.2 = .cancel job.dto.request.owner job.id) ∨
      (new.state = .failed ∧ new.dto.errorCode = "artifact_evicted"))

/-- Every download that is under way finds its artifact. -/
def DownloadsServed (options : TaskOptions) (sha256 : Bytes → String) (state : Manager × Watch) :
    Prop :=
  ∀ download ∈ state.2.downloads, download.current options state.2.clock = true →
    ∃ job ∈ state.1.jobs, job.id = download.jobId ∧ job.ready = true ∧
      Backed sha256 state.1.files job

variable {state : Manager × Watch}

theorem watching_served (watching : Watching options sha256 state) :
    DownloadsServed options sha256 state := by
  intro download member current
  rcases watching.streaming download member current with ⟨job, held, named, ready, -⟩
  exact ⟨job, held, named, ready, (watching.sound.jobs job held).ready ready⟩

theorem run_watching {calls : List (Moment × Action)} (watching : Watching options sha256 state)
    (careful : (watchedExports options sha256).Along (Careful options) state calls) :
    Watching options sha256 ((watchedExports options sha256).run state calls) :=
  (watchedExports options sha256).along_invariant (Careful options) (Watching options sha256)
    (fun _ _ careful watching => next_watching careful watching) state watching calls careful

theorem run_outcomes {calls : List (Moment × Action)} (watching : Watching options sha256 state)
    (careful : (watchedExports options sha256).Along (Careful options) state calls) :
    OutcomesKept state.1 ((watchedExports options sha256).run state calls).1 := by
  induction calls generalizing state with
  | nil => exact fun job held _ => ⟨job, held, rfl, rfl, rfl⟩
  | cons call calls ih =>
      rcases careful with ⟨first, rest⟩
      intro job held over_now
      rcases next_changes call watching.sound job held with ⟨middle, present, change⟩
      have kept := change_final first watching.sound held change over_now
      rw [← kept.1] at over_now
      rcases ih (next_watching first watching) rest middle present over_now with
        ⟨new, member, named, same, code⟩
      exact ⟨new, member, named.trans change.same.id, same.trans kept.1, code.trans kept.2⟩

/-- In every run without the three disturbances the outcomes are final and the downloads served. -/
theorem outcomes_final (options : TaskOptions) (sha256 : Bytes → String)
    (first rest : List (Moment × Action))
    (careful : (watchedExports options sha256).Along (Careful options) ({}, {}) (first ++ rest)) :
    OutcomesKept ((watchedExports options sha256).run ({}, {}) first).1
        ((watchedExports options sha256).run ({}, {}) (first ++ rest)).1 ∧
      DownloadsServed options sha256
        ((watchedExports options sha256).run ({}, {}) (first ++ rest)) ∧
      ∀ call more, rest = call :: more →
        ReadyKept ((watchedExports options sha256).run ({}, {}) first).1 call
          ((watchedExports options sha256).run ({}, {}) (first ++ [call])).1 := by
  have both := (watchedExports options sha256).along_append.mp careful
  have watching := run_watching watching_empty both.1
  refine ⟨?_, watching_served (run_watching watching_empty careful), ?_⟩
  · rw [Machine.run_append]
    exact run_outcomes watching both.2
  · rintro call more rfl job held ready
    rw [Machine.run_concat]
    rcases next_changes call watching.sound job held with ⟨new, member, change⟩
    exact ⟨new, member, change.same.id, change_ready watching.sound held change ready⟩

def atStart (actions : List Action) : List (Moment × Action) :=
  actions.map (fun action => ({ now := 1, steady := 1 }, action))

/-- Two readers download one artifact; the second one ends first. -/
def overlapping : List (Moment × Action) :=
  exported "first" firstId ++ atStart
    [.beginRead 1 "first" firstId 0 2, .endRead 1 none, .beginRead 2 "first" firstId 0 4,
      .endRead 2 none]

def cancelled : List (Moment × Action) := atStart [.cancel "first" firstId]

def failing : List (Moment × Action) := atStart
  [.submit (captureOf "first") (.opened 1) firstId, .takeJob, .openSink none,
    .cancel "first" firstId, .throwFrom (.exception "write"), .report]

/-- The end of one download gives the artifact of another one away, and a failure replaces a
cancellation. -/
theorem outcomes_overwritten :
    (exportManager fourBytes byteDigest).Along Orderly {} (overlapping ++ cancelled) ∧
      ((watchedExports fourBytes byteDigest).run ({}, {})
        (overlapping ++ cancelled)).2.downloads = [⟨1, firstId, 1⟩] ∧
      (⟨1, firstId, 1⟩ : Download).current fourBytes 1 = true ∧
      ((watchedExports fourBytes byteDigest).run ({}, {})
        (overlapping ++ cancelled)).1.jobs.map JobRecord.state = [.cancelled] ∧
      (exportManager fourBytes byteDigest).Along Orderly {} failing ∧
      ((exportManager fourBytes byteDigest).run {} (failing.take 4)).jobs.map JobRecord.state =
        [.cancelled] ∧
      ((exportManager fourBytes byteDigest).run {} failing).jobs.map JobRecord.state =
        [.failed] := by
  decide +kernel

def consecutive : List (Moment × Action) :=
  exported "first" firstId ++ atStart
    [.beginRead 1 "first" firstId 0 4, .endRead 1 none, .beginRead 2 "first" firstId 0 2]

theorem outcomes_final_consecutive :
    (watchedExports fourBytes byteDigest).Along (Careful fourBytes) ({}, {})
        (consecutive ++ cancelled) ∧
      DownloadsServed fourBytes byteDigest
        ((watchedExports fourBytes byteDigest).run ({}, {}) (consecutive ++ cancelled)) := by
  have careful : (watchedExports fourBytes byteDigest).Along (Careful fourBytes) ({}, {})
      (consecutive ++ cancelled) := by
    decide +kernel
  exact ⟨careful, (outcomes_final fourBytes byteDigest consecutive cancelled careful).2.1⟩

end Runs

end Msap1.WebBackend
