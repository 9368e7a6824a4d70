import Msap1.WebBackend.ExportChanges

/-! What the calls of one owner show and change: nothing of another owner but an artifact that goes
to make room. -/

namespace Msap1.WebBackend

open Manager

variable {options : TaskOptions} {sha256 : Bytes → String} {moment : Moment} {m after : Manager}

section Reads

/-- A read names a job of its owner and the artifact of that job. -/
def ReadSound (m : Manager) (read : ReadCall) : Prop :=
  ∃ job ∈ m.jobs, job.id = read.jobId ∧ job.dto.request.owner = read.owner ∧
    read.artifact = some (.artifact job.id job.format) ∧ read.filename = job.dto.filename

/-- A read that a step begins, and the ready job behind it. -/
structure Opened (options : TaskOptions) (moment : Moment) (m after : Manager) (action : Action)
    (read : ReadCall) (job : JobRecord) : Prop where
  call : action = .beginRead read.reader read.owner read.jobId read.offset read.limit
  held : job ∈ (m.cleanupExpired options moment).jobs
  named : job.id = read.jobId
  own : job.dto.request.owner = read.owner
  ready : job.ready = true
  artifact : read.artifact = job.artifact
  filename : read.filename = job.dto.filename
  streamed : streamedRecord moment job ∈ after.jobs

theorem reads_kept {read : ReadCall} (reads : after.reads = m.reads) (member : read ∈ after.reads)
    (other : Prop) : read ∈ m.reads ∨ other := .inl (reads ▸ member)

theorem lookup_reads (request : ExportRequest) :
    (m.lookup options moment request).1.reads = m.reads := by
  unfold lookup
  split
  · rfl
  · dsimp only
    split
    · rfl
    · split <;> rfl

theorem submit_reads (request : ExportRequest) (source : SourceOutcome) (jobId : String) :
    (m.submit options moment request source jobId).1.reads = m.reads := by
  unfold submit
  split
  · rfl
  · split
    · rfl
    · dsimp only
      split
      · rfl
      · split
        · rfl
        · split
          · next later message prepared => exact (prepareWrite_reclaimed prepared).1.frame.2.2
          · next later thrown prepared => exact (prepareWrite_reclaimed prepared).1.frame.2.2
          · next later prepared => exact (prepareWrite_reclaimed prepared).1.frame.2.2

theorem status_reads (owner jobId : String) :
    (m.status options moment owner jobId).1.reads = m.reads := by
  unfold status
  split
  · rfl
  · dsimp only
    split <;> rfl

theorem cancel_reads (owner jobId : String) :
    (m.cancel options moment owner jobId).1.reads = m.reads := by
  unfold cancel
  split
  · rfl
  · dsimp only
    split
    · rfl
    · unfold cancelJob
      dsimp only
      split
      · split <;> split <;> rfl
      · split
        · split <;> split <;> split <;> rfl
        · split <;> split <;> rfl

theorem takeJob_reads : (m.takeJob moment).reads = m.reads := by
  unfold takeJob
  split
  · dsimp only
    split
    · rfl
    · split <;> rfl
  · rfl

theorem unwound_reads (jobId : String) (thrown : Thrown) :
    (m.unwound moment jobId thrown).reads = m.reads := by
  unfold unwound
  dsimp only
  split <;> rfl

theorem openSink_reads (failure : Option String) : (m.openSink failure).reads = m.reads := by
  unfold openSink
  split
  · split <;> rfl
  · rfl

theorem startWrite_reads (bytes : Bytes) :
    (m.startWrite options moment bytes).reads = m.reads := by
  unfold startWrite
  split
  · split
    · next later prepared => exact (prepareWrite_reclaimed prepared).1.frame.2.2
    · next later thrown prepared =>
        rw [unwound_reads]
        exact (prepareWrite_reclaimed prepared).1.frame.2.2
  · rfl

theorem finish_reads (profile : String) (frames : Nat) (publication : Publication) :
    (m.finish moment profile frames publication).reads = m.reads := by
  unfold finish
  split
  · split
    · rfl
    · split
      · exact unwound_reads _ _
      · split
        · exact unwound_reads _ _
        · exact unwound_reads _ _
        · rfl
        · rfl
  · rfl

theorem complete_reads : (m.complete options moment sha256).reads = m.reads := by
  unfold complete
  split
  · split
    · rfl
    · split
      · split <;> rfl
      · rfl
  · rfl

theorem beginRead_opened (reader : Nat) (owner jobId : String) (offset limit : Nat) :
    ((m.beginRead options moment reader owner jobId offset limit).1.reads = m.reads ∧
      ((∃ call ∈ m.reads, call.reader = reader) ∨
        (m.beginRead options moment reader owner jobId offset limit).2 ≠ .nothing)) ∨
    ∃ read job, Opened options moment m
        (m.beginRead options moment reader owner jobId offset limit).1
        (.beginRead reader owner jobId offset limit) read job ∧
      (m.beginRead options moment reader owner jobId offset limit).1.reads = m.reads ++ [read] := by
  unfold beginRead
  split
  · next pending => exact .inl ⟨rfl, .inl pending⟩
  · split
    · exact .inl ⟨rfl, .inr nofun⟩
    · split
      · exact .inl ⟨rfl, .inr nofun⟩
      · dsimp only
        split
        · exact .inl ⟨rfl, .inr nofun⟩
        · next job found =>
            rcases findOwned_mem found with ⟨held, rfl, listed, rfl⟩
            split
            · exact .inl ⟨rfl, .inr nofun⟩
            · next ready =>
                split
                · exact .inl ⟨rfl, .inr nofun⟩
                · refine .inr ⟨_, job, ⟨rfl, held, rfl, rfl, ?_, rfl, rfl, ?_⟩, rfl⟩
                  · exact ready_iff.mpr ⟨listed, not_not.mp ready⟩
                  · exact List.mem_map.mpr ⟨job, held, if_pos rfl⟩

theorem beginRead_reads (reader : Nat) (owner jobId : String) (offset limit : Nat) {read : ReadCall}
    (member : read ∈ (m.beginRead options moment reader owner jobId offset limit).1.reads) :
    read ∈ m.reads ∨ ∃ job, Opened options moment m
      (m.beginRead options moment reader owner jobId offset limit).1
      (.beginRead reader owner jobId offset limit) read job := by
  rcases beginRead_opened reader owner jobId offset limit with
    ⟨same, -⟩ | ⟨begun, job, opened, reads⟩
  · exact .inl (same ▸ member)
  · rw [reads] at member
    rcases List.mem_append.mp member with old | last
    · exact .inl old
    · rw [List.mem_singleton] at last
      exact .inr ⟨job, last ▸ opened⟩

theorem endRead_reads (reader : Nat) (failure : Option String) {read : ReadCall}
    (member : read ∈ (m.endRead reader failure).1.reads) : read ∈ m.reads := by
  unfold endRead at member
  split at member
  · exact member
  · dsimp only at member
    split at member
    · exact (List.mem_filter.mp member).1
    · dsimp only at member
      split at member <;> exact (List.mem_filter.mp member).1

theorem next_reads (call : Moment × Action) {read : ReadCall}
    (member : read ∈ ((exportManager options sha256).next m call).reads) :
    read ∈ m.reads ∨ ∃ job, Opened options call.1 m ((exportManager options sha256).next m call)
      call.2 read job := by
  rcases call with ⟨moment, action⟩
  change read ∈ (m.after options moment sha256 action).1.reads at member
  cases action with
  | lookup request => exact reads_kept (lookup_reads request) member _
  | submit request source jobId => exact reads_kept (submit_reads request source jobId) member _
  | status owner jobId => exact reads_kept (status_reads owner jobId) member _
  | cancel owner jobId => exact reads_kept (cancel_reads owner jobId) member _
  | beginRead reader owner jobId offset limit =>
      exact beginRead_reads reader owner jobId offset limit member
  | endRead reader failure => exact .inl (endRead_reads reader failure member)
  | takeJob => exact reads_kept takeJob_reads member _
  | openSink failure => exact reads_kept (openSink_reads failure) member _
  | startWrite bytes => exact reads_kept (startWrite_reads bytes) member _
  | continueWrite count =>
      refine reads_kept ?_ member _
      unfold after continueWrite
      dsimp only
      split <;> rfl
  | progress processedFrames totalFrames =>
      refine reads_kept ?_ member _
      unfold after progress
      dsimp only
      split <;> rfl
  | throwFrom thrown =>
      refine reads_kept ?_ member _
      unfold after throwFrom
      dsimp only
      split
      · exact unwound_reads _ _
      · rfl
  | finish profile frames publication =>
      exact reads_kept (finish_reads profile frames publication) member _
  | complete => exact reads_kept complete_reads member _
  | report =>
      refine reads_kept ?_ member _
      unfold after report
      dsimp only
      split <;> rfl

theorem next_readSound (call : Moment × Action) (sound : Sound options sha256 m)
    (reads : ∀ read ∈ m.reads, ReadSound m read) :
    ∀ read ∈ ((exportManager options sha256).next m call).reads,
      ReadSound ((exportManager options sha256).next m call) read := by
  intro read member
  rcases next_reads call member with old | ⟨job, opened⟩
  · rcases reads read old with ⟨job, held, named, own, artifact, filename⟩
    rcases next_changes call sound job held with ⟨new, present, change⟩
    have same := change.same
    refine ⟨new, present, same.id.trans named, ?_, ?_, ?_⟩
    · rw [same.request, own]
    · rw [same.id, same.format, artifact]
    · rw [same.filename, filename]
  · refine ⟨_, opened.streamed, opened.named, opened.own, ?_, opened.filename⟩
    have swept : Sound options sha256 (m.cleanupExpired options call.1) :=
      cleanupExpired_sound sound
    rw [opened.artifact]
    exact ((swept.jobs job opened.held).ready opened.ready).1

end Reads

section Owners

/-- The owner who makes a call; the steps of the worker have none. -/
def Manager.caller (m : Manager) : Action → Option String
  | .lookup request => some request.owner
  | .submit request _ _ => some request.owner
  | .status owner _ => some owner
  | .cancel owner _ => some owner
  | .beginRead _ owner _ _ _ => some owner
  | .endRead reader _ =>
      (m.reads.find? (fun call => call.reader = reader)).map ReadCall.owner
  | _ => none

/-- An answer shows a job of the owner, or a piece of the artifact of one. -/
def Revealed (m : Manager) (owner : String) : Answer → Prop
  | .job job => job.request.owner = owner
  | .chunk chunk => ∃ job ∈ m.jobs, job.dto.request.owner = owner ∧
      chunk.filename = job.dto.filename ∧
      ∃ content, m.files (.artifact job.id job.format) = some content ∧
        ∃ offset count, chunk.content = (content.drop offset).take count
  | _ => True

theorem activeJob_owner (sound : Sound options sha256 m) {request : ExportRequest}
    {parsed : ParsedRequest} (accepted : parseRequest request = .ok parsed) {job : JobRecord}
    (found : m.activeJob request.key = some job) : job.dto.request.owner = request.owner := by
  rcases activeJob_mem found with ⟨held, -, key⟩
  have own := sound.jobs job held
  exact owner_of_key own.owner (parseRequest_owner accepted) (own.key.symm.trans key)

theorem lookup_revealed (sound : Sound options sha256 m) (request : ExportRequest) :
    Revealed m request.owner (m.lookup options moment request).2 := by
  unfold lookup
  split
  · trivial
  · next parsed accepted =>
      dsimp only
      split
      · next job found => exact activeJob_owner (cleanupExpired_sound sound) accepted found
      · split <;> trivial

theorem dtoOf_revealed {jobId owner : String}
    (own : ∀ job ∈ after.jobs, job.id = jobId → job.dto.request.owner = owner) :
    Revealed m owner (after.dtoOf jobId) := by
  unfold dtoOf
  split
  · trivial
  · next job found =>
      rcases record_mem found with ⟨held, named⟩
      exact own job held named

theorem submit_revealed (sound : Sound options sha256 m) (request : ExportRequest)
    (source : SourceOutcome) (jobId : String) (fresh : ∀ job ∈ m.jobs, job.id ≠ jobId) :
    Revealed m request.owner (m.submit options moment request source jobId).2 := by
  unfold submit
  split
  · trivial
  · next parsed accepted =>
      split
      · trivial
      · next frames opened =>
          dsimp only
          split
          · next job found => exact activeJob_owner (cleanupExpired_sound sound) accepted found
          · split
            · trivial
            · split
              · trivial
              · trivial
              · next later prepared =>
                  apply dtoOf_revealed
                  intro job held named
                  rcases mem_appended held with ⟨old, origin, rfl⟩
                  have same := numbered_same
                    (later.appended (newRecord moment request parsed frames jobId)).queue old
                  rw [same.request]
                  rcases origin with present | rfl
                  · have known : old.id ∈ later.jobs.map JobRecord.id := List.mem_map_of_mem present
                    rw [(prepareWrite_reclaimed prepared).1.ids, cleanupExpired_ids] at known
                    rcases List.mem_map.mp known with ⟨first, member, id⟩
                    exact absurd (id.trans (same.id.symm.trans named)) (fresh first member)
                  · rfl

theorem status_revealed (owner jobId : String) :
    Revealed m owner (m.status options moment owner jobId).2 := by
  unfold status
  split
  · trivial
  · dsimp only
    split
    · trivial
    · next job found => exact (findOwned_mem found).2.2.2

theorem cancelJob_revealed {job : JobRecord} (sound : Sound options sha256 m)
    (held : job ∈ m.jobs) (listed : job.listed = true) (read : Manager) :
    Revealed read job.dto.request.owner (m.cancelJob options moment job).2 := by
  have kept : Revealed read job.dto.request.owner
      ((m.cancelJob options moment job).1.dtoOf job.id) := by
    apply dtoOf_revealed
    intro other found named
    have present : Sound options sha256 (m.cancelJob options moment job).1 :=
      cancelJob_sound sound held listed
    have changes : ∃ new ∈ (m.cancelJob options moment job).1.jobs,
        CancelChange options moment job job new :=
      cancelJob_changes sound held listed job held
    rcases changes with ⟨new, member, change⟩
    have same : SameJob job new := by
      rcases change with fate | ⟨-, cancelled⟩
      · exact fate.same
      · exact cancelled.same
    rw [present.same found member (named.trans same.id.symm), same.request]
  unfold cancelJob at kept ⊢
  dsimp only at kept ⊢
  split
  · trivial
  · next free =>
      rw [if_neg free] at kept
      split
      · next stored =>
          rw [if_pos stored] at kept
          split
          · next removes =>
              rw [if_pos removes] at kept
              exact kept
          · trivial
      · next bare =>
          rw [if_neg bare] at kept
          exact kept

theorem cancel_revealed (sound : Sound options sha256 m) (owner jobId : String) :
    Revealed m owner (m.cancel options moment owner jobId).2 := by
  unfold cancel
  split
  · trivial
  · dsimp only
    split
    · trivial
    · next job found =>
        rcases findOwned_mem found with ⟨held, -, listed, rfl⟩
        exact cancelJob_revealed (cleanupExpired_sound sound) held listed m

theorem beginRead_revealed (reader : Nat) (owner jobId : String) (offset limit : Nat) :
    Revealed m owner (m.beginRead options moment reader owner jobId offset limit).2 := by
  unfold beginRead
  split
  · trivial
  · split
    · trivial
    · split
      · trivial
      · dsimp only
        split
        · trivial
        · split
          · trivial
          · split <;> trivial

theorem endRead_revealed {reader : Nat} {failure : Option String} {read : ReadCall}
    (began : m.reads.find? (fun call => call.reader = reader) = some read)
    (sound : ReadSound m read) : Revealed m read.owner (m.endRead reader failure).2 := by
  rcases sound with ⟨job, held, named, own, artifact, filename⟩
  unfold endRead
  rw [began]
  dsimp only
  split
  · trivial
  · next chunk result =>
      refine ⟨job, held, own, ?_⟩
      unfold readArtifact at result
      rw [artifact] at result
      cases failure with
      | some message => cases result
      | none =>
          cases content : m.files (.artifact job.id job.format) with
          | none => simp [content] at result
          | some bytes =>
              simp only [Option.bind_some, content] at result
              split at result
              · cases result
              · cases result
                exact ⟨filename, bytes, rfl, read.offset, _, rfl⟩

/-- A call of another owner leaves a job to the clean-up, to evictions and to a new position. -/
theorem next_spared {call : Moment × Action} {owner : String} {job new : JobRecord}
    (sound : Sound options sha256 m) (reads : ∀ read ∈ m.reads, ReadSound m read)
    (calls : m.caller call.2 = some owner) (held : job ∈ m.jobs)
    (other : job.dto.request.owner ≠ owner)
    (change : JobChange options call.1 sha256 m call.2 job new) :
    Fate options call.1 job new := by
  rcases call with ⟨moment, action⟩
  dsimp only at calls change
  cases change with
  | spared fate => exact fate
  | cancelled asked named own =>
      subst asked
      exact absurd (own.trans (Option.some.inj calls)) other
  | streamed asked named own =>
      subst asked
      exact absurd (own.trans (Option.some.inj calls)) other
  | unstreamed asked began named =>
      subst asked
      rw [caller, began] at calls
      rcases reads _ (List.mem_of_find?_eq_some began) with ⟨behind, present, id, own, -⟩
      rw [sound.same held present (named.trans id.symm)] at other
      exact absurd (own.trans (Option.some.inj calls)) other
  | started asked => subst asked; cases calls
  | progressed asked => subst asked; cases calls
  | completed asked => subst asked; cases calls
  | discarded asked => subst asked; cases calls
  | reported thrown asked => subst asked; cases calls

theorem next_revealed {call : Moment × Action} {owner : String} (orderly : Orderly m call)
    (sound : Sound options sha256 m) (reads : ∀ read ∈ m.reads, ReadSound m read)
    (calls : m.caller call.2 = some owner) :
    Revealed m owner ((exportManager options sha256).answer m call) := by
  rcases call with ⟨moment, action⟩
  rcases orderly with ⟨-, fresh⟩
  change Revealed m owner (m.after options moment sha256 action).2
  cases action with
  | lookup request =>
      cases calls
      exact lookup_revealed sound request
  | submit request source jobId =>
      cases calls
      exact submit_revealed sound request source jobId fresh
  | status owner jobId =>
      cases calls
      exact status_revealed owner jobId
  | cancel owner jobId =>
      cases calls
      exact cancel_revealed sound owner jobId
  | beginRead reader owner jobId offset limit =>
      cases calls
      exact beginRead_revealed reader owner jobId offset limit
  | endRead reader failure =>
      rcases Option.map_eq_some_iff.mp calls with ⟨read, began, rfl⟩
      exact endRead_revealed began (reads read (List.mem_of_find?_eq_some began))
  | takeJob => cases calls
  | openSink failure => cases calls
  | startWrite bytes => cases calls
  | continueWrite count => cases calls
  | progress processedFrames totalFrames => cases calls
  | throwFrom thrown => cases calls
  | finish profile frames publication => cases calls
  | complete => cases calls
  | report => cases calls

theorem run_readSound (calls : List (Moment × Action))
    (orderly : (exportManager options sha256).Along Orderly {} calls) :
    ∀ read ∈ ((exportManager options sha256).run {} calls).reads,
      ReadSound ((exportManager options sha256).run {} calls) read := by
  have both := (exportManager options sha256).along_invariant Orderly
    (fun m => Sound options sha256 m ∧ ∀ read ∈ m.reads, ReadSound m read)
    (fun m call orderly holds =>
      ⟨next_sound call orderly holds.1, next_readSound call holds.1 holds.2⟩)
    {} ⟨sound_empty, fun _ absent => nomatch absent⟩ calls orderly
  exact both.2

end Owners

section Guarantees

theorem partialBytes_le (sound : Sound options sha256 m) : m.partialBytes ≤ m.worker.reserved := by
  have output := sound.output
  unfold Manager.partialBytes
  cases phase : m.worker with
  | converting jobId written granted =>
      rw [phase] at output
      simp only [Worker.Output] at output
      simp only [output, Option.map_some, Option.getD_some, Worker.reserved]
      exact Nat.le_add_right _ _
  | idle => exact Nat.zero_le _
  | starting jobId => exact Nat.zero_le _
  | published jobId content profile frames => exact Nat.zero_le _
  | failing jobId thrown => exact Nat.zero_le _

/-- Jobs are numbered from one in the order of the queue, and by zero outside of it. -/
structure Numbered (m : Manager) : Prop where
  distinct : m.queue.Nodup
  waiting : ∀ index jobId, m.queue[index]? = some jobId →
    ∃ job ∈ m.jobs, job.id = jobId ∧ job.state = .queued ∧ job.dto.queuePosition = index + 1
  others : ∀ job ∈ m.jobs, job.id ∉ m.queue → job.dto.queuePosition = 0

theorem sound_numbered (sound : Sound options sha256 m) : Numbered m := by
  refine ⟨sound.distinct, ?_, ?_⟩
  · intro index jobId found
    have waiting := List.mem_of_getElem? found
    rcases sound.known jobId waiting with ⟨job, held, rfl⟩
    have own := sound.jobs job held
    refine ⟨job, held, rfl, own.queued.mpr waiting, ?_⟩
    rw [own.position, position, if_pos waiting]
    rcases List.getElem?_eq_some_iff.mp found with ⟨bound, at_index⟩
    rw [← at_index, sound.distinct.idxOf_getElem]
  · intro job held absent
    rw [(sound.jobs job held).position, position, if_neg absent]

/-- What holds of the jobs and files in every state. -/
structure Kept (options : TaskOptions) (sha256 : Bytes → String) (m : Manager) : Prop where
  single : ∀ first ∈ m.jobs, ∀ second ∈ m.jobs, first.live → second.live →
    first.dto.request = second.dto.request → first = second
  backed : ∀ job ∈ m.jobs, job.ready → Backed sha256 m.files job
  bounded : m.artifactBytes + m.partialBytes ≤ options.maximumTotalBytes
  numbered : Numbered m

theorem sound_kept (sound : Sound options sha256 m) : Kept options sha256 m where
  single := by
    intro first one second other firstLive secondLive same
    have key : first.key = second.key := by
      rw [(sound.jobs first one).key, (sound.jobs second other).key, same]
    exact sound.same one other (sound.unique first one second other firstLive secondLive key)
  backed := fun job held => (sound.jobs job held).ready
  bounded := (Nat.add_le_add_left (partialBytes_le sound) _).trans sound.quota
  numbered := sound_numbered sound

/-- A call shows its owner nothing of another one, and leaves the jobs of the others to the
clean-up, to evictions and to new positions. -/
def Private (options : TaskOptions) (sha256 : Bytes → String) (m : Manager)
    (call : Moment × Action) : Prop :=
  ∀ owner, m.caller call.2 = some owner →
    Revealed m owner ((exportManager options sha256).answer m call) ∧
      ∀ job ∈ m.jobs, job.dto.request.owner ≠ owner →
        ∃ new ∈ ((exportManager options sha256).next m call).jobs, Fate options call.1 job new

theorem exports_kept (options : TaskOptions) (sha256 : Bytes → String)
    (calls : List (Moment × Action))
    (orderly : (exportManager options sha256).Along Orderly {} calls) :
    Kept options sha256 ((exportManager options sha256).run {} calls) ∧
      ∀ call, Orderly ((exportManager options sha256).run {} calls) call →
        Private options sha256 ((exportManager options sha256).run {} calls) call := by
  have sound := run_sound calls orderly
  have reads := run_readSound calls orderly
  refine ⟨sound_kept sound, ?_⟩
  intro call allowed owner calls
  refine ⟨next_revealed allowed sound reads calls, ?_⟩
  intro job held other
  rcases next_changes call sound job held with ⟨new, member, change⟩
  exact ⟨new, member, next_spared sound reads calls held other change⟩

def fourBytes : TaskOptions where
  maximumOutputBytes := 4
  maximumTotalBytes := 4
  minimumFreeBytes := 0
  maximumQueuedJobs := 2
  artifactTtl := 10
  streamLease := 10
  positive := by decide
  representable := by decide

def captureOf (owner : String) : ExportRequest where
  owner := owner
  sessionId := "1"
  sourceBasename := "a.mncwf"
  scope := "capture"
  eventId := ""
  format := "pqdif"

/-- A stand-in for the digest, with a digit for each byte. -/
def byteDigest (bytes : Bytes) : String :=
  String.ofList (bytes.map fun byte => Char.ofNat (48 + byte.toNat % 10))

def firstId : String := "00000000-0000-0000-0000-000000000001"

def secondId : String := "00000000-0000-0000-0000-000000000002"

def exported (owner jobId : String) : List (Moment × Action) :=
  [.submit (captureOf owner) (.opened 1) jobId, .takeJob, .openSink none, .startWrite [1, 2, 3, 4],
    .continueWrite 4, .finish "profile" 1 .published, .complete].map
      (fun action => ({ now := 1, steady := 1 }, action))

def secondSubmit : Moment × Action :=
  ({ now := 1, steady := 1 }, .submit (captureOf "second") (.opened 1) secondId)

/-- The second owner's submission fails the first owner's ready job. -/
theorem submission_evicts_other_owner :
    (exportManager fourBytes byteDigest).Along Orderly {}
        (exported "first" firstId ++ [secondSubmit]) ∧
      ((exportManager fourBytes byteDigest).run {} (exported "first" firstId)).jobs.map
        (fun job => (job.dto.request.owner, job.state)) = [("first", .ready)] ∧
      ((exportManager fourBytes byteDigest).run {}
        (exported "first" firstId ++ [secondSubmit])).jobs.map
          (fun job => (job.dto.request.owner, job.state)) =
        [("first", .failed), ("second", .queued)] := by
  decide +kernel

theorem exports_kept_exported :
    (exportManager fourBytes byteDigest).Along Orderly {} (exported "first" firstId) ∧
      Kept fourBytes byteDigest
        ((exportManager fourBytes byteDigest).run {} (exported "first" firstId)) := by
  have orderly : (exportManager fourBytes byteDigest).Along Orderly {}
      (exported "first" firstId) := by
    decide +kernel
  exact ⟨orderly, (exports_kept fourBytes byteDigest (exported "first" firstId) orderly).1⟩

end Guarantees

end Msap1.WebBackend
