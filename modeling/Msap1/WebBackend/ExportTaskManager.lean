import Msap1.WebBackend.ExportJobs

/-! `WaveformExportTaskManager` as one state that the critical sections of its calls, the steps of
its worker and the file operations between them take from one to the next. -/

namespace Msap1.WebBackend

/-- The limits that the constructor accepts: all of them positive, byte counts of 64 bits. -/
structure TaskOptions where
  maximumOutputBytes : Nat
  maximumTotalBytes : Nat
  minimumFreeBytes : Nat
  maximumQueuedJobs : Nat
  artifactTtl : Int
  streamLease : Nat
  positive : 0 < maximumOutputBytes ∧ 0 < maximumTotalBytes ∧ 0 < maximumQueuedJobs ∧
    0 < artifactTtl ∧ 0 < streamLease
  representable : maximumOutputBytes < 2 ^ 64 ∧ maximumTotalBytes < 2 ^ 64

/-- What a step finds around it: both clocks in nanoseconds, the free bytes that each round of
`prepare_write_locked` reads, the place of a job in the iteration order of the table, and whether
files can be removed. -/
structure Moment where
  now : Int
  steady : Nat
  free : Nat → Option Nat := fun _ => some (2 ^ 64 - 1)
  rank : String → Nat := fun _ => 0
  removes : Bool := true

/-- Where the worker is: before the sink is open, between two writes or in the middle of one, whose
granted rest is not yet in the file, behind the renaming, or unwound and about to report. -/
inductive Worker where
  | idle
  | starting (jobId : String)
  | converting (jobId : String) (written granted : Bytes)
  | published (jobId : String) (content : Bytes) (profile : String) (frames : Nat)
  | failing (jobId : String) (thrown : Thrown)
  deriving DecidableEq

def Worker.job : Worker → Option String
  | .idle => none
  | .starting jobId => some jobId
  | .converting jobId _ _ => some jobId
  | .published jobId _ _ _ => some jobId
  | .failing jobId _ => some jobId

/-- A `read_chunk` between its two critical sections. -/
structure ReadCall where
  reader : Nat
  owner : String
  jobId : String
  artifact : Option ExportFile
  filename : String
  sha256 : Option String
  totalSize : Nat
  format : ExportFormat
  offset : Nat
  limit : Nat
  deriving DecidableEq

structure WaveformExportChunk where
  content : Bytes
  filename : String
  mediaType : String
  sha256 : Option String
  totalSize : Nat
  endOfFile : Bool
  deriving DecidableEq

structure Manager where
  jobs : List JobRecord := []
  queue : List String := []
  files : ExportFile → Option Bytes := fun _ => none
  worker : Worker := .idle
  reads : List ReadCall := []

inductive Answer where
  | nothing
  | job (job : WaveformExportJob)
  | chunk (chunk : WaveformExportChunk)
  | thrown (thrown : Thrown)
  deriving DecidableEq

/-- How the source of a request could be opened. -/
inductive SourceOutcome where
  | opened (frames : Nat)
  | unavailable (message : String)
  | missing
  | unbounded
  | rejected (code : ConversionErrorCode) (message : String) (missingFields : List String)
  | invalid (message : String)
  deriving DecidableEq

def openSource : SourceOutcome → Except Thrown Nat
  | .opened frames => .ok frames
  | .unavailable message => .error (.exception message)
  | .missing => .error (.task {
      status := .notFound
      message := "selected MNCWF source does not exist" })
  | .unbounded => .error (.task {
      status := .unprocessable
      message := "selected MNCWF source is not a bounded regular file" })
  | .rejected code message missingFields => .error (.task {
      status := if code = .sourceEventNotFound then .notFound else .unprocessable
      message
      code := conversionErrorCodeName code
      missingFields })
  | .invalid message => .error (.task {
      status := .unprocessable
      message := "selected MNCWF source is invalid: " ++ message })

namespace Manager

variable (options : TaskOptions) (moment : Moment) (m : Manager)

def record (jobId : String) : Option JobRecord := m.jobs.find? (fun job => job.id = jobId)

def modify (jobId : String) (change : JobRecord → JobRecord) : Manager :=
  { m with jobs := m.jobs.map (fun job => if job.id = jobId then change job else job) }

def removeFile (file : Option ExportFile) : Manager :=
  { m with files := fun other => if some other = file then none else m.files other }

/-- `update_queue_positions_locked`. -/
def updateQueuePositions : Manager :=
  { m with
    jobs := m.jobs.map (fun job =>
      if job.id ∈ m.queue then
        { job with dto := { job.dto with queuePosition := m.queue.idxOf job.id + 1 } }
      else job) }

def lapsed (job : JobRecord) : JobRecord :=
  if job.listed ∧ job.streaming ∧ job.streamActivity ≠ 0 ∧
      options.streamLease ≤ moment.steady - job.streamActivity then
    { job with streaming := false }
  else job

def outlived (job : JobRecord) : Bool :=
  job.listed && job.state.terminal && job.completionSignalled && !job.streaming &&
    decide (job.completed ≠ 0) && decide (options.artifactTtl ≤ moment.now - job.completed) &&
    (job.artifact.isNone || moment.removes)

def swept (job : JobRecord) : JobRecord :=
  if outlived options moment (lapsed options moment job) then
    { lapsed options moment job with listed := false }
  else lapsed options moment job

/-- `cleanup_expired_locked`. -/
def cleanupExpired : Manager :=
  { m with
    jobs := m.jobs.map (swept options moment)
    files := fun file =>
      if ∃ job ∈ m.jobs, outlived options moment (lapsed options moment job) ∧
          job.artifact = some file then none
      else m.files file }

def evictedRecord (job : JobRecord) : JobRecord :=
  { job with
    dto := { job.dto with
      state := .failed
      errorCode := "artifact_evicted"
      errorMessage := "export artifact was evicted to satisfy storage policy"
      bytes := 0
      sha256 := none }
    artifact := none }

/-- `evict_locked` of a ready job that nobody streams. -/
def evicted (job : JobRecord) : Manager :=
  (m.removeFile job.artifact).modify job.id evictedRecord

/-- The bytes of the ready artifacts beside one job, a sum of 64 bits. -/
def readyBytes (self : String) : Nat :=
  ((m.jobs.filter (fun job => job.ready && job.id ≠ self)).map
    (fun job => job.dto.bytes)).sum % 2 ^ 64

def candidates (self : String) : List JobRecord :=
  m.jobs.filter (fun job => job.ready && !job.streaming && job.id ≠ self)

/-- Whether a job was completed before another one, or comes first in the table. -/
def before (first second : JobRecord) : Bool :=
  first.completed < second.completed ||
    (first.completed = second.completed && moment.rank first.id < moment.rank second.id)

def oldestOf : List JobRecord → Option JobRecord
  | [] => none
  | job :: jobs => match oldestOf jobs with
    | none => some job
    | some best => if before moment job best then some job else some best

/-- The loop of `prepare_write_locked`, which evicts one candidate in each round. -/
def reserve (self : String) (current additional : Nat) :
    Nat → Nat → Manager → Manager × Except Thrown Unit
  | left, round, m => match moment.free round with
    | none => (m, .error (.exception "inspect waveform export filesystem"))
    | some free =>
        if (current + additional ≤ options.maximumTotalBytes ∧
              m.readyBytes self ≤ options.maximumTotalBytes - (current + additional)) ∧
            options.minimumFreeBytes ≤ free ∧ additional ≤ free - options.minimumFreeBytes then
          (m, .ok ())
        else match left, oldestOf moment (m.candidates self) with
          | left + 1, some job =>
              if moment.removes then reserve self current additional left (round + 1)
                (m.evicted job)
              else (m, .error (.storageFull
                "cannot evict the oldest ready waveform export artifact"))
          | _, _ => (m, .error (.storageFull
              "waveform export storage policy cannot reserve output space"))

/-- `prepare_write_locked`. -/
def prepareWrite (self : String) (current additional : Nat) : Manager × Except Thrown Unit :=
  let m := m.cleanupExpired options moment
  if options.maximumOutputBytes < current ∨ options.maximumOutputBytes - current < additional then
    (m, .error (.conversion .outputTooLarge "waveform export exceeds the 1 GiB output limit" []))
  else reserve options moment self current additional (m.candidates self).length 0 m

/-- The job that answers a second request with the same key. -/
def activeJob (key : String) : Option JobRecord :=
  m.jobs.find? (fun job => job.live && job.key = key)

def queueFull : Thrown :=
  .task { status := .queueFull, message := "waveform conversion queue is full" }

/-- The first critical section of `submit`: another job answers the request, or the source is
opened next. -/
def lookup (request : ExportRequest) : Manager × Answer :=
  match parseRequest request with
  | .error thrown => (m, .thrown thrown)
  | .ok _ =>
      let m := m.cleanupExpired options moment
      match m.activeJob request.key with
      | some job => (m, .job job.dto)
      | none =>
          if options.maximumQueuedJobs ≤ m.queue.length then (m, .thrown queueFull)
          else (m, .nothing)

def newRecord (request : ExportRequest) (parsed : ParsedRequest) (frames : Nat)
    (jobId : String) : JobRecord where
  dto := {
    jobId
    state := .queued
    request
    profile := profile parsed.format
    totalFrames := frames
    filename := outputStem request.sourceBasename parsed.scope request.eventId ++
      extension parsed.format
    createdAt := moment.now }
  key := request.key
  artifact := some (.artifact jobId parsed.format)
  format := parsed.format
  scope := parsed.scope
  eventUuid := parsed.eventUuid

def appended (job : JobRecord) : Manager :=
  updateQueuePositions { m with jobs := m.jobs ++ [job], queue := m.queue ++ [job.id] }

def dtoOf (jobId : String) : Answer :=
  match m.record jobId with
  | none => .nothing
  | some job => .job job.dto

/-- The rest of `submit`, once the source is open; `jobId` is a new random UUID. -/
def submit (request : ExportRequest) (source : SourceOutcome) (jobId : String) :
    Manager × Answer :=
  match parseRequest request with
  | .error thrown => (m, .thrown thrown)
  | .ok parsed => match openSource source with
    | .error thrown => (m, .thrown thrown)
    | .ok frames =>
        let m := m.cleanupExpired options moment
        match m.activeJob request.key with
        | some job => (m, .job job.dto)
        | none =>
            if options.maximumQueuedJobs ≤ m.queue.length then (m, .thrown queueFull)
            else match m.prepareWrite options moment jobId 0 1 with
              | (m, .error (.storageFull message)) =>
                  (m, .thrown (.task { status := .storageFull, message, code := "storage_full" }))
              | (m, .error thrown) => (m, .thrown thrown)
              | (m, .ok ()) =>
                  let m := m.appended (newRecord moment request parsed frames jobId)
                  (m, m.dtoOf jobId)

def notFound : Thrown :=
  .task { status := .notFound, message := "waveform export job was not found" }

/-- `find_owned_locked`. -/
def findOwned (jobId owner : String) : Option JobRecord :=
  (m.jobs.find? (fun job => job.listed && job.id = jobId)).filter (fun job =>
    job.dto.request.owner = owner)

/-- What every call on a job checks before it takes the lock. -/
def validateCall (owner jobId : String) : Except Thrown Unit := do
  validateOwner owner
  validateJobId jobId

def status (owner jobId : String) : Manager × Answer :=
  match validateCall owner jobId with
  | .error thrown => (m, .thrown thrown)
  | .ok () =>
      let m := m.cleanupExpired options moment
      match m.findOwned jobId owner with
      | none => (m, .thrown notFound)
      | some job => (m, .job job.dto)

def cancelledRecord (job : JobRecord) : JobRecord :=
  { job with
    dto := { job.dto with
      state := .cancelled
      queuePosition := 0
      bytes := 0
      sha256 := none
      errorCode := "conversion_cancelled"
      errorMessage := "waveform export was cancelled or discarded"
      completedAt := some moment.now
      expiresAt := some (moment.now + options.artifactTtl) }
    completed := moment.now
    completionSignalled := true }

def stoppedRecord (job : JobRecord) : JobRecord := { job with stop := true }

/-- What `cancel` does to a job of its caller. -/
def cancelJob (job : JobRecord) : Manager × Answer :=
  let unqueued :=
    if job.state = .queued then
      updateQueuePositions { m with queue := m.queue.filter (· ≠ job.id) }
    else m
  let stopped :=
    if job.state = .running then unqueued.modify job.id stoppedRecord else unqueued
  if job.state = .ready ∧ job.streaming then
    (stopped, .thrown (.task {
      status := .conflict, message := "waveform export is currently being downloaded" }))
  else if job.state = .ready ∧ job.artifact.isSome then
    if moment.removes then
      let discarded := (stopped.removeFile job.artifact).modify job.id (fun job =>
        cancelledRecord options moment { job with artifact := none })
      (discarded, discarded.dtoOf job.id)
    else (stopped, .thrown (.exception "discard waveform export artifact"))
  else
    let cancelled := stopped.modify job.id (cancelledRecord options moment)
    (cancelled, cancelled.dtoOf job.id)

def cancel (owner jobId : String) : Manager × Answer :=
  match validateCall owner jobId with
  | .error thrown => (m, .thrown thrown)
  | .ok () =>
      let m := m.cleanupExpired options moment
      match m.findOwned jobId owner with
      | none => (m, .thrown notFound)
      | some job => m.cancelJob options moment job

def maximumChunkBytes : Nat := 512 * 1024

def streamedRecord (job : JobRecord) : JobRecord :=
  { job with streaming := true, streamActivity := moment.steady }

/-- The first critical section of `read_chunk`; one reader has one call at a time. -/
def beginRead (reader : Nat) (owner jobId : String) (offset limit : Nat) : Manager × Answer :=
  if ∃ call ∈ m.reads, call.reader = reader then (m, .nothing)
  else match validateCall owner jobId with
    | .error thrown => (m, .thrown thrown)
    | .ok () =>
        if limit = 0 ∨ maximumChunkBytes < limit then
          (m, .thrown (invalidRequest "download chunk limit must be 1..524288"))
        else
          let m := m.cleanupExpired options moment
          match m.findOwned jobId owner with
          | none => (m, .thrown notFound)
          | some job =>
              if job.state ≠ .ready then
                (m, .thrown (.task {
                  status := .conflict, message := "waveform export is not ready for download" }))
              else if job.dto.bytes < offset then
                (m, .thrown (invalidRequest "download offset exceeds artifact size"))
              else
                let streaming := m.modify jobId (streamedRecord moment)
                ({ streaming with
                    reads := m.reads ++ [{
                      reader, owner, jobId, offset, limit
                      artifact := job.artifact
                      filename := job.dto.filename
                      sha256 := job.dto.sha256
                      totalSize := job.dto.bytes
                      format := job.format }] }, .nothing)

def readArtifact (call : ReadCall) (failure : Option String) :
    Except Thrown WaveformExportChunk :=
  match failure, call.artifact.bind m.files with
  | some message, _ => .error (.exception message)
  | none, none => .error (.exception "waveform export artifact is unavailable")
  | none, some content =>
      if content.length ≠ call.totalSize then
        .error (.exception "waveform export artifact identity is invalid")
      else
        let count := min call.limit (call.totalSize - call.offset)
        .ok {
          content := (content.drop call.offset).take count
          filename := call.filename
          mediaType := mediaType call.format
          sha256 := call.sha256
          totalSize := call.totalSize
          endOfFile := call.offset + count = call.totalSize }

def unstreamedRecord (job : JobRecord) : JobRecord := { job with streaming := false }

/-- The end of a stream, which the last chunk and every failure bring. -/
def unstreamed (jobId : String) : Manager := m.modify jobId unstreamedRecord

/-- The rest of `read_chunk`. -/
def endRead (reader : Nat) (failure : Option String) : Manager × Answer :=
  match m.reads.find? (fun call => call.reader = reader) with
  | none => (m, .nothing)
  | some call =>
      let closed := { m with reads := m.reads.filter (fun other => other.reader ≠ reader) }
      match m.readArtifact call failure with
      | .error thrown => (closed.unstreamed call.jobId, .thrown thrown)
      | .ok chunk =>
          (if chunk.endOfFile then closed.unstreamed call.jobId else closed, .chunk chunk)

def runningRecord (job : JobRecord) : JobRecord :=
  { job with
    dto := { job.dto with
      state := .running
      queuePosition := 0
      startedAt := some moment.now } }

def takeJob : Manager :=
  match m.worker, m.queue with
  | .idle, jobId :: queue =>
      let popped := updateQueuePositions { m with queue }
      match popped.record jobId with
      | none => popped
      | some job =>
          if job.state = .cancelled then popped
          else { popped.modify jobId (runningRecord moment) with worker := .starting jobId }
  | _, _ => m

/-- The destructor of an unpublished sink and the exception behind it. -/
def unwound (jobId : String) (thrown : Thrown) : Manager :=
  { (if moment.removes then m.removeFile (some (.part jobId)) else m) with
    worker := .failing jobId thrown }

def openSink (failure : Option String) : Manager :=
  match m.worker with
  | .starting jobId => match failure, m.files (.part jobId) with
    | none, none =>
        { m with
          files := fun file => if file = .part jobId then some [] else m.files file
          worker := .converting jobId [] [] }
    | none, some _ =>
        { m with worker := .failing jobId (.exception "create waveform export partial file") }
    | some message, _ => { m with worker := .failing jobId (.exception message) }
  | _ => m

def startWrite (bytes : Bytes) : Manager :=
  match m.worker with
  | .converting jobId written [] =>
      match m.prepareWrite options moment jobId written.length bytes.length with
      | (m, .ok ()) => { m with worker := .converting jobId written bytes }
      | (m, .error thrown) => m.unwound moment jobId thrown
  | _ => m

def continueWrite (count : Nat) : Manager :=
  match m.worker with
  | .converting jobId written granted =>
      { m with
        files := fun file =>
          if file = .part jobId then some (written ++ granted.take count) else m.files file
        worker := .converting jobId (written ++ granted.take count) (granted.drop count) }
  | _ => m

def progressed (processedFrames totalFrames : Nat) (job : JobRecord) : JobRecord :=
  if job.state = .running then { job with dto := { job.dto with processedFrames, totalFrames } }
  else job

def progress (processedFrames totalFrames : Nat) : Manager :=
  match m.worker with
  | .converting jobId _ _ => m.modify jobId (progressed processedFrames totalFrames)
  | _ => m

def throwFrom (thrown : Thrown) : Manager :=
  match m.worker with
  | .converting jobId _ _ => m.unwound moment jobId thrown
  | _ => m

/-- How far the publication of a converted file comes. -/
inductive Publication where
  | rejected (message : String)
  | unsynchronized (message : String)
  | published
  deriving DecidableEq

/-- The converter returns; the file is checked, hashed and renamed to its artifact. -/
def finish (profile : String) (frames : Nat) (publication : Publication) : Manager :=
  match m.worker with
  | .converting jobId written [] => match m.record jobId with
    | none => m
    | some job =>
        if job.stop then
          m.unwound moment jobId
            (.conversion .conversionCancelled "waveform conversion was cancelled" [])
        else match publication, job.artifact with
          | .rejected message, _ => m.unwound moment jobId (.exception message)
          | _, none => m.unwound moment jobId (.exception "publish waveform export")
          | .unsynchronized message, some artifact =>
              { m with
                files := fun file => if file = artifact then some written
                  else if file = .part jobId then none else m.files file
                worker := .failing jobId (.exception message) }
          | .published, some artifact =>
              { m with
                files := fun file => if file = artifact then some written
                  else if file = .part jobId then none else m.files file
                worker := .published jobId written profile frames }
  | _ => m

def readyRecord (sha256 : Bytes → String) (content : Bytes) (profile : String) (frames : Nat)
    (job : JobRecord) : JobRecord :=
  { job with
    dto := { job.dto with
      state := .ready
      profile
      queuePosition := 0
      processedFrames := frames
      totalFrames := frames
      bytes := content.length
      sha256 := some (sha256 content)
      completedAt := some moment.now
      expiresAt := some (moment.now + options.artifactTtl) }
    completed := moment.now
    completionSignalled := true }

/-- The last critical section of a successful conversion. -/
def complete (sha256 : Bytes → String) : Manager :=
  match m.worker with
  | .published jobId content profile frames => match m.record jobId with
    | none => { m with worker := .idle }
    | some job =>
        if job.state = .cancelled then
          if moment.removes then
            { (m.removeFile job.artifact).modify jobId
              (fun job => { job with artifact := none }) with
              worker := .idle }
          else { m with worker := .idle }
        else
          { m.modify jobId (readyRecord options moment sha256 content profile frames) with
            worker := .idle }
  | _ => m

/-- The state, the error code and the text that an exception of the conversion leaves. -/
def reported : Thrown → JobState × String × String
  | .conversion code message _ =>
      (if code = .conversionCancelled then .cancelled else .failed,
        conversionErrorCodeName code, message)
  | .storageFull message => (.failed, "storage_full", message)
  | .task error => (.failed, "internal_error", error.message)
  | .exception message => (.failed, "internal_error", message)

def failedRecord (thrown : Thrown) (job : JobRecord) : JobRecord :=
  { job with
    dto := { job.dto with
      state := (reported thrown).1
      queuePosition := 0
      errorCode := (reported thrown).2.1
      errorMessage := (reported thrown).2.2
      missingFields := match thrown with
        | .conversion _ _ missingFields => missingFields
        | _ => job.dto.missingFields
      completedAt := some moment.now
      expiresAt := some (moment.now + options.artifactTtl) }
    completed := moment.now
    completionSignalled := true }

def report : Manager :=
  match m.worker with
  | .failing jobId thrown =>
      { m.modify jobId (failedRecord options moment thrown) with worker := .idle }
  | _ => m

inductive Action where
  | lookup (request : ExportRequest)
  | submit (request : ExportRequest) (source : SourceOutcome) (jobId : String)
  | status (owner jobId : String)
  | cancel (owner jobId : String)
  | beginRead (reader : Nat) (owner jobId : String) (offset limit : Nat)
  | endRead (reader : Nat) (failure : Option String)
  | takeJob
  | openSink (failure : Option String)
  | startWrite (bytes : Bytes)
  | continueWrite (count : Nat)
  | progress (processedFrames totalFrames : Nat)
  | throwFrom (thrown : Thrown)
  | finish (profile : String) (frames : Nat) (publication : Publication)
  | complete
  | report

def after (sha256 : Bytes → String) : Action → Manager × Answer
  | .lookup request => m.lookup options moment request
  | .submit request source jobId => m.submit options moment request source jobId
  | .status owner jobId => m.status options moment owner jobId
  | .cancel owner jobId => m.cancel options moment owner jobId
  | .beginRead reader owner jobId offset limit =>
      m.beginRead options moment reader owner jobId offset limit
  | .endRead reader failure => m.endRead reader failure
  | .takeJob => (m.takeJob moment, .nothing)
  | .openSink failure => (m.openSink failure, .nothing)
  | .startWrite bytes => (m.startWrite options moment bytes, .nothing)
  | .continueWrite count => (m.continueWrite count, .nothing)
  | .progress processedFrames totalFrames => (m.progress processedFrames totalFrames, .nothing)
  | .throwFrom thrown => (m.throwFrom moment thrown, .nothing)
  | .finish profile frames publication => (m.finish moment profile frames publication, .nothing)
  | .complete => (m.complete options moment sha256, .nothing)
  | .report => (m.report options moment, .nothing)

end Manager

/-- Every interleaving of calls and worker steps is a run of this machine. -/
def exportManager (options : TaskOptions) (sha256 : Bytes → String) :
    Machine Manager (Moment × Manager.Action) Answer where
  step := fun m call => m.after options call.1 sha256 call.2

end Msap1.WebBackend
