import Msap1.Machine
import Msap1.DataSender.Outbox

/-! Startup recovery, and whole lives of an outbox: calls that run to their end or stop after
some of their durable effects, and crashes. -/

namespace Msap1.DataSender

def splitExtension (filename : String) : String × String :=
  let reversed := filename.toList.reverse
  let extension := reversed.takeWhile (fun character => character ≠ '.')
  if extension.length = reversed.length then (filename, "")
  else (String.ofList (reversed.drop (extension.length + 1)).reverse,
    String.ofList extension.reverse)

namespace Outbox

variable (sha256 : Body → String) (removable : String → Bool) (outbox : Outbox)

/-- The payload of one row that an unfinished `erase` left behind. -/
def unlinkPending (artifact : Artifact) : List Outbox :=
  if artifact.payloadPresent && removable artifact.filename then
    [outbox.removeFile artifact.localOnly artifact.filename]
  else []

def finishPendingDeletions : List Outbox :=
  Trail.andThen outbox
    (Trail.each (unlinkPending removable) outbox
      (outbox.artifacts.filter (fun artifact => artifact.deletePending)))
    (fun unlinked => [unlinked.deleteArtifacts (fun artifact => artifact.deletePending)])

/-- The statement that blocks what is left to deliver of an artifact. -/
def blockDeliveries (artifactId error : String) : Outbox :=
  outbox.updateDeliveries
    (fun delivery => delivery.artifactId = artifactId && !decide delivery.state.Settled)
    (fun delivery => { delivery with state := .blocked, lastError := error })

def blockArtifact (artifactId error : String) : List Outbox :=
  let noted := outbox.updateArtifact artifactId (fun row => { row with recoveryError := error })
  [noted, noted.blockDeliveries artifactId error]

/-- The first loop of `recover_locked`, on one manifest. Reading a payload that is there
succeeds. -/
def recoverManifest (artifact : Artifact) : List Outbox :=
  let complete := !artifact.localOnly && outbox.allSucceeded artifact.artifactId
  match outbox.file? artifact.localOnly artifact.filename with
  | none =>
      if complete then
        [outbox.updateArtifact artifact.artifactId (fun row =>
          { row with payloadPresent := false, recoveryError := "" })]
      else if artifact.payloadPresent then
        let noted := outbox.updateArtifact artifact.artifactId (fun row =>
          { row with payloadPresent := false, recoveryError := "manifest payload is missing" })
        [noted, noted.blockDeliveries artifact.artifactId "manifest payload is missing"]
      else []
  | some body =>
      if body.length ≠ artifact.sizeBytes then
        outbox.blockArtifact artifact.artifactId "payload size mismatch"
      else if sha256 body ≠ artifact.checksumSha256 then
        outbox.blockArtifact artifact.artifactId "payload checksum mismatch"
      else if complete then
        outbox.finalizeCompleted (removable artifact.filename) artifact.artifactId
      else []

def leading (count : Nat) (text : String) : String := String.ofList (text.toList.take count)

def recoveredIdentity (stem checksum : String) : String :=
  let identity := if safeIdentity stem then stem else "recovered-" ++ leading 24 checksum
  if (outbox.artifact? identity).isSome then identity ++ "-" ++ leading 12 checksum
  else identity

def recoveredRow (file : PayloadFile) (identity checksum extension : String) : Artifact where
  artifactId := identity
  jobId := "recovered"
  jobRevision := 1
  filename := file.filename
  mimeType := if extension = "json" then "application/json" else "text/csv; charset=utf-8"
  contentFormat := extension
  checksumSha256 := checksum
  sizeBytes := file.body.length
  sourceWindow := ⟨0, 0⟩
  generatedAt := 0
  createdAt := 0
  localOnly := file.localOnly
  payloadPresent := true
  recoveryError :=
    if file.localOnly then "recovered local-only file without manifest"
    else "recovered unsent file without delivery manifest"

/-- The second loop of `recover_locked`, on one file of the directories. -/
def recoverFile (filenames : List String) (file : PayloadFile) :
    Except SenderFailure (List Outbox) :=
  let (stem, extension) := splitExtension file.filename
  if ¬ safeFilename file.filename ∨ file.filename ∈ filenames ∨
      (extension ≠ "json" ∧ extension ≠ "csv") then .ok []
  else
    let checksum := sha256 file.body
    let identity := outbox.recoveredIdentity stem checksum
    if ∃ artifact ∈ outbox.artifacts,
        artifact.artifactId = identity ∨ artifact.filename = file.filename then
      .error (.failure (.runtimeError "UNIQUE constraint failed: artifacts"))
    else .ok [{ outbox with
      artifacts := outbox.artifacts ++ [recoveredRow file identity checksum extension] }]

def recoverFiles (filenames : List String) :
    Outbox → List PayloadFile → List Outbox × Except SenderFailure Unit
  | _, [] => ([], .ok ())
  | outbox, file :: files => match outbox.recoverFile sha256 filenames file with
    | .error failure => ([], .error failure)
    | .ok trail =>
        let rest := recoverFiles filenames (Trail.last outbox trail) files
        (trail ++ rest.1, rest.2)

def recoverManifests : List Outbox :=
  Trail.each (recoverManifest sha256 removable) outbox
    (outbox.artifacts.filter (fun artifact => !artifact.deletePending))

/-- Both loops of `recover_locked`: the manifests and then the files of both directories. -/
def recover : List Outbox × Except SenderFailure Unit :=
  let manifests := outbox.recoverManifests sha256 removable
  let checked := Trail.last outbox manifests
  let filenames := (outbox.artifacts.filter (fun artifact => !artifact.deletePending)).map
    Artifact.filename
  let files := recoverFiles sha256 filenames checked
    (checked.files.filter (fun file => !file.localOnly) ++
      checked.files.filter (fun file => file.localOnly))
  (manifests ++ files.1, files.2)

/-- `initialize`. -/
def initializeOutbox : List Outbox × Except SenderFailure Unit :=
  if outbox.initialized then ([], .ok ())
  else
    let finished := outbox.finishPendingDeletions removable
    let recovered := recover sha256 removable (Trail.last outbox finished)
    let trail := finished ++ recovered.1
    match recovered.2 with
    | .error failure => (trail, .error failure)
    | .ok () => (trail ++ [{ Trail.last outbox trail with initialized := true }], .ok ())

end Outbox

inductive Call where
  | initializeOutbox (removable : String → Bool)
  | updateStoragePolicy (policy : OutboxStoragePolicy)
  | enqueue (dataset : GeneratedDataset) (content : GeneratedContent) (channelIds : List String)
      (localOnly : Bool) (available : Nat)
  | claimDue (now leaseUntil : UtcNanoseconds) (limit : Nat)
  | recordResult (artifactId channelId : String) (result : DeliveryResult)
      (attemptedAt nextAttempt : UtcNanoseconds) (removable : Bool)
  | retry (artifactIds : List String) (now : UtcNanoseconds)
  | retryChannel (channelId : String) (now : UtcNanoseconds)
  | pruneCompleted (now : UtcNanoseconds)
  | erase (artifactIds : List String) (discardUnsent : Bool)
  | storeWatermark (watermark : JobWatermark)

inductive Answer where
  | done
  | claimed (deliveries : List QueuedDelivery)
  | failed (failure : SenderFailure)
  | interrupted

def answerOf : Except SenderFailure Unit → Answer
  | .ok () => .done
  | .error failure => .failed failure

def single : Except SenderFailure Outbox → List Outbox × Answer
  | .ok after => ([after], .done)
  | .error failure => ([], .failed failure)

def Outbox.effects (sha256 : Body → String) (outbox : Outbox) : Call → List Outbox × Answer
  | .initializeOutbox removable =>
      let called := outbox.initializeOutbox sha256 removable
      (called.1, answerOf called.2)
  | .updateStoragePolicy policy => single (outbox.updateStoragePolicy policy)
  | .enqueue dataset content channelIds localOnly available =>
      let called := outbox.enqueue sha256 dataset content channelIds localOnly available
      (called.1, answerOf called.2)
  | .claimDue now leaseUntil limit => match outbox.claimDue now leaseUntil limit with
    | .error failure => ([], .failed failure)
    | .ok (deliveries, after) => ([after], .claimed deliveries)
  | .recordResult artifactId channelId result attemptedAt nextAttempt removable =>
      let called := outbox.recordResult artifactId channelId result attemptedAt nextAttempt
        removable
      (called.1, answerOf called.2)
  | .retry artifactIds now => single (outbox.retry artifactIds now)
  | .retryChannel channelId now => single (outbox.retryChannel channelId now)
  | .pruneCompleted now => (outbox.pruneCompleted now, .done)
  | .erase artifactIds discardUnsent =>
      let called := outbox.erase artifactIds discardUnsent
      (called.1, answerOf called.2)
  | .storeWatermark watermark => single (outbox.storeWatermark watermark)

/-- A call, to its end or stopped after some effects by an exception or the end of the
process; and the end of the process, after which a new repository object is constructed. -/
inductive Event where
  | call (call : Call)
  | stopped (call : Call) (effects : Nat)
  | crash (policy : OutboxStoragePolicy)

def machine (sha256 : Body → String) : Machine Outbox Event Answer where
  step := fun outbox event => match event with
    | .call call =>
        let called := outbox.effects sha256 call
        (Trail.last outbox called.1, called.2)
    | .stopped call effects =>
        (Trail.stopped outbox (outbox.effects sha256 call).1 effects, .interrupted)
    | .crash policy => ({ outbox with policy, initialized := false }, .done)

end Msap1.DataSender
