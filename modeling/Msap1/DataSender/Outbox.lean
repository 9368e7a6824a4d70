import Msap1.Sqlite
import Msap1.Trail

/-! The manifest database and the payload files of `SqliteOutboxRepository`, and its calls.
A call with more than one durable effect is given by its trail. -/

namespace Msap1.DataSender

abbrev Body := List UInt8

abbrev UtcNanoseconds := Int

structure UtcWindow where
  start : UtcNanoseconds
  finish : UtcNanoseconds
  deriving DecidableEq, Repr

inductive DatalogErrorCode where
  | invalidConfiguration
  | unsupportedCapability
  | sourceUnavailable
  | sourceRetentionGap
  | serializationFailure
  | storageFailure
  deriving DecidableEq, Repr

/-- What the library throws: a `DatalogError`, or another exception. -/
inductive SenderFailure where
  | datalogError (code : DatalogErrorCode) (text : String)
  | outOfRange (text : String)
  | failure (failure : Failure)
  deriving DecidableEq, Repr

inductive DeliveryState where
  | pending
  | retryWait
  | blocked
  | succeeded
  | administrativelyDiscarded
  | inFlight
  deriving DecidableEq, Repr

/-- The states no statement leaves. -/
def DeliveryState.Settled (state : DeliveryState) : Prop :=
  state = .succeeded ∨ state = .administrativelyDiscarded

instance (state : DeliveryState) : Decidable state.Settled :=
  inferInstanceAs (Decidable (_ ∨ _))

structure Delivery where
  artifactId : String
  channelId : String
  state : DeliveryState := .pending
  attemptCount : Nat := 0
  nextAttempt : UtcNanoseconds := 0
  lastAttempt : UtcNanoseconds := 0
  remoteResult : String := ""
  lastError : String := ""
  deriving DecidableEq, Repr

structure Artifact where
  artifactId : String
  jobId : String
  jobRevision : UInt64
  filename : String
  mimeType : String
  contentFormat : String
  checksumSha256 : String
  sizeBytes : Nat
  sourceWindow : UtcWindow
  generatedAt : UtcNanoseconds
  createdAt : UtcNanoseconds
  localOnly : Bool
  payloadPresent : Bool
  recoveryError : String := ""
  deletePending : Bool := false
  deriving DecidableEq, Repr

structure JobWatermark where
  jobId : String
  jobRevision : UInt64
  completedThrough : UtcNanoseconds
  deriving DecidableEq, Repr

/-- A payload file, in `archive` when it is local only and in `outbox` otherwise. -/
structure PayloadFile where
  localOnly : Bool
  filename : String
  body : Body
  deriving DecidableEq, Repr

structure OutboxStoragePolicy where
  maximumBytes : Nat := 536870912
  minimumFreeBytes : Nat := 268435456
  completedMetadataRetention : UtcNanoseconds := 2592000000000000
  deriving DecidableEq, Repr

/-- The tables and directories under one root, and the repository object that serves them. -/
structure Outbox where
  artifacts : List Artifact := []
  deliveries : List Delivery := []
  watermarks : List JobWatermark := []
  files : List PayloadFile := []
  policy : OutboxStoragePolicy := {}
  initialized : Bool := false
  deriving Repr

def asciiAlphanumeric (character : Char) : Bool :=
  (character ≤ 'z' && 'a' ≤ character) || (character ≤ 'Z' && 'A' ≤ character) ||
    (character ≤ '9' && '0' ≤ character)

def safeFilename (value : String) : Bool :=
  value ≠ "" && decide (value.utf8ByteSize ≤ 240) && value.toList.head? ≠ some '.' &&
    value.toList.all (fun character =>
      asciiAlphanumeric character || character = '-' || character = '_' || character = '.')

def safeIdentity (value : String) : Bool :=
  value ≠ "" && decide (value.utf8ByteSize ≤ 160) &&
    value.toList.all (fun character =>
      asciiAlphanumeric character || character = '-' || character = '_')

def sanitizeResult (value : String) : String :=
  String.ofList ((value.toList.filterMap (fun character =>
    if character = '\r' ∨ character = '\n' ∨ character = '\t' then some ' '
    else if 0x20 ≤ character.toNat ∧ character.toNat ≠ 0x7f then some character
    else none)).take 1024)

structure GeneratedDataset where
  artifactId : String
  jobId : String
  jobRevision : UInt64
  generatedAt : UtcNanoseconds
  artifactWindow : UtcWindow
  deriving DecidableEq, Repr

structure GeneratedContent where
  artifactId : String
  filename : String
  mimeType : String
  extension : String
  body : Body
  sha256 : String
  deriving DecidableEq, Repr

inductive DeliveryDisposition where
  | succeeded
  | retryable
  | blocked
  deriving DecidableEq, Repr

structure DeliveryResult where
  disposition : DeliveryDisposition
  remoteResult : String := ""
  sanitizedError : String := ""
  deriving DecidableEq, Repr

structure QueuedDelivery where
  artifactId : String
  channelId : String
  state : DeliveryState
  attemptCount : Nat
  nextAttempt : UtcNanoseconds
  deriving DecidableEq, Repr

def maximumArtifactListPage : Nat := 500

namespace Outbox

variable (outbox : Outbox)

def artifact? (artifactId : String) : Option Artifact :=
  outbox.artifacts.find? (fun artifact => artifact.artifactId = artifactId)

def visible? (artifactId : String) : Option Artifact :=
  outbox.artifacts.find? (fun artifact =>
    artifact.artifactId = artifactId && !artifact.deletePending)

def deliveriesOf (artifactId : String) : List Delivery :=
  outbox.deliveries.filter (fun delivery => delivery.artifactId = artifactId)

def file? (localOnly : Bool) (filename : String) : Option Body :=
  (outbox.files.find? (fun file =>
    file.localOnly = localOnly && file.filename = filename)).map PayloadFile.body

def removeFile (localOnly : Bool) (filename : String) : Outbox :=
  { outbox with files := outbox.files.filter (fun file =>
    !(file.localOnly = localOnly && file.filename = filename)) }

def updateArtifact (artifactId : String) (change : Artifact → Artifact) : Outbox :=
  { outbox with artifacts := outbox.artifacts.map (fun artifact =>
    if artifact.artifactId = artifactId then change artifact else artifact) }

def updateDeliveries (chosen : Delivery → Bool) (change : Delivery → Delivery) : Outbox :=
  { outbox with deliveries := outbox.deliveries.map (fun delivery =>
    if chosen delivery then change delivery else delivery) }

/-- `DELETE FROM artifacts`, with the cascade to their deliveries. -/
def deleteArtifacts (chosen : Artifact → Bool) : Outbox :=
  { outbox with
    artifacts := outbox.artifacts.filter (fun artifact => !chosen artifact)
    deliveries := outbox.deliveries.filter (fun delivery =>
      !outbox.artifacts.any (fun artifact =>
        chosen artifact && artifact.artifactId = delivery.artifactId)) }

/-- The artifact has deliveries and all of them succeeded. -/
def allSucceeded (artifactId : String) : Bool :=
  let rows := outbox.deliveriesOf artifactId
  rows ≠ [] && rows.all (fun delivery => delivery.state = .succeeded)

/-- `storage_status`: the payload bytes of both directories. -/
def payloadBytes : Nat := (outbox.files.map (fun file => file.body.length)).sum

/-- Whether the storage guard takes a payload of the given size. -/
def guardAllows (available size : Nat) : Bool :=
  decide (outbox.payloadBytes < outbox.policy.maximumBytes) &&
    decide (size ≤ outbox.policy.maximumBytes - outbox.payloadBytes) &&
    decide (outbox.policy.minimumFreeBytes < available) &&
    decide (size ≤ available - outbox.policy.minimumFreeBytes)

def guardReason (available : Nat) : String :=
  if outbox.policy.maximumBytes ≤ outbox.payloadBytes then
    "combined outbox/archive quota reached"
  else if available ≤ outbox.policy.minimumFreeBytes then
    "filesystem free-space reserve reached"
  else "artifact would exceed the Data Sender storage guard"

def updateStoragePolicy (policy : OutboxStoragePolicy) : Except SenderFailure Outbox :=
  if policy.maximumBytes = 0 ∨ policy.completedMetadataRetention ≤ 0 then
    .error (.failure (.invalidArgument "outbox storage quota must be nonzero"))
  else .ok { outbox with policy }

section Enqueue

variable (sha256 : Body → String)

/-- The checks on the arguments of `enqueue`. -/
def enqueueArguments (dataset : GeneratedDataset) (content : GeneratedContent)
    (channelIds : List String) (localOnly : Bool) : Except SenderFailure Unit :=
  if ¬ outbox.initialized then
    .error (.failure (.logicError "outbox repository is not initialized"))
  else if ¬ safeIdentity dataset.artifactId ∨ content.artifactId ≠ dataset.artifactId ∨
      ¬ safeFilename content.filename ∨
      content.filename ≠ dataset.artifactId ++ "." ++ content.extension ∨
      (content.extension ≠ "json" ∧ content.extension ≠ "csv") ∨
      sha256 content.body ≠ content.sha256 ∨ content.sha256.utf8ByteSize ≠ 64 then
    .error (.datalogError .storageFailure "generated artifact identity or checksum is invalid")
  else if localOnly ≠ decide (channelIds = []) then
    .error (.datalogError .invalidConfiguration "artifact destination is invalid")
  else if (∃ channel ∈ channelIds, ¬ safeIdentity channel) ∨ ¬ channelIds.Nodup then
    .error (.datalogError .invalidConfiguration "artifact channel selection is invalid")
  else .ok ()

/-- The manifest row that is already there says the same. -/
def sameManifest (artifact : Artifact) (dataset : GeneratedDataset)
    (content : GeneratedContent) : Bool :=
  artifact.filename = content.filename && artifact.checksumSha256 = content.sha256 &&
    artifact.sizeBytes = content.body.length &&
    artifact.sourceWindow = dataset.artifactWindow &&
    artifact.jobRevision = dataset.jobRevision

def manifestRow (dataset : GeneratedDataset) (content : GeneratedContent) (localOnly : Bool) :
    Artifact where
  artifactId := dataset.artifactId
  jobId := dataset.jobId
  jobRevision := dataset.jobRevision
  filename := content.filename
  mimeType := content.mimeType
  contentFormat := content.extension
  checksumSha256 := content.sha256
  sizeBytes := content.body.length
  sourceWindow := dataset.artifactWindow
  generatedAt := dataset.generatedAt
  createdAt := dataset.generatedAt
  localOnly
  payloadPresent := true

/-- The transaction at the end of `enqueue`. -/
def insertManifest (dataset : GeneratedDataset) (content : GeneratedContent)
    (channelIds : List String) (localOnly : Bool) : Outbox :=
  { outbox with
    artifacts := outbox.artifacts ++ [manifestRow dataset content localOnly]
    deliveries := outbox.deliveries ++ channelIds.map (fun channel =>
      { artifactId := dataset.artifactId, channelId := channel }) }

/-- `atomic_write` of the payload. -/
def writePayload (content : GeneratedContent) (localOnly : Bool) : Outbox :=
  { outbox with files := outbox.files ++ [⟨localOnly, content.filename, content.body⟩] }

/-- `enqueue`, given the bytes the filesystem has available. -/
def enqueue (dataset : GeneratedDataset) (content : GeneratedContent)
    (channelIds : List String) (localOnly : Bool) (available : Nat) :
    List Outbox × Except SenderFailure Unit :=
  match outbox.enqueueArguments sha256 dataset content channelIds localOnly with
  | .error failure => ([], .error failure)
  | .ok () => match outbox.artifact? dataset.artifactId with
    | some artifact =>
        if sameManifest artifact dataset content then ([], .ok ())
        else ([], .error (.datalogError .storageFailure
          "artifact ID conflicts with a different manifest"))
    | none =>
        if ¬ outbox.guardAllows available content.body.length then
          ([], .error (.datalogError .storageFailure (outbox.guardReason available)))
        else if (outbox.file? localOnly content.filename).isSome then
          ([], .error (.datalogError .storageFailure
            "unmanifested artifact filename already exists"))
        else
          let written := outbox.writePayload content localOnly
          match bindUnsigned dataset.jobRevision with
          | .error failure => ([written], .error (.failure failure))
          | .ok _ =>
              if ∃ artifact ∈ outbox.artifacts, artifact.filename = content.filename then
                ([written], .error (.failure
                  (.runtimeError "UNIQUE constraint failed: artifacts.filename")))
              else
                ([written, written.insertManifest dataset content channelIds localOnly], .ok ())

end Enqueue

/-- Whether `claim_due` and `due` may return a delivery. -/
def eligible (now : UtcNanoseconds) (delivery : Delivery) : Bool :=
  (outbox.artifacts.any (fun artifact => artifact.artifactId = delivery.artifactId &&
    artifact.payloadPresent && !artifact.deletePending)) &&
    (delivery.state = .pending || delivery.state = .retryWait || delivery.state = .inFlight) &&
    decide (delivery.nextAttempt ≤ now)

/-- `ORDER BY next_attempt_ns,artifact_id,channel_id`. -/
def dueBefore (left right : Delivery) : Bool :=
  decide (left.nextAttempt < right.nextAttempt) ||
    (left.nextAttempt = right.nextAttempt &&
      (decide (left.artifactId < right.artifactId) ||
        (left.artifactId = right.artifactId && decide (left.channelId ≤ right.channelId))))

def dueRows (now : UtcNanoseconds) (limit : Nat) : List Delivery :=
  ((outbox.deliveries.filter (outbox.eligible now)).mergeSort dueBefore).take limit

def due (now : UtcNanoseconds) (limit : Nat) : Except SenderFailure (List QueuedDelivery) :=
  if limit = 0 ∨ maximumArtifactListPage < limit then
    .error (.failure (.invalidArgument "outbox due limit is invalid"))
  else .ok ((outbox.dueRows now limit).map (fun delivery =>
    ⟨delivery.artifactId, delivery.channelId, delivery.state, delivery.attemptCount,
      delivery.nextAttempt⟩))

/-- `claim_due`: the deliveries it returns and the outbox once they are leased. -/
def claimDue (now leaseUntil : UtcNanoseconds) (limit : Nat) :
    Except SenderFailure (List QueuedDelivery × Outbox) :=
  if limit = 0 ∨ maximumArtifactListPage < limit ∨ leaseUntil ≤ now then
    .error (.failure (.invalidArgument "outbox delivery lease is invalid"))
  else
    let rows := outbox.dueRows now limit
    .ok (rows.map (fun delivery =>
        ⟨delivery.artifactId, delivery.channelId, .inFlight, delivery.attemptCount, leaseUntil⟩),
      outbox.updateDeliveries
        (fun delivery => rows.any (fun row =>
          row.artifactId = delivery.artifactId && row.channelId = delivery.channelId))
        (fun delivery => { delivery with state := .inFlight, nextAttempt := leaseUntil }))

def content (sha256 : Body → String) (artifactId : String) :
    Except SenderFailure GeneratedContent :=
  match outbox.visible? artifactId with
  | none => .error (.outOfRange "unknown artifact ID")
  | some artifact =>
      if ¬ artifact.payloadPresent then
        .error (.datalogError .storageFailure "artifact payload is not retained")
      else match outbox.file? artifact.localOnly artifact.filename with
        | none => .error (.datalogError .storageFailure "artifact payload is unavailable")
        | some body =>
            if body.length ≠ artifact.sizeBytes then
              .error (.datalogError .storageFailure
                "artifact payload size does not match its manifest")
            else if sha256 body ≠ artifact.checksumSha256 then
              .error (.datalogError .storageFailure
                "artifact payload checksum does not match its manifest")
            else .ok ⟨artifactId, artifact.filename, artifact.mimeType, artifact.contentFormat,
              body, artifact.checksumSha256⟩

/-- `finalize_completed_locked`; `removable` tells whether the payload file can be removed. -/
def finalizeCompleted (removable : Bool) (artifactId : String) : List Outbox :=
  match outbox.visible? artifactId with
  | none => []
  | some artifact =>
      if artifact.localOnly ∨ ¬ artifact.payloadPresent ∨ ¬ outbox.allSucceeded artifactId ∨
          ¬ removable then []
      else
        let unlinked := outbox.removeFile false artifact.filename
        [unlinked, unlinked.updateArtifact artifactId (fun row =>
          { row with payloadPresent := false })]

/-- Whether `prune_completed_locked` removes an artifact. -/
def pruneable (cutoff : UtcNanoseconds) (artifact : Artifact) : Bool :=
  let newest := ((outbox.deliveriesOf artifact.artifactId).map Delivery.lastAttempt).foldl max 0
  !artifact.localOnly && !artifact.payloadPresent && !artifact.deletePending &&
    outbox.allSucceeded artifact.artifactId && decide (0 < newest) && decide (newest ≤ cutoff)

def pruneCompleted (now : UtcNanoseconds) : List Outbox :=
  if now ≤ outbox.policy.completedMetadataRetention then []
  else [outbox.deleteArtifacts (outbox.pruneable
    (now - outbox.policy.completedMetadataRetention))]

def resultState : DeliveryDisposition → DeliveryState
  | .succeeded => .succeeded
  | .retryable => .retryWait
  | .blocked => .blocked

def recordable (artifactId channelId : String) (delivery : Delivery) : Bool :=
  delivery.artifactId = artifactId && delivery.channelId = channelId &&
    !decide delivery.state.Settled

def recordedRow (result : DeliveryResult) (attemptedAt nextAttempt : UtcNanoseconds)
    (delivery : Delivery) : Delivery :=
  { delivery with
    state := resultState result.disposition
    attemptCount := delivery.attemptCount + 1
    nextAttempt := if resultState result.disposition = .retryWait then nextAttempt else 0
    lastAttempt := attemptedAt
    remoteResult := sanitizeResult result.remoteResult
    lastError := sanitizeResult result.sanitizedError }

def recordResult (artifactId channelId : String) (result : DeliveryResult)
    (attemptedAt nextAttempt : UtcNanoseconds) (removable : Bool) :
    List Outbox × Except SenderFailure Unit :=
  if (outbox.deliveries.countP (recordable artifactId channelId)) ≠ 1 then
    ([], .error (.failure (.runtimeError "delivery is unknown or already finalized")))
  else
    let recorded := outbox.updateDeliveries (recordable artifactId channelId)
      (recordedRow result attemptedAt nextAttempt)
    (Trail.andThen outbox
      (Trail.andThen outbox [recorded] (fun after => after.finalizeCompleted removable artifactId))
      (fun after => after.pruneCompleted attemptedAt), .ok ())

def retry (artifactIds : List String) (now : UtcNanoseconds) : Except SenderFailure Outbox :=
  if artifactIds = [] ∨ 500 < artifactIds.length then
    .error (.failure (.invalidArgument "artifact retry selection is invalid"))
  else if ∃ artifactId ∈ artifactIds, outbox.visible? artifactId = none then
    .error (.outOfRange "unknown artifact ID")
  else .ok (outbox.updateDeliveries
    (fun delivery => decide (delivery.artifactId ∈ artifactIds) &&
      (delivery.state = .pending || delivery.state = .retryWait || delivery.state = .blocked))
    (fun delivery => { delivery with state := .pending, nextAttempt := now, lastError := "" }))

def retryChannel (channelId : String) (now : UtcNanoseconds) : Except SenderFailure Outbox :=
  if ¬ safeIdentity channelId then
    .error (.failure (.invalidArgument "data channel retry identity is invalid"))
  else .ok (outbox.updateDeliveries
    (fun delivery => delivery.channelId = channelId && delivery.state = .blocked)
    (fun delivery => { delivery with state := .pending, nextAttempt := now, lastError := "" }))

/-- What `erase` counts as unsent: a delivery that is not settled, or a remote payload without
any delivery. -/
def unsent (artifact : Artifact) : Bool :=
  (outbox.deliveriesOf artifact.artifactId).any (fun delivery => !decide delivery.state.Settled) ||
    (!artifact.localOnly && (outbox.deliveriesOf artifact.artifactId).isEmpty)

/-- The first transaction of `erase`. -/
def markErased (artifactIds : List String) : Outbox :=
  let discarded := outbox.updateDeliveries
    (fun delivery => decide (delivery.artifactId ∈ artifactIds) &&
      !decide delivery.state.Settled)
    (fun delivery => { delivery with
      state := .administrativelyDiscarded
      nextAttempt := 0
      lastError := "administrator discarded" })
  { discarded with artifacts := discarded.artifacts.map (fun artifact =>
    if artifact.artifactId ∈ artifactIds then { artifact with deletePending := true }
    else artifact) }

/-- The payload of one artifact that `erase` removes. -/
def unlinkErased (artifact : Artifact) : List Outbox :=
  if artifact.payloadPresent then [outbox.removeFile artifact.localOnly artifact.filename]
  else []

/-- The checks of `erase` on one of the artifacts. -/
def eraseTarget (discardUnsent : Bool) (artifactId : String) : Except SenderFailure Artifact :=
  match outbox.visible? artifactId with
  | none => .error (.outOfRange "unknown artifact ID")
  | some artifact =>
      if outbox.unsent artifact && !discardUnsent then
        .error (.failure (.runtimeError
          "deleting unsent artifacts requires discard_unsent confirmation"))
      else .ok artifact

/-- `erase`, cut short like every trail when a payload cannot be removed. -/
def erase (artifactIds : List String) (discardUnsent : Bool) :
    List Outbox × Except SenderFailure Unit :=
  if artifactIds = [] ∨ 500 < artifactIds.length then
    ([], .error (.failure (.invalidArgument "artifact deletion selection is invalid")))
  else match artifactIds.mapM (outbox.eraseTarget discardUnsent) with
    | .error failure => ([], .error failure)
    | .ok targets =>
        (Trail.andThen outbox
          (Trail.andThen outbox [outbox.markErased artifactIds]
            (fun marked => Trail.each unlinkErased marked targets))
          (fun unlinked => [unlinked.deleteArtifacts (fun artifact =>
            decide (artifact.artifactId ∈ artifactIds) && artifact.deletePending)]), .ok ())

def watermark (jobId : String) : Option JobWatermark :=
  outbox.watermarks.find? (fun watermark => watermark.jobId = jobId)

def storeWatermark (watermark : JobWatermark) : Except SenderFailure Outbox :=
  if ¬ safeIdentity watermark.jobId ∨ watermark.jobRevision = 0 then
    .error (.failure (.invalidArgument "job watermark identity is invalid"))
  else match bindUnsigned watermark.jobRevision with
    | .error failure => .error (.failure failure)
    | .ok _ => .ok { outbox with
        watermarks := watermark :: outbox.watermarks.filter (fun other =>
          other.jobId ≠ watermark.jobId) }

end Outbox

end Msap1.DataSender
