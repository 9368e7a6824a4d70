import Msap1.Loops
import Msap1.Machine

/-! The jobs of `WaveformExportTaskManager`: what a request must look like, and the record that the
manager keeps of it. -/

namespace Msap1.WebBackend

abbrev Bytes := List UInt8

inductive WaveformExportStatus where
  | ok
  | invalidRequest
  | notFound
  | conflict
  | unprocessable
  | queueFull
  | storageFull
  | unavailable
  | internalError
  deriving DecidableEq, Repr

structure WaveformExportTaskError where
  status : WaveformExportStatus
  message : String
  code : String := ""
  missingFields : List String := []
  deriving DecidableEq, Repr

inductive ExportFormat where
  | comtrade
  | pqdif
  | comtradeZip
  deriving DecidableEq, Repr

inductive ExportScope where
  | capture
  | event
  deriving DecidableEq, Repr

inductive ConversionErrorCode where
  | invalidOptions
  | unsupportedFormat
  | unsupportedSourceVersion
  | sourceInvalid
  | sourceIncomplete
  | sourceNotReady
  | sourceEventNotFound
  | sourceDiscontinuityUnsupported
  | sampleOutOfRange
  | timestampOutOfRange
  | outputTooLarge
  | outputWriteFailed
  | conversionCancelled
  | validationFailed
  | internalError
  deriving DecidableEq, Repr

def conversionErrorCodeName : ConversionErrorCode → String
  | .invalidOptions => "invalid_options"
  | .unsupportedFormat => "unsupported_format"
  | .unsupportedSourceVersion => "unsupported_source_version"
  | .sourceInvalid => "source_invalid"
  | .sourceIncomplete => "source_incomplete"
  | .sourceNotReady => "source_not_ready"
  | .sourceEventNotFound => "source_event_not_found"
  | .sourceDiscontinuityUnsupported => "source_discontinuity_unsupported"
  | .sampleOutOfRange => "sample_out_of_range"
  | .timestampOutOfRange => "timestamp_out_of_range"
  | .outputTooLarge => "output_too_large"
  | .outputWriteFailed => "output_write_failed"
  | .conversionCancelled => "conversion_cancelled"
  | .validationFailed => "validation_failed"
  | .internalError => "internal_error"

inductive Thrown where
  | task (error : WaveformExportTaskError)
  | conversion (code : ConversionErrorCode) (message : String) (missingFields : List String)
  | storageFull (message : String)
  | exception (message : String)
  deriving DecidableEq, Repr

def invalidRequest (message : String) : Thrown := .task { status := .invalidRequest, message }

structure ExportRequest where
  owner : String
  sessionId : String
  sourceBasename : String
  scope : String
  eventId : String
  format : String
  deriving DecidableEq, Repr

def ExportRequest.key (request : ExportRequest) : String :=
  request.owner ++ "\n" ++ request.sessionId ++ "\n" ++ request.sourceBasename ++ "\n" ++
    request.scope ++ "\n" ++ request.eventId ++ "\n" ++ request.format

def control (character : Char) : Bool := character.val < 0x20 || character.val = 0x7f

def validOwner (owner : String) : Bool :=
  !owner.isEmpty && owner.utf8ByteSize ≤ 128 && !owner.toList.any control

def validateOwner (owner : String) : Except Thrown Unit :=
  if validOwner owner then .ok ()
  else .error (invalidRequest "authenticated export owner is invalid")

def validBasename (name : String) : Bool :=
  !name.isEmpty && name.utf8ByteSize ≤ 255 && name != "." && name != ".." &&
    name.toList.all (fun character => ('a' ≤ character && character ≤ 'z') ||
      ('A' ≤ character && character ≤ 'Z') || ('0' ≤ character && character ≤ '9') ||
      character == '.' || character == '-' || character == '_') &&
    ".mncwf".toList.isSuffixOf name.toList

def validateBasename (name : String) : Except Thrown Unit :=
  if validBasename name then .ok ()
  else .error (invalidRequest "source_basename must name one MNCWF file")

def decimal (digits : List Char) : Nat :=
  digits.foldl (fun value digit => value * 10 + (digit.toNat - '0'.toNat)) 0

/-- `std::from_chars` takes the whole text as a 64-bit number other than zero. -/
def validSessionId (sessionId : String) : Bool :=
  !sessionId.isEmpty && sessionId.toList.all (fun digit => '0' ≤ digit && digit ≤ '9') &&
    0 < decimal sessionId.toList && decimal sessionId.toList < 2 ^ 64

def validateSessionId (sessionId : String) : Except Thrown Unit :=
  if validSessionId sessionId then .ok ()
  else .error (invalidRequest "session_id must be a positive integer")

def nibble (character : Char) : Option UInt8 :=
  if '0' ≤ character ∧ character ≤ '9' then some (UInt8.ofNat (character.toNat - '0'.toNat))
  else if 'a' ≤ character ∧ character ≤ 'f' then
    some (UInt8.ofNat (character.toNat - 'a'.toNat + 10))
  else none

def bytePairs : List Char → Option Bytes
  | [] => some []
  | [_] => none
  | high :: low :: rest => do
      let first ← nibble high
      let second ← nibble low
      let bytes ← bytePairs rest
      return (first <<< 4 ||| second) :: bytes

/-- `mncwf_uuid_from_string`: five groups of lower-case digits between hyphens. -/
def mncwfUuidFromString (text : String) : Option Bytes :=
  let characters := text.toList
  if characters.length ≠ 36 ∨ characters[8]? ≠ some '-' ∨ characters[13]? ≠ some '-' ∨
      characters[18]? ≠ some '-' ∨ characters[23]? ≠ some '-' then none
  else bytePairs (characters.take 8 ++ (characters.drop 9).take 4 ++
    (characters.drop 14).take 4 ++ (characters.drop 19).take 4 ++ characters.drop 24)

def canonicalUuid (text : String) : Option Bytes :=
  (mncwfUuidFromString text).filter (fun uuid => !uuid.all (· == 0))

def validateJobId (jobId : String) : Except Thrown Unit :=
  if (canonicalUuid jobId).isSome then .ok ()
  else .error (invalidRequest "job_id must be a nonzero canonical UUID")

def exportFormatFromName (name : String) : Option ExportFormat :=
  if name = "comtrade" then some .comtrade
  else if name = "pqdif" then some .pqdif
  else if name = "comtrade-zip" then some .comtradeZip
  else none

def exportScopeFromName (name : String) : Option ExportScope :=
  if name = "capture" then some .capture
  else if name = "event" then some .event
  else none

/-- What `submit` reads from a request before it looks at any job. -/
structure ParsedRequest where
  format : ExportFormat
  scope : ExportScope
  eventUuid : Option Bytes
  deriving DecidableEq, Repr

def parseRequest (request : ExportRequest) : Except Thrown ParsedRequest := do
  validateOwner request.owner
  validateBasename request.sourceBasename
  validateSessionId request.sessionId
  match exportFormatFromName request.format with
  | none => .error (invalidRequest "format must be comtrade, comtrade-zip, or pqdif")
  | some format => match exportScopeFromName request.scope with
    | none => .error (invalidRequest "scope must be capture or event")
    | some .event => match canonicalUuid request.eventId with
      | none => .error (invalidRequest "event scope requires a canonical event_id")
      | some eventUuid => .ok ⟨format, .event, some eventUuid⟩
    | some .capture =>
        if request.eventId.isEmpty then .ok ⟨format, .capture, none⟩
        else .error (invalidRequest "event_id is only valid for event scope")

def profile : ExportFormat → String
  | .comtrade => "IEC 60255-24:2013 CFF/BINARY32"
  | .comtradeZip => "IEC 60255-24:2013 CFG/DAT ZIP (BINARY32)"
  | .pqdif => "IEEE 1159.3-2025 PQDIF (normative definitions 1.0.0)"

def extension : ExportFormat → String
  | .comtrade => ".cff"
  | .comtradeZip => ".zip"
  | .pqdif => ".pqd"

def mediaType : ExportFormat → String
  | .comtrade => "application/vnd.iec.comtrade"
  | .comtradeZip => "application/zip"
  | .pqdif => "application/vnd.pqdif"

def outputStem (sourceBasename : String) (scope : ExportScope) (eventId : String) : String :=
  let stem := String.ofList (sourceBasename.toList.take (sourceBasename.length - 6))
  match scope with
  | .event => stem ++ "-event-" ++ String.ofList (eventId.toList.take 8)
  | .capture => stem

inductive JobState where
  | queued
  | running
  | ready
  | failed
  | cancelled
  deriving DecidableEq, Repr

/-- `ready`, `failed` or `cancelled`. -/
def JobState.terminal : JobState → Bool
  | .ready | .failed | .cancelled => true
  | .queued | .running => false

/-- The states that a second request for the same export is answered with. -/
def JobState.active : JobState → Bool
  | .queued | .running | .ready => true
  | .failed | .cancelled => false

/-- What the callers see of a job. Times are those of the system clock in nanoseconds; an empty
digest or time is one that the job does not have yet. -/
structure WaveformExportJob where
  jobId : String
  state : JobState
  request : ExportRequest
  profile : String
  queuePosition : Nat := 0
  processedFrames : Nat := 0
  totalFrames : Nat := 0
  filename : String
  bytes : Nat := 0
  sha256 : Option String := none
  createdAt : Int
  startedAt : Option Int := none
  completedAt : Option Int := none
  expiresAt : Option Int := none
  errorCode : String := ""
  errorMessage : String := ""
  missingFields : List String := []
  deriving DecidableEq, Repr

/-- A file of the export directory: the partial output of a job or its artifact. -/
inductive ExportFile where
  | part (jobId : String)
  | artifact (jobId : String) (format : ExportFormat)
  deriving DecidableEq, Repr

/-- `JobRecord`. `artifact` is `none` once the basename is cleared, and a job that is not `listed`
has left the table of jobs while the worker or a reader may still hold it. A time of zero stands
for a time point that was never set. -/
structure JobRecord where
  dto : WaveformExportJob
  key : String
  artifact : Option ExportFile
  format : ExportFormat
  scope : ExportScope
  eventUuid : Option Bytes
  stop : Bool := false
  streaming : Bool := false
  streamActivity : Nat := 0
  completed : Int := 0
  completionSignalled : Bool := false
  listed : Bool := true
  deriving DecidableEq, Repr

namespace JobRecord

variable (job : JobRecord)

def id : String := job.dto.jobId

def state : JobState := job.dto.state

/-- In the table, and `queued`, `running` or `ready`. -/
def live : Bool := job.listed && job.state.active

def ready : Bool := job.listed && job.state = .ready

end JobRecord

section Keys

theorem owner_of_key {first second : ExportRequest} (one : validOwner first.owner)
    (other : validOwner second.owner) (same : first.key = second.key) :
    first.owner = second.owner := by
  have split : ∀ request : ExportRequest, validOwner request.owner →
      request.key.toList.takeWhile (· != '\n') = request.owner.toList := by
    intro request valid
    have plain : ∀ character ∈ request.owner.toList, (character != '\n') = true := by
      intro character member
      rw [validOwner, Bool.and_eq_true, Bool.not_eq_true', List.any_eq_false] at valid
      rw [bne_iff_ne]
      rintro rfl
      exact valid.2 _ member rfl
    simp only [ExportRequest.key, String.toList_append, List.append_assoc]
    rw [List.takeWhile_append_of_pos plain]
    simp
  apply String.toList_inj.mp
  rw [← split first one, ← split second other, same]

end Keys

end Msap1.WebBackend
