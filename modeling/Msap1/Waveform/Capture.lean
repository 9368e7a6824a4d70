import Msap1.Machine
import Msap1.RingBuffer
import Msap1.Sqlite
import Mathlib.Data.List.Sort

/-! `WaveformCapture`: the history ring of acquisition frames, the capture sessions that are cut
out of it, and the index of the captures of each power-quality event. Files, decimation and
retention are the background writer's and not part of the model; it appears through its
results. -/

namespace Msap1.Waveform

def u64 (value : Nat) : Nat := value % 2 ^ 64

def u64Max : Nat := 2 ^ 64 - 1

abbrev Frame := Fin 8 → Int32

abbrev MncwfUuid := BitVec 128

def waveformBlockMagic : UInt32 := 0x314d4657
def waveformBlockVersion : UInt32 := 0x00010000
def waveformFrameBytes : UInt32 := 32
def waveformBlockBytes : UInt32 := 64 + 1024 * 32

structure WaveformBlockHeader where
  magic : UInt32 := waveformBlockMagic
  version : UInt32 := waveformBlockVersion
  blockBytes : UInt32 := waveformBlockBytes
  frameCount : UInt32 := 1024
  frameBytes : UInt32 := waveformFrameBytes
  firstSequenceLow : UInt32
  firstSequenceHigh : UInt32 := 0
  measuredSampleRateHz : UInt32
  configurationGeneration : UInt32

def WaveformBlockHeader.firstSequence (header : WaveformBlockHeader) : Nat :=
  header.firstSequenceHigh.toNat * 2 ^ 32 + header.firstSequenceLow.toNat

def WaveformBlockHeader.isValid (header : WaveformBlockHeader) : Bool :=
  header.magic = waveformBlockMagic && header.version = waveformBlockVersion &&
    header.blockBytes = waveformBlockBytes && header.frameCount = 1024 &&
    header.frameBytes = waveformFrameBytes

structure WaveformBlock where
  header : WaveformBlockHeader
  frames : Fin 1024 → Frame

inductive WaveformTriggerSource where
  | manualCli
  | manualWeb
  | pqEvent
  deriving DecidableEq, Repr

def WaveformTriggerSource.code : WaveformTriggerSource → UInt16
  | .manualCli => 1
  | .manualWeb => 2
  | .pqEvent => 3

def triggerSourceBit (source : WaveformTriggerSource) : UInt32 := 1 <<< source.code.toUInt32

inductive WaveformSessionState where
  | capturing
  | complete
  | incomplete
  deriving DecidableEq, Repr

inductive WaveformEventLifecycle where
  | start
  | update
  | ended
  | abort
  deriving DecidableEq, Repr

/-- The lifecycle that a marker in a capture shows. -/
inductive MncwfEventLifecycle where
  | start
  | update
  | ended
  | abort
  | complete
  deriving DecidableEq, Repr

structure WaveformEventIdentity where
  session : UInt64 := 0
  counter : UInt64 := 0
  deriving DecidableEq, Repr

structure WaveformCorrelation where
  taiNanoseconds : Nat := 0
  plTick : Nat := 0
  frameSequence : Nat := 0
  uncertaintyNanoseconds : Nat := 0
  deriving DecidableEq, Repr

def mncwfEventStartValid : UInt32 := 1
def mncwfEventCurrentValid : UInt32 := 2
def mncwfEventEndValid : UInt32 := 4
def mncwfEventTriggerValid : UInt32 := 8
def mncwfEventTaiValid : UInt32 := 16
def mncwfEventUtcValid : UInt32 := 32
def mncwfEventSettingsSnapshotValid : UInt32 := 64
def mncwfEventDiscontinuous : UInt32 := 256

/-- What the capture core reads and writes of `MncwfV4EventDescriptor`. -/
structure EventDescriptor where
  eventUuid : MncwfUuid
  lifecycle : MncwfEventLifecycle
  flags : UInt32 := 0
  triggerSource : UInt16
  startSequence : Nat := 0
  currentSequence : Nat := 0
  endSequence : Nat := 0
  triggerSequence : Nat := 0
  startTaiNanoseconds : Nat := 0
  currentTaiNanoseconds : Nat := 0
  endTaiNanoseconds : Nat := 0
  triggerTaiNanoseconds : Nat := 0
  startUtcNanoseconds : Nat := 0
  currentUtcNanoseconds : Nat := 0
  endUtcNanoseconds : Nat := 0
  triggerUtcNanoseconds : Nat := 0
  uncertaintyNanoseconds : Nat := 0
  durationSamples : Nat := 0
  deriving DecidableEq, Repr

/-- A marker of a session. -/
structure SessionEvent where
  identity : WaveformEventIdentity := {}
  stableIdentity : Bool := false
  descriptor : EventDescriptor
  deriving DecidableEq, Repr

structure WaveformSessionSummary where
  id : Nat
  triggerSequence : Nat := 0
  firstSequence : Nat
  lastSequence : Nat
  triggerTaiNanoseconds : Nat := 0
  triggerRealtimeNanoseconds : Nat := 0
  sampleRateHz : Nat := 0
  triggerSourceMask : UInt32 := 0
  state : WaveformSessionState := .capturing
  decimation : Nat := 1
  associationCreated : Bool := false
  captureUuid : MncwfUuid := 0
  deriving DecidableEq, Repr

structure Session where
  summary : WaveformSessionSummary
  events : List SessionEvent := []
  activeEvents : List WaveformEventIdentity := []
  materializationQueued : Bool := false
  capacitySealed : Bool := false
  deriving DecidableEq, Repr

structure EventCaptureState where
  onsetSessionId : Nat := 0
  recoverySessionId : Nat := 0
  terminal : Bool := false
  deriving DecidableEq, Repr

structure GapRange where
  first : Nat
  last : Nat
  deriving DecidableEq, Repr

/-- What a call reads of the outside world: the correlation source and the two clocks. -/
structure Clocks where
  correlation : Option WaveformCorrelation := none
  tai : Nat
  realtime : Nat

structure WaveformCapture where
  capacity : Nat
  history : Nat → Frame := fun _ _ => 0
  haveHistory : Bool := false
  oldestSequence : Nat := 0
  latestSequence : Nat := 0
  sampleRateHz : Nat := 0
  configurationGeneration : Option UInt32 := none
  gaps : List GapRange := []
  nextSessionId : Nat := 1
  sessions : List Session := []
  eventCaptureIndex : MncwfUuid → Option EventCaptureState := fun _ => none
  /-- Sessions of the archive that a scan has validated and nobody has collected. -/
  discoveredSessions : Option (List Session) := none
  discoveryStarted : Bool := false
  correlation : WaveformCorrelation := {}
  correlationUtcNanoseconds : Nat := 0

/-- The part of a materialization job that comes from the ring and the session. -/
structure Job where
  summary : WaveformSessionSummary
  sourceFrameCount : Nat
  frames : List Frame
  events : List EventDescriptor

structure WriterResult where
  sessionId : Nat := 0
  success : Bool
  expiredSessionIds : List Nat := []

def validDecimation (decimation : Nat) : Bool :=
  decimation = 1 || decimation = 2 || decimation = 4 || decimation = 8 || decimation = 16 ||
    decimation = 32

def translateClock (value sourceAnchor destinationAnchor : Nat) : Except Failure Nat :=
  if sourceAnchor ≤ value then
    if u64Max - destinationAnchor < value - sourceAnchor then
      .error (.overflowError "waveform clock translation overflow")
    else .ok (destinationAnchor + (value - sourceAnchor))
  else if destinationAnchor < sourceAnchor - value then
    .error (.overflowError "waveform clock translation underflow")
  else .ok (destinationAnchor - (sourceAnchor - value))

def manualEventDescriptor (eventUuid : MncwfUuid) (sequence : Nat) (clocks : Clocks)
    (source : WaveformTriggerSource) : EventDescriptor where
  eventUuid
  lifecycle := .complete
  flags := mncwfEventStartValid ||| mncwfEventCurrentValid ||| mncwfEventEndValid |||
    mncwfEventTriggerValid ||| mncwfEventTaiValid ||| mncwfEventUtcValid |||
    mncwfEventSettingsSnapshotValid
  triggerSource := source.code
  startSequence := sequence
  currentSequence := sequence
  endSequence := sequence
  triggerSequence := sequence
  startTaiNanoseconds := clocks.tai
  currentTaiNanoseconds := clocks.tai
  endTaiNanoseconds := clocks.tai
  triggerTaiNanoseconds := clocks.tai
  startUtcNanoseconds := clocks.realtime
  currentUtcNanoseconds := clocks.realtime
  endUtcNanoseconds := clocks.realtime
  triggerUtcNanoseconds := clocks.realtime

section Stamping

def hasFlag (event : EventDescriptor) (flag : UInt32) : Bool := event.flags &&& flag ≠ 0

def clipEvent (event : EventDescriptor) (first last : Nat) : EventDescriptor :=
  let clamp := fun value => min (max value first) last
  let clippedStart := event.startSequence < first ∨ last < event.startSequence
  let event := { event with startSequence := clamp event.startSequence }
  let event := if hasFlag event mncwfEventCurrentValid then
      { event with currentSequence := clamp event.currentSequence }
    else { event with
      currentSequence := event.startSequence
      flags := event.flags ||| mncwfEventCurrentValid }
  let event := if hasFlag event mncwfEventEndValid ∧ last < event.endSequence then
      { event with
        flags := event.flags &&& ~~~mncwfEventEndValid
        endSequence := 0
        lifecycle := .update }
    else event
  let event := if hasFlag event mncwfEventEndValid then
      { event with endSequence := clamp event.endSequence }
    else event
  let event := if hasFlag event mncwfEventTriggerValid ∧
      (event.triggerSequence < first ∨ last < event.triggerSequence) then
      { event with
        flags := event.flags &&& ~~~mncwfEventTriggerValid
        triggerSequence := 0 }
    else event
  let event := if clippedStart then
      { event with
        flags := event.flags ||| mncwfEventDiscontinuous
        lifecycle := if event.lifecycle = .start then .update else event.lifecycle }
    else event
  if (event.lifecycle = .ended ∨ event.lifecycle = .abort ∨ event.lifecycle = .complete) ∧
      ¬ hasFlag event mncwfEventEndValid then
    { event with lifecycle := .update }
  else event

def timestampAt (correlation : WaveformCorrelation) (rate sequence anchorTime : Nat) :
    Except Failure Nat :=
  if rate = 0 then .error (.runtimeError "waveform sample rate is zero")
  else if correlation.frameSequence ≤ sequence then
    let nanoseconds := u64 ((sequence - correlation.frameSequence) * 1000000000) / rate
    if u64Max - anchorTime < nanoseconds then
      .error (.overflowError "waveform event time overflow")
    else .ok (anchorTime + nanoseconds)
  else
    let nanoseconds := u64 ((correlation.frameSequence - sequence) * 1000000000) / rate
    if anchorTime < nanoseconds then
      .error (.overflowError "waveform event time underflow")
    else .ok (anchorTime - nanoseconds)

def stampEvent (correlation : WaveformCorrelation) (utc rate : Nat) (event : EventDescriptor) :
    Except Failure EventDescriptor := do
  let tai := correlation.taiNanoseconds
  let startTai ← timestampAt correlation rate event.startSequence tai
  let currentTai ← timestampAt correlation rate event.currentSequence tai
  let startUtc ← timestampAt correlation rate event.startSequence utc
  let currentUtc ← timestampAt correlation rate event.currentSequence utc
  let ended := hasFlag event mncwfEventEndValid
  let endTai ← if ended then timestampAt correlation rate event.endSequence tai else .ok 0
  let endUtc ← if ended then timestampAt correlation rate event.endSequence utc else .ok 0
  let triggered := hasFlag event mncwfEventTriggerValid
  let triggerTai ← if triggered then timestampAt correlation rate event.triggerSequence tai
    else .ok 0
  let triggerUtc ← if triggered then timestampAt correlation rate event.triggerSequence utc
    else .ok 0
  return { event with
    startTaiNanoseconds := startTai
    currentTaiNanoseconds := currentTai
    endTaiNanoseconds := endTai
    triggerTaiNanoseconds := triggerTai
    startUtcNanoseconds := startUtc
    currentUtcNanoseconds := currentUtc
    endUtcNanoseconds := endUtc
    triggerUtcNanoseconds := triggerUtc
    flags := event.flags ||| mncwfEventTaiValid ||| mncwfEventUtcValid
    uncertaintyNanoseconds := correlation.uncertaintyNanoseconds
    durationSamples := if ended then u64 (event.endSequence + 2 ^ 64 - event.startSequence)
      else u64 (event.currentSequence + 2 ^ 64 - event.startSequence) }

end Stamping

/-- `rebuild_event_capture_index`, one marker. -/
def noteAssociation (index : MncwfUuid → Option EventCaptureState)
    (entry : Nat × EventDescriptor) : MncwfUuid → Option EventCaptureState :=
  let (sessionId, event) := entry
  if event.triggerSource ≠ WaveformTriggerSource.pqEvent.code ∨ event.eventUuid = 0 then index
  else
    let association := (index event.eventUuid).getD {}
    Function.update index event.eventUuid (some {
      onsetSessionId := if association.onsetSessionId = 0 then sessionId
        else association.onsetSessionId
      recoverySessionId := if association.onsetSessionId ≠ 0 ∧
          association.onsetSessionId ≠ sessionId ∧ association.recoverySessionId = 0 then sessionId
        else association.recoverySessionId
      terminal := association.terminal || event.lifecycle = .ended || event.lifecycle = .abort ||
        event.lifecycle = .complete })

/-- The markers in the order in which the index is rebuilt. -/
def markers (sessions : List Session) : List (Nat × EventDescriptor) :=
  sessions.flatMap (fun session =>
    session.events.map (fun event => (session.summary.id, event.descriptor)))

def rebuildEventCaptureIndex (sessions : List Session) : MncwfUuid → Option EventCaptureState :=
  (markers sessions).foldl noteAssociation (fun _ => none)

structure TriggerRequest where
  pretriggerMs : Nat
  posttriggerMs : Nat
  decimation : Nat
  source : WaveformTriggerSource

structure TrackRequest where
  eventId : WaveformEventIdentity
  lifecycle : WaveformEventLifecycle
  triggerSequence : Nat
  currentSequence : Nat
  pretriggerMs : Nat
  posttriggerMs : Nat
  decimation : Nat
  descriptor : EventDescriptor

def WaveformEventLifecycle.isTerminal : WaveformEventLifecycle → Bool
  | .ended => true
  | .abort => true
  | _ => false

def TrackRequest.anchor (request : TrackRequest) : Nat :=
  if request.lifecycle = .start then request.triggerSequence else request.currentSequence

namespace WaveformCapture

variable (capture : WaveformCapture)

def framesFor (milliseconds : Nat) : Nat := (capture.sampleRateHz * milliseconds + 999) / 1000

def maxCaptureFrames : Nat :=
  if capture.capacity ≤ capture.sampleRateHz * 2 then 0
  else capture.capacity - capture.sampleRateHz * 2

def intersectsGap (first last : Nat) : Bool :=
  capture.gaps.any (fun gap => gap.first ≤ last && first ≤ gap.last)

/-- Sessions that still wait for frames become incomplete. -/
def abandonSession (session : Session) : Session :=
  if session.summary.state = .capturing ∧ session.materializationQueued = false then
    { session with summary := { session.summary with state := .incomplete } }
  else session

def beginStreamEpoch : WaveformCapture :=
  { capture with
    sessions := capture.sessions.map abandonSession
    haveHistory := false
    oldestSequence := 0
    latestSequence := 0
    sampleRateHz := 0
    gaps := []
    configurationGeneration := none
    correlation := {}
    correlationUtcNanoseconds := 0 }

def withCorrelation (correlated : Option WaveformCorrelation) : WaveformCapture :=
  { capture with correlation := correlated.getD capture.correlation }

/-- The frames of a block that is not stale go into the ring. -/
def storeBlock (block : WaveformBlock) : WaveformCapture :=
  let first := block.header.firstSequence
  let expected := u64 (capture.latestSequence + 1)
  let gaps := if capture.haveHistory ∧ expected < first then
      capture.gaps ++ [⟨expected, first - 1⟩]
    else capture.gaps
  let latest := u64 (first + 1023)
  let oldest := if capture.haveHistory = false then first
    else if capture.capacity < u64 (latest + 2 ^ 64 - capture.oldestSequence + 1) then
      u64 (latest + 2 ^ 64 - capture.capacity + 1)
    else capture.oldestSequence
  { capture with
    history := RingBuffer.writeFrom (2 ^ 64) capture.capacity capture.history first
      (List.ofFn block.frames)
    latestSequence := latest
    haveHistory := true
    oldestSequence := oldest
    gaps := gaps.filter (fun gap => oldest ≤ gap.last)
    sampleRateHz := block.header.measuredSampleRateHz.toNat }

/-- A block of another configuration starts another epoch. -/
def enterGeneration (generation : UInt32) (correlated : Option WaveformCorrelation) :
    WaveformCapture :=
  let entered := match capture.configurationGeneration with
    | some current =>
        if current ≠ generation then capture.beginStreamEpoch.withCorrelation correlated
        else capture
    | none => capture
  { entered with configurationGeneration := some generation }

def acceptBlock (block : WaveformBlock) (correlated : Option WaveformCorrelation) :
    WaveformCapture :=
  if block.header.isValid = false then capture
  else
    let entered := capture.enterGeneration block.header.configurationGeneration correlated
    if entered.haveHistory ∧ block.header.firstSequence < u64 (entered.latestSequence + 1) then
      entered
    else entered.storeBlock block

def checkTrigger (request : TriggerRequest) : Except Failure Unit :=
  if capture.haveHistory = false ∨ capture.sampleRateHz = 0 then
    .error (.runtimeError "waveform history is not ready")
  else if 120000 < request.pretriggerMs ∨ 120000 < request.posttriggerMs then
    .error (.invalidArgument "waveform duration exceeds 120 seconds")
  else if validDecimation request.decimation = false then
    .error (.invalidArgument "waveform decimation must be 1, 2, 4, 8, 16, or 32")
  else if capture.maxCaptureFrames <
      capture.framesFor request.pretriggerMs + capture.framesFor request.posttriggerMs + 1 then
    .error (.invalidArgument ("waveform window of " ++
      toString (request.pretriggerMs + request.posttriggerMs) ++
      " ms does not fit the history buffer at " ++ toString capture.sampleRateHz ++
      " frame/s; pre+post may total " ++
      toString (capture.maxCaptureFrames * 1000 / capture.sampleRateHz) ++ " ms"))
  else .ok ()

/-- The refresh of the tick mapping that every trigger begins with. -/
def correlationUtc (clocks : Clocks) : Except Failure Nat :=
  if capture.correlation.taiNanoseconds ≠ 0 then
    translateClock capture.correlation.taiNanoseconds clocks.tai clocks.realtime
  else .ok capture.correlationUtcNanoseconds

def isActive (session : Session) : Bool :=
  session.summary.state = .capturing && !session.materializationQueued && !session.capacitySealed

/-- The session of an identifier; identifiers are distinct. -/
def sessionFor (id : Nat) : Option Session :=
  capture.sessions.find? (fun session => session.summary.id = id)

def updateSession (id : Nat) (change : Session → Session) : List Session :=
  capture.sessions.map (fun session => if session.summary.id = id then change session else session)

/-- The first sample that a window before an anchor asks for. -/
def windowFirst (anchor frames : Nat) : Nat := if frames < anchor then anchor - frames else 0

def addTrigger (event : SessionEvent) (source : WaveformTriggerSource) (session : Session) :
    Session :=
  { session with
    summary := { session.summary with
      triggerSourceMask := session.summary.triggerSourceMask ||| triggerSourceBit source }
    events := session.events ++ [event] }

def extendSession (first last : Nat) (session : Session) : Session :=
  { session with summary := { session.summary with
    firstSequence := min session.summary.firstSequence first
    lastSequence := max session.summary.lastSequence last } }

def triggerSession (request : TriggerRequest) (clocks : Clocks) (captureUuid : MncwfUuid) :
    Session :=
  { summary := {
      id := capture.nextSessionId
      triggerSequence := capture.latestSequence
      firstSequence := windowFirst capture.latestSequence
        (capture.framesFor request.pretriggerMs)
      lastSequence := u64 (capture.latestSequence + capture.framesFor request.posttriggerMs)
      triggerTaiNanoseconds := clocks.tai
      triggerRealtimeNanoseconds := clocks.realtime
      sampleRateHz := capture.sampleRateHz
      decimation := request.decimation
      captureUuid } }

def admitTrigger (request : TriggerRequest) (clocks : Clocks)
    (captureUuid eventUuid : MncwfUuid) : WaveformCapture × WaveformSessionSummary :=
  let anchor := capture.latestSequence
  let first := windowFirst anchor (capture.framesFor request.pretriggerMs)
  let last := u64 (anchor + capture.framesFor request.posttriggerMs)
  let event : SessionEvent :=
    { descriptor := manualEventDescriptor eventUuid anchor clocks request.source }
  let fresh := addTrigger event request.source
    (capture.triggerSession request clocks captureUuid)
  let opened := { capture with
    sessions := capture.sessions ++ [fresh]
    nextSessionId := capture.nextSessionId + 1 }
  match capture.sessions.find? isActive with
  | none => (opened, fresh.summary)
  | some active =>
      if u64 (active.summary.lastSequence + 1) < first then (opened, fresh.summary)
      else
        let join := fun session => addTrigger event request.source
          (extendSession first last session)
        ({ capture with sessions := capture.updateSession active.summary.id join },
          (join active).summary)

def trigger (request : TriggerRequest) (clocks : Clocks) (captureUuid eventUuid : MncwfUuid) :
    WaveformCapture × Except Failure WaveformSessionSummary :=
  match capture.checkTrigger request with
  | .error failure => (capture, .error failure)
  | .ok () =>
      let correlated := capture.withCorrelation clocks.correlation
      match correlated.correlationUtc clocks with
      | .error failure => (correlated, .error failure)
      | .ok utc =>
          let (after, summary) := { correlated with correlationUtcNanoseconds := utc }.admitTrigger
            request clocks captureUuid eventUuid
          (after, .ok summary)

def checkTrack (request : TrackRequest) : Except Failure Unit :=
  if request.eventId.session = 0 ∨ request.eventId.counter = 0 then
    .error (.invalidArgument "power-quality event ID is zero")
  else if capture.haveHistory = false ∨ capture.sampleRateHz = 0 then
    .error (.runtimeError "waveform history is not ready")
  else if request.currentSequence < request.triggerSequence then
    .error (.invalidArgument "event trigger is after its current sample")
  else if 120000 < request.pretriggerMs ∨ 120000 < request.posttriggerMs then
    .error (.invalidArgument "waveform duration exceeds 120 seconds")
  else if validDecimation request.decimation = false then
    .error (.invalidArgument "waveform decimation must be 1, 2, 4, 8, 16, or 32")
  else if request.descriptor.eventUuid = 0 then
    .error (.invalidArgument "power-quality event UUID is zero")
  else if capture.maxCaptureFrames <
      capture.framesFor request.pretriggerMs + capture.framesFor request.posttriggerMs + 1 then
    .error (.invalidArgument "one event waveform policy exceeds the history budget")
  else .ok ()

def updateMarker (request : TrackRequest) (session : Session) : Session :=
  if session.summary.state ≠ .capturing ∨ session.materializationQueued then session
  else if ∃ event ∈ session.events,
      event.descriptor.eventUuid = request.descriptor.eventUuid then
    { session with events := replaceFirst session.events }
  else { session with
    events := session.events ++ [⟨request.eventId, true, request.descriptor⟩] }
where
  replaceFirst : List SessionEvent → List SessionEvent
    | [] => []
    | event :: events =>
        if event.descriptor.eventUuid = request.descriptor.eventUuid then
          { event with descriptor := request.descriptor } :: events
        else event :: replaceFirst events

def boundedWindow (request : TrackRequest) (anchor : Nat) : Except Failure (Nat × Nat) :=
  let last := anchor + capture.framesFor request.posttriggerMs
  if u64Max - capture.framesFor request.posttriggerMs < anchor then
    .error (.invalidArgument "event post-trigger range overflows")
  else if last < capture.oldestSequence then
    .error (.runtimeError "event waveform window is no longer retained")
  else
    let first := max (windowFirst anchor (capture.framesFor request.pretriggerMs))
      capture.oldestSequence
    .ok (if capture.maxCaptureFrames < u64 (last + 2 ^ 64 - first + 1) then
      u64 (last + 2 ^ 64 - capture.maxCaptureFrames + 1) else first, last)

/-- `new_session`. -/
def eventSession (request : TrackRequest) (clocks : Clocks) (captureUuid : MncwfUuid)
    (window : Nat × Nat) : Session :=
  { summary := {
      id := capture.nextSessionId
      triggerSequence := request.anchor
      firstSequence := window.1
      lastSequence := window.2
      triggerTaiNanoseconds := clocks.tai
      triggerRealtimeNanoseconds := clocks.realtime
      sampleRateHz := capture.sampleRateHz
      triggerSourceMask := triggerSourceBit .pqEvent
      decimation := request.decimation
      captureUuid }
    events := [⟨request.eventId, true, request.descriptor⟩] }

def response (session : Session) (created : Bool) : WaveformSessionSummary :=
  { session.summary with associationCreated := created }

/-- A new session for the event, filed in the index as its state says. -/
def createFor (request : TrackRequest) (clocks : Clocks) (captureUuid : MncwfUuid)
    (window : Nat × Nat) (state : Nat → EventCaptureState) :
    WaveformCapture × WaveformSessionSummary :=
  let created := capture.eventSession request clocks captureUuid window
  ({ capture with
      sessions := capture.sessions ++ [created]
      nextSessionId := capture.nextSessionId + 1
      eventCaptureIndex := Function.update capture.eventCaptureIndex
        request.descriptor.eventUuid (some (state created.summary.id)) },
    response created true)

def beginCapture (request : TrackRequest) (clocks : Clocks) (captureUuid : MncwfUuid) :
    WaveformCapture × Except Failure WaveformSessionSummary :=
  match capture.boundedWindow request request.anchor with
  | .error failure => (capture, .error failure)
  | .ok window =>
      let (after, summary) := capture.createFor request clocks captureUuid window (fun id =>
        { onsetSessionId := if request.lifecycle = .start then id else 0
          recoverySessionId := if request.lifecycle = .start then 0 else id
          terminal := request.lifecycle.isTerminal })
      (after, .ok summary)

/-- Whether the window of the end can join the capture of the onset. -/
def joinsOnset (onset : Session) (window : Nat × Nat) : Bool :=
  onset.summary.state = .capturing && !onset.materializationQueued &&
    window.1 ≤ u64 (onset.summary.lastSequence + 1) &&
    onset.summary.firstSequence ≤ u64 (window.2 + 1) &&
    u64 (max onset.summary.lastSequence window.2 + 2 ^ 64 -
      min onset.summary.firstSequence window.1 + 1) ≤ capture.maxCaptureFrames

/-- The end of an event that has a capture of its onset only. -/
def closeCapture (request : TrackRequest) (clocks : Clocks) (captureUuid : MncwfUuid)
    (state : EventCaptureState) (onset : Option Session) :
    WaveformCapture × Except Failure WaveformSessionSummary :=
  let file := fun state => Function.update capture.eventCaptureIndex request.descriptor.eventUuid
    (some state)
  match capture.boundedWindow request request.currentSequence with
  | .error failure => (capture, .error failure)
  | .ok window =>
      let separate := capture.createFor request clocks captureUuid window (fun id =>
        { state with recoverySessionId := id, terminal := true })
      match onset with
      | none => (separate.1, .ok separate.2)
      | some onset =>
          if capture.joinsOnset onset window then
            let join := fun session =>
              updateMarker request (extendSession window.1 window.2 session)
            ({ capture with
                sessions := capture.updateSession onset.summary.id join
                eventCaptureIndex := file { state with terminal := true } },
              .ok (response (join onset) false))
          else (separate.1, .ok separate.2)

def trackSessions (request : TrackRequest) (clocks : Clocks) (captureUuid : MncwfUuid) :
    WaveformCapture × Except Failure WaveformSessionSummary :=
  match capture.eventCaptureIndex request.descriptor.eventUuid with
  | none => capture.beginCapture request clocks captureUuid
  | some state =>
      let onset := capture.sessionFor state.onsetSessionId
      let recovery := capture.sessionFor state.recoverySessionId
      match recovery.or onset with
      | none =>
          let forgotten := { capture with
            eventCaptureIndex := Function.update capture.eventCaptureIndex
              request.descriptor.eventUuid none }
          forgotten.beginCapture request clocks captureUuid
      | some latest =>
          if request.lifecycle.isTerminal = false ∨ state.terminal ∨ recovery.isSome then
            ({ capture with
                sessions := capture.updateSession latest.summary.id (updateMarker request) },
              .ok (response (updateMarker request latest) false))
          else capture.closeCapture request clocks captureUuid state onset

def trackPowerQualityEvent (request : TrackRequest) (clocks : Clocks)
    (captureUuid : MncwfUuid) : WaveformCapture × Except Failure WaveformSessionSummary :=
  match capture.checkTrack request with
  | .error failure => (capture, .error failure)
  | .ok () =>
      let correlated := capture.withCorrelation clocks.correlation
      match correlated.correlationUtc clocks with
      | .error failure => (correlated, .error failure)
      | .ok utc => { correlated with correlationUtcNanoseconds := utc }.trackSessions request
          clocks captureUuid

def jobCorrelation (session : Session) : WaveformCorrelation :=
  if capture.correlation.taiNanoseconds = 0 then
    { taiNanoseconds := session.summary.triggerTaiNanoseconds
      plTick := session.summary.triggerSequence
      frameSequence := session.summary.triggerSequence
      uncertaintyNanoseconds := 1000000 }
  else capture.correlation

/-- The UTC time of the correlation that a job is stamped with. -/
def jobUtc (session : Session) : Except Failure Nat :=
  if capture.correlationUtcNanoseconds = 0 then
    translateClock (capture.jobCorrelation session).taiNanoseconds
      session.summary.triggerTaiNanoseconds session.summary.triggerRealtimeNanoseconds
  else .ok capture.correlationUtcNanoseconds

/-- `enqueue_materialization`, up to the hand-over. -/
def enqueueMaterialization (session : Session) : Except Failure Job := do
  let utc ← capture.jobUtc session
  let first := session.summary.firstSequence
  let last := session.summary.lastSequence
  let window := u64 (last + 2 ^ 64 - first + 1)
  if capture.capacity < window then
    .error (.runtimeError "waveform session exceeds history")
  else
    let events ← session.events.mapM (fun event =>
      stampEvent (capture.jobCorrelation session) utc session.summary.sampleRateHz
        (clipEvent event.descriptor first last))
    return {
      summary := session.summary
      sourceFrameCount := window
      frames := RingBuffer.copyFrom (2 ^ 64) capture.capacity capture.history window first window
      events }

def isDue (session : Session) : Bool :=
  session.summary.state = .capturing && !session.materializationQueued &&
    session.activeEvents.isEmpty && session.summary.lastSequence ≤ capture.latestSequence

/-- `finish_sessions` at one session. -/
def finishSession (session : Session) : Session × Option Job :=
  let incomplete := { session with summary := { session.summary with state := .incomplete } }
  if capture.isDue session = false then (session, none)
  else if session.summary.firstSequence < capture.oldestSequence ∨
      capture.intersectsGap session.summary.firstSequence session.summary.lastSequence then
    (incomplete, none)
  else match capture.enqueueMaterialization session with
    | .ok job => ({ session with materializationQueued := true }, some job)
    | .error _ => (incomplete, none)

def finishSessions : WaveformCapture × List Job :=
  ({ capture with
      sessions := capture.sessions.map (fun session => (capture.finishSession session).1) },
    capture.sessions.filterMap (fun session => (capture.finishSession session).2))

def writtenSession (success : Bool) (session : Session) : Session :=
  { session with
    materializationQueued := false
    summary := { session.summary with state := if success then .complete else .incomplete } }

def removeSessions (removed : Nat → Bool) : WaveformCapture :=
  let sessions := capture.sessions.filter (fun session => !removed session.summary.id)
  { capture with sessions, eventCaptureIndex := rebuildEventCaptureIndex sessions }

/-- `collect_materialization_results` at one result. -/
def collectResult (result : WriterResult) : WaveformCapture :=
  let kept := if result.expiredSessionIds = [] then capture
    else capture.removeSessions (fun id => result.expiredSessionIds.contains id)
  if result.sessionId = 0 then kept
  else { kept with
    sessions := kept.updateSession result.sessionId (writtenSession result.success) }

/-- `begin_persisted_session_discovery`: the identifiers of the archive are reserved before its
files are validated. -/
def beginDiscovery (archived : List Session) : WaveformCapture :=
  if capture.discoveryStarted then capture
  else { capture with
    discoveryStarted := true
    discoveredSessions := some archived
    nextSessionId := (archived.map (fun session => session.summary.id + 1)).foldr max
      capture.nextSessionId }

/-- A restored session whose identifier is taken is left out. -/
def mergeSession (sessions : List Session) (session : Session) : List Session :=
  if ∃ other ∈ sessions, other.summary.id = session.summary.id then sessions
  else sessions ++ [session]

/-- `collect_discovery_results`. -/
def collectDiscovery : WaveformCapture :=
  match capture.discoveredSessions with
  | none => capture
  | some restored =>
      let sessions := (restored.foldl mergeSession capture.sessions).insertionSort
        (fun left right => left.summary.id ≤ right.summary.id)
      { capture with
        sessions
        discoveredSessions := none
        eventCaptureIndex := rebuildEventCaptureIndex sessions }

/-- `erase`; `removed` is the outcome of deleting the file. -/
def erase (id : Nat) (removed : Except Failure Unit) : WaveformCapture × Except Failure Unit :=
  match capture.sessionFor id with
  | none => (capture, .error (.invalidArgument "waveform session does not exist"))
  | some session =>
      if session.summary.state = .capturing ∨ session.materializationQueued then
        (capture, .error (.runtimeError "waveform session is still active"))
      else match removed with
        | .error failure => (capture, .error failure)
        | .ok () => (capture.removeSessions (fun other => other = id), .ok ())

end WaveformCapture

inductive Call where
  | beginStreamEpoch (correlated : Option WaveformCorrelation)
  | acceptBlock (block : WaveformBlock) (correlated : Option WaveformCorrelation)
  | trigger (request : TriggerRequest) (clocks : Clocks) (captureUuid eventUuid : MncwfUuid)
  | track (request : TrackRequest) (clocks : Clocks) (captureUuid : MncwfUuid)
  | finishSessions
  | collectResult (result : WriterResult)
  | beginDiscovery (archived : List Session)
  | collectDiscovery
  | erase (id : Nat) (removed : Except Failure Unit)
  | stop

inductive Answer where
  | done
  | summary (summary : WaveformSessionSummary)
  | jobs (jobs : List Job)
  | failed (failure : Failure)

def answered : Except Failure WaveformSessionSummary → Answer
  | .ok summary => .summary summary
  | .error failure => .failed failure

def machine : Machine WaveformCapture Call Answer where
  step := fun capture call => match call with
    | .beginStreamEpoch correlated => (capture.beginStreamEpoch.withCorrelation correlated, .done)
    | .acceptBlock block correlated => (capture.acceptBlock block correlated, .done)
    | .trigger request clocks captureUuid eventUuid =>
        let (after, result) := capture.trigger request clocks captureUuid eventUuid
        (after, answered result)
    | .track request clocks captureUuid =>
        let (after, result) := capture.trackPowerQualityEvent request clocks captureUuid
        (after, answered result)
    | .finishSessions =>
        let (after, jobs) := capture.finishSessions
        (after, .jobs jobs)
    | .collectResult result => (capture.collectResult result, .done)
    | .beginDiscovery archived => (capture.beginDiscovery archived, .done)
    | .collectDiscovery => (capture.collectDiscovery, .done)
    | .erase id removed =>
        match capture.erase id removed with
        | (after, .ok ()) => (after, .done)
        | (after, .error failure) => (after, .failed failure)
    | .stop => ({ capture with
        sessions := capture.sessions.map WaveformCapture.abandonSession }, .done)

end Msap1.Waveform
