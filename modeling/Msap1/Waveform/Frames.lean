import Msap1.Loops
import Msap1.Waveform.Capture

/-! The frames of a materialized capture are the frames that were received. -/

namespace Msap1.Waveform

open WaveformCapture

/-- The frames of the current stream epoch, by sequence number. -/
abbrev Received := Nat → Option Frame

def WaveformCapture.changesGeneration (capture : WaveformCapture) (block : WaveformBlock) : Bool :=
  match capture.configurationGeneration with
  | some current => current ≠ block.header.configurationGeneration
  | none => false

def Received.withBlock (received : Received) (block : WaveformBlock) : Received := fun sequence =>
  if h : block.header.firstSequence ≤ sequence ∧
      sequence - block.header.firstSequence < 1024 then
    some (block.frames ⟨sequence - block.header.firstSequence, h.2⟩)
  else received sequence

def noteFrames (capture : WaveformCapture) (received : Received) (call : Call) (_ : Answer) :
    Received :=
  match call with
  | .beginStreamEpoch _ => fun _ => none
  | .acceptBlock block correlated =>
      let entered := capture.enterGeneration block.header.configurationGeneration correlated
      let kept := if capture.changesGeneration block then fun _ => none else received
      if block.header.isValid = false then received
      else if entered.haveHistory ∧ block.header.firstSequence < u64 (entered.latestSequence + 1)
      then kept
      else Received.withBlock kept block
  | _ => received

def recording : Machine (WaveformCapture × Received) Call Answer := machine.traced noteFrames

/-- Blocks end below the last sequence number, and the archive holds complete captures. -/
def InRange (_ : WaveformCapture × Received) : Call → Prop
  | .acceptBlock block _ => block.header.firstSequence ≤ 2 ^ 64 - 1025
  | .beginDiscovery archived => ∀ session ∈ archived, session.summary.state = .complete
  | _ => True

instance (state : WaveformCapture × Received) : ∀ call, Decidable (InRange state call)
  | .acceptBlock block _ => inferInstanceAs (Decidable (block.header.firstSequence ≤ 2 ^ 64 - 1025))
  | .beginDiscovery archived =>
      inferInstanceAs (Decidable (∀ session ∈ archived, session.summary.state = .complete))
  | .beginStreamEpoch _ => isTrue trivial
  | .trigger _ _ _ _ => isTrue trivial
  | .track _ _ _ => isTrue trivial
  | .finishSessions => isTrue trivial
  | .collectResult _ => isTrue trivial
  | .collectDiscovery => isTrue trivial
  | .erase _ _ => isTrue trivial
  | .stop => isTrue trivial

/-- The window of a manual trigger ends at a sequence number. -/
def Unwrapped (state : WaveformCapture × Received) : Call → Prop
  | .trigger request _ _ _ => state.1.checkTrigger request = .ok () →
      state.1.latestSequence + state.1.framesFor request.posttriggerMs < 2 ^ 64
  | _ => True

/-- The frame was never received, or a later one has taken its slot. -/
def Missing (capacity : Nat) (received : Received) (sequence : Nat) : Prop :=
  received sequence = none ∨ ∃ later, sequence < later ∧ later % capacity = sequence % capacity ∧
    received later ≠ none

section Ring

variable {capture : WaveformCapture} {received : Received}

theorem u64_eq {value : Nat} (small : value < 2 ^ 64) : u64 value = value := Nat.mod_eq_of_lt small

theorem u64_wrap {value : Nat} (small : value < 2 ^ 64) : u64 (value + 2 ^ 64) = value := by
  rw [u64, Nat.add_mod_right, Nat.mod_eq_of_lt small]

/-- Between the oldest and the latest frame, what lies in no gap is in the ring. -/
structure RingHolds (capture : WaveformCapture) (received : Received) : Prop where
  order : capture.haveHistory = true → capture.oldestSequence ≤ capture.latestSequence
  span : capture.haveHistory = true →
    capture.latestSequence - capture.oldestSequence + 1 ≤ capture.capacity
  bounded : capture.latestSequence ≤ 2 ^ 64 - 2
  stored : ∀ sequence, capture.haveHistory = true → capture.oldestSequence ≤ sequence →
    sequence ≤ capture.latestSequence →
    (∃ gap ∈ capture.gaps, gap.first ≤ sequence ∧ sequence ≤ gap.last) ∨
      received sequence = some (capture.history (sequence % capture.capacity))
  past : ∀ sequence, received sequence ≠ none →
    capture.haveHistory = true ∧ sequence ≤ capture.latestSequence

theorem withBlock_inside {block : WaveformBlock} {sequence : Nat}
    (above : block.header.firstSequence ≤ sequence)
    (below : sequence < block.header.firstSequence + 1024) :
    Received.withBlock received block sequence =
      some (block.frames ⟨sequence - block.header.firstSequence, by omega⟩) := by
  rw [Received.withBlock, dif_pos ⟨above, by omega⟩]

theorem withBlock_outside {block : WaveformBlock} {sequence : Nat}
    (apart : sequence < block.header.firstSequence ∨
      block.header.firstSequence + 1024 ≤ sequence) :
    Received.withBlock received block sequence = received sequence := by
  rw [Received.withBlock, dif_neg]
  omega

theorem storeBlock_oldest (ring : RingHolds capture received) (block : WaveformBlock)
    (capacity : 1024 ≤ capture.capacity) (range : block.header.firstSequence ≤ 2 ^ 64 - 1025)
    (fresh : capture.haveHistory = true → capture.latestSequence < block.header.firstSequence) :
    (capture.storeBlock block).oldestSequence ≤ block.header.firstSequence + 1023 ∧
      block.header.firstSequence + 1023 - (capture.storeBlock block).oldestSequence + 1 ≤
        capture.capacity ∧
      (capture.haveHistory = false →
        (capture.storeBlock block).oldestSequence = block.header.firstSequence) ∧
      (capture.haveHistory = true →
        capture.oldestSequence ≤ (capture.storeBlock block).oldestSequence) := by
  have latest : u64 (block.header.firstSequence + 1023) = block.header.firstSequence + 1023 :=
    u64_eq (by omega)
  simp only [storeBlock, latest]
  cases have' : capture.haveHistory with
  | false => simpa using by omega
  | true =>
      have order := ring.order have'
      have newer := fresh have'
      have width : u64 (block.header.firstSequence + 1023 + 2 ^ 64 - capture.oldestSequence + 1) =
          block.header.firstSequence + 1023 - capture.oldestSequence + 1 := by
        rw [show block.header.firstSequence + 1023 + 2 ^ 64 - capture.oldestSequence + 1 =
          block.header.firstSequence + 1023 - capture.oldestSequence + 1 + 2 ^ 64 by omega]
        exact u64_wrap (by omega)
      rw [width, if_neg (by simp)]
      split
      case isTrue wide =>
          have start : u64 (block.header.firstSequence + 1023 + 2 ^ 64 - capture.capacity + 1) =
              block.header.firstSequence + 1023 - capture.capacity + 1 := by
            rw [show block.header.firstSequence + 1023 + 2 ^ 64 - capture.capacity + 1 =
              block.header.firstSequence + 1023 - capture.capacity + 1 + 2 ^ 64 by omega]
            exact u64_wrap (by omega)
          rw [start]
          refine ⟨by omega, by omega, ?_, ?_⟩
          · intro never
            cases never
          · intro _
            omega
      case isFalse narrow =>
          refine ⟨by omega, by omega, ?_, ?_⟩
          · intro never
            cases never
          · intro _
            exact le_refl _

theorem storeBlock_written (block : WaveformBlock) (capacity : 1024 ≤ capture.capacity)
    (range : block.header.firstSequence ≤ 2 ^ 64 - 1025) {sequence : Nat}
    (above : block.header.firstSequence ≤ sequence)
    (below : sequence < block.header.firstSequence + 1024) :
    Received.withBlock received block sequence =
      some ((capture.storeBlock block).history (sequence % capture.capacity)) := by
  have inside : sequence - block.header.firstSequence < 1024 := by omega
  have length : (List.ofFn block.frames).length = 1024 := List.length_ofFn
  have frame : (List.ofFn block.frames)[sequence - block.header.firstSequence]? =
      some (block.frames ⟨sequence - block.header.firstSequence, inside⟩) := by
    rw [List.getElem?_ofFn, dif_pos inside]
  have history : (capture.storeBlock block).history = RingBuffer.writeFrom (2 ^ 64)
      capture.capacity capture.history block.header.firstSequence (List.ofFn block.frames) := by
    simp only [storeBlock]
  rw [withBlock_inside above below, history, ← frame]
  generalize List.ofFn block.frames = values at length ⊢
  have within : sequence - block.header.firstSequence < values.length := by omega
  rw [← RingBuffer.writeFrom_get capture.history (show block.header.firstSequence + values.length ≤
    2 ^ 64 by omega) (show values.length ≤ capture.capacity by omega) within,
    Nat.add_sub_cancel' above]

theorem storeBlock_kept (block : WaveformBlock)
    (range : block.header.firstSequence ≤ 2 ^ 64 - 1025) {sequence : Nat}
    (below : sequence < block.header.firstSequence)
    (spanned : block.header.firstSequence + 1023 - sequence + 1 ≤ capture.capacity) :
    (capture.storeBlock block).history (sequence % capture.capacity) =
      capture.history (sequence % capture.capacity) := by
  have length : (List.ofFn block.frames).length = 1024 := List.length_ofFn
  have history : (capture.storeBlock block).history = RingBuffer.writeFrom (2 ^ 64)
      capture.capacity capture.history block.header.firstSequence (List.ofFn block.frames) := by
    simp only [storeBlock]
  rw [history]
  generalize List.ofFn block.frames = values at length ⊢
  apply RingBuffer.writeFrom_other
  · omega
  · intro number above within same
    have equal := RingBuffer.slot_injective (show sequence ≤ number by omega) (by omega)
      (le_refl sequence) (by omega) same
    omega

theorem storeBlock_ring (ring : RingHolds capture received) (block : WaveformBlock)
    (capacity : 1024 ≤ capture.capacity) (range : block.header.firstSequence ≤ 2 ^ 64 - 1025)
    (fresh : capture.haveHistory = true → capture.latestSequence < block.header.firstSequence) :
    RingHolds (capture.storeBlock block) (Received.withBlock received block) := by
  obtain ⟨order, span, first, later⟩ := storeBlock_oldest ring block capacity range fresh
  have latest : (capture.storeBlock block).latestSequence = block.header.firstSequence + 1023 := by
    simp only [storeBlock]
    exact u64_eq (by omega)
  have size : (capture.storeBlock block).capacity = capture.capacity := by
    simp only [storeBlock]
  refine ⟨?_, ?_, ?_, ?_, ?_⟩
  · intro _
    rw [latest]
    exact order
  · intro _
    rw [latest, size]
    exact span
  · rw [latest]
    omega
  · intro sequence _ above below
    rw [latest] at below
    by_cases inside : block.header.firstSequence ≤ sequence
    · right
      rw [size]
      exact storeBlock_written block capacity range inside (by omega)
    · have before : capture.haveHistory = true := by
        by_contra none
        rw [Bool.not_eq_true] at none
        have start := first none
        omega
      have older := later before
      by_cases missed : capture.latestSequence < sequence
      · left
        have last : sequence ≤ block.header.firstSequence - 1 := by omega
        refine ⟨⟨capture.latestSequence + 1, block.header.firstSequence - 1⟩, ?_, missed, last⟩
        · have expected : u64 (capture.latestSequence + 1) = capture.latestSequence + 1 := by
            have bounded := ring.bounded
            exact u64_eq (by omega)
          have gap : capture.haveHistory = true ∧
              u64 (capture.latestSequence + 1) < block.header.firstSequence := by
            rw [expected]
            exact ⟨before, by omega⟩
          simp only [storeBlock] at above ⊢
          rw [if_pos gap, expected, List.mem_filter]
          refine ⟨List.mem_append_right _ List.mem_cons_self, ?_⟩
          rw [decide_eq_true_eq]
          exact le_trans above last
      · rcases ring.stored sequence before (by omega) (by omega) with ⟨gap, member, around⟩ | held
        · left
          refine ⟨gap, ?_, around⟩
          simp only [storeBlock] at above ⊢
          rw [List.mem_filter]
          constructor
          · split
            · exact List.mem_append_left _ member
            · exact member
          · rw [decide_eq_true_eq]
            omega
        · right
          rw [withBlock_outside (by omega), held]
          have kept : (capture.storeBlock block).history (sequence % capture.capacity) =
              capture.history (sequence % capture.capacity) :=
            storeBlock_kept block range (by omega) (by omega)
          rw [size, kept]
  · intro sequence some
    constructor
    · simp only [storeBlock]
    · rw [latest]
      by_cases inside : block.header.firstSequence ≤ sequence ∧
          sequence < block.header.firstSequence + 1024
      · omega
      · rw [withBlock_outside (by omega)] at some
        obtain ⟨before, past⟩ := ring.past sequence some
        have newer := fresh before
        omega

end Ring

section Windows

/-- The session still waits for its frames. -/
def Session.Waiting (session : Session) : Prop :=
  session.summary.state = .capturing ∧ session.materializationQueued = false

/-- The window of the session is one. -/
def Session.Ordered (session : Session) : Prop :=
  session.summary.firstSequence ≤ session.summary.lastSequence

/-- The ring, and the windows that are cut out of it later. -/
structure Recorded (capture : WaveformCapture) (received : Received) : Prop where
  capacity : 1024 ≤ capture.capacity
  ring : RingHolds capture received
  windows : ∀ session ∈ capture.sessions, session.Waiting →
    capture.haveHistory = true ∧ session.Ordered
  archived : ∀ restored, capture.discoveredSessions = some restored →
    ∀ session ∈ restored, session.summary.state = .complete

variable {capture after : WaveformCapture} {received : Received}

/-- Nothing of the ring has changed. -/
structure SameRing (before after : WaveformCapture) : Prop where
  capacity : after.capacity = before.capacity
  history : after.history = before.history
  haveHistory : after.haveHistory = before.haveHistory
  oldest : after.oldestSequence = before.oldestSequence
  latest : after.latestSequence = before.latestSequence
  gaps : after.gaps = before.gaps

theorem ring_same (ring : RingHolds capture received) (same : SameRing capture after) :
    RingHolds after received := by
  obtain ⟨capacity, history, haveHistory, oldest, latest, gaps⟩ := same
  constructor
  · rw [haveHistory, oldest, latest]
    exact ring.order
  · rw [haveHistory, oldest, latest, capacity]
    exact ring.span
  · rw [latest]
    exact ring.bounded
  · rw [haveHistory, oldest, latest, capacity, history, gaps]
    exact ring.stored
  · rw [haveHistory, latest]
    exact ring.past

theorem recorded_sessions (recorded : Recorded capture received) (same : SameRing capture after)
    (discovered : after.discoveredSessions = capture.discoveredSessions ∨
      after.discoveredSessions = none)
    (windows : ∀ session ∈ after.sessions, session.Waiting →
      capture.haveHistory = true ∧ session.Ordered) : Recorded after received where
  capacity := by
    rw [same.capacity]
    exact recorded.capacity
  ring := ring_same recorded.ring same
  windows := by
    rw [same.haveHistory]
    exact windows
  archived := by
    intro restored found
    rcases discovered with kept | collected
    · exact recorded.archived restored (kept.symm.trans found)
    · rw [collected] at found
      cases found

theorem recorded_map (recorded : Recorded capture received) (same : SameRing capture after)
    (discovered : after.discoveredSessions = capture.discoveredSessions)
    (change : Session → Session) (sessions : after.sessions = capture.sessions.map change)
    (ordered : ∀ session, (change session).Waiting →
      session.Waiting ∧ (session.Ordered → (change session).Ordered)) :
    Recorded after received := by
  apply recorded_sessions recorded same (.inl discovered)
  intro changed member waiting
  rw [sessions] at member
  obtain ⟨session, present, equal⟩ := List.mem_map.mp member
  subst equal
  obtain ⟨before, kept⟩ := ordered session waiting
  obtain ⟨history, window⟩ := recorded.windows session present before
  exact ⟨history, kept window⟩

theorem recorded_update (recorded : Recorded capture received) (same : SameRing capture after)
    (discovered : after.discoveredSessions = capture.discoveredSessions) (id : Nat)
    (change : Session → Session) (sessions : after.sessions = capture.updateSession id change)
    (ordered : ∀ session, (change session).Waiting →
      session.Waiting ∧ (session.Ordered → (change session).Ordered)) :
    Recorded after received := by
  apply recorded_map recorded same discovered _ sessions
  intro session
  split
  · exact ordered session
  · intro waiting
    exact ⟨waiting, fun window => window⟩

theorem recorded_append (recorded : Recorded capture received) (same : SameRing capture after)
    (discovered : after.discoveredSessions = capture.discoveredSessions) {session : Session}
    (sessions : after.sessions = capture.sessions ++ [session])
    (history : capture.haveHistory = true) (ordered : session.Ordered) :
    Recorded after received := by
  apply recorded_sessions recorded same (.inl discovered)
  intro other member waiting
  rw [sessions] at member
  rcases List.mem_append.mp member with old | new
  · exact recorded.windows other old waiting
  · rw [List.mem_singleton.mp new]
    exact ⟨history, ordered⟩

theorem recorded_same (recorded : Recorded capture received) (same : SameRing capture after)
    (discovered : after.discoveredSessions = capture.discoveredSessions)
    (sessions : after.sessions = capture.sessions) : Recorded after received :=
  recorded_map recorded same discovered id (by rw [sessions, List.map_id])
    (fun _ waiting => ⟨waiting, fun window => window⟩)

theorem abandonSession_settled (session : Session) : ¬ (abandonSession session).Waiting := by
  simp only [abandonSession, Session.Waiting]
  split
  case isTrue => simp
  case isFalse settled => exact settled

theorem recorded_epoch (recorded : Recorded capture received)
    (correlated : Option WaveformCorrelation) :
    Recorded (capture.beginStreamEpoch.withCorrelation correlated) (fun _ => none) where
  capacity := recorded.capacity
  ring := by
    constructor
    · intro never
      cases never
    · intro never
      cases never
    · exact Nat.zero_le _
    · intro _ never
      cases never
    · intro _ some
      exact absurd rfl some
  windows := by
    intro changed member waiting
    obtain ⟨session, _, equal⟩ := List.mem_map.mp member
    rw [← equal] at waiting
    exact absurd waiting (abandonSession_settled session)
  archived := recorded.archived

theorem recorded_generation (recorded : Recorded capture received) (block : WaveformBlock)
    (correlated : Option WaveformCorrelation) :
    Recorded (capture.enterGeneration block.header.configurationGeneration correlated)
      (if capture.changesGeneration block then fun _ => none else received) := by
  cases found : capture.configurationGeneration with
  | none =>
      simp only [enterGeneration, changesGeneration, found, Bool.false_eq_true, if_false]
      exact recorded_same recorded ⟨rfl, rfl, rfl, rfl, rfl, rfl⟩ rfl rfl
  | some current =>
      by_cases changed : current ≠ block.header.configurationGeneration
      · simp only [enterGeneration, changesGeneration, found, changed, decide_true, if_true, ne_eq,
          not_false_eq_true]
        exact recorded_same (recorded_epoch recorded correlated) ⟨rfl, rfl, rfl, rfl, rfl, rfl⟩
          rfl rfl
      · simp only [enterGeneration, changesGeneration, found, changed, decide_false,
          Bool.false_eq_true, if_false]
        exact recorded_same recorded ⟨rfl, rfl, rfl, rfl, rfl, rfl⟩ rfl rfl

theorem recorded_block (recorded : Recorded capture received) (block : WaveformBlock)
    (correlated : Option WaveformCorrelation)
    (range : block.header.firstSequence ≤ 2 ^ 64 - 1025) (answer : Answer) :
    Recorded (capture.acceptBlock block correlated)
      (noteFrames capture received (.acceptBlock block correlated) answer) := by
  have entered := recorded_generation recorded block correlated
  simp only [acceptBlock, noteFrames]
  generalize capture.enterGeneration block.header.configurationGeneration correlated = opened
    at entered ⊢
  generalize (if capture.changesGeneration block then fun _ => none else received) = kept
    at entered ⊢
  split
  · exact recorded
  · split
    · exact entered
    case isFalse fresh =>
        have newer : opened.haveHistory = true →
            opened.latestSequence < block.header.firstSequence := by
          intro before
          by_contra stale
          have bounded := entered.ring.bounded
          apply fresh
          rw [u64_eq (by omega)]
          exact ⟨before, by omega⟩
        refine ⟨?_, storeBlock_ring entered.ring block entered.capacity range newer, ?_, ?_⟩
        · simp only [storeBlock]
          exact entered.capacity
        · intro session member waiting
          simp only [storeBlock] at member ⊢
          exact ⟨trivial, (entered.windows session member waiting).2⟩
        · simp only [storeBlock]
          exact entered.archived

theorem windowFirst_le (anchor frames : Nat) : windowFirst anchor frames ≤ anchor := by
  simp only [windowFirst]
  split <;> omega

theorem extendSession_ordered {session : Session} {first last : Nat} (ordered : session.Ordered) :
    (extendSession first last session).Ordered := by
  simp only [Session.Ordered, extendSession] at ordered ⊢
  omega

theorem recorded_trigger (recorded : Recorded capture received) (request : TriggerRequest)
    (clocks : Clocks) (captureUuid eventUuid : MncwfUuid)
    (unwrapped : capture.checkTrigger request = .ok () →
      capture.latestSequence + capture.framesFor request.posttriggerMs < 2 ^ 64) :
    Recorded (capture.trigger request clocks captureUuid eventUuid).1 received := by
  simp only [WaveformCapture.trigger]
  split
  case h_1 => exact recorded
  case h_2 checked =>
      have fits := unwrapped checked
      have history : capture.haveHistory = true := by
        simp only [checkTrigger] at checked
        split at checked
        · cases checked
        case isFalse ready =>
            rw [not_or, Bool.not_eq_false] at ready
            exact ready.1
      split
      · exact recorded_same recorded ⟨rfl, rfl, rfl, rfl, rfl, rfl⟩ rfl rfl
      · have ordered : windowFirst capture.latestSequence (capture.framesFor request.pretriggerMs) ≤
            u64 (capture.latestSequence + capture.framesFor request.posttriggerMs) := by
          rw [u64_eq fits]
          exact le_trans (windowFirst_le _ _) (Nat.le_add_right _ _)
        dsimp only [admitTrigger]
        split
        · exact recorded_append recorded ⟨rfl, rfl, rfl, rfl, rfl, rfl⟩ rfl rfl history ordered
        · split
          · exact recorded_append recorded ⟨rfl, rfl, rfl, rfl, rfl, rfl⟩ rfl rfl history ordered
          · refine recorded_update recorded ⟨rfl, rfl, rfl, rfl, rfl, rfl⟩ rfl _ _ rfl ?_
            intro session waiting
            exact ⟨waiting, extendSession_ordered⟩

theorem updateMarker_summary (request : TrackRequest) (session : Session) :
    (updateMarker request session).summary = session.summary ∧
      (updateMarker request session).materializationQueued = session.materializationQueued := by
  simp only [updateMarker]
  split
  · exact ⟨rfl, rfl⟩
  · split
    · exact ⟨rfl, rfl⟩
    · exact ⟨rfl, rfl⟩

theorem updateMarker_window (request : TrackRequest) (session : Session)
    (waiting : (updateMarker request session).Waiting) :
    session.Waiting ∧ (session.Ordered → (updateMarker request session).Ordered) := by
  obtain ⟨summary, queued⟩ := updateMarker_summary request session
  simp only [Session.Waiting, Session.Ordered, summary, queued] at waiting ⊢
  exact ⟨waiting, fun window => window⟩

theorem boundedWindow_ordered {request : TrackRequest} {anchor : Nat} {window : Nat × Nat}
    (room : 0 < capture.maxCaptureFrames)
    (found : capture.boundedWindow request anchor = .ok window) : window.1 ≤ window.2 := by
  simp only [boundedWindow] at found
  split at found
  · cases found
  case isFalse fits =>
      split at found
      · cases found
      case isFalse retained =>
          generalize capture.framesFor request.posttriggerMs = after at *
          have start := windowFirst_le anchor (capture.framesFor request.pretriggerMs)
          generalize windowFirst anchor (capture.framesFor request.pretriggerMs) = before at *
          cases found
          dsimp only
          have order : max before capture.oldestSequence ≤ anchor + after := by omega
          generalize max before capture.oldestSequence = first at *
          simp only [u64Max] at fits
          split
          case isTrue wide =>
              simp only [u64] at wide ⊢
              omega
          case isFalse => exact order

theorem checkTrack_ok {request : TrackRequest} (checked : capture.checkTrack request = .ok ()) :
    capture.haveHistory = true ∧ 0 < capture.maxCaptureFrames := by
  simp only [checkTrack] at checked
  split at checked
  · cases checked
  split at checked
  · cases checked
  case isFalse ready =>
      rw [not_or, Bool.not_eq_false] at ready
      split at checked
      · cases checked
      split at checked
      · cases checked
      split at checked
      · cases checked
      split at checked
      · cases checked
      split at checked
      · cases checked
      case isFalse fits => exact ⟨ready.1, by omega⟩

theorem recorded_create (recorded : Recorded capture received) {request : TrackRequest}
    (clocks : Clocks) (captureUuid : MncwfUuid) {anchor : Nat} {window : Nat × Nat}
    (history : capture.haveHistory = true) (room : 0 < capture.maxCaptureFrames)
    (found : capture.boundedWindow request anchor = .ok window)
    (state : Nat → EventCaptureState) :
    Recorded (capture.createFor request clocks captureUuid window state).1 received :=
  recorded_append recorded ⟨rfl, rfl, rfl, rfl, rfl, rfl⟩ rfl rfl history
    (boundedWindow_ordered room found)

theorem recorded_begin (recorded : Recorded capture received) {request : TrackRequest}
    (clocks : Clocks) (captureUuid : MncwfUuid) (history : capture.haveHistory = true)
    (room : 0 < capture.maxCaptureFrames) :
    Recorded (capture.beginCapture request clocks captureUuid).1 received := by
  simp only [beginCapture]
  split
  · exact recorded
  case h_2 window found =>
      dsimp only
      exact recorded_create recorded clocks captureUuid history room found _

theorem recorded_close (recorded : Recorded capture received) {request : TrackRequest}
    (clocks : Clocks) (captureUuid : MncwfUuid) (state : EventCaptureState)
    (onset : Option Session) (history : capture.haveHistory = true)
    (room : 0 < capture.maxCaptureFrames) :
    Recorded (capture.closeCapture request clocks captureUuid state onset).1 received := by
  simp only [closeCapture]
  split
  · exact recorded
  case h_2 window found =>
      split
      · dsimp only
        exact recorded_create recorded clocks captureUuid history room found _
      · split
        · refine recorded_update recorded ⟨rfl, rfl, rfl, rfl, rfl, rfl⟩ rfl _ _ rfl ?_
          intro session waiting
          obtain ⟨before, kept⟩ := updateMarker_window request _ waiting
          exact ⟨before, fun ordered => kept (extendSession_ordered ordered)⟩
        · dsimp only
          exact recorded_create recorded clocks captureUuid history room found _

theorem recorded_track (recorded : Recorded capture received) (request : TrackRequest)
    (clocks : Clocks) (captureUuid : MncwfUuid) :
    Recorded (capture.trackPowerQualityEvent request clocks captureUuid).1 received := by
  simp only [trackPowerQualityEvent]
  split
  · exact recorded
  case h_2 checked =>
      obtain ⟨history, room⟩ := checkTrack_ok checked
      split
      · exact recorded_same recorded ⟨rfl, rfl, rfl, rfl, rfl, rfl⟩ rfl rfl
      case h_2 utc _ =>
          have correlated : Recorded { capture.withCorrelation clocks.correlation with
              correlationUtcNanoseconds := utc } received :=
            recorded_same recorded ⟨rfl, rfl, rfl, rfl, rfl, rfl⟩ rfl rfl
          simp only [trackSessions]
          split
          · exact recorded_begin correlated clocks captureUuid history room
          · split
            · refine recorded_begin ?_ clocks captureUuid history room
              exact recorded_same correlated ⟨rfl, rfl, rfl, rfl, rfl, rfl⟩ rfl rfl
            · split
              · exact recorded_update correlated ⟨rfl, rfl, rfl, rfl, rfl, rfl⟩ rfl _
                  (updateMarker request) rfl (updateMarker_window request)
              · exact recorded_close correlated clocks captureUuid _ _ history room

theorem finishSession_waiting (session : Session)
    (waiting : (capture.finishSession session).1.Waiting) :
    session.Waiting ∧ (session.Ordered → (capture.finishSession session).1.Ordered) := by
  simp only [finishSession] at waiting ⊢
  split at waiting
  case isTrue early =>
      rw [if_pos early]
      exact ⟨waiting, fun window => window⟩
  case isFalse =>
      split at waiting
      · cases waiting.1
      · split at waiting
        · cases waiting.2
        · cases waiting.1

theorem recorded_finish (recorded : Recorded capture received) :
    Recorded capture.finishSessions.1 received :=
  recorded_map recorded ⟨rfl, rfl, rfl, rfl, rfl, rfl⟩ rfl _ rfl finishSession_waiting

theorem recorded_remove (recorded : Recorded capture received) (removed : Nat → Bool) :
    Recorded (capture.removeSessions removed) received := by
  refine recorded_sessions recorded ⟨rfl, rfl, rfl, rfl, rfl, rfl⟩ (.inl rfl) ?_
  intro session member
  exact recorded.windows session (List.mem_filter.mp member).1

theorem writtenSession_settled (success : Bool) (session : Session) :
    ¬ (writtenSession success session).Waiting := by
  cases success <;> simp [writtenSession, Session.Waiting]

theorem recorded_collectResult (recorded : Recorded capture received) (result : WriterResult) :
    Recorded (capture.collectResult result) received := by
  have kept : Recorded (if result.expiredSessionIds = [] then capture
      else capture.removeSessions (fun id => result.expiredSessionIds.contains id)) received := by
    split
    · exact recorded
    · exact recorded_remove recorded _
  simp only [collectResult]
  split
  · exact kept
  · refine recorded_update kept ⟨rfl, rfl, rfl, rfl, rfl, rfl⟩ rfl _
      (writtenSession result.success) rfl ?_
    intro session waiting
    exact absurd waiting (writtenSession_settled _ _)

theorem merged_member {restored sessions : List Session} {session : Session}
    (member : session ∈ restored.foldl mergeSession sessions) :
    session ∈ sessions ∨ session ∈ restored := by
  induction restored generalizing sessions with
  | nil => exact .inl member
  | cons first restored ih =>
      rcases ih member with merged | later
      · simp only [mergeSession] at merged
        split at merged
        · exact .inl merged
        · rcases List.mem_append.mp merged with old | new
          · exact .inl old
          · exact .inr (List.mem_cons.mpr (.inl (List.mem_singleton.mp new)))
      · exact .inr (List.mem_cons_of_mem first later)

theorem recorded_collectDiscovery (recorded : Recorded capture received) :
    Recorded capture.collectDiscovery received := by
  simp only [collectDiscovery]
  split
  · exact recorded
  case h_2 restored found =>
      refine recorded_sessions recorded ⟨rfl, rfl, rfl, rfl, rfl, rfl⟩ (.inr rfl) ?_
      intro session member waiting
      rcases merged_member ((List.mem_insertionSort _).mp member) with old | new
      · exact recorded.windows session old waiting
      · have complete := recorded.archived restored found session new
        rw [waiting.1] at complete
        cases complete

theorem recorded_erase (recorded : Recorded capture received) (id : Nat)
    (removed : Except Failure Unit) : Recorded (capture.erase id removed).1 received := by
  simp only [erase]
  split
  · exact recorded
  · split
    · exact recorded
    · split
      · exact recorded
      · dsimp only
        exact recorded_remove recorded _

end Windows

section Jobs

variable {capture : WaveformCapture} {received : Received}

theorem step_recorded (call : Call) (range : InRange (capture, received) call)
    (unwrapped : Unwrapped (capture, received) call) (recorded : Recorded capture received) :
    Recorded (machine.next capture call)
      (noteFrames capture received call (machine.answer capture call)) := by
  cases call with
  | beginStreamEpoch correlated => exact recorded_epoch recorded correlated
  | acceptBlock block correlated => exact recorded_block recorded block correlated range _
  | trigger request clocks captureUuid eventUuid =>
      exact recorded_trigger recorded request clocks captureUuid eventUuid unwrapped
  | track request clocks captureUuid => exact recorded_track recorded request clocks captureUuid
  | finishSessions => exact recorded_finish recorded
  | collectResult result => exact recorded_collectResult recorded result
  | beginDiscovery archived =>
      simp only [machine, Machine.next, noteFrames, beginDiscovery]
      split
      · exact recorded
      · refine ⟨recorded.capacity, ring_same recorded.ring ⟨rfl, rfl, rfl, rfl, rfl, rfl⟩,
          recorded.windows, ?_⟩
        rintro restored ⟨⟩
        exact range
  | collectDiscovery => exact recorded_collectDiscovery recorded
  | erase id removed =>
      have erased := recorded_erase recorded id removed
      simp only [machine, Machine.next, noteFrames]
      split
      case h_1 after outcome => rwa [outcome] at erased
      case h_2 after failure outcome => rwa [outcome] at erased
  | stop =>
      refine recorded_map recorded ⟨rfl, rfl, rfl, rfl, rfl, rfl⟩ rfl abandonSession rfl ?_
      intro session waiting
      exact absurd waiting (abandonSession_settled session)

theorem run_recorded (calls : List Call) (range : recording.Along InRange (capture, received) calls)
    (unwrapped : recording.Along Unwrapped (capture, received) calls)
    (recorded : Recorded capture received) :
    Recorded (recording.run (capture, received) calls).1
      (recording.run (capture, received) calls).2 :=
  recording.along_invariant (fun state call => InRange state call ∧ Unwrapped state call)
    (fun state => Recorded state.1 state.2)
    (fun _ call allowed holds => step_recorded call allowed.1 allowed.2 holds)
    (capture, received) recorded calls (recording.along_and range unwrapped)

theorem recorded_start {capacity : Nat} (large : 1024 ≤ capacity) :
    Recorded { capacity } (fun _ => none) where
  capacity := large
  ring := by
    constructor
    · intro never
      cases never
    · intro never
      cases never
    · exact Nat.zero_le _
    · intro _ never
      cases never
    · intro _ some
      exact absurd rfl some
  windows := by
    intro _ member
    cases member
  archived := by
    rintro _ ⟨⟩

theorem enqueueMaterialization_ok {session : Session} {job : Job}
    (queued : capture.enqueueMaterialization session = .ok job) :
    job.summary = session.summary ∧ job.frames = RingBuffer.copyFrom (2 ^ 64) capture.capacity
      capture.history (u64 (session.summary.lastSequence + 2 ^ 64 -
        session.summary.firstSequence + 1)) session.summary.firstSequence
      (u64 (session.summary.lastSequence + 2 ^ 64 - session.summary.firstSequence + 1)) := by
  simp only [enqueueMaterialization] at queued
  obtain ⟨utc, _, rest⟩ := Loops.bind_ok queued
  split at rest
  · cases rest
  · obtain ⟨events, _, given⟩ := Loops.bind_ok rest
    cases given
    exact ⟨rfl, rfl⟩

theorem window_frames (recorded : Recorded capture received) {first last : Nat}
    (history : capture.haveHistory = true)
    (kept : capture.oldestSequence ≤ first) (arrived : last ≤ capture.latestSequence)
    (whole : capture.intersectsGap first last = false) :
    ∀ sequence, first ≤ sequence → sequence ≤ last →
      received sequence = some (capture.history (sequence % capture.capacity)) := by
  intro sequence above below
  rcases recorded.ring.stored sequence history (by omega) (by omega)
    with ⟨gap, member, around⟩ | held
  · have meets : capture.intersectsGap first last = true := by
      simp only [intersectsGap, List.any_eq_true, Bool.and_eq_true, decide_eq_true_eq]
      exact ⟨gap, member, by omega, by omega⟩
    rw [whole] at meets
    cases meets
  · exact held

theorem finishSession_cases (session : Session) (due : capture.isDue session = true) :
    (∃ job, capture.finishSession session =
        ({ session with materializationQueued := true }, some job) ∧
      capture.enqueueMaterialization session = .ok job ∧
      capture.oldestSequence ≤ session.summary.firstSequence ∧
      capture.intersectsGap session.summary.firstSequence session.summary.lastSequence = false) ∨
    capture.finishSession session =
      ({ session with summary := { session.summary with state := .incomplete } }, none) := by
  simp only [finishSession]
  rw [if_neg (by simp [due])]
  split
  · exact .inr rfl
  case isFalse whole =>
      rw [not_or, Nat.not_lt, Bool.not_eq_true] at whole
      cases queued : capture.enqueueMaterialization session with
      | ok job => exact .inl ⟨job, rfl, rfl, whole.1, whole.2⟩
      | error failure => exact .inr rfl

theorem isDue_waiting {session : Session} (due : capture.isDue session = true) :
    session.Waiting ∧ session.summary.lastSequence ≤ capture.latestSequence := by
  simp only [isDue, Bool.and_eq_true, decide_eq_true_eq, Bool.not_eq_true'] at due
  exact ⟨⟨due.1.1.1, due.1.1.2⟩, due.2⟩

theorem finishSession_due (recorded : Recorded capture received) {session : Session}
    (member : session ∈ capture.sessions) (due : capture.isDue session = true) :
    (∃ job, capture.finishSession session =
        ({ session with materializationQueued := true }, some job) ∧
      job.summary = session.summary ∧ session.Ordered ∧
      job.frames.map some = (List.range' session.summary.firstSequence
        (session.summary.lastSequence + 1 - session.summary.firstSequence)).map received ∧
      ∀ sequence, session.summary.firstSequence ≤ sequence →
        sequence ≤ session.summary.lastSequence → ¬ Missing capture.capacity received sequence) ∨
    capture.finishSession session =
      ({ session with summary := { session.summary with state := .incomplete } }, none) := by
  obtain ⟨waiting, arrived⟩ := isDue_waiting due
  obtain ⟨history, order⟩ := recorded.windows session member waiting
  have capacity := recorded.capacity
  have bounded := recorded.ring.bounded
  rcases finishSession_cases session due with ⟨job, finished, queued, kept, whole⟩ | incomplete
  · left
    obtain ⟨summary, frames⟩ := enqueueMaterialization_ok queued
    simp only [Session.Ordered] at order
    have held := window_frames recorded history kept arrived whole
    refine ⟨job, finished, summary, order, ?_, ?_⟩
    · generalize session.summary.firstSequence = first at *
      generalize session.summary.lastSequence = last at *
      have window : u64 (last + 2 ^ 64 - first + 1) = last + 1 - first := by
        rw [show last + 2 ^ 64 - first + 1 = last + 1 - first + 2 ^ 64 by omega]
        exact u64_wrap (by omega)
      rw [frames, window, RingBuffer.copyFrom_eq _ (by omega) (le_refl _) (by omega),
        List.range'_eq_map_range, List.map_map, List.map_map]
      apply List.map_congr_left
      intro index below
      have small := List.mem_range.mp below
      exact (held (first + index) (by omega) (by omega)).symm
    · intro sequence above below missing
      rcases missing with never | ⟨later, after, slot, present⟩
      · rw [held sequence above below] at never
        cases never
      · obtain ⟨_, past⟩ := recorded.ring.past later present
        have span := recorded.ring.span history
        have equal := RingBuffer.slot_injective (show sequence ≤ later by omega) (by omega)
          (le_refl sequence) (by omega) slot
        omega
  · exact .inr incomplete

/-- In every run in which no manual trigger asks for samples beyond the last sequence number, a
job that is handed to the writer holds the frames of its window as they were received in the
current epoch, and a session that is due and misses one becomes incomplete. -/
theorem captures_received (capacity : Nat) (large : 1024 ≤ capacity) (calls : List Call)
    (range : recording.Along InRange ({ capacity }, fun _ => none) calls)
    (unwrapped : recording.Along Unwrapped ({ capacity }, fun _ => none) calls) :
    let (capture, received) := recording.run ({ capacity }, fun _ => none) calls
    (∀ job ∈ capture.finishSessions.2,
      job.summary.firstSequence ≤ job.summary.lastSequence ∧
        job.frames.map some = (List.range' job.summary.firstSequence
          (job.summary.lastSequence + 1 - job.summary.firstSequence)).map received) ∧
      ∀ session ∈ capture.sessions, capture.isDue session = true →
        (∃ sequence, session.summary.firstSequence ≤ sequence ∧
          sequence ≤ session.summary.lastSequence ∧ Missing capture.capacity received sequence) →
        capture.finishSession session =
          ({ session with summary := { session.summary with state := .incomplete } }, none) := by
  have recorded := run_recorded calls range unwrapped (recorded_start large)
  generalize recording.run ({ capacity }, fun _ => none) calls = state at recorded ⊢
  obtain ⟨capture, received⟩ := state
  dsimp only at recorded ⊢
  constructor
  · intro job member
    obtain ⟨session, present, found⟩ := List.mem_filterMap.mp member
    have due : capture.isDue session = true := by
      by_contra early
      rw [Bool.not_eq_true] at early
      rw [finishSession, if_pos early] at found
      cases found
    rcases finishSession_due recorded present due with
      ⟨other, finished, summary, order, frames, _⟩ | incomplete
    · rw [finished, Option.some_inj] at found
      subst found
      rw [summary]
      exact ⟨order, frames⟩
    · rw [incomplete] at found
      cases found
  · rintro session member due ⟨sequence, above, below, missing⟩
    rcases finishSession_due recorded member due with ⟨_, _, _, _, _, held⟩ | incomplete
    · exact absurd missing (held sequence above below)
    · exact incomplete

/-- A block of 32 frames a second, and a manual trigger behind it. -/
def triggeredCalls (firstHigh firstLow : UInt32) (pretriggerMs posttriggerMs : Nat) : List Call :=
  [.acceptBlock {
      header := {
        firstSequenceLow := firstLow
        firstSequenceHigh := firstHigh
        measuredSampleRateHz := 32
        configurationGeneration := 1 }
      frames := fun _ _ => 0 } none,
    .trigger { pretriggerMs, posttriggerMs, decimation := 1, source := .manualWeb }
      { tai := 1800000037000000000, realtime := 1800000000000000000 } 1 2]

/-- A second of history before the trigger. -/
theorem trigger_captures_received :
    let (capture, received) := recording.run ({ capacity := 1024 }, fun _ => none)
      (triggeredCalls 0 0 1000 0)
    capture.finishSessions.2.length = 1 ∧
    (∀ job ∈ capture.finishSessions.2,
      job.summary.firstSequence ≤ job.summary.lastSequence ∧
        job.frames.map some = (List.range' job.summary.firstSequence
          (job.summary.lastSequence + 1 - job.summary.firstSequence)).map received) ∧
      ∀ session ∈ capture.sessions, capture.isDue session = true →
        (∃ sequence, session.summary.firstSequence ≤ sequence ∧
          sequence ≤ session.summary.lastSequence ∧ Missing capture.capacity received sequence) →
        capture.finishSession session =
          ({ session with summary := { session.summary with state := .incomplete } }, none) :=
  ⟨by decide +kernel, captures_received 1024 (by decide) (triggeredCalls 0 0 1000 0)
    (by decide +kernel) ⟨trivial, fun _ => by decide +kernel, trivial⟩⟩

/-- One more second after the last block that the numbers have room for. -/
theorem wrapped_trigger_unreceived :
    recording.Along InRange ({ capacity := 1024 }, fun _ => none)
        (triggeredCalls 0xffffffff 0xfffffbff 0 1000) ∧
      ∃ job ∈ (recording.run ({ capacity := 1024 }, fun _ => none)
          (triggeredCalls 0xffffffff 0xfffffbff 0 1000)).1.finishSessions.2,
        job.frames.map some ≠ (List.range' job.summary.firstSequence
            (job.summary.lastSequence + 1 - job.summary.firstSequence)).map
              (recording.run ({ capacity := 1024 }, fun _ => none)
                (triggeredCalls 0xffffffff 0xfffffbff 0 1000)).2 ∧
          ∃ index < job.frames.length, (recording.run ({ capacity := 1024 }, fun _ => none)
            (triggeredCalls 0xffffffff 0xfffffbff 0 1000)).2
              (u64 (job.summary.firstSequence + index)) = none := by
  have job : ∃ job ∈ (recording.run ({ capacity := 1024 }, fun _ => none)
      (triggeredCalls 0xffffffff 0xfffffbff 0 1000)).1.finishSessions.2,
      job.frames.length = 33 ∧ job.summary.lastSequence + 1 - job.summary.firstSequence = 0 ∧
        ((recording.run ({ capacity := 1024 }, fun _ => none)
          (triggeredCalls 0xffffffff 0xfffffbff 0 1000)).2
            (u64 (job.summary.firstSequence + 2))).isNone = true := by
    decide +kernel
  obtain ⟨job, member, length, width, unreceived⟩ := job
  refine ⟨by decide +kernel, job, member, ?_, 2, ?_, ?_⟩
  · intro same
    have lengths := congrArg List.length same
    rw [width, List.length_map, length] at lengths
    simp at lengths
  · rw [length]
    decide
  · exact Option.isNone_iff_eq_none.mp unreceived

end Jobs

end Msap1.Waveform
