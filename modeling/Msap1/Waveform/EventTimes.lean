import Msap1.Waveform.Frames

/-! The times of the events of a capture, and when the product of a distance in samples and a
billion still fits 64 bits. -/

namespace Msap1.Waveform

open WaveformCapture

/-- The distance of a sequence from that of the correlation. -/
def distanceFrom (correlation : WaveformCorrelation) (sequence : Nat) : Nat :=
  (sequence - correlation.frameSequence) + (correlation.frameSequence - sequence)

/-- The nanoseconds of the distance fit before they are divided by the rate. -/
def Near (correlation : WaveformCorrelation) (sequence : Nat) : Prop :=
  distanceFrom correlation sequence * 1000000000 < 2 ^ 64

/-- The time of a sequence, from that of the correlation. -/
def ExactTime (correlation : WaveformCorrelation) (rate sequence anchorTime time : Nat) : Prop :=
  if correlation.frameSequence ≤ sequence then
    time = anchorTime + (sequence - correlation.frameSequence) * 1000000000 / rate
  else time + (correlation.frameSequence - sequence) * 1000000000 / rate = anchorTime

instance (correlation : WaveformCorrelation) (rate sequence anchorTime time : Nat) :
    Decidable (ExactTime correlation rate sequence anchorTime time) := by
  unfold ExactTime
  infer_instance

/-- Whatever holds of the sequences that an event is stamped at. -/
def EventDescriptor.AtStamps (event : EventDescriptor) (Holds : Nat → Prop) : Prop :=
  Holds event.startSequence ∧ Holds event.currentSequence ∧
    (hasFlag event mncwfEventEndValid → Holds event.endSequence) ∧
    (hasFlag event mncwfEventTriggerValid → Holds event.triggerSequence)

instance (event : EventDescriptor) (Holds : Nat → Prop) [DecidablePred Holds] :
    Decidable (event.AtStamps Holds) := by
  unfold EventDescriptor.AtStamps
  infer_instance

instance (correlation : WaveformCorrelation) : DecidablePred (Near correlation) := by
  intro sequence
  unfold Near
  infer_instance

/-- The times of a stamped event. -/
structure TimesExact (correlation : WaveformCorrelation) (utc rate : Nat)
    (event : EventDescriptor) : Prop where
  startTai : ExactTime correlation rate event.startSequence correlation.taiNanoseconds
    event.startTaiNanoseconds
  currentTai : ExactTime correlation rate event.currentSequence correlation.taiNanoseconds
    event.currentTaiNanoseconds
  startUtc : ExactTime correlation rate event.startSequence utc event.startUtcNanoseconds
  currentUtc : ExactTime correlation rate event.currentSequence utc event.currentUtcNanoseconds
  ended : hasFlag event mncwfEventEndValid →
    ExactTime correlation rate event.endSequence correlation.taiNanoseconds
        event.endTaiNanoseconds ∧
      ExactTime correlation rate event.endSequence utc event.endUtcNanoseconds
  triggered : hasFlag event mncwfEventTriggerValid →
    ExactTime correlation rate event.triggerSequence correlation.taiNanoseconds
        event.triggerTaiNanoseconds ∧
      ExactTime correlation rate event.triggerSequence utc event.triggerUtcNanoseconds

section Stamps

variable {correlation : WaveformCorrelation} {rate sequence anchorTime time utc : Nat}
  {event stamped : EventDescriptor}

/-- A reduced product divided by a 32-bit rate is the true quotient only if nothing was reduced. -/
theorem reduced_quotient (narrow : rate < 2 ^ 32) (positive : rate ≠ 0) (product : Nat) :
    u64 product / rate = product / rate ↔ product < 2 ^ 64 := by
  constructor
  · intro same
    by_contra wide
    rw [Nat.not_lt] at wide
    have split : product = u64 product + 2 ^ 64 * (product / 2 ^ 64) :=
      (Nat.mod_add_div product (2 ^ 64)).symm
    have more : 1 ≤ product / 2 ^ 64 := (Nat.one_le_div_iff (by decide)).mpr wide
    have step : u64 product + rate ≤ product := by omega
    have quotient := Nat.div_le_div_right (c := rate) step
    rw [Nat.add_div_right _ (Nat.pos_of_ne_zero positive)] at quotient
    omega
  · intro small
    rw [u64, Nat.mod_eq_of_lt small]

theorem timestampAt_exact (narrow : rate < 2 ^ 32)
    (stamped : timestampAt correlation rate sequence anchorTime = .ok time) :
    ExactTime correlation rate sequence anchorTime time ↔ Near correlation sequence := by
  unfold timestampAt at stamped
  split at stamped
  · cases stamped
  · next positive =>
      unfold ExactTime Near distanceFrom
      split at stamped
      · next ahead =>
          rw [if_pos ahead, Nat.sub_eq_zero_of_le ahead, Nat.add_zero,
            ← reduced_quotient narrow positive]
          dsimp only at stamped
          split at stamped
          · cases stamped
          · cases stamped
            exact ⟨fun same => Nat.add_left_cancel same, fun same => congrArg _ same⟩
      · next behind =>
          rw [if_neg behind, Nat.sub_eq_zero_of_le (Nat.le_of_not_le behind), Nat.zero_add,
            ← reduced_quotient narrow positive]
          dsimp only at stamped
          split at stamped
          · cases stamped
          · next room =>
              cases stamped
              rw [Nat.not_lt] at room
              omega

theorem and_flag {flags added flag : UInt32} (apart : added &&& flag = 0) :
    (flags ||| added) &&& flag = flags &&& flag := by
  have bits := congrArg UInt32.toBitVec apart
  apply UInt32.toBitVec_inj.mp
  simp only [UInt32.toBitVec_and, UInt32.toBitVec_or] at bits ⊢
  rw [BitVec.and_or_distrib_right, bits]
  exact BitVec.or_zero

/-- What `stampEvent` writes into an event. -/
structure Stamped (correlation : WaveformCorrelation) (utc rate : Nat)
    (event stamped : EventDescriptor) : Prop where
  flags : stamped.flags = event.flags ||| mncwfEventTaiValid ||| mncwfEventUtcValid
  sequences : stamped.startSequence = event.startSequence ∧
    stamped.currentSequence = event.currentSequence ∧
    stamped.endSequence = event.endSequence ∧ stamped.triggerSequence = event.triggerSequence
  startTai : timestampAt correlation rate event.startSequence correlation.taiNanoseconds =
    .ok stamped.startTaiNanoseconds
  currentTai : timestampAt correlation rate event.currentSequence correlation.taiNanoseconds =
    .ok stamped.currentTaiNanoseconds
  startUtc : timestampAt correlation rate event.startSequence utc = .ok stamped.startUtcNanoseconds
  currentUtc : timestampAt correlation rate event.currentSequence utc =
    .ok stamped.currentUtcNanoseconds
  ended : hasFlag event mncwfEventEndValid →
    timestampAt correlation rate event.endSequence correlation.taiNanoseconds =
        .ok stamped.endTaiNanoseconds ∧
      timestampAt correlation rate event.endSequence utc = .ok stamped.endUtcNanoseconds
  triggered : hasFlag event mncwfEventTriggerValid →
    timestampAt correlation rate event.triggerSequence correlation.taiNanoseconds =
        .ok stamped.triggerTaiNanoseconds ∧
      timestampAt correlation rate event.triggerSequence utc = .ok stamped.triggerUtcNanoseconds

theorem stampEvent_stamped (done : stampEvent correlation utc rate event = .ok stamped) :
    Stamped correlation utc rate event stamped := by
  unfold stampEvent at done
  rcases Loops.bind_ok done with ⟨startTai, startTaiOk, done⟩
  rcases Loops.bind_ok done with ⟨currentTai, currentTaiOk, done⟩
  rcases Loops.bind_ok done with ⟨startUtc, startUtcOk, done⟩
  rcases Loops.bind_ok done with ⟨currentUtc, currentUtcOk, done⟩
  dsimp only at done
  cases ends : hasFlag event mncwfEventEndValid with
  | true =>
      simp only [ends, if_true] at done
      rcases Loops.bind_ok done with ⟨endTai, endTaiOk, done⟩
      rcases Loops.bind_ok done with ⟨endUtc, endUtcOk, done⟩
      cases triggers : hasFlag event mncwfEventTriggerValid with
      | true =>
          simp only [triggers, if_true] at done
          rcases Loops.bind_ok done with ⟨triggerTai, triggerTaiOk, done⟩
          rcases Loops.bind_ok done with ⟨triggerUtc, triggerUtcOk, done⟩
          cases done
          exact ⟨rfl, ⟨rfl, rfl, rfl, rfl⟩, startTaiOk, currentTaiOk, startUtcOk, currentUtcOk,
            fun _ => ⟨endTaiOk, endUtcOk⟩, fun _ => ⟨triggerTaiOk, triggerUtcOk⟩⟩
      | false =>
          simp only [triggers, Bool.false_eq_true, if_false] at done
          cases done
          exact ⟨rfl, ⟨rfl, rfl, rfl, rfl⟩, startTaiOk, currentTaiOk, startUtcOk, currentUtcOk,
            fun _ => ⟨endTaiOk, endUtcOk⟩, fun absent => nomatch triggers.symm.trans absent⟩
  | false =>
      simp only [ends, Bool.false_eq_true, if_false] at done
      cases triggers : hasFlag event mncwfEventTriggerValid with
      | true =>
          simp only [triggers, if_true] at done
          rcases Loops.bind_ok done with ⟨endTai, _, done⟩
          rcases Loops.bind_ok done with ⟨endUtc, _, done⟩
          rcases Loops.bind_ok done with ⟨triggerTai, triggerTaiOk, done⟩
          rcases Loops.bind_ok done with ⟨triggerUtc, triggerUtcOk, done⟩
          cases done
          exact ⟨rfl, ⟨rfl, rfl, rfl, rfl⟩, startTaiOk, currentTaiOk, startUtcOk, currentUtcOk,
            fun absent => (nomatch ends.symm.trans absent), fun _ => ⟨triggerTaiOk, triggerUtcOk⟩⟩
      | false =>
          simp only [triggers, Bool.false_eq_true, if_false] at done
          cases done
          exact ⟨rfl, ⟨rfl, rfl, rfl, rfl⟩, startTaiOk, currentTaiOk, startUtcOk, currentUtcOk,
            fun absent => (nomatch ends.symm.trans absent),
            fun absent => nomatch triggers.symm.trans absent⟩

theorem stampEvent_exact (narrow : rate < 2 ^ 32)
    (done : stampEvent correlation utc rate event = .ok stamped) :
    TimesExact correlation utc rate stamped ↔ event.AtStamps (Near correlation) := by
  rcases stampEvent_stamped done with ⟨flags, ⟨start, current, finish, trigger⟩, startTai,
    currentTai, startUtc, currentUtc, ended, triggered⟩
  have ends : hasFlag stamped mncwfEventEndValid = hasFlag event mncwfEventEndValid := by
    unfold hasFlag
    rw [flags, UInt32.or_assoc, and_flag (by decide)]
  have triggers : hasFlag stamped mncwfEventTriggerValid =
      hasFlag event mncwfEventTriggerValid := by
    unfold hasFlag
    rw [flags, UInt32.or_assoc, and_flag (by decide)]
  constructor
  · intro exact_times
    rcases exact_times with ⟨startTime, currentTime, -, -, endTimes, triggerTimes⟩
    rw [start] at startTime
    rw [current] at currentTime
    rw [ends, finish] at endTimes
    rw [triggers, trigger] at triggerTimes
    exact ⟨(timestampAt_exact narrow startTai).mp startTime,
      (timestampAt_exact narrow currentTai).mp currentTime,
      fun valid => (timestampAt_exact narrow (ended valid).1).mp (endTimes valid).1,
      fun valid => (timestampAt_exact narrow (triggered valid).1).mp (triggerTimes valid).1⟩
  · rintro ⟨nearStart, nearCurrent, nearEnd, nearTrigger⟩
    refine ⟨?_, ?_, ?_, ?_, ?_, ?_⟩
    · rw [start]
      exact (timestampAt_exact narrow startTai).mpr nearStart
    · rw [current]
      exact (timestampAt_exact narrow currentTai).mpr nearCurrent
    · rw [start]
      exact (timestampAt_exact narrow startUtc).mpr nearStart
    · rw [current]
      exact (timestampAt_exact narrow currentUtc).mpr nearCurrent
    · rw [ends, finish]
      exact fun valid => ⟨(timestampAt_exact narrow (ended valid).1).mpr (nearEnd valid),
        (timestampAt_exact narrow (ended valid).2).mpr (nearEnd valid)⟩
    · rw [triggers, trigger]
      exact fun valid => ⟨(timestampAt_exact narrow (triggered valid).1).mpr (nearTrigger valid),
        (timestampAt_exact narrow (triggered valid).2).mpr (nearTrigger valid)⟩

theorem stampEvents_exact {Marker : Type} {stamp : Marker → Except Failure EventDescriptor}
    {Exact : EventDescriptor → Prop} {Allowed : Marker → Prop}
    (each : ∀ marker stamped, stamp marker = .ok stamped → (Exact stamped ↔ Allowed marker))
    {markers : List Marker} {events : List EventDescriptor}
    (done : markers.mapM stamp = .ok events) :
    (∀ event ∈ events, Exact event) ↔ ∀ marker ∈ markers, Allowed marker := by
  induction markers generalizing events with
  | nil =>
      cases done
      simp
  | cons marker markers ih =>
      rw [List.mapM_cons] at done
      rcases Loops.bind_ok done with ⟨first, firstOk, done⟩
      rcases Loops.bind_ok done with ⟨others, othersOk, done⟩
      cases done
      rw [List.forall_mem_cons, List.forall_mem_cons, each marker first firstOk, ih othersOk]

end Stamps

section Sessions

variable {capture : WaveformCapture} {session : Session} {job : Job}

def Session.clipped (session : Session) (event : SessionEvent) : EventDescriptor :=
  clipEvent event.descriptor session.summary.firstSequence session.summary.lastSequence

/-- The times of an accepted session are exact if and only if every sequence that they belong to is
near that of the correlation. -/
theorem event_times_exact (accepted : capture.enqueueMaterialization session = .ok job)
    (narrow : session.summary.sampleRateHz < 2 ^ 32) :
    (∃ utc, capture.jobUtc session = .ok utc ∧ ∀ event ∈ job.events,
        TimesExact (capture.jobCorrelation session) utc session.summary.sampleRateHz event) ↔
      ∀ event ∈ session.events,
        (session.clipped event).AtStamps (Near (capture.jobCorrelation session)) := by
  unfold enqueueMaterialization at accepted
  rcases Loops.bind_ok accepted with ⟨utc, utcOk, accepted⟩
  dsimp only at accepted
  split at accepted
  · cases accepted
  · rcases Loops.bind_ok accepted with ⟨events, eventsOk, accepted⟩
    cases accepted
    have each : (∀ event ∈ events, TimesExact (capture.jobCorrelation session) utc
        session.summary.sampleRateHz event) ↔ ∀ event ∈ session.events,
          (session.clipped event).AtStamps (Near (capture.jobCorrelation session)) :=
      stampEvents_exact (fun _ _ done => stampEvent_exact narrow done) eventsOk
    rw [← each]
    constructor
    · rintro ⟨other, same, exact_times⟩
      rw [utcOk] at same
      cases same
      exact exact_times
    · exact fun exact_times => ⟨utc, utcOk, exact_times⟩

end Sessions

def silentBlock (first : Nat) : WaveformBlock where
  header := {
    firstSequenceLow := UInt32.ofNat first
    firstSequenceHigh := UInt32.ofNat (first / 2 ^ 32)
    measuredSampleRateHz := 1000
    configurationGeneration := 1 }
  frames := fun _ _ => 0

/-- A stream that is correlated at its start only, triggered behind a block at a later sequence. -/
def triggeredAfter (first : Nat) : WaveformCapture :=
  machine.run { capacity := 4096 } [
    .beginStreamEpoch (some { taiNanoseconds := 10 ^ 18 }),
    .acceptBlock (silentBlock 0) none,
    .acceptBlock (silentBlock first) none,
    .trigger { pretriggerMs := 0, posttriggerMs := 0, decimation := 1, source := .manualWeb }
      { tai := 1020000001023000000, realtime := 1020000001000000000 } 1 2]

def stampedStarts (capture : WaveformCapture) : List (Option (List (Nat × Nat))) :=
  capture.sessions.map (fun session => (capture.enqueueMaterialization session).toOption.map
    (fun job => job.events.map (fun event => (event.startSequence, event.startTaiNanoseconds))))

/-- After twenty billion frames on one correlation an event is stamped months too early. -/
theorem old_correlation_wraps :
    stampedStarts (triggeredAfter 20000000000) = [some [(20000001023, 1001553256949290448)]] ∧
      (triggeredAfter 20000000000).correlation.frameSequence = 0 ∧
      ¬ExactTime (triggeredAfter 20000000000).correlation 1000 20000001023 (10 ^ 18)
        1001553256949290448 := by
  decide +kernel

def recentSession : Session :=
  (triggeredAfter 1000000).sessions.head (by decide +kernel)

theorem event_times_exact_recent :
    ∃ job, (triggeredAfter 1000000).enqueueMaterialization recentSession = .ok job ∧
      ∃ utc, (triggeredAfter 1000000).jobUtc recentSession = .ok utc ∧ ∀ event ∈ job.events,
        TimesExact ((triggeredAfter 1000000).jobCorrelation recentSession) utc
          recentSession.summary.sampleRateHz event := by
  have fine : ((triggeredAfter 1000000).enqueueMaterialization recentSession).isOk = true := by
    decide +kernel
  cases accepted : (triggeredAfter 1000000).enqueueMaterialization recentSession with
  | error failure =>
      rw [accepted] at fine
      cases fine
  | ok job =>
      refine ⟨job, rfl, (event_times_exact accepted ?_).mpr ?_⟩
      · decide +kernel
      · decide +kernel

end Msap1.Waveform
