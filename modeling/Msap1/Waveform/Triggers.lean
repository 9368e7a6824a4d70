import Msap1.Waveform.Frames

/-! What becomes of an accepted manual trigger. A trigger that overlaps a waiting session extends
it, so the capture of one request also depends on the requests after it. -/

namespace Msap1.Waveform

open WaveformCapture

/-- The samples that an accepted trigger has asked for, and the session that took it. -/
structure Requested where
  id : Nat
  first : Nat
  last : Nat
  complete : Bool
  deriving DecidableEq, Repr

/-- The session is the one of the request and contains its samples. -/
def Session.Covers (request : Requested) (session : Session) : Prop :=
  session.summary.id = request.id ∧ session.summary.firstSequence ≤ request.first ∧
    request.last ≤ session.summary.lastSequence

instance (request : Requested) (session : Session) : Decidable (session.Covers request) :=
  inferInstanceAs (Decidable (_ ∧ _ ∧ _))

/-- The frames since the sessions were last looked at, and the requests so far. -/
structure Requests where
  since : Nat := 0
  entries : List Requested := []
  deriving DecidableEq, Repr

/-- A request is complete once a complete capture contains it. -/
def Requested.settle (sessions : List Session) (request : Requested) : Requested :=
  { request with complete := request.complete || decide (∃ session ∈ sessions,
    session.summary.state = .complete ∧ session.Covers request) }

def WaveformCapture.requested (capture : WaveformCapture) (request : TriggerRequest) (id : Nat) :
    Requested where
  id
  first := capture.latestSequence - capture.framesFor request.pretriggerMs
  last := capture.latestSequence + capture.framesFor request.posttriggerMs
  complete := false

def noteRequests (capture : WaveformCapture) (requests : Requests) (call : Call)
    (answer : Answer) : Requests where
  since := match call with
    | .finishSessions => 0
    | .acceptBlock block _ =>
        if block.header.isValid then requests.since + 1024 else requests.since
    | _ => requests.since
  entries :=
    let entries : List Requested := match call, answer with
      | .trigger request _ _ _, .summary summary =>
          requests.entries ++ [capture.requested request summary.id]
      | _, _ => requests.entries
    entries.map (Requested.settle (machine.next capture call).sessions)

/-- The capture with the requests of its manual triggers. -/
def requesting : Machine (WaveformCapture × Requests) Call Answer := machine.traced noteRequests

/-- A time that lies more than a year after the epoch and before the end of the 64 bits. -/
def SaneTime (nanoseconds : Nat) : Prop :=
  2 ^ 55 ≤ nanoseconds ∧ nanoseconds ≤ u64Max - 2 ^ 55

instance (nanoseconds : Nat) : Decidable (SaneTime nanoseconds) :=
  inferInstanceAs (Decidable (_ ∧ _))

/-- The clocks and the correlation that a call finds. -/
def WaveformCapture.Clocked (capture : WaveformCapture) (clocks : Clocks) : Prop :=
  SaneTime clocks.tai ∧ SaneTime clocks.realtime ∧
    ((capture.withCorrelation clocks.correlation).correlation.taiNanoseconds = 0 ∨
      SaneTime (capture.withCorrelation clocks.correlation).correlation.taiNanoseconds ∧
        match (capture.withCorrelation clocks.correlation).correlationUtc clocks with
        | .ok utc => SaneTime utc
        | .error _ => False)

instance (capture : WaveformCapture) (clocks : Clocks) : Decidable (capture.Clocked clocks) :=
  @instDecidableAnd _ _ inferInstance (@instDecidableAnd _ _ inferInstance
    (@instDecidableOr _ _ inferInstance (@instDecidableAnd _ _ inferInstance
      (match (capture.withCorrelation clocks.correlation).correlationUtc clocks with
        | .ok utc => inferInstanceAs (Decidable (SaneTime utc))
        | .error _ => isFalse id))))

/-- Blocks follow each other in one epoch at one rate, and no second of two passes without a look
at the sessions; the samples before a trigger are there; the writer succeeds. -/
def Steady (rate : Nat) (generation : UInt32) (state : WaveformCapture × Requests) :
    Call → Prop
  | .acceptBlock block _ => block.header.isValid = true →
      block.header.measuredSampleRateHz.toNat = rate ∧
        block.header.configurationGeneration = generation ∧
        (state.1.haveHistory = true →
          block.header.firstSequence = state.1.latestSequence + 1) ∧
        block.header.firstSequence + 1024 < 2 ^ 64 ∧ state.2.since + 1024 ≤ 2 * rate
  | .trigger request clocks _ _ =>
      state.1.oldestSequence + state.1.framesFor request.pretriggerMs ≤ state.1.latestSequence ∧
        state.1.latestSequence + state.1.framesFor request.posttriggerMs + 1 < 2 ^ 64 ∧
        state.1.Clocked clocks
  | .track request clocks _ =>
      request.currentSequence + state.1.framesFor request.posttriggerMs + 1 < 2 ^ 64 ∧
        state.1.Clocked clocks
  | .collectResult result => result.success = true ∧ ∀ session ∈ state.1.sessions,
      session.summary.state = .capturing → session.summary.id ∉ result.expiredSessionIds
  | .beginDiscovery archived => ∀ session ∈ archived, session.summary.state = .complete
  | .beginStreamEpoch _ => False
  | .stop => False
  | .finishSessions => True
  | .collectDiscovery => True
  | .erase _ _ => True

/-- An accepted trigger that extends a session leaves it within the budget of one capture. -/
def Roomy (state : WaveformCapture × Requests) : Call → Prop
  | .trigger request _ _ _ => state.1.checkTrigger request = .ok () →
      ∀ active ∈ state.1.sessions.find? isActive,
        windowFirst state.1.latestSequence (state.1.framesFor request.pretriggerMs) ≤
            u64 (active.summary.lastSequence + 1) →
          max active.summary.lastSequence
              (state.1.latestSequence + state.1.framesFor request.posttriggerMs) + 1 ≤
            min active.summary.firstSequence
              (windowFirst state.1.latestSequence (state.1.framesFor request.pretriggerMs)) +
              state.1.maxCaptureFrames
  | _ => True

instance (rate : Nat) (generation : UInt32) (state : WaveformCapture × Requests) :
    ∀ call, Decidable (Steady rate generation state call)
  | .acceptBlock _ _ => inferInstanceAs (Decidable (_ → _ ∧ _ ∧ (_ → _) ∧ _ ∧ _))
  | .trigger _ _ _ _ => inferInstanceAs (Decidable (_ ∧ _ ∧ _))
  | .track _ _ _ => inferInstanceAs (Decidable (_ ∧ _))
  | .collectResult result => inferInstanceAs (Decidable (result.success = true ∧
      ∀ session ∈ state.1.sessions, session.summary.state = .capturing →
        session.summary.id ∉ result.expiredSessionIds))
  | .beginDiscovery archived =>
      inferInstanceAs (Decidable (∀ session ∈ archived, session.summary.state = .complete))
  | .beginStreamEpoch _ => isFalse id
  | .stop => isFalse id
  | .finishSessions => isTrue trivial
  | .collectDiscovery => isTrue trivial
  | .erase _ _ => isTrue trivial

instance (state : WaveformCapture × Requests) : ∀ call, Decidable (Roomy state call)
  | .trigger _ _ _ _ =>
      inferInstanceAs (Decidable (_ → ∀ active ∈ state.1.sessions.find? isActive, (_ → _)))
  | .acceptBlock _ _ => isTrue trivial
  | .beginStreamEpoch _ => isTrue trivial
  | .track _ _ _ => isTrue trivial
  | .finishSessions => isTrue trivial
  | .collectResult _ => isTrue trivial
  | .beginDiscovery _ => isTrue trivial
  | .collectDiscovery => isTrue trivial
  | .erase _ _ => isTrue trivial
  | .stop => isTrue trivial

section Stamping

theorem timestampAt_ok {correlation : WaveformCorrelation} {rate sequence anchor : Nat}
    (fast : 512 ≤ rate) (sane : SaneTime anchor) :
    ∃ time, timestampAt correlation rate sequence anchor = .ok time := by
  have short : ∀ frames, u64 frames / rate ≤ 2 ^ 55 := by
    intro frames
    have bounded : u64 frames < 2 ^ 64 := Nat.mod_lt _ (by decide)
    calc u64 frames / rate ≤ u64 frames / 512 := Nat.div_le_div_left fast (by decide)
      _ ≤ 2 ^ 55 := by omega
  obtain ⟨early, late⟩ := sane
  have largest : u64Max = 2 ^ 64 - 1 := rfl
  simp only [timestampAt]
  rw [if_neg (by omega)]
  split
  · have after := short ((sequence - correlation.frameSequence) * 1000000000)
    rw [if_neg (by omega)]
    exact ⟨_, rfl⟩
  · have before := short ((correlation.frameSequence - sequence) * 1000000000)
    rw [if_neg (by omega)]
    exact ⟨_, rfl⟩

theorem stampEvent_ok {correlation : WaveformCorrelation} {utc rate : Nat}
    (fast : 512 ≤ rate) (tai : SaneTime correlation.taiNanoseconds) (sane : SaneTime utc)
    (event : EventDescriptor) : ∃ stamped, stampEvent correlation utc rate event = .ok stamped := by
  have taiStamp : ∀ sequence, ∃ time, timestampAt correlation rate sequence
      correlation.taiNanoseconds = .ok time := fun _ => timestampAt_ok fast tai
  have utcStamp : ∀ sequence, ∃ time, timestampAt correlation rate sequence utc = .ok time :=
    fun _ => timestampAt_ok fast sane
  obtain ⟨startTai, startTaiOk⟩ := taiStamp event.startSequence
  obtain ⟨currentTai, currentTaiOk⟩ := taiStamp event.currentSequence
  obtain ⟨startUtc, startUtcOk⟩ := utcStamp event.startSequence
  obtain ⟨currentUtc, currentUtcOk⟩ := utcStamp event.currentSequence
  obtain ⟨endTai, endTaiOk⟩ := taiStamp event.endSequence
  obtain ⟨endUtc, endUtcOk⟩ := utcStamp event.endSequence
  obtain ⟨triggerTai, triggerTaiOk⟩ := taiStamp event.triggerSequence
  obtain ⟨triggerUtc, triggerUtcOk⟩ := utcStamp event.triggerSequence
  simp only [stampEvent, startTaiOk, currentTaiOk, startUtcOk, currentUtcOk, endTaiOk, endUtcOk,
    triggerTaiOk, triggerUtcOk]
  cases hasFlag event mncwfEventEndValid <;> cases hasFlag event mncwfEventTriggerValid <;>
    exact ⟨_, rfl⟩

theorem stampEvents_ok {Marker : Type} (stamp : Marker → Except Failure EventDescriptor)
    (each : ∀ marker, ∃ stamped, stamp marker = .ok stamped) (markers : List Marker) :
    ∃ stamped, markers.mapM stamp = .ok stamped := by
  induction markers with
  | nil => exact ⟨[], rfl⟩
  | cons marker markers ih =>
      obtain ⟨first, firstOk⟩ := each marker
      obtain ⟨others, othersOk⟩ := ih
      rw [List.mapM_cons, firstOk, othersOk]
      exact ⟨_, rfl⟩

end Stamping

section Numbering

variable {capture after : WaveformCapture}

/-- Sessions have numbers of their own, below the next one. -/
structure Numbered (capture : WaveformCapture) : Prop where
  positive : 0 < capture.nextSessionId
  distinct : (capture.sessions.map (fun session => session.summary.id)).Nodup
  below : ∀ session ∈ capture.sessions, session.summary.id < capture.nextSessionId
  reserved : ∀ restored, capture.discoveredSessions = some restored →
    ∀ session ∈ restored, session.summary.id < capture.nextSessionId

theorem numbered_unique (numbered : Numbered capture) {left right : Session}
    (leftMember : left ∈ capture.sessions) (rightMember : right ∈ capture.sessions)
    (same : left.summary.id = right.summary.id) : left = right :=
  List.inj_on_of_nodup_map numbered.distinct leftMember rightMember same

theorem numbered_map (numbered : Numbered capture) (change : Session → Session)
    (sessions : after.sessions = capture.sessions.map change)
    (next : after.nextSessionId = capture.nextSessionId)
    (discovered : after.discoveredSessions = capture.discoveredSessions)
    (ids : ∀ session, (change session).summary.id = session.summary.id) : Numbered after where
  positive := by
    rw [next]
    exact numbered.positive
  distinct := by
    rw [sessions, List.map_map]
    simpa only [Function.comp_def, ids] using numbered.distinct
  below := by
    intro session member
    rw [sessions] at member
    obtain ⟨before, present, equal⟩ := List.mem_map.mp member
    rw [← equal, ids, next]
    exact numbered.below before present
  reserved := by
    rw [discovered, next]
    exact numbered.reserved

theorem numbered_update (numbered : Numbered capture) (id : Nat) (change : Session → Session)
    (sessions : after.sessions = capture.updateSession id change)
    (next : after.nextSessionId = capture.nextSessionId)
    (discovered : after.discoveredSessions = capture.discoveredSessions)
    (ids : ∀ session, (change session).summary.id = session.summary.id) : Numbered after := by
  apply numbered_map numbered _ sessions next discovered
  intro session
  split
  · exact ids session
  · rfl

theorem numbered_append (numbered : Numbered capture) {fresh : Session}
    (sessions : after.sessions = capture.sessions ++ [fresh])
    (number : fresh.summary.id = capture.nextSessionId)
    (next : after.nextSessionId = capture.nextSessionId + 1)
    (discovered : after.discoveredSessions = capture.discoveredSessions) : Numbered after where
  positive := by
    rw [next]
    exact Nat.succ_pos _
  distinct := by
    rw [sessions, List.map_append, List.nodup_append]
    refine ⟨numbered.distinct, List.nodup_singleton _, ?_⟩
    intro id old other new same
    obtain ⟨session, member, equal⟩ := List.mem_map.mp old
    rw [List.map_singleton, List.mem_singleton, number] at new
    have less := numbered.below session member
    omega
  below := by
    intro session member
    rw [sessions] at member
    rcases List.mem_append.mp member with old | new
    · have less := numbered.below session old
      omega
    · rw [List.mem_singleton.mp new]
      omega
  reserved := by
    intro restored found session member
    rw [discovered] at found
    have less := numbered.reserved restored found session member
    omega

theorem numbered_filter (numbered : Numbered capture) (keep : Session → Bool)
    (sessions : after.sessions = capture.sessions.filter keep)
    (next : after.nextSessionId = capture.nextSessionId)
    (discovered : after.discoveredSessions = capture.discoveredSessions) : Numbered after where
  positive := by
    rw [next]
    exact numbered.positive
  distinct := by
    rw [sessions]
    exact numbered.distinct.sublist (List.Sublist.map _ List.filter_sublist)
  below := by
    intro session member
    rw [sessions] at member
    rw [next]
    exact numbered.below session (List.mem_filter.mp member).1
  reserved := by
    rw [discovered, next]
    exact numbered.reserved

theorem mergeSession_distinct {sessions : List Session} (restored : Session)
    (distinct : (sessions.map (fun session => session.summary.id)).Nodup) :
    ((mergeSession sessions restored).map (fun session => session.summary.id)).Nodup := by
  simp only [mergeSession]
  split
  case isTrue => exact distinct
  case isFalse fresh =>
      rw [List.map_append, List.nodup_append]
      refine ⟨distinct, List.nodup_singleton _, ?_⟩
      intro id old other new same
      obtain ⟨session, member, equal⟩ := List.mem_map.mp old
      rw [List.map_singleton, List.mem_singleton] at new
      exact fresh ⟨session, member, by rw [equal, same, new]⟩

theorem merged_distinct (restored : List Session) {sessions : List Session}
    (distinct : (sessions.map (fun session => session.summary.id)).Nodup) :
    ((restored.foldl mergeSession sessions).map (fun session => session.summary.id)).Nodup := by
  induction restored generalizing sessions with
  | nil => exact distinct
  | cons first restored ih => exact ih (mergeSession_distinct first distinct)

theorem numbered_discovery (numbered : Numbered capture) : Numbered capture.collectDiscovery := by
  simp only [collectDiscovery]
  split
  case h_1 => exact numbered
  case h_2 restored found =>
      refine ⟨numbered.positive, ?_, ?_, ?_⟩
      · have sorted := (List.perm_insertionSort (fun left right : Session =>
          left.summary.id ≤ right.summary.id) (restored.foldl mergeSession capture.sessions)).map
            (fun session => session.summary.id)
        exact sorted.nodup_iff.mpr (merged_distinct restored numbered.distinct)
      · intro session member
        rcases merged_member ((List.mem_insertionSort _).mp member) with old | new
        · exact numbered.below session old
        · exact numbered.reserved restored found session new
      · rintro _ ⟨⟩

theorem numbered_archived (numbered : Numbered capture) (archived : List Session) :
    Numbered (capture.beginDiscovery archived) := by
  have raised : ∀ numbers : List Nat, capture.nextSessionId ≤
      numbers.foldr max capture.nextSessionId := by
    intro numbers
    induction numbers with
    | nil => exact le_refl _
    | cons number numbers ih => exact le_trans ih (le_max_right _ _)
  have above : ∀ numbers : List Nat, ∀ number ∈ numbers,
      number ≤ numbers.foldr max capture.nextSessionId := by
    intro numbers
    induction numbers with
    | nil =>
        intro _ member
        cases member
    | cons first numbers ih =>
        intro number member
        rcases List.mem_cons.mp member with head | later
        · rw [head]
          exact le_max_left _ _
        · exact le_trans (ih number later) (le_max_right _ _)
  simp only [beginDiscovery]
  split
  · exact numbered
  · refine ⟨lt_of_lt_of_le numbered.positive (raised _), numbered.distinct, ?_, ?_⟩
    · intro session member
      exact lt_of_lt_of_le (numbered.below session member) (raised _)
    · rintro restored ⟨⟩ session member
      exact above _ _ (List.mem_map_of_mem member)

end Numbering

section Serving

/-- A session that waits for its frames, as every call leaves it. -/
structure Session.Plain (capture : WaveformCapture) (rate : Nat) (session : Session) : Prop where
  ordered : session.summary.firstSequence ≤ session.summary.lastSequence
  bounded : session.summary.lastSequence + 1 < 2 ^ 64
  idle : session.activeEvents = []
  tai : SaneTime session.summary.triggerTaiNanoseconds
  realtime : SaneTime session.summary.triggerRealtimeNanoseconds
  rated : session.summary.sampleRateHz = rate
  named : 0 < session.summary.id
  origin : capture.oldestSequence ≤ session.summary.firstSequence ∨
    capture.latestSequence + 1 = capture.oldestSequence + capture.capacity

/-- The frames of the session will still be there when they are looked for. -/
structure Session.Safe (capture : WaveformCapture) (rate since : Nat) (session : Session) :
    Prop where
  retained : capture.oldestSequence ≤ session.summary.firstSequence
  fits : session.summary.lastSequence + 1 + 2 * rate ≤
    session.summary.firstSequence + capture.capacity
  recent : capture.latestSequence ≤ session.summary.lastSequence + since

/-- The session will hold the request, or its writer already does. -/
def Session.Serves (capture : WaveformCapture) (rate since : Nat) (request : Requested)
    (session : Session) : Prop :=
  session.Covers request ∧ session.summary.state = .capturing ∧
    (session.materializationQueued = true ∨ session.Safe capture rate since)

/-- A steady stream of blocks. -/
structure Streaming (rate : Nat) (generation : UInt32) (capture : WaveformCapture)
    (since : Nat) : Prop where
  epoch : capture.configurationGeneration = none ∨
    capture.configurationGeneration = some generation
  order : capture.haveHistory = true → capture.oldestSequence ≤ capture.latestSequence + 1
  bounded : capture.latestSequence + 1 < 2 ^ 64
  rated : capture.haveHistory = true → capture.sampleRateHz = rate ∧ 512 ≤ rate
  gaps : capture.gaps = []
  timely : since ≤ 2 * rate

/-- The correlation that jobs are stamped with. -/
def WaveformCapture.Stamped (capture : WaveformCapture) : Prop :=
  (capture.correlation.taiNanoseconds = 0 ∨
    SaneTime capture.correlation.taiNanoseconds ∧ capture.correlationUtcNanoseconds ≠ 0) ∧
    (capture.correlationUtcNanoseconds = 0 ∨ SaneTime capture.correlationUtcNanoseconds)

structure Serving (rate : Nat) (generation : UInt32) (capture : WaveformCapture)
    (requests : Requests) : Prop where
  numbered : Numbered capture
  archived : ∀ restored, capture.discoveredSessions = some restored →
    ∀ session ∈ restored, session.summary.state = .complete
  streaming : Streaming rate generation capture requests.since
  stamped : capture.Stamped
  plain : ∀ session ∈ capture.sessions, session.Waiting →
    capture.haveHistory = true ∧ session.Plain capture rate
  served : ∀ request ∈ requests.entries, request.complete = true ∨
    ∃ session ∈ capture.sessions, session.Serves capture rate requests.since request

variable {rate : Nat} {generation : UInt32} {capture after : WaveformCapture}
  {requests : Requests}

theorem saneTime_positive {time : Nat} (sane : SaneTime time) : time ≠ 0 := by
  have early := sane.1
  omega

theorem translateClock_same (time destination : Nat) :
    translateClock time time destination = .ok destination := by
  simp only [translateClock, le_refl, if_true, Nat.sub_self, Nat.add_zero]
  rw [if_neg (by omega)]

theorem jobUtc_ok (stamped : capture.Stamped) {session : Session}
    (tai : SaneTime session.summary.triggerTaiNanoseconds)
    (realtime : SaneTime session.summary.triggerRealtimeNanoseconds) :
    SaneTime (capture.jobCorrelation session).taiNanoseconds ∧
      ∃ utc, capture.jobUtc session = .ok utc ∧ SaneTime utc := by
  obtain ⟨correlated, utc⟩ := stamped
  by_cases uncorrelated : capture.correlation.taiNanoseconds = 0
  · have own : (capture.jobCorrelation session).taiNanoseconds =
        session.summary.triggerTaiNanoseconds := by
      rw [jobCorrelation, if_pos uncorrelated]
    rw [own]
    refine ⟨tai, ?_⟩
    rcases utc with none | sane
    · rw [jobUtc, if_pos none, own, translateClock_same]
      exact ⟨_, rfl, realtime⟩
    · rw [jobUtc, if_neg (saneTime_positive sane)]
      exact ⟨_, rfl, sane⟩
  · have shared : capture.jobCorrelation session = capture.correlation := by
      rw [jobCorrelation, if_neg uncorrelated]
    rw [shared]
    rcases correlated with none | ⟨sane, known⟩
    · exact absurd none uncorrelated
    · refine ⟨sane, ?_⟩
      rcases utc with zero | saneUtc
      · exact absurd zero known
      · rw [jobUtc, if_neg known]
        exact ⟨_, rfl, saneUtc⟩

theorem isDue_safe {session : Session} (waiting : session.Waiting)
    (idle : session.activeEvents = []) :
    capture.isDue session = decide (session.summary.lastSequence ≤ capture.latestSequence) := by
  simp [isDue, waiting.1, waiting.2, idle]

theorem finishSession_safe (serving : Serving rate generation capture requests)
    {session : Session} (waiting : session.Waiting) (plain : session.Plain capture rate)
    (fast : 512 ≤ rate) (safe : session.Safe capture rate requests.since)
    (arrived : session.summary.lastSequence ≤ capture.latestSequence) :
    ∃ job, capture.finishSession session =
      ({ session with materializationQueued := true }, some job) := by
  have due : capture.isDue session = true := by
    rw [isDue_safe waiting plain.idle, decide_eq_true_eq]
    exact arrived
  have whole : capture.intersectsGap session.summary.firstSequence
      session.summary.lastSequence = false := by
    simp [intersectsGap, serving.streaming.gaps]
  obtain ⟨tai, utc, utcOk, saneUtc⟩ := jobUtc_ok serving.stamped plain.tai plain.realtime
  obtain ⟨events, stamped⟩ := stampEvents_ok (fun event : SessionEvent =>
    stampEvent (capture.jobCorrelation session) utc session.summary.sampleRateHz
      (clipEvent event.descriptor session.summary.firstSequence session.summary.lastSequence))
    (fun event => stampEvent_ok (by rw [plain.rated]; exact fast) tai saneUtc _) session.events
  have width : u64 (session.summary.lastSequence + 2 ^ 64 - session.summary.firstSequence + 1) ≤
      capture.capacity := by
    have order := plain.ordered
    have bounded := plain.bounded
    have fits := safe.fits
    rw [show session.summary.lastSequence + 2 ^ 64 - session.summary.firstSequence + 1 =
      session.summary.lastSequence + 1 - session.summary.firstSequence + 2 ^ 64 by omega,
      u64_wrap (by omega)]
    omega
  have queued : ∃ job, capture.enqueueMaterialization session = .ok job := by
    simp only [enqueueMaterialization, utcOk, bind, Except.bind]
    rw [if_neg (by omega), stamped]
    exact ⟨_, rfl⟩
  obtain ⟨job, enqueued⟩ := queued
  refine ⟨job, ?_⟩
  simp only [finishSession, due, Bool.true_eq_false, if_false]
  rw [if_neg, enqueued]
  rw [not_or, Nat.not_lt, whole]
  exact ⟨safe.retained, by decide⟩

theorem served_settled {entries : List Requested} {sessions : List Session}
    {Good : Requested → Session → Prop}
    (same : ∀ request session, Good request session →
      Good (Requested.settle sessions request) session)
    (each : ∀ request ∈ entries, request.complete = true ∨
      (∃ session ∈ sessions, session.summary.state = .complete ∧ session.Covers request) ∨
      ∃ session ∈ sessions, Good request session) :
    ∀ request ∈ entries.map (Requested.settle sessions), request.complete = true ∨
      ∃ session ∈ sessions, Good request session := by
  intro settled member
  obtain ⟨request, present, equal⟩ := List.mem_map.mp member
  subst equal
  rcases each request present with done | finished | ⟨session, found, good⟩
  · left
    simp [Requested.settle, done]
  · left
    simp only [Requested.settle, Bool.or_eq_true, decide_eq_true_eq]
    exact .inr finished
  · exact .inr ⟨session, found, same request session good⟩

/-- The stream has not moved. -/
structure SameStream (before after : WaveformCapture) : Prop where
  capacity : after.capacity = before.capacity
  haveHistory : after.haveHistory = before.haveHistory
  oldest : after.oldestSequence = before.oldestSequence
  latest : after.latestSequence = before.latestSequence
  sampleRate : after.sampleRateHz = before.sampleRateHz
  generation : after.configurationGeneration = before.configurationGeneration
  gaps : after.gaps = before.gaps

theorem plain_same (same : SameStream capture after) {session : Session}
    (plain : session.Plain capture rate) : session.Plain after rate where
  ordered := plain.ordered
  bounded := plain.bounded
  idle := plain.idle
  tai := plain.tai
  realtime := plain.realtime
  rated := plain.rated
  named := plain.named
  origin := by
    rw [same.oldest, same.latest, same.capacity]
    exact plain.origin

theorem serves_same (same : SameStream capture after) {since : Nat} {request : Requested}
    {session : Session} (serves : session.Serves capture rate since request) :
    session.Serves after rate since request := by
  obtain ⟨covers, capturing, safe⟩ := serves
  refine ⟨covers, capturing, safe.imp id ?_⟩
  intro safe
  refine ⟨?_, ?_, ?_⟩
  · rw [same.oldest]
    exact safe.retained
  · rw [same.capacity]
    exact safe.fits
  · rw [same.latest]
    exact safe.recent

theorem serving_sessions (serving : Serving rate generation capture requests)
    (same : SameStream capture after) (stamped : after.Stamped) (numbered : Numbered after)
    (discovered : after.discoveredSessions = capture.discoveredSessions ∨
      after.discoveredSessions = none) {since : Nat} (timely : since ≤ 2 * rate)
    {entries : List Requested}
    (plain : ∀ session ∈ after.sessions, session.Waiting →
      capture.haveHistory = true ∧ session.Plain capture rate)
    (served : ∀ request ∈ entries, request.complete = true ∨
      (∃ session ∈ after.sessions, session.summary.state = .complete ∧ session.Covers request) ∨
      ∃ session ∈ after.sessions, session.Serves capture rate since request) :
    Serving rate generation after
      ⟨since, entries.map (Requested.settle after.sessions)⟩ where
  numbered := numbered
  archived := by
    intro restored found
    rcases discovered with kept | collected
    · exact serving.archived restored (kept.symm.trans found)
    · rw [collected] at found
      cases found
  streaming := by
    obtain ⟨epoch, order, bounded, rated, gaps, _⟩ := serving.streaming
    refine ⟨?_, ?_, ?_, ?_, ?_, timely⟩
    · rw [same.generation]
      exact epoch
    · rw [same.haveHistory, same.oldest, same.latest]
      exact order
    · rw [same.latest]
      exact bounded
    · rw [same.haveHistory, same.sampleRate]
      exact rated
    · rw [same.gaps]
      exact gaps
  stamped := stamped
  plain := by
    intro session member waiting
    obtain ⟨history, good⟩ := plain session member waiting
    exact ⟨same.haveHistory.trans history, plain_same same good⟩
  served := by
    apply served_settled (fun _ _ good => good)
    intro request member
    rcases served request member with done | finished | ⟨session, found, serves⟩
    · exact .inl done
    · exact .inr (.inl finished)
    · exact .inr (.inr ⟨session, found, serves_same same serves⟩)

theorem serving_same (serving : Serving rate generation capture requests)
    (same : SameStream capture after) (stamped : after.Stamped) (numbered : Numbered after)
    (discovered : after.discoveredSessions = capture.discoveredSessions)
    (sessions : after.sessions = capture.sessions) :
    Serving rate generation after
      ⟨requests.since, requests.entries.map (Requested.settle after.sessions)⟩ := by
  apply serving_sessions serving same stamped numbered (.inl discovered) serving.streaming.timely
  · rw [sessions]
    exact serving.plain
  · rw [sessions]
    intro request member
    exact (serving.served request member).imp id Or.inr

theorem finishSession_kept {session : Session} (early : capture.isDue session = false) :
    (capture.finishSession session).1 = session := by
  rw [finishSession, if_pos early]

theorem finishSession_id (session : Session) :
    (capture.finishSession session).1.summary.id = session.summary.id := by
  simp only [finishSession]
  split
  · rfl
  · split
    · rfl
    · split
      · rfl
      · rfl

theorem serving_finish (serving : Serving rate generation capture requests) :
    Serving rate generation capture.finishSessions.1
      ⟨0, requests.entries.map (Requested.settle capture.finishSessions.1.sessions)⟩ := by
  have numbered : Numbered capture.finishSessions.1 :=
    numbered_map serving.numbered _ rfl rfl rfl finishSession_id
  have same : SameStream capture capture.finishSessions.1 := ⟨rfl, rfl, rfl, rfl, rfl, rfl, rfl⟩
  refine serving_sessions serving same serving.stamped numbered (.inl rfl) (Nat.zero_le _) ?_ ?_
  · intro finished member waiting
    obtain ⟨session, present, equal⟩ := List.mem_map.mp member
    rw [← equal] at waiting
    obtain ⟨before, _⟩ := finishSession_waiting session waiting
    have early : capture.isDue session = false := by
      by_contra due
      rw [Bool.not_eq_false] at due
      rcases finishSession_cases session due with ⟨job, queued, _⟩ | incomplete
      · rw [queued] at waiting
        cases waiting.2
      · rw [incomplete] at waiting
        cases waiting.1
    rw [← equal, finishSession_kept early]
    exact serving.plain session present before
  · intro request member
    rcases serving.served request member with done | ⟨session, present, covers, capturing, held⟩
    · exact .inl done
    · right
      right
      have moved : (capture.finishSession session).1 ∈ capture.finishSessions.1.sessions :=
        List.mem_map_of_mem present
      cases queued : session.materializationQueued with
      | true =>
          have early : capture.isDue session = false := by simp [isDue, queued]
          refine ⟨_, moved, ?_⟩
          rw [finishSession_kept early]
          exact ⟨covers, capturing, .inl queued⟩
      | false =>
          have safe := held.resolve_left (by simp [queued])
          obtain ⟨history, plain⟩ := serving.plain session present ⟨capturing, queued⟩
          by_cases arrived : session.summary.lastSequence ≤ capture.latestSequence
          · obtain ⟨job, finished⟩ := finishSession_safe serving ⟨capturing, queued⟩ plain
              (serving.streaming.rated history).2 safe arrived
            refine ⟨_, moved, ?_⟩
            rw [finished]
            exact ⟨covers, capturing, .inl rfl⟩
          · have early : capture.isDue session = false := by
              rw [isDue_safe ⟨capturing, queued⟩ plain.idle, decide_eq_false_iff_not]
              exact arrived
            refine ⟨_, moved, ?_⟩
            rw [finishSession_kept early]
            exact ⟨covers, capturing, .inr ⟨safe.retained, safe.fits, by omega⟩⟩

theorem storeBlock_next (block : WaveformBlock)
    (order : capture.oldestSequence ≤ capture.latestSequence + 1)
    (first : block.header.firstSequence = capture.latestSequence + 1)
    (bounded : block.header.firstSequence + 1024 < 2 ^ 64) (history : capture.haveHistory = true) :
    (capture.storeBlock block).latestSequence = capture.latestSequence + 1024 ∧
      ((capture.storeBlock block).oldestSequence = capture.oldestSequence ∧
          capture.latestSequence + 1024 + 1 ≤ capture.oldestSequence + capture.capacity ∨
        capture.latestSequence + 1024 + 1 =
          (capture.storeBlock block).oldestSequence + capture.capacity ∧
        capture.oldestSequence + capture.capacity < capture.latestSequence + 1024 + 1) := by
  have latest : u64 (block.header.firstSequence + 1023) = capture.latestSequence + 1024 := by
    rw [u64_eq (by omega)]
    omega
  have width : u64 (capture.latestSequence + 1024 + 2 ^ 64 - capture.oldestSequence + 1) =
      capture.latestSequence + 1024 - capture.oldestSequence + 1 := by
    rw [show capture.latestSequence + 1024 + 2 ^ 64 - capture.oldestSequence + 1 =
      capture.latestSequence + 1024 - capture.oldestSequence + 1 + 2 ^ 64 by omega]
    exact u64_wrap (by omega)
  simp only [storeBlock, latest, history, Bool.true_eq_false, if_false, width]
  refine ⟨trivial, ?_⟩
  split
  case isTrue wide =>
      right
      rw [show capture.latestSequence + 1024 + 2 ^ 64 - capture.capacity + 1 =
        capture.latestSequence + 1024 - capture.capacity + 1 + 2 ^ 64 by omega, u64_wrap (by omega)]
      omega
  case isFalse narrow =>
      left
      exact ⟨rfl, by omega⟩

theorem serving_store (serving : Serving rate generation capture requests)
    (block : WaveformBlock) (next : capture.haveHistory = true →
      block.header.firstSequence = capture.latestSequence + 1)
    (rated : block.header.measuredSampleRateHz.toNat = rate)
    (bounded : block.header.firstSequence + 1024 < 2 ^ 64)
    (timely : requests.since + 1024 ≤ 2 * rate)
    (epoch : capture.configurationGeneration = some generation) :
    Serving rate generation (capture.storeBlock block)
      ⟨requests.since + 1024,
        requests.entries.map (Requested.settle (capture.storeBlock block).sessions)⟩ := by
  obtain ⟨_, order, _, _, gaps, _⟩ := serving.streaming
  have sessions : (capture.storeBlock block).sessions = capture.sessions := by
    simp only [storeBlock]
  have capacity : (capture.storeBlock block).capacity = capture.capacity := by
    simp only [storeBlock]
  have step : capture.haveHistory = true → _ := fun history =>
    storeBlock_next block (order history) (next history) bounded history
  refine ⟨?_, ?_, ?_, ?_, ?_, ?_⟩
  · refine numbered_map serving.numbered id ?_ ?_ ?_ (fun _ => rfl)
    · rw [sessions, List.map_id]
    · simp only [storeBlock]
    · simp only [storeBlock]
  · simp only [storeBlock]
    exact serving.archived
  · refine ⟨?_, ?_, ?_, ?_, ?_, timely⟩
    · right
      simp only [storeBlock]
      exact epoch
    · intro _
      cases history : capture.haveHistory with
      | true =>
          obtain ⟨latest, oldest⟩ := step history
          have before := order history
          omega
      | false =>
          simp only [storeBlock, history, if_true]
          rw [u64_eq (by omega)]
          omega
    · simp only [storeBlock]
      rw [u64_eq (by omega)]
      omega
    · intro _
      simp only [storeBlock]
      exact ⟨rated, by omega⟩
    · have contiguous : ¬ (capture.haveHistory = true ∧
          u64 (capture.latestSequence + 1) < block.header.firstSequence) := by
        rintro ⟨history, gap⟩
        have first := next history
        rw [u64_eq (by omega)] at gap
        omega
      simp only [storeBlock, gaps, if_neg contiguous, List.filter_nil]
  · simp only [WaveformCapture.Stamped, storeBlock]
    exact serving.stamped
  · intro session member waiting
    rw [sessions] at member
    obtain ⟨history, plain⟩ := serving.plain session member waiting
    obtain ⟨latest, oldest⟩ := step history
    constructor
    · simp only [storeBlock]
    · refine ⟨plain.ordered, plain.bounded, plain.idle, plain.tai, plain.realtime, plain.rated,
        plain.named, ?_⟩
      rw [latest, capacity]
      have origin := plain.origin
      omega
  · apply served_settled (fun _ _ good => good)
    intro request member
    rw [sessions]
    rcases serving.served request member with done | ⟨session, present, covers, capturing, held⟩
    · exact .inl done
    · refine .inr (.inr ⟨session, present, covers, capturing, ?_⟩)
      cases queued : session.materializationQueued with
      | true => exact .inl rfl
      | false =>
          right
          have safe := held.resolve_left (by simp [queued])
          obtain ⟨history, plain⟩ := serving.plain session present ⟨capturing, queued⟩
          obtain ⟨latest, oldest⟩ := step history
          obtain ⟨retained, fits, recent⟩ := safe
          refine ⟨?_, ?_, ?_⟩
          · omega
          · rw [capacity]
            exact fits
          · rw [latest]
            dsimp only
            omega

theorem serving_block (serving : Serving rate generation capture requests)
    (block : WaveformBlock) (correlated : Option WaveformCorrelation)
    (steady : Steady rate generation (capture, requests) (.acceptBlock block correlated))
    (answer : Answer) :
    Serving rate generation (capture.acceptBlock block correlated)
      (noteRequests capture requests (.acceptBlock block correlated) answer) := by
  cases valid : block.header.isValid with
  | false =>
      have unchanged : capture.acceptBlock block correlated = capture := by
        rw [acceptBlock, if_pos valid]
      have kept := serving_same serving ⟨rfl, rfl, rfl, rfl, rfl, rfl, rfl⟩ serving.stamped
        serving.numbered rfl rfl
      simp only [noteRequests, machine, Machine.next, valid, Bool.false_eq_true, if_false,
        unchanged]
      exact kept
  | true =>
      obtain ⟨rated, sameGeneration, next, bounded, timely⟩ := steady valid
      dsimp only at next timely
      have entered : capture.enterGeneration block.header.configurationGeneration correlated =
          { capture with configurationGeneration := some generation } := by
        simp only [enterGeneration, sameGeneration]
        rcases serving.streaming.epoch with none | same
        · simp [none]
        · simp [same]
      have opened : Serving rate generation
          { capture with configurationGeneration := some generation } requests := by
        obtain ⟨_, order, latest, sampled, gaps, since⟩ := serving.streaming
        refine ⟨⟨serving.numbered.positive, serving.numbered.distinct, serving.numbered.below,
            serving.numbered.reserved⟩,
          serving.archived, ⟨.inr rfl, order, latest, sampled, gaps, since⟩, serving.stamped,
          ?_, ?_⟩
        · intro session member waiting
          obtain ⟨history, plain⟩ := serving.plain session member waiting
          exact ⟨history, ⟨plain.ordered, plain.bounded, plain.idle, plain.tai, plain.realtime,
            plain.rated, plain.named, plain.origin⟩⟩
        · intro request member
          rcases serving.served request member with done | ⟨session, found, covers, capturing, held⟩
          · exact .inl done
          · exact .inr ⟨session, found, covers, capturing,
              held.imp id (fun safe => ⟨safe.retained, safe.fits, safe.recent⟩)⟩
      have stored : capture.acceptBlock block correlated =
          { capture with configurationGeneration := some generation }.storeBlock block := by
        simp only [acceptBlock, valid, Bool.true_eq_false, if_false, entered]
        rw [if_neg]
        rintro ⟨history, stale⟩
        have first := next history
        have small := serving.streaming.bounded
        rw [u64_eq small] at stale
        omega
      have served := serving_store opened block next rated bounded timely rfl
      simp only [noteRequests, machine, Machine.next, valid, if_true, stored]
      exact served

theorem serving_append (serving : Serving rate generation capture requests)
    (same : SameStream capture after) (stamped : after.Stamped)
    (discovered : after.discoveredSessions = capture.discoveredSessions) {fresh : Session}
    (sessions : after.sessions = capture.sessions ++ [fresh])
    (number : fresh.summary.id = capture.nextSessionId)
    (next : after.nextSessionId = capture.nextSessionId + 1)
    (history : capture.haveHistory = true) (plain : fresh.Plain capture rate)
    {entries : List Requested} (new : ∀ request ∈ entries, request ∈ requests.entries ∨
      fresh.Serves capture rate requests.since request) :
    Serving rate generation after
      ⟨requests.since, entries.map (Requested.settle after.sessions)⟩ := by
  refine serving_sessions serving same stamped
    (numbered_append serving.numbered sessions number next discovered) (.inl discovered)
    serving.streaming.timely ?_ ?_
  · intro session member waiting
    rw [sessions] at member
    rcases List.mem_append.mp member with old | added
    · exact serving.plain session old waiting
    · rw [List.mem_singleton.mp added]
      exact ⟨history, plain⟩
  · intro request member
    rw [sessions]
    rcases new request member with old | serves
    · rcases serving.served request old with done | ⟨session, present, serves⟩
      · exact .inl done
      · exact .inr (.inr ⟨session, List.mem_append_left _ present, serves⟩)
    · exact .inr (.inr ⟨fresh, List.mem_append_right _ List.mem_cons_self, serves⟩)

theorem serving_update (serving : Serving rate generation capture requests)
    (same : SameStream capture after) (stamped : after.Stamped)
    (discovered : after.discoveredSessions = capture.discoveredSessions)
    (next : after.nextSessionId = capture.nextSessionId) {target : Session}
    (present : target ∈ capture.sessions) (change : Session → Session)
    (sessions : after.sessions = capture.updateSession target.summary.id change)
    (ids : ∀ session, (change session).summary.id = session.summary.id)
    (plain : (change target).Waiting →
      capture.haveHistory = true ∧ (change target).Plain capture rate)
    (serves : ∀ request, target.Serves capture rate requests.since request →
      (change target).Serves capture rate requests.since request)
    {entries : List Requested} (new : ∀ request ∈ entries, request ∈ requests.entries ∨
      (change target).Serves capture rate requests.since request) :
    Serving rate generation after
      ⟨requests.since, entries.map (Requested.settle after.sessions)⟩ := by
  have changed : change target ∈ after.sessions := by
    rw [sessions]
    exact List.mem_map.mpr ⟨target, present, if_pos rfl⟩
  have kept : ∀ session ∈ capture.sessions, session = target ∨ session ∈ after.sessions := by
    intro session member
    by_cases own : session.summary.id = target.summary.id
    · exact .inl (numbered_unique serving.numbered member present own)
    · right
      rw [sessions]
      exact List.mem_map.mpr ⟨session, member, if_neg own⟩
  refine serving_sessions serving same stamped
    (numbered_update serving.numbered _ change sessions next discovered ids) (.inl discovered)
    serving.streaming.timely ?_ ?_
  · intro session member waiting
    rw [sessions] at member
    obtain ⟨before, found, equal⟩ := List.mem_map.mp member
    by_cases own : before.summary.id = target.summary.id
    · rw [if_pos own, numbered_unique serving.numbered found present own] at equal
      rw [← equal] at waiting ⊢
      exact plain waiting
    · rw [if_neg own] at equal
      rw [← equal] at waiting ⊢
      exact serving.plain before found waiting
  · intro request member
    rcases new request member with old | now
    · rcases serving.served request old with done | ⟨session, found, held⟩
      · exact .inl done
      · rcases kept session found with own | unchanged
        · rw [own] at held
          exact .inr (.inr ⟨_, changed, serves request held⟩)
        · exact .inr (.inr ⟨session, unchanged, held⟩)
    · exact .inr (.inr ⟨_, changed, now⟩)

theorem clocked_stamped (stamped : capture.Stamped) {clocks : Clocks}
    (clocked : capture.Clocked clocks) :
    ∃ utc, (capture.withCorrelation clocks.correlation).correlationUtc clocks = .ok utc ∧
      { capture.withCorrelation clocks.correlation with
        correlationUtcNanoseconds := utc }.Stamped := by
  obtain ⟨_, _, uncorrelated | ⟨sane, utcSane⟩⟩ := clocked
  · refine ⟨capture.correlationUtcNanoseconds, ?_, .inl uncorrelated, stamped.2⟩
    rw [correlationUtc, if_neg (by simp [uncorrelated])]
    rfl
  · cases known : (capture.withCorrelation clocks.correlation).correlationUtc clocks with
    | error failure =>
        rw [known] at utcSane
        exact absurd utcSane id
    | ok utc =>
        rw [known] at utcSane
        exact ⟨utc, rfl, .inr ⟨sane, saneTime_positive utcSane⟩, .inr utcSane⟩

theorem windowFirst_eq {anchor frames : Nat} (enough : frames ≤ anchor) :
    windowFirst anchor frames = anchor - frames := by
  simp only [windowFirst]
  split <;> omega

theorem checkTrigger_ok {request : TriggerRequest}
    (checked : capture.checkTrigger request = .ok ()) :
    capture.haveHistory = true ∧
      capture.framesFor request.pretriggerMs + capture.framesFor request.posttriggerMs + 1 ≤
        capture.maxCaptureFrames := by
  simp only [checkTrigger] at checked
  split at checked
  · cases checked
  case isFalse ready =>
      rw [not_or, Bool.not_eq_false] at ready
      split at checked
      · cases checked
      split at checked
      · cases checked
      split at checked
      · cases checked
      case isFalse fits => exact ⟨ready.1, Nat.not_lt.mp fits⟩

theorem budget_fits {width : Nat} (positive : 0 < width) (fits : width ≤ capture.maxCaptureFrames) :
    width + 2 * capture.sampleRateHz ≤ capture.capacity := by
  simp only [maxCaptureFrames] at fits
  split at fits <;> omega

theorem triggerSession_serves (streaming : Streaming rate generation capture requests.since)
    {request : TriggerRequest} {clocks : Clocks} (captureUuid : MncwfUuid) (marker : SessionEvent)
    (positive : 0 < capture.nextSessionId) (history : capture.haveHistory = true)
    (fits : capture.framesFor request.pretriggerMs + capture.framesFor request.posttriggerMs + 1 ≤
      capture.maxCaptureFrames)
    (before : capture.oldestSequence + capture.framesFor request.pretriggerMs ≤
      capture.latestSequence)
    (bounded : capture.latestSequence + capture.framesFor request.posttriggerMs + 1 < 2 ^ 64)
    (tai : SaneTime clocks.tai) (realtime : SaneTime clocks.realtime) :
    (addTrigger marker request.source
        (capture.triggerSession request clocks captureUuid)).Plain capture rate ∧
      (addTrigger marker request.source
        (capture.triggerSession request clocks captureUuid)).Serves capture rate requests.since
          (capture.requested request capture.nextSessionId) := by
  have room := budget_fits (by omega) fits
  rw [(streaming.rated history).1] at room
  have first : windowFirst capture.latestSequence (capture.framesFor request.pretriggerMs) =
      capture.latestSequence - capture.framesFor request.pretriggerMs :=
    windowFirst_eq (by omega)
  have last : u64 (capture.latestSequence + capture.framesFor request.posttriggerMs) =
      capture.latestSequence + capture.framesFor request.posttriggerMs := u64_eq (by omega)
  constructor
  · refine ⟨?_, ?_, rfl, tai, realtime, (streaming.rated history).1, positive, .inl ?_⟩
    · simp only [addTrigger, triggerSession, first, last]
      omega
    · simp only [addTrigger, triggerSession, last]
      exact bounded
    · simp only [addTrigger, triggerSession, first]
      omega
  · refine ⟨⟨rfl, ?_, ?_⟩, rfl, .inr ⟨?_, ?_, ?_⟩⟩
    · simp only [addTrigger, triggerSession, first, requested, le_refl]
    · simp only [addTrigger, triggerSession, last, requested, le_refl]
    · simp only [addTrigger, triggerSession, first]
      omega
    · simp only [addTrigger, triggerSession, first, last]
      omega
    · simp only [addTrigger, triggerSession, last]
      omega

theorem extended_serves (streaming : Streaming rate generation capture requests.since)
    {active : Session} (plain : active.Plain capture rate)
    (history : capture.haveHistory = true) {first last : Nat} (order : first ≤ last)
    (retained : capture.oldestSequence ≤ first) (recent : capture.latestSequence ≤ last)
    (bounded : last + 1 < 2 ^ 64)
    (fits : max active.summary.lastSequence last + 1 ≤
      min active.summary.firstSequence first + capture.maxCaptureFrames) :
    (extendSession first last active).Plain capture rate ∧
      (extendSession first last active).Safe capture rate requests.since := by
  have room : max active.summary.lastSequence last + 1 + 2 * rate ≤
      min active.summary.firstSequence first + capture.capacity := by
    have budget := budget_fits
      (show 0 < max active.summary.lastSequence last + 1 - min active.summary.firstSequence first by
        omega)
      (show _ ≤ capture.maxCaptureFrames by omega)
    rw [(streaming.rated history).1] at budget
    omega
  have origin := plain.origin
  have ordered := plain.ordered
  have small := plain.bounded
  refine ⟨⟨?_, ?_, plain.idle, plain.tai, plain.realtime, plain.rated, plain.named, .inl ?_⟩,
    ⟨?_, ?_, ?_⟩⟩
  · simp only [extendSession]
    omega
  · simp only [extendSession]
    omega
  · simp only [extendSession]
    omega
  · simp only [extendSession]
    omega
  · simp only [extendSession]
    exact room
  · simp only [extendSession]
    omega

theorem isActive_waiting {session : Session} (active : isActive session = true) :
    session.Waiting := by
  simp only [isActive, Bool.and_eq_true, decide_eq_true_eq, Bool.not_eq_true'] at active
  exact active.1

theorem plain_summary {session other : Session} (plain : session.Plain capture rate)
    (number : other.summary.id = session.summary.id)
    (window : other.summary.firstSequence = session.summary.firstSequence ∧
      other.summary.lastSequence = session.summary.lastSequence)
    (tai : other.summary.triggerTaiNanoseconds = session.summary.triggerTaiNanoseconds)
    (realtime : other.summary.triggerRealtimeNanoseconds =
      session.summary.triggerRealtimeNanoseconds)
    (rated : other.summary.sampleRateHz = session.summary.sampleRateHz)
    (idle : other.activeEvents = session.activeEvents) : other.Plain capture rate := by
  obtain ⟨first, last⟩ := window
  refine ⟨?_, ?_, ?_, ?_, ?_, ?_, ?_, ?_⟩
  · rw [first, last]
    exact plain.ordered
  · rw [last]
    exact plain.bounded
  · rw [idle]
    exact plain.idle
  · rw [tai]
    exact plain.tai
  · rw [realtime]
    exact plain.realtime
  · rw [rated]
    exact plain.rated
  · rw [number]
    exact plain.named
  · rw [first]
    exact plain.origin

theorem safe_summary {since : Nat} {session other : Session}
    (safe : session.Safe capture rate since)
    (window : other.summary.firstSequence = session.summary.firstSequence ∧
      other.summary.lastSequence = session.summary.lastSequence) :
    other.Safe capture rate since := by
  obtain ⟨first, last⟩ := window
  refine ⟨?_, ?_, ?_⟩
  · rw [first]
    exact safe.retained
  · rw [first, last]
    exact safe.fits
  · rw [last]
    exact safe.recent

theorem serving_restamped (serving : Serving rate generation capture requests)
    (same : SameStream capture after) (stamped : after.Stamped)
    (sessions : after.sessions = capture.sessions)
    (next : after.nextSessionId = capture.nextSessionId)
    (discovered : after.discoveredSessions = capture.discoveredSessions) :
    Serving rate generation after requests where
  numbered := numbered_map serving.numbered id (by rw [sessions, List.map_id]) next discovered
    (fun _ => rfl)
  archived := by
    rw [discovered]
    exact serving.archived
  streaming := by
    obtain ⟨epoch, order, bounded, rated, gaps, timely⟩ := serving.streaming
    refine ⟨?_, ?_, ?_, ?_, ?_, timely⟩
    · rw [same.generation]
      exact epoch
    · rw [same.haveHistory, same.oldest, same.latest]
      exact order
    · rw [same.latest]
      exact bounded
    · rw [same.haveHistory, same.sampleRate]
      exact rated
    · rw [same.gaps]
      exact gaps
  stamped := stamped
  plain := by
    rw [sessions, same.haveHistory]
    intro session member waiting
    obtain ⟨history, plain⟩ := serving.plain session member waiting
    exact ⟨history, plain_same same plain⟩
  served := by
    rw [sessions]
    intro request member
    rcases serving.served request member with done | ⟨session, found, serves⟩
    · exact .inl done
    · exact .inr ⟨session, found, serves_same same serves⟩

theorem serving_admit (serving : Serving rate generation capture requests)
    (request : TriggerRequest) (clocks : Clocks) (captureUuid eventUuid : MncwfUuid)
    (history : capture.haveHistory = true)
    (fits : capture.framesFor request.pretriggerMs + capture.framesFor request.posttriggerMs + 1 ≤
      capture.maxCaptureFrames)
    (before : capture.oldestSequence + capture.framesFor request.pretriggerMs ≤
      capture.latestSequence)
    (bounded : capture.latestSequence + capture.framesFor request.posttriggerMs + 1 < 2 ^ 64)
    (tai : SaneTime clocks.tai) (realtime : SaneTime clocks.realtime)
    (accepted : capture.checkTrigger request = .ok ())
    (roomy : Roomy (capture, requests) (.trigger request clocks captureUuid eventUuid)) :
    Serving rate generation (capture.admitTrigger request clocks captureUuid eventUuid).1
      ⟨requests.since, (requests.entries ++ [capture.requested request
        (capture.admitTrigger request clocks captureUuid eventUuid).2.id]).map (Requested.settle
          (capture.admitTrigger request clocks captureUuid eventUuid).1.sessions)⟩ := by
  have first : windowFirst capture.latestSequence (capture.framesFor request.pretriggerMs) =
      capture.latestSequence - capture.framesFor request.pretriggerMs :=
    windowFirst_eq (by omega)
  have last : u64 (capture.latestSequence + capture.framesFor request.posttriggerMs) =
      capture.latestSequence + capture.framesFor request.posttriggerMs := u64_eq (by omega)
  have opened : ∀ marker : SessionEvent, ∀ fresh, fresh = addTrigger marker request.source
      (capture.triggerSession request clocks captureUuid) →
      Serving rate generation { capture with
        sessions := capture.sessions ++ [fresh], nextSessionId := capture.nextSessionId + 1 }
        ⟨requests.since, (requests.entries ++ [capture.requested request
          capture.nextSessionId]).map (Requested.settle (capture.sessions ++ [fresh]))⟩ := by
    intro marker fresh equal
    subst equal
    obtain ⟨plain, serves⟩ := triggerSession_serves serving.streaming captureUuid marker
      serving.numbered.positive history fits before bounded tai realtime
    refine serving_append serving ?_ ?_ ?_ ?_ ?_ ?_ history plain ?_
    · exact ⟨rfl, rfl, rfl, rfl, rfl, rfl, rfl⟩
    · exact serving.stamped
    · rfl
    · rfl
    · rfl
    · rfl
    · intro entry member
      rcases List.mem_append.mp member with old | new
      · exact .inl old
      · rw [List.mem_singleton.mp new]
        exact .inr serves
  cases found : capture.sessions.find? isActive with
  | none =>
      simp only [admitTrigger, found]
      exact opened _ _ rfl
  | some active =>
      have present := List.mem_of_find?_eq_some found
      have waiting := isActive_waiting (List.find?_some found)
      by_cases apart : u64 (active.summary.lastSequence + 1) <
          windowFirst capture.latestSequence (capture.framesFor request.pretriggerMs)
      · simp only [admitTrigger, found, if_pos apart]
        exact opened _ _ rfl
      · have room := roomy accepted active found (Nat.not_lt.mp apart)
        dsimp only at room
        have plain := (serving.plain active present waiting).2
        obtain ⟨extended, safe⟩ := extended_serves serving.streaming plain history
          (show windowFirst capture.latestSequence (capture.framesFor request.pretriggerMs) ≤
            capture.latestSequence + capture.framesFor request.posttriggerMs by omega)
          (by omega) (by omega) bounded room
        simp only [admitTrigger, found, if_neg apart, last]
        refine serving_update serving ?_ ?_ ?_ ?_ present (fun session => addTrigger
          ⟨{}, false, manualEventDescriptor eventUuid capture.latestSequence clocks request.source⟩
          request.source (extendSession (windowFirst capture.latestSequence
            (capture.framesFor request.pretriggerMs))
            (capture.latestSequence + capture.framesFor request.posttriggerMs) session)) ?_
          (fun _ => rfl) ?_ ?_ ?_
        · exact ⟨rfl, rfl, rfl, rfl, rfl, rfl, rfl⟩
        · exact serving.stamped
        · rfl
        · rfl
        · rfl
        · intro _
          exact ⟨history, plain_summary extended rfl ⟨rfl, rfl⟩ rfl rfl rfl rfl⟩
        · rintro other ⟨⟨id, above, below⟩, capturing, _⟩
          refine ⟨⟨id, ?_, ?_⟩, capturing, .inr (safe_summary safe ⟨rfl, rfl⟩)⟩
          · exact le_trans (min_le_left _ _) above
          · exact le_trans below (le_max_left _ _)
        · intro entry member
          rcases List.mem_append.mp member with old | new
          · exact .inl old
          · rw [List.mem_singleton.mp new]
            refine .inr ⟨⟨rfl, ?_, ?_⟩, waiting.1, .inr (safe_summary safe ⟨rfl, rfl⟩)⟩
            · simp only [addTrigger, extendSession, requested, first]
              exact min_le_right _ _
            · simp only [addTrigger, extendSession, requested]
              exact le_max_right _ _

theorem serving_trigger (serving : Serving rate generation capture requests)
    (request : TriggerRequest) (clocks : Clocks) (captureUuid eventUuid : MncwfUuid)
    (steady : Steady rate generation (capture, requests)
      (.trigger request clocks captureUuid eventUuid))
    (roomy : Roomy (capture, requests) (.trigger request clocks captureUuid eventUuid)) :
    Serving rate generation
      (machine.next capture (.trigger request clocks captureUuid eventUuid))
      (noteRequests capture requests (.trigger request clocks captureUuid eventUuid)
        (machine.answer capture (.trigger request clocks captureUuid eventUuid))) := by
  obtain ⟨before, bounded, clocked⟩ := steady
  dsimp only at before bounded clocked
  cases checked : capture.checkTrigger request with
  | error failure =>
      have refused : capture.trigger request clocks captureUuid eventUuid =
          (capture, .error failure) := by
        simp only [WaveformCapture.trigger, checked]
      simp only [noteRequests, machine, Machine.next, Machine.answer, refused, answered]
      exact serving_same serving ⟨rfl, rfl, rfl, rfl, rfl, rfl, rfl⟩ serving.stamped
        serving.numbered rfl rfl
  | ok _ =>
      obtain ⟨history, fits⟩ := checkTrigger_ok checked
      obtain ⟨utc, utcOk, stamped⟩ := clocked_stamped serving.stamped clocked
      have correlated : Serving rate generation { capture.withCorrelation clocks.correlation with
          correlationUtcNanoseconds := utc } requests := by
        refine serving_restamped serving ?_ stamped rfl rfl rfl
        exact ⟨rfl, rfl, rfl, rfl, rfl, rfl, rfl⟩
      have admitted := serving_admit correlated request clocks captureUuid eventUuid history fits
        before bounded clocked.1 clocked.2.1 checked roomy
      simp only [noteRequests, machine, Machine.next, Machine.answer, WaveformCapture.trigger,
        checked, utcOk, answered]
      exact admitted

theorem boundedWindow_ok {request : TrackRequest} {anchor : Nat} {window : Nat × Nat}
    (room : 0 < capture.maxCaptureFrames)
    (bounded : anchor + capture.framesFor request.posttriggerMs + 1 < 2 ^ 64)
    (found : capture.boundedWindow request anchor = .ok window) :
    window.2 = anchor + capture.framesFor request.posttriggerMs ∧
      capture.oldestSequence ≤ window.1 := by
  simp only [boundedWindow] at found
  split at found
  · cases found
  case isFalse fits =>
      split at found
      · cases found
      case isFalse retained =>
          generalize capture.framesFor request.posttriggerMs = after at *
          have start := windowFirst_le anchor (capture.framesFor request.pretriggerMs)
          generalize windowFirst anchor (capture.framesFor request.pretriggerMs) = before at *
          cases found
          refine ⟨rfl, ?_⟩
          have order : max before capture.oldestSequence ≤ anchor + after := by omega
          have older : capture.oldestSequence ≤ max before capture.oldestSequence :=
            le_max_right _ _
          generalize max before capture.oldestSequence = first at *
          dsimp only
          split
          case isTrue wide =>
              simp only [u64] at wide ⊢
              omega
          case isFalse => exact older

theorem eventSession_plain (streaming : Streaming rate generation capture requests.since)
    {request : TrackRequest} {clocks : Clocks} (captureUuid : MncwfUuid) {anchor : Nat}
    {window : Nat × Nat} (positive : 0 < capture.nextSessionId)
    (history : capture.haveHistory = true) (room : 0 < capture.maxCaptureFrames)
    (found : capture.boundedWindow request anchor = .ok window)
    (bounded : anchor + capture.framesFor request.posttriggerMs + 1 < 2 ^ 64)
    (tai : SaneTime clocks.tai) (realtime : SaneTime clocks.realtime) :
    (capture.eventSession request clocks captureUuid window).Plain capture rate := by
  obtain ⟨last, retained⟩ := boundedWindow_ok room bounded found
  refine ⟨boundedWindow_ordered room found, ?_, rfl, tai, realtime, (streaming.rated history).1,
    positive, .inl retained⟩
  simp only [eventSession, last]
  exact bounded

def Requests.settled (requests : Requests) (sessions : List Session) : Requests :=
  ⟨requests.since, requests.entries.map (Requested.settle sessions)⟩

theorem serving_create (serving : Serving rate generation capture requests)
    {request : TrackRequest} {clocks : Clocks} (captureUuid : MncwfUuid) {anchor : Nat}
    {window : Nat × Nat} (history : capture.haveHistory = true)
    (room : 0 < capture.maxCaptureFrames)
    (found : capture.boundedWindow request anchor = .ok window)
    (bounded : anchor + capture.framesFor request.posttriggerMs + 1 < 2 ^ 64)
    (tai : SaneTime clocks.tai) (realtime : SaneTime clocks.realtime)
    (state : Nat → EventCaptureState) :
    Serving rate generation (capture.createFor request clocks captureUuid window state).1
      (requests.settled
        (capture.createFor request clocks captureUuid window state).1.sessions) := by
  have plain := eventSession_plain serving.streaming captureUuid serving.numbered.positive history
      room
    found bounded tai realtime
  refine serving_append serving ?_ ?_ ?_ ?_ ?_ ?_ history plain (fun _ member => .inl member)
  · exact ⟨rfl, rfl, rfl, rfl, rfl, rfl, rfl⟩
  · exact serving.stamped
  · rfl
  · rfl
  · rfl
  · rfl

theorem serving_begin (serving : Serving rate generation capture requests)
    {request : TrackRequest} {clocks : Clocks} (captureUuid : MncwfUuid)
    (history : capture.haveHistory = true) (room : 0 < capture.maxCaptureFrames)
    (bounded : request.anchor + capture.framesFor request.posttriggerMs + 1 < 2 ^ 64)
    (tai : SaneTime clocks.tai) (realtime : SaneTime clocks.realtime) :
    Serving rate generation (capture.beginCapture request clocks captureUuid).1
      (requests.settled (capture.beginCapture request clocks captureUuid).1.sessions) := by
  cases found : capture.boundedWindow request request.anchor with
  | error failure =>
      simp only [beginCapture, found]
      exact serving_same serving ⟨rfl, rfl, rfl, rfl, rfl, rfl, rfl⟩ serving.stamped
        serving.numbered rfl rfl
  | ok window =>
      simp only [beginCapture, found]
      exact serving_create serving captureUuid history room found bounded tai realtime _

theorem joined_serves (serving : Serving rate generation capture requests)
    {onset : Session} {window : Nat × Nat} (history : capture.haveHistory = true)
    (plain : onset.Plain capture rate) (order : window.1 ≤ window.2)
    (retained : capture.oldestSequence ≤ window.1) (bounded : window.2 + 1 < 2 ^ 64)
    (joins : capture.joinsOnset onset window = true) :
    (extendSession window.1 window.2 onset).Plain capture rate ∧
      (onset.Safe capture rate requests.since →
        (extendSession window.1 window.2 onset).Safe capture rate requests.since) := by
  have ordered := plain.ordered
  have small := plain.bounded
  have origin := plain.origin
  have budget : max onset.summary.lastSequence window.2 + 1 -
      min onset.summary.firstSequence window.1 ≤ capture.maxCaptureFrames := by
    simp only [joinsOnset, Bool.and_eq_true, decide_eq_true_eq] at joins
    have fits := joins.2
    rw [show max onset.summary.lastSequence window.2 + 2 ^ 64 -
      min onset.summary.firstSequence window.1 + 1 = max onset.summary.lastSequence window.2 + 1 -
        min onset.summary.firstSequence window.1 + 2 ^ 64 by omega, u64_wrap (by omega)] at fits
    exact fits
  have room := budget_fits (by omega) budget
  rw [(serving.streaming.rated history).1] at room
  constructor
  · refine ⟨?_, ?_, plain.idle, plain.tai, plain.realtime, plain.rated, plain.named, ?_⟩
    · simp only [extendSession]
      omega
    · simp only [extendSession]
      omega
    · simp only [extendSession]
      omega
  · rintro ⟨kept, fits, recent⟩
    refine ⟨?_, ?_, ?_⟩
    · simp only [extendSession]
      omega
    · simp only [extendSession]
      omega
    · simp only [extendSession]
      omega

theorem updateMarker_idle (request : TrackRequest) (session : Session) :
    (updateMarker request session).activeEvents = session.activeEvents := by
  simp only [updateMarker]
  split
  · rfl
  · split
    · rfl
    · rfl

theorem updateMarker_plain {request : TrackRequest} {session : Session}
    (plain : session.Plain capture rate) : (updateMarker request session).Plain capture rate := by
  have summary := (updateMarker_summary request session).1
  apply plain_summary plain
  · rw [summary]
  · rw [summary]
    exact ⟨rfl, rfl⟩
  · rw [summary]
  · rw [summary]
  · rw [summary]
  · exact updateMarker_idle request session

theorem updateMarker_serves {request : TrackRequest} {since : Nat} {session : Session}
    {entry : Requested} (serves : session.Serves capture rate since entry) :
    (updateMarker request session).Serves capture rate since entry := by
  obtain ⟨summary, queued⟩ := updateMarker_summary request session
  obtain ⟨covers, capturing, held⟩ := serves
  refine ⟨?_, ?_, ?_⟩
  · rw [Session.Covers, summary]
    exact covers
  · rw [summary]
    exact capturing
  · rw [queued]
    exact held.imp id (fun safe => safe_summary safe (by rw [summary]; exact ⟨rfl, rfl⟩))

theorem serving_close (serving : Serving rate generation capture requests)
    {request : TrackRequest} {clocks : Clocks} (captureUuid : MncwfUuid)
    (state : EventCaptureState) (history : capture.haveHistory = true)
    (room : 0 < capture.maxCaptureFrames)
    (bounded : request.currentSequence + capture.framesFor request.posttriggerMs + 1 < 2 ^ 64)
    (tai : SaneTime clocks.tai) (realtime : SaneTime clocks.realtime) :
    Serving rate generation (capture.closeCapture request clocks captureUuid state
        (capture.sessionFor state.onsetSessionId)).1
      (requests.settled (capture.closeCapture request clocks captureUuid state
        (capture.sessionFor state.onsetSessionId)).1.sessions) := by
  cases found : capture.boundedWindow request request.currentSequence with
  | error failure =>
      simp only [closeCapture, found]
      exact serving_same serving ⟨rfl, rfl, rfl, rfl, rfl, rfl, rfl⟩ serving.stamped
        serving.numbered rfl rfl
  | ok window =>
      have separate := serving_create serving captureUuid history room found bounded tai realtime
        (fun id => { state with recoverySessionId := id, terminal := true })
      obtain ⟨last, retained⟩ := boundedWindow_ok room bounded found
      cases onsetFound : capture.sessionFor state.onsetSessionId with
      | none =>
          simp only [closeCapture, found]
          exact separate
      | some onset =>
          by_cases joins : capture.joinsOnset onset window = true
          · have present := List.mem_of_find?_eq_some onsetFound
            have waiting : onset.Waiting := by
              simp only [joinsOnset, Bool.and_eq_true, decide_eq_true_eq,
                Bool.not_eq_true'] at joins
              exact joins.1.1.1
            obtain ⟨plain, safe⟩ := joined_serves serving history
              (serving.plain onset present waiting).2 (boundedWindow_ordered room found) retained
              (by rw [last]; exact bounded) joins
            simp only [closeCapture, found, if_pos joins]
            refine serving_update serving ?_ ?_ ?_ ?_ present
              (fun session => updateMarker request (extendSession window.1 window.2 session)) ?_
              ?_ ?_ ?_ (fun _ member => .inl member)
            · exact ⟨rfl, rfl, rfl, rfl, rfl, rfl, rfl⟩
            · exact serving.stamped
            · rfl
            · rfl
            · rfl
            · intro session
              rw [(updateMarker_summary request _).1]
              rfl
            · intro _
              exact ⟨history, updateMarker_plain plain⟩
            · rintro entry ⟨⟨id, above, below⟩, capturing, held⟩
              apply updateMarker_serves
              refine ⟨⟨id, ?_, ?_⟩, capturing, held.imp (fun queued => queued) safe⟩
              · exact le_trans (min_le_left _ _) above
              · exact le_trans below (le_max_left _ _)
          · simp only [closeCapture, found, if_neg joins]
            exact separate

theorem serving_track (serving : Serving rate generation capture requests)
    (request : TrackRequest) (clocks : Clocks) (captureUuid : MncwfUuid)
    (steady : Steady rate generation (capture, requests) (.track request clocks captureUuid)) :
    Serving rate generation (capture.trackPowerQualityEvent request clocks captureUuid).1
      (requests.settled
        (capture.trackPowerQualityEvent request clocks captureUuid).1.sessions) := by
  obtain ⟨bounded, clocked⟩ := steady
  dsimp only at bounded clocked
  cases checked : capture.checkTrack request with
  | error failure =>
      simp only [trackPowerQualityEvent, checked]
      exact serving_same serving ⟨rfl, rfl, rfl, rfl, rfl, rfl, rfl⟩ serving.stamped
        serving.numbered rfl rfl
  | ok _ =>
      obtain ⟨history, room⟩ := checkTrack_ok checked
      obtain ⟨utc, utcOk, stamped⟩ := clocked_stamped serving.stamped clocked
      obtain ⟨tai, realtime, _⟩ := clocked
      have correlated : Serving rate generation { capture.withCorrelation clocks.correlation with
          correlationUtcNanoseconds := utc } requests := by
        refine serving_restamped serving ?_ stamped rfl rfl rfl
        exact ⟨rfl, rfl, rfl, rfl, rfl, rfl, rfl⟩
      have anchored : request.anchor ≤ request.currentSequence := by
        simp only [checkTrack] at checked
        split at checked
        · cases checked
        split at checked
        · cases checked
        split at checked
        · cases checked
        case isFalse ordered =>
            simp only [TrackRequest.anchor]
            split <;> omega
      have begun : request.anchor + capture.framesFor request.posttriggerMs + 1 < 2 ^ 64 := by
        omega
      simp only [trackPowerQualityEvent, checked, utcOk, trackSessions]
      split
      · exact serving_begin correlated captureUuid history room begun tai realtime
      · split
        · refine serving_begin
            (serving_restamped correlated ?_ ?_ ?_ ?_ ?_) captureUuid history room
            begun tai realtime
          · exact ⟨rfl, rfl, rfl, rfl, rfl, rfl, rfl⟩
          · exact stamped
          · rfl
          · rfl
          · rfl
        case h_2 state _ _ latest found =>
            split
            · have present : latest ∈ capture.sessions := by
                rcases Option.or_eq_some_iff.mp found with recovery | ⟨_, onset⟩
                · exact List.mem_of_find?_eq_some recovery
                · exact List.mem_of_find?_eq_some onset
              refine serving_update correlated ?_ ?_ ?_ ?_ present (updateMarker request) ?_ ?_ ?_
                (fun _ => updateMarker_serves) (fun _ member => .inl member)
              · exact ⟨rfl, rfl, rfl, rfl, rfl, rfl, rfl⟩
              · exact stamped
              · rfl
              · rfl
              · rfl
              · intro session
                rw [(updateMarker_summary request session).1]
              · intro waiting
                have before := (updateMarker_window request latest waiting).1
                exact ⟨history, updateMarker_plain (correlated.plain latest present before).2⟩
            · exact serving_close correlated captureUuid state history room bounded tai realtime

theorem writtenSession_id (success : Bool) (session : Session) :
    (writtenSession success session).summary.id = session.summary.id := rfl

/-- The sessions that a result of the writer leaves, before it is noted. -/
def WaveformCapture.unexpired (capture : WaveformCapture) (result : WriterResult) :
    WaveformCapture :=
  if result.expiredSessionIds = [] then capture
  else capture.removeSessions (fun id => result.expiredSessionIds.contains id)

theorem unexpired_numbered (numbered : Numbered capture) (result : WriterResult) :
    Numbered (capture.unexpired result) := by
  simp only [unexpired]
  split
  · exact numbered
  · exact numbered_filter numbered _ rfl rfl rfl

theorem unexpired_member {result : WriterResult} {session : Session}
    (member : session ∈ (capture.unexpired result).sessions) : session ∈ capture.sessions := by
  simp only [unexpired] at member
  split at member
  · exact member
  · exact (List.mem_filter.mp member).1

theorem unexpired_kept {result : WriterResult} {session : Session}
    (member : session ∈ capture.sessions)
    (kept : session.summary.id ∉ result.expiredSessionIds) :
    session ∈ (capture.unexpired result).sessions := by
  simp only [unexpired]
  split
  · exact member
  · refine List.mem_filter.mpr ⟨member, ?_⟩
    dsimp only
    rw [List.contains_eq_mem, decide_eq_false kept]
    rfl

theorem unexpired_same (capture : WaveformCapture) (result : WriterResult) :
    SameStream capture (capture.unexpired result) ∧
      (capture.unexpired result).discoveredSessions = capture.discoveredSessions ∧
      ((capture.unexpired result).Stamped ↔ capture.Stamped) := by
  simp only [unexpired]
  split
  · exact ⟨⟨rfl, rfl, rfl, rfl, rfl, rfl, rfl⟩, rfl, Iff.rfl⟩
  · exact ⟨⟨rfl, rfl, rfl, rfl, rfl, rfl, rfl⟩, rfl, Iff.rfl⟩

theorem serving_result (serving : Serving rate generation capture requests)
    (result : WriterResult)
    (steady : Steady rate generation (capture, requests) (.collectResult result)) :
    Serving rate generation (capture.collectResult result)
      (requests.settled (capture.collectResult result).sessions) := by
  obtain ⟨success, kept⟩ := steady
  dsimp only at kept
  obtain ⟨same, discovered, stamped⟩ := unexpired_same capture result
  have left : capture.collectResult result = if result.sessionId = 0 then capture.unexpired result
      else { capture.unexpired result with
        sessions := (capture.unexpired result).updateSession result.sessionId
          (writtenSession result.success) } := rfl
  rw [left]
  split
  · apply serving_sessions serving same (stamped.mpr serving.stamped)
      (unexpired_numbered serving.numbered result) (.inl discovered) serving.streaming.timely
    · intro session member
      exact serving.plain session (unexpired_member member)
    · intro request member
      rcases serving.served request member with done | ⟨session, present, serves⟩
      · exact .inl done
      · exact .inr (.inr ⟨session, unexpired_kept present (kept session present serves.2.1),
          serves⟩)
  · have numbered := unexpired_numbered serving.numbered result
    refine serving_sessions serving ?_ ?_ ?_ (.inl ?_) serving.streaming.timely ?_ ?_
    · exact ⟨same.capacity, same.haveHistory, same.oldest, same.latest, same.sampleRate,
        same.generation, same.gaps⟩
    · exact stamped.mpr serving.stamped
    · exact numbered_update numbered _ (writtenSession result.success) rfl rfl rfl
        (writtenSession_id result.success)
    · exact discovered
    · intro written member waiting
      obtain ⟨session, found, equal⟩ := List.mem_map.mp member
      by_cases own : session.summary.id = result.sessionId
      · rw [if_pos own] at equal
        rw [← equal] at waiting
        exact absurd waiting (writtenSession_settled _ _)
      · rw [if_neg own] at equal
        rw [← equal] at waiting ⊢
        exact serving.plain session (unexpired_member found) waiting
    · intro request member
      rcases serving.served request member with done | ⟨session, present, serves⟩
      · exact .inl done
      · right
        have remains := unexpired_kept present (kept session present serves.2.1)
        by_cases own : session.summary.id = result.sessionId
        · left
          refine ⟨writtenSession result.success session,
            List.mem_map.mpr ⟨session, remains, if_pos own⟩, ?_, serves.1⟩
          rw [success]
          rfl
        · right
          exact ⟨session, List.mem_map.mpr ⟨session, remains, if_neg own⟩, serves⟩

theorem insertionSort_merged {restored : List Session} {session : Session}
    (member : session ∈ capture.sessions) :
    session ∈ (restored.foldl mergeSession capture.sessions).insertionSort
      (fun left right : Session => left.summary.id ≤ right.summary.id) := by
  rw [List.mem_insertionSort]
  have merged : ∀ sessions : List Session, session ∈ sessions →
      session ∈ restored.foldl mergeSession sessions := by
    induction restored with
    | nil =>
        intro sessions present
        exact present
    | cons first restored ih =>
        intro sessions present
        apply ih
        simp only [mergeSession]
        split
        · exact present
        · exact List.mem_append_left _ present
  exact merged _ member

theorem serving_discovery (serving : Serving rate generation capture requests) :
    Serving rate generation capture.collectDiscovery
      (requests.settled capture.collectDiscovery.sessions) := by
  have numbered := numbered_discovery serving.numbered
  cases found : capture.discoveredSessions with
  | none =>
      have unchanged : capture.collectDiscovery = capture := by
        simp only [collectDiscovery, found]
      rw [unchanged]
      exact serving_same serving ⟨rfl, rfl, rfl, rfl, rfl, rfl, rfl⟩ serving.stamped
        serving.numbered rfl rfl
  | some restored =>
      simp only [collectDiscovery, found] at numbered ⊢
      refine serving_sessions serving ?_ ?_ numbered (.inr rfl) serving.streaming.timely ?_ ?_
      · exact ⟨rfl, rfl, rfl, rfl, rfl, rfl, rfl⟩
      · exact serving.stamped
      · intro session member waiting
        rcases merged_member ((List.mem_insertionSort _).mp member) with old | new
        · exact serving.plain session old waiting
        · have complete := serving.archived restored found session new
          rw [waiting.1] at complete
          cases complete
      · intro request member
        rcases serving.served request member with done | ⟨session, present, serves⟩
        · exact .inl done
        · exact .inr (.inr ⟨session, insertionSort_merged present, serves⟩)

theorem serving_archived (serving : Serving rate generation capture requests)
    (archived : List Session)
    (complete : ∀ session ∈ archived, session.summary.state = .complete) :
    Serving rate generation (capture.beginDiscovery archived)
      (requests.settled (capture.beginDiscovery archived).sessions) := by
  have numbered := numbered_archived serving.numbered archived
  by_cases started : capture.discoveryStarted = true
  · have unchanged : capture.beginDiscovery archived = capture := by
      rw [beginDiscovery, if_pos started]
    rw [unchanged]
    exact serving_same serving ⟨rfl, rfl, rfl, rfl, rfl, rfl, rfl⟩ serving.stamped
      serving.numbered rfl rfl
  · simp only [beginDiscovery, if_neg started] at numbered ⊢
    have kept := serving_same serving ⟨rfl, rfl, rfl, rfl, rfl, rfl, rfl⟩ serving.stamped
      serving.numbered rfl rfl
    refine ⟨numbered, ?_, ⟨kept.streaming.epoch, kept.streaming.order, kept.streaming.bounded,
      kept.streaming.rated, kept.streaming.gaps, kept.streaming.timely⟩, kept.stamped, ?_, ?_⟩
    · rintro restored ⟨⟩
      exact complete
    · intro session member waiting
      obtain ⟨history, plain⟩ := kept.plain session member waiting
      refine ⟨history, plain_same ?_ plain⟩
      exact ⟨rfl, rfl, rfl, rfl, rfl, rfl, rfl⟩
    · intro request member
      rcases kept.served request member with done | ⟨session, present, serves⟩
      · exact .inl done
      · refine .inr ⟨session, present, serves_same ?_ serves⟩
        exact ⟨rfl, rfl, rfl, rfl, rfl, rfl, rfl⟩

theorem serving_erase (serving : Serving rate generation capture requests) (id : Nat)
    (removed : Except Failure Unit) :
    Serving rate generation (capture.erase id removed).1
      (requests.settled (capture.erase id removed).1.sessions) := by
  have unchanged := serving_same serving ⟨rfl, rfl, rfl, rfl, rfl, rfl, rfl⟩ serving.stamped
    serving.numbered rfl rfl
  simp only [erase]
  split
  · exact unchanged
  case h_2 session found =>
      split
      · exact unchanged
      case isFalse settled =>
          split
          · exact unchanged
          · have other : ∀ candidate ∈ capture.sessions,
                candidate.summary.state = .capturing → candidate.summary.id ≠ id := by
              intro candidate member capturing same
              have number : session.summary.id = id := by
                simpa using List.find?_some found
              have equal := numbered_unique serving.numbered member
                (List.mem_of_find?_eq_some found) (same.trans number.symm)
              rw [equal] at capturing
              exact settled (.inl capturing)
            dsimp only
            refine serving_sessions serving ?_ ?_ ?_ (.inl ?_) serving.streaming.timely ?_ ?_
            · exact ⟨rfl, rfl, rfl, rfl, rfl, rfl, rfl⟩
            · exact serving.stamped
            · exact numbered_filter serving.numbered _ rfl rfl rfl
            · rfl
            · intro candidate member
              exact serving.plain candidate (List.mem_filter.mp member).1
            · intro request member
              rcases serving.served request member with done | ⟨candidate, present, serves⟩
              · exact .inl done
              · refine .inr (.inr ⟨candidate, List.mem_filter.mpr ⟨present, ?_⟩, serves⟩)
                simp [other candidate present serves.2.1]

theorem step_serving (call : Call) (serving : Serving rate generation capture requests)
    (steady : Steady rate generation (capture, requests) call)
    (roomy : Roomy (capture, requests) call) :
    Serving rate generation (machine.next capture call)
      (noteRequests capture requests call (machine.answer capture call)) := by
  cases call with
  | acceptBlock block correlated => exact serving_block serving block correlated steady _
  | trigger request clocks captureUuid eventUuid =>
      exact serving_trigger serving request clocks captureUuid eventUuid steady roomy
  | track request clocks captureUuid =>
      exact serving_track serving request clocks captureUuid steady
  | finishSessions => exact serving_finish serving
  | collectResult result => exact serving_result serving result steady
  | beginDiscovery archived => exact serving_archived serving archived steady
  | collectDiscovery => exact serving_discovery serving
  | erase id removed =>
      have erased := serving_erase serving id removed
      simp only [noteRequests, machine, Machine.next]
      split
      case h_1 after outcome => rwa [outcome] at erased
      case h_2 after failure outcome => rwa [outcome] at erased
  | beginStreamEpoch _ => exact absurd steady id
  | stop => exact absurd steady id

theorem trigger_named (serving : Serving rate generation capture requests)
    (request : TriggerRequest) (clocks : Clocks) (captureUuid eventUuid : MncwfUuid)
    {summary : WaveformSessionSummary}
    (accepted : (capture.trigger request clocks captureUuid eventUuid).2 = .ok summary) :
    0 < summary.id := by
  simp only [WaveformCapture.trigger] at accepted
  split at accepted
  · cases accepted
  · split at accepted
    · cases accepted
    · dsimp only [admitTrigger] at accepted
      split at accepted
      · cases accepted
        exact serving.numbered.positive
      case h_2 active found =>
          split at accepted
          · cases accepted
            exact serving.numbered.positive
          · cases accepted
            exact (serving.plain active (List.mem_of_find?_eq_some found)
              (isActive_waiting (List.find?_some found))).2.named

theorem step_named (call : Call) (serving : Serving rate generation capture requests)
    (named : ∀ request ∈ requests.entries, 0 < request.id) :
    ∀ request ∈ (noteRequests capture requests call (machine.answer capture call)).entries,
      0 < request.id := by
  have settled : ∀ entries : List Requested, (∀ request ∈ entries, 0 < request.id) →
      ∀ sessions, ∀ request ∈ entries.map (Requested.settle sessions), 0 < request.id := by
    intro entries each sessions settled member
    obtain ⟨request, present, equal⟩ := List.mem_map.mp member
    rw [← equal]
    exact each request present
  cases call with
  | trigger request clocks captureUuid eventUuid =>
      cases result : (capture.trigger request clocks captureUuid eventUuid).2 with
      | error failure =>
          simp only [noteRequests, machine, Machine.answer, result, answered]
          exact settled _ named _
      | ok summary =>
          simp only [noteRequests, machine, Machine.answer, result, answered]
          apply settled
          intro entry member
          rcases List.mem_append.mp member with old | new
          · exact named entry old
          · rw [List.mem_singleton.mp new]
            exact trigger_named serving request clocks captureUuid eventUuid result
  | _ => exact settled _ named _

theorem run_serving (calls : List Call)
    (steady : requesting.Along (Steady rate generation) (capture, requests) calls)
    (roomy : requesting.Along Roomy (capture, requests) calls)
    (serving : Serving rate generation capture requests)
    (named : ∀ request ∈ requests.entries, 0 < request.id) :
    Serving rate generation (requesting.run (capture, requests) calls).1
        (requesting.run (capture, requests) calls).2 ∧
      ∀ request ∈ (requesting.run (capture, requests) calls).2.entries, 0 < request.id :=
  requesting.along_invariant
    (fun state call => Steady rate generation state call ∧ Roomy state call)
    (fun state => Serving rate generation state.1 state.2 ∧
      ∀ request ∈ state.2.entries, 0 < request.id)
    (fun _ call allowed holds => ⟨step_serving call holds.1 allowed.1 allowed.2,
      step_named call holds.1 holds.2⟩)
    (capture, requests) ⟨serving, named⟩ calls (requesting.along_and steady roomy)

theorem serving_start (capacity rate : Nat) (generation : UInt32) :
    Serving rate generation { capacity } {} where
  numbered := ⟨Nat.succ_pos _, List.nodup_nil, (fun _ member => nomatch member),
    (fun _ found => nomatch found)⟩
  archived := fun _ found => nomatch found
  streaming := ⟨.inl rfl, (fun never => nomatch never), Nat.one_lt_two_pow (by decide),
    (fun never => nomatch never), rfl, Nat.zero_le _⟩
  stamped := ⟨.inl rfl, .inl rfl⟩
  plain := fun _ member => nomatch member
  served := fun _ member => nomatch member

/-- Once the window of a request has passed, a look at the sessions hands it to the writer, and
the result of the writer completes it. -/
theorem request_completed (serving : Serving rate generation capture requests)
    {request : Requested} (present : request ∈ requests.entries) (named : 0 < request.id)
    {session : Session} (member : session ∈ capture.sessions)
    (serves : session.Serves capture rate requests.since request)
    (passed : session.summary.lastSequence ≤ capture.latestSequence) :
    (capture.finishSession session).1.materializationQueued = true ∧
      { request with complete := true } ∈ (requesting.run (capture, requests) [.finishSessions,
        .collectResult { sessionId := request.id, success := true }]).2.entries := by
  obtain ⟨covers, capturing, held⟩ := serves
  have finished : (capture.finishSession session).1 =
      { session with materializationQueued := true } := by
    cases queued : session.materializationQueued with
    | true =>
        have early : capture.isDue session = false := by simp [isDue, queued]
        rw [finishSession_kept early, ← queued]
    | false =>
        obtain ⟨history, plain⟩ := serving.plain session member ⟨capturing, queued⟩
        obtain ⟨job, handed⟩ := finishSession_safe serving ⟨capturing, queued⟩ plain
          (serving.streaming.rated history).2 (held.resolve_left (by simp [queued])) passed
        rw [handed]
  constructor
  · rw [finished]
  · have queued : { session with materializationQueued := true } ∈
        capture.finishSessions.1.sessions := by
      rw [← finished]
      exact List.mem_map_of_mem member
    have written : writtenSession true { session with materializationQueued := true } ∈
        (capture.finishSessions.1.collectResult
          { sessionId := request.id, success := true }).sessions := by
      have unexpired : capture.finishSessions.1.collectResult
          { sessionId := request.id, success := true } =
          { capture.finishSessions.1 with
            sessions := capture.finishSessions.1.updateSession request.id
              (writtenSession true) } := by
        simp only [collectResult, if_true]
        rw [if_neg (by omega)]
      rw [unexpired]
      exact List.mem_map.mpr ⟨_, queued, if_pos covers.1⟩
    refine List.mem_map.mpr ⟨Requested.settle capture.finishSessions.1.sessions request,
      List.mem_map_of_mem present, ?_⟩
    have settled : (∃ candidate ∈ (capture.finishSessions.1.collectResult
        { sessionId := request.id, success := true }).sessions,
        candidate.summary.state = .complete ∧ candidate.Covers
          (Requested.settle capture.finishSessions.1.sessions request)) :=
      ⟨_, written, rfl, covers⟩
    simp only [Requested.settle, Requested.mk.injEq, true_and, Bool.or_eq_true, decide_eq_true_eq]
    exact .inr (decide_eq_true settled)

/-- In every steady run in which no trigger extends a session beyond the budget of one capture,
the samples of every accepted trigger are in a complete capture, or in a session that is handed
to the writer once they have arrived. -/
theorem triggers_complete (rate capacity : Nat) (generation : UInt32) (calls : List Call)
    (steady : requesting.Along (Steady rate generation) ({ capacity }, {}) calls)
    (roomy : requesting.Along Roomy ({ capacity }, {}) calls) :
    let (capture, requests) := requesting.run ({ capacity }, {}) calls
    ∀ request ∈ requests.entries, request.complete = true ∨
      ∃ session ∈ capture.sessions, session.Covers request ∧
        session.summary.state = .capturing ∧
        (session.summary.lastSequence ≤ capture.latestSequence →
          (capture.finishSession session).1.materializationQueued = true ∧
            { request with complete := true } ∈ (requesting.run (capture, requests)
              [.finishSessions,
                .collectResult { sessionId := request.id, success := true }]).2.entries) := by
  obtain ⟨serving, named⟩ := run_serving calls steady roomy (serving_start capacity rate generation)
    (fun _ member => nomatch member)
  generalize requesting.run ({ capacity }, {}) calls = state at serving named ⊢
  obtain ⟨capture, requests⟩ := state
  dsimp only at serving named ⊢
  intro request present
  rcases serving.served request present with done | ⟨session, member, serves⟩
  · exact .inl done
  · exact .inr ⟨session, member, serves.1, serves.2.1,
      request_completed serving present (named request present) member serves⟩

/-- A block of 1024 frames a second, and a look at the sessions. -/
def nextSecond (second : UInt32) : List Call :=
  [.acceptBlock {
      header := {
        firstSequenceLow := second * 1024
        measuredSampleRateHz := 1024
        configurationGeneration := 1 }
      frames := fun _ _ => 0 } none,
    .finishSessions]

def manualTrigger (posttriggerMs : Nat) : Call :=
  .trigger { pretriggerMs := 0, posttriggerMs, decimation := 1, source := .manualWeb }
    { tai := 1800000037000000000, realtime := 1800000000000000000 } 1 2

/-- Two requests four seconds apart, each with so much after it, and the next seconds. -/
def overlappingTriggers (posttriggerMs : Nat) : List Call :=
  nextSecond 0 ++ [manualTrigger posttriggerMs] ++ nextSecond 1 ++ nextSecond 2 ++ nextSecond 3 ++
    nextSecond 4 ++ [manualTrigger posttriggerMs] ++ nextSecond 5 ++ nextSecond 6 ++
    nextSecond 7 ++ nextSecond 8 ++ nextSecond 9

theorem short_triggers_complete :
    let (capture, requests) := requesting.run ({ capacity := 8192 }, {}) (overlappingTriggers 2000)
    requests.entries.length = 2 ∧
    ∀ request ∈ requests.entries, request.complete = true ∨
      ∃ session ∈ capture.sessions, session.Covers request ∧
        session.summary.state = .capturing ∧
        (session.summary.lastSequence ≤ capture.latestSequence →
          (capture.finishSession session).1.materializationQueued = true ∧
            { request with complete := true } ∈ (requesting.run (capture, requests)
              [.finishSessions,
                .collectResult { sessionId := request.id, success := true }]).2.entries) :=
  ⟨by decide +kernel, triggers_complete 1024 8192 1 (overlappingTriggers 2000)
    (by decide +kernel) (by decide +kernel)⟩

/-- Five seconds after each of them fit the budget, nine seconds do not. -/
theorem merged_triggers_lost :
    requesting.Along (Steady 1024 1) ({ capacity := 8192 }, {}) (overlappingTriggers 5000) ∧
      (requesting.run ({ capacity := 8192 }, {}) (overlappingTriggers 5000)).2.entries =
        [⟨1, 1023, 6143, false⟩, ⟨1, 5119, 10239, false⟩] ∧
      (requesting.run ({ capacity := 8192 }, {}) (overlappingTriggers 5000)).1.sessions.map
        (fun session => (session.summary.id, session.summary.state)) = [(1, .incomplete)] := by
  decide +kernel

end Serving

end Msap1.Waveform
