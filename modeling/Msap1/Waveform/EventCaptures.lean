import Msap1.Waveform.Capture

/-! How many captures a power-quality event gets. The association of the event with its sessions
is kept in an index that every call for the event maintains, and that is derived anew from the
markers of all sessions whenever sessions disappear or the archive is merged. -/

namespace Msap1.Waveform

/-- The session shows the event. -/
def Session.Marks (event : MncwfUuid) (session : Session) : Prop :=
  ∃ marker ∈ session.events, marker.descriptor.eventUuid = event

/-- The session shows the event as the index looks for it. -/
def Session.Files (event : MncwfUuid) (session : Session) : Prop :=
  ∃ marker ∈ session.events, marker.descriptor.eventUuid = event ∧
    marker.descriptor.triggerSource = WaveformTriggerSource.pqEvent.code

def MncwfEventLifecycle.isFinal (lifecycle : MncwfEventLifecycle) : Bool :=
  lifecycle = .ended || lifecycle = .abort || lifecycle = .complete

/-- The session shows the end of the event as the index looks for it. -/
def Session.FilesEnd (event : MncwfUuid) (session : Session) : Prop :=
  ∃ marker ∈ session.events, marker.descriptor.eventUuid = event ∧
    marker.descriptor.triggerSource = WaveformTriggerSource.pqEvent.code ∧
    marker.descriptor.lifecycle.isFinal = true

instance (event : MncwfUuid) (session : Session) : Decidable (session.Marks event) :=
  inferInstanceAs (Decidable (∃ marker ∈ session.events, marker.descriptor.eventUuid = event))

instance (event : MncwfUuid) (session : Session) : Decidable (session.Files event) :=
  inferInstanceAs (Decidable (∃ marker ∈ session.events, marker.descriptor.eventUuid = event ∧
    marker.descriptor.triggerSource = WaveformTriggerSource.pqEvent.code))

instance (event : MncwfUuid) (session : Session) : Decidable (session.FilesEnd event) :=
  inferInstanceAs (Decidable (∃ marker ∈ session.events, marker.descriptor.eventUuid = event ∧
    marker.descriptor.triggerSource = WaveformTriggerSource.pqEvent.code ∧
    marker.descriptor.lifecycle.isFinal = true))

/-- Some session shows the event. -/
def Carries (event : MncwfUuid) (sessions : List Session) : Prop :=
  ∃ session ∈ sessions, session.Marks event

instance (event : MncwfUuid) (sessions : List Session) : Decidable (Carries event sessions) :=
  inferInstanceAs (Decidable (∃ session ∈ sessions, session.Marks event))

/-- What one call of `track_power_quality_event` did. -/
structure Tracked where
  lifecycle : WaveformEventLifecycle
  /-- A session of the event was there. -/
  existing : Bool
  /-- The sessions that the call added. -/
  created : Nat
  /-- `association_created` of the answer, when there is one. -/
  flag : Option Bool
  deriving DecidableEq, Repr

def Tracked.ended (entry : Tracked) : Bool := entry.lifecycle.isTerminal && entry.flag.isSome

def Answer.flag : Answer → Option Bool
  | .summary given => some given.associationCreated
  | _ => none

/-- The calls for one event, as a history beside the state. -/
def noteTracked (event : MncwfUuid) (capture : WaveformCapture) (history : List Tracked)
    (call : Call) (answer : Answer) : List Tracked :=
  match call with
  | .track request _ _ =>
      if request.descriptor.eventUuid = event then
        history ++ [{
          lifecycle := request.lifecycle
          existing := decide (Carries event capture.sessions)
          created := (machine.next capture call).sessions.length - capture.sessions.length
          flag := answer.flag }]
      else history
  | _ => history

def tracking (event : MncwfUuid) : Machine (WaveformCapture × List Tracked) Call Answer :=
  machine.traced (noteTracked event)

/-- The sessions that remain, and from which the index is derived anew. -/
def WaveformCapture.rebuiltFrom (capture : WaveformCapture) : Call → Option (List Session)
  | .collectResult result =>
      if result.expiredSessionIds = [] then none
      else some (capture.sessions.filter (fun session =>
        !result.expiredSessionIds.contains session.summary.id))
  | .collectDiscovery => capture.discoveredSessions.map (fun restored =>
      (restored.foldl WaveformCapture.mergeSession capture.sessions).insertionSort
        (fun left right => left.summary.id ≤ right.summary.id))
  | .erase id removed => match (capture.erase id removed).2 with
      | .ok () => some (capture.sessions.filter (fun session => !decide (session.summary.id = id)))
      | .error _ => none
  | _ => none

/-- Sessions of the event are neither erased nor expired, and the random identifiers of manual
triggers are not the event's. -/
def Keeps (event : MncwfUuid) (state : WaveformCapture × List Tracked) : Call → Prop
  | .collectResult result => ∀ session ∈ state.1.sessions, session.Marks event →
      session.summary.id ∉ result.expiredSessionIds
  | .erase id _ => ∀ session ∈ state.1.sessions, session.Marks event → session.summary.id ≠ id
  | .trigger _ _ _ eventUuid => eventUuid ≠ event
  | _ => True

/-- The markers in the sessions tell what is known of the event: some marker of a session that
shows it names the power-quality source, and once it has ended, such a marker shows the end or
two sessions have one. -/
def Telling (event : MncwfUuid) (history : List Tracked) (sessions : List Session) : Prop :=
  (Carries event sessions → ∃ session ∈ sessions, session.Files event) ∧
    ((∃ entry ∈ history, entry.ended = true) →
      (∃ session ∈ sessions, session.FilesEnd event) ∨
        ∃ first ∈ sessions, ∃ second ∈ sessions, first.summary.id ≠ second.summary.id ∧
          first.Files event ∧ second.Files event)

/-- The index is only derived from markers that tell. -/
def Tells (event : MncwfUuid) (state : WaveformCapture × List Tracked) (call : Call) : Prop :=
  ∀ sessions, state.1.rebuiltFrom call = some sessions → Telling event state.2 sessions

instance (event : MncwfUuid) (state : WaveformCapture × List Tracked) :
    ∀ call, Decidable (Keeps event state call)
  | .collectResult result => inferInstanceAs (Decidable (∀ session ∈ state.1.sessions,
      session.Marks event → session.summary.id ∉ result.expiredSessionIds))
  | .erase id _ => inferInstanceAs (Decidable (∀ session ∈ state.1.sessions,
      session.Marks event → session.summary.id ≠ id))
  | .trigger _ _ _ eventUuid => inferInstanceAs (Decidable (eventUuid ≠ event))
  | .beginStreamEpoch _ => isTrue trivial
  | .acceptBlock _ _ => isTrue trivial
  | .track _ _ _ => isTrue trivial
  | .finishSessions => isTrue trivial
  | .beginDiscovery _ => isTrue trivial
  | .collectDiscovery => isTrue trivial
  | .stop => isTrue trivial

instance (event : MncwfUuid) (history : List Tracked) (sessions : List Session) :
    Decidable (Telling event history sessions) :=
  inferInstanceAs (Decidable (_ ∧ _))

instance (event : MncwfUuid) (state : WaveformCapture × List Tracked) (call : Call) :
    Decidable (Tells event state call) :=
  decidable_of_iff (∀ sessions ∈ state.1.rebuiltFrom call, Telling event state.2 sessions)
    (by simp only [Tells, Option.mem_def])

section Rebuild

variable {event : MncwfUuid}

/-- The marker counts for the event. -/
def Counts (event : MncwfUuid) (entry : Nat × EventDescriptor) : Prop :=
  entry.2.eventUuid = event ∧ entry.2.triggerSource = WaveformTriggerSource.pqEvent.code

/-- What the index says after the given markers. -/
def Noted (event : MncwfUuid) (entries : List (Nat × EventDescriptor)) :
    Option EventCaptureState → Prop
  | none => ∀ entry ∈ entries, ¬ Counts event entry
  | some state =>
      (∃ entry ∈ entries, Counts event entry ∧ entry.1 = state.onsetSessionId) ∧
      ((∃ entry ∈ entries, Counts event entry ∧ entry.1 = state.recoverySessionId) ∨
        state.recoverySessionId = 0 ∧
          ∀ entry ∈ entries, Counts event entry → entry.1 = state.onsetSessionId) ∧
      (∀ entry ∈ entries, Counts event entry → entry.2.lifecycle.isFinal = true →
        state.terminal = true)

theorem noted_uncounted {entries : List (Nat × EventDescriptor)} {entry : Nat × EventDescriptor}
    {state : Option EventCaptureState} (noted : Noted event entries state)
    (uncounted : ¬ Counts event entry) : Noted event (entries ++ [entry]) state := by
  cases state with
  | none =>
      intro other member counts
      rcases List.mem_append.mp member with old | new
      · exact noted other old counts
      · rw [List.mem_singleton.mp new] at counts
        exact uncounted counts
  | some state =>
      obtain ⟨⟨onset, onsetMember, onsetCounts⟩, recovery, terminal⟩ := noted
      have earlier : ∀ other ∈ entries ++ [entry], Counts event other → other ∈ entries := by
        intro other member counts
        rcases List.mem_append.mp member with old | new
        · exact old
        · rw [List.mem_singleton.mp new] at counts
          exact absurd counts uncounted
      refine ⟨⟨onset, List.mem_append_left _ onsetMember, onsetCounts⟩, ?_, ?_⟩
      · rcases recovery with ⟨second, secondMember, secondCounts⟩ | ⟨unset, alone⟩
        · exact .inl ⟨second, List.mem_append_left _ secondMember, secondCounts⟩
        · right
          constructor
          · exact unset
          · intro other member counts
            exact alone other (earlier other member counts) counts
      · intro other member counts final
        exact terminal other (earlier other member counts) counts final

def EventCaptureState.noting (state : EventCaptureState) (entry : Nat × EventDescriptor) :
    EventCaptureState where
  onsetSessionId := if state.onsetSessionId = 0 then entry.1 else state.onsetSessionId
  recoverySessionId := if state.onsetSessionId ≠ 0 ∧ state.onsetSessionId ≠ entry.1 ∧
    state.recoverySessionId = 0 then entry.1 else state.recoverySessionId
  terminal := state.terminal || entry.2.lifecycle = .ended || entry.2.lifecycle = .abort ||
    entry.2.lifecycle = .complete

theorem noteAssociation_counted {index : MncwfUuid → Option EventCaptureState}
    {entry : Nat × EventDescriptor} (known : event ≠ 0) (counts : Counts event entry) :
    noteAssociation index entry event = some (((index event).getD {}).noting entry) := by
  obtain ⟨same, source⟩ := counts
  subst same
  simp only [noteAssociation, source, ne_eq, not_true_eq_false, false_or, if_neg known,
    Function.update_self]
  rfl

theorem noteAssociation_uncounted {index : MncwfUuid → Option EventCaptureState}
    {entry : Nat × EventDescriptor} (uncounted : ¬ Counts event entry) :
    noteAssociation index entry event = index event := by
  simp only [noteAssociation]
  split
  case isTrue => rfl
  case isFalse relevant =>
      rw [not_or, not_not] at relevant
      rw [Function.update_of_ne]
      intro same
      exact uncounted ⟨same.symm, relevant.1⟩

theorem noting_final (state : EventCaptureState) {entry : Nat × EventDescriptor}
    (final : entry.2.lifecycle.isFinal = true) : (state.noting entry).terminal = true := by
  simp only [MncwfEventLifecycle.isFinal] at final
  simp only [EventCaptureState.noting, Bool.or_assoc] at final ⊢
  rw [final, Bool.or_true]

theorem noted_counted {entries : List (Nat × EventDescriptor)} {entry : Nat × EventDescriptor}
    {state : Option EventCaptureState} (noted : Noted event entries state)
    (counts : Counts event entry) :
    Noted event (entries ++ [entry]) (some ((state.getD {}).noting entry)) := by
  have last : entry ∈ entries ++ [entry] := List.mem_append_right _ List.mem_cons_self
  cases state with
  | none =>
      have only : ∀ other ∈ entries ++ [entry], Counts event other → other = entry := by
        intro other member counted
        rcases List.mem_append.mp member with old | new
        · exact absurd counted (noted other old)
        · exact List.mem_singleton.mp new
      refine ⟨⟨entry, last, counts, rfl⟩, .inr ⟨rfl, ?_⟩, ?_⟩
      · intro other member counted
        rw [only other member counted]
        rfl
      · intro other member counted final
        rw [only other member counted] at final
        exact noting_final _ final
  | some state =>
      obtain ⟨⟨onset, onsetMember, onsetCounts, onsetId⟩, recovery, terminal⟩ := noted
      have kept : onset ∈ entries ++ [entry] := List.mem_append_left _ onsetMember
      refine ⟨?_, ?_, ?_⟩
      · by_cases unset : state.onsetSessionId = 0
        · exact ⟨entry, last, counts, by simp [EventCaptureState.noting, unset]⟩
        · exact ⟨onset, kept, onsetCounts, by simp [EventCaptureState.noting, unset, onsetId]⟩
      · rcases recovery with ⟨second, secondMember, secondCounts, secondId⟩ | ⟨unset, alone⟩
        · left
          by_cases taken : state.onsetSessionId ≠ 0 ∧ state.onsetSessionId ≠ entry.1 ∧
              state.recoverySessionId = 0
          · exact ⟨entry, last, counts, by simp [EventCaptureState.noting, taken]⟩
          · refine ⟨second, List.mem_append_left _ secondMember, secondCounts, ?_⟩
            simp only [EventCaptureState.noting, Option.getD_some]
            rw [if_neg taken, secondId]
        · by_cases zero : state.onsetSessionId = 0
          · -- a session numbered zero is taken for no session at all
            left
            refine ⟨onset, kept, onsetCounts, ?_⟩
            simp [EventCaptureState.noting, zero, unset, onsetId]
          · by_cases same : state.onsetSessionId = entry.1
            · right
              constructor
              · simp [EventCaptureState.noting, same, unset]
              · intro other member counted
                have onsetKept : (state.noting entry).onsetSessionId = state.onsetSessionId := by
                  simp [EventCaptureState.noting, zero]
                rw [Option.getD_some, onsetKept]
                rcases List.mem_append.mp member with old | new
                · exact alone other old counted
                · rw [List.mem_singleton.mp new, same]
            · left
              exact ⟨entry, last, counts, by simp [EventCaptureState.noting, zero, same, unset]⟩
      · intro other member counted final
        rcases List.mem_append.mp member with old | new
        · simp [EventCaptureState.noting, terminal other old counted final]
        · rw [List.mem_singleton.mp new] at final
          exact noting_final _ final

theorem noted_run (known : event ≠ 0) (seen entries : List (Nat × EventDescriptor))
    (index : MncwfUuid → Option EventCaptureState) (noted : Noted event seen (index event)) :
    Noted event (seen ++ entries) (entries.foldl noteAssociation index event) := by
  induction entries generalizing seen index with
  | nil => simpa using noted
  | cons entry entries ih =>
      rw [List.append_cons, List.foldl_cons]
      apply ih
      by_cases counts : Counts event entry
      · rw [noteAssociation_counted known counts]
        exact noted_counted noted counts
      · rw [noteAssociation_uncounted counts]
        exact noted_uncounted noted counts

theorem rebuild_noted (known : event ≠ 0) (sessions : List Session) :
    Noted event (markers sessions) (rebuildEventCaptureIndex sessions event) := by
  simpa [rebuildEventCaptureIndex] using
    noted_run known [] (markers sessions) (fun _ => none) (by simp [Noted])

theorem markers_member {sessions : List Session} {entry : Nat × EventDescriptor} :
    entry ∈ markers sessions ↔ ∃ session ∈ sessions, ∃ marker ∈ session.events,
      entry = (session.summary.id, marker.descriptor) := by
  simp only [markers, List.mem_flatMap, List.mem_map]
  grind

end Rebuild

section Filing

variable {event : MncwfUuid}

def WaveformCapture.latestFor (capture : WaveformCapture) (state : EventCaptureState) :
    Option Session :=
  (capture.sessionFor state.recoverySessionId).or (capture.sessionFor state.onsetSessionId)

theorem sessionFor_isSome {capture : WaveformCapture} {id : Nat} :
    (capture.sessionFor id).isSome = true ↔
      ∃ session ∈ capture.sessions, session.summary.id = id := by
  simp [WaveformCapture.sessionFor, List.find?_isSome]

/-- The index knows what has happened to the event. -/
structure Filed (event : MncwfUuid) (capture : WaveformCapture) (history : List Tracked) :
    Prop where
  created : (∃ entry ∈ history, entry.created ≠ 0) → Carries event capture.sessions
  found : Carries event capture.sessions → ∃ state,
    capture.eventCaptureIndex event = some state ∧ (capture.latestFor state).isSome = true
  carried : ∀ state, capture.eventCaptureIndex event = some state →
    Carries event capture.sessions
  closed : (∃ entry ∈ history, entry.ended = true) → ∃ state,
    capture.eventCaptureIndex event = some state ∧
      (state.terminal = true ∨ (capture.sessionFor state.recoverySessionId).isSome = true)

/-- A step that is none of the event's. -/
structure Quiet (event : MncwfUuid) (before after : WaveformCapture) : Prop where
  index : after.eventCaptureIndex event = before.eventCaptureIndex event
  ids : ∀ session ∈ before.sessions,
    ∃ other ∈ after.sessions, other.summary.id = session.summary.id
  carries : Carries event after.sessions ↔ Carries event before.sessions

theorem quiet_sessionFor {before after : WaveformCapture}
    (ids : ∀ session ∈ before.sessions,
      ∃ other ∈ after.sessions, other.summary.id = session.summary.id) {id : Nat}
    (some : (before.sessionFor id).isSome = true) : (after.sessionFor id).isSome = true := by
  obtain ⟨session, member, same⟩ := sessionFor_isSome.mp some
  obtain ⟨other, present, equal⟩ := ids session member
  exact sessionFor_isSome.mpr ⟨other, present, equal.trans same⟩

theorem quiet_latestFor {before after : WaveformCapture}
    (ids : ∀ session ∈ before.sessions,
      ∃ other ∈ after.sessions, other.summary.id = session.summary.id)
    {state : EventCaptureState} (some : (before.latestFor state).isSome = true) :
    (after.latestFor state).isSome = true := by
  simp only [WaveformCapture.latestFor, Option.isSome_or, Bool.or_eq_true] at some ⊢
  exact some.imp (quiet_sessionFor ids) (quiet_sessionFor ids)

theorem filed_quiet {before after : WaveformCapture} {history : List Tracked}
    (filed : Filed event before history) (quiet : Quiet event before after) :
    Filed event after history where
  created := by
    intro some
    exact quiet.carries.mpr (filed.created some)
  found := by
    intro carries
    obtain ⟨state, known, latest⟩ := filed.found (quiet.carries.mp carries)
    exact ⟨state, quiet.index.trans known, quiet_latestFor quiet.ids latest⟩
  carried := by
    intro state known
    exact quiet.carries.mpr (filed.carried state (quiet.index.symm.trans known))
  closed := by
    intro ended
    obtain ⟨state, known, closed⟩ := filed.closed ended
    exact ⟨state, quiet.index.trans known, closed.imp id (quiet_sessionFor quiet.ids)⟩

theorem quiet_map {before after : WaveformCapture} (change : Session → Session)
    (index : after.eventCaptureIndex event = before.eventCaptureIndex event)
    (sessions : after.sessions = before.sessions.map change)
    (ids : ∀ session, (change session).summary.id = session.summary.id)
    (marks : ∀ session, (change session).Marks event ↔ session.Marks event) :
    Quiet event before after where
  index := index
  ids := by
    intro session member
    rw [sessions]
    exact ⟨change session, List.mem_map_of_mem member, ids session⟩
  carries := by
    simp only [Carries, sessions, List.mem_map, exists_exists_and_eq_and, marks]

theorem quiet_append {before after : WaveformCapture} {fresh : Session}
    (index : after.eventCaptureIndex event = before.eventCaptureIndex event)
    (sessions : after.sessions = before.sessions ++ [fresh])
    (unmarked : ¬ fresh.Marks event) : Quiet event before after where
  index := index
  ids := by
    intro session member
    rw [sessions]
    exact ⟨session, List.mem_append_left _ member, rfl⟩
  carries := by
    simp only [Carries, sessions, List.mem_append, List.mem_singleton, or_and_right, exists_or,
      exists_eq_left, unmarked, or_false]

theorem quiet_same {before after : WaveformCapture}
    (index : after.eventCaptureIndex = before.eventCaptureIndex)
    (sessions : after.sessions = before.sessions) : Quiet event before after :=
  quiet_map id (by rw [index]) (by rw [sessions, List.map_id]) (fun _ => rfl) (fun _ => Iff.rfl)

theorem filed_rebuilt {capture : WaveformCapture} {sessions : List Session}
    {history : List Tracked} (known : event ≠ 0) (filed : Filed event capture history)
    (kept : Carries event capture.sessions → Carries event sessions)
    (telling : Telling event history sessions) {after : WaveformCapture}
    (index : after.eventCaptureIndex = rebuildEventCaptureIndex sessions)
    (same : after.sessions = sessions) : Filed event after history := by
  have noted := rebuild_noted known sessions
  have counted : ∀ session ∈ sessions, session.Files event →
      ∃ entry ∈ markers sessions, Counts event entry ∧ entry.1 = session.summary.id := by
    intro session member files
    obtain ⟨marker, present, uuid, source⟩ := files
    exact ⟨_, markers_member.mpr ⟨session, member, marker, present, rfl⟩, ⟨uuid, source⟩, rfl⟩
  have numbered : ∀ entry ∈ markers sessions, (after.sessionFor entry.1).isSome = true := by
    intro entry member
    obtain ⟨session, present, marker, _, equal⟩ := markers_member.mp member
    rw [equal]
    exact sessionFor_isSome.mpr ⟨session, by rwa [same], rfl⟩
  have rebuilt : Carries event sessions → ∃ state, rebuildEventCaptureIndex sessions event =
      some state ∧ (after.latestFor state).isSome = true := by
    intro carries
    obtain ⟨session, member, files⟩ := telling.1 carries
    obtain ⟨entry, present, counts, _⟩ := counted session member files
    cases found : rebuildEventCaptureIndex sessions event with
    | none =>
        rw [found] at noted
        exact absurd counts (noted entry present)
    | some state =>
        rw [found] at noted
        obtain ⟨⟨onset, onsetMember, _, onsetId⟩, _⟩ := noted
        refine ⟨state, rfl, ?_⟩
        rw [WaveformCapture.latestFor, Option.isSome_or, ← onsetId, numbered onset onsetMember,
          Bool.or_true]
  refine ⟨?_, ?_, ?_, ?_⟩
  · intro created
    rw [same]
    exact kept (filed.created created)
  · intro carries
    rw [index]
    exact rebuilt (by rwa [same] at carries)
  · intro state filedState
    rw [index] at filedState
    rw [filedState] at noted
    obtain ⟨⟨entry, member, counts, _⟩, _⟩ := noted
    obtain ⟨session, present, marker, shown, equal⟩ := markers_member.mp member
    rw [same]
    refine ⟨session, present, marker, shown, ?_⟩
    have uuid := counts.1
    rwa [equal] at uuid
  · intro ended
    obtain ⟨before, beforeKnown, _⟩ := filed.closed ended
    obtain ⟨state, found, _⟩ := rebuilt (kept (filed.carried before beforeKnown))
    rw [found] at noted
    obtain ⟨_, recovery, terminal⟩ := noted
    refine ⟨state, by rw [index, found], ?_⟩
    rcases telling.2 ended with ⟨session, member, files⟩ | two
    · left
      obtain ⟨marker, present, uuid, source, final⟩ := files
      exact terminal (session.summary.id, marker.descriptor)
        (markers_member.mpr ⟨session, member, marker, present, rfl⟩) ⟨uuid, source⟩ final
    · right
      obtain ⟨first, firstMember, second, secondMember, distinct, firstFiles, secondFiles⟩ := two
      obtain ⟨firstEntry, firstPresent, firstCounts, firstId⟩ :=
        counted first firstMember firstFiles
      obtain ⟨secondEntry, secondPresent, secondCounts, secondId⟩ :=
        counted second secondMember secondFiles
      rcases recovery with ⟨entry, present, _, recoveryId⟩ | ⟨_, alone⟩
      · rw [← recoveryId]
        exact numbered entry present
      · have firstOnset := alone firstEntry firstPresent firstCounts
        have secondOnset := alone secondEntry secondPresent secondCounts
        omega

end Filing

section Marking

variable {event : MncwfUuid} {request : TrackRequest}

open WaveformCapture

theorem replaceFirst_marks (events : List SessionEvent) :
    (∃ marker ∈ updateMarker.replaceFirst request events, marker.descriptor.eventUuid = event) ↔
      ∃ marker ∈ events, marker.descriptor.eventUuid = event := by
  induction events with
  | nil => simp [updateMarker.replaceFirst]
  | cons first events ih =>
      rw [updateMarker.replaceFirst]
      split
      case isTrue same => simp [same]
      case isFalse => simp [ih]

theorem updateMarker_keeps {session : Session} (marks : session.Marks event) :
    (updateMarker request session).Marks event := by
  obtain ⟨marker, member, uuid⟩ := marks
  simp only [updateMarker]
  split
  · exact ⟨marker, member, uuid⟩
  · split
    · exact (replaceFirst_marks session.events).mpr ⟨marker, member, uuid⟩
    · exact ⟨marker, List.mem_append_left _ member, uuid⟩

theorem updateMarker_marks {session : Session} (other : request.descriptor.eventUuid ≠ event) :
    (updateMarker request session).Marks event ↔ session.Marks event := by
  constructor
  · intro marks
    simp only [updateMarker] at marks
    split at marks
    · exact marks
    · split at marks
      · exact (replaceFirst_marks session.events).mp marks
      · obtain ⟨marker, member, uuid⟩ := marks
        rcases List.mem_append.mp member with old | new
        · exact ⟨marker, old, uuid⟩
        · rw [List.mem_singleton.mp new] at uuid
          exact absurd uuid other
  · exact updateMarker_keeps

@[simp] theorem updateMarker_id (session : Session) :
    (updateMarker request session).summary.id = session.summary.id := by
  simp only [updateMarker]
  split
  · rfl
  · split <;> rfl

@[simp] theorem updateMarker_created (session : Session) :
    (updateMarker request session).summary.associationCreated =
      session.summary.associationCreated := by
  simp only [updateMarker]
  split
  · rfl
  · split <;> rfl

theorem quiet_update {before after : WaveformCapture} (id : Nat) (change : Session → Session)
    (index : after.eventCaptureIndex event = before.eventCaptureIndex event)
    (sessions : after.sessions = before.updateSession id change)
    (ids : ∀ session, (change session).summary.id = session.summary.id)
    (marks : ∀ session, (change session).Marks event ↔ session.Marks event) :
    Quiet event before after := by
  apply quiet_map (fun session => if session.summary.id = id then change session else session)
    index sessions
  · intro session
    split
    · exact ids session
    · rfl
  · intro session
    split
    · exact marks session
    · exact Iff.rfl

theorem quiet_refl (capture : WaveformCapture) : Quiet event capture capture :=
  quiet_same rfl rfl

theorem quiet_trans {first second third : WaveformCapture} (left : Quiet event first second)
    (right : Quiet event second third) : Quiet event first third where
  index := right.index.trans left.index
  ids := by
    intro session member
    obtain ⟨other, present, same⟩ := left.ids session member
    obtain ⟨final, found, equal⟩ := right.ids other present
    exact ⟨final, found, equal.trans same⟩
  carries := right.carries.trans left.carries

theorem abandonSession_same (session : Session) :
    (abandonSession session).summary.id = session.summary.id ∧
      (abandonSession session).events = session.events := by
  simp only [abandonSession]
  split
  · exact ⟨rfl, rfl⟩
  · exact ⟨rfl, rfl⟩

theorem marks_same {before after : Session} (events : after.events = before.events) :
    after.Marks event ↔ before.Marks event := by
  rw [Session.Marks, Session.Marks, events]

theorem quiet_abandon {before after : WaveformCapture}
    (index : after.eventCaptureIndex = before.eventCaptureIndex)
    (sessions : after.sessions = before.sessions.map abandonSession) : Quiet event before after :=
  quiet_map abandonSession (by rw [index]) sessions
    (fun session => (abandonSession_same session).1)
    (fun session => marks_same (abandonSession_same session).2)

theorem quiet_epoch (capture : WaveformCapture) (correlated : Option WaveformCorrelation) :
    Quiet event capture (capture.beginStreamEpoch.withCorrelation correlated) :=
  quiet_abandon rfl rfl

theorem quiet_block (capture : WaveformCapture) (block : WaveformBlock)
    (correlated : Option WaveformCorrelation) :
    Quiet event capture (capture.acceptBlock block correlated) := by
  have entered : Quiet event capture
      (capture.enterGeneration block.header.configurationGeneration correlated) := by
    simp only [enterGeneration]
    split
    · split
      · exact quiet_abandon rfl rfl
      · exact quiet_same rfl rfl
    · exact quiet_same rfl rfl
  simp only [acceptBlock]
  split
  · exact quiet_refl capture
  · split
    · exact entered
    · exact quiet_trans entered (quiet_same rfl rfl)

theorem finishSession_same (capture : WaveformCapture) (session : Session) :
    (capture.finishSession session).1.summary.id = session.summary.id ∧
      (capture.finishSession session).1.events = session.events := by
  simp only [finishSession]
  split
  · exact ⟨rfl, rfl⟩
  · split
    · exact ⟨rfl, rfl⟩
    · split
      · exact ⟨rfl, rfl⟩
      · exact ⟨rfl, rfl⟩

theorem quiet_finish (capture : WaveformCapture) :
    Quiet event capture capture.finishSessions.1 :=
  quiet_map (fun session => (capture.finishSession session).1) rfl rfl
    (fun session => (finishSession_same capture session).1)
    (fun session => marks_same (finishSession_same capture session).2)

theorem addTrigger_marks {session : Session} {marker : SessionEvent}
    {source : WaveformTriggerSource} (other : marker.descriptor.eventUuid ≠ event) :
    (addTrigger marker source session).Marks event ↔ session.Marks event := by
  simp only [Session.Marks, addTrigger, List.mem_append, List.mem_singleton, or_and_right,
    exists_or, exists_eq_left, other, or_false]

theorem quiet_trigger (capture : WaveformCapture) (given : TriggerRequest) (clocks : Clocks)
    (captureUuid eventUuid : MncwfUuid) (other : eventUuid ≠ event) :
    Quiet event capture (capture.trigger given clocks captureUuid eventUuid).1 := by
  have admitted : ∀ before : WaveformCapture,
      Quiet event before (before.admitTrigger given clocks captureUuid eventUuid).1 := by
    intro before
    have unmarked : ∀ marker : SessionEvent, marker.descriptor.eventUuid ≠ event →
        ¬ (addTrigger marker given.source (before.triggerSession given clocks
          captureUuid)).Marks event := by
      intro marker different
      rw [addTrigger_marks different]
      simp [Session.Marks, triggerSession]
    simp only [admitTrigger]
    split
    · exact quiet_append rfl rfl (unmarked _ other)
    · split
      · exact quiet_append rfl rfl (unmarked _ other)
      · refine quiet_update _ _ rfl rfl ?_ ?_
        · intro session
          rfl
        · intro session
          rw [addTrigger_marks other]
          exact Iff.rfl
  simp only [WaveformCapture.trigger]
  split
  · exact quiet_refl capture
  · split
    · exact quiet_same rfl rfl
    · refine quiet_trans ?_ (admitted _)
      exact quiet_same rfl rfl

end Marking

section Tracking

variable {event : MncwfUuid} {request : TrackRequest}

open WaveformCapture

/-- What a call for the event does to its sessions and to the index. -/
inductive TrackEffect (event : MncwfUuid) (lifecycle : WaveformEventLifecycle)
    (before after : WaveformCapture) : Except Failure WaveformSessionSummary → Prop where
  | failed (failure : Failure) (sessions : after.sessions = before.sessions)
      (index : after.eventCaptureIndex = before.eventCaptureIndex ∨ ∃ state,
        before.eventCaptureIndex event = some state ∧ before.latestFor state = none) :
      TrackEffect event lifecycle before after (.error failure)
  | opened (session : Session) (state : EventCaptureState) (summary : WaveformSessionSummary)
      (fresh : before.eventCaptureIndex event = none ∨ ∃ forgotten,
        before.eventCaptureIndex event = some forgotten ∧ before.latestFor forgotten = none)
      (sessions : after.sessions = before.sessions ++ [session]) (marks : session.Marks event)
      (index : after.eventCaptureIndex event = some state)
      (filed : state.recoverySessionId = session.summary.id ∨
        state.onsetSessionId = session.summary.id)
      (terminal : state.terminal = lifecycle.isTerminal)
      (flag : summary.associationCreated = true) :
      TrackEffect event lifecycle before after (.ok summary)
  | marked (state : EventCaptureState) (id : Nat) (change : Session → Session)
      (summary : WaveformSessionSummary)
      (known : before.eventCaptureIndex event = some state)
      (sessions : after.sessions = before.updateSession id change)
      (ids : ∀ session, (change session).summary.id = session.summary.id)
      (marks : ∀ session : Session, session.Marks event → (change session).Marks event)
      (index : after.eventCaptureIndex event = some state ∨
        after.eventCaptureIndex event = some { state with terminal := true })
      (terminal : lifecycle.isTerminal = true → state.terminal = true ∨
        (before.sessionFor state.recoverySessionId).isSome = true ∨
        after.eventCaptureIndex event = some { state with terminal := true })
      (flag : summary.associationCreated = false) :
      TrackEffect event lifecycle before after (.ok summary)
  | recovered (session : Session) (state : EventCaptureState) (summary : WaveformSessionSummary)
      (known : before.eventCaptureIndex event = some state)
      (ending : lifecycle.isTerminal = true) (running : state.terminal = false)
      (unrecovered : before.sessionFor state.recoverySessionId = none)
      (sessions : after.sessions = before.sessions ++ [session]) (marks : session.Marks event)
      (index : after.eventCaptureIndex event = some { state with
        recoverySessionId := session.summary.id, terminal := true })
      (flag : summary.associationCreated = true) :
      TrackEffect event lifecycle before after (.ok summary)

theorem eventSession_marks (capture : WaveformCapture) (clocks : Clocks) (captureUuid : MncwfUuid)
    (window : Nat × Nat) (own : request.descriptor.eventUuid = event) :
    (capture.eventSession request clocks captureUuid window).Marks event :=
  ⟨_, List.mem_cons_self, own⟩

theorem beginCapture_effect (before capture : WaveformCapture) (clocks : Clocks)
    (captureUuid : MncwfUuid) (own : request.descriptor.eventUuid = event)
    (sessions : capture.sessions = before.sessions)
    (index : (before.eventCaptureIndex event = none ∧
        capture.eventCaptureIndex = before.eventCaptureIndex) ∨ ∃ state,
      before.eventCaptureIndex event = some state ∧ before.latestFor state = none) :
    TrackEffect event request.lifecycle before (capture.beginCapture request clocks captureUuid).1
      (capture.beginCapture request clocks captureUuid).2 := by
  subst own
  cases window : capture.boundedWindow request request.anchor with
  | error failure =>
      simp only [beginCapture, window]
      exact .failed failure sessions (index.imp And.right id)
  | ok window' =>
      simp only [beginCapture, window, createFor]
      refine .opened (capture.eventSession request clocks captureUuid window') _ _
        (index.imp And.left id) (by rw [sessions])
        (eventSession_marks capture clocks captureUuid window' rfl)
        (Function.update_self ..) ?_ rfl rfl
      by_cases start : request.lifecycle = .start
      · right
        simp [start]
      · left
        simp [start]

theorem closeCapture_effect (capture : WaveformCapture) (clocks : Clocks)
    (captureUuid : MncwfUuid) (own : request.descriptor.eventUuid = event)
    {state : EventCaptureState} (onset : Option Session)
    (known : capture.eventCaptureIndex event = some state)
    (ending : request.lifecycle.isTerminal = true) (running : state.terminal = false)
    (unrecovered : capture.sessionFor state.recoverySessionId = none) :
    TrackEffect event request.lifecycle capture
      (capture.closeCapture request clocks captureUuid state onset).1
      (capture.closeCapture request clocks captureUuid state onset).2 := by
  subst own
  cases window : capture.boundedWindow request request.currentSequence with
  | error failure =>
      simp only [closeCapture, window]
      exact .failed failure rfl (.inl rfl)
  | ok window' =>
      have separate : TrackEffect request.descriptor.eventUuid request.lifecycle capture
          (capture.createFor request clocks captureUuid window' (fun id =>
            { state with recoverySessionId := id, terminal := true })).1
          (.ok (capture.createFor request clocks captureUuid window' (fun id =>
            { state with recoverySessionId := id, terminal := true })).2) :=
        .recovered (capture.eventSession request clocks captureUuid window') state _ known ending
          running unrecovered rfl (eventSession_marks capture clocks captureUuid window' rfl)
          (Function.update_self ..) rfl
      simp only [closeCapture, window]
      cases onset with
      | none => exact separate
      | some onset =>
          simp only []
          split
          · refine .marked state onset.summary.id _ _ known rfl ?_ ?_ ?_ ?_ rfl
            · intro session
              rw [updateMarker_id]
              rfl
            · intro session marks
              exact updateMarker_keeps marks
            · right
              exact Function.update_self ..
            · intro _
              right
              right
              exact Function.update_self ..
          · exact separate

theorem trackSessions_effect (capture : WaveformCapture) (clocks : Clocks)
    (captureUuid : MncwfUuid) (own : request.descriptor.eventUuid = event) :
    TrackEffect event request.lifecycle capture
      (capture.trackSessions request clocks captureUuid).1
      (capture.trackSessions request clocks captureUuid).2 := by
  simp only [trackSessions, own]
  cases known : capture.eventCaptureIndex event with
  | none => exact beginCapture_effect capture capture clocks captureUuid own rfl (.inl ⟨known, rfl⟩)
  | some state =>
      simp only []
      cases latest : (capture.sessionFor state.recoverySessionId).or
          (capture.sessionFor state.onsetSessionId) with
      | none =>
          exact beginCapture_effect capture _ clocks captureUuid own rfl
            (.inr ⟨state, known, latest⟩)
      | some session =>
          simp only []
          split
          case isTrue settled =>
              refine .marked state session.summary.id (updateMarker request) _ known rfl
                updateMarker_id (fun _ => updateMarker_keeps) (.inl known) ?_ rfl
              intro ending
              have closed : state.terminal = true ∨
                  (capture.sessionFor state.recoverySessionId).isSome = true := by
                simpa [ending] using settled
              exact closed.imp id Or.inl
          case isFalse open' =>
              simp only [not_or, Bool.not_eq_false, Bool.not_eq_true, Option.isSome_eq_false_iff,
                Option.isNone_iff_eq_none] at open'
              exact closeCapture_effect capture clocks captureUuid own _ known open'.1 open'.2.1
                open'.2.2

theorem effect_congr {lifecycle : WaveformEventLifecycle} {before other after : WaveformCapture}
    {result : Except Failure WaveformSessionSummary} (same : other.sessions = before.sessions)
    (sameIndex : other.eventCaptureIndex = before.eventCaptureIndex)
    (effect : TrackEffect event lifecycle before after result) :
    TrackEffect event lifecycle other after result := by
  have search : other.sessionFor = before.sessionFor := by
    funext id
    simp only [sessionFor, same]
  have latest : other.latestFor = before.latestFor := by
    funext state
    simp only [latestFor, search]
  cases effect with
  | failed failure sessions index =>
      rw [← same] at sessions
      rw [← sameIndex, ← latest] at index
      exact .failed failure sessions index
  | opened session state summary fresh sessions marks index filed terminal flag =>
      rw [← same] at sessions
      rw [← sameIndex, ← latest] at fresh
      exact .opened session state summary fresh sessions marks index filed terminal flag
  | marked state id change summary known sessions ids marks index terminal flag =>
      rw [updateSession, ← same] at sessions
      rw [← sameIndex] at known
      rw [← search] at terminal
      exact .marked state id change summary known sessions ids marks index terminal flag
  | recovered session state summary known ending running unrecovered sessions marks index flag =>
      rw [← same] at sessions
      rw [← sameIndex] at known
      rw [← search] at unrecovered
      exact .recovered session state summary known ending running unrecovered sessions marks index
        flag

theorem track_effect (capture : WaveformCapture) (clocks : Clocks) (captureUuid : MncwfUuid)
    (own : request.descriptor.eventUuid = event) :
    TrackEffect event request.lifecycle capture
      (capture.trackPowerQualityEvent request clocks captureUuid).1
      (capture.trackPowerQualityEvent request clocks captureUuid).2 := by
  simp only [trackPowerQualityEvent]
  split
  case h_1 failure _ => exact .failed failure rfl (.inl rfl)
  case h_2 =>
      split
      case h_1 failure _ => exact .failed failure rfl (.inl rfl)
      case h_2 utc _ =>
          refine effect_congr ?_ ?_ (trackSessions_effect _ clocks captureUuid own)
          · rfl
          · rfl

end Tracking

section Calls

variable {event : MncwfUuid} {capture : WaveformCapture} {history : List Tracked}

open WaveformCapture

/-- Few calls for one event create a session, and none of them after its end. -/
structure Bounded (history : List Tracked) : Prop where
  few : (history.map Tracked.created).sum ≤ 2
  open' : (∀ entry ∈ history, entry.ended = false) → (history.map Tracked.created).sum ≤ 1
  flagged : ∀ entry ∈ history, entry.flag = some true ↔ entry.created ≠ 0
  updates : ∀ entry ∈ history, entry.existing = true → entry.lifecycle = .update →
    entry.created = 0
  ended : history.Pairwise (fun earlier later => earlier.ended = true → later.created = 0)

theorem createdSum_zero (none : ¬ ∃ entry ∈ history, entry.created ≠ 0) :
    (history.map Tracked.created).sum = 0 := by
  rw [List.sum_eq_zero_iff]
  intro count member
  obtain ⟨entry, present, same⟩ := List.mem_map.mp member
  by_contra some
  exact none ⟨entry, present, by rwa [same]⟩

theorem bounded_append {entry : Tracked} (bounded : Bounded history)
    (flagged : entry.flag = some true ↔ entry.created ≠ 0)
    (updates : entry.existing = true → entry.lifecycle = .update → entry.created = 0)
    (fresh : entry.created ≠ 0 → entry.created = 1 ∧ (∀ earlier ∈ history, earlier.ended = false) ∧
      ((¬ ∃ earlier ∈ history, earlier.created ≠ 0) ∨ entry.ended = true)) :
    Bounded (history ++ [entry]) where
  few := by
    rw [List.map_append, List.sum_append, List.map_singleton, List.sum_singleton]
    by_cases created : entry.created = 0
    · rw [created]
      exact bounded.few
    · obtain ⟨one, unended, _⟩ := fresh created
      have first := bounded.open' unended
      omega
  open' := by
    intro unended
    have before : ∀ earlier ∈ history, earlier.ended = false := by
      intro earlier member
      exact unended earlier (List.mem_append_left _ member)
    have now := unended entry (List.mem_append_right _ List.mem_cons_self)
    rw [List.map_append, List.sum_append, List.map_singleton, List.sum_singleton]
    by_cases created : entry.created = 0
    · rw [created]
      exact bounded.open' before
    · obtain ⟨one, _, none | closing⟩ := fresh created
      · rw [createdSum_zero none, one]
      · rw [now] at closing
        exact absurd closing (by decide)
  flagged := by
    intro other member
    rcases List.mem_append.mp member with old | new
    · exact bounded.flagged other old
    · rw [List.mem_singleton.mp new]
      exact flagged
  updates := by
    intro other member
    rcases List.mem_append.mp member with old | new
    · exact bounded.updates other old
    · rw [List.mem_singleton.mp new]
      exact updates
  ended := by
    rw [List.pairwise_append]
    refine ⟨bounded.ended, List.pairwise_singleton _ _, ?_⟩
    intro earlier member later new ended
    rw [List.mem_singleton.mp new]
    by_contra created
    rw [(fresh created).2.1 earlier member] at ended
    exact absurd ended (by decide)

def trackedEntry (event : MncwfUuid) (lifecycle : WaveformEventLifecycle)
    (before after : WaveformCapture) (result : Except Failure WaveformSessionSummary) :
    Tracked where
  lifecycle
  existing := decide (Carries event before.sessions)
  created := after.sessions.length - before.sessions.length
  flag := (answered result).flag

theorem filed_fresh (filed : Filed event capture history)
    (fresh : capture.eventCaptureIndex event = none ∨ ∃ state,
      capture.eventCaptureIndex event = some state ∧ capture.latestFor state = none) :
    ¬ Carries event capture.sessions ∧ (∀ entry ∈ history, entry.ended = false) := by
  have uncarried : ¬ Carries event capture.sessions := by
    intro carries
    obtain ⟨state, known, latest⟩ := filed.found carries
    rcases fresh with absent | ⟨other, otherKnown, lost⟩
    · rw [absent] at known
      exact absurd known (by simp)
    · rw [known, Option.some_inj] at otherKnown
      rw [otherKnown, lost] at latest
      exact absurd latest (by decide)
  constructor
  · exact uncarried
  · intro entry member
    by_contra ended
    rw [Bool.not_eq_false] at ended
    obtain ⟨state, known, _⟩ := filed.closed ⟨entry, member, ended⟩
    exact uncarried (filed.carried state known)

theorem filed_unended (filed : Filed event capture history) {state : EventCaptureState}
    (known : capture.eventCaptureIndex event = some state) (running : state.terminal = false)
    (unrecovered : capture.sessionFor state.recoverySessionId = none) :
    ∀ entry ∈ history, entry.ended = false := by
  intro entry member
  by_contra ended
  rw [Bool.not_eq_false] at ended
  obtain ⟨other, otherKnown, closed⟩ := filed.closed ⟨entry, member, ended⟩
  rw [known, Option.some_inj] at otherKnown
  rw [← otherKnown, running, unrecovered] at closed
  simp at closed

variable {lifecycle : WaveformEventLifecycle} {after : WaveformCapture}
  {result : Except Failure WaveformSessionSummary}

theorem bounded_track (filed : Filed event capture history) (bounded : Bounded history)
    (effect : TrackEffect event lifecycle capture after result) :
    Bounded (history ++ [trackedEntry event lifecycle capture after result]) := by
  apply bounded_append bounded
  · cases effect with
    | failed failure sessions => simp [trackedEntry, answered, Answer.flag, sessions]
    | opened session state summary fresh sessions marks index filed terminal flag =>
        simp [trackedEntry, answered, Answer.flag, sessions, flag]
    | marked state id change summary known sessions ids marks index terminal flag =>
        simp [trackedEntry, answered, Answer.flag, sessions, flag, updateSession]
    | recovered session state summary known ending running unrecovered sessions marks index flag =>
        simp [trackedEntry, answered, Answer.flag, sessions, flag]
  · intro existing update
    simp only [trackedEntry, decide_eq_true_eq] at existing update
    cases effect with
    | failed failure sessions => simp [trackedEntry, sessions]
    | opened session state summary fresh => exact absurd existing (filed_fresh filed fresh).1
    | marked state id change summary known sessions => simp [trackedEntry, sessions, updateSession]
    | recovered session state summary known ending =>
        rw [update] at ending
        exact absurd ending (by decide)
  · intro created
    cases effect with
    | failed failure sessions => simp [trackedEntry, sessions] at created
    | opened session state summary fresh sessions marks index _ terminal flag =>
        obtain ⟨uncarried, unended⟩ := filed_fresh filed fresh
        refine ⟨by simp [trackedEntry, sessions], unended, .inl ?_⟩
        intro earlier
        exact uncarried (filed.created earlier)
    | marked state id change summary known sessions =>
        simp [trackedEntry, sessions, updateSession] at created
    | recovered session state summary known ending running unrecovered sessions marks index flag =>
        refine ⟨by simp [trackedEntry, sessions], filed_unended filed known running unrecovered,
          .inr ?_⟩
        simp [Tracked.ended, trackedEntry, ending, answered, Answer.flag]

theorem filed_append {entry : Tracked} (filed : Filed event capture history)
    (created : entry.created ≠ 0 → Carries event capture.sessions)
    (ended : entry.ended = true → ∃ state, capture.eventCaptureIndex event = some state ∧
      (state.terminal = true ∨ (capture.sessionFor state.recoverySessionId).isSome = true)) :
    Filed event capture (history ++ [entry]) where
  created := by
    rintro ⟨other, member, some⟩
    rcases List.mem_append.mp member with old | new
    · exact filed.created ⟨other, old, some⟩
    · rw [List.mem_singleton.mp new] at some
      exact created some
  found := filed.found
  carried := filed.carried
  closed := by
    rintro ⟨other, member, closing⟩
    rcases List.mem_append.mp member with old | new
    · exact filed.closed ⟨other, old, closing⟩
    · rw [List.mem_singleton.mp new] at closing
      exact ended closing

theorem appended_sessionFor {session : Session} (sessions : after.sessions = capture.sessions ++
    [session]) {id : Nat} (same : id = session.summary.id) :
    (after.sessionFor id).isSome = true := by
  rw [sessionFor_isSome, sessions]
  exact ⟨session, List.mem_append_right _ List.mem_cons_self, same.symm⟩

theorem filed_track (filed : Filed event capture history)
    (effect : TrackEffect event lifecycle capture after result) :
    Filed event after (history ++ [trackedEntry event lifecycle capture after result]) := by
  cases effect with
  | failed failure sessions index =>
      have kept : Filed event after history := by
        rcases index with same | ⟨state, known, lost⟩
        · exact filed_quiet filed (quiet_same same sessions)
        · exact absurd (filed.carried state known)
            (filed_fresh filed (.inr ⟨state, known, lost⟩)).1
      apply filed_append kept
      · simp [trackedEntry, sessions]
      · simp [Tracked.ended, trackedEntry, answered, Answer.flag]
  | opened session state summary fresh sessions marks index placed terminal flag =>
      have carries : Carries event after.sessions := by
        rw [sessions]
        exact ⟨session, List.mem_append_right _ List.mem_cons_self, marks⟩
      have latest : (after.latestFor state).isSome = true := by
        rw [latestFor, Option.isSome_or, Bool.or_eq_true]
        exact placed.imp (appended_sessionFor sessions) (appended_sessionFor sessions)
      have kept : Filed event after history := by
        refine ⟨fun _ => carries, fun _ => ⟨state, index, latest⟩, fun _ _ => carries, ?_⟩
        rintro ⟨entry, member, ended⟩
        rw [(filed_fresh filed fresh).2 entry member] at ended
        exact absurd ended (by decide)
      apply filed_append kept (fun _ => carries)
      intro ended
      have ending : lifecycle.isTerminal = true := by
        simp only [Tracked.ended, trackedEntry, Bool.and_eq_true] at ended
        exact ended.1
      exact ⟨state, index, .inl (terminal.trans ending)⟩
  | marked state id change summary known sessions ids marks index terminal flag =>
      have numbered : ∀ session ∈ capture.sessions,
          ∃ other ∈ after.sessions, other.summary.id = session.summary.id := by
        intro session member
        rw [sessions]
        refine ⟨_, List.mem_map_of_mem member, ?_⟩
        split
        · exact ids session
        · rfl
      have carries : Carries event after.sessions := by
        obtain ⟨session, member, shown⟩ := filed.carried state known
        rw [sessions]
        refine ⟨_, List.mem_map_of_mem member, ?_⟩
        split
        · exact marks session shown
        · exact shown
      obtain ⟨next, nextKnown, sameOnset, sameRecovery, stronger⟩ : ∃ next,
          after.eventCaptureIndex event = some next ∧
          next.onsetSessionId = state.onsetSessionId ∧
          next.recoverySessionId = state.recoverySessionId ∧
          (state.terminal = true → next.terminal = true) := by
        rcases index with same | raised
        · exact ⟨state, same, rfl, rfl, fun closed => closed⟩
        · exact ⟨_, raised, rfl, rfl, fun _ => rfl⟩
      have kept : Filed event after history := by
        refine ⟨fun _ => carries, ?_, fun _ _ => carries, ?_⟩
        · intro _
          obtain ⟨other, otherKnown, latest⟩ := filed.found (filed.carried state known)
          rw [known, Option.some_inj] at otherKnown
          rw [← otherKnown] at latest
          refine ⟨next, nextKnown, ?_⟩
          rw [latestFor, sameOnset, sameRecovery]
          exact quiet_latestFor numbered latest
        · intro ended
          obtain ⟨other, otherKnown, closed⟩ := filed.closed ended
          rw [known, Option.some_inj] at otherKnown
          rw [← otherKnown] at closed
          refine ⟨next, nextKnown, closed.imp stronger ?_⟩
          rw [sameRecovery]
          exact quiet_sessionFor numbered
      apply filed_append kept (fun _ => carries)
      intro ended
      have ending : lifecycle.isTerminal = true := by
        simp only [Tracked.ended, trackedEntry, Bool.and_eq_true] at ended
        exact ended.1
      refine ⟨next, nextKnown, ?_⟩
      rcases terminal ending with closed | recovered | raised
      · exact .inl (stronger closed)
      · right
        rw [sameRecovery]
        exact quiet_sessionFor numbered recovered
      · rw [nextKnown, Option.some_inj] at raised
        rw [raised]
        exact .inl rfl
  | recovered session state summary known ending running unrecovered sessions marks index flag =>
      have carries : Carries event after.sessions := by
        rw [sessions]
        exact ⟨session, List.mem_append_right _ List.mem_cons_self, marks⟩
      have kept : Filed event after history := by
        refine ⟨fun _ => carries, fun _ => ⟨_, index, ?_⟩, fun _ _ => carries,
          fun _ => ⟨_, index, .inl rfl⟩⟩
        rw [latestFor, Option.isSome_or, appended_sessionFor sessions rfl, Bool.true_or]
      exact filed_append kept (fun _ => carries) (fun _ => ⟨_, index, .inl rfl⟩)

end Calls

section OtherEvents

variable {event : MncwfUuid} {request : TrackRequest} (clocks : Clocks) (captureUuid : MncwfUuid)

open WaveformCapture

theorem quiet_create (capture : WaveformCapture) (window : Nat × Nat)
    (state : Nat → EventCaptureState) (other : event ≠ request.descriptor.eventUuid) :
    Quiet event capture (capture.createFor request clocks captureUuid window state).1 := by
  refine quiet_append (Function.update_of_ne other _ _) rfl ?_
  simp [Session.Marks, eventSession, Ne.symm other]

theorem quiet_begin (capture : WaveformCapture) (other : event ≠ request.descriptor.eventUuid) :
    Quiet event capture (capture.beginCapture request clocks captureUuid).1 := by
  simp only [beginCapture]
  split
  · exact quiet_refl capture
  · dsimp only
    exact quiet_create clocks captureUuid capture _ _ other

theorem quiet_close (capture : WaveformCapture) (state : EventCaptureState)
    (onset : Option Session) (other : event ≠ request.descriptor.eventUuid) :
    Quiet event capture (capture.closeCapture request clocks captureUuid state onset).1 := by
  simp only [closeCapture]
  split
  · exact quiet_refl capture
  · split
    · dsimp only
      exact quiet_create clocks captureUuid capture _ _ other
    · split
      · refine quiet_update _ _ (Function.update_of_ne other _ _) rfl ?_ ?_
        · intro session
          rw [updateMarker_id]
          rfl
        · intro session
          rw [updateMarker_marks other.symm]
          exact Iff.rfl
      · dsimp only
        exact quiet_create clocks captureUuid capture _ _ other

theorem quiet_trackSessions (capture : WaveformCapture)
    (other : event ≠ request.descriptor.eventUuid) :
    Quiet event capture (capture.trackSessions request clocks captureUuid).1 := by
  simp only [trackSessions]
  split
  · exact quiet_begin clocks captureUuid capture other
  · split
    · refine quiet_trans ?_ (quiet_begin clocks captureUuid _ other)
      exact quiet_map id (Function.update_of_ne other _ _) (List.map_id _).symm (fun _ => rfl)
        (fun _ => Iff.rfl)
    · split
      · exact quiet_update _ (updateMarker request) rfl rfl updateMarker_id
          (fun _ => updateMarker_marks other.symm)
      · exact quiet_close clocks captureUuid capture _ _ other

theorem quiet_track (capture : WaveformCapture) (other : event ≠ request.descriptor.eventUuid) :
    Quiet event capture (capture.trackPowerQualityEvent request clocks captureUuid).1 := by
  simp only [trackPowerQualityEvent]
  split
  · exact quiet_refl capture
  · split
    · exact quiet_same rfl rfl
    · refine quiet_trans ?_ (quiet_trackSessions clocks captureUuid _ other)
      exact quiet_same rfl rfl

end OtherEvents

section Runs

variable {event : MncwfUuid} {capture : WaveformCapture} {history : List Tracked}

open WaveformCapture

theorem mergeSession_keeps {sessions : List Session} (restored session : Session)
    (member : session ∈ sessions) : session ∈ mergeSession sessions restored := by
  simp only [mergeSession]
  split
  · exact member
  · exact List.mem_append_left _ member

theorem merged_keeps (restored : List Session) {sessions : List Session} {session : Session}
    (member : session ∈ sessions) : session ∈ restored.foldl mergeSession sessions := by
  induction restored generalizing sessions with
  | nil => exact member
  | cons first restored ih => exact ih (mergeSession_keeps first session member)

theorem filed_removed {removed : Nat → Bool} (known : event ≠ 0)
    (filed : Filed event capture history)
    (kept : ∀ session ∈ capture.sessions, session.Marks event → removed session.summary.id = false)
    (telling : Telling event history
      (capture.sessions.filter (fun session => !removed session.summary.id))) :
    Filed event (capture.removeSessions removed) history := by
  refine filed_rebuilt known filed ?_ telling rfl rfl
  rintro ⟨session, member, marks⟩
  refine ⟨session, List.mem_filter.mpr ⟨member, ?_⟩, marks⟩
  rw [kept session member marks]
  rfl

theorem filed_collectResult (known : event ≠ 0) (result : WriterResult)
    (filed : Filed event capture history)
    (kept : Keeps event (capture, history) (.collectResult result))
    (tells : Tells event (capture, history) (.collectResult result)) :
    Filed event (capture.collectResult result) history := by
  have written : ∀ before : WaveformCapture, Filed event before history →
      Filed event (if result.sessionId = 0 then before else { before with
        sessions := before.updateSession result.sessionId (writtenSession result.success) })
        history := by
    intro before same
    split
    · exact same
    · apply filed_quiet same
      exact quiet_update _ (writtenSession result.success) rfl rfl (fun _ => rfl)
        (fun _ => Iff.rfl)
  simp only [collectResult]
  apply written
  split
  case isTrue => exact filed
  case isFalse expired =>
      apply filed_removed known filed
      · intro session member marks
        rw [List.contains_eq_mem, decide_eq_false (kept session member marks)]
      · exact tells _ (by simp [rebuiltFrom, expired])

theorem filed_collectDiscovery (known : event ≠ 0) (filed : Filed event capture history)
    (tells : Tells event (capture, history) .collectDiscovery) :
    Filed event capture.collectDiscovery history := by
  simp only [collectDiscovery]
  split
  case h_1 => exact filed
  case h_2 restored found =>
      refine filed_rebuilt known filed ?_ (tells _ (by simp [rebuiltFrom, found])) rfl rfl
      rintro ⟨session, member, marks⟩
      exact ⟨session, (List.mem_insertionSort _).mpr (merged_keeps restored member), marks⟩

theorem filed_erase (known : event ≠ 0) (id : Nat) (removed : Except Failure Unit)
    (filed : Filed event capture history)
    (kept : Keeps event (capture, history) (.erase id removed))
    (tells : Tells event (capture, history) (.erase id removed)) :
    Filed event (capture.erase id removed).1 history := by
  cases outcome : capture.erase id removed with
  | mk after result =>
      simp only [erase] at outcome
      split at outcome
      · cases outcome
        exact filed
      case h_2 session found =>
          split at outcome
          · cases outcome
            exact filed
          · split at outcome
            · cases outcome
              exact filed
            case h_2 settled _ =>
                cases outcome
                dsimp only
                apply filed_removed known filed
                · intro session member marks
                  exact decide_eq_false (kept session member marks)
                · apply tells
                  simp only [rebuiltFrom, erase, found, if_neg settled]

theorem noteTracked_quiet {call : Call} (answer : Answer)
    (other : ∀ request clocks captureUuid, call = .track request clocks captureUuid →
      event ≠ request.descriptor.eventUuid) :
    noteTracked event capture history call answer = history := by
  cases call with
  | track request clocks captureUuid =>
      simp only [noteTracked]
      rw [if_neg (Ne.symm (other request clocks captureUuid rfl))]
  | _ => rfl

theorem noteTracked_own {request : TrackRequest} (clocks : Clocks) (captureUuid : MncwfUuid)
    (own : request.descriptor.eventUuid = event) :
    noteTracked event capture history (.track request clocks captureUuid)
        (machine.answer capture (.track request clocks captureUuid)) =
      history ++ [trackedEntry event request.lifecycle capture
        (capture.trackPowerQualityEvent request clocks captureUuid).1
        (capture.trackPowerQualityEvent request clocks captureUuid).2] := by
  simp only [noteTracked, if_pos own]
  rfl

theorem step_filed (known : event ≠ 0) (call : Call) (keeps : Keeps event (capture, history) call)
    (tells : Tells event (capture, history) call) (filed : Filed event capture history)
    (bounded : Bounded history) :
    Filed event (machine.next capture call)
        (noteTracked event capture history call (machine.answer capture call)) ∧
      Bounded (noteTracked event capture history call (machine.answer capture call)) := by
  cases call with
  | track request clocks captureUuid =>
      by_cases own : request.descriptor.eventUuid = event
      · rw [noteTracked_own clocks captureUuid own]
        have effect := track_effect capture clocks captureUuid own
        exact ⟨filed_track filed effect, bounded_track filed bounded effect⟩
      · rw [noteTracked_quiet]
        · exact ⟨filed_quiet filed (quiet_track clocks captureUuid capture (Ne.symm own)), bounded⟩
        · rintro _ _ _ ⟨⟩
          exact Ne.symm own
  | beginStreamEpoch correlated =>
      exact ⟨filed_quiet filed (quiet_epoch capture correlated), bounded⟩
  | acceptBlock block correlated =>
      exact ⟨filed_quiet filed (quiet_block capture block correlated), bounded⟩
  | trigger request clocks captureUuid eventUuid =>
      exact ⟨filed_quiet filed
        (quiet_trigger capture request clocks captureUuid eventUuid keeps), bounded⟩
  | finishSessions => exact ⟨filed_quiet filed (quiet_finish capture), bounded⟩
  | collectResult result => exact ⟨filed_collectResult known result filed keeps tells, bounded⟩
  | beginDiscovery archived =>
      refine ⟨filed_quiet filed ?_, bounded⟩
      simp only [machine, Machine.next, beginDiscovery]
      split
      · exact quiet_refl capture
      · exact quiet_same rfl rfl
  | collectDiscovery => exact ⟨filed_collectDiscovery known filed tells, bounded⟩
  | erase id removed =>
      refine ⟨?_, bounded⟩
      have erased := filed_erase known id removed filed keeps tells
      simp only [machine, Machine.next]
      split
      case h_1 after outcome => rwa [outcome] at erased
      case h_2 after failure outcome => rwa [outcome] at erased
  | stop => exact ⟨filed_quiet filed (quiet_abandon rfl rfl), bounded⟩

theorem run_filed (known : event ≠ 0) (calls : List Call)
    (keeps : (tracking event).Along (Keeps event) (capture, history) calls)
    (tells : (tracking event).Along (Tells event) (capture, history) calls)
    (filed : Filed event capture history) (bounded : Bounded history) :
    Bounded ((tracking event).run (capture, history) calls).2 := by
  have both := (tracking event).along_invariant
    (fun state call => Keeps event state call ∧ Tells event state call)
    (fun state => Filed event state.1 state.2 ∧ Bounded state.2)
    (fun state call allowed holds => step_filed known call allowed.1 allowed.2 holds.1 holds.2)
    (capture, history) ⟨filed, bounded⟩ calls ((tracking event).along_and keeps tells)
  exact both.2

theorem untracked_zero (call : Call) (refused : ∀ entry ∈ history, entry.created = 0 ∧
      entry.flag = none) :
    ∀ entry ∈ noteTracked 0 capture history call (machine.answer capture call),
      entry.created = 0 ∧ entry.flag = none := by
  cases call with
  | track request clocks captureUuid =>
      by_cases own : request.descriptor.eventUuid = 0
      · rw [noteTracked_own clocks captureUuid own]
        obtain ⟨failure, failed⟩ : ∃ failure, capture.checkTrack request = .error failure := by
          simp only [checkTrack, own, eq_self, if_true]
          repeat' split
          all_goals exact ⟨_, rfl⟩
        intro entry member
        rcases List.mem_append.mp member with old | new
        · exact refused entry old
        · rw [List.mem_singleton.mp new]
          simp [trackedEntry, trackPowerQualityEvent, failed, answered, Answer.flag]
      · rw [noteTracked_quiet]
        · exact refused
        · rintro _ _ _ ⟨⟩
          exact Ne.symm own
  | _ => exact refused

/-- In every run in which the index is only derived from markers that tell what has happened to
the event, at most two sessions are created for it, the calls that create one and no others say
so, no update creates a session when there is one, and none is created after the end. -/
theorem event_captures (event : MncwfUuid) (capacity : Nat) (calls : List Call)
    (keeps : (tracking event).Along (Keeps event) ({ capacity }, []) calls)
    (tells : (tracking event).Along (Tells event) ({ capacity }, []) calls) :
    let tracked := ((tracking event).run ({ capacity }, []) calls).2
    (tracked.map Tracked.created).sum ≤ 2 ∧
      (∀ entry ∈ tracked, entry.flag = some true ↔ entry.created ≠ 0) ∧
      (∀ entry ∈ tracked, entry.existing = true → entry.lifecycle = .update →
        entry.created = 0) ∧
      tracked.Pairwise (fun earlier later => earlier.ended = true → later.created = 0) := by
  intro tracked
  by_cases known : event = 0
  · subst known
    have refused := (tracking 0).run_invariant
      (fun state => ∀ entry ∈ state.2, entry.created = 0 ∧ entry.flag = none)
      (fun state call holds => untracked_zero call holds) ({ capacity }, []) (by simp) calls
    refine ⟨?_, ?_, ?_, ?_⟩
    · rw [createdSum_zero]
      · decide
      · rintro ⟨entry, member, some⟩
        exact some (refused entry member).1
    · intro entry member
      simp [refused entry member]
    · intro entry member _ _
      exact (refused entry member).1
    · apply List.pairwise_of_forall_mem_list
      intro earlier _ later member _
      exact (refused later member).1
  · have filed : Filed event { capacity } [] := by
      constructor <;> simp [Carries]
    have bounded : Bounded [] := by
      constructor <;> simp
    have reached := run_filed known calls keeps tells filed bounded
    exact ⟨reached.few, reached.flagged, reached.updates, reached.ended⟩

end Runs

def quietBlock (first rate : UInt32) : WaveformBlock where
  header := {
    firstSequenceLow := first
    measuredSampleRateHz := rate
    configurationGeneration := 1 }
  frames := fun _ _ => 0

/-- An edge of the event numbered 7, with the trigger source of its marker. -/
def sagEdge (lifecycle : WaveformEventLifecycle) (marker : MncwfEventLifecycle)
    (source : UInt16) (sample : Nat) : Call :=
  .track {
      eventId := ⟨1, 1⟩
      lifecycle
      triggerSequence := 500
      currentSequence := sample
      pretriggerMs := 100
      posttriggerMs := 100
      decimation := 1
      descriptor := {
        eventUuid := 7
        lifecycle := marker
        triggerSource := source } }
    { tai := 2000000000, realtime := 1000000000 } 1

def archivedSession : Session where
  summary := { id := 1, firstSequence := 0, lastSequence := 99, state := .complete }
  events := [{ descriptor := { eventUuid := 5, lifecycle := .ended, triggerSource := 3 } }]

/-- The start and two updates of the event; the archive is merged between them, and its old
capture expires. -/
def markedSag (source : UInt16) : List Call :=
  [.acceptBlock (quietBlock 0 1000) none, .beginDiscovery [archivedSession],
    sagEdge .start .start source 500, .collectDiscovery, sagEdge .update .update source 600,
    .collectResult { success := true, expiredSessionIds := [1] },
    sagEdge .update .update source 700]

theorem indexed_sag_captured :
    let tracked := ((tracking 7).run ({ capacity := 4096 }, []) (markedSag 3)).2
    (tracked.map Tracked.created).sum ≤ 2 ∧
      (∀ entry ∈ tracked, entry.flag = some true ↔ entry.created ≠ 0) ∧
      (∀ entry ∈ tracked, entry.existing = true → entry.lifecycle = .update →
        entry.created = 0) ∧
      tracked.Pairwise (fun earlier later => earlier.ended = true → later.created = 0) :=
  event_captures 7 4096 (markedSag 3) (by decide +kernel) (by decide +kernel)

/-- With the source that the acquisition pipeline writes into the marker, every update creates
a session. -/
theorem unindexed_sag_captured_thrice :
    (tracking 7).Along (Keeps 7) ({ capacity := 4096 }, []) (markedSag 1) ∧
      ((tracking 7).run ({ capacity := 4096 }, []) (markedSag 1)).2 =
        [⟨.start, false, 1, some true⟩, ⟨.update, true, 1, some true⟩,
          ⟨.update, true, 1, some true⟩] := by
  decide +kernel

end Msap1.Waveform
