import Msap1.Historian.EventLinks
import Msap1.Machine

/-! `EventWaveformLinker` beside the historian's catalogue: the links of events to their
captures wait in a queue, and the worker delivers the oldest until the historian has stored it. -/

namespace Msap1.Acquisition

open Meter Historian

/-- A UUID with its version bits set. -/
structure Uuid where
  bytes : List UInt8
  marked : ∃ byte ∈ bytes, byte ≠ 0
  deriving DecidableEq

structure Link where
  eventUuid : Uuid
  captureUuid : Uuid
  deriving DecidableEq

/-- Where the worker stands with the link it has taken. -/
inductive LinkWorker where
  | idle
  | requesting (link : Link)
  | answered (link : Link)
  | refused (link : Link)
  deriving DecidableEq

structure EventWaveformLinker where
  pending : List Link := []
  recent : List Link := []
  retryFailures : Nat := 0
  queueOverflows : Nat := 0
  worker : LinkWorker := .idle

def maximumPending : Nat := 4096

def recentCapacity : Nat := 4096

namespace EventWaveformLinker

variable (linker : EventWaveformLinker)

def enqueue (link : Link) : EventWaveformLinker :=
  if link ∈ linker.pending ∨ link ∈ linker.recent then linker
  else if maximumPending ≤ linker.pending.length then
    { linker with queueOverflows := linker.queueOverflows + 1 }
  else { linker with pending := linker.pending ++ [link] }

/-- The worker takes the oldest link without removing it. -/
def take : EventWaveformLinker :=
  match linker.worker, linker.pending with
  | .idle, link :: _ => { linker with worker := .requesting link }
  | _, _ => linker

/-- What the worker does with the queue after the historian's answer. -/
def settle : EventWaveformLinker :=
  match linker.worker with
  | .answered link =>
      let recent := linker.recent ++ [link]
      { linker with
        pending := if linker.pending.head? = some link then linker.pending.tail
          else linker.pending
        recent := if recentCapacity < recent.length then recent.tail else recent
        worker := .idle }
  | .refused _ => { linker with retryFailures := linker.retryFailures + 1, worker := .idle }
  | _ => linker

end EventWaveformLinker

/-- What comes of a request: the historian answers it, does not receive it, or its answer is
lost. -/
inductive Reply where
  | answered
  | unreachable
  | lost
  deriving DecidableEq, Repr

structure LinkSystem where
  linker : EventWaveformLinker := {}
  historian : LinkedStore

inductive LinkStep where
  | enqueue (eventId : PowerQualityEventId) (captureUuid : Uuid)
  | take
  | request (reply : Reply)
  | settle
  | recordEvent (row : CatalogEntry) (stored : Except Failure Unit)
  | deleteEvents (eventUuids : List (List UInt8)) (stored : Except Failure Unit)
  | clearEvents (stored : Except Failure Unit)

namespace LinkSystem

variable (system : LinkSystem)

/-- The historian after one of its operations; a failed one leaves it alone. -/
def after (result : Except Failure LinkedStore) : LinkedStore :=
  result.toOption.getD system.historian

def deliver (link : Link) : Except Failure LinkedStore :=
  system.historian.linkPowerQualityEventWaveform link.eventUuid.bytes link.captureUuid.bytes

def request (reply : Reply) : LinkSystem :=
  match system.linker.worker with
  | .requesting link =>
      match reply with
      | .answered =>
          match system.deliver link with
          | .ok historian => ⟨{ system.linker with worker := .answered link }, historian⟩
          | .error _ => { system with linker := { system.linker with worker := .refused link } }
      | .unreachable => { system with linker := { system.linker with worker := .refused link } }
      | .lost => ⟨{ system.linker with worker := .refused link },
          system.after (system.deliver link)⟩
  | _ => system

end LinkSystem

/-- The linker and the historian in any order of their steps; `stableUuid` names the events. -/
def linkMachine (stableUuid : PowerQualityEventId → Uuid) : Machine LinkSystem LinkStep Unit where
  step system call := (match call with
    | .enqueue eventId captureUuid =>
        { system with linker := system.linker.enqueue ⟨stableUuid eventId, captureUuid⟩ }
    | .take => { system with linker := system.linker.take }
    | .request reply => system.request reply
    | .settle => { system with linker := system.linker.settle }
    | .recordEvent row stored =>
        { system with
          historian := system.after (system.historian.upsertPowerQualityEvent row stored) }
    | .deleteEvents eventUuids stored =>
        { system with
          historian := system.after (system.historian.deletePowerQualityEvents eventUuids stored) }
    | .clearEvents stored =>
        { system with
          historian := system.after (system.historian.clearPowerQualityEvents stored) }, ())

/-- The catalogue has a row of the link's event. -/
def Recorded (historian : LinkedStore) (link : Link) : Prop :=
  ∃ event ∈ historian.store.events, event.eventUuid = link.eventUuid.bytes

/-- The catalogue has the link itself. -/
def Stored (historian : LinkedStore) (link : Link) : Prop :=
  ∃ event ∈ historian.store.events, event.eventUuid = link.eventUuid.bytes ∧
    ⟨event.eventId, link.captureUuid.bytes⟩ ∈ historian.links

instance (historian : LinkedStore) (link : Link) : Decidable (Recorded historian link) := by
  unfold Recorded
  infer_instance

instance (historian : LinkedStore) (link : Link) : Decidable (Stored historian link) := by
  unfold Stored
  infer_instance

/-- The catalogue had the link at some moment of a run. -/
def Seen (stableUuid : PowerQualityEventId → Uuid) (start : LinkSystem) (calls : List LinkStep)
    (link : Link) : Prop :=
  ∃ moment, Stored ((linkMachine stableUuid).run start (calls.take moment)).historian link

def attempts (system : LinkSystem) : LinkStep → Bool
  | .request _ => match system.linker.worker with
      | .requesting _ => true
      | _ => false
  | _ => false

def attemptCount (stableUuid : PowerQualityEventId → Uuid) : LinkSystem → List LinkStep → Nat
  | _, [] => 0
  | system, call :: calls => (if attempts system call then 1 else 0) +
      attemptCount stableUuid ((linkMachine stableUuid).next system call) calls

/-- The historian answers the requests. -/
def Answers : LinkStep → Prop
  | .request reply => reply = .answered
  | _ => True

/-- The queue does not overflow. -/
def Fits (stableUuid : PowerQualityEventId → Uuid) (system : LinkSystem) (call : LinkStep) : Prop :=
  ((linkMachine stableUuid).next system call).linker.queueOverflows = system.linker.queueOverflows

/-- The event of a link that the worker requests has its row. -/
def Deliverable (system : LinkSystem) : LinkStep → Prop
  | .request _ => match system.linker.worker with
      | .requesting link => Recorded system.historian link
      | _ => True
  | _ => True

instance (call : LinkStep) : Decidable (Answers call) := by
  unfold Answers
  split <;> infer_instance

instance (stableUuid : PowerQualityEventId → Uuid) (system : LinkSystem) (call : LinkStep) :
    Decidable (Fits stableUuid system call) :=
  inferInstanceAs (Decidable (_ = _))

instance (system : LinkSystem) (call : LinkStep) : Decidable (Deliverable system call) := by
  unfold Deliverable
  split
  · split <;> infer_instance
  · infer_instance

/-- The links that no answered attempt has taken care of. -/
def EventWaveformLinker.waiting (linker : EventWaveformLinker) : List Link :=
  match linker.worker with
  | .answered _ => linker.pending.tail
  | _ => linker.pending

def LinkWorker.link : LinkWorker → Option Link
  | .idle => none
  | .requesting link => some link
  | .answered link => some link
  | .refused link => some link

/-- The worker is busy with the oldest link. -/
def Fronted (linker : EventWaveformLinker) : Prop :=
  ∀ link, linker.worker.link = some link → linker.pending.head? = some link

section Requests

variable {historian : LinkedStore} {link : Link}

theorem mem_insertLink (links : List WaveformLink) (link : WaveformLink) :
    link ∈ insertLink links link := by
  unfold insertLink
  split
  · next known => exact known
  · exact List.mem_append_right _ List.mem_cons_self

theorem link_ok {later : LinkedStore} (linked : historian.linkPowerQualityEventWaveform
    link.eventUuid.bytes link.captureUuid.bytes = .ok later) :
    ∃ event ∈ historian.store.events, event.eventUuid = link.eventUuid.bytes ∧
      later = { historian with
        links := insertLink historian.links ⟨event.eventId, link.captureUuid.bytes⟩ } := by
  unfold LinkedStore.linkPowerQualityEventWaveform at linked
  split at linked
  · cases linked
  · split at linked
    · cases linked
    · split at linked
      · cases linked
      · next event found =>
          cases linked
          exact ⟨event, List.mem_of_find?_eq_some found, by simpa using List.find?_some found, rfl⟩

theorem link_stored {later : LinkedStore} (linked : historian.linkPowerQualityEventWaveform
    link.eventUuid.bytes link.captureUuid.bytes = .ok later) : Stored later link := by
  rcases link_ok linked with ⟨event, member, own, rfl⟩
  exact ⟨event, member, own, mem_insertLink _ _⟩

theorem recorded_link (recorded : Recorded historian link) :
    ∃ later, historian.linkPowerQualityEventWaveform link.eventUuid.bytes link.captureUuid.bytes =
      .ok later := by
  have marked : ∀ uuid : Uuid, ¬ ∀ byte ∈ uuid.bytes, byte = 0 := by
    intro uuid zero
    rcases uuid.marked with ⟨byte, member, nonzero⟩
    exact nonzero (zero byte member)
  unfold LinkedStore.linkPowerQualityEventWaveform
  rw [if_neg (marked link.eventUuid), if_neg (marked link.captureUuid)]
  cases found : historian.store.events.find? (fun event =>
      event.eventUuid = link.eventUuid.bytes) with
  | none =>
      rcases recorded with ⟨event, member, own⟩
      have absent := List.find?_eq_none.mp found event member
      simp [own] at absent
  | some event => exact ⟨_, rfl⟩

end Requests

section Steps

variable {stableUuid : PowerQualityEventId → Uuid} {system : LinkSystem} {call : LinkStep}

theorem fronted_next (fronted : Fronted system.linker) :
    Fronted ((linkMachine stableUuid).next system call).linker := by
  cases call with
  | enqueue eventId captureUuid =>
      intro link busy
      change (system.linker.enqueue _).pending.head? = some link
      change (system.linker.enqueue _).worker.link = some link at busy
      unfold EventWaveformLinker.enqueue at busy ⊢
      split at busy
      · next known =>
          rw [if_pos known]
          exact fronted link busy
      · next unknown =>
          rw [if_neg unknown]
          split at busy
          · next full =>
              rw [if_pos full]
              exact fronted link busy
          · next room =>
              rw [if_neg room, List.head?_append, fronted link busy]
              rfl
  | take =>
      intro link busy
      change system.linker.take.pending.head? = some link
      change system.linker.take.worker.link = some link at busy
      unfold EventWaveformLinker.take at busy ⊢
      split at busy
      · next oldest rest _ queued =>
          cases busy
          change system.linker.pending.head? = _
          rw [queued]
          rfl
      · exact fronted link busy
  | request reply =>
      intro link busy
      change (system.request reply).linker.pending.head? = some link
      change (system.request reply).linker.worker.link = some link at busy
      unfold LinkSystem.request at busy ⊢
      split at busy
      · next taken requesting =>
          have front := fronted taken (by rw [requesting]; rfl)
          cases reply with
          | answered =>
              dsimp only at busy ⊢
              split at busy
              · cases busy
                exact front
              · cases busy
                exact front
          | unreachable =>
              cases busy
              exact front
          | lost =>
              cases busy
              exact front
      · exact fronted link busy
  | settle =>
      intro link busy
      change system.linker.settle.pending.head? = some link
      change system.linker.settle.worker.link = some link at busy
      unfold EventWaveformLinker.settle at busy ⊢
      split at busy
      · cases busy
      · cases busy
      · exact fronted link busy
  | recordEvent row stored => exact fronted
  | deleteEvents eventUuids stored => exact fronted
  | clearEvents stored => exact fronted

theorem waiting_enqueue (fronted : Fronted system.linker) (link : Link) :
    ∃ added, (system.linker.enqueue link).waiting = system.linker.waiting ++ added := by
  unfold EventWaveformLinker.enqueue
  split
  · exact ⟨[], (List.append_nil _).symm⟩
  · split
    · exact ⟨[], (List.append_nil _).symm⟩
    · refine ⟨[link], ?_⟩
      unfold EventWaveformLinker.waiting
      dsimp only
      split
      · next answered worker =>
          have front := fronted answered (by rw [worker]; rfl)
          rw [List.tail_append_of_ne_nil]
          intro none
          rw [none] at front
          cases front
      · rfl

theorem waiting_length (linker : EventWaveformLinker) :
    linker.waiting.length ≤ linker.pending.length := by
  unfold EventWaveformLinker.waiting
  split
  · rw [List.length_tail]
    exact Nat.sub_le _ _
  · exact le_refl _

theorem answered_of_pending {linker : EventWaveformLinker} {link : Link} (fronted : Fronted linker)
    (pending : link ∈ linker.pending) (settled : link ∉ linker.waiting) :
    linker.worker = .answered link := by
  cases worker : linker.worker with
  | answered front =>
      have queued := List.eq_cons_of_mem_head? (fronted front (by rw [worker]; rfl))
      simp only [EventWaveformLinker.waiting, worker] at settled
      rw [queued] at pending
      rw [(List.mem_cons.mp pending).resolve_right settled]
  | idle => simp [EventWaveformLinker.waiting, worker, pending] at settled
  | requesting link => simp [EventWaveformLinker.waiting, worker, pending] at settled
  | refused link => simp [EventWaveformLinker.waiting, worker, pending] at settled

theorem waiting_take : system.linker.take.waiting = system.linker.waiting := by
  unfold EventWaveformLinker.take
  split
  · next idle _ =>
      unfold EventWaveformLinker.waiting
      rw [idle]
  · rfl

theorem waiting_settle (fronted : Fronted system.linker) :
    system.linker.settle.waiting = system.linker.waiting := by
  unfold EventWaveformLinker.settle
  split
  · next link answered =>
      have front := fronted link (by rw [answered]; rfl)
      unfold EventWaveformLinker.waiting
      rw [answered]
      exact if_pos front
  · next refused =>
      unfold EventWaveformLinker.waiting
      rw [refused]
  · rfl

theorem waiting_request (fronted : Fronted system.linker)
    (deliverable : Deliverable system (.request .answered)) :
    (attempts system (.request .answered) = false ∧ system.request .answered = system) ∨
      attempts system (.request .answered) = true ∧ ∃ front,
        system.linker.waiting = front :: (system.request .answered).linker.waiting ∧
          Stored (system.request .answered).historian front := by
  cases worker : system.linker.worker with
  | requesting link =>
      simp only [Deliverable, worker] at deliverable
      rcases recorded_link deliverable with ⟨historian, delivered⟩
      have front := fronted link (by rw [worker]; rfl)
      have sent : system.deliver link = .ok historian := delivered
      right
      simp only [attempts, LinkSystem.request, EventWaveformLinker.waiting, worker, sent]
      exact ⟨trivial, link, List.eq_cons_of_mem_head? front, link_stored delivered⟩
  | idle => simp [attempts, LinkSystem.request, worker]
  | answered link => simp [attempts, LinkSystem.request, worker]
  | refused link => simp [attempts, LinkSystem.request, worker]

theorem waiting_next (fronted : Fronted system.linker) (answers : Answers call)
    (deliverable : Deliverable system call) :
    (attempts system call = false ∧ ∃ added,
      ((linkMachine stableUuid).next system call).linker.waiting =
        system.linker.waiting ++ added) ∨
      attempts system call = true ∧ ∃ front,
        system.linker.waiting =
            front :: ((linkMachine stableUuid).next system call).linker.waiting ∧
          Stored ((linkMachine stableUuid).next system call).historian front := by
  cases call with
  | enqueue eventId captureUuid => exact .inl ⟨rfl, waiting_enqueue fronted _⟩
  | take => exact .inl ⟨rfl, [], by rw [List.append_nil]; exact waiting_take⟩
  | request reply =>
      have answered : reply = .answered := answers
      subst answered
      rcases waiting_request fronted deliverable with ⟨none, same⟩ | attempt
      · left
        refine ⟨none, [], ?_⟩
        change (system.request .answered).linker.waiting = _
        rw [same, List.append_nil]
      · exact .inr attempt
  | settle => exact .inl ⟨rfl, [], by rw [List.append_nil]; exact waiting_settle fronted⟩
  | recordEvent row stored => exact .inl ⟨rfl, [], (List.append_nil _).symm⟩
  | deleteEvents eventUuids stored => exact .inl ⟨rfl, [], (List.append_nil _).symm⟩
  | clearEvents stored => exact .inl ⟨rfl, [], (List.append_nil _).symm⟩

end Steps

/-- A link that waits is stored once the worker has made an attempt for it and for each of the
links before it. -/
theorem waiting_stored {stableUuid : PowerQualityEventId → Uuid} {link : Link}
    (calls : List LinkStep) (system : LinkSystem) (fronted : Fronted system.linker)
    (answers : ∀ call ∈ calls, Answers call)
    (deliverable : (linkMachine stableUuid).Along Deliverable system calls)
    (waits : link ∈ system.linker.waiting)
    (enough : system.linker.waiting.idxOf link < attemptCount stableUuid system calls) :
    Seen stableUuid system calls link := by
  induction calls generalizing system with
  | nil => exact absurd enough (Nat.not_lt_zero _)
  | cons call calls ih =>
      have later : Seen stableUuid ((linkMachine stableUuid).next system call) calls link →
          Seen stableUuid system (call :: calls) link := by
        rintro ⟨moment, stored⟩
        exact ⟨moment + 1, stored⟩
      have onward := ih ((linkMachine stableUuid).next system call) (fronted_next fronted)
        (fun other member => answers other (List.mem_cons_of_mem call member)) deliverable.2
      rw [attemptCount] at enough
      rcases waiting_next fronted (answers call List.mem_cons_self) deliverable.1 with
        ⟨none, added, grown⟩ | ⟨attempt, front, taken, stored⟩
      · apply later
        apply onward
        · rw [grown]
          exact List.mem_append_left _ waits
        · rw [grown, List.idxOf_append_of_mem waits]
          simpa [none] using enough
      · by_cases oldest : front = link
        · rw [← oldest]
          exact ⟨1, stored⟩
        · apply later
          rw [taken] at waits enough
          rw [List.idxOf_cons_ne _ oldest, if_pos attempt] at enough
          apply onward
          · exact (List.mem_cons.mp waits).resolve_left (Ne.symm oldest)
          · omega

section Catalogue

variable {system : LinkSystem}

theorem insertLink_nodup {links : List WaveformLink} (unique : links.Nodup) (link : WaveformLink) :
    (insertLink links link).Nodup := by
  unfold insertLink
  split
  · exact unique
  · next unknown =>
      rw [List.nodup_append]
      refine ⟨unique, List.nodup_singleton link, ?_⟩
      intro known member other new
      rw [List.mem_singleton.mp new]
      exact fun same => unknown (same ▸ member)

theorem after_nodup {result : Except Failure LinkedStore} (unique : system.historian.links.Nodup)
    (returned : ∀ historian, result = .ok historian → historian.links.Nodup) :
    (system.after result).links.Nodup := by
  cases result with
  | error failure => exact unique
  | ok historian => exact returned historian rfl

theorem deliver_nodup (unique : system.historian.links.Nodup) {link : Link}
    {historian : LinkedStore} (delivered : system.deliver link = .ok historian) :
    historian.links.Nodup := by
  rcases link_ok delivered with ⟨event, -, -, rfl⟩
  exact insertLink_nodup unique _

theorem request_nodup (unique : system.historian.links.Nodup) (reply : Reply) :
    (system.request reply).historian.links.Nodup := by
  unfold LinkSystem.request
  split
  · next link _ =>
      cases reply with
      | answered =>
          dsimp only
          split
          · next historian delivered => exact deliver_nodup unique delivered
          · exact unique
      | unreachable => exact unique
      | lost => exact after_nodup unique (fun _ delivered => deliver_nodup unique delivered)
  · exact unique

theorem nodup_next {stableUuid : PowerQualityEventId → Uuid} {call : LinkStep}
    (unique : system.historian.links.Nodup) :
    ((linkMachine stableUuid).next system call).historian.links.Nodup := by
  cases call with
  | enqueue eventId captureUuid => exact unique
  | take => exact unique
  | request reply => exact request_nodup unique reply
  | settle => exact unique
  | recordEvent row stored =>
      apply after_nodup unique
      intro historian recorded
      rcases Loops.bind_ok recorded with ⟨store, -, returned⟩
      cases returned
      exact unique
  | deleteEvents eventUuids stored =>
      apply after_nodup unique
      intro historian deleted
      rcases Loops.bind_ok deleted with ⟨store, -, returned⟩
      cases returned
      exact unique.filter _
  | clearEvents stored =>
      apply after_nodup unique
      intro historian cleared
      rcases Loops.bind_ok cleared with ⟨store, -, returned⟩
      cases returned
      exact unique.filter _

end Catalogue

section Histories

variable {stableUuid : PowerQualityEventId → Uuid} {start : LinkSystem}

theorem seen_append {calls : List LinkStep} {link : Link} (later : List LinkStep)
    (seen : Seen stableUuid start calls link) : Seen stableUuid start (calls ++ later) link := by
  rcases seen with ⟨moment, stored⟩
  refine ⟨min moment calls.length, ?_⟩
  rw [List.take_append_of_le_length (Nat.min_le_right _ _)]
  rcases Nat.le_total moment calls.length with within | beyond
  · rwa [Nat.min_eq_left within]
  · rw [Nat.min_eq_right beyond, List.take_length]
    rwa [List.take_of_length_le beyond] at stored

theorem seen_later {calls later : List LinkStep} {link : Link}
    (seen : Seen stableUuid ((linkMachine stableUuid).run start calls) later link) :
    Seen stableUuid start (calls ++ later) link := by
  rcases seen with ⟨moment, stored⟩
  refine ⟨calls.length + moment, ?_⟩
  rwa [List.take_length_add_append, Machine.run_append]

/-- What a run has made of the links it was given. -/
structure Kept (stableUuid : PowerQualityEventId → Uuid) (start : LinkSystem)
    (calls : List LinkStep) (system : LinkSystem) : Prop where
  fronted : Fronted system.linker
  unique : system.historian.links.Nodup
  recent : ∀ link ∈ system.linker.recent, Seen stableUuid start calls link
  answered : ∀ link, system.linker.worker = .answered link → Seen stableUuid start calls link
  enqueued : ∀ eventId captureUuid, .enqueue eventId captureUuid ∈ calls →
    (⟨stableUuid eventId, captureUuid⟩ : Link) ∈ system.linker.pending ∨
      Seen stableUuid start calls ⟨stableUuid eventId, captureUuid⟩

section Next

variable {system : LinkSystem} {call : LinkStep} {link : Link}

theorem recent_next (recent : link ∈ ((linkMachine stableUuid).next system call).linker.recent) :
    link ∈ system.linker.recent ∨ system.linker.worker = .answered link := by
  cases call with
  | enqueue eventId captureUuid =>
      left
      change link ∈ (system.linker.enqueue _).recent at recent
      unfold EventWaveformLinker.enqueue at recent
      split at recent
      · exact recent
      · split at recent <;> exact recent
  | take =>
      left
      change link ∈ system.linker.take.recent at recent
      unfold EventWaveformLinker.take at recent
      split at recent <;> exact recent
  | request reply =>
      left
      change link ∈ (system.request reply).linker.recent at recent
      unfold LinkSystem.request at recent
      split at recent
      · cases reply with
        | answered =>
            dsimp only at recent
            split at recent <;> exact recent
        | unreachable => exact recent
        | lost => exact recent
      · exact recent
  | settle =>
      change link ∈ system.linker.settle.recent at recent
      unfold EventWaveformLinker.settle at recent
      split at recent
      · next answered worker =>
          have known : link ∈ system.linker.recent ++ [answered] := by
            dsimp only at recent
            split at recent
            · exact List.mem_of_mem_tail recent
            · exact recent
          rcases List.mem_append.mp known with before | new
          · exact .inl before
          · rw [List.mem_singleton.mp new]
            exact .inr worker
      · exact .inl recent
      · exact .inl recent
  | recordEvent row stored => exact .inl recent
  | deleteEvents eventUuids stored => exact .inl recent
  | clearEvents stored => exact .inl recent

theorem answered_next
    (answered : ((linkMachine stableUuid).next system call).linker.worker = .answered link) :
    system.linker.worker = .answered link ∨
      Stored ((linkMachine stableUuid).next system call).historian link := by
  cases call with
  | enqueue eventId captureUuid =>
      left
      change (system.linker.enqueue _).worker = _ at answered
      unfold EventWaveformLinker.enqueue at answered
      split at answered
      · exact answered
      · split at answered <;> exact answered
  | take =>
      left
      change system.linker.take.worker = _ at answered
      unfold EventWaveformLinker.take at answered
      split at answered
      · cases answered
      · exact answered
  | request reply =>
      change (system.request reply).linker.worker = _ at answered
      change _ ∨ Stored (system.request reply).historian link
      unfold LinkSystem.request at answered ⊢
      split at answered
      · cases reply with
        | answered =>
            dsimp only at answered ⊢
            split at answered
            · next historian delivered =>
                cases answered
                exact .inr (link_stored delivered)
            · cases answered
        | unreachable => cases answered
        | lost => cases answered
      · exact .inl answered
  | settle =>
      left
      change system.linker.settle.worker = _ at answered
      unfold EventWaveformLinker.settle at answered
      split at answered
      · cases answered
      · cases answered
      · exact answered
  | recordEvent row stored => exact .inl answered
  | deleteEvents eventUuids stored => exact .inl answered
  | clearEvents stored => exact .inl answered

theorem pending_next (pending : link ∈ system.linker.pending) :
    link ∈ ((linkMachine stableUuid).next system call).linker.pending ∨
      system.linker.worker = .answered link := by
  cases call with
  | enqueue eventId captureUuid =>
      left
      change link ∈ (system.linker.enqueue _).pending
      unfold EventWaveformLinker.enqueue
      split
      · exact pending
      · split
        · exact pending
        · exact List.mem_append_left _ pending
  | take =>
      left
      change link ∈ system.linker.take.pending
      unfold EventWaveformLinker.take
      split <;> exact pending
  | request reply =>
      left
      change link ∈ (system.request reply).linker.pending
      unfold LinkSystem.request
      split
      · cases reply with
        | answered =>
            dsimp only
            split <;> exact pending
        | unreachable => exact pending
        | lost => exact pending
      · exact pending
  | settle =>
      change link ∈ system.linker.settle.pending ∨ _
      unfold EventWaveformLinker.settle
      split
      · next answered worker =>
          dsimp only
          split
          · next front =>
              rw [List.eq_cons_of_mem_head? front] at pending
              rcases List.mem_cons.mp pending with same | behind
              · rw [same]
                exact .inr worker
              · exact .inl behind
          · exact .inl pending
      · exact .inl pending
      · exact .inl pending
  | recordEvent row stored => exact .inl pending
  | deleteEvents eventUuids stored => exact .inl pending
  | clearEvents stored => exact .inl pending

theorem enqueue_kept (linker : EventWaveformLinker)
    (room : (linker.enqueue link).queueOverflows = linker.queueOverflows) :
    link ∈ (linker.enqueue link).pending ∨ link ∈ linker.recent := by
  unfold EventWaveformLinker.enqueue at room ⊢
  split at room
  · next known =>
      rw [if_pos known]
      exact known
  · next unknown =>
      split at room
      · exact absurd room (Nat.succ_ne_self _)
      · next short =>
          rw [if_neg unknown, if_neg short]
          exact .inl (List.mem_append_right _ List.mem_cons_self)

theorem kept_next {calls : List LinkStep}
    (kept : Kept stableUuid start calls ((linkMachine stableUuid).run start calls))
    (fits : Fits stableUuid ((linkMachine stableUuid).run start calls) call) :
    Kept stableUuid start (calls ++ [call])
      ((linkMachine stableUuid).run start (calls ++ [call])) := by
  have still {link : Link} (seen : Seen stableUuid start calls link) :
      Seen stableUuid start (calls ++ [call]) link := seen_append [call] seen
  rw [Machine.run_concat]
  constructor
  · exact fronted_next kept.fronted
  · exact nodup_next kept.unique
  · intro link recent
    rcases recent_next recent with before | worker
    · exact still (kept.recent link before)
    · exact still (kept.answered link worker)
  · intro link answered
    rcases answered_next answered with before | stored
    · exact still (kept.answered link before)
    · refine ⟨(calls ++ [call]).length, ?_⟩
      rwa [List.take_length, Machine.run_concat]
  · intro eventId captureUuid member
    rcases List.mem_append.mp member with before | new
    · rcases kept.enqueued eventId captureUuid before with pending | seen
      · exact (pending_next pending).imp id (fun worker => still (kept.answered _ worker))
      · exact .inr (still seen)
    · have same := List.mem_singleton.mp new
      subst same
      exact (enqueue_kept _ fits).imp id (fun recent => still (kept.recent _ recent))

end Next

theorem kept_run (unique : start.historian.links.Nodup) (linker : start.linker = {})
    (calls : List LinkStep)
    (fits : (linkMachine stableUuid).Along (Fits stableUuid) start calls) :
    Kept stableUuid start calls ((linkMachine stableUuid).run start calls) := by
  induction calls using List.reverseRecOn with
  | nil =>
      rw [Machine.run_nil]
      constructor
      · intro link busy
        rw [linker] at busy
        cases busy
      · exact unique
      · intro link recent
        rw [linker] at recent
        cases recent
      · intro link answered
        rw [linker] at answered
        cases answered
      · intro eventId captureUuid member
        cases member
  | append_singleton calls call ih =>
      have ⟨earlier, last⟩ := (Machine.along_append _).mp fits
      exact kept_next (ih earlier) last.1

end Histories

/-- Of the links given to a linker whose queue never overflows, each is pending until it has been
stored, none is stored twice, and once the historian answers, all that are pending are stored
within as many attempts if the event of every link that the worker requests has its row. -/
theorem links_delivered (stableUuid : PowerQualityEventId → Uuid) (historian : LinkedStore)
    (unique : historian.links.Nodup) (calls : List LinkStep)
    (fits : (linkMachine stableUuid).Along (Fits stableUuid) { historian } calls) :
    (∀ eventId captureUuid, .enqueue eventId captureUuid ∈ calls →
      (⟨stableUuid eventId, captureUuid⟩ : Link) ∈
          ((linkMachine stableUuid).run { historian } calls).linker.pending ∨
        Seen stableUuid { historian } calls ⟨stableUuid eventId, captureUuid⟩) ∧
      ((linkMachine stableUuid).run { historian } calls).historian.links.Nodup ∧
        ∀ earlier later, calls = earlier ++ later → (∀ call ∈ later, Answers call) →
          (linkMachine stableUuid).Along Deliverable
            ((linkMachine stableUuid).run { historian } earlier) later →
          ((linkMachine stableUuid).run { historian } earlier).linker.pending.length ≤
            attemptCount stableUuid ((linkMachine stableUuid).run { historian } earlier) later →
          ∀ link ∈ ((linkMachine stableUuid).run { historian } earlier).linker.pending,
            Seen stableUuid { historian } calls link := by
  have kept := kept_run unique rfl calls fits
  refine ⟨kept.enqueued, kept.unique, ?_⟩
  rintro earlier later rfl answers deliverable enough link pending
  have before := kept_run unique rfl earlier ((Machine.along_append _).mp fits).1
  by_cases waits : link ∈ ((linkMachine stableUuid).run { historian } earlier).linker.waiting
  · apply seen_later
    apply waiting_stored later _ before.fronted answers deliverable waits
    have within := List.idxOf_lt_length_of_mem waits
    have fewer := waiting_length ((linkMachine stableUuid).run { historian } earlier).linker
    omega
  · apply seen_append
    exact before.answered link (answered_of_pending before.fronted pending waits)

def numberedUuid (number : UInt8) : Uuid :=
  ⟨[0, 0, 0, 0, 0, 0, 0x50, 0, 0x80, 0, 0, 0, 0, 0, 0, number], 0x50, by simp, by decide⟩

def counterUuid (eventId : PowerQualityEventId) : Uuid := numberedUuid eventId.counter.toUInt8

def emptyHistorian : LinkedStore := ⟨{ policies := fun _ => Spool.volatilePolicy }, []⟩

def counterRow (counter : UInt64) : CatalogEntry where
  eventId := ⟨1, counter⟩
  eventUuid := (counterUuid ⟨1, counter⟩).bytes
  streamCursor := counter.toNat
  sourceSequence := 1
  lifecycle := 0
  eventType := 0
  phaseMask := 1
  configurationGeneration := 1
  firstSample := 100
  lastSample := 100
  triggerSample := 100
  startUtcNs := 0
  lastUtcNs := 0
  timeQuality := 0
  utcUncertaintyNs := 0
  payload := []

def counterLink (counter : UInt64) : Link := ⟨counterUuid ⟨1, counter⟩, numberedUuid 7⟩

/-- The captures of two events are linked; only the second of them was recorded. -/
def unrecordedFirst : List LinkStep :=
  [.enqueue ⟨1, 1⟩ (numberedUuid 7), .enqueue ⟨1, 2⟩ (numberedUuid 7),
    .recordEvent (counterRow 2) (.ok ())]

def bothRecorded : List LinkStep := unrecordedFirst ++ [.recordEvent (counterRow 1) (.ok ())]

def twoAttempts : List LinkStep :=
  [.take, .request .answered, .settle, .take, .request .answered, .settle]

theorem recorded_events_linked :
    Seen counterUuid { historian := emptyHistorian } (bothRecorded ++ twoAttempts)
      (counterLink 2) :=
  (links_delivered counterUuid emptyHistorian (by decide) (bothRecorded ++ twoAttempts)
    (by decide +kernel)).2.2 bothRecorded twoAttempts rfl (by decide) (by decide +kernel)
      (by decide +kernel) (counterLink 2) (by decide +kernel)

/-- The event of the first link is missing, and the second is not stored within two attempts. -/
theorem unrecorded_event_blocks :
    (linkMachine counterUuid).Along (Fits counterUuid) { historian := emptyHistorian }
        (unrecordedFirst ++ twoAttempts) ∧
      (∀ call ∈ twoAttempts, Answers call) ∧
        counterLink 2 ∈ ((linkMachine counterUuid).run { historian := emptyHistorian }
          unrecordedFirst).linker.pending ∧
        Recorded ((linkMachine counterUuid).run { historian := emptyHistorian }
          unrecordedFirst).historian (counterLink 2) ∧
        ((linkMachine counterUuid).run { historian := emptyHistorian }
          unrecordedFirst).linker.pending.length =
            attemptCount counterUuid ((linkMachine counterUuid).run { historian := emptyHistorian }
              unrecordedFirst) twoAttempts ∧
        ¬ Seen counterUuid { historian := emptyHistorian } (unrecordedFirst ++ twoAttempts)
          (counterLink 2) := by
  refine ⟨by decide +kernel, by decide, by decide +kernel, by decide +kernel, by decide +kernel, ?_⟩
  have never : ∀ moment ≤ 9, ¬ Stored ((linkMachine counterUuid).run { historian := emptyHistorian }
      ((unrecordedFirst ++ twoAttempts).take moment)).historian (counterLink 2) := by
    decide +kernel
  rintro ⟨moment, stored⟩
  rcases Nat.le_total moment 9 with within | beyond
  · exact never moment within stored
  · rw [List.take_of_length_le (by exact beyond)] at stored
    exact never 9 (le_refl 9) stored

end Msap1.Acquisition
