import Msap1.Mqtt.Scheduler

/-! The order in which the payloads of one publication reach the broker, and what becomes of
those that failed, within one configuration. -/

namespace Msap1.Mqtt

namespace Handler

def coding : Handler → Option PublishRequest
  | encoded _ request => some request
  | _ => none

def storing : Handler → Option PublishRequest
  | stored _ request => some request
  | _ => none

def sending : Handler → Option PublishRequest
  | sent _ request => some request
  | _ => none

end Handler

namespace Control

def requests : Control → List PublishRequest
  | flushing rest => rest
  | cleaning request rest => request :: rest
  | _ => []

def cleaned : Control → Option PublishRequest
  | cleaning request _ => some request
  | _ => none

def configures : Control → Bool
  | cancelling _ (some _) => true
  | _ => false

end Control

def Step.reconfigures : Step → Bool
  | configure _ => true
  | _ => false

/-- The requests whose `client_.publish` failed and those that were put into `pending_`. -/
structure Deliveries where
  failed : List PublishRequest := []
  stored : List PublishRequest := []

def noteDelivery (state : MeterPublicationScheduler) (deliveries : Deliveries) (step : Step)
    (_ : Unit) : Deliveries :=
  match step with
  | .proceed succeeds =>
      match state.handler with
      | .encoded _ request => { deliveries with stored := deliveries.stored ++ [request] }
      | .stored _ request =>
          if succeeds then deliveries
          else { deliveries with failed := deliveries.failed ++ [request] }
      | _ => deliveries
  | .advance succeeds =>
      match state.control with
      | .flushing (request :: _) =>
          if succeeds then deliveries
          else { deliveries with failed := deliveries.failed ++ [request] }
      | _ => deliveries
  | _ => deliveries

def delivering : Machine (MeterPublicationScheduler × Deliveries) Step Unit :=
  threads.traced noteDelivery

/-- The later of two requests of one publication that the broker took has the later snapshot. -/
def Forward (handed : List PublishRequest) : Prop :=
  handed.Pairwise fun earlier later =>
    earlier.publicationId = later.publicationId → earlier.snapshot < later.snapshot

/-- A request is pending, or the broker took it, or a newer one replaced it. -/
def Accounted (state : MeterPublicationScheduler) (deliveries : Deliveries)
    (request : PublishRequest) : Prop :=
  request ∈ state.pending ∨ request ∈ state.handed ∨ ∃ newer ∈ deliveries.stored,
    newer.publicationId = request.publicationId ∧ request.snapshot < newer.snapshot

/-- The two threads are not at one publication at once: a flush hands over a request only while
it is still the pending one and no handler is between storing it and cleaning up after a
success, and a handler stores no request with the payload a flush has just handed over and not
cleaned up. -/
def Apart (state : MeterPublicationScheduler) : Step → Prop
  | .advance true =>
      match state.control with
      | .flushing (request :: _) =>
          state.pending.find request.publicationId = some request ∧
            (∀ other ∈ state.handler.storing, other.publicationId ≠ request.publicationId) ∧
            ∀ other ∈ state.handler.sending, other.publicationId ≠ request.publicationId
      | _ => True
  | .proceed _ =>
      ∀ request ∈ state.handler.coding, ∀ other ∈ state.control.cleaned,
        other.publicationId = request.publicationId → other.payload ≠ request.payload
  | _ => True

/-- The scheduler after `configure`. -/
def configuredWith (settings : List MqttPublicationSettings) : MeterPublicationScheduler :=
  ({} : MeterPublicationScheduler).install settings

namespace Pending

/-- One entry for each id. -/
def Unique (pending : Pending) : Prop :=
  ∀ first ∈ pending, ∀ second ∈ pending, first.publicationId = second.publicationId →
    first = second

theorem mem_erase {pending : Pending} {id : String} {request : PublishRequest} :
    request ∈ pending.erase id ↔ request ∈ pending ∧ request.publicationId ≠ id := by
  simp [erase, List.mem_filter]

theorem mem_assign {pending : Pending} {request other : PublishRequest} :
    other ∈ pending.assign request ↔
      other = request ∨ other ∈ pending ∧ other.publicationId ≠ request.publicationId := by
  rw [assign, List.mem_cons, mem_erase]

theorem mem_inOrder {pending : Pending} {request : PublishRequest} :
    request ∈ pending.inOrder ↔ request ∈ pending :=
  (List.perm_insertionSort _ pending).mem_iff

theorem mem_of_find {pending : Pending} {id : String} {request : PublishRequest}
    (found : pending.find id = some request) : request ∈ pending :=
  List.mem_of_find?_eq_some found

theorem mem_settle {pending : Pending} (unique : pending.Unique) {sent request : PublishRequest} :
    request ∈ pending.settle sent ↔ request ∈ pending ∧
      ¬ (request.publicationId = sent.publicationId ∧ request.payload = sent.payload) := by
  rw [settle]
  split
  · next current found =>
    have here : current.publicationId = sent.publicationId := find_id found
    have member : current ∈ pending := mem_of_find found
    split
    · next same =>
      rw [mem_erase]
      constructor
      · rintro ⟨listed, differ⟩
        exact ⟨listed, fun both => differ both.1⟩
      · rintro ⟨listed, differ⟩
        refine ⟨listed, fun equal => differ ⟨equal, ?_⟩⟩
        rw [unique request listed current member (equal.trans here.symm)]
        exact same
    · next differ =>
      constructor
      · intro listed
        refine ⟨listed, fun both => differ ?_⟩
        rw [← unique request listed current member (both.1.trans here.symm)]
        exact both.2
      · exact And.left
  · next missing =>
    constructor
    · intro listed
      refine ⟨listed, fun both => ?_⟩
      have absent := List.find?_eq_none.mp missing request listed
      exact absent (beq_iff_eq.mpr both.1)
    · exact And.left

theorem unique_assign {pending : Pending} (unique : pending.Unique) (request : PublishRequest) :
    (pending.assign request).Unique := by
  intro first listed second other same
  rw [mem_assign] at listed other
  rcases listed with rfl | ⟨listed, apart⟩
  · rcases other with rfl | ⟨_, differ⟩
    · rfl
    · exact absurd same.symm differ
  · rcases other with rfl | ⟨other, _⟩
    · exact absurd same apart
    · exact unique first listed second other same

theorem unique_settle {pending : Pending} (unique : pending.Unique) (sent : PublishRequest) :
    (pending.settle sent).Unique := by
  intro first listed second other same
  exact unique first ((mem_settle unique).mp listed).1 second ((mem_settle unique).mp other).1 same

end Pending

open MeterPublicationScheduler

/-- Every request but the one being encoded has an older snapshot than this. -/
def limit (state : MeterPublicationScheduler) : Nat :=
  (state.handler.coding.map PublishRequest.snapshot).getD state.snapshots

/-- The broker has nothing of the request's publication that is as new as the request. -/
def Unsent (handed : List PublishRequest) (request : PublishRequest) : Prop :=
  ∀ earlier ∈ handed, earlier.publicationId = request.publicationId →
    earlier.snapshot < request.snapshot

structure Sound (state : MeterPublicationScheduler) (deliveries : Deliveries) : Prop where
  unique : state.pending.Unique
  pendingOld : ∀ request ∈ state.pending, request.snapshot < limit state
  handedOld : ∀ request ∈ state.handed, request.snapshot < limit state
  copiedOld : ∀ request ∈ state.control.requests, request.snapshot < limit state
  failedOld : ∀ request ∈ deliveries.failed, request.snapshot < limit state
  coded : ∀ request ∈ state.handler.coding, request.snapshot < state.snapshots
  forward : Forward state.handed
  unsent : ∀ request ∈ state.pending, Unsent state.handed request ∨
    request ∈ state.handler.sending ∨ request ∈ state.control.cleaned
  storing : ∀ request ∈ state.handler.storing,
    request ∈ state.pending ∧ Unsent state.handed request
  sending : ∀ request ∈ state.handler.sending, request ∈ state.handed ∧
    ∀ current ∈ state.pending, current.publicationId = request.publicationId →
      current = request
  cleaning : ∀ request ∈ state.control.cleaned, request ∈ state.handed ∧
    ∀ current ∈ state.pending, current.publicationId = request.publicationId →
      current = request ∨ current.payload ≠ request.payload
  copied : ∀ request ∈ state.control.requests, Accounted state deliveries request
  failed : ∀ request ∈ deliveries.failed, Accounted state deliveries request
  within : state.control.configures = false

theorem sound_of_same {before after : MeterPublicationScheduler} {deliveries : Deliveries}
    (sound : Sound before deliveries) (pending : after.pending = before.pending)
    (handed : after.handed = before.handed) (snapshots : after.snapshots = before.snapshots)
    (coding : after.handler.coding = before.handler.coding)
    (storing : after.handler.storing = before.handler.storing)
    (sending : after.handler.sending = before.handler.sending)
    (requests : after.control.requests = before.control.requests)
    (cleaned : after.control.cleaned = before.control.cleaned)
    (within : after.control.configures = false) : Sound after deliveries := by
  have bound : limit after = limit before := by rw [limit, limit, coding, snapshots]
  have accounted : ∀ request, Accounted after deliveries request ↔
      Accounted before deliveries request := by
    intro request
    rw [Accounted, Accounted, pending, handed]
  constructor
  · rw [pending]; exact sound.unique
  · rw [pending, bound]; exact sound.pendingOld
  · rw [handed, bound]; exact sound.handedOld
  · rw [requests, bound]; exact sound.copiedOld
  · rw [bound]; exact sound.failedOld
  · rw [coding, snapshots]; exact sound.coded
  · rw [handed]; exact sound.forward
  · rw [pending, handed, sending, cleaned]; exact sound.unsent
  · rw [pending, handed, storing]; exact sound.storing
  · rw [pending, handed, sending]; exact sound.sending
  · rw [pending, handed, cleaned]; exact sound.cleaning
  · intro request member
    rw [requests] at member
    exact (accounted request).mpr (sound.copied request member)
  · intro request member
    exact (accounted request).mpr (sound.failed request member)
  · exact within

theorem callFlush_sound {state : MeterPublicationScheduler} {deliveries : Deliveries}
    (sound : Sound state deliveries) : Sound state.callFlush deliveries := by
  rw [callFlush]
  split
  · next idle =>
    have free : state.control.cleaned = none := by rw [idle]; rfl
    refine { sound with copiedOld := ?_, unsent := ?_, cleaning := nofun, copied := ?_,
                        within := rfl }
    · intro request member
      exact sound.pendingOld request (Pending.mem_inOrder.mp member)
    · intro request member
      rcases sound.unsent request member with fresh | sent | cleaned
      · exact .inl fresh
      · exact .inr (.inl sent)
      · rw [free] at cleaned
        cases cleaned
    · intro request member
      exact .inl (Pending.mem_inOrder.mp member)
  · exact sound

theorem takeSnapshot_sound {state : MeterPublicationScheduler} {deliveries : Deliveries}
    (sound : Sound state deliveries) (payload : Option String) :
    Sound (state.takeSnapshot payload) deliveries := by
  unfold takeSnapshot
  split
  · next publication payload handler =>
    split
    · have free : state.handler.sending = none := by rw [handler]; rfl
      have bound : limit state = state.snapshots := by rw [limit, handler]; rfl
      refine { sound with
        pendingOld := ?_, handedOld := ?_, copiedOld := ?_, failedOld := ?_, coded := ?_,
        unsent := ?_, storing := nofun, sending := nofun }
      · exact fun request member => (sound.pendingOld request member).trans_eq bound
      · exact fun request member => (sound.handedOld request member).trans_eq bound
      · exact fun request member => (sound.copiedOld request member).trans_eq bound
      · exact fun request member => (sound.failedOld request member).trans_eq bound
      · rintro request ⟨⟩
        exact Nat.lt_succ_self state.snapshots
      · intro request member
        rcases sound.unsent request member with fresh | sent | cleaned
        · exact .inl fresh
        · rw [free] at sent
          cases sent
        · exact .inr (.inr cleaned)
    · exact sound
  · next publication handler =>
    exact sound_of_same sound rfl rfl rfl (by rw [handler]; rfl) (by rw [handler]; rfl)
      (by rw [handler]; rfl) rfl rfl sound.within
  · exact sound

theorem forward_append {handed : List PublishRequest} (forward : Forward handed)
    {request : PublishRequest} (unsent : Unsent handed request) :
    Forward (handed ++ [request]) := by
  rw [Forward, List.pairwise_append]
  refine ⟨forward, List.pairwise_singleton _ _, ?_⟩
  intro earlier member later last same
  rw [List.mem_singleton.mp last] at same ⊢
  exact unsent earlier member same

theorem unsent_append {handed : List PublishRequest} {request sent : PublishRequest}
    (unsent : Unsent handed request) (differ : sent.publicationId ≠ request.publicationId) :
    Unsent (handed ++ [sent]) request := by
  intro earlier member same
  rcases List.mem_append.mp member with before | last
  · exact unsent earlier before same
  · rw [List.mem_singleton.mp last] at same
    exact absurd same differ

theorem accounted_handed {state after : MeterPublicationScheduler} {deliveries : Deliveries}
    {request sent : PublishRequest} (accounted : Accounted state deliveries request)
    (pending : after.pending = state.pending) (handed : after.handed = state.handed ++ [sent]) :
    Accounted after deliveries request := by
  rcases accounted with waits | taken | replaced
  · exact .inl (pending ▸ waits)
  · exact .inr (.inl (by rw [handed]; exact List.mem_append_left _ taken))
  · exact .inr (.inr replaced)

/-- The broker takes a request that is pending and newer than all it has of the publication. -/
theorem handed_unsent {state : MeterPublicationScheduler} {deliveries : Deliveries}
    (sound : Sound state deliveries) {sent : PublishRequest} (waits : sent ∈ state.pending)
    {request : PublishRequest} (member : request ∈ state.pending) :
    Unsent (state.handed ++ [sent]) request ∨ request = sent ∨
      request ∈ state.handler.sending ∨ request ∈ state.control.cleaned := by
  by_cases same : sent.publicationId = request.publicationId
  · exact .inr (.inl (sound.unique request member sent waits same.symm))
  · rcases sound.unsent request member with fresh | others
    · exact .inl (unsent_append fresh same)
    · exact .inr (.inr others)

theorem flushSend_sound {state : MeterPublicationScheduler} {deliveries : Deliveries}
    (sound : Sound state deliveries) {request : PublishRequest} {rest : List PublishRequest}
    (control : state.control = .flushing (request :: rest))
    (apart : Apart state (.advance true)) :
    Sound { state with
      control := .cleaning request rest
      handed := state.handed ++ [request] } deliveries := by
  rw [Apart, control] at apart
  obtain ⟨found, notStoring, notSending⟩ := apart
  have waits : request ∈ state.pending := Pending.mem_of_find found
  have requests : state.control.requests = request :: rest := by rw [control]; rfl
  have free : state.control.cleaned = none := by rw [control]; rfl
  have unsent : Unsent state.handed request := by
    rcases sound.unsent request waits with fresh | sent | cleaned
    · exact fresh
    · exact absurd rfl (notSending request sent)
    · rw [free] at cleaned
      cases cleaned
  refine { sound with
    handedOld := ?_, copiedOld := ?_, forward := forward_append sound.forward unsent,
    unsent := ?_, storing := ?_, sending := ?_, cleaning := ?_, copied := ?_, failed := ?_,
    within := rfl }
  · intro other member
    rcases List.mem_append.mp member with before | last
    · exact sound.handedOld other before
    · rw [List.mem_singleton.mp last]
      exact sound.pendingOld request waits
  · intro other member
    exact sound.copiedOld other (requests ▸ member)
  · intro other member
    rcases handed_unsent sound waits member with fresh | rfl | sent | cleaned
    · exact .inl fresh
    · exact .inr (.inr rfl)
    · exact .inr (.inl sent)
    · rw [free] at cleaned
      cases cleaned
  · intro other stored
    obtain ⟨listed, fresh⟩ := sound.storing other stored
    exact ⟨listed, unsent_append fresh (Ne.symm (notStoring other stored))⟩
  · intro other sent
    obtain ⟨taken, alone⟩ := sound.sending other sent
    exact ⟨List.mem_append_left _ taken, alone⟩
  · rintro other ⟨⟩
    refine ⟨List.mem_append_right _ List.mem_cons_self, ?_⟩
    intro current listed same
    exact .inl (sound.unique current listed request waits same)
  · intro other member
    exact accounted_handed (sound.copied other (requests ▸ member)) rfl rfl
  · intro other member
    exact accounted_handed (sound.failed other member) rfl rfl

theorem flushFail_sound {state : MeterPublicationScheduler} {deliveries : Deliveries}
    (sound : Sound state deliveries) {request : PublishRequest} {rest : List PublishRequest}
    (control : state.control = .flushing (request :: rest)) :
    Sound { state with control := .flushing rest }
      { deliveries with failed := deliveries.failed ++ [request] } := by
  have requests : state.control.requests = request :: rest := by rw [control]; rfl
  have free : state.control.cleaned = none := by rw [control]; rfl
  have mine : request ∈ state.control.requests := requests ▸ List.mem_cons_self
  have left : ∀ other ∈ rest, other ∈ state.control.requests := by
    intro other member
    rw [requests]
    exact List.mem_cons_of_mem request member
  refine { sound with
    copiedOld := fun other member => sound.copiedOld other (left other member)
    failedOld := ?_, unsent := ?_, cleaning := nofun
    copied := fun other member => sound.copied other (left other member)
    failed := ?_, within := rfl }
  · intro other member
    rcases List.mem_append.mp member with before | last
    · exact sound.failedOld other before
    · rw [List.mem_singleton.mp last]
      exact sound.copiedOld request mine
  · intro other member
    rcases sound.unsent other member with fresh | sent | cleaned
    · exact .inl fresh
    · exact .inr (.inl sent)
    · rw [free] at cleaned
      cases cleaned
  · intro other member
    rcases List.mem_append.mp member with before | last
    · exact sound.failed other before
    · rw [List.mem_singleton.mp last]
      exact sound.copied request mine

theorem accounted_settle {state : MeterPublicationScheduler} {deliveries : Deliveries}
    (sound : Sound state deliveries) {sent : PublishRequest} (taken : sent ∈ state.handed)
    (mine : ∀ current ∈ state.pending, current.publicationId = sent.publicationId →
      current = sent ∨ current.payload ≠ sent.payload)
    (handler : Handler) (control : Control) {request : PublishRequest}
    (accounted : Accounted state deliveries request) :
    Accounted { state with
      pending := state.pending.settle sent
      handler := handler
      control := control } deliveries request := by
  rcases accounted with waits | already | replaced
  · by_cases both : request.publicationId = sent.publicationId ∧ request.payload = sent.payload
    · rcases mine request waits both.1 with same | differ
      · exact .inr (.inl (by rw [same]; exact taken))
      · exact absurd both.2 differ
    · exact .inl ((Pending.mem_settle sound.unique).mpr ⟨waits, both⟩)
  · exact .inr (.inl already)
  · exact .inr (.inr replaced)

theorem flushClean_sound {state : MeterPublicationScheduler} {deliveries : Deliveries}
    (sound : Sound state deliveries) {request : PublishRequest} {rest : List PublishRequest}
    (control : state.control = .cleaning request rest) :
    Sound { state with
      pending := state.pending.settle request
      control := .flushing rest } deliveries := by
  have requests : state.control.requests = request :: rest := by rw [control]; rfl
  have cleaned : state.control.cleaned = some request := by rw [control]; rfl
  obtain ⟨taken, mine⟩ := sound.cleaning request (by rw [cleaned]; rfl)
  have listed : ∀ other ∈ state.pending.settle request, other ∈ state.pending :=
    fun other member => ((Pending.mem_settle sound.unique).mp member).1
  have kept : ∀ other ∈ state.pending, other ≠ request →
      other ∈ state.pending.settle request := by
    intro other member differ
    refine (Pending.mem_settle sound.unique).mpr ⟨member, fun both => ?_⟩
    rcases mine other member both.1 with same | changed
    · exact differ same
    · exact changed both.2
  refine { sound with
    unique := Pending.unique_settle sound.unique request
    pendingOld := fun other member => sound.pendingOld other (listed other member)
    copiedOld := ?_, unsent := ?_, storing := ?_, sending := ?_, cleaning := nofun
    copied := ?_, failed := ?_, within := rfl }
  · intro other member
    exact sound.copiedOld other (by rw [requests]; exact List.mem_cons_of_mem request member)
  · intro other member
    obtain ⟨before, apart⟩ := (Pending.mem_settle sound.unique).mp member
    rcases sound.unsent other before with fresh | sent | same
    · exact .inl fresh
    · exact .inr (.inl sent)
    · rw [cleaned] at same
      cases same
      exact absurd ⟨rfl, rfl⟩ apart
  · intro other stored
    obtain ⟨before, fresh⟩ := sound.storing other stored
    refine ⟨kept other before ?_, fresh⟩
    rintro rfl
    exact absurd (fresh other taken rfl) (Nat.lt_irrefl _)
  · intro other sent
    obtain ⟨already, alone⟩ := sound.sending other sent
    exact ⟨already, fun current member => alone current (listed current member)⟩
  · intro other member
    exact accounted_settle sound taken mine _ _
      (sound.copied other (by rw [requests]; exact List.mem_cons_of_mem request member))
  · intro other member
    exact accounted_settle sound taken mine _ _ (sound.failed other member)

theorem advance_sound {state : MeterPublicationScheduler} {deliveries : Deliveries}
    (sound : Sound state deliveries) (succeeds : Bool)
    (apart : Apart state (.advance succeeds)) :
    Sound (state.advance succeeds) (noteDelivery state deliveries (.advance succeeds) ()) := by
  cases control : state.control with
  | idle => simpa only [advance, noteDelivery, control] using sound
  | cancelling rest configure =>
      cases configure with
      | some settings =>
          have within := sound.within
          rw [control] at within
          cases within
      | none =>
          cases rest with
          | nil =>
              simp only [advance, noteDelivery, control]
              exact sound_of_same sound rfl rfl rfl rfl rfl rfl (by rw [control]; rfl)
                (by rw [control]; rfl) rfl
          | cons publication rest =>
              simp only [advance, noteDelivery, control]
              exact sound_of_same sound rfl rfl rfl rfl rfl rfl (by rw [control]; rfl)
                (by rw [control]; rfl) rfl
  | scheduling rest =>
      cases rest with
      | nil =>
          simp only [advance, noteDelivery, control]
          exact sound_of_same sound rfl rfl rfl rfl rfl rfl (by rw [control]; rfl)
            (by rw [control]; rfl) rfl
      | cons publication rest =>
          simp only [advance, noteDelivery, control]
          exact sound_of_same sound rfl rfl rfl rfl rfl rfl (by rw [control]; rfl)
            (by rw [control]; rfl) rfl
  | flushing rest =>
      cases rest with
      | nil =>
          simp only [advance, noteDelivery, control]
          exact sound_of_same sound rfl rfl rfl rfl rfl rfl (by rw [control]; rfl)
            (by rw [control]; rfl) rfl
      | cons request rest =>
          cases succeeds with
          | true =>
              simp only [advance, noteDelivery, control, if_true]
              exact flushSend_sound sound control apart
          | false =>
              simp only [advance, noteDelivery, control, Bool.false_eq_true, if_false]
              exact flushFail_sound sound control
  | cleaning request rest =>
      simp only [advance, noteDelivery, control]
      exact flushClean_sound sound control

theorem store_sound {state : MeterPublicationScheduler} {deliveries : Deliveries}
    (sound : Sound state deliveries) {publication : Nat} {request : PublishRequest}
    (handler : state.handler = .encoded publication request)
    (apart : Apart state (.proceed true)) :
    Sound { state with
        pending := state.pending.assign request
        handler := .stored publication request }
      { deliveries with stored := deliveries.stored ++ [request] } := by
  have coding : state.handler.coding = some request := by rw [handler]; rfl
  have bound : limit state = request.snapshot := by rw [limit, coding]; rfl
  have recent : limit state ≤ state.snapshots := by
    rw [bound]
    exact Nat.le_of_lt (sound.coded request (by rw [coding]; rfl))
  have free : state.handler.sending = none := by rw [handler]; rfl
  have unsent : Unsent state.handed request := fun earlier member _ =>
    (sound.handedOld earlier member).trans_eq bound
  have accounted : ∀ other, other.snapshot < limit state → Accounted state deliveries other →
      Accounted { state with
          pending := state.pending.assign request
          handler := .stored publication request }
        { deliveries with stored := deliveries.stored ++ [request] } other := by
    rintro other old (waits | taken | ⟨newer, listed, same, later⟩)
    · by_cases here : other.publicationId = request.publicationId
      · exact .inr (.inr ⟨request, List.mem_append_right _ List.mem_cons_self, here.symm,
          old.trans_eq bound⟩)
      · exact .inl (Pending.mem_assign.mpr (.inr ⟨waits, here⟩))
    · exact .inr (.inl taken)
    · exact .inr (.inr ⟨newer, List.mem_append_left _ listed, same, later⟩)
  refine { sound with
    unique := Pending.unique_assign sound.unique request
    pendingOld := ?_
    handedOld := fun other member => (sound.handedOld other member).trans_le recent
    copiedOld := fun other member => (sound.copiedOld other member).trans_le recent
    failedOld := fun other member => (sound.failedOld other member).trans_le recent
    coded := nofun, unsent := ?_, storing := ?_, sending := nofun, cleaning := ?_
    copied := fun other member =>
      accounted other (sound.copiedOld other member) (sound.copied other member)
    failed := fun other member =>
      accounted other (sound.failedOld other member) (sound.failed other member) }
  · intro other member
    rcases Pending.mem_assign.mp member with rfl | ⟨listed, _⟩
    · exact sound.coded other (by rw [coding]; rfl)
    · exact (sound.pendingOld other listed).trans_le recent
  · intro other member
    rcases Pending.mem_assign.mp member with rfl | ⟨listed, _⟩
    · exact .inl unsent
    · rcases sound.unsent other listed with fresh | sent | cleaned
      · exact .inl fresh
      · rw [free] at sent
        cases sent
      · exact .inr (.inr cleaned)
  · rintro other ⟨⟩
    exact ⟨Pending.mem_assign.mpr (.inl rfl), unsent⟩
  · intro other cleaned
    obtain ⟨taken, mine⟩ := sound.cleaning other cleaned
    refine ⟨taken, ?_⟩
    intro current member same
    rcases Pending.mem_assign.mp member with rfl | ⟨listed, _⟩
    · exact .inr (Ne.symm (apart current (by rw [coding]; rfl) other cleaned same.symm))
    · exact mine current listed same

theorem send_sound {state : MeterPublicationScheduler} {deliveries : Deliveries}
    (sound : Sound state deliveries) {publication : Nat} {request : PublishRequest}
    (handler : state.handler = .stored publication request) :
    Sound { state with
      handler := .sent publication request
      handed := state.handed ++ [request] } deliveries := by
  have storing : state.handler.storing = some request := by rw [handler]; rfl
  have free : state.handler.sending = none := by rw [handler]; rfl
  have bound : limit state = state.snapshots := by rw [limit, handler]; rfl
  obtain ⟨waits, unsent⟩ := sound.storing request (by rw [storing]; rfl)
  refine { sound with
    pendingOld := fun other member => (sound.pendingOld other member).trans_eq bound
    handedOld := ?_
    copiedOld := fun other member => (sound.copiedOld other member).trans_eq bound
    failedOld := fun other member => (sound.failedOld other member).trans_eq bound
    coded := nofun, forward := forward_append sound.forward unsent, unsent := ?_
    storing := nofun, sending := ?_, cleaning := ?_
    copied := fun other member => accounted_handed (sound.copied other member) rfl rfl
    failed := fun other member => accounted_handed (sound.failed other member) rfl rfl }
  · intro other member
    rcases List.mem_append.mp member with before | last
    · exact (sound.handedOld other before).trans_eq bound
    · rw [List.mem_singleton.mp last]
      exact (sound.pendingOld request waits).trans_eq bound
  · intro other member
    rcases handed_unsent sound waits member with fresh | rfl | sent | cleaned
    · exact .inl fresh
    · exact .inr (.inl rfl)
    · rw [free] at sent
      cases sent
    · exact .inr (.inr cleaned)
  · rintro other ⟨⟩
    refine ⟨List.mem_append_right _ List.mem_cons_self, ?_⟩
    intro current listed same
    exact sound.unique current listed request waits same
  · intro other cleaned
    obtain ⟨taken, mine⟩ := sound.cleaning other cleaned
    exact ⟨List.mem_append_left _ taken, mine⟩

theorem fail_sound {state : MeterPublicationScheduler} {deliveries : Deliveries}
    (sound : Sound state deliveries) {publication : Nat} {request : PublishRequest}
    (handler : state.handler = .stored publication request) :
    Sound { state with handler := .ending publication }
      { deliveries with failed := deliveries.failed ++ [request] } := by
  have storing : state.handler.storing = some request := by rw [handler]; rfl
  have free : state.handler.sending = none := by rw [handler]; rfl
  have bound : limit state = state.snapshots := by rw [limit, handler]; rfl
  obtain ⟨waits, _⟩ := sound.storing request (by rw [storing]; rfl)
  refine { sound with
    pendingOld := fun other member => (sound.pendingOld other member).trans_eq bound
    handedOld := fun other member => (sound.handedOld other member).trans_eq bound
    copiedOld := fun other member => (sound.copiedOld other member).trans_eq bound
    failedOld := ?_, coded := nofun, unsent := ?_, storing := nofun, sending := nofun
    failed := ?_ }
  · intro other member
    rcases List.mem_append.mp member with before | last
    · exact (sound.failedOld other before).trans_eq bound
    · rw [List.mem_singleton.mp last]
      exact (sound.pendingOld request waits).trans_eq bound
  · intro other member
    rcases sound.unsent other member with fresh | sent | cleaned
    · exact .inl fresh
    · rw [free] at sent
      cases sent
    · exact .inr (.inr cleaned)
  · intro other member
    rcases List.mem_append.mp member with before | last
    · exact sound.failed other before
    · rw [List.mem_singleton.mp last]
      exact .inl waits

theorem clean_sound {state : MeterPublicationScheduler} {deliveries : Deliveries}
    (sound : Sound state deliveries) {publication : Nat} {request : PublishRequest}
    (handler : state.handler = .sent publication request) :
    Sound { state with
      pending := state.pending.settle request
      handler := .ending publication } deliveries := by
  have sending : state.handler.sending = some request := by rw [handler]; rfl
  have bound : limit state = state.snapshots := by rw [limit, handler]; rfl
  obtain ⟨taken, alone⟩ := sound.sending request (by rw [sending]; rfl)
  have mine : ∀ current ∈ state.pending, current.publicationId = request.publicationId →
      current = request ∨ current.payload ≠ request.payload :=
    fun current member same => .inl (alone current member same)
  have listed : ∀ other ∈ state.pending.settle request, other ∈ state.pending :=
    fun other member => ((Pending.mem_settle sound.unique).mp member).1
  refine { sound with
    unique := Pending.unique_settle sound.unique request
    pendingOld := fun other member =>
      (sound.pendingOld other (listed other member)).trans_eq bound
    handedOld := fun other member => (sound.handedOld other member).trans_eq bound
    copiedOld := fun other member => (sound.copiedOld other member).trans_eq bound
    failedOld := fun other member => (sound.failedOld other member).trans_eq bound
    coded := nofun, unsent := ?_, storing := nofun, sending := nofun, cleaning := ?_
    copied := fun other member =>
      accounted_settle sound taken mine _ _ (sound.copied other member)
    failed := fun other member =>
      accounted_settle sound taken mine _ _ (sound.failed other member) }
  · intro other member
    obtain ⟨before, apart⟩ := (Pending.mem_settle sound.unique).mp member
    rcases sound.unsent other before with fresh | same | cleaned
    · exact .inl fresh
    · rw [sending] at same
      cases same
      exact absurd ⟨rfl, rfl⟩ apart
    · exact .inr (.inr cleaned)
  · intro other cleaned
    obtain ⟨already, others⟩ := sound.cleaning other cleaned
    exact ⟨already, fun current member => others current (listed current member)⟩

theorem proceed_sound {state : MeterPublicationScheduler} {deliveries : Deliveries}
    (sound : Sound state deliveries) (succeeds : Bool)
    (apart : Apart state (.proceed succeeds)) :
    Sound (state.proceed succeeds) (noteDelivery state deliveries (.proceed succeeds) ()) := by
  cases handler : state.handler with
  | idle => simpa only [proceed, noteDelivery, handler] using sound
  | checked publication => simpa only [proceed, noteDelivery, handler] using sound
  | encoded publication request =>
      simp only [proceed, noteDelivery, handler]
      exact store_sound sound handler apart
  | stored publication request =>
      cases succeeds with
      | true =>
          simp only [proceed, noteDelivery, handler, if_true]
          exact send_sound sound handler
      | false =>
          simp only [proceed, noteDelivery, handler, Bool.false_eq_true, if_false]
          exact fail_sound sound handler
  | sent publication request =>
      simp only [proceed, noteDelivery, handler]
      exact clean_sound sound handler
  | ending publication =>
      simp only [proceed, noteDelivery, handler]
      exact sound_of_same sound rfl rfl rfl (by rw [handler]; rfl) (by rw [handler]; rfl)
        (by rw [handler]; rfl) rfl rfl sound.within

theorem next_sound {state : MeterPublicationScheduler} {deliveries : Deliveries}
    (sound : Sound state deliveries) (step : Step)
    (within : step.reconfigures = false) (apart : Apart state step) :
    Sound (state.next step) (noteDelivery state deliveries step ()) := by
  cases step with
  | configure settings => cases within
  | stop =>
      change Sound (state.callStop none) deliveries
      rw [callStop]
      split
      · next idle =>
        exact sound_of_same sound rfl rfl rfl rfl rfl rfl (by rw [idle]; rfl) (by rw [idle]; rfl)
          rfl
      · exact sound
  | start =>
      change Sound state.callStart deliveries
      rw [callStart]
      split
      · next ready =>
        exact sound_of_same sound rfl rfl rfl rfl rfl rfl (by rw [ready.1]; rfl)
          (by rw [ready.1]; rfl) rfl
      · exact sound
  | flush => exact callFlush_sound sound
  | advance succeeds => exact advance_sound sound succeeds apart
  | expire publication =>
      change Sound (state.expire publication) deliveries
      rw [expire]
      split
      · exact sound_of_same sound rfl rfl rfl rfl rfl rfl rfl rfl sound.within
      · exact sound
  | dispatch publication =>
      change Sound (state.dispatch publication) deliveries
      rw [dispatch]
      split
      · next ready =>
        have free : ∀ handler, handler = Handler.checked publication ∨ handler = Handler.idle →
            Sound { state with
              queued := state.queued.erase publication
              handler := handler } deliveries := by
          rintro handler (rfl | rfl)
          · exact sound_of_same sound rfl rfl rfl (by rw [ready.1]; rfl) (by rw [ready.1]; rfl)
              (by rw [ready.1]; rfl) rfl rfl sound.within
          · exact sound_of_same sound rfl rfl rfl (by rw [ready.1]) (by rw [ready.1])
              (by rw [ready.1]) rfl rfl sound.within
        apply free
        split
        · exact .inl rfl
        · exact .inr rfl
      · exact sound
  | snapshot payload => exact takeSnapshot_sound sound payload
  | proceed succeeds => exact proceed_sound sound succeeds apart

theorem configuredWith_sound (settings : List MqttPublicationSettings) :
    Sound (configuredWith settings) {} where
  unique := nofun
  pendingOld := nofun
  handedOld := nofun
  copiedOld := nofun
  failedOld := nofun
  coded := nofun
  forward := List.Pairwise.nil
  unsent := nofun
  storing := nofun
  sending := nofun
  cleaning := nofun
  copied := nofun
  failed := nofun
  within := rfl

theorem delivering_sound (steps : List Step) (state : MeterPublicationScheduler)
    (deliveries : Deliveries) (sound : Sound state deliveries)
    (within : ∀ step ∈ steps, step.reconfigures = false)
    (apart : delivering.Along (fun pair step => Apart pair.1 step) (state, deliveries) steps) :
    Sound (delivering.run (state, deliveries) steps).1
      (delivering.run (state, deliveries) steps).2 := by
  induction steps generalizing state deliveries with
  | nil => exact sound
  | cons step steps ih =>
      exact ih (state.next step) (noteDelivery state deliveries step ())
        (next_sound sound step (within step List.mem_cons_self) apart.1)
        (fun later member => within later (List.mem_cons_of_mem step member)) apart.2

/-- Within one configuration, and in every interleaving in which the two threads stay apart, a
topic only moves forward, no request is handed over twice, and a request that failed is
accounted for. -/
theorem topics_move_forward (settings : List MqttPublicationSettings) (steps : List Step)
    (within : ∀ step ∈ steps, step.reconfigures = false)
    (apart : delivering.Along (fun pair step => Apart pair.1 step) (configuredWith settings, {})
      steps) :
    Forward (delivering.run (configuredWith settings, {}) steps).1.handed ∧
      (delivering.run (configuredWith settings, {}) steps).1.handed.Nodup ∧
      ∀ request ∈ (delivering.run (configuredWith settings, {}) steps).2.failed,
        Accounted (delivering.run (configuredWith settings, {}) steps).1
          (delivering.run (configuredWith settings, {}) steps).2 request := by
  have sound := delivering_sound steps (configuredWith settings) {}
    (configuredWith_sound settings) within apart
  refine ⟨sound.forward, ?_, sound.failed⟩
  refine sound.forward.imp ?_
  rintro earlier later order rfl
  exact Nat.lt_irrefl _ (order rfl)

def frequencySettings : MqttPublicationSettings :=
  { id := "frequency", topic := "site/frequency", retain := true, attributes := ["frequency"] }

instance decidableApart (state : MeterPublicationScheduler) (step : Step) :
    Decidable (Apart state step) := by
  unfold Apart
  split
  · split <;> infer_instance
  · infer_instance
  · infer_instance

def round (payload : String) (succeeds : Bool) : List Step :=
  [.expire 0, .dispatch 0, .snapshot (some payload), .proceed true, .proceed succeeds]

theorem flushed_in_turn :
    let steps := [.start, .advance true, .advance true] ++ round "50.00" false ++
      [.proceed true, .flush, .advance true, .advance true, .advance true] ++ round "50.01" true
    (Forward (delivering.run (configuredWith [frequencySettings], {}) steps).1.handed ∧
      (delivering.run (configuredWith [frequencySettings], {}) steps).1.handed.Nodup ∧
      ∀ request ∈ (delivering.run (configuredWith [frequencySettings], {}) steps).2.failed,
        Accounted (delivering.run (configuredWith [frequencySettings], {}) steps).1
          (delivering.run (configuredWith [frequencySettings], {}) steps).2 request) ∧
      (delivering.run (configuredWith [frequencySettings], {}) steps).1.handed.map
        (·.payload) = ["50.00", "50.01"] := by
  refine ⟨topics_move_forward [frequencySettings] _ ?_ ?_, ?_⟩
  · decide +kernel
  · decide +kernel
  · decide +kernel

/-- The flush has copied the request of the failed round; the next round's payload goes out
first, and the flush then replaces it on the broker by the older one. -/
theorem stale_copy_flushed :
    let steps := [.start, .advance true, .advance true] ++ round "50.00" false ++
      [.proceed true, .flush] ++ round "50.01" true ++ [.proceed true, .advance true]
    (delivering.run (configuredWith [frequencySettings], {}) steps).1.handed.map
        (·.payload) = ["50.01", "50.00"] ∧
      ¬ Forward (delivering.run (configuredWith [frequencySettings], {}) steps).1.handed := by
  intro steps
  have handed : (delivering.run (configuredWith [frequencySettings], {}) steps).1.handed =
      [⟨"frequency", "site/frequency", "50.01", 1, true, 1⟩,
        ⟨"frequency", "site/frequency", "50.00", 1, true, 0⟩] := by decide +kernel
  rw [handed]
  constructor
  · rfl
  · intro forward
    have order := (List.pairwise_cons.mp forward).1 _ List.mem_cons_self rfl
    revert order
    decide

end Msap1.Mqtt
