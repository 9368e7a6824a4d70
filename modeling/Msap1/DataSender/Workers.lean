import Msap1.DataSender.Deliveries

/-! Delivery workers: `DataSenderEngine::deliver_due`, among whatever everybody else does to the
outbox between its calls. -/

namespace Msap1.DataSender

def fnv1a (value : List UInt8) (attempt : UInt32) : UInt64 :=
  let hashed := value.foldl (fun result character =>
    (result ^^^ character.toUInt64) * 1099511628211) 1469598103934665603
  ([0, 8, 16, 24] : List UInt32).foldl (fun result shift =>
    (result ^^^ ((attempt >>> shift) &&& 0xff).toUInt64) * 1099511628211) hashed

def retryDelay (attemptNumber : UInt32) (stableIdentity : String) : UtcNanoseconds :=
  let attempt := if attemptNumber = 0 then 1 else attemptNumber
  let shift := min (attempt.toNat - 1) 10
  let baseSeconds := min (5 * 2 ^ shift) 3600
  let jitterRange := min (baseSeconds / 5) (3600 - baseSeconds)
  let jitter := if jitterRange = 0 then 0
    else (fnv1a stableIdentity.toUTF8.toList attempt).toNat % (jitterRange + 1)
  ((baseSeconds + jitter : Nat) : Int) * 1000000000

def deliveryLease : UtcNanoseconds := 3660000000000

/-- What happens around one delivery of a worker: the events of everybody else before the
payload is read and during the transfer, how the transfer ends, and whether the payload file
can be removed afterwards. -/
structure Turn where
  beforeContent : List Event
  beforeRecord : List Event
  deliver : GeneratedContent → Except SenderFailure DeliveryResult
  removable : Bool

/-- The two handlers of `deliver_due`. -/
def caught : SenderFailure → DeliveryResult
  | .datalogError _ text => ⟨.blocked, "", text⟩
  | _ => ⟨.retryable, "", "delivery dependency is unavailable"⟩

def transfer (sha256 : Body → String) (outbox : Outbox) (item : QueuedDelivery)
    (deliver : GeneratedContent → Except SenderFailure DeliveryResult) : DeliveryResult :=
  match outbox.content sha256 item.artifactId with
  | .error failure => caught failure
  | .ok generated => match deliver generated with
    | .error failure => caught failure
    | .ok result => result

def nextAttemptOf (now : UtcNanoseconds) (item : QueuedDelivery) (result : DeliveryResult) :
    UtcNanoseconds :=
  if result.disposition = .retryable then
    now + retryDelay (UInt32.ofNat (item.attemptCount + 1))
      (item.artifactId ++ ":" ++ item.channelId)
  else 0

def recordCall (sha256 : Body → String) (now : UtcNanoseconds) (outbox : Outbox)
    (item : QueuedDelivery) (turn : Turn) : Call :=
  let result := transfer sha256 ((machine sha256).run outbox turn.beforeContent) item turn.deliver
  .recordResult item.artifactId item.channelId result now (nextAttemptOf now item result)
    turn.removable

/-- The outbox when the result of a delivery is about to be recorded. -/
def arrived (sha256 : Body → String) (outbox : Outbox) (turn : Turn) : Outbox :=
  (machine sha256).run outbox (turn.beforeContent ++ turn.beforeRecord)

/-- A batch of a worker: where it leaves the outbox, what it recorded and how it ended. -/
structure Batch where
  outbox : Outbox
  recorded : List QueuedDelivery
  outcome : Except SenderFailure Unit

/-- The loop of `deliver_due`. -/
def deliverClaimed (sha256 : Body → String) (now : UtcNanoseconds) :
    Outbox → List QueuedDelivery → List Turn → Batch
  | outbox, item :: items, turn :: turns =>
      let before := arrived sha256 outbox turn
      let called := before.effects sha256 (recordCall sha256 now outbox item turn)
      match called.2 with
      | .failed failure => ⟨Trail.last before called.1, [], .error failure⟩
      | _ =>
          let rest := deliverClaimed sha256 now (Trail.last before called.1) items turns
          ⟨rest.outbox, item :: rest.recorded, rest.outcome⟩
  | outbox, _, _ => ⟨outbox, [], .ok ()⟩

/-- `deliver_due`: the deliveries it claimed and its batch. -/
def deliverDue (sha256 : Body → String) (outbox : Outbox) (now : UtcNanoseconds)
    (maximumDeliveries : Nat) (turns : List Turn) :
    Except SenderFailure (List QueuedDelivery × Batch) :=
  if maximumDeliveries = 0 ∨ 100 < maximumDeliveries then
    .error (.failure (.invalidArgument "delivery batch is invalid"))
  else match outbox.claimDue now (now + deliveryLease) maximumDeliveries with
    | .error failure => .error failure
    | .ok (claimed, leased) => .ok (claimed, deliverClaimed sha256 now leased claimed turns)

/-- An event that settles a delivery: an `erase` of its artifact that goes through, or a
recorded success. -/
def Finishes (sha256 : Body → String) (item : QueuedDelivery) (outbox : Outbox)
    (event : Event) : Prop :=
  event.states sha256 outbox ≠ [] ∧
    ((∃ artifactIds discardUnsent, event.issued = .erase artifactIds discardUnsent ∧
      item.artifactId ∈ artifactIds) ∨
    ∃ result attemptedAt nextAttempt removable, event.issued = .recordResult item.artifactId
      item.channelId result attemptedAt nextAttempt removable ∧ result.disposition = .succeeded)

/-- There are turns for all claimed deliveries, and nobody else finishes a delivery between the
claim and its own record. -/
def Undisturbed (sha256 : Body → String) (now : UtcNanoseconds) :
    Outbox → List QueuedDelivery → List Turn → Prop
  | _, [], _ => True
  | _, _ :: _, [] => False
  | outbox, item :: items, turn :: turns =>
      (machine sha256).Along (fun state event => ∀ other ∈ item :: items,
        ¬ Finishes sha256 other state event) outbox (turn.beforeContent ++ turn.beforeRecord) ∧
      Undisturbed sha256 now (Trail.last (arrived sha256 outbox turn)
        ((arrived sha256 outbox turn).effects sha256
          (recordCall sha256 now outbox item turn)).1) items turns

/-- A delivery that a worker can still record: its artifact is not deleted and its row is not
settled. -/
def Open (item : QueuedDelivery) (outbox : Outbox) : Prop :=
  (∃ artifact ∈ outbox.artifacts, artifact.artifactId = item.artifactId ∧
    artifact.deletePending = false) ∧
  ∃ row ∈ outbox.deliveries, row.artifactId = item.artifactId ∧
    row.channelId = item.channelId ∧ ¬ row.state.Settled

section Open

variable {sha256 : Body → String} {log : List (String × Body)} {outbox : Outbox}
  {item : QueuedDelivery}

theorem open_rows (opened : Open item outbox) {after : Outbox}
    (artifacts : ∀ artifact ∈ outbox.artifacts, artifact.artifactId = item.artifactId →
      artifact.deletePending = false → ∃ row ∈ after.artifacts,
        row.artifactId = item.artifactId ∧ row.deletePending = false)
    (deliveries : ∀ delivery ∈ outbox.deliveries, delivery.artifactId = item.artifactId →
      delivery.channelId = item.channelId → ¬ delivery.state.Settled →
        ∃ row ∈ after.deliveries, row.artifactId = item.artifactId ∧
          row.channelId = item.channelId ∧ ¬ row.state.Settled) : Open item after := by
  rcases opened with ⟨⟨artifact, row, identity, shown⟩, delivery, member, owner, line, unsettled⟩
  exact ⟨artifacts artifact row identity shown, deliveries delivery member owner line unsettled⟩

theorem open_updated (opened : Open item outbox) {chosen : Delivery → Bool}
    {change : Delivery → Delivery}
    (identity : ∀ delivery, (change delivery).artifactId = delivery.artifactId)
    (channel : ∀ delivery, (change delivery).channelId = delivery.channelId)
    (unsettled : ∀ delivery, chosen delivery = true → delivery.artifactId = item.artifactId →
      delivery.channelId = item.channelId → ¬ (change delivery).state.Settled) :
    Open item (outbox.updateDeliveries chosen change) := by
  apply open_rows opened
  · intro artifact row identity shown
    exact ⟨artifact, row, identity, shown⟩
  · intro delivery member owner line waiting
    refine ⟨_, List.mem_map_of_mem member, ?_⟩
    by_cases picked : chosen delivery = true
    · rw [if_pos picked, identity, channel]
      exact ⟨owner, line, unsettled delivery picked owner line⟩
    · rw [if_neg picked]
      exact ⟨owner, line, waiting⟩

theorem open_deleted (consistent : Consistent sha256 log outbox) (opened : Open item outbox)
    {chosen : Artifact → Bool}
    (spared : ∀ artifact ∈ outbox.artifacts, artifact.artifactId = item.artifactId →
      artifact.deletePending = false → chosen artifact = false) :
    Open item (outbox.deleteArtifacts chosen) := by
  have alone : ∀ artifact ∈ outbox.artifacts, artifact.artifactId = item.artifactId →
      chosen artifact = false := by
    rcases opened.1 with ⟨known, row, identity, shown⟩
    intro artifact member owner
    have unique := pairwise_unique Artifact.artifactId consistent.identities row member
      (identity.trans owner.symm)
    subst unique
    exact spared known row identity shown
  apply open_rows opened
  · intro artifact row identity shown
    refine ⟨artifact, List.mem_filter.mpr ⟨row, ?_⟩, identity, shown⟩
    rw [alone artifact row identity, Bool.not_false]
  · intro delivery member owner line waiting
    refine ⟨delivery, List.mem_filter.mpr ⟨member, ?_⟩, owner, line, waiting⟩
    simp only [Bool.not_eq_true', List.any_eq_false, Bool.and_eq_true, decide_eq_true_eq, not_and]
    intro artifact row picked same
    rw [alone artifact row (same.trans owner)] at picked
    cases picked

theorem open_marked (opened : Open item outbox) {artifactIds : List String}
    (other : item.artifactId ∉ artifactIds) : Open item (outbox.markErased artifactIds) := by
  apply open_rows opened
  · intro artifact row identity shown
    refine ⟨artifact, ?_, identity, shown⟩
    simp only [Outbox.markErased, Outbox.updateDeliveries, List.mem_map]
    refine ⟨artifact, row, if_neg ?_⟩
    rw [identity]
    exact other
  · intro delivery member owner line waiting
    refine ⟨delivery, ?_, owner, line, waiting⟩
    rw [markErased_deliveries]
    simp only [Outbox.updateDeliveries, List.mem_map]
    refine ⟨delivery, member, if_neg ?_⟩
    simp [owner, other]

theorem open_unrecorded {disposition : DeliveryDisposition} (other : disposition ≠ .succeeded) :
    ¬ (Outbox.resultState disposition).Settled := by
  cases disposition with
  | succeeded => exact absurd rfl other
  | retryable => decide
  | blocked => decide

/-- Every effect but a success of the delivery itself and the erasure of its artifact leaves
it open. -/
theorem effect_open (consistent : Consistent sha256 log outbox) {call : Call} {after : Outbox}
    (effect : Effect sha256 outbox call after)
    (kept : ∀ artifactIds discardUnsent, call = .erase artifactIds discardUnsent →
      item.artifactId ∉ artifactIds)
    (pending : ∀ result attemptedAt nextAttempt removable, call = .recordResult item.artifactId
      item.channelId result attemptedAt nextAttempt removable → result.disposition ≠ .succeeded)
    (opened : Open item outbox) : Open item after := by
  cases effect with
  | unrelated artifacts deliveries files watermarks =>
      unfold Open
      rw [artifacts, deliveries]
      exact opened
  | inserted insertable =>
      apply open_rows opened
      · intro artifact row identity shown
        exact ⟨artifact, List.mem_append_left _ row, identity, shown⟩
      · intro delivery member same
        exact fun line waiting => ⟨delivery, List.mem_append_left _ member, same, line, waiting⟩
  | claimed returned =>
      rcases claimDue_ok returned with ⟨-, same⟩
      subst same
      apply open_updated opened
      · intro delivery
        rfl
      · intro delivery
        rfl
      · intro delivery _ _ _
        simp [DeliveryState.Settled]
  | recorded =>
      apply open_updated opened
      · intro delivery
        rfl
      · intro delivery
        rfl
      · intro delivery chosen owner line
        simp only [Outbox.recordable, Bool.and_eq_true, decide_eq_true_eq] at chosen
        rw [← chosen.1.1, owner, ← chosen.1.2, line] at pending
        exact open_unrecorded (pending _ _ _ _ rfl)
  | retried retries waiting =>
      apply open_updated opened
      · intro delivery
        rfl
      · intro delivery
        rfl
      · intro delivery _ _ _
        simp [DeliveryState.Settled]
  | marked allowed => exact open_marked opened (kept _ _ rfl)
  | deleted doomed =>
      apply open_deleted consistent opened
      intro artifact row _ shown
      by_contra picked
      rw [Bool.not_eq_false] at picked
      rw [doomed artifact row picked] at shown
      cases shown
  | pruned prunes complete =>
      apply open_deleted consistent opened
      intro artifact row identity _
      by_contra picked
      rw [Bool.not_eq_false] at picked
      rcases opened.2 with ⟨delivery, member, owner, -, unsettled⟩
      exact unsettled (idle_settled consistent (.inl (complete artifact row picked)) member
        (owner.trans identity.symm))
  | noted keeps idle =>
      apply open_rows opened
      · intro artifact row identity shown
        refine ⟨_, List.mem_map_of_mem row, ?_, ?_⟩
        · split
          · rw [keeps.artifactId]
            exact identity
          · exact identity
        · split
          · rw [keeps.deletePending]
            exact shown
          · exact shown
      · intro delivery member owner line waiting
        exact ⟨delivery, member, owner, line, waiting⟩
  | blocked damaged =>
      apply open_updated opened
      · intro delivery
        rfl
      · intro delivery
        rfl
      · intro delivery _ _ _
        simp [DeliveryState.Settled]
  | recovered fresh visible window found =>
      apply open_rows opened
      · intro artifact row identity shown
        exact ⟨artifact, List.mem_append_left _ row, identity, shown⟩
      · intro delivery member owner line waiting
        exact ⟨delivery, member, owner, line, waiting⟩
  | _ => exact opened

theorem next_open {event : Event} (consistent : Consistent sha256 log outbox)
    (undisturbed : ¬ Finishes sha256 item outbox event) (opened : Open item outbox) :
    Open item ((machine sha256).next outbox event) := by
  by_cases idle : event.states sha256 outbox = []
  · rw [next_states, idle]
    exact opened
  · apply next_keeps _ consistent opened
    intro before earlier known after member effect holds
    apply effect_open known effect _ _ holds
    · intro artifactIds discardUnsent same named
      exact undisturbed ⟨idle, .inl ⟨artifactIds, discardUnsent, same, named⟩⟩
    · intro result attemptedAt nextAttempt removable same succeeded
      exact undisturbed ⟨idle, .inr ⟨result, attemptedAt, nextAttempt, removable, same,
        succeeded⟩⟩

theorem run_open (events : List Event) (consistent : Consistent sha256 log outbox)
    (undisturbed : (machine sha256).Along (fun state event => ¬ Finishes sha256 item state event)
      outbox events) (opened : Open item outbox) :
    Open item ((machine sha256).run outbox events) := by
  induction events generalizing outbox log with
  | nil => exact opened
  | cons event events ih =>
      rw [Machine.run_cons]
      exact ih (next_consistent event consistent) undisturbed.2
        (next_open consistent undisturbed.1 opened)

theorem run_consistent (events : List Event) (consistent : Consistent sha256 log outbox) :
    ∃ logged, Consistent sha256 logged ((machine sha256).run outbox events) := by
  apply (machine sha256).run_invariant (fun state => ∃ logged, Consistent sha256 logged state)
  · intro state event known
    rcases known with ⟨earlier, consistent⟩
    exact ⟨_, next_consistent event consistent⟩
  · exact ⟨log, consistent⟩

theorem arrived_consistent (turn : Turn) (consistent : Consistent sha256 log outbox) :
    ∃ logged, Consistent sha256 logged (arrived sha256 outbox turn) :=
  run_consistent (turn.beforeContent ++ turn.beforeRecord) consistent

theorem record_accepted (consistent : Consistent sha256 log outbox) (opened : Open item outbox)
    (result : DeliveryResult) (attemptedAt nextAttempt : UtcNanoseconds) (removable : Bool) :
    (outbox.recordResult item.artifactId item.channelId result attemptedAt nextAttempt
      removable).2 = .ok () := by
  rcases opened.2 with ⟨row, member, owner, line, unsettled⟩
  have only : outbox.deliveries.filter (Outbox.recordable item.artifactId item.channelId) =
      [row] := by
    apply nodup_singleton_of
    · apply List.Nodup.filter
      apply consistent.keys.imp
      intro left right apart equal
      exact apart (congrArg Delivery.artifactId equal) (congrArg Delivery.channelId equal)
    · apply List.mem_filter.mpr
      refine ⟨member, ?_⟩
      simp [Outbox.recordable, owner, line, unsettled]
    · intro other found
      rcases List.mem_filter.mp found with ⟨here, chosen⟩
      simp only [Outbox.recordable, Bool.and_eq_true, decide_eq_true_eq] at chosen
      exact delivery_unique consistent here member (chosen.1.1.trans owner.symm)
        (chosen.1.2.trans line.symm)
  unfold Outbox.recordResult
  rw [List.countP_eq_length_filter, only, if_neg (by simp)]

theorem claimed_open (consistent : Consistent sha256 log outbox) {now leaseUntil : UtcNanoseconds}
    {limit : Nat} {claimed : List QueuedDelivery} {leased : Outbox}
    (returned : outbox.claimDue now leaseUntil limit = .ok (claimed, leased)) :
    (∀ item ∈ claimed, Open item leased) ∧ claimed.Pairwise (fun left right =>
      left.artifactId = right.artifactId → left.channelId ≠ right.channelId) := by
  rcases claimDue_ok returned with ⟨rows, same⟩
  subst rows same
  constructor
  · intro item handed
    rcases List.mem_map.mp handed with ⟨row, due, shown⟩
    rcases dueRows_row due with ⟨member, eligible⟩
    have unsettled := eligible_unsettled eligible
    simp only [Outbox.eligible, Bool.and_eq_true, List.any_eq_true, decide_eq_true_eq,
      Bool.not_eq_true'] at eligible
    rcases eligible.1.1 with ⟨artifact, inside, ⟨identity, -⟩, visible⟩
    have opened : Open item outbox := by
      rw [← shown]
      exact ⟨⟨artifact, inside, identity, visible⟩, row, member, rfl, rfl, unsettled⟩
    apply open_updated opened
    · intro delivery
      rfl
    · intro delivery
      rfl
    · intro delivery _ _ _
      simp [DeliveryState.Settled]
  · rw [List.pairwise_map]
    apply List.Pairwise.sublist (List.take_sublist _ _)
    have filtered : (outbox.deliveries.filter (outbox.eligible now)).Pairwise (fun left right =>
        left.artifactId = right.artifactId → left.channelId ≠ right.channelId) :=
      consistent.keys.sublist List.filter_sublist
    apply (List.mergeSort_perm _ _).symm.pairwise filtered
    intro left right apart identity channel
    exact apart identity.symm channel.symm

theorem deliverClaimed_completes (now : UtcNanoseconds) (items : List QueuedDelivery)
    (turns : List Turn) (consistent : Consistent sha256 log outbox)
    (opened : ∀ item ∈ items, Open item outbox)
    (distinct : items.Pairwise (fun left right =>
      left.artifactId = right.artifactId → left.channelId ≠ right.channelId))
    (undisturbed : Undisturbed sha256 now outbox items turns) :
    (deliverClaimed sha256 now outbox items turns).outcome = .ok () ∧
      (deliverClaimed sha256 now outbox items turns).recorded = items := by
  induction items generalizing outbox log turns with
  | nil =>
      unfold deliverClaimed
      exact ⟨rfl, rfl⟩
  | cons item items ih =>
      cases turns with
      | nil => exact absurd undisturbed id
      | cons turn turns =>
          rcases undisturbed with ⟨quiet, rest⟩
          rcases List.pairwise_cons.mp distinct with ⟨apart, others⟩
          rcases arrived_consistent turn consistent with ⟨logged, known⟩
          have reached : ∀ other ∈ item :: items, Open other (arrived sha256 outbox turn) := by
            intro other member
            apply run_open _ consistent _ (opened other member)
            exact Machine.along_imp _ (fun state event quiet => quiet other member) quiet
          have accepted : ((arrived sha256 outbox turn).effects sha256
              (recordCall sha256 now outbox item turn)).2 = .done := by
            unfold recordCall Outbox.effects
            dsimp only
            rw [record_accepted known (reached item List.mem_cons_self)]
            rfl
          have finished := ih turns (next_consistent
            (.call (recordCall sha256 now outbox item turn)) known) (by
              intro other member
              apply next_open known _ (reached other (List.mem_cons_of_mem item member))
              intro finishes
              rcases finishes.2 with ⟨artifactIds, discardUnsent, same, -⟩ |
                ⟨result, attemptedAt, nextAttempt, removable, same, -⟩
              · cases same
              · simp only [Event.issued, recordCall, Call.recordResult.injEq] at same
                exact apart other member same.1 same.2.1) others rest
          unfold deliverClaimed
          dsimp only
          rw [accepted]
          exact ⟨finished.1, congrArg (List.cons item) finished.2⟩

end Open

/-- In every run of the outbox, a worker whose claimed deliveries nobody else finishes records
all of them and returns. -/
theorem batch_completes (sha256 : Body → String) (policy : OutboxStoragePolicy)
    (events : List Event) (now : UtcNanoseconds) (maximumDeliveries : Nat)
    (allowed : 0 < maximumDeliveries ∧ maximumDeliveries ≤ 100)
    (claimed : List QueuedDelivery) (leased : Outbox) (turns : List Turn)
    (claims : ((machine sha256).run { policy } events).claimDue now (now + deliveryLease)
      maximumDeliveries = .ok (claimed, leased))
    (undisturbed : Undisturbed sha256 now leased claimed turns) :
    ∃ batch, deliverDue sha256 ((machine sha256).run { policy } events) now maximumDeliveries
        turns = .ok (claimed, batch) ∧ batch.outcome = .ok () ∧ batch.recorded = claimed := by
  have start := logging_consistent sha256 policy events
  rw [logging, Machine.traced_state] at start
  rcases claimed_open start claims with ⟨opened, distinct⟩
  have effect : Effect sha256 _ (.claimDue now (now + deliveryLease) maximumDeliveries) leased :=
    .claimed claims
  rcases effect_consistent effect start with ⟨logged, consistent, -⟩
  have completes := deliverClaimed_completes now claimed turns consistent opened distinct
    undisturbed
  refine ⟨deliverClaimed sha256 now leased claimed turns, ?_, completes⟩
  unfold deliverDue
  rw [if_neg (by omega), claims]

/-- A checksum function for closed runs; what it computes does not matter there. -/
def plainChecksum (_ : Body) : String :=
  "0000000000000000000000000000000000000000000000000000000000000000"

def singleArtifact : List Event :=
  [.call (.initializeOutbox (fun _ => true)),
    .call (.enqueue ⟨"a", "job", 1, 1, ⟨0, 1⟩⟩
      ⟨"a", "a.json", "application/json", "json", [123, 125],
      plainChecksum []⟩ ["c"] false 1000000000)]

/-- A transfer that succeeds while nobody else does anything, and one during which an
administrator discards the artifact. -/
def quietTurn : Turn := ⟨[], [], fun _ => .ok ⟨.succeeded, "", ""⟩, true⟩

def erasedTurn : Turn := ⟨[], [.call (.erase ["a"] true)], fun _ => .ok ⟨.succeeded, "", ""⟩, true⟩

theorem quiet_batch_completes : ∃ claimed batch,
    deliverDue plainChecksum ((machine plainChecksum).run {} singleArtifact) 5 1 [quietTurn] =
        .ok (claimed, batch) ∧ claimed.length = 1 ∧ batch.outcome = .ok () ∧
      batch.recorded = claimed := by
  have single : (((machine plainChecksum).run {} singleArtifact).claimDue 5 (5 + deliveryLease)
      1).map (fun claim => claim.1.length) = .ok 1 := by decide +kernel
  cases claims : ((machine plainChecksum).run {} singleArtifact).claimDue 5 (5 + deliveryLease) 1
    with
  | error failure =>
      rw [claims] at single
      cases single
  | ok claim =>
      rcases claim with ⟨claimed, leased⟩
      rw [claims] at single
      have length : claimed.length = 1 := Except.ok.inj single
      have undisturbed : Undisturbed plainChecksum 5 leased claimed [quietTurn] := by
        rcases List.length_eq_one_iff.mp length with ⟨item, same⟩
        rw [same]
        exact ⟨trivial, trivial⟩
      rcases batch_completes plainChecksum {} singleArtifact 5 1 (by decide) claimed leased
        [quietTurn] claims undisturbed with ⟨batch, returned, outcome, recorded⟩
      exact ⟨claimed, batch, returned, length, outcome, recorded⟩

/-- The administrator's deletion makes the worker throw. -/
theorem erased_delivery_throws :
    (deliverDue plainChecksum ((machine plainChecksum).run {} singleArtifact) 5 1
      [erasedTurn]).map (fun done => (done.1.length, done.2.recorded.length, done.2.outcome)) =
    .ok (1, 0, .error (.failure (.runtimeError "delivery is unknown or already finalized"))) := by
  decide +kernel

end Msap1.DataSender
