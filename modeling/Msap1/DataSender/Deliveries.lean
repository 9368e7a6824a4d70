import Msap1.DataSender.Promises

/-! Settled deliveries stay settled, artifacts go only by `erase` and by pruning, and no
delivery is leased twice at a time. -/

namespace Msap1.DataSender

def Event.states (sha256 : Body → String) (outbox : Outbox) : Event → List Outbox
  | .call issued => (outbox.effects sha256 issued).1
  | .stopped issued count => (outbox.effects sha256 issued).1.take count
  | .crash policy => [{ outbox with policy, initialized := false }]

/-- The call whose effects an event has; a crash only replaces the policy. -/
def Event.issued : Event → Call
  | .call issued => issued
  | .stopped issued _ => issued
  | .crash policy => .updateStoragePolicy policy

section Walks

variable {sha256 : Body → String} {log : List (String × Body)} {outbox : Outbox}

theorem next_states (event : Event) :
    (machine sha256).next outbox event = Trail.last outbox (event.states sha256 outbox) := by
  cases event with
  | call issued => rfl
  | stopped issued count => rfl
  | crash policy => rfl

theorem states_walk (event : Event) :
    Trail.Walks (fun before after => Effect sha256 before event.issued after) outbox
      (event.states sha256 outbox) := by
  cases event with
  | call issued => exact effects_walk issued
  | stopped issued count => exact Trail.walks_take (effects_walk issued) count
  | crash policy => exact Trail.walks_cons (.unrelated rfl rfl rfl (fun _ => rfl)) Trail.walks_nil

theorem next_keeps {Holds : Outbox → Prop} {event : Event}
    (preserved : ∀ before log, Consistent sha256 log before →
      ∀ after ∈ event.states sha256 outbox, Effect sha256 before event.issued after →
        Holds before → Holds after)
    (consistent : Consistent sha256 log outbox) (holds : Holds outbox) :
    Holds ((machine sha256).next outbox event) := by
  rw [next_states]
  have both : (∃ log, Consistent sha256 log (Trail.last outbox (event.states sha256 outbox))) ∧
      Holds (Trail.last outbox (event.states sha256 outbox)) := by
    apply Trail.walks_invariant_within (fun state =>
      (∃ log, Consistent sha256 log state) ∧ Holds state) _ (states_walk event)
      ⟨⟨log, consistent⟩, holds⟩
    intro before after member effect known
    rcases known with ⟨⟨earlier, consistent⟩, holds⟩
    rcases effect_consistent effect consistent with ⟨logged, kept, -⟩
    exact ⟨⟨logged, kept⟩, preserved before earlier consistent after member effect holds⟩
  exact both.2

end Walks

def Outbox.deliveryStates (outbox : Outbox) (artifactId channelId : String) :
    List DeliveryState :=
  (outbox.deliveries.filter (fun delivery =>
    delivery.artifactId = artifactId && delivery.channelId = channelId)).map Delivery.state

/-- There is a row of the delivery, in the given state. -/
def RowAt (artifactId channelId : String) (state : DeliveryState) (outbox : Outbox) : Prop :=
  ∃ row ∈ outbox.deliveries,
    row.artifactId = artifactId ∧ row.channelId = channelId ∧ row.state = state

section Settled

variable {sha256 : Body → String} {log : List (String × Body)} {outbox : Outbox}
  {artifactId channelId : String} {state : DeliveryState}

theorem rowAt_updated (row : RowAt artifactId channelId state outbox) (settled : state.Settled)
    {chosen : Delivery → Bool} {change : Delivery → Delivery}
    (unsettled : ∀ delivery ∈ outbox.deliveries, chosen delivery = true →
      ¬ delivery.state.Settled) :
    RowAt artifactId channelId state (outbox.updateDeliveries chosen change) := by
  rcases row with ⟨delivery, member, artifact, channel, same⟩
  refine ⟨delivery, ?_, artifact, channel, same⟩
  have kept : ¬ chosen delivery = true := by
    intro picked
    apply unsettled delivery member picked
    rw [same]
    exact settled
  simp only [Outbox.updateDeliveries, List.mem_map]
  exact ⟨delivery, member, if_neg kept⟩

theorem rowAt_deleted (consistent : Consistent sha256 log outbox)
    (row : RowAt artifactId channelId state outbox) {chosen : Artifact → Bool}
    (kept : (outbox.deleteArtifacts chosen).artifact? artifactId ≠ none) :
    RowAt artifactId channelId state (outbox.deleteArtifacts chosen) := by
  rcases row with ⟨delivery, member, artifact, channel, same⟩
  refine ⟨delivery, ?_, artifact, channel, same⟩
  rcases Option.ne_none_iff_exists'.mp kept with ⟨survivor, found⟩
  have identity : survivor.artifactId = artifactId := by
    have facts := List.find?_some found
    simpa using facts
  rcases List.mem_filter.mp (List.mem_of_find?_eq_some found) with ⟨inside, spared⟩
  apply List.mem_filter.mpr
  refine ⟨member, ?_⟩
  simp only [Bool.not_eq_true', List.any_eq_false, Bool.and_eq_true, decide_eq_true_eq, not_and]
  intro other row picked owner
  have unique := pairwise_unique Artifact.artifactId consistent.identities row inside
    (by rw [owner, artifact, identity])
  subst unique
  rw [picked] at spared
  cases spared

theorem effect_rowAt (consistent : Consistent sha256 log outbox) {call : Call} {after : Outbox}
    (effect : Effect sha256 outbox call after) (row : RowAt artifactId channelId state outbox)
    (settled : state.Settled) (kept : after.artifact? artifactId ≠ none) :
    RowAt artifactId channelId state after := by
  cases effect with
  | unrelated artifacts deliveries files watermarks =>
      unfold RowAt
      rw [deliveries]
      exact row
  | written free => exact row
  | inserted insertable =>
      rcases row with ⟨delivery, member, same⟩
      exact ⟨delivery, List.mem_append_left _ member, same⟩
  | claimed returned =>
      rcases claimDue_ok returned with ⟨-, same⟩
      subst same
      apply rowAt_updated row settled
      intro delivery member chosen
      exact eligible_unsettled (claimed_row consistent member chosen)
  | recorded =>
      apply rowAt_updated row settled
      intro delivery _ chosen
      exact recordable_unsettled chosen
  | retried retries waiting =>
      apply rowAt_updated row settled
      intro delivery _ chosen
      exact waiting_unsettled (waiting delivery chosen)
  | marked allowed =>
      apply rowAt_updated row settled
      intro delivery _ chosen
      exact and_unsettled chosen
  | unlinked member doomed => exact row
  | deleted doomed => exact rowAt_deleted consistent row kept
  | pruned prunes complete => exact rowAt_deleted consistent row kept
  | noted keeps idle => exact row
  | blocked damaged =>
      apply rowAt_updated row settled
      intro delivery _ chosen
      exact and_unsettled chosen
  | recovered fresh visible window found => exact row

theorem nodup_singleton_of {Item : Type} {items : List Item} {item : Item} (nodup : items.Nodup)
    (member : item ∈ items) (all : ∀ other ∈ items, other = item) : items = [item] := by
  have replicated := List.eq_replicate_of_mem all
  have short : items.length ≤ 1 := by
    rw [replicated] at nodup
    exact List.nodup_replicate.mp nodup
  have nonempty : 0 < items.length := List.length_pos_of_mem member
  have length : items.length = 1 := by omega
  rw [replicated, length, List.replicate_one]

theorem deliveryStates_rowAt (consistent : Consistent sha256 log outbox)
    (row : RowAt artifactId channelId state outbox) :
    outbox.deliveryStates artifactId channelId = [state] := by
  rcases row with ⟨delivery, member, artifact, channel, same⟩
  have only : outbox.deliveries.filter (fun other =>
      other.artifactId = artifactId && other.channelId = channelId) = [delivery] := by
    apply nodup_singleton_of
    · apply List.Nodup.filter
      apply consistent.keys.imp
      intro left right apart equal
      exact apart (congrArg Delivery.artifactId equal) (congrArg Delivery.channelId equal)
    · simp [member, artifact, channel]
    · intro other found
      rcases List.mem_filter.mp found with ⟨here, key⟩
      simp only [Bool.and_eq_true, decide_eq_true_eq] at key
      exact delivery_unique consistent here member (key.1.trans artifact.symm)
        (key.2.trans channel.symm)
  rw [Outbox.deliveryStates, only, List.map_singleton, same]

theorem due_unsettled (consistent : Consistent sha256 log outbox) {now : UtcNanoseconds}
    {limit : Nat} {row delivery : Delivery} (due : row ∈ outbox.dueRows now limit)
    (member : delivery ∈ outbox.deliveries) (artifact : row.artifactId = delivery.artifactId)
    (channel : row.channelId = delivery.channelId) : ¬ delivery.state.Settled := by
  rcases dueRows_row due with ⟨inside, eligible⟩
  rw [← delivery_unique consistent inside member artifact channel]
  exact eligible_unsettled eligible

end Settled

/-- While its artifact is there, a settled delivery keeps its state over any events, and it is
never handed out. -/
def SettledForGood (sha256 : Body → String) (outbox : Outbox) : Prop :=
  ∀ delivery ∈ outbox.deliveries, delivery.state.Settled →
    (∀ later, (machine sha256).Along (fun state event => ∀ passed ∈ event.states sha256 state,
        passed.artifact? delivery.artifactId ≠ none) outbox later →
      ((machine sha256).run outbox later).deliveryStates delivery.artifactId delivery.channelId =
        [delivery.state]) ∧
    (∀ now limit queued, outbox.due now limit = .ok queued → ∀ item ∈ queued,
      (item.artifactId, item.channelId) ≠ (delivery.artifactId, delivery.channelId)) ∧
    (∀ now leaseUntil limit queued after,
      outbox.claimDue now leaseUntil limit = .ok (queued, after) → ∀ item ∈ queued,
        (item.artifactId, item.channelId) ≠ (delivery.artifactId, delivery.channelId))

section Settled

variable {sha256 : Body → String} {log : List (String × Body)} {outbox : Outbox}

theorem run_rowAt {artifactId channelId : String} {state : DeliveryState}
    (settled : state.Settled) (later : List Event) (consistent : Consistent sha256 log outbox)
    (row : RowAt artifactId channelId state outbox)
    (along : (machine sha256).Along (fun state event => ∀ passed ∈ event.states sha256 state,
      passed.artifact? artifactId ≠ none) outbox later) :
    ((machine sha256).run outbox later).deliveryStates artifactId channelId = [state] := by
  induction later generalizing outbox log with
  | nil => exact deliveryStates_rowAt consistent row
  | cons event later ih =>
      rw [Machine.run_cons]
      apply ih (next_consistent event consistent) _ along.2
      apply next_keeps _ consistent row
      intro before earlier known after member effect present
      exact effect_rowAt known effect present settled (along.1 after member)

theorem settled_for_good (consistent : Consistent sha256 log outbox) :
    SettledForGood sha256 outbox := by
  intro delivery member settled
  refine ⟨?_, ?_, ?_⟩
  · intro later along
    exact run_rowAt settled later consistent ⟨delivery, member, rfl, rfl, rfl⟩ along
  · intro now limit queued returned item handed same
    unfold Outbox.due at returned
    split at returned
    · cases returned
    · cases returned
      rcases List.mem_map.mp handed with ⟨row, due, shown⟩
      rw [Prod.mk.injEq, ← shown] at same
      exact due_unsettled consistent due member same.1 same.2 settled
  · intro now leaseUntil limit queued after returned item handed same
    rcases claimDue_ok returned with ⟨rows, -⟩
    rw [rows] at handed
    rcases List.mem_map.mp handed with ⟨row, due, shown⟩
    rw [Prod.mk.injEq, ← shown] at same
    exact due_unsettled consistent due member same.1 same.2 settled

end Settled

/-- A visible artifact goes only when `erase` names it, with the confirmation that unsent
deliveries need, or by pruning once everything was delivered. -/
def RemovedRightly (call : Call) (before after : Outbox) : Prop :=
  ∀ artifactId artifact, before.visible? artifactId = some artifact →
    after.visible? artifactId = none →
      (∃ artifactIds discardUnsent, call = .erase artifactIds discardUnsent ∧
        artifactId ∈ artifactIds ∧ (before.unsent artifact = true → discardUnsent = true)) ∨
      call.Prunes ∧ before.allSucceeded artifactId = true

section Removal

variable {sha256 : Body → String} {outbox : Outbox}

theorem hidden_row {artifactId : String} (hidden : outbox.visible? artifactId = none)
    {artifact : Artifact} (row : artifact ∈ outbox.artifacts)
    (identity : artifact.artifactId = artifactId) : artifact.deletePending = true := by
  have missing := List.find?_eq_none.mp hidden artifact row
  simpa [identity] using missing

theorem kept_rightly {call : Call} {after : Outbox}
    (kept : ∀ artifact ∈ outbox.artifacts, artifact.deletePending = false →
      ∃ row ∈ after.artifacts, row.artifactId = artifact.artifactId ∧
        row.deletePending = false) : RemovedRightly call outbox after := by
  intro artifactId artifact visible hidden
  rcases visible_row visible with ⟨row, identity, shown⟩
  rcases kept artifact row shown with ⟨survivor, inside, same, present⟩
  rw [hidden_row hidden inside (same.trans identity)] at present
  cases present

theorem pruned_rightly {call : Call} {chosen : Artifact → Bool} (prunes : call.Prunes)
    (complete : ∀ artifact ∈ outbox.artifacts, chosen artifact = true →
      outbox.allSucceeded artifact.artifactId = true) :
    RemovedRightly call outbox (outbox.deleteArtifacts chosen) := by
  intro artifactId artifact visible hidden
  rcases visible_row visible with ⟨row, identity, shown⟩
  refine .inr ⟨prunes, ?_⟩
  rw [← identity]
  apply complete artifact row
  by_contra spared
  rw [Bool.not_eq_true] at spared
  have inside : artifact ∈ (outbox.deleteArtifacts chosen).artifacts :=
    List.mem_filter.mpr ⟨row, by rw [spared, Bool.not_false]⟩
  rw [hidden_row hidden inside identity] at shown
  cases shown

theorem marked_rightly {artifactIds : List String} {discardUnsent : Bool}
    (allowed : ∀ artifactId ∈ artifactIds, ∃ artifact,
      outbox.visible? artifactId = some artifact ∧
        (outbox.unsent artifact = true → discardUnsent = true)) :
    RemovedRightly (.erase artifactIds discardUnsent) outbox (outbox.markErased artifactIds) := by
  intro artifactId artifact visible hidden
  rcases visible_row visible with ⟨row, identity, shown⟩
  refine .inl ⟨artifactIds, discardUnsent, rfl, ?_⟩
  by_cases named : artifactId ∈ artifactIds
  · rcases allowed artifactId named with ⟨target, found, confirmed⟩
    rw [visible] at found
    cases found
    exact ⟨named, confirmed⟩
  · have inside : artifact ∈ (outbox.markErased artifactIds).artifacts := by
      simp only [Outbox.markErased, Outbox.updateDeliveries, List.mem_map]
      refine ⟨artifact, row, if_neg ?_⟩
      rw [identity]
      exact named
    rw [hidden_row hidden inside identity] at shown
    cases shown

theorem effect_removal {call : Call} {after : Outbox} (effect : Effect sha256 outbox call after) :
    RemovedRightly call outbox after := by
  cases effect with
  | unrelated artifacts deliveries files watermarks =>
      apply kept_rightly
      intro artifact row shown
      rw [artifacts]
      exact ⟨artifact, row, rfl, shown⟩
  | claimed returned =>
      rcases claimDue_ok returned with ⟨-, same⟩
      subst same
      apply kept_rightly
      intro artifact row shown
      exact ⟨artifact, row, rfl, shown⟩
  | inserted insertable =>
      apply kept_rightly
      intro artifact row shown
      exact ⟨artifact, List.mem_append_left _ row, rfl, shown⟩
  | recovered fresh visible window found =>
      apply kept_rightly
      intro artifact row shown
      exact ⟨artifact, List.mem_append_left _ row, rfl, shown⟩
  | noted keeps idle =>
      apply kept_rightly
      intro artifact row shown
      refine ⟨_, List.mem_map_of_mem row, ?_, ?_⟩
      · split
        · exact keeps.artifactId artifact
        · rfl
      · split
        · rw [keeps.deletePending]
          exact shown
        · exact shown
  | deleted doomed =>
      apply kept_rightly
      intro artifact row shown
      refine ⟨artifact, List.mem_filter.mpr ⟨row, ?_⟩, rfl, shown⟩
      by_contra picked
      simp only [Bool.not_eq_true, Bool.not_eq_false'] at picked
      rw [doomed artifact row picked] at shown
      cases shown
  | pruned prunes complete => exact pruned_rightly prunes complete
  | marked allowed => exact marked_rightly allowed
  | _ =>
      apply kept_rightly
      intro artifact row shown
      exact ⟨artifact, row, rfl, shown⟩

end Removal

/-- Between two claims of a delivery its artifact is not deleted and no result is recorded. -/
def LeaseRuns (sha256 : Body → String) (artifactId channelId : String) (outbox : Outbox)
    (event : Event) : Prop :=
  (∀ passed ∈ event.states sha256 outbox, passed.artifact? artifactId ≠ none) ∧
    ∀ result attemptedAt nextAttempt removable, event.call? ≠
      some (.recordResult artifactId channelId result attemptedAt nextAttempt removable)

/-- A delivery that was claimed is not claimed again before its lease ends. -/
def LeasedOnce (sha256 : Body → String) (outbox : Outbox) : Prop :=
  ∀ now leaseUntil limit queued after,
    outbox.claimDue now leaseUntil limit = .ok (queued, after) → ∀ item ∈ queued,
      ∀ between, (machine sha256).Along (LeaseRuns sha256 item.artifactId item.channelId) after
        between →
        ∀ laterNow laterUntil laterLimit laterQueued laterAfter,
          ((machine sha256).run after between).claimDue laterNow laterUntil laterLimit =
            .ok (laterQueued, laterAfter) →
          (∃ again ∈ laterQueued, again.artifactId = item.artifactId ∧
            again.channelId = item.channelId) → leaseUntil ≤ laterNow

/-- The rows of a delivery are leased until a time, or settled. -/
def Held (artifactId channelId : String) (leaseUntil : UtcNanoseconds) (outbox : Outbox) : Prop :=
  outbox.artifact? artifactId ≠ none ∧
    ∀ delivery ∈ outbox.deliveries, delivery.artifactId = artifactId →
      delivery.channelId = channelId →
        delivery.state = .inFlight ∧ leaseUntil ≤ delivery.nextAttempt ∨ delivery.state.Settled

section Leases

variable {sha256 : Body → String} {log : List (String × Body)} {outbox : Outbox}
  {artifactId channelId : String} {leaseUntil : UtcNanoseconds}

theorem eligible_time {now : UtcNanoseconds} {delivery : Delivery}
    (eligible : outbox.eligible now delivery = true) : delivery.nextAttempt ≤ now := by
  simp only [Outbox.eligible, Bool.and_eq_true, decide_eq_true_eq] at eligible
  exact eligible.2

theorem claimDue_lease {now leaseUntil : UtcNanoseconds} {limit : Nat}
    {queued : List QueuedDelivery} {after : Outbox}
    (returned : outbox.claimDue now leaseUntil limit = .ok (queued, after)) :
    now < leaseUntil := by
  unfold Outbox.claimDue at returned
  split at returned
  · cases returned
  · next valid =>
      simp only [not_or, not_le] at valid
      exact valid.2.2

theorem held_updated (held : Held artifactId channelId leaseUntil outbox)
    {chosen : Delivery → Bool} {change : Delivery → Delivery} {after : Outbox}
    (deliveries : after.deliveries = (outbox.updateDeliveries chosen change).deliveries)
    (present : after.artifact? artifactId ≠ none)
    (identity : ∀ delivery, (change delivery).artifactId = delivery.artifactId)
    (channel : ∀ delivery, (change delivery).channelId = delivery.channelId)
    (changed : ∀ delivery ∈ outbox.deliveries, chosen delivery = true →
      delivery.artifactId = artifactId → delivery.channelId = channelId →
        (change delivery).state = .inFlight ∧ leaseUntil ≤ (change delivery).nextAttempt ∨
          (change delivery).state.Settled) :
    Held artifactId channelId leaseUntil after := by
  refine ⟨present, ?_⟩
  rw [deliveries]
  intro delivery member owner line
  rcases List.mem_map.mp member with ⟨original, inside, same⟩
  by_cases picked : chosen original = true
  · rw [if_pos picked] at same
    subst same
    rw [identity] at owner
    rw [channel] at line
    exact changed original inside picked owner line
  · rw [if_neg picked] at same
    subst same
    exact held.2 original inside owner line

theorem markErased_deliveries (artifactIds : List String) :
    (outbox.markErased artifactIds).deliveries = (outbox.updateDeliveries
      (fun delivery => decide (delivery.artifactId ∈ artifactIds) &&
        !decide delivery.state.Settled)
      (fun delivery => { delivery with
        state := .administrativelyDiscarded
        nextAttempt := 0
        lastError := "administrator discarded" })).deliveries := rfl

theorem held_kept (held : Held artifactId channelId leaseUntil outbox) {after : Outbox}
    (deliveries : after.deliveries.Sublist outbox.deliveries)
    (present : after.artifact? artifactId ≠ none) : Held artifactId channelId leaseUntil after := by
  refine ⟨present, ?_⟩
  intro delivery member
  exact held.2 delivery (deliveries.subset member)

theorem effect_held (consistent : Consistent sha256 log outbox) {call : Call} {after : Outbox}
    (effect : Effect sha256 outbox call after)
    (others : ∀ result attemptedAt nextAttempt removable,
      call ≠ .recordResult artifactId channelId result attemptedAt nextAttempt removable)
    (present : after.artifact? artifactId ≠ none)
    (held : Held artifactId channelId leaseUntil outbox) :
    Held artifactId channelId leaseUntil after := by
  cases effect with
  | unrelated artifacts deliveries files watermarks =>
      apply held_kept held _ present
      rw [deliveries]
  | written free => exact held_kept held (List.Sublist.refl _) present
  | inserted insertable =>
      refine ⟨present, ?_⟩
      intro delivery member owner line
      rcases List.mem_append.mp member with old | fresh
      · exact held.2 delivery old owner line
      · rcases List.mem_map.mp fresh with ⟨channel, -, same⟩
        rw [← same] at owner
        rw [← owner] at held
        exact absurd insertable.absent held.1
  | claimed returned =>
      rcases claimDue_ok returned with ⟨-, same⟩
      apply held_updated held (congrArg Outbox.deliveries same) present
      · intro delivery
        rfl
      · intro delivery
        rfl
      · intro delivery member chosen owner line
        have eligible := claimed_row consistent member chosen
        rcases held.2 delivery member owner line with ⟨-, leased⟩ | settled
        · left
          refine ⟨rfl, ?_⟩
          exact (leased.trans (eligible_time eligible)).trans (claimDue_lease returned).le
        · exact absurd settled (eligible_unsettled eligible)
  | recorded =>
      apply held_updated held rfl present
      · intro delivery
        rfl
      · intro delivery
        rfl
      · intro delivery member chosen owner line
        simp only [Outbox.recordable, Bool.and_eq_true, decide_eq_true_eq] at chosen
        rw [← chosen.1.1, owner, ← chosen.1.2, line] at others
        exact absurd rfl (others _ _ _ _)
  | retried retries waiting =>
      apply held_updated held rfl present
      · intro delivery
        rfl
      · intro delivery
        rfl
      · intro delivery member chosen owner line
        have idle := waiting delivery chosen
        rcases held.2 delivery member owner line with ⟨leased, -⟩ | settled
        · rw [leased] at idle
          simp at idle
        · exact absurd settled (waiting_unsettled idle)
  | marked allowed =>
      apply held_updated held (markErased_deliveries _) present
      · intro delivery
        rfl
      · intro delivery
        rfl
      · intro delivery _ _ _ _
        exact .inr (.inr rfl)
  | unlinked member doomed => exact held_kept held (List.Sublist.refl _) present
  | deleted doomed => exact held_kept held List.filter_sublist present
  | pruned prunes complete => exact held_kept held List.filter_sublist present
  | noted keeps idle => exact held_kept held (List.Sublist.refl _) present
  | blocked damaged =>
      apply held_updated held rfl present
      · intro delivery
        rfl
      · intro delivery
        rfl
      · intro delivery member chosen owner line
        have unsettled := and_unsettled chosen
        simp only [Bool.and_eq_true, decide_eq_true_eq] at chosen
        exact absurd (idle_settled consistent (.inr damaged) member chosen.1) unsettled
  | recovered fresh visible window found => exact held_kept held (List.Sublist.refl _) present

theorem event_held {event : Event} (consistent : Consistent sha256 log outbox)
    (runs : LeaseRuns sha256 artifactId channelId outbox event)
    (held : Held artifactId channelId leaseUntil outbox) :
    Held artifactId channelId leaseUntil ((machine sha256).next outbox event) := by
  apply next_keeps _ consistent held
  intro before earlier known after member effect holds
  apply effect_held known effect _ (runs.1 after member) holds
  intro result attemptedAt nextAttempt removable same
  apply runs.2 result attemptedAt nextAttempt removable
  cases event with
  | call issued => exact congrArg some same
  | stopped issued count => exact congrArg some same
  | crash policy => cases same

theorem run_held (between : List Event) (consistent : Consistent sha256 log outbox)
    (along : (machine sha256).Along (LeaseRuns sha256 artifactId channelId) outbox between)
    (held : Held artifactId channelId leaseUntil outbox) :
    Held artifactId channelId leaseUntil ((machine sha256).run outbox between) := by
  induction between generalizing outbox log with
  | nil => exact held
  | cons event between ih =>
      rw [Machine.run_cons]
      exact ih (next_consistent event consistent) along.2 (event_held consistent along.1 held)

theorem claimed_held (consistent : Consistent sha256 log outbox) {now : UtcNanoseconds}
    {limit : Nat} {queued : List QueuedDelivery} {after : Outbox}
    (returned : outbox.claimDue now leaseUntil limit = .ok (queued, after))
    {item : QueuedDelivery} (handed : item ∈ queued) :
    Held item.artifactId item.channelId leaseUntil after := by
  rcases claimDue_ok returned with ⟨rows, same⟩
  rw [rows] at handed
  rcases List.mem_map.mp handed with ⟨row, due, shown⟩
  rcases dueRows_row due with ⟨member, -⟩
  rcases consistent.owned row member with ⟨artifact, inside, owner⟩
  have identity : item.artifactId = row.artifactId := by rw [← shown]
  have line : item.channelId = row.channelId := by rw [← shown]
  subst same
  constructor
  · intro absent
    exact absent_row absent inside (owner.trans identity.symm)
  · intro delivery changed artifact channel
    rcases List.mem_map.mp changed with ⟨original, here, result⟩
    by_cases picked : (outbox.dueRows now limit).any (fun row =>
        row.artifactId = original.artifactId && row.channelId = original.channelId) = true
    · rw [if_pos picked] at result
      rw [← result]
      exact .inl ⟨rfl, le_refl _⟩
    · rw [if_neg picked] at result
      subst result
      refine absurd (List.any_eq_true.mpr ⟨row, due, ?_⟩) picked
      simp [artifact, channel, identity, line]

theorem leased_once (consistent : Consistent sha256 log outbox) : LeasedOnce sha256 outbox := by
  intro now leaseUntil limit queued after returned item handed between along laterNow laterUntil
    laterLimit laterQueued laterAfter claimed again
  have claims : Effect sha256 outbox (.claimDue now leaseUntil limit) after := .claimed returned
  rcases effect_consistent claims consistent with ⟨logged, kept, -⟩
  have held := run_held between kept along (claimed_held consistent returned handed)
  rcases again with ⟨other, inside, artifact, channel⟩
  rcases claimDue_ok claimed with ⟨rows, -⟩
  rw [rows] at inside
  rcases List.mem_map.mp inside with ⟨row, due, shown⟩
  rcases dueRows_row due with ⟨member, eligible⟩
  rcases held.2 row member (by rw [← artifact, ← shown]) (by rw [← channel, ← shown]) with
    ⟨-, leased⟩ | settled
  · exact leased.trans (eligible_time eligible)
  · exact absurd settled (eligible_unsettled eligible)

end Leases

/-- The payload of an artifact that is not deleted is the enqueued body as long as one of its
deliveries is not settled. -/
def PayloadsKept (log : List (String × Body)) (outbox : Outbox) : Prop :=
  ∀ artifact ∈ outbox.artifacts, artifact.deletePending = false →
    ∀ delivery ∈ outbox.deliveries, delivery.artifactId = artifact.artifactId →
      ¬ delivery.state.Settled →
        ∃ body, outbox.file? artifact.localOnly artifact.filename = some body ∧
          log.lookup artifact.artifactId = some body

theorem logging_consistent (sha256 : Body → String) (policy : OutboxStoragePolicy)
    (events : List Event) :
    Consistent sha256 ((logging sha256).run ({ policy }, []) events).2
      ((logging sha256).run ({ policy }, []) events).1 := by
  apply (logging sha256).run_invariant (fun whole => Consistent sha256 whole.2 whole.1)
  · intro whole event consistent
    exact next_consistent event consistent
  · constructor
    · exact List.Pairwise.nil
    · exact List.Pairwise.nil
    · intro delivery member
      cases member
    · exact List.Pairwise.nil
    · intro artifact member
      cases member

/-- In every state a run reaches from an empty outbox: settled deliveries are settled for good,
payloads are kept, every event removes artifacts rightly and no delivery is leased twice. -/
theorem outbox_faithful (sha256 : Body → String) (policy : OutboxStoragePolicy)
    (events : List Event) :
    let outbox := ((logging sha256).run ({ policy }, []) events).1
    let log := ((logging sha256).run ({ policy }, []) events).2
    SettledForGood sha256 outbox ∧ PayloadsKept log outbox ∧
      (∀ event : Event, Trail.Walks (RemovedRightly event.issued) outbox
        (event.states sha256 outbox)) ∧
      LeasedOnce sha256 outbox := by
  intro outbox log
  have consistent := logging_consistent sha256 policy events
  refine ⟨settled_for_good consistent, ?_, ?_, leased_once consistent⟩
  · intro artifact row shown delivery member owner unsettled
    rcases consistent.payload artifact row shown delivery member owner unsettled with
      ⟨body, present, -, -, logged⟩
    exact ⟨body, present, logged⟩
  · intro event
    exact Trail.walks_imp (fun _ _ => effect_removal) (states_walk event)

/-- A stand-in for the digest: as long, and different for bodies of different lengths. -/
def lengthDigest (body : Body) : String :=
  String.ofList (List.replicate 63 '0' ++ [Char.ofNat (48 + body.length % 10)])

def dailyReport : GeneratedDataset := ⟨"report", "daily", 1, 0, ⟨0, 86400⟩⟩

def dailyContent : GeneratedContent where
  artifactId := "report"
  filename := "report.csv"
  mimeType := "text/csv"
  extension := "csv"
  body := [0x31, 0x0a]
  sha256 := lengthDigest [0x31, 0x0a]

def enqueueReport : Event :=
  .call (.enqueue dailyReport dailyContent ["remote"] false 1000000000)

/-- The artifact and channel of each delivery that an answer hands out. -/
def Answer.handed : Answer → List (String × String)
  | .claimed deliveries => deliveries.map (fun item => (item.artifactId, item.channelId))
  | _ => []

/-- A delivery is leased until 1000, its artifact is erased and enqueued again, and deliveries are
claimed at 1. -/
def reclaimedEvents : List Event :=
  [.call (.initializeOutbox (fun _ => true)), enqueueReport, .call (.claimDue 0 1000 10),
    .call (.erase ["report"] true), enqueueReport, .call (.claimDue 1 2000 10)]

def deliveredEvents : List Event :=
  [.call (.initializeOutbox (fun _ => true)), enqueueReport, .call (.claimDue 0 1000 10),
    .call (.recordResult "report" "remote" { disposition := .succeeded } 1 2 true)]

/-- An artifact that is erased and enqueued again has new deliveries: the one that is leased until
1000 is handed out again at 1 though no result was recorded, and the one that succeeded is pending
again. -/
theorem enqueued_again :
    ((machine lengthDigest).answers {} reclaimedEvents).map Answer.handed =
        [[], [], [("report", "remote")], [], [], [("report", "remote")]] ∧
      (∀ event ∈ reclaimedEvents, ∀ result attemptedAt nextAttempt removable, event.call? ≠
        some (.recordResult "report" "remote" result attemptedAt nextAttempt removable)) ∧
      ((machine lengthDigest).run {} deliveredEvents).deliveryStates "report" "remote" =
        [.succeeded] ∧
      ((machine lengthDigest).run {} (deliveredEvents ++
        [.call (.erase ["report"] false), enqueueReport])).deliveryStates "report" "remote" =
          [.pending] := by
  refine ⟨by decide +kernel, ?_, by decide +kernel, by decide +kernel⟩
  intro event member result attemptedAt nextAttempt removable same
  simp only [reclaimedEvents, enqueueReport, List.mem_cons, List.not_mem_nil, or_false] at member
  rcases member with rfl | rfl | rfl | rfl | rfl | rfl <;> cases same

end Msap1.DataSender
