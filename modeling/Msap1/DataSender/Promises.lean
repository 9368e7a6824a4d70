import Msap1.DataSender.Effects

/-! What the outbox promises over any run: payloads are kept as long as they are needed,
settled deliveries stay settled, nothing is leased twice at a time. -/

namespace Msap1.DataSender

/-- The tables keep their keys, and the payload of everything that is still to be delivered
is the body that was enqueued. -/
structure Consistent (sha256 : Body → String) (log : List (String × Body)) (outbox : Outbox) :
    Prop where
  identities : outbox.artifacts.Pairwise (fun left right => left.artifactId ≠ right.artifactId)
  filenames : outbox.artifacts.Pairwise (fun left right => left.filename ≠ right.filename)
  owned : ∀ delivery ∈ outbox.deliveries, ∃ artifact ∈ outbox.artifacts,
    artifact.artifactId = delivery.artifactId
  keys : outbox.deliveries.Pairwise (fun left right =>
    left.artifactId = right.artifactId → left.channelId ≠ right.channelId)
  payload : ∀ artifact ∈ outbox.artifacts, artifact.deletePending = false →
    ∀ delivery ∈ outbox.deliveries, delivery.artifactId = artifact.artifactId →
      ¬ delivery.state.Settled →
        ∃ body, outbox.file? artifact.localOnly artifact.filename = some body ∧
          body.length = artifact.sizeBytes ∧ sha256 body = artifact.checksumSha256 ∧
            log.lookup artifact.artifactId = some body

section Consistency

variable {sha256 : Body → String} {log : List (String × Body)} {outbox : Outbox}

theorem pairwise_unique {Row Key : Type} (key : Row → Key) {rows : List Row}
    (distinct : rows.Pairwise (fun left right => key left ≠ key right)) {left right : Row}
    (leftMember : left ∈ rows) (rightMember : right ∈ rows) (same : key left = key right) :
    left = right := by
  by_contra different
  have symmetric : Std.Symm (fun first second : Row => key first ≠ key second) :=
    ⟨fun _ _ apart => apart.symm⟩
  exact distinct.forall leftMember rightMember different same

theorem delivery_unique (consistent : Consistent sha256 log outbox) {left right : Delivery}
    (leftMember : left ∈ outbox.deliveries) (rightMember : right ∈ outbox.deliveries)
    (artifact : left.artifactId = right.artifactId) (channel : left.channelId = right.channelId) :
    left = right := by
  have distinct : outbox.deliveries.Pairwise (fun first second =>
      (first.artifactId, first.channelId) ≠ (second.artifactId, second.channelId)) := by
    apply consistent.keys.imp
    intro first second apart same
    rw [Prod.mk.injEq] at same
    exact apart same.1 same.2
  exact pairwise_unique (fun delivery : Delivery => (delivery.artifactId, delivery.channelId))
    distinct leftMember rightMember (by rw [artifact, channel])

theorem idle_settled (consistent : Consistent sha256 log outbox) {artifactId : String}
    (idle : outbox.allSucceeded artifactId = true ∨ Damaged sha256 outbox artifactId)
    {delivery : Delivery} (member : delivery ∈ outbox.deliveries)
    (owner : delivery.artifactId = artifactId) : delivery.state.Settled := by
  rcases idle with succeeded | ⟨artifact, row, identity, visible, broken⟩
  · simp only [Outbox.allSucceeded, Bool.and_eq_true, List.all_eq_true,
      decide_eq_true_eq] at succeeded
    refine .inl (succeeded.2 delivery ?_)
    simpa [Outbox.deliveriesOf, owner] using member
  · by_contra unsettled
    rcases consistent.payload artifact row visible delivery member (owner.trans identity.symm)
      unsettled with ⟨body, present, size, checksum, -⟩
    rcases broken body present with wrongSize | wrongChecksum
    · exact wrongSize size
    · exact wrongChecksum checksum

theorem consistent_updateDeliveries (consistent : Consistent sha256 log outbox)
    {chosen : Delivery → Bool} {change : Delivery → Delivery}
    (artifactId : ∀ delivery, (change delivery).artifactId = delivery.artifactId)
    (channelId : ∀ delivery, (change delivery).channelId = delivery.channelId)
    (unsettled : ∀ delivery ∈ outbox.deliveries, chosen delivery = true →
      ¬ delivery.state.Settled) :
    Consistent sha256 log (outbox.updateDeliveries chosen change) := by
  have artifact : ∀ delivery, (if chosen delivery then change delivery else delivery).artifactId =
      delivery.artifactId := by
    intro delivery
    split
    · exact artifactId delivery
    · rfl
  have channel : ∀ delivery, (if chosen delivery then change delivery else delivery).channelId =
      delivery.channelId := by
    intro delivery
    split
    · exact channelId delivery
    · rfl
  constructor
  · exact consistent.identities
  · exact consistent.filenames
  · intro delivery member
    rcases List.mem_map.mp member with ⟨original, inside, same⟩
    rw [← same, artifact]
    exact consistent.owned original inside
  · simp only [Outbox.updateDeliveries, List.pairwise_map, artifact, channel]
    exact consistent.keys
  · intro row member visible delivery changed owner state
    rcases List.mem_map.mp changed with ⟨original, inside, same⟩
    rw [← same, artifact] at owner
    apply consistent.payload row member visible original inside owner
    rw [← same] at state
    by_cases picked : chosen original = true
    · exact unsettled original inside picked
    · rwa [if_neg picked] at state

theorem consistent_files (consistent : Consistent sha256 log outbox) {files : List PayloadFile}
    (kept : ∀ artifact ∈ outbox.artifacts, artifact.deletePending = false →
      (∃ delivery ∈ outbox.deliveries, delivery.artifactId = artifact.artifactId ∧
        ¬ delivery.state.Settled) →
      ∀ body, outbox.file? artifact.localOnly artifact.filename = some body →
        Outbox.file? { outbox with files } artifact.localOnly artifact.filename = some body) :
    Consistent sha256 log { outbox with files } := by
  constructor
  · exact consistent.identities
  · exact consistent.filenames
  · exact consistent.owned
  · exact consistent.keys
  · intro artifact row visible delivery member owner unsettled
    rcases consistent.payload artifact row visible delivery member owner unsettled with
      ⟨body, present, rest⟩
    exact ⟨body, kept artifact row visible ⟨delivery, member, owner, unsettled⟩ body present, rest⟩

theorem file_removed_other (outbox : Outbox) (localOnly : Bool) {filename : String}
    (otherPlace : Bool) {otherName : String} (different : otherName ≠ filename) :
    (outbox.removeFile localOnly filename).file? otherPlace otherName =
      outbox.file? otherPlace otherName := by
  unfold Outbox.file? Outbox.removeFile
  rw [List.find?_filter]
  congr 2
  funext file
  by_cases same : file.filename = otherName
  · simp [same, different]
  · simp [same]

theorem consistent_unlinked (consistent : Consistent sha256 log outbox) {artifact : Artifact}
    (row : artifact ∈ outbox.artifacts)
    (doomed : artifact.deletePending = true ∨ outbox.allSucceeded artifact.artifactId = true) :
    Consistent sha256 log (outbox.removeFile artifact.localOnly artifact.filename) := by
  apply consistent_files consistent
  intro other member visible unsent body present
  have different : other.filename ≠ artifact.filename := by
    intro same
    have unique := pairwise_unique Artifact.filename consistent.filenames member row same
    subst unique
    rcases unsent with ⟨delivery, inside, owner, unsettled⟩
    rcases doomed with pending | succeeded
    · rw [visible] at pending
      cases pending
    · exact unsettled (idle_settled consistent (.inl succeeded) inside owner)
  have kept := file_removed_other outbox artifact.localOnly other.localOnly different
  exact kept.trans present

theorem consistent_deleted (consistent : Consistent sha256 log outbox)
    (chosen : Artifact → Bool) : Consistent sha256 log (outbox.deleteArtifacts chosen) := by
  constructor
  · exact consistent.identities.sublist List.filter_sublist
  · exact consistent.filenames.sublist List.filter_sublist
  · intro delivery member
    rcases List.mem_filter.mp member with ⟨inside, kept⟩
    rcases consistent.owned delivery inside with ⟨artifact, row, owner⟩
    refine ⟨artifact, List.mem_filter.mpr ⟨row, ?_⟩, owner⟩
    simp only [Bool.not_eq_true', List.any_eq_false, Bool.and_eq_true, decide_eq_true_eq,
      not_and] at kept
    by_contra picked
    simp only [Bool.not_eq_true, Bool.not_eq_false'] at picked
    exact kept artifact row picked owner
  · exact consistent.keys.sublist List.filter_sublist
  · intro artifact row visible delivery member owner unsettled
    exact consistent.payload artifact (List.mem_filter.mp row).1 visible delivery
      (List.mem_filter.mp member).1 owner unsettled

theorem consistent_noted (consistent : Consistent sha256 log outbox) {artifactId : String}
    {change : Artifact → Artifact} (keeps : KeepsPlace change) :
    Consistent sha256 log (outbox.updateArtifact artifactId change) := by
  have place : ∀ row : Artifact,
      (if row.artifactId = artifactId then change row else row).artifactId = row.artifactId ∧
      (if row.artifactId = artifactId then change row else row).filename = row.filename ∧
      (if row.artifactId = artifactId then change row else row).localOnly = row.localOnly ∧
      (if row.artifactId = artifactId then change row else row).sizeBytes = row.sizeBytes ∧
      (if row.artifactId = artifactId then change row else row).checksumSha256 =
        row.checksumSha256 ∧
      (if row.artifactId = artifactId then change row else row).deletePending =
        row.deletePending := by
    intro row
    split
    · exact ⟨keeps.artifactId row, keeps.filename row, keeps.localOnly row, keeps.sizeBytes row,
        keeps.checksum row, keeps.deletePending row⟩
    · exact ⟨rfl, rfl, rfl, rfl, rfl, rfl⟩
  constructor
  · simp only [Outbox.updateArtifact, List.pairwise_map, (place _).1]
    exact consistent.identities
  · simp only [Outbox.updateArtifact, List.pairwise_map, (place _).2.1]
    exact consistent.filenames
  · intro delivery member
    rcases consistent.owned delivery member with ⟨artifact, row, owner⟩
    exact ⟨_, List.mem_map_of_mem row, by rw [(place artifact).1, owner]⟩
  · exact consistent.keys
  · intro artifact member visible delivery inside owner unsettled
    rcases List.mem_map.mp member with ⟨original, row, same⟩
    rcases place original with ⟨identity, name, localOnly, size, checksum, pending⟩
    rw [← same] at visible owner ⊢
    rw [pending] at visible
    rw [identity] at owner
    rw [identity, name, localOnly, size, checksum]
    exact consistent.payload original row visible delivery inside owner unsettled

theorem consistent_recovered (consistent : Consistent sha256 log outbox) {row : Artifact}
    (fresh : ∀ artifact ∈ outbox.artifacts,
      artifact.artifactId ≠ row.artifactId ∧ artifact.filename ≠ row.filename) :
    Consistent sha256 log { outbox with artifacts := outbox.artifacts ++ [row] } := by
  constructor
  · rw [List.pairwise_append]
    refine ⟨consistent.identities, List.pairwise_singleton _ _, ?_⟩
    intro artifact member other single
    rw [List.mem_singleton.mp single]
    exact (fresh artifact member).1
  · rw [List.pairwise_append]
    refine ⟨consistent.filenames, List.pairwise_singleton _ _, ?_⟩
    intro artifact member other single
    rw [List.mem_singleton.mp single]
    exact (fresh artifact member).2
  · intro delivery member
    rcases consistent.owned delivery member with ⟨artifact, inside, owner⟩
    exact ⟨artifact, List.mem_append_left _ inside, owner⟩
  · exact consistent.keys
  · intro artifact member visible delivery inside owner unsettled
    rcases List.mem_append.mp member with old | new
    · exact consistent.payload artifact old visible delivery inside owner unsettled
    · rcases consistent.owned delivery inside with ⟨known, here, same⟩
      rw [List.mem_singleton.mp new] at owner
      exact absurd (same.trans owner) (fresh known here).1

theorem eligible_unsettled {now : UtcNanoseconds} {delivery : Delivery}
    (eligible : outbox.eligible now delivery = true) : ¬ delivery.state.Settled := by
  simp only [Outbox.eligible, Bool.and_eq_true, Bool.or_eq_true, decide_eq_true_eq] at eligible
  rcases eligible.1.2 with (pending | waiting) | leased
  · rw [pending]
    decide
  · rw [waiting]
    decide
  · rw [leased]
    decide

theorem recordable_unsettled {artifactId channelId : String} {delivery : Delivery}
    (chosen : Outbox.recordable artifactId channelId delivery = true) :
    ¬ delivery.state.Settled := by
  simp only [Outbox.recordable, Bool.and_eq_true, Bool.not_eq_true',
    decide_eq_false_iff_not] at chosen
  exact chosen.2

theorem waiting_unsettled {state : DeliveryState}
    (waiting : state = .pending ∨ state = .retryWait ∨ state = .blocked) : ¬ state.Settled := by
  rcases waiting with same | same | same
  · rw [same]
    decide
  · rw [same]
    decide
  · rw [same]
    decide

theorem and_unsettled {picked : Bool} {state : DeliveryState}
    (chosen : (picked && !decide state.Settled) = true) : ¬ state.Settled := by
  simp only [Bool.and_eq_true, Bool.not_eq_true', decide_eq_false_iff_not] at chosen
  exact chosen.2

theorem dueRows_row {now : UtcNanoseconds} {limit : Nat} {row : Delivery}
    (member : row ∈ outbox.dueRows now limit) :
    row ∈ outbox.deliveries ∧ outbox.eligible now row = true := by
  have sorted := List.mem_of_mem_take member
  rw [List.mem_mergeSort] at sorted
  exact List.mem_filter.mp sorted

theorem claimDue_ok {now leaseUntil : UtcNanoseconds} {limit : Nat}
    {queued : List QueuedDelivery} {after : Outbox}
    (returned : outbox.claimDue now leaseUntil limit = .ok (queued, after)) :
    queued = (outbox.dueRows now limit).map (fun delivery =>
        ⟨delivery.artifactId, delivery.channelId, .inFlight, delivery.attemptCount, leaseUntil⟩) ∧
      after = outbox.updateDeliveries
        (fun delivery => (outbox.dueRows now limit).any (fun row =>
          row.artifactId = delivery.artifactId && row.channelId = delivery.channelId))
        (fun delivery => { delivery with state := .inFlight, nextAttempt := leaseUntil }) := by
  unfold Outbox.claimDue at returned
  split at returned
  · cases returned
  · cases returned
    exact ⟨rfl, rfl⟩

theorem claimed_row (consistent : Consistent sha256 log outbox) {now : UtcNanoseconds}
    {limit : Nat} {delivery : Delivery} (member : delivery ∈ outbox.deliveries)
    (chosen : (outbox.dueRows now limit).any (fun row =>
      row.artifactId = delivery.artifactId && row.channelId = delivery.channelId) = true) :
    outbox.eligible now delivery = true := by
  rcases List.any_eq_true.mp chosen with ⟨row, claimed, key⟩
  rcases dueRows_row claimed with ⟨inside, eligible⟩
  simp only [Bool.and_eq_true, decide_eq_true_eq] at key
  rwa [delivery_unique consistent inside member key.1 key.2] at eligible

theorem consistent_marked (consistent : Consistent sha256 log outbox)
    (artifactIds : List String) : Consistent sha256 log (outbox.markErased artifactIds) := by
  have discarded : Consistent sha256 log (outbox.updateDeliveries
      (fun delivery => decide (delivery.artifactId ∈ artifactIds) &&
        !decide delivery.state.Settled)
      (fun delivery => { delivery with
        state := .administrativelyDiscarded
        nextAttempt := 0
        lastError := "administrator discarded" })) := by
    apply consistent_updateDeliveries consistent
    · intro delivery
      rfl
    · intro delivery
      rfl
    · intro delivery _ chosen
      exact and_unsettled chosen
  have identity : ∀ row : Artifact, (if row.artifactId ∈ artifactIds then
      { row with deletePending := true } else row).artifactId = row.artifactId := by
    intro row
    split <;> rfl
  have name : ∀ row : Artifact, (if row.artifactId ∈ artifactIds then
      { row with deletePending := true } else row).filename = row.filename := by
    intro row
    split <;> rfl
  constructor
  · simp only [Outbox.markErased, List.pairwise_map, identity]
    exact discarded.identities
  · simp only [Outbox.markErased, List.pairwise_map, name]
    exact discarded.filenames
  · intro delivery member
    rcases discarded.owned delivery member with ⟨artifact, row, owner⟩
    exact ⟨_, List.mem_map_of_mem row, by rw [identity, owner]⟩
  · exact discarded.keys
  · intro artifact member visible delivery inside owner unsettled
    rcases List.mem_map.mp member with ⟨original, row, same⟩
    by_cases erased : original.artifactId ∈ artifactIds
    · rw [if_pos erased] at same
      rw [← same] at visible
      cases visible
    · rw [if_neg erased] at same
      subst same
      exact discarded.payload original row visible delivery inside owner unsettled

theorem file_written (outbox : Outbox) (content : GeneratedContent) (localOnly : Bool)
    {place : Bool} {name : String} {body : Body} (present : outbox.file? place name = some body) :
    (outbox.writePayload content localOnly).file? place name = some body := by
  unfold Outbox.file? at present ⊢
  rcases Option.map_eq_some_iff.mp present with ⟨file, found, same⟩
  simp only [Outbox.writePayload, List.find?_append, found, Option.some_or, Option.map_some, same]

theorem consistent_written (consistent : Consistent sha256 log outbox)
    (content : GeneratedContent) (localOnly : Bool) :
    Consistent sha256 log (outbox.writePayload content localOnly) := by
  apply consistent_files consistent
  intro artifact _ _ _ body present
  exact file_written outbox content localOnly present

theorem absent_row {artifactId : String} (absent : outbox.artifact? artifactId = none)
    {artifact : Artifact} (member : artifact ∈ outbox.artifacts) :
    artifact.artifactId ≠ artifactId := by
  have missing := List.find?_eq_none.mp absent artifact member
  simpa using missing

theorem consistent_inserted (consistent : Consistent sha256 log outbox)
    {dataset : GeneratedDataset} {content : GeneratedContent} {channelIds : List String}
    {localOnly : Bool}
    (insertable : Insertable sha256 outbox dataset content channelIds localOnly) :
    Consistent sha256 ((dataset.artifactId, content.body) :: log)
      (outbox.insertManifest dataset content channelIds localOnly) := by
  have old : ∀ delivery ∈ outbox.deliveries, delivery.artifactId ≠ dataset.artifactId := by
    intro delivery member same
    rcases consistent.owned delivery member with ⟨artifact, row, owner⟩
    exact absent_row insertable.absent row (owner.trans same)
  constructor
  · simp only [Outbox.insertManifest, List.pairwise_append]
    refine ⟨consistent.identities, List.pairwise_singleton _ _, ?_⟩
    intro artifact member other single
    rw [List.mem_singleton.mp single]
    exact absent_row insertable.absent member
  · simp only [Outbox.insertManifest, List.pairwise_append]
    refine ⟨consistent.filenames, List.pairwise_singleton _ _, ?_⟩
    intro artifact member other single
    rw [List.mem_singleton.mp single]
    exact insertable.unique artifact member
  · intro delivery member
    rcases List.mem_append.mp member with before | fresh
    · rcases consistent.owned delivery before with ⟨artifact, row, owner⟩
      exact ⟨artifact, List.mem_append_left _ row, owner⟩
    · rcases List.mem_map.mp fresh with ⟨channel, -, same⟩
      refine ⟨Outbox.manifestRow dataset content localOnly,
        List.mem_append_right _ List.mem_cons_self, ?_⟩
      rw [← same]
      rfl
  · simp only [Outbox.insertManifest, List.pairwise_append]
    refine ⟨consistent.keys, ?_, ?_⟩
    · rw [List.pairwise_map]
      apply insertable.channels.imp
      intro left right apart _
      exact apart
    · intro delivery member other fresh same
      rcases List.mem_map.mp fresh with ⟨channel, -, new⟩
      rw [← new] at same
      exact absurd same (old delivery member)
  · intro artifact member visible delivery inside owner unsettled
    rcases List.mem_append.mp member with before | fresh
    · have different : artifact.artifactId ≠ dataset.artifactId :=
        absent_row insertable.absent before
      rcases List.mem_append.mp inside with kept | new
      · rcases consistent.payload artifact before visible delivery kept owner unsettled with
          ⟨body, present, size, checksum, logged⟩
        refine ⟨body, present, size, checksum, ?_⟩
        rw [List.lookup_cons, beq_false_of_ne different]
        exact logged
      · rcases List.mem_map.mp new with ⟨channel, -, same⟩
        rw [← same] at owner
        exact absurd owner.symm different
    · rw [List.mem_singleton.mp fresh]
      refine ⟨content.body, insertable.stored, rfl, insertable.checksum, ?_⟩
      exact List.lookup_cons_self

/-- The calls that may insert a manifest. -/
def Call.Enqueues (call : Call) : Prop :=
  ∃ dataset content channelIds localOnly available,
    call = .enqueue dataset content channelIds localOnly available

theorem effect_consistent {call : Call} {after : Outbox} (effect : Effect sha256 outbox call after)
    (consistent : Consistent sha256 log outbox) :
    ∃ logged, Consistent sha256 logged after ∧ (¬ call.Enqueues → logged = log) := by
  cases effect with
  | unrelated artifacts deliveries files watermarks =>
      rcases after with ⟨afterArtifacts, afterDeliveries, marks, afterFiles, policy, flag⟩
      subst artifacts deliveries files
      exact ⟨log, ⟨consistent.identities, consistent.filenames, consistent.owned,
        consistent.keys, consistent.payload⟩, fun _ => rfl⟩
  | written free => exact ⟨log, consistent_written consistent _ _, fun _ => rfl⟩
  | inserted insertable =>
      exact ⟨_, consistent_inserted consistent insertable,
        fun other => absurd ⟨_, _, _, _, _, rfl⟩ other⟩
  | claimed returned =>
      rcases claimDue_ok returned with ⟨-, same⟩
      subst same
      refine ⟨log, ?_, fun _ => rfl⟩
      apply consistent_updateDeliveries consistent
      · intro delivery
        rfl
      · intro delivery
        rfl
      · intro delivery member chosen
        exact eligible_unsettled (claimed_row consistent member chosen)
  | recorded =>
      refine ⟨log, ?_, fun _ => rfl⟩
      apply consistent_updateDeliveries consistent
      · intro delivery
        rfl
      · intro delivery
        rfl
      · intro delivery _ chosen
        exact recordable_unsettled chosen
  | retried retries waiting =>
      refine ⟨log, ?_, fun _ => rfl⟩
      apply consistent_updateDeliveries consistent
      · intro delivery
        rfl
      · intro delivery
        rfl
      · intro delivery _ chosen
        exact waiting_unsettled (waiting delivery chosen)
  | marked allowed => exact ⟨log, consistent_marked consistent _, fun _ => rfl⟩
  | unlinked row doomed => exact ⟨log, consistent_unlinked consistent row doomed, fun _ => rfl⟩
  | deleted doomed => exact ⟨log, consistent_deleted consistent _, fun _ => rfl⟩
  | pruned prunes complete => exact ⟨log, consistent_deleted consistent _, fun _ => rfl⟩
  | noted keeps idle => exact ⟨log, consistent_noted consistent keeps, fun _ => rfl⟩
  | blocked damaged =>
      refine ⟨log, ?_, fun _ => rfl⟩
      apply consistent_updateDeliveries consistent
      · intro delivery
        rfl
      · intro delivery
        rfl
      · intro delivery _ chosen
        exact and_unsettled chosen
  | recovered fresh visible window found =>
    exact ⟨log, consistent_recovered consistent fresh, fun _ => rfl⟩

end Consistency

def Event.call? : Event → Option Call
  | .call issued => some issued
  | .stopped issued _ => some issued
  | .crash _ => none

/-- The bodies that were enqueued: one for every manifest an event inserted. -/
def logEnqueued (sha256 : Body → String) (outbox : Outbox) (log : List (String × Body))
    (event : Event) : List (String × Body) :=
  match event.call? with
  | some (.enqueue dataset content _ _ _) =>
      if outbox.artifact? dataset.artifactId = none ∧
          ((machine sha256).next outbox event).artifact? dataset.artifactId ≠ none then
        (dataset.artifactId, content.body) :: log
      else log
  | _ => log

def logging (sha256 : Body → String) : Machine (Outbox × List (String × Body)) Event Answer :=
  (machine sha256).traced (fun outbox log event _ => logEnqueued sha256 outbox log event)

section Runs

variable {sha256 : Body → String} {log : List (String × Body)} {outbox : Outbox}

theorem stopped_whole (trail : List Outbox) :
    Trail.last outbox trail = Trail.stopped outbox trail trail.length := by
  rw [Trail.stopped, List.take_length]

theorem next_stopped (sha256 : Body → String) (outbox : Outbox) (event : Event) :
    (∃ policy, event = .crash policy) ∨ ∃ call count, event.call? = some call ∧
      (machine sha256).next outbox event =
        Trail.stopped outbox (outbox.effects sha256 call).1 count := by
  cases event with
  | call call =>
      right
      exact ⟨call, _, rfl, stopped_whole _⟩
  | stopped call count =>
      right
      exact ⟨call, count, rfl, rfl⟩
  | crash policy =>
      left
      exact ⟨policy, rfl⟩

theorem enqueue_stopped (sha256 : Body → String) (outbox : Outbox) (dataset : GeneratedDataset)
    (content : GeneratedContent)
    (channelIds : List String) (localOnly : Bool) (available count : Nat) :
    let after := Trail.stopped outbox
      (outbox.enqueue sha256 dataset content channelIds localOnly available).1 count
    after = outbox ∨ after = outbox.writePayload content localOnly ∨
      Insertable sha256 (outbox.writePayload content localOnly) dataset content channelIds
          localOnly ∧
        after = (outbox.writePayload content localOnly).insertManifest dataset content channelIds
          localOnly := by
  dsimp only
  rcases (enqueue_cases dataset content channelIds localOnly available :
    (outbox.enqueue sha256 dataset content channelIds localOnly available).1 = [] ∨ _) with
    nothing | ⟨-, written⟩ | ⟨-, insertable, inserted⟩
  · rw [nothing]
    left
    rw [Trail.stopped, List.take_nil, Trail.last_nil]
  · rw [written]
    rcases count with _ | count
    · exact .inl rfl
    · right
      left
      rw [Trail.stopped, List.take_succ_cons, List.take_nil, Trail.last_cons, Trail.last_nil]
  · rw [inserted]
    rcases count with _ | _ | count
    · exact .inl rfl
    · exact .inr (.inl rfl)
    · right
      right
      refine ⟨insertable, ?_⟩
      simp only [Trail.stopped, List.take_succ_cons, List.take_nil, Trail.last_cons,
        Trail.last_nil]

theorem artifact_appended (outbox : Outbox) (row : Artifact) :
    outbox.artifact? row.artifactId = none →
      Outbox.artifact? { outbox with artifacts := outbox.artifacts ++ [row] } row.artifactId =
        some row := by
  intro absent
  unfold Outbox.artifact? at absent ⊢
  simp [List.find?_append, absent]

theorem next_consistent (event : Event) (consistent : Consistent sha256 log outbox) :
    Consistent sha256 (logEnqueued sha256 outbox log event)
      ((machine sha256).next outbox event) := by
  rcases next_stopped sha256 outbox event with ⟨policy, crash⟩ | ⟨call, count, called, next⟩
  · subst crash
    exact ⟨consistent.identities, consistent.filenames, consistent.owned, consistent.keys,
      consistent.payload⟩
  · unfold logEnqueued
    rw [called, next]
    by_cases enqueues : call.Enqueues
    · rcases enqueues with ⟨dataset, content, channelIds, localOnly, available, same⟩
      subst same
      dsimp only
      rcases enqueue_stopped sha256 outbox dataset content channelIds localOnly available count
        with unchanged | written | ⟨insertable, inserted⟩
      · rw [Outbox.effects, unchanged, if_neg (by simp)]
        exact consistent
      · rw [Outbox.effects, written, if_neg]
        · exact consistent_written consistent content localOnly
        · intro both
          exact both.2 both.1
      · rw [Outbox.effects, inserted, if_pos]
        · exact consistent_inserted (consistent_written consistent content localOnly) insertable
        · refine ⟨insertable.absent, ?_⟩
          have found := artifact_appended (outbox.writePayload content localOnly)
            (Outbox.manifestRow dataset content localOnly) insertable.absent
          unfold Outbox.artifact? at found ⊢
          rw [Outbox.insertManifest]
          exact found ▸ Option.some_ne_none _
    · have kept : Consistent sha256 log
          (Trail.stopped outbox (outbox.effects sha256 call).1 count) := by
        apply Trail.walks_invariant _ (Trail.walks_take (effects_walk call) count) consistent
        intro before after effect holds
        rcases effect_consistent effect holds with ⟨logged, kept, same⟩
        rwa [same enqueues] at kept
      cases call with
      | enqueue dataset content channelIds localOnly available =>
          exact absurd ⟨_, _, _, _, _, rfl⟩ enqueues
      | _ => exact kept

end Runs

end Msap1.DataSender
