import Msap1.Loops
import Msap1.DataSender.Recovery

/-! Everything a durable effect of a call can do to the outbox. -/

namespace Msap1.DataSender

/-- The payload of a visible artifact is missing or does not match its manifest. -/
def Damaged (sha256 : Body → String) (outbox : Outbox) (artifactId : String) : Prop :=
  ∃ artifact ∈ outbox.artifacts, artifact.artifactId = artifactId ∧
    artifact.deletePending = false ∧
      ∀ body, outbox.file? artifact.localOnly artifact.filename = some body →
        body.length ≠ artifact.sizeBytes ∨ sha256 body ≠ artifact.checksumSha256

/-- A change of a manifest row that leaves its identity and its place alone. -/
structure KeepsPlace (change : Artifact → Artifact) : Prop where
  artifactId : ∀ row, (change row).artifactId = row.artifactId
  filename : ∀ row, (change row).filename = row.filename
  localOnly : ∀ row, (change row).localOnly = row.localOnly
  sizeBytes : ∀ row, (change row).sizeBytes = row.sizeBytes
  checksum : ∀ row, (change row).checksumSha256 = row.checksumSha256
  deletePending : ∀ row, (change row).deletePending = row.deletePending
  sourceWindow : ∀ row, (change row).sourceWindow = row.sourceWindow

inductive Call.Retries : Call → Prop where
  | retry (artifactIds : List String) (now : UtcNanoseconds) : Retries (.retry artifactIds now)
  | retryChannel (channelId : String) (now : UtcNanoseconds) :
      Retries (.retryChannel channelId now)

inductive Call.Prunes : Call → Prop where
  | pruneCompleted (now : UtcNanoseconds) : Prunes (.pruneCompleted now)
  | recordResult (artifactId channelId : String) (result : DeliveryResult)
      (attemptedAt nextAttempt : UtcNanoseconds) (removable : Bool) :
      Prunes (.recordResult artifactId channelId result attemptedAt nextAttempt removable)

/-- What holds before `enqueue` inserts a manifest. -/
structure Insertable (sha256 : Body → String) (outbox : Outbox) (dataset : GeneratedDataset)
    (content : GeneratedContent) (channelIds : List String) (localOnly : Bool) : Prop where
  absent : outbox.artifact? dataset.artifactId = none
  stored : outbox.file? localOnly content.filename = some content.body
  unique : ∀ artifact ∈ outbox.artifacts, artifact.filename ≠ content.filename
  checksum : sha256 content.body = content.sha256
  channels : channelIds.Nodup

inductive Effect (sha256 : Body → String) (outbox : Outbox) : Call → Outbox → Prop where
  | unrelated {call after} (artifacts : after.artifacts = outbox.artifacts)
      (deliveries : after.deliveries = outbox.deliveries) (files : after.files = outbox.files)
      (watermarks : (∀ watermark, call ≠ .storeWatermark watermark) →
        after.watermarks = outbox.watermarks) :
      Effect sha256 outbox call after
  | written {dataset content channelIds localOnly available}
      (free : outbox.file? localOnly content.filename = none) :
      Effect sha256 outbox (.enqueue dataset content channelIds localOnly available)
        (outbox.writePayload content localOnly)
  | inserted {dataset content channelIds localOnly available}
      (insertable : Insertable sha256 outbox dataset content channelIds localOnly) :
      Effect sha256 outbox (.enqueue dataset content channelIds localOnly available)
        (outbox.insertManifest dataset content channelIds localOnly)
  | claimed {now leaseUntil limit rows after}
      (returned : outbox.claimDue now leaseUntil limit = .ok (rows, after)) :
      Effect sha256 outbox (.claimDue now leaseUntil limit) after
  | recorded {artifactId channelId result attemptedAt nextAttempt removable} :
      Effect sha256 outbox
        (.recordResult artifactId channelId result attemptedAt nextAttempt removable)
        (outbox.updateDeliveries (Outbox.recordable artifactId channelId)
          (Outbox.recordedRow result attemptedAt nextAttempt))
  | retried {call chosen now} (retries : call.Retries)
      (waiting : ∀ delivery, chosen delivery = true → delivery.state = .pending ∨
        delivery.state = .retryWait ∨ delivery.state = .blocked) :
      Effect sha256 outbox call (outbox.updateDeliveries chosen (fun delivery =>
        { delivery with state := .pending, nextAttempt := now, lastError := "" }))
  | marked {artifactIds discardUnsent}
      (allowed : ∀ artifactId ∈ artifactIds, ∃ artifact,
        outbox.visible? artifactId = some artifact ∧
          (outbox.unsent artifact = true → discardUnsent = true)) :
      Effect sha256 outbox (.erase artifactIds discardUnsent) (outbox.markErased artifactIds)
  | unlinked {call artifact} (row : artifact ∈ outbox.artifacts)
      (doomed : artifact.deletePending = true ∨ outbox.allSucceeded artifact.artifactId = true) :
      Effect sha256 outbox call (outbox.removeFile artifact.localOnly artifact.filename)
  | deleted {call chosen}
      (doomed : ∀ artifact ∈ outbox.artifacts, chosen artifact = true →
        artifact.deletePending = true) :
      Effect sha256 outbox call (outbox.deleteArtifacts chosen)
  | pruned {call chosen} (prunes : call.Prunes)
      (complete : ∀ artifact ∈ outbox.artifacts, chosen artifact = true →
        outbox.allSucceeded artifact.artifactId = true) :
      Effect sha256 outbox call (outbox.deleteArtifacts chosen)
  | noted {call artifactId change} (keeps : KeepsPlace change)
      (idle : outbox.allSucceeded artifactId = true ∨ Damaged sha256 outbox artifactId) :
      Effect sha256 outbox call (outbox.updateArtifact artifactId change)
  | blocked {call artifactId error} (damaged : Damaged sha256 outbox artifactId) :
      Effect sha256 outbox call (outbox.blockDeliveries artifactId error)
  | recovered {removable row}
      (fresh : ∀ artifact ∈ outbox.artifacts,
        artifact.artifactId ≠ row.artifactId ∧ artifact.filename ≠ row.filename)
      (visible : row.deletePending = false) (window : row.sourceWindow = ⟨0, 0⟩)
      (found : ∃ file ∈ outbox.files, file.filename = row.filename) :
      Effect sha256 outbox (.initializeOutbox removable)
        { outbox with artifacts := outbox.artifacts ++ [row] }

theorem visible_row {outbox : Outbox} {artifactId : String} {artifact : Artifact}
    (found : outbox.visible? artifactId = some artifact) :
    artifact ∈ outbox.artifacts ∧ artifact.artifactId = artifactId ∧
      artifact.deletePending = false := by
  have facts := List.find?_some found
  simp only [Bool.and_eq_true, decide_eq_true_eq, Bool.not_eq_true'] at facts
  exact ⟨List.mem_of_find?_eq_some found, facts.1, facts.2⟩

section Walks

variable {sha256 : Body → String} {outbox : Outbox}

theorem finalize_walks (call : Call) (removable : Bool) (artifactId : String) :
    Trail.Walks (fun before after => Effect sha256 before call after) outbox
      (outbox.finalizeCompleted removable artifactId) := by
  unfold Outbox.finalizeCompleted
  split
  · exact Trail.walks_nil
  · next artifact found =>
      split
      · exact Trail.walks_nil
      · next complete =>
          rcases visible_row found with ⟨row, identity, -⟩
          simp only [not_or, Bool.not_eq_true] at complete
          rcases complete with ⟨remote, -, pending, -⟩
          have succeeded : outbox.allSucceeded artifactId = true := by simpa using pending
          have removed : Effect sha256 outbox call
              (outbox.removeFile artifact.localOnly artifact.filename) := by
            apply Effect.unlinked row
            rw [identity]
            exact .inr succeeded
          rw [remote] at removed
          apply Trail.walks_cons removed
          apply Trail.walks_cons _ Trail.walks_nil
          apply Effect.noted
          · constructor <;> intro <;> rfl
          · exact .inl succeeded

theorem prune_walks {call : Call} (prunes : call.Prunes) (now : UtcNanoseconds) :
    Trail.Walks (fun before after => Effect sha256 before call after) outbox
      (outbox.pruneCompleted now) := by
  unfold Outbox.pruneCompleted
  split
  · exact Trail.walks_nil
  · apply Trail.walks_cons _ Trail.walks_nil
    apply Effect.pruned prunes
    intro artifact _ chosen
    simp only [Outbox.pruneable, Bool.and_eq_true] at chosen
    exact chosen.1.1.2

theorem recordResult_walks (artifactId channelId : String) (result : DeliveryResult)
    (attemptedAt nextAttempt : UtcNanoseconds) (removable : Bool) :
    Trail.Walks (fun before after => Effect sha256 before
        (.recordResult artifactId channelId result attemptedAt nextAttempt removable) after) outbox
      (outbox.recordResult artifactId channelId result attemptedAt nextAttempt removable).1 := by
  unfold Outbox.recordResult
  split
  · exact Trail.walks_nil
  · dsimp only
    apply Trail.walks_andThen
    · apply Trail.walks_andThen
      · exact Trail.walks_cons .recorded Trail.walks_nil
      · exact finalize_walks _ removable artifactId
    · exact prune_walks (.recordResult ..) attemptedAt

theorem eraseTarget_ok {discardUnsent : Bool} {artifactId : String} {artifact : Artifact}
    (returned : outbox.eraseTarget discardUnsent artifactId = .ok artifact) :
    outbox.visible? artifactId = some artifact ∧
      (outbox.unsent artifact = true → discardUnsent = true) := by
  unfold Outbox.eraseTarget at returned
  split at returned
  · cases returned
  · next found visible =>
      split at returned
      · cases returned
      · next confirmed =>
          cases returned
          refine ⟨visible, ?_⟩
          intro unsent
          simpa [unsent] using confirmed

/-- The row of an artifact that a marking has doomed. -/
def Doomed (outbox : Outbox) (artifact : Artifact) : Prop :=
  ∃ row ∈ outbox.artifacts, row.deletePending = true ∧ row.localOnly = artifact.localOnly ∧
    row.filename = artifact.filename

theorem unlink_walks {call : Call} {effect : Outbox → Artifact → List Outbox}
    (body : ∀ state artifact, effect state artifact = [] ∨
      effect state artifact = [state.removeFile artifact.localOnly artifact.filename])
    (targets : List Artifact) (doomed : ∀ artifact ∈ targets, Doomed outbox artifact) :
    Trail.Walks (fun before after => Effect sha256 before call after) outbox
      (Trail.each effect outbox targets) := by
  apply Trail.walks_each Doomed
  · intro state artifact _ holds
    rcases body state artifact with nothing | removed
    · rw [nothing]
      exact Trail.walks_nil
    · rw [removed]
      rcases holds with ⟨row, member, pending, place, name⟩
      rw [← place, ← name]
      exact Trail.walks_cons (.unlinked member (.inl pending)) Trail.walks_nil
  · intro state artifact _ other _ _ holds
    rcases body state artifact with nothing | removed
    · rw [nothing]
      exact holds
    · rw [removed]
      exact holds
  · exact doomed

theorem erase_walks (artifactIds : List String) (discardUnsent : Bool) :
    Trail.Walks (fun before after => Effect sha256 before (.erase artifactIds discardUnsent) after)
      outbox (outbox.erase artifactIds discardUnsent).1 := by
  unfold Outbox.erase
  split
  · exact Trail.walks_nil
  · split
    · exact Trail.walks_nil
    · next targets checked =>
        have each := Loops.mapM_ok checked
        dsimp only
        apply Trail.walks_andThen
        · apply Trail.walks_andThen
          · apply Trail.walks_cons _ Trail.walks_nil
            apply Effect.marked
            intro artifactId member
            rcases List.forall₂_iff_get.mp each with ⟨lengths, pointwise⟩
            rcases List.mem_iff_get.mp member with ⟨position, here⟩
            have inside : position.val < targets.length := by
              rw [← lengths]
              exact position.isLt
            have returned := pointwise position.val position.isLt inside
            rw [Fin.eta, here] at returned
            exact ⟨_, eraseTarget_ok returned⟩
          · apply unlink_walks
            · intro state artifact
              unfold Outbox.unlinkErased
              split
              · exact .inr rfl
              · exact .inl rfl
            · intro artifact member
              rcases List.forall₂_iff_get.mp each with ⟨lengths, pointwise⟩
              rcases List.mem_iff_get.mp member with ⟨position, here⟩
              have inside : position.val < artifactIds.length := by
                rw [lengths]
                exact position.isLt
              have returned := pointwise position.val inside position.isLt
              rw [Fin.eta, here] at returned
              rcases visible_row (eraseTarget_ok returned).1 with ⟨row, identity, -⟩
              refine ⟨{ artifact with deletePending := true }, ?_, rfl, rfl, rfl⟩
              simp only [Trail.last_cons, Trail.last_nil, Outbox.markErased,
                Outbox.updateDeliveries, List.mem_map]
              refine ⟨artifact, row, ?_⟩
              rw [if_pos]
              rw [identity]
              exact List.get_mem _ _
        · apply Trail.walks_cons _ Trail.walks_nil
          apply Effect.deleted
          intro artifact _ chosen
          simp only [Bool.and_eq_true] at chosen
          exact chosen.2

theorem finishPending_walks (call : Call) (removable : String → Bool) :
    Trail.Walks (fun before after => Effect sha256 before call after) outbox
      (outbox.finishPendingDeletions removable) := by
  unfold Outbox.finishPendingDeletions
  apply Trail.walks_andThen
  · apply unlink_walks
    · intro state artifact
      unfold Outbox.unlinkPending
      split
      · exact .inr rfl
      · exact .inl rfl
    · intro artifact member
      rcases List.mem_filter.mp member with ⟨row, pending⟩
      exact ⟨artifact, row, pending, rfl, rfl⟩
  · apply Trail.walks_cons _ Trail.walks_nil
    apply Effect.deleted
    intro artifact _ pending
    exact pending

theorem damaged_noted {artifactId : String} {change : Artifact → Artifact}
    (keeps : KeepsPlace change) (damaged : Damaged sha256 outbox artifactId) :
    Damaged sha256 (outbox.updateArtifact artifactId change) artifactId := by
  rcases damaged with ⟨artifact, row, identity, visible, broken⟩
  refine ⟨change artifact, ?_, ?_, ?_, ?_⟩
  · simp only [Outbox.updateArtifact, List.mem_map]
    exact ⟨artifact, row, if_pos identity⟩
  · rw [keeps.artifactId]
    exact identity
  · rw [keeps.deletePending]
    exact visible
  · rw [keeps.localOnly, keeps.filename, keeps.sizeBytes, keeps.checksum]
    exact broken

theorem damage_walks (call : Call) {artifactId error : String} {change : Artifact → Artifact}
    (keeps : KeepsPlace change) (damaged : Damaged sha256 outbox artifactId) :
    Trail.Walks (fun before after => Effect sha256 before call after) outbox
      [outbox.updateArtifact artifactId change,
        (outbox.updateArtifact artifactId change).blockDeliveries artifactId error] := by
  apply Trail.walks_cons (.noted keeps (.inr damaged))
  exact Trail.walks_cons (.blocked (damaged_noted keeps damaged)) Trail.walks_nil

/-- The manifest that recovery looks at still has its row. -/
def Listed (outbox : Outbox) (artifact : Artifact) : Prop :=
  ∃ row ∈ outbox.artifacts, row.artifactId = artifact.artifactId ∧ row.deletePending = false ∧
    row.localOnly = artifact.localOnly ∧ row.filename = artifact.filename ∧
    row.sizeBytes = artifact.sizeBytes ∧ row.checksumSha256 = artifact.checksumSha256

theorem listed_noted {artifactId : String} {change : Artifact → Artifact}
    (keeps : KeepsPlace change) {artifact : Artifact} (listed : Listed outbox artifact) :
    Listed (outbox.updateArtifact artifactId change) artifact := by
  rcases listed with ⟨row, member, identity, visible, place, name, size, checksum⟩
  by_cases chosen : row.artifactId = artifactId
  · refine ⟨change row, ?_, ?_, ?_, ?_, ?_, ?_, ?_⟩
    · simp only [Outbox.updateArtifact, List.mem_map]
      exact ⟨row, member, if_pos chosen⟩
    · rw [keeps.artifactId, identity]
    · rw [keeps.deletePending, visible]
    · rw [keeps.localOnly, place]
    · rw [keeps.filename, name]
    · rw [keeps.sizeBytes, size]
    · rw [keeps.checksum, checksum]
  · refine ⟨row, ?_, identity, visible, place, name, size, checksum⟩
    simp only [Outbox.updateArtifact, List.mem_map]
    exact ⟨row, member, if_neg chosen⟩

theorem keeps_error (error : String) :
    KeepsPlace (fun row => { row with recoveryError := error }) := by
  constructor <;> intro <;> rfl

theorem keeps_absent (error : String) :
    KeepsPlace (fun row => { row with payloadPresent := false, recoveryError := error }) := by
  constructor <;> intro <;> rfl

theorem keeps_unlinked : KeepsPlace (fun row => { row with payloadPresent := false }) := by
  constructor <;> intro <;> rfl

theorem listed_damaged {artifact : Artifact} (listed : Listed outbox artifact)
    (broken : ∀ body, outbox.file? artifact.localOnly artifact.filename = some body →
      body.length ≠ artifact.sizeBytes ∨ sha256 body ≠ artifact.checksumSha256) :
    Damaged sha256 outbox artifact.artifactId := by
  rcases listed with ⟨row, member, identity, visible, place, name, size, checksum⟩
  refine ⟨row, member, identity, visible, ?_⟩
  rw [place, name, size, checksum]
  exact broken

theorem recoverManifest_walks (call : Call) (removable : String → Bool) {artifact : Artifact}
    (listed : Listed outbox artifact) :
    Trail.Walks (fun before after => Effect sha256 before call after) outbox
      (outbox.recoverManifest sha256 removable artifact) := by
  unfold Outbox.recoverManifest
  dsimp only
  split
  · next missing =>
      split
      · next complete =>
          apply Trail.walks_cons _ Trail.walks_nil
          apply Effect.noted (keeps_absent "")
          simp only [Bool.and_eq_true] at complete
          exact .inl complete.2
      · split
        · apply damage_walks call (keeps_absent _)
          apply listed_damaged listed
          intro body present
          rw [missing] at present
          cases present
        · exact Trail.walks_nil
  · next body present =>
      have same : ∀ other, outbox.file? artifact.localOnly artifact.filename = some other →
          other = body := by
        intro other found
        rw [present] at found
        exact (Option.some.inj found).symm
      split
      · next size =>
          apply damage_walks call (keeps_error _)
          apply listed_damaged listed
          intro other found
          rw [same other found]
          exact .inl size
      · split
        · next checksum =>
            apply damage_walks call (keeps_error _)
            apply listed_damaged listed
            intro other found
            rw [same other found]
            exact .inr checksum
        · split
          · exact finalize_walks call _ _
          · exact Trail.walks_nil

theorem recoverManifest_listed (removable : String → Bool) (artifact : Artifact)
    {other : Artifact} (listed : Listed outbox other) :
    Listed (Trail.last outbox (outbox.recoverManifest sha256 removable artifact)) other := by
  unfold Outbox.recoverManifest
  dsimp only
  split
  · split
    · exact listed_noted (keeps_absent _) listed
    · split
      · exact listed_noted (keeps_absent _) listed
      · exact listed
  · split
    · exact listed_noted (keeps_error _) listed
    · split
      · exact listed_noted (keeps_error _) listed
      · split
        · unfold Outbox.finalizeCompleted
          split
          · exact listed
          · split
            · exact listed
            · exact listed_noted keeps_unlinked listed
        · exact listed

theorem recoverFiles_walks (removable : String → Bool) (filenames : List String)
    (files : List PayloadFile) (inside : ∀ file ∈ files, file ∈ outbox.files) :
    Trail.Walks (fun before after => Effect sha256 before (.initializeOutbox removable) after)
      outbox (Outbox.recoverFiles sha256 filenames outbox files).1 := by
  induction files generalizing outbox with
  | nil => exact Trail.walks_nil
  | cons file files ih =>
      unfold Outbox.recoverFiles
      split
      · exact Trail.walks_nil
      · next trail returned =>
          have here := inside file List.mem_cons_self
          have rest : ∀ other ∈ files, other ∈ outbox.files := fun other member =>
            inside other (List.mem_cons_of_mem file member)
          unfold Outbox.recoverFile at returned
          dsimp only at returned
          split at returned
          · cases returned
            exact Trail.walks_append Trail.walks_nil (ih rest)
          · split at returned
            · cases returned
            · next fresh =>
                cases returned
                refine Trail.walks_append (Trail.walks_cons ?_ Trail.walks_nil) (ih ?_)
                rotate_left
                · rw [Trail.last_cons, Trail.last_nil]
                  exact rest
                apply Effect.recovered _ rfl rfl ⟨file, here, rfl⟩
                intro artifact member
                constructor
                · intro same
                  exact fresh ⟨artifact, member, .inl same⟩
                · intro same
                  exact fresh ⟨artifact, member, .inr same⟩

theorem recoverManifests_walks (call : Call) (removable : String → Bool) :
    Trail.Walks (fun before after => Effect sha256 before call after) outbox
      (outbox.recoverManifests sha256 removable) := by
  unfold Outbox.recoverManifests
  apply Trail.walks_each Listed
  · intro state artifact _ listed
    exact recoverManifest_walks _ removable listed
  · intro state artifact _ other _ _ listed
    exact recoverManifest_listed removable artifact listed
  · intro artifact member
    rcases List.mem_filter.mp member with ⟨row, visible⟩
    exact ⟨artifact, row, rfl, by simpa using visible, rfl, rfl, rfl, rfl⟩

theorem initialize_walks (removable : String → Bool) :
    Trail.Walks (fun before after => Effect sha256 before (.initializeOutbox removable) after)
      outbox (outbox.initializeOutbox sha256 removable).1 := by
  unfold Outbox.initializeOutbox
  split
  · exact Trail.walks_nil
  · have recovery : Trail.Walks
        (fun before after => Effect sha256 before (.initializeOutbox removable) after) outbox
        (outbox.finishPendingDeletions removable ++ (Outbox.recover sha256 removable
          (Trail.last outbox (outbox.finishPendingDeletions removable))).1) := by
      apply Trail.walks_append (finishPending_walks _ removable)
      unfold Outbox.recover
      apply Trail.walks_append (recoverManifests_walks _ removable)
      apply recoverFiles_walks removable
      intro file member
      rcases List.mem_append.mp member with outgoing | archived
      · exact (List.mem_filter.mp outgoing).1
      · exact (List.mem_filter.mp archived).1
    dsimp only
    split
    · exact recovery
    · apply Trail.walks_append recovery
      apply Trail.walks_cons _ Trail.walks_nil
      exact .unrelated rfl rfl rfl (fun _ => rfl)

theorem enqueueArguments_ok {dataset : GeneratedDataset} {content : GeneratedContent}
    {channelIds : List String} {localOnly : Bool}
    (returned : outbox.enqueueArguments sha256 dataset content channelIds localOnly = .ok ()) :
    sha256 content.body = content.sha256 ∧ channelIds.Nodup ∧
      localOnly = decide (channelIds = []) := by
  unfold Outbox.enqueueArguments at returned
  split at returned
  · cases returned
  · split at returned
    · cases returned
    · next identity =>
        split at returned
        · cases returned
        · next destination =>
            split at returned
            · cases returned
            · next channels =>
                simp only [not_or, not_not] at identity channels
                exact ⟨identity.2.2.2.2.2.1, channels.2, by simpa using destination⟩

theorem enqueueArguments_safe {dataset : GeneratedDataset} {content : GeneratedContent}
    {channelIds : List String} {localOnly : Bool}
    (returned : outbox.enqueueArguments sha256 dataset content channelIds localOnly = .ok ()) :
    safeIdentity dataset.artifactId = true := by
  unfold Outbox.enqueueArguments at returned
  split at returned
  · cases returned
  · split at returned
    · cases returned
    · next identity =>
        simp only [not_or, not_not] at identity
        exact identity.1

theorem file_appended (content : GeneratedContent) {localOnly : Bool}
    (free : outbox.file? localOnly content.filename = none) :
    (outbox.writePayload content localOnly).file? localOnly content.filename =
      some content.body := by
  unfold Outbox.file? at free ⊢
  have missing := Option.map_eq_none_iff.mp free
  simp [Outbox.writePayload, List.find?_append, missing]

theorem enqueue_cases (dataset : GeneratedDataset) (content : GeneratedContent)
    (channelIds : List String) (localOnly : Bool) (available : Nat) :
    (outbox.enqueue sha256 dataset content channelIds localOnly available).1 = [] ∨
      outbox.file? localOnly content.filename = none ∧
        (outbox.enqueue sha256 dataset content channelIds localOnly available).1 =
          [outbox.writePayload content localOnly] ∨
      outbox.file? localOnly content.filename = none ∧
        Insertable sha256 (outbox.writePayload content localOnly) dataset content channelIds
          localOnly ∧
        (outbox.enqueue sha256 dataset content channelIds localOnly available).1 =
          [outbox.writePayload content localOnly,
            (outbox.writePayload content localOnly).insertManifest dataset content channelIds
              localOnly] := by
  unfold Outbox.enqueue
  split
  · exact .inl rfl
  · next valid =>
      rcases enqueueArguments_ok valid with ⟨checksum, channels, -⟩
      split
      · split
        · exact .inl rfl
        · exact .inl rfl
      · next absent =>
          split
          · exact .inl rfl
          · split
            · exact .inl rfl
            · next taken =>
                have free : outbox.file? localOnly content.filename = none := by
                  simpa using taken
                dsimp only
                split
                · exact .inr (.inl ⟨free, rfl⟩)
                · split
                  · exact .inr (.inl ⟨free, rfl⟩)
                  · next fresh =>
                      refine .inr (.inr ⟨free, ⟨absent, ?_, ?_, checksum, channels⟩, rfl⟩)
                      · exact file_appended content free
                      · intro artifact member same
                        exact fresh ⟨artifact, member, same⟩

theorem single_walks {call : Call} {result : Except SenderFailure Outbox}
    (effect : ∀ after, result = .ok after → Effect sha256 outbox call after) :
    Trail.Walks (fun before after => Effect sha256 before call after) outbox (single result).1 := by
  cases result with
  | error failure => exact Trail.walks_nil
  | ok after => exact Trail.walks_cons (effect after rfl) Trail.walks_nil

theorem retry_effect {artifactIds : List String} {now : UtcNanoseconds} {after : Outbox}
    (returned : outbox.retry artifactIds now = .ok after) :
    Effect sha256 outbox (.retry artifactIds now) after := by
  unfold Outbox.retry at returned
  split at returned
  · cases returned
  · split at returned
    · cases returned
    · cases returned
      apply Effect.retried (.retry artifactIds now)
      intro delivery chosen
      simp only [Bool.and_eq_true, Bool.or_eq_true, decide_eq_true_eq] at chosen
      rcases chosen.2 with (pending | waiting) | blocked
      · exact .inl pending
      · exact .inr (.inl waiting)
      · exact .inr (.inr blocked)

theorem retryChannel_effect {channelId : String} {now : UtcNanoseconds} {after : Outbox}
    (returned : outbox.retryChannel channelId now = .ok after) :
    Effect sha256 outbox (.retryChannel channelId now) after := by
  unfold Outbox.retryChannel at returned
  split at returned
  · cases returned
  · cases returned
    apply Effect.retried (.retryChannel channelId now)
    intro delivery chosen
    simp only [Bool.and_eq_true, decide_eq_true_eq] at chosen
    exact .inr (.inr chosen.2)

theorem storeWatermark_effect {watermark : JobWatermark} {after : Outbox}
    (returned : outbox.storeWatermark watermark = .ok after) :
    Effect sha256 outbox (.storeWatermark watermark) after := by
  unfold Outbox.storeWatermark at returned
  split at returned
  · cases returned
  · split at returned
    · cases returned
    · cases returned
      exact .unrelated rfl rfl rfl (fun other => absurd rfl (other watermark))

theorem updateStoragePolicy_effect {policy : OutboxStoragePolicy} {after : Outbox}
    (returned : outbox.updateStoragePolicy policy = .ok after) :
    Effect sha256 outbox (.updateStoragePolicy policy) after := by
  unfold Outbox.updateStoragePolicy at returned
  split at returned
  · cases returned
  · cases returned
    exact .unrelated rfl rfl rfl (fun _ => rfl)

theorem effects_walk (call : Call) :
    Trail.Walks (fun before after => Effect sha256 before call after) outbox
      (outbox.effects sha256 call).1 := by
  cases call with
  | initializeOutbox removable => exact initialize_walks removable
  | updateStoragePolicy policy => exact single_walks (fun _ => updateStoragePolicy_effect)
  | enqueue dataset content channelIds localOnly available =>
      rcases enqueue_cases dataset content channelIds localOnly available with
        nothing | ⟨free, written⟩ | ⟨free, insertable, inserted⟩
      · rw [Outbox.effects, nothing]
        exact Trail.walks_nil
      · rw [Outbox.effects, written]
        exact Trail.walks_cons (.written free) Trail.walks_nil
      · rw [Outbox.effects, inserted]
        apply Trail.walks_cons (.written free)
        exact Trail.walks_cons (.inserted insertable) Trail.walks_nil
  | claimDue now leaseUntil limit =>
      unfold Outbox.effects
      dsimp only
      split
      · exact Trail.walks_nil
      · next deliveries after returned =>
          exact Trail.walks_cons (.claimed returned) Trail.walks_nil
  | recordResult artifactId channelId result attemptedAt nextAttempt removable =>
      exact recordResult_walks artifactId channelId result attemptedAt nextAttempt removable
  | retry artifactIds now => exact single_walks (fun _ => retry_effect)
  | retryChannel channelId now => exact single_walks (fun _ => retryChannel_effect)
  | pruneCompleted now => exact prune_walks (.pruneCompleted now) now
  | erase artifactIds discardUnsent => exact erase_walks artifactIds discardUnsent
  | storeWatermark watermark => exact single_walks (fun _ => storeWatermark_effect)

theorem effect_watermarks {call : Call} {after : Outbox} (effect : Effect sha256 outbox call after)
    (other : ∀ watermark, call ≠ .storeWatermark watermark) :
    after.watermarks = outbox.watermarks := by
  cases effect with
  | unrelated artifacts deliveries files watermarks => exact watermarks other
  | claimed returned =>
      unfold Outbox.claimDue at returned
      split at returned
      · cases returned
      · cases returned
        rfl
  | _ => rfl

end Walks

end Msap1.DataSender
