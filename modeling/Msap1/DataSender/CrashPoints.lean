import Msap1.DataSender.Starvation
import Msap1.DataSender.LoosePayloads

/-! A process that ends in the middle of `generate_due`, the recovery at the next start, and
the calls of `generate_due` after it. -/

namespace Msap1.DataSender

/-- An artifact with its deliveries and its payload. -/
structure Standing (artifact : Artifact) (rows : List Delivery) (body : Body) (outbox : Outbox) :
    Prop where
  row : artifact ∈ outbox.artifacts
  deliveries : outbox.deliveriesOf artifact.artifactId = rows
  payload : outbox.file? artifact.localOnly artifact.filename = some body

/-- An artifact that recovery has no reason to touch. -/
structure Sound (sha256 : Body → String) (artifact : Artifact) (rows : List Delivery)
    (body : Body) : Prop where
  visible : artifact.deletePending = false
  size : body.length = artifact.sizeBytes
  checksum : sha256 body = artifact.checksumSha256
  unfinished : rows = [] ∨ ∃ delivery ∈ rows, delivery.state ≠ .succeeded

/-- A payload that lies around without a manifest, or with one that recovery gave it. -/
structure Orphaned (artifactId : String) (localOnly : Bool) (filename : String) (body : Body)
    (outbox : Outbox) : Prop where
  payload : outbox.file? localOnly filename = some body
  unsent : ∀ artifact ∈ outbox.artifacts, artifact.filename = filename →
    artifact.deletePending = false ∧
      ∀ delivery ∈ outbox.deliveries, delivery.artifactId ≠ artifact.artifactId
  recovered : ∀ artifact ∈ outbox.artifacts, artifact.artifactId = artifactId →
    artifact.sourceWindow = ⟨0, 0⟩

/-- There is no trace of an artifact. -/
structure Untouched (artifactId : String) (localOnly : Bool) (filename : String)
    (outbox : Outbox) : Prop where
  unknown : ∀ artifact ∈ outbox.artifacts, artifact.artifactId ≠ artifactId ∧
    artifact.filename ≠ filename
  free : outbox.file? localOnly filename = none

/-- Other payloads hold the identity of an artifact, for the empty window. -/
structure Usurped (artifactId : String) (outbox : Outbox) : Prop where
  taken : ∃ artifact ∈ outbox.artifacts, artifact.artifactId = artifactId
  recovered : ∀ artifact ∈ outbox.artifacts, artifact.artifactId = artifactId →
    artifact.sourceWindow = ⟨0, 0⟩

section Recovery

variable {sha256 : Body → String} {log : List (String × Body)} {outbox after : Outbox}
  {removable : String → Bool} {artifact : Artifact} {rows : List Delivery} {body : Body}

theorem standing_unfinished (sound : Sound sha256 artifact rows body)
    (standing : Standing artifact rows body outbox) :
    outbox.allSucceeded artifact.artifactId = false := by
  unfold Outbox.allSucceeded
  rw [standing.deliveries]
  rcases sound.unfinished with none | ⟨delivery, member, state⟩
  · rw [none]
    rfl
  · simp only [Bool.and_eq_false_iff, List.all_eq_false, decide_eq_true_eq]
    exact .inr ⟨delivery, member, state⟩

theorem standing_undamaged (consistent : Consistent sha256 log outbox)
    (sound : Sound sha256 artifact rows body) (standing : Standing artifact rows body outbox) :
    ¬ Damaged sha256 outbox artifact.artifactId := by
  intro damaged
  rcases damaged with ⟨other, row, identity, -, broken⟩
  have unique := pairwise_unique Artifact.artifactId consistent.identities row standing.row identity
  subst unique
  rcases broken body standing.payload with size | checksum
  · exact size sound.size
  · exact checksum sound.checksum

theorem file_removed {localOnly place : Bool} {filename name : String} {found : Body}
    (present : outbox.file? place name = some found) (different : name ≠ filename) :
    (outbox.removeFile localOnly filename).file? place name = some found := by
  rw [file_removed_other outbox localOnly place different]
  exact present

theorem filter_updated {shown chosen : Delivery → Bool} {change : Delivery → Delivery}
    (keeps : ∀ delivery, shown (change delivery) = shown delivery)
    (apart : ∀ delivery, shown delivery = true → chosen delivery = false)
    (deliveries : List Delivery) :
    (deliveries.map (fun delivery => if chosen delivery then change delivery else delivery)).filter
      shown = deliveries.filter shown := by
  induction deliveries with
  | nil => rfl
  | cons delivery deliveries ih =>
      rw [List.map_cons]
      by_cases visible : shown delivery = true
      · rw [apart delivery visible, if_neg (by decide), List.filter_cons_of_pos visible,
          List.filter_cons_of_pos visible, ih]
      · have hidden : ¬ shown (if chosen delivery then change delivery else delivery) = true := by
          split
          · rw [keeps]
            exact visible
          · exact visible
        rw [List.filter_cons_of_neg hidden, List.filter_cons_of_neg visible, ih]

theorem deliveriesOf_blocked {artifactId other : String} (error : String)
    (different : other ≠ artifactId) :
    (outbox.blockDeliveries other error).deliveriesOf artifactId =
      outbox.deliveriesOf artifactId := by
  apply filter_updated
  · intro delivery
    rfl
  · intro delivery owner
    rw [decide_eq_true_eq] at owner
    simp [owner, different.symm]

theorem standing_deleted (consistent : Consistent sha256 log outbox)
    (sound : Sound sha256 artifact rows body) (standing : Standing artifact rows body outbox)
    {chosen : Artifact → Bool}
    (doomed : ∀ other ∈ outbox.artifacts, chosen other = true → other.deletePending = true) :
    Standing artifact rows body (outbox.deleteArtifacts chosen) := by
  have spared : ∀ other ∈ outbox.artifacts, other.artifactId = artifact.artifactId →
      chosen other = false := by
    intro other row identity
    have unique := pairwise_unique Artifact.artifactId consistent.identities row standing.row
      identity
    subst unique
    by_contra picked
    rw [Bool.not_eq_false] at picked
    have visible := sound.visible
    rw [doomed other row picked] at visible
    cases visible
  refine ⟨?_, ?_, standing.payload⟩
  · apply List.mem_filter.mpr
    refine ⟨standing.row, ?_⟩
    rw [spared artifact standing.row rfl, Bool.not_false]
  · rw [← standing.deliveries]
    simp only [Outbox.deliveriesOf, Outbox.deleteArtifacts, List.filter_filter]
    apply List.filter_congr
    intro delivery _
    by_cases owner : delivery.artifactId = artifact.artifactId
    · have kept : (outbox.artifacts.any (fun other => chosen other &&
          decide (other.artifactId = delivery.artifactId))) = false := by
        simp only [List.any_eq_false, Bool.and_eq_true, decide_eq_true_eq, not_and]
        intro other row picked same
        rw [spared other row (same.trans owner)] at picked
        cases picked
      rw [kept, Bool.not_false, Bool.and_true]
    · simp [owner]

theorem effect_standing (consistent : Consistent sha256 log outbox)
    (sound : Sound sha256 artifact rows body)
    (effect : Effect sha256 outbox (.initializeOutbox removable) after)
    (standing : Standing artifact rows body outbox) : Standing artifact rows body after := by
  have idle : ∀ other, outbox.allSucceeded other = true ∨ Damaged sha256 outbox other →
      other ≠ artifact.artifactId := by
    intro other done same
    subst same
    rcases done with succeeded | damaged
    · rw [standing_unfinished sound standing] at succeeded
      cases succeeded
    · exact standing_undamaged consistent sound standing damaged
  cases effect with
  | unrelated artifacts deliveries files watermarks =>
      refine ⟨?_, ?_, ?_⟩
      · rw [artifacts]
        exact standing.row
      · rw [Outbox.deliveriesOf, deliveries]
        exact standing.deliveries
      · rw [Outbox.file?, files]
        exact standing.payload
  | retried retries waiting => cases retries
  | unlinked row doomed =>
      refine ⟨standing.row, standing.deliveries, file_removed standing.payload ?_⟩
      intro same
      have unique := pairwise_unique Artifact.filename consistent.filenames standing.row row same
      subst unique
      rcases doomed with pending | succeeded
      · rw [sound.visible] at pending
        cases pending
      · exact idle _ (.inl succeeded) rfl
  | deleted doomed =>
      exact standing_deleted consistent sound standing doomed
  | pruned prunes complete => cases prunes
  | noted keeps done =>
      refine ⟨?_, standing.deliveries, standing.payload⟩
      simp only [Outbox.updateArtifact, List.mem_map]
      exact ⟨artifact, standing.row, if_neg (idle _ done).symm⟩
  | blocked damaged =>
      refine ⟨standing.row, ?_, standing.payload⟩
      apply (deliveriesOf_blocked _ (idle _ (.inr damaged))).trans standing.deliveries
  | recovered fresh visible window found =>
      exact ⟨List.mem_append_left _ standing.row, standing.deliveries, standing.payload⟩

theorem noted_row {artifactId : String} {change : Artifact → Artifact} (keeps : KeepsPlace change)
    {row : Artifact} (member : row ∈ (outbox.updateArtifact artifactId change).artifacts) :
    ∃ original ∈ outbox.artifacts, row.artifactId = original.artifactId ∧
      row.filename = original.filename ∧ row.deletePending = original.deletePending ∧
        row.sourceWindow = original.sourceWindow := by
  rcases List.mem_map.mp member with ⟨original, inside, same⟩
  refine ⟨original, inside, ?_⟩
  rw [← same]
  split
  · exact ⟨keeps.artifactId original, keeps.filename original, keeps.deletePending original,
      keeps.sourceWindow original⟩
  · exact ⟨rfl, rfl, rfl, rfl⟩

theorem blocked_row {artifactId error : String} {delivery : Delivery}
    (member : delivery ∈ (outbox.blockDeliveries artifactId error).deliveries) :
    ∃ original ∈ outbox.deliveries, delivery.artifactId = original.artifactId := by
  rcases List.mem_map.mp member with ⟨original, inside, same⟩
  refine ⟨original, inside, ?_⟩
  rw [← same]
  split <;> rfl

theorem allSucceeded_owned {artifactId : String}
    (succeeded : outbox.allSucceeded artifactId = true) :
    ∃ delivery ∈ outbox.deliveries, delivery.artifactId = artifactId := by
  simp only [Outbox.allSucceeded, Bool.and_eq_true, decide_eq_true_eq] at succeeded
  rcases List.exists_mem_of_ne_nil _ succeeded.1 with ⟨delivery, member⟩
  rcases List.mem_filter.mp member with ⟨inside, owner⟩
  exact ⟨delivery, inside, by simpa using owner⟩

variable {artifactId filename : String} {localOnly : Bool}

theorem effect_orphaned (consistent : Consistent sha256 log outbox)
    (effect : Effect sha256 outbox (.initializeOutbox removable) after)
    (orphaned : Orphaned artifactId localOnly filename body outbox) :
    Orphaned artifactId localOnly filename body after := by
  cases effect with
  | unrelated artifacts deliveries files watermarks =>
      refine ⟨?_, ?_, ?_⟩
      · rw [Outbox.file?, files]
        exact orphaned.payload
      · rw [artifacts, deliveries]
        exact orphaned.unsent
      · rw [artifacts]
        exact orphaned.recovered
  | retried retries waiting => cases retries
  | unlinked row doomed =>
      refine ⟨file_removed orphaned.payload ?_, orphaned.unsent, orphaned.recovered⟩
      intro same
      rcases orphaned.unsent _ row same.symm with ⟨visible, unsent⟩
      rcases doomed with pending | succeeded
      · rw [visible] at pending
        cases pending
      · rcases allSucceeded_owned succeeded with ⟨delivery, member, owner⟩
        exact unsent delivery member owner
  | deleted doomed =>
      refine ⟨orphaned.payload, ?_, ?_⟩
      · intro other row name
        rcases orphaned.unsent other (List.mem_filter.mp row).1 name with ⟨visible, unsent⟩
        refine ⟨visible, ?_⟩
        intro delivery member
        exact unsent delivery (List.mem_filter.mp member).1
      · intro other row
        exact orphaned.recovered other (List.mem_filter.mp row).1
  | pruned prunes complete => cases prunes
  | noted keeps done =>
      refine ⟨orphaned.payload, ?_, ?_⟩
      · intro other row name
        rcases noted_row keeps row with ⟨original, inside, identity, place, pending, -⟩
        rcases orphaned.unsent original inside (place.symm.trans name) with ⟨visible, unsent⟩
        rw [identity, pending]
        exact ⟨visible, unsent⟩
      · intro other row same
        rcases noted_row keeps row with ⟨original, inside, identity, -, -, window⟩
        rw [window]
        exact orphaned.recovered original inside (identity.symm.trans same)
  | blocked damaged =>
      refine ⟨orphaned.payload, ?_, orphaned.recovered⟩
      intro other row name
      rcases orphaned.unsent other row name with ⟨visible, unsent⟩
      refine ⟨visible, ?_⟩
      intro delivery member
      rcases blocked_row member with ⟨original, inside, same⟩
      rw [same]
      exact unsent original inside
  | recovered fresh visible window found =>
      refine ⟨orphaned.payload, ?_, ?_⟩
      · intro other row name
        rcases List.mem_append.mp row with old | new
        · exact orphaned.unsent other old name
        · rw [List.mem_singleton.mp new]
          refine ⟨visible, ?_⟩
          intro delivery member same
          rcases consistent.owned delivery member with ⟨owner, inside, identity⟩
          exact (fresh owner inside).1 (identity.trans same)
      · intro other row same
        rcases List.mem_append.mp row with old | new
        · exact orphaned.recovered other old same
        · rw [List.mem_singleton.mp new]
          exact window

end Recovery

/-- Exactly one artifact for a window, with its payload and with the channels of the job. -/
def Single {Query : Type} (sha256 : Body → String) (job : ScheduledJob Query)
    (window : UtcWindow) (artifactId : String) (outbox : Outbox) : Prop :=
  ∃ artifact rows body, Standing artifact rows body outbox ∧
    outbox.artifacts.filter (fun row => row.artifactId = artifactId) = [artifact] ∧
    artifact.sourceWindow = window ∧ artifact.payloadPresent = true ∧
    artifact.deletePending = false ∧ body.length = artifact.sizeBytes ∧
    sha256 body = artifact.checksumSha256 ∧ rows.map Delivery.channelId = job.channelIds

/-- What a finished window has left: its artifact and a watermark past it. -/
structure Complete {Query : Type} (sha256 : Body → String) (job : ScheduledJob Query)
    (window : UtcWindow) (artifactId : String) (outbox : Outbox) : Prop where
  past : ∃ mark, currentWatermark outbox job = some mark ∧ window.finish ≤ mark.completedThrough
  single : Single sha256 job window artifactId outbox

section Keeping

variable {Query : Type} {sha256 : Body → String} {outbox after : Outbox} {artifact : Artifact}
  {rows : List Delivery} {body : Body} {job : ScheduledJob Query} {window : UtcWindow}
  {artifactId : String} {now : UtcNanoseconds}

theorem standing_written (standing : Standing artifact rows body outbox)
    (content : GeneratedContent) (localOnly : Bool) :
    Standing artifact rows body (outbox.writePayload content localOnly) :=
  ⟨standing.row, standing.deliveries, file_written outbox content localOnly standing.payload⟩

theorem standing_inserted (standing : Standing artifact rows body outbox)
    {dataset : GeneratedDataset} {content : GeneratedContent} {channelIds : List String}
    {localOnly : Bool} (absent : outbox.artifact? dataset.artifactId = none) :
    Standing artifact rows body (outbox.insertManifest dataset content channelIds localOnly) := by
  have different := absent_row absent standing.row
  refine ⟨List.mem_append_left _ standing.row, ?_, standing.payload⟩
  rw [← standing.deliveries]
  simp only [Outbox.deliveriesOf, Outbox.insertManifest, List.filter_append, List.filter_map]
  have others : channelIds.filter ((fun delivery : Delivery =>
      decide (delivery.artifactId = artifact.artifactId)) ∘ fun channel =>
        { artifactId := dataset.artifactId, channelId := channel }) = [] := by
    rw [List.filter_eq_nil_iff]
    intro channel _
    simpa using different.symm
  rw [others, List.map_nil, List.append_nil]

theorem complete_kept (complete : Complete sha256 job window artifactId outbox)
    (past : ∃ mark, currentWatermark after job = some mark ∧
      window.finish ≤ mark.completedThrough)
    (stands : ∀ artifact rows body, Standing artifact rows body outbox →
      Standing artifact rows body after)
    (same : after.artifacts.filter (fun row => row.artifactId = artifactId) =
      outbox.artifacts.filter (fun row => row.artifactId = artifactId)) :
    Complete sha256 job window artifactId after := by
  rcases complete.single with ⟨artifact, rows, body, standing, single, facts⟩
  exact ⟨past, artifact, rows, body, stands artifact rows body standing, same.trans single, facts⟩

theorem complete_enqueued (complete : Complete sha256 job window artifactId outbox)
    (dataset : GeneratedDataset) (content : GeneratedContent) (channelIds : List String)
    (localOnly : Bool) (available : Nat) :
    Complete sha256 job window artifactId (Trail.last outbox
      (outbox.enqueue sha256 dataset content channelIds localOnly available).1) := by
  rcases (enqueue_cases dataset content channelIds localOnly available :
    (outbox.enqueue sha256 dataset content channelIds localOnly available).1 = [] ∨ _) with
    nothing | ⟨-, written⟩ | ⟨-, insertable, inserted⟩
  · rw [nothing]
    exact complete
  · rw [written]
    exact complete_kept complete complete.past
      (fun _ _ _ standing => standing_written standing content localOnly) rfl
  · rw [inserted]
    have past : ∃ mark, currentWatermark ((outbox.writePayload content localOnly).insertManifest
        dataset content channelIds localOnly) job = some mark ∧
          window.finish ≤ mark.completedThrough := complete.past
    apply complete_kept complete past
    · intro other rows body standing
      exact standing_inserted (standing_written standing content localOnly) insertable.absent
    · rcases complete.single with ⟨known, _, _, standing, single, -⟩
      have different : dataset.artifactId ≠ artifactId := by
        have inside : known ∈ outbox.artifacts.filter (fun row => row.artifactId = artifactId) := by
          rw [single]
          exact List.mem_cons_self
        rcases List.mem_filter.mp inside with ⟨row, identity⟩
        intro same
        apply absent_row insertable.absent row
        rw [same]
        simpa using identity
      have other : [Outbox.manifestRow dataset content localOnly].filter (fun row =>
          row.artifactId = artifactId) = [] := by
        rw [List.filter_eq_nil_iff]
        intro row member
        rw [List.mem_singleton.mp member]
        rw [decide_eq_true_eq]
        exact different
      rw [Outbox.insertManifest, List.filter_append, other, List.append_nil]
      rfl

theorem enqueuingSteps_last (jobId : String) (revision : UInt64) (trail : List Outbox) :
    (enqueuingSteps now jobId revision window trail).last outbox = Trail.last outbox trail := by
  rw [Steps.last, enqueuingSteps, List.map_map]
  congr 1
  exact List.map_id trail

theorem complete_tried (complete : Complete sha256 job window artifactId outbox)
    (other : ScheduledJob Query) (generate : Datalogger Query) (available : Nat)
    (next : UtcWindow) :
    Complete sha256 job window artifactId (Trail.last outbox
      (enqueueWindow sha256 generate available now outbox other next).1) := by
  unfold enqueueWindow
  split
  · exact complete
  · split
    · exact complete
    · exact complete_enqueued complete _ _ _ _ _

theorem stored_tables {watermark : JobWatermark}
    (stored : outbox.storeWatermark watermark = .ok after) :
    after.artifacts = outbox.artifacts ∧ after.deliveries = outbox.deliveries ∧
      after.files = outbox.files := by
  unfold Outbox.storeWatermark at stored
  split at stored
  · cases stored
  · split at stored
    · cases stored
    · cases stored
      exact ⟨rfl, rfl, rfl⟩

theorem standing_congr (artifacts : after.artifacts = outbox.artifacts)
    (deliveries : after.deliveries = outbox.deliveries) (files : after.files = outbox.files)
    (standing : Standing artifact rows body outbox) : Standing artifact rows body after := by
  refine ⟨?_, ?_, ?_⟩
  · rw [artifacts]
    exact standing.row
  · rw [Outbox.deliveriesOf, deliveries]
    exact standing.deliveries
  · rw [Outbox.file?, files]
    exact standing.payload

/-- A watermark of another job, or one that is at least as late, leaves a finished window
finished. -/
theorem complete_stored (complete : Complete sha256 job window artifactId outbox)
    {watermark : JobWatermark} (stored : outbox.storeWatermark watermark = .ok after)
    (later : watermark.jobId = job.snapshot.jobId →
      watermark.jobRevision = job.snapshot.revision ∧
        window.finish ≤ watermark.completedThrough) :
    Complete sha256 job window artifactId after := by
  rcases stored_tables stored with ⟨artifacts, deliveries, files⟩
  have marked := (storeWatermark_marked stored).1 job.snapshot.jobId
  apply complete_kept complete _ (fun _ _ _ => standing_congr artifacts deliveries files)
  · rw [artifacts]
  · by_cases own : job.snapshot.jobId = watermark.jobId
    · rw [if_pos own] at marked
      rcases later own.symm with ⟨revision, past⟩
      refine ⟨watermark, ?_, past⟩
      simp [currentWatermark, marked, revision]
    · rw [if_neg own] at marked
      rw [currentWatermark_congr marked]
      exact complete.past

/-- Whatever is enabled is a given job or has another id. -/
def Apart (job : ScheduledJob Query) (jobs : List (ScheduledJob Query)) : Prop :=
  ∀ other ∈ jobs, other.enabled = true →
    other = job ∨ other.snapshot.jobId ≠ job.snapshot.jobId

variable (positive : 0 < job.snapshot.generationInterval)

include positive

theorem complete_window (complete : Complete sha256 job window artifactId outbox)
    {other : ScheduledJob Query}
    (apart : other = job ∨ other.snapshot.jobId ≠ job.snapshot.jobId)
    (generate : Datalogger Query) (available : Nat) {next : UtcWindow}
    (due : dueWindow now outbox other = some next) :
    Complete sha256 job window artifactId
      ((generateWindow sha256 generate available now outbox other next).1.last outbox) := by
  have tried : Complete sha256 job window artifactId (Trail.last outbox
      (enqueueWindow sha256 generate available now outbox other next).1) :=
    complete_tried complete other generate available next
  rcases generateWindow_cases sha256 generate available now outbox other next with
    ⟨-, steps⟩ | ⟨-, stored, skipped, returned, steps⟩
  · rw [steps, enqueuingSteps_last]
    exact tried
  · rw [steps, steps_last_append, steps_last_cons, steps_last_nil]
    rw [enqueuingSteps_last] at returned
    apply complete_stored tried returned
    intro own
    rcases apart with same | different
    · subst same
      refine ⟨rfl, ?_⟩
      rcases dueWindow_some due with ⟨mark, current, place, -⟩
      rcases complete.past with ⟨known, found, past⟩
      rw [current] at found
      cases found
      rw [place]
      unfold windowFrom
      dsimp only
      linarith
    · exact absurd own different

theorem complete_job {other : ScheduledJob Query}
    (apart : other = job ∨ other.snapshot.jobId ≠ job.snapshot.jobId)
    (generate : Datalogger Query) (available budget : Nat) (outbox : Outbox)
    (complete : Complete sha256 job window artifactId outbox) :
    Complete sha256 job window artifactId
      ((generateJob sha256 generate available now other budget outbox).steps.last outbox) := by
  induction budget generalizing outbox with
  | zero => exact complete
  | succ budget ih =>
      unfold generateJob
      split
      · exact complete
      · next next due =>
          have one := complete_window positive complete apart generate available due
          dsimp only
          split
          · rw [steps_last_append]
            exact ih _ one
          · exact one

theorem complete_jobs (generate : Datalogger Query) (available : Nat)
    {jobs : List (ScheduledJob Query)} (apart : Apart job jobs) (budget : Nat) (outbox : Outbox)
    (complete : Complete sha256 job window artifactId outbox) :
    Complete sha256 job window artifactId
      ((generateJobs sha256 generate available now jobs budget outbox).steps.last outbox) := by
  induction jobs generalizing budget outbox with
  | nil => exact complete
  | cons other jobs ih =>
      have rest : Apart job jobs := fun one member => apart one (List.mem_cons_of_mem other member)
      unfold generateJobs
      split
      · exact ih rest budget outbox complete
      · next enabled =>
          have first : Complete sha256 job window artifactId
              ((generateJob sha256 generate available now other budget outbox).steps.last
                outbox) :=
            complete_job positive (apart other List.mem_cons_self (not_not.mp enabled)) generate
              available budget outbox complete
          dsimp only
          split
          · exact first
          · rw [steps_last_append]
            exact ih rest _ _ first

end Keeping

/-- Where the process ends while it works on a window. -/
inductive CrashPoint where
  | beforeRename
  | afterRename
  | afterCommit
  | afterWatermark
  deriving DecidableEq, Repr

def CrashPoint.effects : CrashPoint → Nat
  | .beforeRename => 0
  | .afterRename => 1
  | .afterCommit => 2
  | .afterWatermark => 3

/-- A window that is generated for the first time. -/
structure FirstTime {Query : Type} (sha256 : Body → String) (generate : Datalogger Query)
    (available : Nat) (now : UtcNanoseconds) (outbox : Outbox) (job : ScheduledJob Query)
    (window : UtcWindow) (dataset : MeterDataset) (content : GeneratedContent) : Prop where
  due : dueWindow now outbox job = some window
  generates : generate job.snapshot window now = .ok dataset
  writes : writeContent sha256 job.snapshot.format dataset = .ok content
  succeeds : (generateWindow sha256 generate available now outbox job window).2 = .generated
  absent : outbox.artifact? dataset.artifactId = none
  named : dataset.artifactId = artifactName job.snapshot window
  window : dataset.artifactWindow = window
  revision : dataset.jobRevision = job.snapshot.revision

section Crashes

variable {Query : Type} {sha256 : Body → String} {generate : Datalogger Query} {available : Nat}
  {now : UtcNanoseconds} {outbox : Outbox} {job : ScheduledJob Query} {window : UtcWindow}
  {dataset : MeterDataset} {content : GeneratedContent}

theorem enqueue_fresh {dataset : GeneratedDataset} {channelIds : List String} {localOnly : Bool}
    (accepted : (outbox.enqueue sha256 dataset content channelIds localOnly available).2 = .ok ())
    (absent : outbox.artifact? dataset.artifactId = none) :
    outbox.file? localOnly content.filename = none ∧
      Insertable sha256 (outbox.writePayload content localOnly) dataset content channelIds
        localOnly ∧
      (outbox.enqueue sha256 dataset content channelIds localOnly available).1 =
        [outbox.writePayload content localOnly,
          (outbox.writePayload content localOnly).insertManifest dataset content channelIds
            localOnly] := by
  have shape : (outbox.enqueue sha256 dataset content channelIds localOnly available).1.length =
      2 := by
    unfold Outbox.enqueue at accepted ⊢
    rw [absent] at accepted ⊢
    split at accepted
    · cases accepted
    · dsimp only at accepted ⊢
      split at accepted
      · cases accepted
      · next allowed =>
          rw [if_neg allowed]
          split at accepted
          · cases accepted
          · next free =>
              rw [if_neg free]
              split at accepted
              · cases accepted
              · split at accepted
                · cases accepted
                · next unique =>
                    rw [if_neg unique]
                    rfl
  rcases (enqueue_cases dataset content channelIds localOnly available :
    (outbox.enqueue sha256 dataset content channelIds localOnly available).1 = [] ∨ _) with
    nothing | ⟨-, written⟩ | inserted
  · rw [nothing] at shape
    cases shape
  · rw [written] at shape
    cases shape
  · exact inserted

theorem deferredBy_stays (failure : SenderFailure) : deferredBy failure ≠ .generated := by
  unfold deferredBy
  split <;> simp

theorem first_steps (first : FirstTime sha256 generate available now outbox job window dataset
    content) :
    ∃ stored, outbox.file? job.localOnly content.filename = none ∧
      Insertable sha256 (outbox.writePayload content job.localOnly) dataset.toGeneratedDataset
        content job.channelIds job.localOnly ∧
      ((outbox.writePayload content job.localOnly).insertManifest dataset.toGeneratedDataset
        content job.channelIds job.localOnly).storeWatermark
          ⟨job.snapshot.jobId, job.snapshot.revision, window.finish⟩ = .ok stored ∧
      (generateWindow sha256 generate available now outbox job window).1.map Prod.snd =
        [outbox.writePayload content job.localOnly,
          (outbox.writePayload content job.localOnly).insertManifest dataset.toGeneratedDataset
            content job.channelIds job.localOnly, stored] := by
  have tried : enqueueWindow sha256 generate available now outbox job window =
      outbox.enqueue sha256 dataset.toGeneratedDataset content job.channelIds job.localOnly
        available := by
    unfold enqueueWindow
    rw [first.generates]
    dsimp only
    rw [first.writes]
  have succeeds := first.succeeds
  unfold generateWindow at succeeds ⊢
  rw [tried] at succeeds ⊢
  dsimp only at succeeds ⊢
  cases outcome : (outbox.enqueue sha256 dataset.toGeneratedDataset content job.channelIds
      job.localOnly available).2 with
  | error failure =>
      rw [outcome] at succeeds
      exfalso
      split at succeeds
      · next wrong => cases wrong
      · split at succeeds
        · cases succeeds
        · cases succeeds
      · exact deferredBy_stays _ succeeds
  | ok done =>
      rcases enqueue_fresh outcome first.absent with ⟨free, insertable, trail⟩
      rw [outcome, trail] at succeeds
      rw [trail]
      dsimp only at succeeds ⊢
      cases returned : completeWindow (Steps.last outbox (List.map (fun after =>
          (Deed.enqueuing now job.snapshot.jobId job.snapshot.revision window, after))
          [outbox.writePayload content job.localOnly,
            (outbox.writePayload content job.localOnly).insertManifest dataset.toGeneratedDataset
              content job.channelIds job.localOnly])) job window with
      | error failure =>
          rw [returned] at succeeds
          exact absurd succeeds (deferredBy_stays _)
      | ok stored =>
          refine ⟨stored, free, insertable, ?_, rfl⟩
          exact returned

end Crashes

end Msap1.DataSender
