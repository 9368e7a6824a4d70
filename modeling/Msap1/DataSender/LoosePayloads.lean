import Msap1.DataSender.Effects

/-! What a new process makes of the payload files that no manifest lists. -/

namespace Msap1.DataSender

/-- No manifest lists a payload file, and no unfinished `erase` takes it away. -/
def Outbox.loose (removable : String → Bool) (outbox : Outbox) (file : PayloadFile) : Bool :=
  !outbox.artifacts.any (fun artifact => artifact.filename = file.filename &&
    (!artifact.deletePending || (artifact.payloadPresent && removable artifact.filename &&
      artifact.localOnly = file.localOnly)))

def hexadecimal (character : Char) : Bool :=
  (character ≤ '9' && '0' ≤ character) || (character ≤ 'f' && 'a' ≤ character)

/-- The printed digest: 64 hexadecimal digits. -/
structure Digest (sha256 : Body → String) : Prop where
  size : ∀ body, (sha256 body).utf8ByteSize = 64
  digits : ∀ body, ∀ character ∈ (sha256 body).toList, hexadecimal character = true

/-- An identity that recovery completed with digits of a checksum. -/
def Numbered (identity : String) : Prop :=
  ∃ digit, identity.toList.getLast? = some digit ∧ hexadecimal digit = true

section Filenames

theorem splitExtension_joined {stem extension : String} (plain : '.' ∉ extension.toList) :
    splitExtension (stem ++ "." ++ extension) = (stem, extension) := by
  have shape : (stem ++ "." ++ extension).toList.reverse =
      extension.toList.reverse ++ '.' :: stem.toList.reverse := by
    simp
  have cut : (extension.toList.reverse ++ '.' :: stem.toList.reverse).takeWhile
      (fun character => decide (character ≠ '.')) = extension.toList.reverse := by
    rw [List.takeWhile_append_of_pos]
    · simp
    · intro character member
      rw [List.mem_reverse] at member
      rw [decide_eq_true_eq]
      intro same
      exact plain (same ▸ member)
  have behind : (extension.toList.reverse ++ '.' :: stem.toList.reverse).drop
      (extension.toList.reverse.length + 1) = stem.toList.reverse := by
    rw [List.drop_append, List.drop_of_length_le (by omega), Nat.add_sub_cancel_left]
    rfl
  unfold splitExtension
  rw [shape]
  dsimp only
  rw [cut, if_neg (by simp), behind]
  simp

theorem splitExtension_some {filename stem extension : String}
    (split : splitExtension filename = (stem, extension)) (proper : extension ≠ "") :
    filename = stem ++ "." ++ extension := by
  unfold splitExtension at split
  dsimp only at split
  split at split
  · cases split
    exact absurd rfl proper
  · next shorter =>
      cases split
      have whole := List.takeWhile_append_dropWhile
        (p := fun character => decide (character ≠ '.')) (l := filename.toList.reverse)
      generalize leading : filename.toList.reverse.takeWhile
        (fun character => decide (character ≠ '.')) = front at whole shorter ⊢
      cases rest : filename.toList.reverse.dropWhile
          (fun character => decide (character ≠ '.')) with
      | nil =>
          rw [rest, List.append_nil] at whole
          rw [whole] at shorter
          exact absurd rfl shorter
      | cons dot back =>
          have here : dot = '.' := by
            have more : filename.toList.reverse.dropWhile
                (fun character => decide (character ≠ '.')) ≠ [] := by
              rw [rest]
              exact List.cons_ne_nil _ _
            have stops := List.head_dropWhile_not (fun character => decide (character ≠ '.')) more
            simp only [rest, List.head_cons, decide_eq_false_iff_not, not_not] at stops
            exact stops
          rw [rest, here] at whole
          rw [← whole, List.drop_append]
          have restored : filename.toList = back.reverse ++ '.' :: front.reverse := by
            rw [← List.reverse_reverse filename.toList, ← whole]
            simp
          apply String.toList_inj.mp
          rw [restored]
          simp

end Filenames

section Identities

variable {sha256 : Body → String} {outbox : Outbox}

theorem leading_last (digest : Digest sha256) (body : Body) {count : Nat} (positive : 0 < count)
    (front : String) : Numbered (front ++ Outbox.leading count (sha256 body)) := by
  have written : (sha256 body).toList ≠ [] := by
    intro empty
    have size := digest.size body
    rw [String.toList_eq_nil_iff.mp empty] at size
    cases size
  have some : (sha256 body).toList.take count ≠ [] := by
    rw [Ne, List.take_eq_nil_iff]
    rintro (none | empty)
    · exact positive.ne' none
    · exact written empty
  refine ⟨_, ?_, digest.digits body _ (List.mem_of_mem_take (List.getLast_mem some))⟩
  unfold Outbox.leading
  rw [String.toList_append, String.toList_ofList, List.getLast?_append_of_ne_nil _ some,
    List.getLast?_eq_some_getLast some]

/-- A payload keeps its stem as its identity, or gets one that ends in a digit of its checksum. -/
theorem recoveredIdentity_cases (digest : Digest sha256) (stem : String) (body : Body) :
    outbox.recoveredIdentity stem (sha256 body) = stem ∨
      Numbered (outbox.recoveredIdentity stem (sha256 body)) := by
  unfold Outbox.recoveredIdentity
  generalize chosen : (if safeIdentity stem = true then stem
    else "recovered-" ++ Outbox.leading 24 (sha256 body)) = identity
  dsimp only
  split
  · right
    apply leading_last digest body
    decide
  · split at chosen
    · exact .inl chosen.symm
    · right
      rw [← chosen]
      apply leading_last digest body
      decide

theorem recoveredIdentity_safe {stem : String} (safe : safeIdentity stem = true)
    (checksum : String) : outbox.recoveredIdentity stem checksum = stem ∨
      ∃ artifact ∈ outbox.artifacts, artifact.artifactId = stem := by
  unfold Outbox.recoveredIdentity
  rw [if_pos safe]
  dsimp only
  cases taken : outbox.artifact? stem with
  | none => exact .inl rfl
  | some artifact =>
      refine .inr ⟨artifact, List.mem_of_find?_eq_some taken, ?_⟩
      simpa using List.find?_some taken

end Identities

/-- The filename has one of the extensions of a payload. -/
def Named (file : PayloadFile) : Prop :=
  (splitExtension file.filename).2 = "json" ∨ (splitExtension file.filename).2 = "csv"

theorem named_filename {file : PayloadFile} (named : Named file) :
    file.filename =
      (splitExtension file.filename).1 ++ "." ++ (splitExtension file.filename).2 := by
  have proper : (splitExtension file.filename).2 ≠ "" := by
    rcases named with json | csv
    · rw [json]
      decide
    · rw [csv]
      decide
  exact splitExtension_some Prod.mk.eta.symm proper

/-- A payload file that recovery gives a manifest. -/
structure Recoverable (filenames : List String) (file : PayloadFile) : Prop where
  safe : safeFilename file.filename = true
  unlisted : file.filename ∉ filenames
  named : Named file

/-- The manifest that recovery gives a payload file. -/
structure Recovered (file : PayloadFile) (row : Artifact) : Prop where
  filename : row.filename = file.filename
  window : row.sourceWindow = ⟨0, 0⟩
  identity : row.artifactId = (splitExtension file.filename).1 ∨ Numbered row.artifactId

section Files

variable {sha256 : Body → String} {outbox : Outbox} {filenames : List String}
  {file : PayloadFile} {files : List PayloadFile}

theorem recoverFile_cases (digest : Digest sha256) {trail : List Outbox}
    (returned : outbox.recoverFile sha256 filenames file = .ok trail) :
    trail = [] ∧ ¬ Recoverable filenames file ∨
      ∃ row, trail = [{ outbox with artifacts := outbox.artifacts ++ [row] }] ∧
        Recoverable filenames file ∧ Recovered file row ∧
        (safeIdentity (splitExtension file.filename).1 = true →
          row.artifactId = (splitExtension file.filename).1 ∨
            ∃ artifact ∈ outbox.artifacts,
              artifact.artifactId = (splitExtension file.filename).1) := by
  unfold Outbox.recoverFile at returned
  dsimp only at returned
  split at returned
  · next passed =>
      cases returned
      refine .inl ⟨rfl, ?_⟩
      rintro ⟨safe, unlisted, extension⟩
      rcases passed with unsafe_ | listed | neither
      · exact unsafe_ safe
      · exact unlisted listed
      · rcases extension with json | csv
        · exact neither.1 json
        · exact neither.2 csv
  · next taken =>
      split at returned
      · cases returned
      · cases returned
        simp only [not_or, not_not, not_and_or] at taken
        refine .inr ⟨_, rfl, ⟨taken.1, taken.2.1, taken.2.2⟩, ⟨rfl, rfl, ?_⟩, ?_⟩
        · exact recoveredIdentity_cases digest _ _
        · intro safe
          exact recoveredIdentity_safe safe _

theorem recoverFiles_keeps {row : Artifact} (member : row ∈ outbox.artifacts) :
    row ∈ (Trail.last outbox (Outbox.recoverFiles sha256 filenames outbox files).1).artifacts := by
  induction files generalizing outbox with
  | nil => exact member
  | cons file files ih =>
      unfold Outbox.recoverFiles
      split
      · exact member
      · next trail returned =>
          dsimp only
          rw [Trail.last_append]
          apply ih
          unfold Outbox.recoverFile at returned
          dsimp only at returned
          split at returned
          · cases returned
            exact member
          · split at returned
            · cases returned
            · cases returned
              exact List.mem_append_left _ member

theorem recoverFiles_rows (digest : Digest sha256) :
    (∀ row ∈ (Trail.last outbox (Outbox.recoverFiles sha256 filenames outbox files).1).artifacts,
      row ∈ outbox.artifacts ∨
        ∃ file ∈ files, Recoverable filenames file ∧ Recovered file row) ∧
      (Trail.last outbox (Outbox.recoverFiles sha256 filenames outbox files).1).files =
        outbox.files := by
  induction files generalizing outbox with
  | nil => exact ⟨fun row member => .inl member, rfl⟩
  | cons file files ih =>
      unfold Outbox.recoverFiles
      split
      · exact ⟨fun row member => .inl member, rfl⟩
      · next trail returned =>
          dsimp only
          rw [Trail.last_append]
          rcases @ih (Trail.last outbox trail) with ⟨rows, same⟩
          rcases recoverFile_cases digest returned with
            ⟨nothing, -⟩ | ⟨made, inserted, recoverable, recovered, -⟩
          · rw [nothing] at rows same ⊢
            refine ⟨?_, same⟩
            intro row member
            rcases rows row member with old | ⟨other, inside, facts⟩
            · exact .inl old
            · exact .inr ⟨other, List.mem_cons_of_mem file inside, facts⟩
          · rw [inserted] at rows same ⊢
            refine ⟨?_, same⟩
            intro row member
            rcases rows row member with known | ⟨other, inside, facts⟩
            · rcases List.mem_append.mp known with old | new
              · exact .inl old
              · rw [List.mem_singleton.mp new]
                exact .inr ⟨file, List.mem_cons_self, recoverable, recovered⟩
            · exact .inr ⟨other, List.mem_cons_of_mem file inside, facts⟩

theorem recoverFiles_named (digest : Digest sha256)
    (returns : (Outbox.recoverFiles sha256 filenames outbox files).2 = .ok ())
    (member : file ∈ files) (recoverable : Recoverable filenames file)
    (safe : safeIdentity (splitExtension file.filename).1 = true) :
    ∃ row ∈ (Trail.last outbox
      (Outbox.recoverFiles sha256 filenames outbox files).1).artifacts,
        row.artifactId = (splitExtension file.filename).1 := by
  induction files generalizing outbox with
  | nil => cases member
  | cons first files ih =>
      unfold Outbox.recoverFiles at returns ⊢
      split at returns
      · cases returns
      · next trail returned =>
          dsimp only at returns ⊢
          rw [Trail.last_append]
          rcases List.mem_cons.mp member with here | there
          · subst here
            rcases recoverFile_cases digest returned with
              ⟨-, skipped⟩ | ⟨row, inserted, -, -, named⟩
            · exact absurd recoverable skipped
            · rw [inserted]
              rcases named safe with same | ⟨artifact, old, same⟩
              · exact ⟨row, recoverFiles_keeps (List.mem_append_right _ List.mem_cons_self), same⟩
              · exact ⟨artifact, recoverFiles_keeps (List.mem_append_left _ old), same⟩
          · exact ih returns there

end Files

/-- Rows keep their identity and their place, and only payloads with a row are removed. -/
structure Tidied (before after : Outbox) : Prop where
  rows : ∀ row ∈ after.artifacts, ∃ original ∈ before.artifacts,
    row.artifactId = original.artifactId ∧ row.filename = original.filename
  files : ∀ file ∈ after.files, file ∈ before.files
  kept : ∀ file ∈ before.files,
    (∀ artifact ∈ before.artifacts, artifact.filename ≠ file.filename) → file ∈ after.files

section Manifests

variable {sha256 : Body → String} {outbox after : Outbox} {removable : String → Bool}

theorem tidied_refl : Tidied outbox outbox :=
  ⟨fun row member => ⟨row, member, rfl, rfl⟩, fun _ member => member, fun _ member _ => member⟩

theorem tidied_trans {between : Outbox} (first : Tidied outbox between)
    (second : Tidied between after) : Tidied outbox after := by
  refine ⟨?_, fun file member => first.files file (second.files file member), ?_⟩
  · intro row member
    rcases second.rows row member with ⟨middle, inside, identity, name⟩
    rcases first.rows middle inside with ⟨original, there, earlier, place⟩
    exact ⟨original, there, identity.trans earlier, name.trans place⟩
  · intro file member unlisted
    apply second.kept file (first.kept file member unlisted)
    intro artifact inside
    rcases first.rows artifact inside with ⟨original, there, -, place⟩
    rw [place]
    exact unlisted original there

theorem tidied_tables (artifacts : after.artifacts = outbox.artifacts)
    (files : after.files = outbox.files) : Tidied outbox after := by
  refine ⟨?_, ?_, ?_⟩
  · rw [artifacts]
    exact fun row member => ⟨row, member, rfl, rfl⟩
  · rw [files]
    exact fun _ member => member
  · rw [files]
    exact fun _ member _ => member

theorem effect_tidied {policy : OutboxStoragePolicy}
    (effect : Effect sha256 outbox (.updateStoragePolicy policy) after) : Tidied outbox after := by
  cases effect with
  | unrelated artifacts deliveries files watermarks => exact tidied_tables artifacts files
  | retried retries waiting => cases retries
  | unlinked row doomed =>
      refine ⟨tidied_refl.rows, fun file member => (List.mem_filter.mp member).1, ?_⟩
      intro file member unlisted
      apply List.mem_filter.mpr
      refine ⟨member, ?_⟩
      simp [(unlisted _ row).symm]
  | deleted doomed =>
      refine ⟨?_, tidied_refl.files, tidied_refl.kept⟩
      intro row member
      exact ⟨row, (List.mem_filter.mp member).1, rfl, rfl⟩
  | pruned prunes complete => cases prunes
  | noted keeps done =>
      refine ⟨?_, tidied_refl.files, tidied_refl.kept⟩
      intro row member
      rcases List.mem_map.mp member with ⟨original, inside, same⟩
      refine ⟨original, inside, ?_⟩
      rw [← same]
      split
      · exact ⟨keeps.artifactId original, keeps.filename original⟩
      · exact ⟨rfl, rfl⟩
  | blocked damaged => exact tidied_tables rfl rfl

theorem recoverManifests_tidied :
    Tidied outbox (Trail.last outbox (outbox.recoverManifests sha256 removable)) := by
  have kept : ∀ before after, Effect sha256 before (.updateStoragePolicy {}) after →
      Tidied outbox before → Tidied outbox after :=
    fun _ _ effect tidied => tidied_trans tidied (effect_tidied effect)
  exact Trail.walks_invariant kept (recoverManifests_walks (.updateStoragePolicy {}) removable)
    tidied_refl

/-- The half-deleted row takes a payload file with it. -/
def Takes (removable : String → Bool) (artifact : Artifact) (file : PayloadFile) : Prop :=
  artifact.payloadPresent = true ∧ removable artifact.filename = true ∧
    artifact.localOnly = file.localOnly ∧ artifact.filename = file.filename

theorem unlinkPending_each (targets : List Artifact) :
    (Trail.last outbox (Trail.each (Outbox.unlinkPending removable) outbox targets)).artifacts =
        outbox.artifacts ∧
      ∀ file, file ∈ (Trail.last outbox
        (Trail.each (Outbox.unlinkPending removable) outbox targets)).files ↔
          file ∈ outbox.files ∧ ∀ artifact ∈ targets, ¬ Takes removable artifact file := by
  induction targets generalizing outbox with
  | nil => exact ⟨rfl, fun file => ⟨fun member => ⟨member, by simp⟩, fun facts => facts.1⟩⟩
  | cons artifact targets ih =>
      rw [Trail.each, Trail.andThen, Trail.last_append]
      rcases @ih (Trail.last outbox (outbox.unlinkPending removable artifact)) with
        ⟨rows, files⟩
      have here : (Trail.last outbox (outbox.unlinkPending removable artifact)).artifacts =
            outbox.artifacts ∧
          ∀ file, file ∈ (Trail.last outbox (outbox.unlinkPending removable artifact)).files ↔
            file ∈ outbox.files ∧ ¬ Takes removable artifact file := by
        unfold Outbox.unlinkPending Takes
        split
        · next taken =>
            rw [Bool.and_eq_true] at taken
            refine ⟨rfl, ?_⟩
            intro file
            rw [Trail.last_cons, Trail.last_nil, Outbox.removeFile, List.mem_filter]
            apply and_congr_right
            intro _
            rw [Bool.not_eq_true', Bool.and_eq_false_iff, decide_eq_false_iff_not,
              decide_eq_false_iff_not, ← not_and_or]
            constructor
            · rintro apart ⟨-, -, place, name⟩
              exact apart ⟨place.symm, name.symm⟩
            · rintro spared ⟨place, name⟩
              exact spared ⟨taken.1, taken.2, place.symm, name.symm⟩
        · next spared =>
            rw [Bool.and_eq_true] at spared
            refine ⟨rfl, ?_⟩
            intro file
            exact ⟨fun member => ⟨member, fun taken => spared ⟨taken.1, taken.2.1⟩⟩,
              fun facts => facts.1⟩
      refine ⟨rows.trans here.1, ?_⟩
      intro file
      rw [files, here.2, List.forall_mem_cons, and_assoc]

/-- After the unfinished deletions the visible rows are left, and the payloads that none of the
other rows takes with it. -/
theorem finishPending_tables :
    (Trail.last outbox (outbox.finishPendingDeletions removable)).artifacts =
        outbox.artifacts.filter (fun artifact => !artifact.deletePending) ∧
      ∀ file, file ∈ (Trail.last outbox (outbox.finishPendingDeletions removable)).files ↔
        file ∈ outbox.files ∧ ∀ artifact ∈ outbox.artifacts, artifact.deletePending = true →
          ¬ Takes removable artifact file := by
  unfold Outbox.finishPendingDeletions
  rw [Trail.andThen, Trail.last_append, Trail.last_cons, Trail.last_nil]
  rcases @unlinkPending_each outbox removable
    (outbox.artifacts.filter (fun artifact => artifact.deletePending)) with ⟨rows, files⟩
  refine ⟨?_, ?_⟩
  · simp only [Outbox.deleteArtifacts, rows]
  · intro file
    refine (files file).trans (and_congr_right fun _ => ?_)
    simp only [List.mem_filter, and_imp]

end Manifests

section Initialized

variable {sha256 : Body → String} {outbox : Outbox} {removable : String → Bool}

theorem loose_iff (file : PayloadFile) : outbox.loose removable file = true ↔
    (∀ artifact ∈ outbox.artifacts, artifact.deletePending = false →
      artifact.filename ≠ file.filename) ∧
      ∀ artifact ∈ outbox.artifacts, artifact.deletePending = true →
        ¬ Takes removable artifact file := by
  simp only [Outbox.loose, Takes, Bool.not_eq_true', List.any_eq_false, Bool.and_eq_true,
    Bool.or_eq_true, decide_eq_true_eq, Bool.not_eq_true', ← forall₂_and]
  apply forall₂_congr
  intro artifact _
  cases artifact.deletePending with
  | false => simp
  | true => simp; tauto

variable (digest : Digest sha256) (closed : outbox.initialized = false)
  (returns : (outbox.initializeOutbox sha256 removable).2 = .ok ())

include closed returns

theorem initialized_phases : ∃ finished checked,
    finished = Trail.last outbox (outbox.finishPendingDeletions removable) ∧
      Tidied finished checked ∧
      let filenames := (finished.artifacts.filter (fun artifact =>
        !artifact.deletePending)).map Artifact.filename
      let files := checked.files.filter (fun file => !file.localOnly) ++
        checked.files.filter (fun file => file.localOnly)
      (Outbox.recoverFiles sha256 filenames checked files).2 = .ok () ∧
        Trail.last outbox (outbox.initializeOutbox sha256 removable).1 =
          { Trail.last checked (Outbox.recoverFiles sha256 filenames checked files).1 with
            initialized := true } := by
  refine ⟨_, _, rfl, @recoverManifests_tidied sha256 _ removable, ?_⟩
  unfold Outbox.initializeOutbox at returns ⊢
  rw [if_neg (by simp [closed])] at returns ⊢
  dsimp only at returns ⊢
  split at returns
  · cases returns
  · next recovered =>
      refine ⟨recovered, ?_⟩
      rw [Trail.last_append, Trail.last_cons, Trail.last_nil, Trail.last_append, Outbox.recover,
        Trail.last_append]

include digest

theorem initialized_files : ∀ file ∈ (Trail.last outbox
    (outbox.initializeOutbox sha256 removable).1).files, file ∈ outbox.files := by
  rcases initialized_phases closed returns with ⟨finished, checked, begun, tidied, -, ended⟩
  intro file member
  rw [ended] at member
  have inside : file ∈ (Trail.last outbox (outbox.finishPendingDeletions removable)).files := by
    rw [← begun]
    apply tidied.files
    rw [← (recoverFiles_rows digest).2]
    exact member
  exact ((finishPending_tables.2 file).mp inside).1

theorem initialized_rows : ∀ row ∈ (Trail.last outbox
    (outbox.initializeOutbox sha256 removable).1).artifacts,
      (∃ original ∈ outbox.artifacts, row.artifactId = original.artifactId ∧
        row.filename = original.filename) ∨
      ∃ file ∈ outbox.files, outbox.loose removable file = true ∧ Named file ∧
        Recovered file row := by
  rcases initialized_phases closed returns with ⟨finished, checked, begun, tidied, -, ended⟩
  rcases @finishPending_tables outbox removable with ⟨rows, files⟩
  rw [← begun] at rows files
  intro row member
  rw [ended] at member
  rcases (recoverFiles_rows digest).1 row member with old | ⟨file, found, recoverable, recovered⟩
  · rcases tidied.rows row old with ⟨original, inside, facts⟩
    rw [rows] at inside
    exact .inl ⟨original, (List.mem_filter.mp inside).1, facts⟩
  · have present : file ∈ checked.files := by
      rcases List.mem_append.mp found with outgoing | archived
      · exact (List.mem_filter.mp outgoing).1
      · exact (List.mem_filter.mp archived).1
    rcases (files file).mp (tidied.files file present) with ⟨inside, spared⟩
    refine .inr ⟨file, inside, ?_, recoverable.named, recovered⟩
    apply (loose_iff file).mpr
    refine ⟨?_, spared⟩
    intro artifact listed visible same
    apply recoverable.unlisted
    apply List.mem_map.mpr
    refine ⟨artifact, ?_, same⟩
    rw [rows]
    simp [listed, visible]

theorem initialized_named {file : PayloadFile} (member : file ∈ outbox.files)
    (loose : outbox.loose removable file = true) (safe : safeFilename file.filename = true)
    (named : Named file) (proper : safeIdentity (splitExtension file.filename).1 = true) :
    ∃ row ∈ (Trail.last outbox (outbox.initializeOutbox sha256 removable).1).artifacts,
      row.artifactId = (splitExtension file.filename).1 := by
  rcases initialized_phases closed returns with
    ⟨finished, checked, begun, tidied, recovered, ended⟩
  rcases @finishPending_tables outbox removable with ⟨rows, files⟩
  rw [← begun] at rows files
  rcases (loose_iff file).mp loose with ⟨unlisted, spared⟩
  have apart : ∀ artifact ∈ finished.artifacts, artifact.filename ≠ file.filename := by
    intro artifact listed
    rw [rows] at listed
    rcases List.mem_filter.mp listed with ⟨inside, visible⟩
    exact unlisted artifact inside (by simpa using visible)
  have kept := tidied.kept file ((files file).mpr ⟨member, spared⟩) apart
  rw [ended]
  apply recoverFiles_named digest recovered _ _ proper
  · cases place : file.localOnly with
    | false => exact List.mem_append_left _ (List.mem_filter.mpr ⟨kept, by simp [place]⟩)
    | true => exact List.mem_append_right _ (List.mem_filter.mpr ⟨kept, place⟩)
  · refine ⟨safe, ?_, named⟩
    intro listed
    rcases List.mem_map.mp listed with ⟨artifact, inside, same⟩
    exact apart artifact (List.mem_filter.mp inside).1 same

end Initialized

/-- A payload that no manifest lists has the name of an artifact. -/
def Outbox.stray (removable : String → Bool) (outbox : Outbox) (artifactId : String) : Bool :=
  outbox.files.any (fun file => outbox.loose removable file &&
    (file.filename = artifactId ++ ".json" || file.filename = artifactId ++ ".csv"))

section Stray

variable {sha256 : Body → String} {outbox : Outbox} {removable : String → Bool}
  {artifactId : String}

theorem stray_iff : outbox.stray removable artifactId = true ↔
    ∃ file ∈ outbox.files, outbox.loose removable file = true ∧ ∃ extension,
      (extension = "json" ∨ extension = "csv") ∧
        file.filename = artifactId ++ "." ++ extension := by
  have json : artifactId ++ "." ++ "json" = artifactId ++ ".json" := by
    rw [String.append_assoc]
    rfl
  have csv : artifactId ++ "." ++ "csv" = artifactId ++ ".csv" := by
    rw [String.append_assoc]
    rfl
  simp only [Outbox.stray, List.any_eq_true, Bool.and_eq_true, Bool.or_eq_true,
    decide_eq_true_eq, or_and_right, exists_or, exists_eq_left, json, csv]

theorem safeFilename_joined (safe : safeIdentity artifactId = true) {extension : String}
    (proper : extension = "json" ∨ extension = "csv") :
    safeFilename (artifactId ++ "." ++ extension) = true := by
  simp only [safeIdentity, Bool.and_eq_true, decide_eq_true_eq, List.all_eq_true,
    Bool.or_eq_true, ne_eq] at safe
  rcases safe with ⟨⟨written, short⟩, plain⟩
  have first : ∃ character rest, artifactId.toList = character :: rest ∧ character ≠ '.' := by
    cases shape : artifactId.toList with
    | nil => exact absurd (String.toList_eq_nil_iff.mp shape) written
    | cons character rest =>
        refine ⟨character, rest, rfl, ?_⟩
        intro dot
        have allowed := plain character (by rw [shape]; exact List.mem_cons_self)
        rw [dot] at allowed
        revert allowed
        decide
  rcases first with ⟨character, rest, shape, different⟩
  have letters : ∀ letter ∈ extension.toList, asciiAlphanumeric letter = true := by
    apply List.all_eq_true.mp
    rcases proper with json | csv
    · rw [json]
      decide +kernel
    · rw [csv]
      decide +kernel
  have size : extension.utf8ByteSize ≤ 4 := by
    rcases proper with json | csv
    · rw [json]
      decide
    · rw [csv]
      decide
  have bytes : (artifactId ++ "." ++ extension).utf8ByteSize =
      artifactId.utf8ByteSize + 1 + extension.utf8ByteSize := by
    rw [String.utf8ByteSize_append, String.utf8ByteSize_append]
    rfl
  simp only [safeFilename, Bool.and_eq_true, decide_eq_true_eq, List.all_eq_true, Bool.or_eq_true,
    ne_eq]
  refine ⟨⟨⟨?_, ?_⟩, ?_⟩, ?_⟩
  · intro empty
    rw [empty] at bytes
    have nothing : ("" : String).utf8ByteSize = 0 := rfl
    omega
  · omega
  · simp [shape, different]
  · intro letter member
    simp only [String.toList_append, List.mem_append] at member
    rcases member with (inside | dot) | behind
    · rcases plain letter inside with (alphanumeric | dash) | line
      · exact .inl (.inl (.inl alphanumeric))
      · exact .inl (.inl (.inr dash))
      · exact .inl (.inr line)
    · right
      simpa using dot
    · exact .inl (.inl (.inl (letters letter behind)))

theorem plain_extension {extension : String} (proper : extension = "json" ∨ extension = "csv") :
    '.' ∉ extension.toList := by
  rcases proper with json | csv
  · rw [json]
    decide
  · rw [csv]
    decide

variable (digest : Digest sha256) (closed : outbox.initialized = false)
  (returns : (outbox.initializeOutbox sha256 removable).2 = .ok ())
  (unknown : ∀ artifact ∈ outbox.artifacts, artifact.artifactId ≠ artifactId)

include digest closed returns unknown

theorem stray_free (named : ¬ Numbered artifactId)
    (free : outbox.stray removable artifactId = false) {extension : String}
    (proper : extension = "json" ∨ extension = "csv")
    (unlisted : ∀ artifact ∈ outbox.artifacts,
      artifact.filename ≠ artifactId ++ "." ++ extension) :
    ∀ row ∈ (Trail.last outbox (outbox.initializeOutbox sha256 removable).1).artifacts,
      row.artifactId ≠ artifactId ∧ row.filename ≠ artifactId ++ "." ++ extension := by
  have none : ∀ file ∈ outbox.files, outbox.loose removable file = true → ∀ extension,
      extension = "json" ∨ extension = "csv" → file.filename ≠ artifactId ++ "." ++ extension := by
    intro file member loose other kind same
    have present := stray_iff.mpr ⟨file, member, loose, other, kind, same⟩
    rw [free] at present
    cases present
  intro row member
  rcases initialized_rows digest closed returns row member with
    ⟨original, inside, identity, name⟩ | ⟨file, inside, loose, kind, recovered⟩
  · rw [identity, name]
    exact ⟨unknown original inside, unlisted original inside⟩
  · constructor
    · intro same
      rcases recovered.identity with stem | numbered
      · apply none file inside loose _ kind
        rw [← same, stem]
        exact named_filename kind
      · rw [same] at numbered
        exact named numbered
    · rw [recovered.filename]
      exact none file inside loose extension proper

theorem stray_taken (safe : safeIdentity artifactId = true)
    (stray : outbox.stray removable artifactId = true) :
    (∃ row ∈ (Trail.last outbox (outbox.initializeOutbox sha256 removable).1).artifacts,
      row.artifactId = artifactId) ∧
    ∀ row ∈ (Trail.last outbox (outbox.initializeOutbox sha256 removable).1).artifacts,
      row.artifactId = artifactId → row.sourceWindow = ⟨0, 0⟩ := by
  constructor
  · rcases stray_iff.mp stray with ⟨file, member, loose, extension, kind, name⟩
    have split : splitExtension file.filename = (artifactId, extension) := by
      rw [name, splitExtension_joined (plain_extension kind)]
    rcases initialized_named digest closed returns member loose
      (by rw [name]; exact safeFilename_joined safe kind) (by rw [Named, split]; exact kind)
      (by rw [split]; exact safe) with ⟨row, inside, same⟩
    rw [split] at same
    exact ⟨row, inside, same⟩
  · intro row member same
    rcases initialized_rows digest closed returns row member with
      ⟨original, inside, identity, -⟩ | ⟨file, -, -, -, recovered⟩
    · exact absurd (identity.symm.trans same) (unknown original inside)
    · exact recovered.window

end Stray

end Msap1.DataSender
