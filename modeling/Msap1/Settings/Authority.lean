import Msap1.Machine
import Msap1.Loops

/-! `SettingsHandler`: a change of the settings goes through the runtime, `active.json`, the
snapshot in memory and the services that are reloaded, and is taken back in all of them when one
step fails. File removals and the restoring steps succeed. -/

namespace Msap1.Settings

/-- The JSON codec, SHA-256 and the validation. -/
structure SettingsCodec (Settings : Type) where
  decode : String → Except String Settings
  encode : Settings → Bool → String
  hash : String → String
  validate : Settings → Except String Unit

structure ActiveSnapshot (Settings : Type) where
  contentHash : String
  settings : Settings
  deriving DecidableEq

/-- The snapshot last applied and the one last reloaded; none after a step that failed. -/
@[ext] structure Runtime (Settings : Type) where
  applied : Option Settings
  reloaded : Option Settings
  deriving DecidableEq

structure SettingsHandler (Settings : Type) where
  active : ActiveSnapshot Settings
  activeJson : Option String
  secrets : Option String
  assets : String → Option String
  runtime : Runtime Settings
  recoveryMode : Bool := false
  recoveryReason : String := ""

/-- Which of the two hooks of the coordinator there are. -/
structure SettingsApplyCoordinator where
  applies : Bool
  afterPersists : Bool

/-- How `AtomicFileWriter::write` ends: a failure may come before or after the rename. -/
inductive WriteEnd where
  | written
  | notPublished
  | notSynced
  deriving DecidableEq, Repr

/-- What the fallible steps of a save come to. -/
structure SaveSteps where
  applied : Bool := true
  write : WriteEnd := .written
  persisted : Bool := true
  deriving DecidableEq, Repr

section Authority

variable {Settings : Type} (codec : SettingsCodec Settings) (coordinator : SettingsApplyCoordinator)

namespace SettingsApplyCoordinator

def rollback (previous : Settings) (runtime : Runtime Settings) : Runtime Settings :=
  if !coordinator.applies then runtime
  else
    { applied := some previous
      reloaded := if coordinator.afterPersists then some previous else runtime.reloaded }

/-- `apply`: the runtime it leaves, and whether it throws. -/
def apply (candidate previous : Settings) (steps : SaveSteps) (runtime : Runtime Settings) :
    Runtime Settings × Except String Unit :=
  if codec.encode candidate false = codec.encode previous false then (runtime, .ok ())
  else match codec.validate candidate with
    | .error reason => (runtime, .error reason)
    | .ok () =>
        if !coordinator.applies then (runtime, .ok ())
        else if steps.applied then ({ runtime with applied := some candidate }, .ok ())
        else (coordinator.rollback previous { runtime with applied := none },
          .error "runtime apply failed")

def afterPersist (candidate previous : Settings) (steps : SaveSteps) (runtime : Runtime Settings) :
    Runtime Settings × Except String Unit :=
  if codec.encode candidate false = codec.encode previous false ∨ coordinator.afterPersists = false
    then (runtime, .ok ())
  else if steps.persisted then ({ runtime with reloaded := some candidate }, .ok ())
  else ({ runtime with reloaded := none }, .error "post-persist action failed")

end SettingsApplyCoordinator

/-- `active.json` after a write, and whether the write throws. -/
def writeActive (file : Option String) (text : String) :
    WriteEnd → Option String × Except String Unit
  | .written => (some text, .ok ())
  | .notPublished => (file, .error "cannot publish active.json")
  | .notSynced => (some text, .error "cannot sync directory")

namespace SettingsHandler

variable (handler : SettingsHandler Settings)

/-- The handler of `save_locked`: memory and file go back, and then the runtime. -/
def restored (previous : ActiveSnapshot Settings) (runtime : Runtime Settings) :
    SettingsHandler Settings :=
  { handler with
    active := previous
    activeJson := some (codec.encode previous.settings true)
    runtime := coordinator.rollback previous.settings runtime }

/-- The part of `save_locked` behind the runtime apply. -/
def persist (settings : Settings) (steps : SaveSteps) (runtime : Runtime Settings) :
    SettingsHandler Settings × Except String (ActiveSnapshot Settings) :=
  let canonical := codec.encode settings true
  let published : ActiveSnapshot Settings := ⟨codec.hash canonical, settings⟩
  match writeActive handler.activeJson canonical steps.write with
  | (_, .error reason) =>
      (handler.restored codec coordinator handler.active runtime, .error reason)
  | (file, .ok ()) =>
      match coordinator.afterPersist codec settings handler.active.settings steps runtime with
      | (runtime, .error reason) =>
          (handler.restored codec coordinator handler.active runtime, .error reason)
      | (runtime, .ok ()) =>
          ({ handler with
            active := published
            activeJson := file
            runtime
            recoveryMode := false
            recoveryReason := "" }, .ok published)

def saveLocked (settings : Settings) (allowRecovery : Bool) (steps : SaveSteps) :
    SettingsHandler Settings × Except String (ActiveSnapshot Settings) :=
  if handler.recoveryMode ∧ allowRecovery = false then
    (handler, .error "settings authority is in recovery mode")
  else match codec.validate settings with
    | .error reason => (handler, .error reason)
    | .ok () =>
        if allowRecovery = false ∧
            codec.hash (codec.encode settings true) = handler.active.contentHash then
          (handler, .ok handler.active)
        else match coordinator.apply codec settings handler.active.settings steps
            handler.runtime with
          | (runtime, .error reason) => ({ handler with runtime }, .error reason)
          | (runtime, .ok ()) => handler.persist codec coordinator settings steps runtime

def save (settings : Settings) (steps : SaveSteps) :
    SettingsHandler Settings × Except String (ActiveSnapshot Settings) :=
  handler.saveLocked codec coordinator settings false steps

/-- `factory_reset`; the credentials are put back when the save throws. -/
def factoryReset (confirmed : Bool) (factory : Except String Settings) (steps : SaveSteps) :
    SettingsHandler Settings × Except String (ActiveSnapshot Settings) :=
  if !confirmed then (handler, .error "factory reset requires confirmation")
  else match (do
      let defaults ← factory
      codec.validate defaults
      return defaults) with
    | .error reason => (handler, .error reason)
    | .ok defaults =>
        let cleared := { handler with secrets := none, assets := fun _ => none }
        match cleared.saveLocked codec coordinator defaults true steps with
        | (after, .ok snapshot) => (after, .ok snapshot)
        | (after, .error reason) =>
            ({ after with secrets := handler.secrets, assets := handler.assets }, .error reason)

end SettingsHandler

def isBlankDocument (document : String) : Bool :=
  document.toList.all (fun character =>
    [' ', '\t', '\n', '\x0b', '\x0c', '\r'].contains character)

/-- The handler with a snapshot in memory and a file, and services that run on the snapshot. -/
def loaded (settings : Settings) (file : String) (secrets : Option String)
    (assets : String → Option String) : SettingsHandler Settings where
  active := ⟨codec.hash (codec.encode settings true), settings⟩
  activeJson := some file
  secrets
  assets
  runtime := ⟨some settings, some settings⟩

/-- The settings of a document that can be used as it is. -/
def usable (document : Option String) : Except String (Settings × String) := do
  match document with
  | none => throw "no document"
  | some text =>
      if isBlankDocument text then throw "blank document"
      let settings ← codec.decode text
      codec.validate settings
      return (settings, text)

/-- `initialize` and the services that start behind it. -/
def initialized (document : Option String) (factory : Except String Settings)
    (secrets : Option String) (assets : String → Option String) :
    Except String (SettingsHandler Settings) :=
  match usable codec document with
  | .ok (settings, text) => .ok (loaded codec settings text secrets assets)
  | .error _ => do
      let defaults ← factory
      codec.validate defaults
      return loaded codec defaults (codec.encode defaults true) secrets assets

/-- A change of the settings, or of the credentials that other commands write. -/
inductive SettingsCall (Settings : Type) where
  | save (settings : Settings) (steps : SaveSteps)
  | factoryReset (confirmed : Bool) (factory : Except String Settings) (steps : SaveSteps)
  | writeSecrets (document : Option String)
  | writeAsset (name : String) (contents : Option String)

def settingsMachine : Machine (SettingsHandler Settings) (SettingsCall Settings)
    (Except String (ActiveSnapshot Settings)) where
  step handler call := match call with
    | .save settings steps => handler.save codec coordinator settings steps
    | .factoryReset confirmed factory steps =>
        handler.factoryReset codec coordinator confirmed factory steps
    | .writeSecrets document => ({ handler with secrets := document }, .ok handler.active)
    | .writeAsset name contents =>
        ({ handler with assets := Function.update handler.assets name contents },
          .ok handler.active)

/-- Valid settings survive their encoding. -/
def RoundTrips : Prop :=
  ∀ settings, codec.validate settings = .ok () →
    ∀ pretty, codec.decode (codec.encode settings pretty) = .ok settings

/-- Memory, file and services agree on valid settings. -/
structure Consistent (handler : SettingsHandler Settings) : Prop where
  valid : codec.validate handler.active.settings = .ok ()
  hash : handler.active.contentHash = codec.hash (codec.encode handler.active.settings true)
  disk : ∃ text, handler.activeJson = some text ∧
    codec.decode text = .ok handler.active.settings
  applied : handler.runtime.applied = some handler.active.settings
  reloaded : coordinator.afterPersists → handler.runtime.reloaded = some handler.active.settings

/-- What a call that throws leaves: everything as it was, and in `active.json` the earlier
contents or the canonical encoding of the same settings. -/
structure TakenBack (before after : SettingsHandler Settings) : Prop where
  active : after.active = before.active
  secrets : after.secrets = before.secrets
  assets : after.assets = before.assets
  runtime : after.runtime = before.runtime
  file : after.activeJson = before.activeJson ∨
    after.activeJson = some (codec.encode before.active.settings true)

/-- What a call that returns leaves: the candidate in memory, on disk and in the services. -/
structure Changed (candidate : Settings) (after : SettingsHandler Settings) : Prop where
  active : after.active = ⟨codec.hash (codec.encode candidate true), candidate⟩
  disk : ∃ text, after.activeJson = some text ∧ codec.decode text = .ok candidate
  applied : after.runtime.applied = some candidate
  reloaded : coordinator.afterPersists → after.runtime.reloaded = some candidate

/-- What a save comes to; the credentials are none of its business. -/
structure Saved (handler : SettingsHandler Settings) (candidate : Settings)
    (result : SettingsHandler Settings × Except String (ActiveSnapshot Settings)) : Prop where
  thrown : ∀ reason, result.2 = .error reason → TakenBack codec handler result.1
  returned : ∀ snapshot, result.2 = .ok snapshot → snapshot = result.1.active ∧
    Changed codec coordinator candidate result.1 ∧ result.1.secrets = handler.secrets ∧
      result.1.assets = handler.assets

section Steps

variable {codec coordinator} {handler : SettingsHandler Settings} {candidate : Settings}
  {steps : SaveSteps}

theorem encode_injective (roundTrips : RoundTrips codec) {left right : Settings} {pretty : Bool}
    (first : codec.validate left = .ok ()) (second : codec.validate right = .ok ())
    (same : codec.encode left pretty = codec.encode right pretty) : left = right := by
  have decoded := roundTrips left first pretty
  rw [same, roundTrips right second pretty] at decoded
  exact (Except.ok.inj decoded).symm

theorem rollback_consistent (applies : coordinator.applies)
    (consistent : Consistent codec coordinator handler) {runtime : Runtime Settings}
    (kept : coordinator.afterPersists = false → runtime.reloaded = handler.runtime.reloaded) :
    coordinator.rollback handler.active.settings runtime = handler.runtime := by
  apply Runtime.ext
  · rw [consistent.applied]
    simp [SettingsApplyCoordinator.rollback, applies]
  · cases persists : coordinator.afterPersists with
    | false => simp [SettingsApplyCoordinator.rollback, applies, persists, kept persists]
    | true =>
        rw [consistent.reloaded persists]
        simp [SettingsApplyCoordinator.rollback, applies, persists]

theorem apply_error (applies : coordinator.applies)
    (consistent : Consistent codec coordinator handler) {runtime : Runtime Settings}
    {reason : String} (failed : coordinator.apply codec candidate handler.active.settings steps
      handler.runtime = (runtime, .error reason)) : runtime = handler.runtime := by
  unfold SettingsApplyCoordinator.apply at failed
  split at failed
  · cases failed
  · split at failed
    · exact (Prod.mk.inj failed).1.symm
    · split at failed
      · cases failed
      · split at failed
        · cases failed
        · cases failed
          exact rollback_consistent applies consistent (fun _ => rfl)

theorem apply_ok (roundTrips : RoundTrips codec) (applies : coordinator.applies)
    (consistent : Consistent codec coordinator handler)
    (valid : codec.validate candidate = .ok ()) {runtime : Runtime Settings}
    (applied : coordinator.apply codec candidate handler.active.settings steps handler.runtime =
      (runtime, .ok ())) : runtime = { handler.runtime with applied := some candidate } := by
  unfold SettingsApplyCoordinator.apply at applied
  split at applied
  · next same =>
      cases applied
      rw [encode_injective roundTrips valid consistent.valid same, ← consistent.applied]
  · split at applied
    · cases applied
    · split at applied
      · next absent => simp [applies] at absent
      · split at applied
        · exact (Prod.mk.inj applied).1.symm
        · cases applied

theorem afterPersist_error {previous : Settings} {runtime after : Runtime Settings}
    {reason : String} (failed : coordinator.afterPersist codec candidate previous steps runtime =
      (after, .error reason)) : coordinator.afterPersists = true := by
  unfold SettingsApplyCoordinator.afterPersist at failed
  split at failed
  · cases failed
  · next hooked => exact Bool.eq_true_of_not_eq_false (fun absent => hooked (.inr absent))

theorem afterPersist_ok (roundTrips : RoundTrips codec)
    (consistent : Consistent codec coordinator handler)
    (valid : codec.validate candidate = .ok ()) {after : Runtime Settings}
    (persisted : coordinator.afterPersist codec candidate handler.active.settings steps
      { handler.runtime with applied := some candidate } = (after, .ok ())) :
    after.applied = some candidate ∧
      (coordinator.afterPersists → after.reloaded = some candidate) := by
  unfold SettingsApplyCoordinator.afterPersist at persisted
  split at persisted
  · next skipped =>
      cases persisted
      refine ⟨rfl, ?_⟩
      intro hooked
      have same := skipped.resolve_right (fun absent => by rw [absent] at hooked; cases hooked)
      rw [encode_injective roundTrips valid consistent.valid same]
      exact consistent.reloaded hooked
  · split at persisted
    · cases persisted
      exact ⟨rfl, fun _ => rfl⟩
    · cases persisted

theorem writeActive_ok {before after : Option String} {text : String} {outcome : WriteEnd}
    (written : writeActive before text outcome = (after, .ok ())) : after = some text := by
  cases outcome with
  | written => exact (Prod.mk.inj written).1.symm
  | notPublished => cases written
  | notSynced => cases written

theorem persist_saved (roundTrips : RoundTrips codec) (applies : coordinator.applies)
    (consistent : Consistent codec coordinator handler)
    (valid : codec.validate candidate = .ok ()) :
    Saved codec coordinator handler candidate (handler.persist codec coordinator candidate steps
      { handler.runtime with applied := some candidate }) := by
  have back : ∀ runtime, (coordinator.afterPersists = false →
      runtime.reloaded = handler.runtime.reloaded) →
        TakenBack codec handler (handler.restored codec coordinator handler.active runtime) := by
    intro runtime kept
    exact ⟨rfl, rfl, rfl, rollback_consistent applies consistent kept, .inr rfl⟩
  unfold SettingsHandler.persist
  dsimp only
  split
  · next reason _ =>
      exact ⟨fun _ _ => back _ (fun _ => rfl), fun _ contrary => nomatch contrary⟩
  · next file written =>
      have text := writeActive_ok written
      split
      · next runtime reason failed =>
          refine ⟨fun _ _ => back runtime ?_, fun _ contrary => nomatch contrary⟩
          intro absent
          rw [afterPersist_error failed] at absent
          cases absent
      · next runtime persisted =>
          have held := afterPersist_ok roundTrips consistent valid persisted
          refine ⟨fun _ contrary => (nomatch contrary), ?_⟩
          intro snapshot returned
          refine ⟨(Except.ok.inj returned).symm, ⟨rfl, ?_, held.1, held.2⟩, rfl, rfl⟩
          exact ⟨_, text, roundTrips candidate valid true⟩

/-- The fingerprint of the candidate tells it apart from the active settings. -/
def Distinguishes (codec : SettingsCodec Settings) (handler : SettingsHandler Settings)
    (candidate : Settings) : Prop :=
  codec.hash (codec.encode candidate true) = handler.active.contentHash →
    codec.encode candidate true = codec.encode handler.active.settings true

theorem takenBack_same : TakenBack codec handler handler := ⟨rfl, rfl, rfl, rfl, .inl rfl⟩

theorem saveLocked_saved (roundTrips : RoundTrips codec) (applies : coordinator.applies)
    (consistent : Consistent codec coordinator handler) {allowRecovery : Bool}
    (distinguishes : allowRecovery = false → Distinguishes codec handler candidate) :
    Saved codec coordinator handler candidate
      (handler.saveLocked codec coordinator candidate allowRecovery steps) := by
  unfold SettingsHandler.saveLocked
  split
  · exact ⟨fun _ _ => takenBack_same, fun _ contrary => nomatch contrary⟩
  · split
    · exact ⟨fun _ _ => takenBack_same, fun _ contrary => nomatch contrary⟩
    · next valid =>
        split
        · next known =>
            have same := encode_injective roundTrips valid consistent.valid
              (distinguishes known.1 known.2)
            refine ⟨fun _ contrary => (nomatch contrary), ?_⟩
            intro snapshot returned
            subst same
            refine ⟨(Except.ok.inj returned).symm, ?_, rfl, rfl⟩
            refine ⟨?_, consistent.disk, consistent.applied, consistent.reloaded⟩
            cases active : handler.active
            have hash := consistent.hash
            rw [active] at hash
            rw [← hash]
        · split
          · next runtime reason failed =>
              refine ⟨fun _ _ => ?_, fun _ contrary => nomatch contrary⟩
              rw [apply_error applies consistent failed]
              exact takenBack_same
          · next runtime applied =>
              rw [apply_ok roundTrips applies consistent valid applied]
              exact persist_saved roundTrips applies consistent valid

theorem consistent_takenBack (roundTrips : RoundTrips codec) {after : SettingsHandler Settings}
    (consistent : Consistent codec coordinator handler) (back : TakenBack codec handler after) :
    Consistent codec coordinator after := by
  constructor
  · rw [back.active]
    exact consistent.valid
  · rw [back.active]
    exact consistent.hash
  · rw [back.active]
    rcases back.file with same | canonical
    · rw [same]
      exact consistent.disk
    · exact ⟨_, canonical, roundTrips _ consistent.valid true⟩
  · rw [back.active, back.runtime]
    exact consistent.applied
  · rw [back.active, back.runtime]
    exact consistent.reloaded

theorem consistent_changed {after : SettingsHandler Settings}
    (valid : codec.validate candidate = .ok ())
    (changed : Changed codec coordinator candidate after) : Consistent codec coordinator after := by
  constructor
  · rw [changed.active]
    exact valid
  · rw [changed.active]
  · rw [changed.active]
    exact changed.disk
  · rw [changed.active]
    exact changed.applied
  · rw [changed.active]
    exact changed.reloaded

theorem consistent_saved (roundTrips : RoundTrips codec)
    {result : SettingsHandler Settings × Except String (ActiveSnapshot Settings)}
    (consistent : Consistent codec coordinator handler)
    (saved : Saved codec coordinator handler candidate result)
    (valid : ∀ snapshot, result.2 = .ok snapshot → codec.validate candidate = .ok ()) :
    Consistent codec coordinator result.1 := by
  cases ended : result.2 with
  | error reason => exact consistent_takenBack roundTrips consistent (saved.thrown reason ended)
  | ok snapshot =>
      exact consistent_changed (valid snapshot ended) (saved.returned snapshot ended).2.1

theorem saveLocked_valid {allowRecovery : Bool} {snapshot : ActiveSnapshot Settings}
    (returned : (handler.saveLocked codec coordinator candidate allowRecovery steps).2 =
      .ok snapshot) : codec.validate candidate = .ok () := by
  unfold SettingsHandler.saveLocked at returned
  split at returned
  · cases returned
  · split at returned
    · cases returned
    · next valid => exact valid

/-- What a factory reset comes to. -/
structure Reset (codec : SettingsCodec Settings) (coordinator : SettingsApplyCoordinator)
    (handler : SettingsHandler Settings) (factory : Except String Settings)
    (result : SettingsHandler Settings × Except String (ActiveSnapshot Settings)) : Prop where
  thrown : ∀ reason, result.2 = .error reason → TakenBack codec handler result.1
  returned : ∀ snapshot, result.2 = .ok snapshot → ∃ defaults, factory = .ok defaults ∧
    codec.validate defaults = .ok () ∧ snapshot = result.1.active ∧
      Changed codec coordinator defaults result.1 ∧ result.1.secrets = none ∧
        ∀ name, result.1.assets name = none

theorem factoryReset_reset (roundTrips : RoundTrips codec) (applies : coordinator.applies)
    (consistent : Consistent codec coordinator handler) {confirmed : Bool}
    {factory : Except String Settings} :
    Reset codec coordinator handler factory
      (handler.factoryReset codec coordinator confirmed factory steps) := by
  unfold SettingsHandler.factoryReset
  split
  · exact ⟨fun _ _ => takenBack_same, fun _ contrary => nomatch contrary⟩
  · split
    · exact ⟨fun _ _ => takenBack_same, fun _ contrary => nomatch contrary⟩
    · next defaults checked =>
        rcases Loops.bind_ok checked with ⟨given, known, checked⟩
        rcases Loops.bind_ok checked with ⟨_, valid, checked⟩
        cases checked
        have cleared : Consistent codec coordinator
            { handler with secrets := none, assets := fun _ => none } :=
          ⟨consistent.valid, consistent.hash, consistent.disk, consistent.applied,
            consistent.reloaded⟩
        have saved : Saved codec coordinator
            { handler with secrets := none, assets := fun _ => none }
            defaults (SettingsHandler.saveLocked codec coordinator
              { handler with secrets := none, assets := fun _ => none } defaults true steps) :=
          saveLocked_saved roundTrips applies cleared (fun contrary => nomatch contrary)
        dsimp only
        split
        · next after snapshot ended =>
            rw [ended] at saved
            have result := saved.returned snapshot rfl
            refine ⟨fun _ contrary => (nomatch contrary), ?_⟩
            intro other same
            cases same
            exact ⟨defaults, known, valid, result.1, result.2.1, result.2.2.1,
              fun name => congrFun result.2.2.2 name⟩
        · next after reason ended =>
            rw [ended] at saved
            have back := saved.thrown reason rfl
            refine ⟨?_, fun _ contrary => (nomatch contrary)⟩
            intro other same
            exact ⟨back.active, rfl, rfl, back.runtime, back.file⟩

end Steps

/-- A saved candidate is told apart from the active settings by its fingerprint. -/
def NoCollision (handler : SettingsHandler Settings) : SettingsCall Settings → Prop
  | .save settings _ => Distinguishes codec handler settings
  | _ => True

section Runs

variable {codec coordinator} {handler : SettingsHandler Settings} {call : SettingsCall Settings}

theorem consistent_next (roundTrips : RoundTrips codec) (applies : coordinator.applies)
    (distinct : NoCollision codec handler call)
    (consistent : Consistent codec coordinator handler) :
    Consistent codec coordinator ((settingsMachine codec coordinator).next handler call) := by
  cases call with
  | save settings steps =>
      exact consistent_saved roundTrips consistent
        (saveLocked_saved roundTrips applies consistent (fun _ => distinct))
        (fun _ returned => saveLocked_valid returned)
  | factoryReset confirmed factory steps =>
      have reset : Reset codec coordinator handler factory
          (handler.factoryReset codec coordinator confirmed factory steps) :=
        factoryReset_reset roundTrips applies consistent
      change Consistent codec coordinator
        (handler.factoryReset codec coordinator confirmed factory steps).1
      cases ended : (handler.factoryReset codec coordinator confirmed factory steps).2 with
      | error reason =>
          exact consistent_takenBack roundTrips consistent (reset.thrown reason ended)
      | ok snapshot =>
          rcases reset.returned snapshot ended with ⟨defaults, -, valid, -, changed, -⟩
          exact consistent_changed valid changed
  | writeSecrets document =>
      exact ⟨consistent.valid, consistent.hash, consistent.disk, consistent.applied,
        consistent.reloaded⟩
  | writeAsset name contents =>
      exact ⟨consistent.valid, consistent.hash, consistent.disk, consistent.applied,
        consistent.reloaded⟩

theorem consistent_loaded {settings : Settings} {text : String} {secrets : Option String}
    {assets : String → Option String} (valid : codec.validate settings = .ok ())
    (decoded : codec.decode text = .ok settings) :
    Consistent codec coordinator (loaded codec settings text secrets assets) :=
  ⟨valid, rfl, ⟨text, rfl, decoded⟩, rfl, fun _ => rfl⟩

theorem consistent_initialized (roundTrips : RoundTrips codec) {document : Option String}
    {factory : Except String Settings} {secrets : Option String}
    {assets : String → Option String}
    (began : initialized codec document factory secrets assets = .ok handler) :
    Consistent codec coordinator handler := by
  unfold initialized at began
  split at began
  · next settings text readable =>
      cases began
      unfold usable at readable
      split at readable
      · cases readable
      · next given =>
          split at readable
          · cases readable
          · rcases Loops.bind_ok readable with ⟨decoded, known, readable⟩
            rcases Loops.bind_ok readable with ⟨_, valid, readable⟩
            cases readable
            exact consistent_loaded valid known
  · rcases Loops.bind_ok began with ⟨defaults, _, began⟩
    rcases Loops.bind_ok began with ⟨_, valid, began⟩
    cases began
    exact consistent_loaded valid (roundTrips defaults valid true)

end Runs

/-- In every state that the authority can be in, a save or a factory reset that throws leaves
everything as it was, up to the encoding of the same settings in `active.json`; one that returns
leaves the candidate everywhere, and after a reset no credentials. -/
theorem settings_changes_whole (roundTrips : RoundTrips codec) (applies : coordinator.applies)
    (document : Option String) (factory : Except String Settings) (secrets : Option String)
    (assets : String → Option String) (start : SettingsHandler Settings)
    (began : initialized codec document factory secrets assets = .ok start)
    (calls : List (SettingsCall Settings))
    (distinct : (settingsMachine codec coordinator).Along (NoCollision codec) start calls)
    (before : SettingsHandler Settings)
    (reached : before = (settingsMachine codec coordinator).run start calls) :
    (∀ candidate steps, Distinguishes codec before candidate →
      Saved codec coordinator before candidate
        (before.save codec coordinator candidate steps)) ∧
      ∀ confirmed factory steps, Reset codec coordinator before factory
        (before.factoryReset codec coordinator confirmed factory steps) := by
  have consistent : Consistent codec coordinator before := by
    rw [reached]
    exact Machine.along_invariant _ (NoCollision codec) (Consistent codec coordinator)
      (fun _ _ distinct kept => consistent_next roundTrips applies distinct kept) start
      (consistent_initialized roundTrips began) calls distinct
  constructor
  · intro candidate steps distinguishes
    exact saveLocked_saved roundTrips applies consistent (fun _ => distinguishes)
  · intro confirmed factory steps
    exact factoryReset_reset roundTrips applies consistent

end Authority

/-- Two settings documents, the first of which also exists in an older schema. -/
def twoDocuments : SettingsCodec Bool where
  decode text :=
    if text = "schema 8: first" then .ok false
    else if text = "schema 8: second" then .ok true
    else if text = "schema 7: first" then .ok false
    else .error "invalid product settings"
  encode settings _ := if settings then "schema 8: second" else "schema 8: first"
  hash text := text
  validate _ := .ok ()

theorem twoDocuments_roundTrips : RoundTrips twoDocuments := by
  intro settings _ pretty
  cases settings <;> cases pretty <;> decide +kernel

/-- The authority after an update of the image: `active.json` is still of the older schema. -/
def olderDocument : SettingsHandler Bool :=
  loaded twoDocuments false "schema 7: first" (some "secret") (fun _ => some "asset")

theorem olderDocument_initialized :
    initialized twoDocuments (some "schema 7: first") (.ok false) (some "secret")
      (fun _ => some "asset") = .ok olderDocument := by
  have readable : usable twoDocuments (some "schema 7: first") =
      .ok (false, "schema 7: first") := by
    decide +kernel
  unfold initialized
  rw [readable]
  rfl

theorem older_document_changes :
    Changed twoDocuments ⟨true, true⟩ true
      (olderDocument.save twoDocuments ⟨true, true⟩ true {}).1 := by
  have whole := settings_changes_whole twoDocuments ⟨true, true⟩ twoDocuments_roundTrips rfl
    (some "schema 7: first") (.ok false) (some "secret") (fun _ => some "asset") olderDocument
    olderDocument_initialized [] trivial olderDocument rfl
  have different : Distinguishes twoDocuments olderDocument true := fun same => same
  exact ((whole.1 true {} different).returned ⟨"schema 8: second", true⟩
    (by decide +kernel)).2.1

/-- A save whose post-persist action fails leaves another text in `active.json`. -/
theorem older_document_rewritten :
    initialized twoDocuments (some "schema 7: first") (.ok false) (some "secret")
        (fun _ => some "asset") = .ok olderDocument ∧
      (olderDocument.save twoDocuments ⟨true, true⟩ true { persisted := false }).2 =
        .error "post-persist action failed" ∧
      (olderDocument.save twoDocuments ⟨true, true⟩ true { persisted := false }).1.activeJson ≠
        olderDocument.activeJson :=
  ⟨olderDocument_initialized, by decide +kernel, by decide +kernel⟩

end Msap1.Settings
