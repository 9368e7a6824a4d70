import Msap1.Mqtt.Scheduler

/-! The timers of the scheduler across `stop`, `configure` and `start`. -/

namespace Msap1.Mqtt

namespace MeterPublicationScheduler

variable (state : MeterPublicationScheduler)

/-- The timer waits, or its handler runs. -/
def Active (publication : Nat) : Prop :=
  state.armed publication = true ∨ state.handler.publication = some publication

/-- How many of the three stages of a timer's round a publication is in. -/
def stages (publication : Nat) : Nat :=
  (state.armed publication).toNat + state.queued.count publication +
    (state.handler.publication == some publication).toNat

/-- `start` has returned and no `stop` was called since. -/
def Started : Prop :=
  state.running = true ∧ ∀ rest, state.control ≠ .scheduling rest

/-- `stop` has returned and no `start` was called since. -/
def Stopped : Prop :=
  state.running = false ∧ ∀ rest configure, state.control ≠ .cancelling rest configure

end MeterPublicationScheduler

/-- The publications whose handler called `client_.publish` since `stop` last returned, and the
one whose handler was running then. -/
structure SinceStop where
  inProgress : Option Nat := none
  published : List Nat := []

def noteStop (state : MeterPublicationScheduler) (since : SinceStop) (step : Step) (_ : Unit) :
    SinceStop :=
  match step with
  | .advance _ =>
      match state.control with
      | .cancelling [] _ => ⟨state.handler.publication, []⟩
      | _ => since
  | .proceed _ =>
      match state.handler with
      | .stored publication _ => { since with published := since.published ++ [publication] }
      | _ => since
  | _ => since

def observed : Machine (MeterPublicationScheduler × SinceStop) Step Unit :=
  threads.traced noteStop

/-- What a reconfiguration promises, in one state. -/
structure Orderly (state : MeterPublicationScheduler) (since : SinceStop) : Prop where
  configured : state.Started → ∀ publication, state.handler.publication = some publication →
    publication ∈ state.publications ∧ ∃ settings ∈ state.configured,
      settings.enabled = true ∧ state.objects[publication]? = some settings
  single : ∀ publication ∈ state.publications, (state.armed publication).toNat +
    (state.handler.publication == some publication).toNat ≤ 1
  stopped : state.Stopped →
    (since.published.Nodup ∧ ∀ publication ∈ since.published,
        since.inProgress = some publication) ∧
      ∀ publication, state.handler.publication ≠ some publication →
        state.armed publication = false

/-- When `stop` cancels a timer, no handler of its publication is past the running check, and
when `start` sets the flag, no handler of an expired timer is waiting to run. -/
def Undisturbed (state : MeterPublicationScheduler) : Step → Prop
  | .advance _ =>
      match state.control with
      | .cancelling (publication :: _) _ => state.handler.publication ≠ some publication
      | _ => True
  | .start => state.control = .idle ∧ state.running = false → state.queued = []
  | _ => True

def decidableCancelled (handled : Option Nat) : (control : Control) → Decidable (match control with
    | .cancelling (publication :: _) _ => handled ≠ some publication
    | _ => True)
  | .cancelling (publication :: _) _ => inferInstanceAs (Decidable (handled ≠ some publication))
  | .cancelling [] _ => isTrue trivial
  | .idle => isTrue trivial
  | .scheduling _ => isTrue trivial
  | .flushing _ => isTrue trivial
  | .cleaning _ _ => isTrue trivial

instance decidableUndisturbed (state : MeterPublicationScheduler) :
    (step : Step) → Decidable (Undisturbed state step)
  | .advance _ => decidableCancelled state.handler.publication state.control
  | .start => inferInstanceAs
      (Decidable (state.control = .idle ∧ state.running = false → state.queued = []))
  | .stop => isTrue trivial
  | .configure _ => isTrue trivial
  | .flush => isTrue trivial
  | .expire _ => isTrue trivial
  | .dispatch _ => isTrue trivial
  | .snapshot _ => isTrue trivial
  | .proceed _ => isTrue trivial

open MeterPublicationScheduler

/-- Which publications may be active, by what the controlling thread is doing. -/
def Phase (state : MeterPublicationScheduler) : Prop :=
  match state.control with
  | .cancelling rest _ => state.running = false ∧ ∀ publication, state.Active publication →
      publication ∈ rest
  | .scheduling rest => state.running = true ∧ rest.Nodup ∧ rest ⊆ state.publications ∧
      ∀ publication, state.Active publication ∨ publication ∈ state.queued →
        publication ∈ state.publications ∧ publication ∉ rest
  | _ =>
      (state.running = true → ∀ publication,
        state.Active publication ∨ publication ∈ state.queued →
          publication ∈ state.publications) ∧
        (state.running = false → ∀ publication, ¬ state.Active publication)

structure Tidy (state : MeterPublicationScheduler) : Prop where
  alone : ∀ publication, state.stages publication ≤ 1
  used : ∀ publication, state.Active publication ∨ publication ∈ state.queued →
    publication < state.objects.length
  distinct : state.publications.Nodup
  settings : ∀ publication ∈ state.publications, ∃ settings ∈ state.configured,
    settings.enabled = true ∧ state.objects[publication]? = some settings
  phase : Phase state

/-- No loop of `stop` or `start` is under way. -/
def Control.calm : Control → Bool
  | cancelling _ _ => false
  | scheduling _ => false
  | _ => true

theorem phase_calm {state : MeterPublicationScheduler} (calm : state.control.calm = true) :
    Phase state ↔
      (state.running = true → ∀ publication,
        state.Active publication ∨ publication ∈ state.queued →
          publication ∈ state.publications) ∧
        (state.running = false → ∀ publication, ¬ state.Active publication) := by
  cases control : state.control with
  | cancelling rest configure => rw [control] at calm; cases calm
  | scheduling rest => rw [control] at calm; cases calm
  | idle => simp only [Phase, control]
  | flushing rest => simp only [Phase, control]
  | cleaning request rest => simp only [Phase, control]

theorem phase_cancelling {state : MeterPublicationScheduler} {rest : List Nat}
    {configure : Option (List MqttPublicationSettings)}
    (control : state.control = .cancelling rest configure) :
    Phase state ↔ state.running = false ∧ ∀ publication, state.Active publication →
      publication ∈ rest := by
  simp only [Phase, control]

theorem phase_scheduling {state : MeterPublicationScheduler} {rest : List Nat}
    (control : state.control = .scheduling rest) :
    Phase state ↔ state.running = true ∧ rest.Nodup ∧ rest ⊆ state.publications ∧
      ∀ publication, state.Active publication ∨ publication ∈ state.queued →
        publication ∈ state.publications ∧ publication ∉ rest := by
  simp only [Phase, control]

theorem Tidy.at_home {state : MeterPublicationScheduler} (tidy : Tidy state)
    (running : state.running = true) {publication : Nat}
    (about : state.Active publication ∨ publication ∈ state.queued) :
    publication ∈ state.publications := by
  have phase := tidy.phase
  cases control : state.control with
  | cancelling rest configure =>
      have halted := ((phase_cancelling control).mp phase).1
      rw [running] at halted
      cases halted
  | scheduling rest => exact (((phase_scheduling control).mp phase).2.2.2 publication about).1
  | idle => exact ((phase_calm (by rw [control]; rfl)).mp phase).1 running publication about
  | flushing rest =>
      exact ((phase_calm (by rw [control]; rfl)).mp phase).1 running publication about
  | cleaning request rest =>
      exact ((phase_calm (by rw [control]; rfl)).mp phase).1 running publication about

theorem phase_of_fewer {before after : MeterPublicationScheduler} (phase : Phase before)
    (control : after.control = before.control) (running : after.running = before.running)
    (publications : after.publications = before.publications)
    (active : ∀ publication, after.Active publication →
      before.Active publication ∨ before.running = true ∧ publication ∈ before.queued)
    (about : ∀ publication, after.Active publication ∨ publication ∈ after.queued →
      before.Active publication ∨ publication ∈ before.queued) : Phase after := by
  cases here : before.control with
  | cancelling rest configure =>
      obtain ⟨halted, among⟩ := (phase_cancelling here).mp phase
      rw [phase_cancelling (control.trans here)]
      refine ⟨running.trans halted, ?_⟩
      intro publication now
      rcases active publication now with earlier | ⟨runs, _⟩
      · exact among publication earlier
      · rw [halted] at runs
        cases runs
  | scheduling rest =>
      obtain ⟨runs, distinct, subset, among⟩ := (phase_scheduling here).mp phase
      rw [phase_scheduling (control.trans here), publications]
      exact ⟨running.trans runs, distinct, subset,
        fun publication now => among publication (about publication now)⟩
  | idle | flushing | cleaning =>
      obtain ⟨runs, halts⟩ := (phase_calm (by rw [here]; rfl)).mp phase
      rw [phase_calm (by rw [control, here]; rfl), running, publications]
      constructor
      · intro started publication now
        exact runs started publication (about publication now)
      · intro halted publication now
        rcases active publication now with earlier | ⟨started, _⟩
        · exact halts halted publication earlier
        · rw [halted] at started
          cases started

theorem tidy_of_same {before after : MeterPublicationScheduler} (tidy : Tidy before)
    (objects : after.objects = before.objects)
    (publications : after.publications = before.publications)
    (armed : after.armed = before.armed) (queued : after.queued = before.queued)
    (handler : after.handler.publication = before.handler.publication)
    (configured : after.configured = before.configured) (phase : Phase after) : Tidy after where
  alone := by
    intro publication
    simpa only [stages, armed, queued, handler] using tidy.alone publication
  used := by
    intro publication
    simpa only [Active, armed, queued, handler, objects] using tidy.used publication
  distinct := by rw [publications]; exact tidy.distinct
  settings := by rw [publications, configured, objects]; exact tidy.settings
  phase := phase

theorem callStop_tidy {state : MeterPublicationScheduler} (tidy : Tidy state)
    (configure : Option (List MqttPublicationSettings)) : Tidy (state.callStop configure) := by
  rw [callStop]
  split
  · next idle =>
    obtain ⟨runs, halts⟩ := (phase_calm (by rw [idle]; rfl)).mp tidy.phase
    refine tidy_of_same tidy rfl rfl rfl rfl rfl rfl ((phase_cancelling rfl).mpr ⟨rfl, ?_⟩)
    intro publication active
    cases running : state.running with
    | true => exact runs running publication (.inl active)
    | false => exact absurd active (halts running publication)
  · exact tidy

theorem callStart_tidy {state : MeterPublicationScheduler} (tidy : Tidy state)
    (undisturbed : Undisturbed state .start) : Tidy state.callStart := by
  rw [callStart]
  split
  · next halted =>
    obtain ⟨idle, stopped⟩ := halted
    obtain ⟨_, halts⟩ := (phase_calm (by rw [idle]; rfl)).mp tidy.phase
    have empty : state.queued = [] := undisturbed ⟨idle, stopped⟩
    refine tidy_of_same tidy rfl rfl rfl rfl rfl rfl ((phase_scheduling rfl).mpr
      ⟨rfl, tidy.distinct, fun _ member => member, ?_⟩)
    rintro publication (active | queued)
    · exact absurd active (halts stopped publication)
    · change publication ∈ state.queued at queued
      rw [empty] at queued
      cases queued
  · exact tidy

theorem calm_tidy {before after : MeterPublicationScheduler} (tidy : Tidy before)
    (objects : after.objects = before.objects)
    (publications : after.publications = before.publications)
    (running : after.running = before.running) (armed : after.armed = before.armed)
    (queued : after.queued = before.queued) (handler : after.handler = before.handler)
    (configured : after.configured = before.configured)
    (earlier : before.control.calm = true) (later : after.control.calm = true) : Tidy after := by
  refine tidy_of_same tidy objects publications armed queued (by rw [handler]) configured ?_
  have phase := (phase_calm earlier).mp tidy.phase
  rw [phase_calm later]
  simpa only [Active, armed, handler, queued, running, publications] using phase

theorem callFlush_tidy {state : MeterPublicationScheduler} (tidy : Tidy state) :
    Tidy state.callFlush := by
  rw [callFlush]
  split
  · next idle => exact calm_tidy tidy rfl rfl rfl rfl rfl rfl rfl (by rw [idle]; rfl) rfl
  · exact tidy

theorem toNat_update_false (armed : Nat → Bool) (cancelled publication : Nat) :
    (Function.update armed cancelled false publication).toNat ≤ (armed publication).toNat := by
  by_cases same : publication = cancelled
  · simp [same]
  · simp [same]

theorem armed_update_false {armed : Nat → Bool} {cancelled publication : Nat}
    (still : Function.update armed cancelled false publication = true) :
    publication ≠ cancelled ∧ armed publication = true := by
  by_cases same : publication = cancelled
  · simp [same] at still
  · exact ⟨same, by simpa [same] using still⟩

theorem cancel_tidy {state : MeterPublicationScheduler} (tidy : Tidy state)
    {publication : Nat} {rest : List Nat}
    {configure : Option (List MqttPublicationSettings)}
    (control : state.control = .cancelling (publication :: rest) configure)
    (quiet : state.handler.publication ≠ some publication) :
    Tidy { state.cancel publication with control := .cancelling rest configure } := by
  obtain ⟨halted, among⟩ := (phase_cancelling control).mp tidy.phase
  refine ⟨?_, ?_, tidy.distinct, tidy.settings, (phase_cancelling rfl).mpr ⟨halted, ?_⟩⟩
  · intro other
    have fewer := toNat_update_false state.armed publication other
    have alone := tidy.alone other
    simp only [stages, cancel] at alone ⊢
    omega
  · rintro other (active | queued)
    · rcases active with armed | runs
      · exact tidy.used other (.inl (.inl (armed_update_false armed).2))
      · exact tidy.used other (.inl (.inr runs))
    · exact tidy.used other (.inr queued)
  · rintro other (armed | runs)
    · obtain ⟨differ, still⟩ := armed_update_false armed
      exact (List.mem_cons.mp (among other (.inl still))).resolve_left differ
    · have differ : other ≠ publication := by
        rintro rfl
        exact quiet runs
      exact (List.mem_cons.mp (among other (.inr runs))).resolve_left differ

theorem install_tidy {state : MeterPublicationScheduler} (tidy : Tidy state)
    {settings : List MqttPublicationSettings}
    (control : state.control = .cancelling [] (some settings)) :
    Tidy { state.install settings with control := .idle } := by
  obtain ⟨halted, among⟩ := (phase_cancelling control).mp tidy.phase
  refine ⟨tidy.alone, ?_, ?_, ?_, (phase_calm rfl).mpr ⟨?_, ?_⟩⟩
  · intro publication about
    have earlier := tidy.used publication about
    simp only [install, List.length_append]
    omega
  · exact List.Nodup.map (fun _ _ same => Nat.add_left_cancel same) List.nodup_range
  · intro publication member
    simp only [install, List.mem_map, List.mem_range] at member
    obtain ⟨index, bound, rfl⟩ := member
    refine ⟨(settings.filter (·.enabled))[index], ?_, ?_, ?_⟩
    · exact (List.mem_filter.mp (List.getElem_mem bound)).1
    · exact (List.mem_filter.mp (List.getElem_mem bound)).2
    · simp [install, bound]
  · intro running
    change state.running = true at running
    rw [halted] at running
    cases running
  · intro _ publication active
    cases among publication active

theorem schedule_stages {state : MeterPublicationScheduler} (publication : Nat) {other : Nat}
    (control : Control) (differ : other ≠ publication) :
    stages { state.schedule publication with control := control } other = state.stages other := by
  simp [stages, schedule, differ]

theorem arm_tidy {state : MeterPublicationScheduler} (tidy : Tidy state)
    {publication : Nat} {rest : List Nat}
    (control : state.control = .scheduling (publication :: rest)) :
    Tidy { state.schedule publication with control := .scheduling rest } := by
  obtain ⟨running, distinct, subset, among⟩ := (phase_scheduling control).mp tidy.phase
  have mine : publication ∈ state.publications := subset List.mem_cons_self
  have resting : ¬ (state.Active publication ∨ publication ∈ state.queued) :=
    fun about => (among publication about).2 List.mem_cons_self
  have absent : publication ∉ rest := (List.nodup_cons.mp distinct).1
  have about : ∀ other, Active { state.schedule publication with control := .scheduling rest }
      other ∨ other ∈ state.queued →
        other = publication ∨ state.Active other ∨ other ∈ state.queued := by
    rintro other ((armed | runs) | queued)
    · by_cases same : other = publication
      · exact .inl same
      · exact .inr (.inl (.inl (by simpa [schedule, same] using armed)))
    · exact .inr (.inl (.inr runs))
    · exact .inr (.inr queued)
  refine ⟨?_, ?_, tidy.distinct, tidy.settings,
    (phase_scheduling rfl).mpr ⟨running, (List.nodup_cons.mp distinct).2,
      fun _ member => subset (List.mem_cons_of_mem publication member), ?_⟩⟩
  · intro other
    by_cases same : other = publication
    · subst same
      have unarmed : other ∉ state.queued := fun queued => resting (.inr queued)
      have idle : state.handler.publication ≠ some other := fun runs => resting (.inl (.inr runs))
      simp [stages, schedule, List.count_eq_zero_of_not_mem unarmed, idle]
    · rw [schedule_stages publication _ same]
      exact tidy.alone other
  · intro other now
    rcases about other now with rfl | earlier
    · obtain ⟨_, _, _, found⟩ := tidy.settings other mine
      exact (List.getElem?_eq_some_iff.mp found).1
    · exact tidy.used other earlier
  · intro other now
    rcases about other now with rfl | earlier
    · exact ⟨mine, absent⟩
    · exact ⟨(among other earlier).1,
        fun member => (among other earlier).2 (List.mem_cons_of_mem publication member)⟩

theorem advance_tidy {state : MeterPublicationScheduler} (tidy : Tidy state) (succeeds : Bool)
    (undisturbed : Undisturbed state (.advance succeeds)) : Tidy (state.advance succeeds) := by
  rw [advance]
  split
  · exact tidy
  · next publication rest configure control =>
    rw [Undisturbed, control] at undisturbed
    exact cancel_tidy tidy control undisturbed
  · next control =>
    obtain ⟨halted, among⟩ := (phase_cancelling control).mp tidy.phase
    refine tidy_of_same tidy rfl rfl rfl rfl rfl rfl ((phase_calm rfl).mpr ⟨?_, ?_⟩)
    · intro running
      change state.running = true at running
      rw [halted] at running
      cases running
    · intro _ publication active
      cases among publication active
  · next settings control =>
    split
    · exact install_tidy tidy control
    · obtain ⟨halted, among⟩ := (phase_cancelling control).mp tidy.phase
      refine tidy_of_same tidy rfl rfl rfl rfl rfl rfl ((phase_calm rfl).mpr ⟨?_, ?_⟩)
      · intro running
        change state.running = true at running
        rw [halted] at running
        cases running
      · intro _ publication active
        cases among publication active
  · next publication rest control => exact arm_tidy tidy control
  · next control =>
    obtain ⟨running, _, _, among⟩ := (phase_scheduling control).mp tidy.phase
    refine tidy_of_same tidy rfl rfl rfl rfl rfl rfl ((phase_calm rfl).mpr ⟨?_, ?_⟩)
    · intro _ publication about
      exact (among publication about).1
    · intro halted
      change state.running = false at halted
      rw [running] at halted
      cases halted
  · next request rest control =>
    split
    · exact calm_tidy tidy rfl rfl rfl rfl rfl rfl rfl (by rw [control]; rfl) rfl
    · exact calm_tidy tidy rfl rfl rfl rfl rfl rfl rfl (by rw [control]; rfl) rfl
  · next control => exact calm_tidy tidy rfl rfl rfl rfl rfl rfl rfl (by rw [control]; rfl) rfl
  · next request rest control =>
    exact calm_tidy tidy rfl rfl rfl rfl rfl rfl rfl (by rw [control]; rfl) rfl

theorem expire_tidy {state : MeterPublicationScheduler} (tidy : Tidy state)
    (publication : Nat) : Tidy (state.expire publication) := by
  rw [expire]
  split
  · next armed =>
    have about : ∀ other,
        Active { state with
          armed := Function.update state.armed publication false
          queued := state.queued ++ [publication] } other ∨
            other ∈ state.queued ++ [publication] →
          state.Active other ∨ other ∈ state.queued := by
      rintro other ((still | runs) | queued)
      · exact .inl (.inl (armed_update_false still).2)
      · exact .inl (.inr runs)
      · rcases List.mem_append.mp queued with earlier | new
        · exact .inr earlier
        · rw [List.mem_singleton.mp new]
          exact .inl (.inl armed)
    refine ⟨?_, fun other now => tidy.used other (about other now), tidy.distinct,
      tidy.settings, phase_of_fewer tidy.phase rfl rfl rfl ?_ about⟩
    · intro other
      have alone := tidy.alone other
      simp only [stages, List.count_append, List.count_singleton] at alone ⊢
      by_cases same : publication = other
      · subst same
        simp only [Function.update_self, armed, beq_self_eq_true, if_true, Bool.toNat_true,
          Bool.toNat_false] at alone ⊢
        omega
      · have kept : Function.update state.armed publication false other = state.armed other :=
          Function.update_of_ne (Ne.symm same) _ _
        simp only [kept, beq_eq_false_iff_ne.mpr same, Bool.false_eq_true, if_false]
        omega
    · rintro other (still | runs)
      · exact .inl (.inl (armed_update_false still).2)
      · exact .inl (.inr runs)
  · exact tidy

theorem dispatch_tidy {state : MeterPublicationScheduler} (tidy : Tidy state)
    (publication : Nat) : Tidy (state.dispatch publication) := by
  rw [dispatch]
  split
  · next ready =>
    obtain ⟨idle, queued⟩ := ready
    have counted : 0 < state.queued.count publication := List.count_pos_iff.mpr queued
    have active : ∀ other,
        Active { state with
          queued := state.queued.erase publication
          handler := if state.running then .checked publication else .idle } other →
          state.Active other ∨ state.running = true ∧ other ∈ state.queued := by
      rintro other (armed | runs)
      · exact .inl (.inl armed)
      · cases running : state.running with
        | true =>
            simp only [running, if_true, Handler.publication, Option.some.injEq] at runs
            exact .inr ⟨rfl, runs ▸ queued⟩
        | false => simp [running, Handler.publication] at runs
    have about : ∀ other,
        Active { state with
          queued := state.queued.erase publication
          handler := if state.running then .checked publication else .idle } other ∨
            other ∈ state.queued.erase publication →
          state.Active other ∨ other ∈ state.queued := by
      rintro other (now | left)
      · exact (active other now).imp id And.right
      · exact .inr (List.mem_of_mem_erase left)
    refine ⟨?_, fun other now => tidy.used other (about other now), tidy.distinct,
      tidy.settings, phase_of_fewer tidy.phase rfl rfl rfl active about⟩
    intro other
    have alone := tidy.alone other
    simp only [stages] at alone ⊢
    by_cases same : publication = other
    · subst same
      have once := Bool.toNat_le ((if state.running then Handler.checked publication
        else Handler.idle).publication == some publication)
      rw [List.count_erase_self]
      omega
    · have elsewhere : ((if state.running then Handler.checked publication
          else Handler.idle).publication == some other) = false := by
        split <;> simp [Handler.publication, same]
      rw [List.count_erase_of_ne (Ne.symm same), elsewhere, Bool.toNat_false]
      omega
  · exact tidy

theorem handler_tidy {before after : MeterPublicationScheduler} (tidy : Tidy before)
    (objects : after.objects = before.objects)
    (publications : after.publications = before.publications)
    (running : after.running = before.running) (armed : after.armed = before.armed)
    (queued : after.queued = before.queued)
    (handler : after.handler.publication = before.handler.publication)
    (configured : after.configured = before.configured)
    (control : after.control = before.control) : Tidy after := by
  refine tidy_of_same tidy objects publications armed queued handler configured ?_
  refine phase_of_fewer tidy.phase control running publications ?_ ?_
  · intro publication now
    exact .inl (by simpa only [Active, armed, handler] using now)
  · intro publication now
    simpa only [Active, armed, handler, queued] using now

theorem takeSnapshot_tidy {state : MeterPublicationScheduler} (tidy : Tidy state)
    (payload : Option String) : Tidy (state.takeSnapshot payload) := by
  unfold takeSnapshot
  split
  · next publication payload handler =>
    split
    · exact handler_tidy tidy rfl rfl rfl rfl rfl (by rw [handler]; rfl) rfl rfl
    · exact tidy
  · next publication handler =>
    exact handler_tidy tidy rfl rfl rfl rfl rfl (by rw [handler]; rfl) rfl rfl
  · exact tidy

theorem rearm_tidy {state : MeterPublicationScheduler} (tidy : Tidy state)
    {publication : Nat} (handler : state.handler = .ending publication) :
    Tidy { state.schedule publication with handler := .idle } := by
  have runs : state.handler.publication = some publication := by rw [handler]; rfl
  have active : ∀ other, Active { state.schedule publication with handler := .idle } other →
      state.Active other := by
    rintro other (armed | idle)
    · by_cases same : other = publication
      · exact .inr (same ▸ runs)
      · exact .inl (by simpa [schedule, same] using armed)
    · cases idle
  have about : ∀ other, Active { state.schedule publication with handler := .idle } other ∨
      other ∈ state.queued → state.Active other ∨ other ∈ state.queued :=
    fun other now => now.imp (active other) id
  refine ⟨?_, fun other now => tidy.used other (about other now), tidy.distinct, tidy.settings,
    phase_of_fewer tidy.phase rfl rfl rfl (fun other now => .inl (active other now)) about⟩
  intro other
  have alone := tidy.alone other
  by_cases same : other = publication
  · subst same
    simp only [stages, runs, beq_self_eq_true, Bool.toNat_true] at alone
    simp [stages, schedule, Handler.publication]
    omega
  · have differ : ¬ publication = other := fun equal => same equal.symm
    simp only [stages, runs, Option.some_beq_some, beq_eq_false_iff_ne.mpr differ,
      Bool.toNat_false] at alone
    simp [stages, schedule, Handler.publication, same]
    omega

theorem proceed_tidy {state : MeterPublicationScheduler} (tidy : Tidy state)
    (succeeds : Bool) : Tidy (state.proceed succeeds) := by
  rw [proceed]
  split
  · next publication request handler =>
    exact handler_tidy tidy rfl rfl rfl rfl rfl (by rw [handler]; rfl) rfl rfl
  · next publication request handler =>
    split
    · exact handler_tidy tidy rfl rfl rfl rfl rfl (by rw [handler]; rfl) rfl rfl
    · exact handler_tidy tidy rfl rfl rfl rfl rfl (by rw [handler]; rfl) rfl rfl
  · next publication request handler =>
    exact handler_tidy tidy rfl rfl rfl rfl rfl (by rw [handler]; rfl) rfl rfl
  · next publication handler => exact rearm_tidy tidy handler
  · exact tidy

theorem next_tidy {state : MeterPublicationScheduler} (tidy : Tidy state) (step : Step)
    (undisturbed : Undisturbed state step) : Tidy (state.next step) := by
  cases step with
  | stop => exact callStop_tidy tidy none
  | configure settings => exact callStop_tidy tidy (some settings)
  | start => exact callStart_tidy tidy undisturbed
  | flush => exact callFlush_tidy tidy
  | advance succeeds => exact advance_tidy tidy succeeds undisturbed
  | expire publication => exact expire_tidy tidy publication
  | dispatch publication => exact dispatch_tidy tidy publication
  | snapshot payload => exact takeSnapshot_tidy tidy payload
  | proceed succeeds => exact proceed_tidy tidy succeeds

theorem Tidy.resting {state : MeterPublicationScheduler} (tidy : Tidy state)
    (stopped : state.Stopped) (publication : Nat) : ¬ state.Active publication := by
  obtain ⟨halted, loops⟩ := stopped
  cases control : state.control with
  | cancelling rest configure => exact absurd control (loops rest configure)
  | scheduling rest =>
      have runs := ((phase_scheduling control).mp tidy.phase).1
      rw [halted] at runs
      cases runs
  | idle | flushing | cleaning =>
      exact ((phase_calm (by rw [control]; rfl)).mp tidy.phase).2 halted publication

/-- A state that is stopped after a step was stopped before it, or the loop of a `stop` has
just ended. -/
theorem stopped_next {state : MeterPublicationScheduler} {step : Step}
    (stopped : (state.next step).Stopped) :
    state.Stopped ∨ ∃ succeeds configure, step = .advance succeeds ∧
      state.control = .cancelling [] configure := by
  obtain ⟨halted, loops⟩ := stopped
  cases step with
  | stop =>
      simp only [next, callStop] at halted loops
      split at loops
      · exact absurd rfl (loops _ _)
      · next busy => exact .inl ⟨by rwa [if_neg busy] at halted, loops⟩
  | configure settings =>
      simp only [next, callStop] at halted loops
      split at loops
      · exact absurd rfl (loops _ _)
      · next busy => exact .inl ⟨by rwa [if_neg busy] at halted, loops⟩
  | start =>
      simp only [next, callStart] at halted loops
      split at halted
      · cases halted
      · next busy => exact .inl ⟨halted, by rwa [if_neg busy] at loops⟩
  | flush =>
      simp only [next, callFlush] at halted loops
      split at halted
      · next idle => exact .inl ⟨halted, by simp [idle]⟩
      · next busy => exact .inl ⟨halted, by rwa [if_neg busy] at loops⟩
  | advance succeeds =>
      cases control : state.control with
      | cancelling rest configure =>
          cases rest with
          | nil => exact .inr ⟨succeeds, configure, rfl, rfl⟩
          | cons publication rest =>
              simp only [next, advance, control] at loops
              exact absurd rfl (loops rest configure)
      | scheduling rest =>
          cases rest <;> exact .inl ⟨by simpa [next, advance, control, schedule] using halted,
            by simp [control]⟩
      | idle => exact .inl ⟨by simpa [next, advance, control] using halted, by simp [control]⟩
      | flushing rest =>
          refine .inl ⟨?_, by simp [control]⟩
          cases rest <;> cases succeeds <;> simpa [next, advance, control] using halted
      | cleaning request rest =>
          exact .inl ⟨by simpa [next, advance, control] using halted, by simp [control]⟩
  | expire publication =>
      simp only [next, expire] at halted loops
      split at halted
      · next armed => exact .inl ⟨halted, by rwa [if_pos armed] at loops⟩
      · next armed => exact .inl ⟨halted, by rwa [if_neg armed] at loops⟩
  | dispatch publication =>
      simp only [next, dispatch] at halted loops
      split at halted
      · next ready => exact .inl ⟨halted, by rwa [if_pos ready] at loops⟩
      · next ready => exact .inl ⟨halted, by rwa [if_neg ready] at loops⟩
  | snapshot payload =>
      have same : (state.takeSnapshot payload).running = state.running ∧
          (state.takeSnapshot payload).control = state.control := by
        unfold takeSnapshot
        split
        · split <;> exact ⟨rfl, rfl⟩
        · exact ⟨rfl, rfl⟩
        · exact ⟨rfl, rfl⟩
      exact .inl ⟨same.1.symm.trans halted, by rw [← same.2]; exact loops⟩
  | proceed succeeds =>
      have same : (state.proceed succeeds).running = state.running ∧
          (state.proceed succeeds).control = state.control := by
        rw [proceed]
        split
        · exact ⟨rfl, rfl⟩
        · split <;> exact ⟨rfl, rfl⟩
        · exact ⟨rfl, rfl⟩
        · exact ⟨rfl, rfl⟩
        · exact ⟨rfl, rfl⟩
      exact .inl ⟨same.1.symm.trans halted, by rw [← same.2]; exact loops⟩

/-- A timer publishes only while its handler runs, so nothing is published once stopped. -/
theorem noteStop_stopped {state : MeterPublicationScheduler} {since : SinceStop} (tidy : Tidy state)
    (earlier : state.Stopped → since.published = []) (step : Step)
    (stopped : (state.next step).Stopped) : (noteStop state since step ()).published = [] := by
  rcases stopped_next stopped with before | ⟨succeeds, configure, rfl, control⟩
  · have empty := earlier before
    unfold noteStop
    split
    · split
      · rfl
      · exact empty
    · split
      · next publication request handler =>
        have active : state.Active publication := .inr (by rw [handler]; rfl)
        exact absurd active (tidy.resting before publication)
      · exact empty
    · exact empty
  · simp only [noteStop, control]

theorem observed_tidy (steps : List Step) (state : MeterPublicationScheduler)
    (since : SinceStop) (tidy : Tidy state) (earlier : state.Stopped → since.published = [])
    (along : observed.Along (fun pair step => Undisturbed pair.1 step) (state, since) steps) :
    Tidy (observed.run (state, since) steps).1 ∧
      ((observed.run (state, since) steps).1.Stopped →
        (observed.run (state, since) steps).2.published = []) := by
  induction steps generalizing state since with
  | nil => exact ⟨tidy, earlier⟩
  | cons step steps ih =>
      exact ih (state.next step) (noteStop state since step ())
        (next_tidy tidy step along.1) (noteStop_stopped tidy earlier step) along.2

theorem initial_tidy : Tidy {} where
  alone := by
    intro publication
    simp [stages, Handler.publication]
  used := by
    rintro publication ((armed | runs) | queued)
    · cases armed
    · cases runs
    · cases queued
  distinct := List.nodup_nil
  settings := by
    intro publication member
    cases member
  phase := by
    rw [phase_calm rfl]
    constructor
    · intro running
      cases running
    · rintro _ publication (armed | runs)
      · cases armed
      · cases runs

theorem tidy_orderly {state : MeterPublicationScheduler} {since : SinceStop} (tidy : Tidy state)
    (quiet : state.Stopped → since.published = []) : Orderly state since where
  configured := by
    intro started publication runs
    have mine := tidy.at_home started.1 (.inl (.inr runs))
    exact ⟨mine, tidy.settings publication mine⟩
  single := by
    intro publication _
    have alone := tidy.alone publication
    rw [stages] at alone
    omega
  stopped := by
    intro stopped
    rw [quiet stopped]
    refine ⟨⟨List.nodup_nil, fun _ member => by cases member⟩, ?_⟩
    intro publication _
    exact Bool.eq_false_iff.mpr fun armed => tidy.resting stopped publication (.inl armed)

/-- In every interleaving in which no `stop` cancels a timer under a running handler and no
`start` finds an expired handler waiting, the timers are those of the last configuration. -/
theorem reconfiguration_orderly (steps : List Step)
    (undisturbed : observed.Along (fun pair step => Undisturbed pair.1 step) ({}, {}) steps) :
    Orderly (observed.run ({}, {}) steps).1 (observed.run ({}, {}) steps).2 := by
  obtain ⟨tidy, quiet⟩ := observed_tidy steps {} {} initial_tidy (fun _ => rfl) undisturbed
  exact tidy_orderly tidy quiet

def voltageSettings : MqttPublicationSettings :=
  { id := "voltage", topic := "site/voltage", attributes := ["voltage.phase_a"] }

def currentSettings : MqttPublicationSettings :=
  { id := "current", topic := "site/current", attributes := ["current.phase_a"] }

theorem idle_reconfiguration_orderly :
    let steps : List Step :=
      [.configure [voltageSettings], .advance true, .start, .advance true, .advance true,
        .expire 0, .dispatch 0, .snapshot (some "1"), .proceed true, .proceed true,
        .proceed true, .proceed true, .configure [currentSettings], .advance true,
        .advance true, .start, .advance true, .advance true, .expire 1, .dispatch 1]
    Orderly (observed.run ({}, {}) steps).1 (observed.run ({}, {}) steps).2 ∧
      (observed.run ({}, {}) steps).1.handler = .checked 1 := by
  constructor
  · exact reconfiguration_orderly _ (by decide +kernel)
  · rfl

/-- A handler that is publishing when `stop` runs re-arms its timer, and once the next `start`
has set the flag the old publication goes on publishing beside the new one. -/
theorem publishing_through_reconfiguration :
    let steps : List Step :=
      [.configure [voltageSettings], .advance true, .start, .advance true, .advance true,
        .expire 0, .dispatch 0, .configure [currentSettings], .advance true, .advance true,
        .start, .advance true, .advance true, .snapshot (some "1"), .proceed true,
        .proceed true, .proceed true, .proceed true, .expire 0, .dispatch 0]
    let state := (observed.run ({}, {}) steps).1
    state.Started ∧ state.configured = [currentSettings] ∧ state.publications = [1] ∧
      state.handler.publication = some 0 ∧ state.objects[0]? = some voltageSettings ∧
      ¬ Orderly state (observed.run ({}, {}) steps).2 := by
  intro steps state
  have running : state.running = true := by decide +kernel
  have control : state.control = .idle := by decide +kernel
  have started : state.Started := ⟨running, by intro rest; rw [control]; exact nofun⟩
  have publications : state.publications = [1] := by decide +kernel
  have handler : state.handler.publication = some 0 := by decide +kernel
  refine ⟨started, by decide +kernel, publications, handler, by decide +kernel, ?_⟩
  intro orderly
  have mine := (orderly.configured started 0 handler).1
  rw [publications] at mine
  revert mine
  decide

end Msap1.Mqtt
