import Msap1.Ipc.Client

/-! What one call of the client can do to another. -/

namespace Msap1.Ipc

open RequestClient

theorem Stage.pends_early {stage : Stage} (pends : stage.pends = true) :
    stage.early = false := by
  revert pends
  cases stage <;> decide

theorem Stage.pends_ended {stage : Stage} (pends : stage.pends = true) :
    stage.ended = false := by
  revert pends
  cases stage <;> decide

/-- The promise of the client in one state. -/
structure Isolated (state : RequestClient) : Prop where
  once : state.completed.Nodup
  matched : ∀ caller, (state.calls caller).stage = .returned →
    ∃ connection, (state.calls caller).response =
        some (connection, (state.calls caller).correlation) ∧
      (state.calls caller).connection = some connection
  separate : ∀ victim cause, (victim, cause) ∈ state.harmed → ∀ older newer,
    (state.calls cause).connection = some older →
      (state.calls victim).connection = some newer → ¬ older < newer

/-- A posted close runs before a connection newer than that of the failed request has been
established, and the id counter does not wrap. -/
def Timely (state : RequestClient) : Step → Prop
  | .runClose => ∀ origin ∈ state.posted.head?, ∀ cause ∈ origin,
      ∀ connection ∈ (state.calls cause).connection, state.connections = connection + 1
  | .issue _ => state.nextCorrelationId + 1 < idLimit
  | _ => True

structure Sound (state : RequestClient) : Prop where
  newest : ∀ connection, state.connection = some connection →
    connection + 1 = state.connections
  used : ∀ caller connection, (state.calls caller).connection = some connection →
    connection < state.connections
  early : ∀ caller, (state.calls caller).stage.early = true →
    (state.calls caller).connection = none ∧ (state.calls caller).response = none
  positive : 0 < state.nextCorrelationId
  bounded : state.nextCorrelationId < idLimit
  heardOnce : ∀ first second id, (first, id) ∈ state.heard → (second, id) ∈ state.heard →
    first = second
  heardOld : ∀ connection id, (connection, id) ∈ state.heard → id < state.nextCorrelationId
  pending : ∀ id caller, (id, caller) ∈ state.pending →
    (state.calls caller).stage.pends = true ∧ (state.calls caller).correlation = id ∧
      ∃ connection, (state.calls caller).connection = some connection ∧
        (connection, id) ∈ state.heard
  matched : ∀ caller connection id, (state.calls caller).response = some (connection, id) →
    (state.calls caller).connection = some connection ∧ (state.calls caller).correlation = id
  returned : ∀ caller, (state.calls caller).stage = .returned →
    (state.calls caller).response.isSome = true
  done : ∀ caller ∈ state.completed, (state.calls caller).stage.ended = true
  once : state.completed.Nodup
  posted : ∀ cause, some cause ∈ state.posted → (state.calls cause).stage = .thrown
  closers : ∀ connection cause, state.closedBy connection = some cause →
    (state.calls cause).stage = .thrown ∧ ∀ older,
      (state.calls cause).connection = some older → connection ≤ older
  harms : ∀ victim cause, (victim, cause) ∈ state.harmed →
    (state.calls cause).stage = .thrown ∧ ∃ newer,
      (state.calls victim).connection = some newer ∧ ∀ older,
        (state.calls cause).connection = some older → newer ≤ older

theorem sound_isolated {state : RequestClient} (sound : Sound state) : Isolated state where
  once := sound.once
  matched := by
    intro caller returned
    obtain ⟨⟨connection, id⟩, response⟩ :=
      Option.isSome_iff_exists.mp (sound.returned caller returned)
    obtain ⟨mine, same⟩ := sound.matched caller connection id response
    exact ⟨connection, by rw [response, same], mine⟩
  separate := by
    intro victim cause harmed older newer theirs mine
    obtain ⟨_, connection, issued, bound⟩ := sound.harms victim cause harmed
    rw [issued] at mine
    cases mine
    exact Nat.not_lt.mpr (bound older theirs)

/-- Two states whose calls differ at most in their stages and failures, none of them leaving
the end of a call or going back before the issue. -/
structure Kept (before after : RequestClient) : Prop where
  connection : ∀ caller, (after.calls caller).connection = (before.calls caller).connection
  correlation : ∀ caller, (after.calls caller).correlation = (before.calls caller).correlation
  response : ∀ caller, (after.calls caller).response = (before.calls caller).response
  ended : ∀ caller, (before.calls caller).stage.ended = true →
    (after.calls caller).stage = (before.calls caller).stage
  early : ∀ caller, (after.calls caller).stage.early = true →
    (before.calls caller).stage.early = true
  returned : ∀ caller, (after.calls caller).stage = .returned →
    (before.calls caller).response.isSome = true

theorem Kept.thrown {before after : RequestClient} (kept : Kept before after) {caller : Nat}
    (thrown : (before.calls caller).stage = .thrown) : (after.calls caller).stage = .thrown := by
  rw [kept.ended caller (by rw [thrown]; rfl)]
  exact thrown

theorem sound_of_kept {before after : RequestClient} (sound : Sound before)
    (kept : Kept before after) (connections : before.connections ≤ after.connections)
    (newest : ∀ connection, after.connection = some connection →
      connection + 1 = after.connections)
    (ids : after.nextCorrelationId = before.nextCorrelationId)
    (heard : after.heard = before.heard)
    (pending : ∀ id caller, (id, caller) ∈ after.pending →
      (id, caller) ∈ before.pending ∧ (after.calls caller).stage.pends = true)
    (done : ∀ caller ∈ after.completed, (after.calls caller).stage.ended = true)
    (once : after.completed.Nodup)
    (posted : ∀ cause, some cause ∈ after.posted → (after.calls cause).stage = .thrown)
    (closers : ∀ connection cause, after.closedBy connection = some cause →
      (before.calls cause).stage = .thrown ∧ ∀ older,
        (before.calls cause).connection = some older → connection ≤ older)
    (harms : ∀ victim cause, (victim, cause) ∈ after.harmed →
      (before.calls cause).stage = .thrown ∧ ∃ newer,
        (before.calls victim).connection = some newer ∧ ∀ older,
          (before.calls cause).connection = some older → newer ≤ older) : Sound after where
  newest := newest
  used := by
    intro caller connection issued
    rw [kept.connection] at issued
    exact (sound.used caller connection issued).trans_le connections
  early := by
    intro caller soon
    rw [kept.connection, kept.response]
    exact sound.early caller (kept.early caller soon)
  positive := by rw [ids]; exact sound.positive
  bounded := by rw [ids]; exact sound.bounded
  heardOnce := by rw [heard]; exact sound.heardOnce
  heardOld := by rw [heard, ids]; exact sound.heardOld
  pending := by
    intro id caller member
    obtain ⟨earlier, pends⟩ := pending id caller member
    obtain ⟨_, rest⟩ := sound.pending id caller earlier
    rw [kept.correlation, kept.connection, heard]
    exact ⟨pends, rest⟩
  matched := by
    intro caller connection id response
    rw [kept.response] at response
    rw [kept.connection, kept.correlation]
    exact sound.matched caller connection id response
  returned := by
    intro caller finished
    rw [kept.response]
    exact kept.returned caller finished
  done := done
  once := once
  posted := posted
  closers := by
    intro connection cause closed
    obtain ⟨thrown, bound⟩ := closers connection cause closed
    refine ⟨kept.thrown thrown, ?_⟩
    intro older issued
    rw [kept.connection] at issued
    exact bound older issued
  harms := by
    intro victim cause member
    obtain ⟨thrown, newer, issued, bound⟩ := harms victim cause member
    refine ⟨kept.thrown thrown, newer, by rw [kept.connection]; exact issued, ?_⟩
    intro older theirs
    rw [kept.connection] at theirs
    exact bound older theirs

theorem kept_refl {before after : RequestClient} (sound : Sound before)
    (calls : after.calls = before.calls) : Kept before after := by
  constructor <;> intro caller <;> rw [calls]
  · exact fun _ => rfl
  · exact id
  · exact sound.returned caller

theorem kept_move {before after : RequestClient} (sound : Sound before) {caller : Nat}
    {stage : Stage} (calls : after.calls =
      Function.update before.calls caller { before.calls caller with stage })
    (running : (before.calls caller).stage.ended = false)
    (early : stage.early = true → (before.calls caller).stage.early = true)
    (returned : stage = .returned → (before.calls caller).response.isSome = true) :
    Kept before after := by
  constructor <;> intro other <;> rw [calls] <;> by_cases same : other = caller
  · subst same; simp
  · simp [same]
  · subst same; simp
  · simp [same]
  · subst same; simp
  · simp [same]
  · subst same
    intro finished
    rw [running] at finished
    cases finished
  · simp [same]
  · subst same
    simpa using early
  · simp [same]
  · subst same
    simpa using returned
  · simpa [same] using sound.returned other

theorem stage_move {before after : RequestClient} {caller : Nat} {stage : Stage}
    (calls : after.calls =
      Function.update before.calls caller { before.calls caller with stage }) (other : Nat) :
    (after.calls other).stage = if other = caller then stage else (before.calls other).stage := by
  rw [calls]
  by_cases same : other = caller
  · subst same; simp
  · simp [same]

theorem sound_move {before after : RequestClient} (sound : Sound before) {caller : Nat}
    {stage : Stage} (calls : after.calls =
      Function.update before.calls caller { before.calls caller with stage })
    (running : (before.calls caller).stage.ended = false)
    (early : stage.early = true → (before.calls caller).stage.early = true)
    (ongoing : stage ≠ .returned)
    (connections : before.connections ≤ after.connections)
    (newest : ∀ connection, after.connection = some connection →
      connection + 1 = after.connections)
    (ids : after.nextCorrelationId = before.nextCorrelationId)
    (heard : after.heard = before.heard)
    (pending : ∀ id other, (id, other) ∈ after.pending → (id, other) ∈ before.pending ∧
      (other = caller → stage.pends = true))
    (completed : after.completed = before.completed) (posted : after.posted = before.posted)
    (closedBy : after.closedBy = before.closedBy)
    (harms : ∀ victim cause, (victim, cause) ∈ after.harmed →
      (before.calls cause).stage = .thrown ∧ ∃ newer,
        (before.calls victim).connection = some newer ∧ ∀ older,
          (before.calls cause).connection = some older → newer ≤ older) : Sound after := by
  have kept := kept_move sound calls running early (fun same => absurd same ongoing)
  refine sound_of_kept sound kept connections newest ids heard ?_ ?_ ?_ ?_ ?_ harms
  · intro id other member
    obtain ⟨earlier, mine⟩ := pending id other member
    refine ⟨earlier, ?_⟩
    rw [stage_move calls]
    split
    · next same => exact mine same
    · exact (sound.pending id other earlier).1
  · rw [completed]
    intro other member
    rw [kept.ended other (sound.done other member)]
    exact sound.done other member
  · rw [completed]
    exact sound.once
  · rw [posted]
    intro cause member
    exact kept.thrown (sound.posted cause member)
  · rw [closedBy]
    exact sound.closers

theorem Sound.not_pending {state : RequestClient} (sound : Sound state) {caller : Nat}
    (idle : (state.calls caller).stage.pends = false) {id other : Nat}
    (member : (id, other) ∈ state.pending) : other ≠ caller := by
  rintro rfl
  have pends := (sound.pending id other member).1
  rw [idle] at pends
  cases pends

theorem Sound.forgotten {state : RequestClient} (sound : Sound state) {caller id other : Nat}
    (member : (id, other) ∈ (state.forget (state.calls caller).correlation).pending) :
    (id, other) ∈ state.pending ∧ other ≠ caller := by
  simp only [forget, List.mem_filter, bne_iff_ne, ne_eq] at member
  refine ⟨member.1, ?_⟩
  rintro rfl
  exact member.2 (sound.pending id other member.1).2.1.symm

theorem startCall_sound {state : RequestClient} (sound : Sound state) (caller : Nat) :
    Sound (state.startCall caller) := by
  rw [startCall]
  split
  · next stage =>
    refine sound_move sound rfl (by rw [stage]; rfl) (fun _ => by rw [stage]; rfl) nofun le_rfl
      sound.newest rfl rfl ?_ rfl rfl rfl sound.harms
    intro id other member
    exact ⟨member, fun same => absurd same (sound.not_pending (by rw [stage]; rfl) member)⟩
  · exact sound

theorem check_sound {state : RequestClient} (sound : Sound state) (caller : Nat) :
    Sound (state.check caller) := by
  rw [check]
  split
  · next stage =>
    have pending : ∀ id other, (id, other) ∈ state.pending → (id, other) ∈ state.pending ∧
        (other = caller → false = true) := fun id other member =>
      ⟨member, fun same => absurd same (sound.not_pending (by rw [stage]; rfl) member)⟩
    split
    · exact sound_move sound rfl (by rw [stage]; rfl) (fun _ => by rw [stage]; rfl) nofun le_rfl
        sound.newest rfl rfl pending rfl rfl rfl sound.harms
    · split
      · exact sound_move sound rfl (by rw [stage]; rfl) (fun _ => by rw [stage]; rfl) nofun
          le_rfl sound.newest rfl rfl pending rfl rfl rfl sound.harms
      · exact sound
  · exact sound

theorem lockedCheck_sound {state : RequestClient} (sound : Sound state) (caller : Nat) :
    Sound (state.lockedCheck caller) := by
  rw [lockedCheck]
  split
  · next stage =>
    have pending : ∀ id other, (id, other) ∈ state.pending → (id, other) ∈ state.pending ∧
        (other = caller → false = true) := fun id other member =>
      ⟨member, fun same => absurd same (sound.not_pending (by rw [stage]; rfl) member)⟩
    split
    · exact sound_move sound rfl (by rw [stage]; rfl) (fun _ => by rw [stage]; rfl) nofun le_rfl
        sound.newest rfl rfl pending rfl rfl rfl sound.harms
    · exact sound_move sound rfl (by rw [stage]; rfl) (fun _ => by rw [stage]; rfl) nofun le_rfl
        sound.newest rfl rfl pending rfl rfl rfl sound.harms
  · exact sound

theorem connected_sound {state : RequestClient} (sound : Sound state) (caller : Nat)
    (succeeds : Bool) : Sound (state.connected caller succeeds) := by
  rw [connected]
  split
  · next stage =>
    have pending : ∀ id other, (id, other) ∈ state.pending → (id, other) ∈ state.pending ∧
        (other = caller → false = true) := fun id other member =>
      ⟨member, fun same => absurd same (sound.not_pending (by rw [stage]; rfl) member)⟩
    split
    · refine sound_move sound rfl (by rw [stage]; rfl) (fun _ => by rw [stage]; rfl) nofun
        (Nat.le_succ _) ?_ rfl rfl pending rfl rfl rfl sound.harms
      rintro connection ⟨⟩
      rfl
    · exact sound_move sound rfl (by rw [stage]; rfl) nofun nofun le_rfl sound.newest rfl rfl
        pending rfl rfl rfl sound.harms
  · exact sound

theorem allocate_next {next : Nat} {taken : List Nat} (positive : 0 < next)
    (bounded : next < idLimit) (free : next ∉ taken) : allocate next taken = some next := by
  have first : (next + 0) % idLimit = next := Nat.mod_eq_of_lt bounded
  have split : List.range (taken.length + 2) =
      0 :: (List.range (taken.length + 1)).map Nat.succ := List.range_succ_eq_map
  rw [allocate, split, List.map_cons, first, List.find?_cons_of_pos]
  simpa using ⟨Nat.pos_iff_ne_zero.mp positive, free⟩

theorem usable_connection {state : RequestClient} {connection : Nat}
    (usable : state.usable = some connection) : state.connection = some connection := by
  rw [RequestClient.usable, Option.filter_eq_some_iff] at usable
  exact usable.1

theorem issued_sound {state : RequestClient} (sound : Sound state) {caller connection : Nat}
    (timely : state.nextCorrelationId + 1 < idLimit) (stage : (state.calls caller).stage = .ready)
    (current : connection + 1 = state.connections) :
    Sound { state.setCall caller
        { stage := .sending, connection := some connection,
          correlation := state.nextCorrelationId } with
      nextCorrelationId := (state.nextCorrelationId + 1) % idLimit
      pending := (state.nextCorrelationId, caller) :: state.pending
      heard := (connection, state.nextCorrelationId) :: state.heard } := by
  have idle : (state.calls caller).stage.pends = false := by rw [stage]; rfl
  have soon := sound.early caller (by rw [stage]; rfl)
  have wrap : (state.nextCorrelationId + 1) % idLimit = state.nextCorrelationId + 1 :=
    Nat.mod_eq_of_lt timely
  have fresh : ∀ earlier, (earlier, state.nextCorrelationId) ∉ state.heard := by
    intro earlier heard
    exact Nat.lt_irrefl _ (sound.heardOld earlier _ heard)
  have thrown : ∀ cause, (state.calls cause).stage = .thrown → cause ≠ caller := by
    rintro cause gone rfl
    rw [stage] at gone
    cases gone
  constructor
  · exact sound.newest
  · intro other number issued
    by_cases same : other = caller
    · subst same
      simp only [setCall, Function.update_self, Option.some.injEq] at issued
      change number < state.connections
      omega
    · exact sound.used other number (by simpa [setCall, same] using issued)
  · intro other early
    by_cases same : other = caller
    · subst same
      simp [setCall, Stage.early] at early
    · simpa [setCall, same] using sound.early other (by simpa [setCall, same] using early)
  · change 0 < (state.nextCorrelationId + 1) % idLimit
    rw [wrap]
    exact Nat.succ_pos _
  · change (state.nextCorrelationId + 1) % idLimit < idLimit
    rw [wrap]
    exact timely
  · intro first second id heard again
    rcases List.mem_cons.mp heard with new | earlier
    · rcases List.mem_cons.mp again with other | later
      · cases new
        cases other
        rfl
      · cases new
        exact absurd later (fresh second)
    · rcases List.mem_cons.mp again with new | later
      · cases new
        exact absurd earlier (fresh first)
      · exact sound.heardOnce first second id earlier later
  · intro number id heard
    change id < (state.nextCorrelationId + 1) % idLimit
    rw [wrap]
    rcases List.mem_cons.mp heard with new | earlier
    · cases new
      exact Nat.lt_succ_self _
    · exact (sound.heardOld number id earlier).trans (Nat.lt_succ_self _)
  · intro id other member
    rcases List.mem_cons.mp member with new | earlier
    · cases new
      simp [setCall, Stage.pends]
    · have differ := sound.not_pending idle earlier
      obtain ⟨pends, mine, number, issued, heard⟩ := sound.pending id other earlier
      simp only [setCall, Function.update_of_ne differ]
      exact ⟨pends, mine, number, issued, List.mem_cons_of_mem _ heard⟩
  · intro other number id response
    by_cases same : other = caller
    · subst same
      simp [setCall] at response
    · simpa [setCall, same] using
        sound.matched other number id (by simpa [setCall, same] using response)
  · intro other finished
    by_cases same : other = caller
    · subst same
      simp [setCall] at finished
    · simpa [setCall, same] using sound.returned other (by simpa [setCall, same] using finished)
  · intro other member
    have differ : other ≠ caller := by
      rintro rfl
      have ended := sound.done other member
      rw [stage] at ended
      cases ended
    simpa [setCall, differ] using sound.done other member
  · exact sound.once
  · intro cause member
    have gone := sound.posted cause member
    simpa [setCall, thrown cause gone] using gone
  · intro number cause closed
    obtain ⟨gone, bound⟩ := sound.closers number cause closed
    simpa [setCall, thrown cause gone] using And.intro gone bound
  · intro victim cause member
    obtain ⟨gone, newer, issued, bound⟩ := sound.harms victim cause member
    have differ : victim ≠ caller := by
      rintro rfl
      rw [soon.1] at issued
      cases issued
    simp only [setCall, Function.update_of_ne differ, Function.update_of_ne (thrown cause gone)]
    exact ⟨gone, newer, issued, bound⟩

theorem issue_sound {state : RequestClient} (sound : Sound state) (caller : Nat)
    (timely : state.nextCorrelationId + 1 < idLimit) : Sound (state.issue caller) := by
  rw [issue]
  split
  · next stage =>
    split
    · refine sound_move sound rfl (by rw [stage]; rfl) Bool.noConfusion Stage.noConfusion le_rfl
        sound.newest rfl rfl ?_ rfl rfl rfl sound.harms
      intro id other member
      exact ⟨member, fun same => absurd same (sound.not_pending (by rw [stage]; rfl) member)⟩
    · next connection usable =>
      have current := sound.newest connection (usable_connection usable)
      have free : state.nextCorrelationId ∉ state.pending.map Prod.fst := by
        intro member
        obtain ⟨⟨id, other⟩, listed, rfl⟩ := List.mem_map.mp member
        obtain ⟨_, _, earlier, _, heard⟩ := sound.pending _ other listed
        exact Nat.lt_irrefl _ (sound.heardOld earlier _ heard)
      rw [allocate_next sound.positive sound.bounded free]
      exact issued_sound sound timely stage current
  · exact sound

theorem drop_sound {state : RequestClient} (sound : Sound state) {caller : Nat}
    (pends : (state.calls caller).stage.pends = true) :
    Sound ((state.forget (state.calls caller).correlation).moveTo caller .failed) := by
  refine sound_move sound rfl ?_ nofun nofun le_rfl sound.newest rfl rfl ?_ rfl rfl rfl sound.harms
  · exact Stage.pends_ended pends
  · intro id other member
    obtain ⟨earlier, differ⟩ := sound.forgotten member
    exact ⟨earlier, fun same => absurd same differ⟩

theorem finish_sound {state : RequestClient} (sound : Sound state) {caller : Nat}
    (pends : (state.calls caller).stage.pends = true) : Sound (state.finish caller) := by
  rw [finish]
  dsimp only
  split
  · exact drop_sound sound pends
  · split
    · next response =>
      have running := Stage.pends_ended pends
      have unfinished : caller ∉ state.completed := by
        intro member
        have ended := sound.done caller member
        rw [running] at ended
        cases ended
      have kept : Kept state { (state.forget (state.calls caller).correlation).moveTo caller
          .returned with completed := caller :: state.completed } :=
        kept_move sound rfl running nofun (fun _ => response)
      refine sound_of_kept sound kept le_rfl sound.newest rfl rfl ?_ ?_ ?_ ?_ sound.closers
        sound.harms
      · intro id other member
        obtain ⟨earlier, differ⟩ := sound.forgotten member
        refine ⟨earlier, ?_⟩
        simpa [moveTo, setCall, forget, differ] using (sound.pending id other earlier).1
      · intro other member
        rcases List.mem_cons.mp member with rfl | earlier
        · simp [moveTo, setCall, Stage.ended]
        · rw [kept.ended other (sound.done other earlier)]
          exact sound.done other earlier
      · exact List.nodup_cons.mpr ⟨unfinished, sound.once⟩
      · intro cause member
        exact kept.thrown (sound.posted cause member)
    · exact drop_sound sound pends

theorem sent_sound {state : RequestClient} (sound : Sound state) (caller : Nat)
    (succeeds : Bool) : Sound (state.sent caller succeeds) := by
  rw [sent]
  dsimp only
  split
  · next stage =>
    have pends : (state.calls caller).stage.pends = true := by rw [stage]; rfl
    split
    · split
      · exact finish_sound sound pends
      · refine sound_move sound rfl (by rw [stage]; rfl) nofun nofun le_rfl sound.newest rfl rfl
          ?_ rfl rfl rfl sound.harms
        intro id other member
        exact ⟨member, fun _ => rfl⟩
    · refine sound_move sound rfl (by rw [stage]; rfl) nofun nofun le_rfl sound.newest rfl rfl ?_
        rfl rfl rfl ?_
      · intro id other member
        obtain ⟨earlier, differ⟩ := sound.forgotten member
        exact ⟨earlier, fun same => absurd same differ⟩
      · intro victim cause member
        rcases List.mem_append.mp member with earlier | new
        · exact sound.harms victim cause earlier
        · cases closed : (state.calls caller).connection.bind state.closedBy with
          | none =>
              rw [closed] at new
              cases new
          | some closer =>
              rw [closed] at new
              cases List.mem_singleton.mp new
              obtain ⟨connection, issued, by_⟩ := Option.bind_eq_some_iff.mp closed
              obtain ⟨thrown, bound⟩ := sound.closers connection cause by_
              exact ⟨thrown, connection, issued, bound⟩
  · exact sound

theorem wake_sound {state : RequestClient} (sound : Sound state) (caller : Nat)
    (timedOut : Bool) : Sound (state.wake caller timedOut) := by
  rw [wake]
  split
  · next stage =>
    have pends : (state.calls caller).stage.pends = true := by rw [stage]; rfl
    split
    · exact drop_sound sound pends
    · split
      · exact finish_sound sound pends
      · exact sound
  · exact sound

theorem shutDown_sound {state : RequestClient} (sound : Sound state) (caller : Nat) :
    Sound (state.shutDown caller) := by
  rw [shutDown]
  split
  · next stage =>
    have kept : Kept state { state.moveTo caller .thrown with
        isOpen := false
        posted := state.posted ++ [some caller]
        completed := caller :: state.completed } :=
      kept_move sound rfl (by rw [stage]; rfl) nofun nofun
    have unfinished : caller ∉ state.completed := by
      intro member
      have ended := sound.done caller member
      rw [stage] at ended
      cases ended
    refine sound_of_kept sound kept le_rfl sound.newest rfl rfl ?_ ?_ ?_ ?_ sound.closers
      sound.harms
    · intro id other member
      have differ := sound.not_pending (by rw [stage]; rfl) member
      refine ⟨member, ?_⟩
      simpa [moveTo, setCall, differ] using (sound.pending id other member).1
    · intro other member
      rcases List.mem_cons.mp member with rfl | earlier
      · simp [moveTo, setCall, Stage.ended]
      · rw [kept.ended other (sound.done other earlier)]
        exact sound.done other earlier
    · exact List.nodup_cons.mpr ⟨unfinished, sound.once⟩
    · intro cause member
      rcases List.mem_append.mp member with earlier | new
      · exact kept.thrown (sound.posted cause earlier)
      · cases List.mem_singleton.mp new
        simp [moveTo, setCall]
  · exact sound

theorem sound_apart {before after : RequestClient} (sound : Sound before)
    (calls : after.calls = before.calls) (connections : after.connections = before.connections)
    (connection : ∀ number, after.connection = some number → before.connection = some number)
    (ids : after.nextCorrelationId = before.nextCorrelationId)
    (heard : after.heard = before.heard) (pending : after.pending = before.pending)
    (completed : after.completed = before.completed)
    (posted : ∀ cause, some cause ∈ after.posted → some cause ∈ before.posted)
    (closedBy : after.closedBy = before.closedBy) (harmed : after.harmed = before.harmed) :
    Sound after := by
  refine sound_of_kept sound (kept_refl sound calls) connections.ge ?_ ids heard ?_ ?_ ?_ ?_ ?_ ?_
  · intro number current
    rw [connections]
    exact sound.newest number (connection number current)
  · rw [pending, calls]
    intro id caller member
    exact ⟨member, (sound.pending id caller member).1⟩
  · rw [completed, calls]
    exact sound.done
  · rw [completed]
    exact sound.once
  · rw [calls]
    intro cause member
    exact sound.posted cause (posted cause member)
  · rw [closedBy]
    exact sound.closers
  · rw [harmed]
    exact sound.harms

theorem close_sound {state : RequestClient} (sound : Sound state) : Sound state.close := by
  refine sound_apart sound rfl rfl (fun _ => id) rfl rfl rfl rfl ?_ rfl rfl
  intro cause member
  rcases List.mem_append.mp member with earlier | new
  · exact earlier
  · cases List.mem_singleton.mp new

theorem socketFails_sound {state : RequestClient} (sound : Sound state) (connection : Nat) :
    Sound (state.socketFails connection) :=
  sound_apart sound rfl rfl (fun _ => id) rfl rfl rfl rfl (fun _ => id) rfl rfl

theorem dropReader_sound {state : RequestClient} (sound : Sound state) (connection : Nat) :
    Sound (state.dropReader connection) := by
  rw [dropReader]
  split
  · exact sound_apart sound rfl rfl nofun rfl rfl rfl rfl (fun _ => id) rfl rfl
  · exact sound_apart sound rfl rfl (fun _ => id) rfl rfl rfl rfl (fun _ => id) rfl rfl

theorem failPending_calls (state : RequestClient) (origin : Option Nat) (caller : Nat) :
    ((state.failPending origin).calls caller).stage = (state.calls caller).stage ∧
      ((state.failPending origin).calls caller).connection = (state.calls caller).connection ∧
      ((state.failPending origin).calls caller).correlation =
        (state.calls caller).correlation ∧
      ((state.failPending origin).calls caller).response = (state.calls caller).response := by
  simp only [failPending]
  split <;> exact ⟨rfl, rfl, rfl, rfl⟩

theorem failPending_kept {state after : RequestClient} (sound : Sound state)
    (origin : Option Nat) (calls : after.calls = (state.failPending origin).calls) :
    Kept state after := by
  constructor <;> intro caller <;> rw [calls] <;>
    obtain ⟨stage, connection, correlation, response⟩ := failPending_calls state origin caller
  · exact connection
  · exact correlation
  · exact response
  · exact fun _ => stage
  · rw [stage]
    exact id
  · rw [stage]
    exact sound.returned caller

/-- The calls that a failure reaches were issued no later than the call it goes back to. -/
theorem failPending_harms {state : RequestClient} (sound : Sound state) {origin : Option Nat}
    (cleared : ∀ cause, origin = some cause → (state.calls cause).stage = .thrown ∧
      ∀ older, (state.calls cause).connection = some older → state.connections = older + 1)
    {victim cause : Nat} (member : (victim, cause) ∈ (state.failPending origin).harmed) :
    (state.calls cause).stage = .thrown ∧ ∃ newer,
      (state.calls victim).connection = some newer ∧ ∀ older,
        (state.calls cause).connection = some older → newer ≤ older := by
  rcases List.mem_append.mp member with earlier | new
  · exact sound.harms victim cause earlier
  · cases origin with
    | none => cases new
    | some blamed =>
        obtain ⟨caller, waits, same⟩ := List.mem_map.mp new
        cases same
        obtain ⟨⟨id, _⟩, listed, rfl⟩ := List.mem_map.mp waits
        obtain ⟨_, _, number, issued, _⟩ := sound.pending id _ listed
        obtain ⟨thrown, latest⟩ := cleared cause rfl
        refine ⟨thrown, number, issued, ?_⟩
        intro older theirs
        have used := sound.used _ number issued
        have count := latest older theirs
        omega

theorem failPending_sound {state after : RequestClient} (sound : Sound state)
    {origin : Option Nat}
    (cleared : ∀ cause, origin = some cause → (state.calls cause).stage = .thrown ∧
      ∀ older, (state.calls cause).connection = some older → state.connections = older + 1)
    (calls : after.calls = (state.failPending origin).calls)
    (connections : after.connections = state.connections)
    (connection : ∀ number, after.connection = some number → state.connection = some number)
    (ids : after.nextCorrelationId = state.nextCorrelationId)
    (heard : after.heard = state.heard) (pending : after.pending = state.pending)
    (completed : after.completed = state.completed)
    (posted : ∀ cause, some cause ∈ after.posted → some cause ∈ state.posted)
    (closers : ∀ number cause, after.closedBy number = some cause →
      (state.calls cause).stage = .thrown ∧ ∀ older,
        (state.calls cause).connection = some older → number ≤ older)
    (harmed : after.harmed = (state.failPending origin).harmed) : Sound after := by
  have kept := failPending_kept sound origin calls
  refine sound_of_kept sound kept connections.ge ?_ ids heard ?_ ?_ ?_ ?_ closers ?_
  · intro number current
    rw [connections]
    exact sound.newest number (connection number current)
  · rw [pending, calls]
    intro id caller member
    rw [(failPending_calls state origin caller).1]
    exact ⟨member, (sound.pending id caller member).1⟩
  · rw [completed]
    intro caller member
    rw [kept.ended caller (sound.done caller member)]
    exact sound.done caller member
  · rw [completed]
    exact sound.once
  · intro cause member
    exact kept.thrown (sound.posted cause (posted cause member))
  · rw [harmed]
    intro victim cause member
    exact failPending_harms sound cleared member

theorem runClose_sound {state : RequestClient} (sound : Sound state)
    (timely : Timely state .runClose) : Sound state.runClose := by
  rw [runClose]
  split
  · exact sound
  · next origin rest posted =>
    have head : origin ∈ state.posted.head? := by rw [posted]; rfl
    have cleared : ∀ cause, origin = some cause → (state.calls cause).stage = .thrown ∧
        ∀ older, (state.calls cause).connection = some older →
          state.connections = older + 1 := by
      rintro cause rfl
      refine ⟨sound.posted cause (by rw [posted]; exact List.mem_cons_self), ?_⟩
      intro older issued
      exact timely (some cause) head cause rfl older issued
    have left : ∀ cause, some cause ∈ rest → some cause ∈ state.posted := by
      intro cause member
      rw [posted]
      exact List.mem_cons_of_mem origin member
    split
    · exact failPending_sound sound cleared rfl rfl (fun _ => id) rfl rfl rfl rfl left
        sound.closers rfl
    · next connection current =>
      refine failPending_sound sound cleared rfl rfl (fun _ => id) rfl rfl rfl rfl left ?_ rfl
      intro number cause closed
      by_cases same : number = connection
      · subst same
        simp only [Function.update_self] at closed
        obtain ⟨thrown, latest⟩ := cleared cause closed
        refine ⟨thrown, ?_⟩
        intro older issued
        have newest := sound.newest number current
        have count := latest older issued
        omega
      · exact sound.closers number cause (by simpa [failPending, same] using closed)

theorem answered_sound {state : RequestClient} (sound : Sound state) {caller connection : Nat}
    (pends : (state.calls caller).stage.pends = true)
    (issued : (state.calls caller).connection = some connection) :
    Sound (state.setCall caller { state.calls caller with
      response := some (connection, (state.calls caller).correlation) }) := by
  have same : ∀ other,
      ((state.setCall caller { state.calls caller with
        response := some (connection, (state.calls caller).correlation) }).calls other).stage =
          (state.calls other).stage ∧
      ((state.setCall caller { state.calls caller with
        response := some (connection, (state.calls caller).correlation) }).calls
          other).connection = (state.calls other).connection ∧
      ((state.setCall caller { state.calls caller with
        response := some (connection, (state.calls caller).correlation) }).calls
          other).correlation = (state.calls other).correlation := by
    intro other
    by_cases here : other = caller
    · subst here
      simp [setCall]
    · simp [setCall, here]
  have response : ∀ other, other ≠ caller →
      ((state.setCall caller { state.calls caller with
        response := some (connection, (state.calls caller).correlation) }).calls
          other).response = (state.calls other).response := by
    intro other differ
    simp [setCall, differ]
  constructor
  · exact sound.newest
  · intro other number
    rw [(same other).2.1]
    exact sound.used other number
  · intro other early
    rw [(same other).1] at early
    have differ : other ≠ caller := by
      rintro rfl
      rw [Stage.pends_early pends] at early
      cases early
    rw [(same other).2.1, response other differ]
    exact sound.early other early
  · exact sound.positive
  · exact sound.bounded
  · exact sound.heardOnce
  · exact sound.heardOld
  · intro id other member
    rw [(same other).1, (same other).2.1, (same other).2.2]
    exact sound.pending id other member
  · intro other number id answered
    rw [(same other).2.1, (same other).2.2]
    by_cases here : other = caller
    · subst here
      simp only [setCall, Function.update_self, Option.some.injEq, Prod.mk.injEq] at answered
      rw [← answered.1, ← answered.2]
      exact ⟨issued, rfl⟩
    · rw [response other here] at answered
      exact sound.matched other number id answered
  · intro other returned
    rw [(same other).1] at returned
    have differ : other ≠ caller := by
      rintro rfl
      rw [returned] at pends
      cases pends
    rw [response other differ]
    exact sound.returned other returned
  · intro other member
    rw [(same other).1]
    exact sound.done other member
  · exact sound.once
  · intro cause member
    rw [(same cause).1]
    exact sound.posted cause member
  · intro number cause closed
    rw [(same cause).1, (same cause).2.1]
    exact sound.closers number cause closed
  · intro victim cause member
    rw [(same cause).1, (same cause).2.1, (same victim).2.1]
    exact sound.harms victim cause member

theorem respond_sound {state : RequestClient} (sound : Sound state)
    (connection correlation : Nat) : Sound (state.respond connection correlation) := by
  rw [respond]
  split
  · next heard =>
    split
    · exact sound
    · next entry found =>
      obtain ⟨id, caller⟩ := entry
      have member : (id, caller) ∈ state.pending := List.mem_of_find?_eq_some found
      have same : id = correlation := by
        have holds := List.find?_some found
        exact eq_of_beq holds
      subst same
      have listed : id ∈ state.pending.map Prod.fst := List.mem_map.mpr ⟨_, member, rfl⟩
      have answered : (connection, id) ∈ state.heard :=
        heard.2.2.resolve_right fun absent => absent listed
      obtain ⟨pends, mine, number, issued, asked⟩ := sound.pending id caller member
      cases sound.heardOnce connection number id answered asked
      cases mine
      exact answered_sound sound pends issued
  · exact sound

theorem readerFails_sound {state : RequestClient} (sound : Sound state) (connection : Nat) :
    Sound (state.readerFails connection) := by
  rw [readerFails]
  split
  · split
    · next current =>
      apply dropReader_sound
      refine failPending_sound sound ?_ rfl rfl (fun _ => id) rfl rfl rfl rfl (fun _ => id)
        sound.closers rfl
      intro cause closed
      obtain ⟨thrown, bound⟩ := sound.closers connection cause closed
      refine ⟨thrown, ?_⟩
      intro older issued
      have newest := sound.newest connection current
      have used := sound.used cause older issued
      have least := bound older issued
      omega
    · exact dropReader_sound sound connection
  · exact sound

theorem next_sound {state : RequestClient} (sound : Sound state) (step : Step)
    (timely : Timely state step) : Sound (state.next step) := by
  cases step with
  | call caller => exact startCall_sound sound caller
  | check caller => exact check_sound sound caller
  | lockedCheck caller => exact lockedCheck_sound sound caller
  | connected caller succeeds => exact connected_sound sound caller succeeds
  | issue caller => exact issue_sound sound caller timely
  | sent caller succeeds => exact sent_sound sound caller succeeds
  | wake caller timedOut => exact wake_sound sound caller timedOut
  | shutDown caller => exact shutDown_sound sound caller
  | close => exact close_sound sound
  | runClose => exact runClose_sound sound timely
  | respond connection correlation => exact respond_sound sound connection correlation
  | readerFails connection => exact readerFails_sound sound connection
  | readerEnds connection =>
      change Sound (state.readerEnds connection)
      rw [readerEnds]
      split
      · exact dropReader_sound sound connection
      · exact sound
  | socketFails connection => exact socketFails_sound sound connection

theorem initial_sound : Sound {} where
  newest := nofun
  used := nofun
  early := fun _ _ => ⟨rfl, rfl⟩
  positive := Nat.one_pos
  bounded := by decide
  heardOnce := nofun
  heardOld := nofun
  pending := nofun
  matched := nofun
  returned := nofun
  done := nofun
  once := List.nodup_nil
  posted := nofun
  closers := nofun
  harms := nofun

/-- In every interleaving in which each close of a failed call runs before a newer connection is
established, and with fewer requests than ids, the calls are isolated from each other. -/
theorem calls_isolated (steps : List Step) (timely : client.Along Timely {} steps) :
    Isolated (client.run {} steps) :=
  sound_isolated (client.along_invariant Timely Sound
    (fun _ step allowed sound => next_sound sound step allowed) {} initial_sound steps timely)

instance decidableTimely (state : RequestClient) (step : Step) :
    Decidable (Timely state step) := by
  unfold Timely
  split <;> infer_instance

/-- A caller finds the client closed, connects and issues its request. -/
def connectAndIssue (caller : Nat) : List Step :=
  [.call caller, .check caller, .lockedCheck caller, .connected caller true, .issue caller,
    .sent caller true]

theorem reconnected_call_returns :
    let steps := connectAndIssue 0 ++
      [.wake 0 true, .shutDown 0, .runClose, .readerFails 0] ++ connectAndIssue 1 ++
      [.respond 1 2, .wake 1 false]
    Isolated (client.run {} steps) ∧ ((client.run {} steps).calls 1).stage = .returned := by
  refine ⟨calls_isolated _ ?_, ?_⟩
  · decide +kernel
  · decide +kernel

/-- The first call fails with its connection; before it gets to its `close`, a second call has
reconnected and issued its request, which the first call's `close` then fails. -/
theorem late_close_fails_newer_call :
    let steps := connectAndIssue 0 ++ [.readerFails 0, .wake 0 false] ++ connectAndIssue 1 ++
      [.shutDown 0, .runClose]
    (client.run {} steps).harmed = [(1, 0)] ∧
      ((client.run {} steps).calls 0).connection = some 0 ∧
      ((client.run {} steps).calls 1).connection = some 1 ∧
      ((client.run {} steps).calls 1).failure = true ∧ ¬ Isolated (client.run {} steps) := by
  intro steps
  have harmed : (client.run {} steps).harmed = [(1, 0)] := by decide +kernel
  have older : ((client.run {} steps).calls 0).connection = some 0 := by decide +kernel
  have newer : ((client.run {} steps).calls 1).connection = some 1 := by decide +kernel
  refine ⟨harmed, older, newer, by decide +kernel, ?_⟩
  intro isolated
  exact isolated.separate 1 0 (by rw [harmed]; exact List.mem_cons_self) 0 1 older newer
    Nat.one_pos

end Msap1.Ipc
