import Msap1.DataSender.Tiling
import Msap1.DataSender.Workers

/-! How the jobs share `generate_due`: a job gets its turn once the windows due before it are
through, unless one of them keeps failing. -/

namespace Msap1.DataSender

/-- A call of `generate_due`, after whatever everybody else did to the outbox. -/
structure GenerateCall (Query : Type) where
  others : List Event
  now : UtcNanoseconds
  maximumWindows : Nat
  generate : Datalogger Query
  available : Nat

abbrev Attempt (Query : Type) := ScheduledJob Query × UtcWindow × WindowOutcome

section Calls

variable {Query : Type} (sha256 : Body → String)

def GenerateCall.done (jobs : List (ScheduledJob Query)) (outbox : Outbox)
    (call : GenerateCall Query) : Generation Query :=
  generateJobs sha256 call.generate call.available call.now jobs call.maximumWindows
    ((machine sha256).run outbox call.others)

def GenerateCall.after (jobs : List (ScheduledJob Query)) (outbox : Outbox)
    (call : GenerateCall Query) : Outbox :=
  (call.done sha256 jobs outbox).steps.last ((machine sha256).run outbox call.others)

def attemptsOf (jobs : List (ScheduledJob Query)) :
    Outbox → List (GenerateCall Query) → List (Attempt Query)
  | _, [] => []
  | outbox, call :: calls => (call.done sha256 jobs outbox).attempts ++
      attemptsOf jobs (call.after sha256 jobs outbox) calls

end Calls

/-- The number of windows of a job that are due at a time. -/
def dueCount {Query : Type} (now : UtcNanoseconds) (outbox : Outbox) (job : ScheduledJob Query) :
    Nat :=
  if ¬ job.enabled then 0
  else match currentWatermark outbox job with
    | none => 0
    | some mark => ((now - generationSettleDelay - mark.completedThrough) /
        job.snapshot.generationInterval).toNat

/-- The windows of a job that are due at a time. -/
def DueAt {Query : Type} (now : UtcNanoseconds) (outbox : Outbox) (job : ScheduledJob Query)
    (window : UtcWindow) : Prop :=
  job.enabled = true ∧ ∃ mark, currentWatermark outbox job = some mark ∧ ∃ number : Nat,
    window = windowFrom job (mark.completedThrough + number * job.snapshot.generationInterval) ∧
      window.finish + generationSettleDelay ≤ now

section Loops

variable {Query : Type} {sha256 : Body → String} {generate : Datalogger Query} {available : Nat}
  {now : UtcNanoseconds} {outbox : Outbox} {job : ScheduledJob Query}

theorem attempts_length (job : ScheduledJob Query) (budget : Nat) (outbox : Outbox) :
    (generateJob sha256 generate available now job budget outbox).attempts.length ≤ budget := by
  induction budget generalizing outbox with
  | zero => exact le_refl _
  | succ budget ih =>
      unfold generateJob
      split
      · exact Nat.zero_le _
      · dsimp only
        split
        · rw [List.length_cons]
          exact Nat.succ_le_succ (ih _)
        · rw [List.length_singleton]
          exact Nat.succ_le_succ (Nat.zero_le _)

theorem attempts_job (job : ScheduledJob Query) (budget : Nat) (outbox : Outbox) :
    ∀ attempt ∈ (generateJob sha256 generate available now job budget outbox).attempts,
      attempt.1 = job := by
  induction budget generalizing outbox with
  | zero =>
      intro attempt member
      cases member
  | succ budget ih =>
      unfold generateJob
      split
      · intro attempt member
        cases member
      · dsimp only
        split
        · intro attempt member
          rcases List.mem_cons.mp member with head | tail
          · rw [head]
          · exact ih _ attempt tail
        · intro attempt member
          rw [List.mem_singleton.mp member]

theorem generateWindow_others (window : UtcWindow) {jobId : String}
    (other : jobId ≠ job.snapshot.jobId) :
    ((generateWindow sha256 generate available now outbox job window).1.last outbox).watermark
      jobId = outbox.watermark jobId := by
  cases outcome : (generateWindow sha256 generate available now outbox job window).2.advances with
  | true =>
      rw [advanced_marks sha256 generate available now outbox job window outcome jobId,
        if_neg other]
  | false => exact failed_stays sha256 generate available now outbox job window outcome jobId

theorem generateJob_others (job : ScheduledJob Query) (budget : Nat) (outbox : Outbox)
    {jobId : String} (other : jobId ≠ job.snapshot.jobId) :
    ((generateJob sha256 generate available now job budget outbox).steps.last outbox).watermark
      jobId = outbox.watermark jobId := by
  induction budget generalizing outbox with
  | zero => rfl
  | succ budget ih =>
      unfold generateJob
      split
      · rfl
      · next window due =>
          dsimp only
          split
          · rw [steps_last_append, ih, generateWindow_others window other]
          · exact generateWindow_others window other

theorem dueWindow_some {window : UtcWindow} (due : dueWindow now outbox job = some window) :
    ∃ mark, currentWatermark outbox job = some mark ∧
      window = windowFrom job mark.completedThrough ∧
        window.finish + generationSettleDelay ≤ now := by
  unfold dueWindow at due
  split at due
  · cases due
  · next mark found =>
      dsimp only at due
      split at due
      · cases due
      · next settled =>
          cases due
          exact ⟨mark, found, rfl, not_lt.mp settled⟩

theorem dueWindow_of {mark : JobWatermark} (found : currentWatermark outbox job = some mark)
    (settled : (windowFrom job mark.completedThrough).finish + generationSettleDelay ≤ now) :
    dueWindow now outbox job = some (windowFrom job mark.completedThrough) := by
  unfold dueWindow
  rw [found]
  exact if_neg (not_lt.mpr settled)

theorem currentWatermark_congr {after : Outbox}
    (same : after.watermark job.snapshot.jobId = outbox.watermark job.snapshot.jobId) :
    currentWatermark after job = currentWatermark outbox job := by
  rw [currentWatermark, currentWatermark, same]

theorem currentWatermark_marked {after : Outbox} {through : UtcNanoseconds}
    (marked : Marked outbox ⟨job.snapshot.jobId, job.snapshot.revision, through⟩ after) :
    currentWatermark after job = some ⟨job.snapshot.jobId, job.snapshot.revision, through⟩ := by
  rw [currentWatermark, marked job.snapshot.jobId, if_pos rfl]
  exact Option.filter_some_pos (by simp)

theorem advanced_current {window : UtcWindow}
    (advances : (generateWindow sha256 generate available now outbox job window).2.advances =
      true) :
    currentWatermark ((generateWindow sha256 generate available now outbox job window).1.last
        outbox) job = some ⟨job.snapshot.jobId, job.snapshot.revision, window.finish⟩ :=
  currentWatermark_marked (advanced_marks sha256 generate available now outbox job window advances)

theorem advanced_count {window : UtcWindow} (enabled : job.enabled = true)
    (positive : 0 < job.snapshot.generationInterval) (due : dueWindow now outbox job = some window)
    (advances : (generateWindow sha256 generate available now outbox job window).2.advances =
      true) {later : UtcNanoseconds} (order : now ≤ later) :
    dueCount later ((generateWindow sha256 generate available now outbox job window).1.last
        outbox) job + 1 = dueCount later outbox job := by
  rcases dueWindow_some due with ⟨mark, current, place, settled⟩
  unfold dueCount
  rw [if_neg (by simp [enabled]), if_neg (by simp [enabled]), advanced_current advances, current]
  dsimp only
  rw [place] at settled ⊢
  have shifted : later - generationSettleDelay -
      (windowFrom job mark.completedThrough).finish =
        later - generationSettleDelay - mark.completedThrough +
          (-1) * job.snapshot.generationInterval := by
    rw [windowFrom]
    ring
  have enough : job.snapshot.generationInterval ≤
      later - generationSettleDelay - mark.completedThrough := by
    rw [windowFrom] at settled
    dsimp only at settled
    linarith
  have whole : (1 : Int) ≤ (later - generationSettleDelay - mark.completedThrough : Int) /
      job.snapshot.generationInterval := by
    rw [Int.le_ediv_iff_mul_le positive, one_mul]
    exact enough
  rw [shifted, Int.add_mul_ediv_right _ _ positive.ne']
  generalize (later - generationSettleDelay - mark.completedThrough) /
    job.snapshot.generationInterval = count at whole ⊢
  omega

theorem generateJob_counts (enabled : job.enabled = true)
    (positive : 0 < job.snapshot.generationInterval) {later : UtcNanoseconds}
    (order : now ≤ later) (budget : Nat) (outbox : Outbox)
    (through : (generateJob sha256 generate available now job budget outbox).halted = false) :
    dueCount later ((generateJob sha256 generate available now job budget outbox).steps.last
        outbox) job + (generateJob sha256 generate available now job budget
          outbox).attempts.length = dueCount later outbox job := by
  induction budget generalizing outbox with
  | zero => rfl
  | succ budget ih =>
      unfold generateJob at through ⊢
      split
      · rfl
      · next window due =>
          rw [due] at through
          dsimp only at through ⊢
          split
          · next advances =>
              rw [if_pos advances] at through
              rw [steps_last_append, List.length_cons, ← add_assoc, ih _ through]
              exact advanced_count enabled positive due advances order
          · next fails =>
              rw [if_neg fails] at through
              cases through

theorem generateJob_through (budget : Nat) (outbox : Outbox)
    (advance : ∀ attempt ∈ (generateJob sha256 generate available now job budget
      outbox).attempts, attempt.2.2.advances = true) :
    (generateJob sha256 generate available now job budget outbox).halted = false := by
  induction budget generalizing outbox with
  | zero => rfl
  | succ budget ih =>
      unfold generateJob at advance ⊢
      split
      · rfl
      · next window due =>
          rw [due] at advance
          dsimp only at advance ⊢
          split
          · next advances =>
              rw [if_pos advances] at advance
              exact ih _ (fun attempt member => advance attempt (List.mem_cons_of_mem _ member))
          · next fails =>
              rw [if_neg fails] at advance
              exact absurd (advance _ List.mem_cons_self) fails

theorem dueAt_congr {window : UtcWindow} {after : Outbox}
    (same : after.watermark job.snapshot.jobId = outbox.watermark job.snapshot.jobId) :
    DueAt now after job window ↔ DueAt now outbox job window := by
  unfold DueAt
  rw [currentWatermark_congr same]

theorem dueAt_mono {window : UtcWindow} {later : UtcNanoseconds} (order : now ≤ later)
    (due : DueAt now outbox job window) : DueAt later outbox job window := by
  rcases due with ⟨enabled, mark, current, number, place, settled⟩
  exact ⟨enabled, mark, current, number, place, settled.trans order⟩

theorem dueAt_advanced {window other : UtcWindow} {later : UtcNanoseconds}
    (due : dueWindow now outbox job = some window)
    (advances : (generateWindow sha256 generate available now outbox job window).2.advances = true)
    (after : DueAt later ((generateWindow sha256 generate available now outbox job window).1.last
      outbox) job other) : DueAt later outbox job other := by
  rcases dueWindow_some due with ⟨mark, current, place, -⟩
  rcases after with ⟨enabled, moved, found, number, shifted, settled⟩
  rw [advanced_current advances] at found
  cases found
  refine ⟨enabled, mark, current, number + 1, ?_, settled⟩
  rw [shifted, place]
  unfold windowFrom
  push_cast
  congr 1 <;> ring

theorem generateJob_dueAt {other : UtcWindow} {later : UtcNanoseconds} (budget : Nat)
    (outbox : Outbox)
    (after : DueAt later ((generateJob sha256 generate available now job budget
      outbox).steps.last outbox) job other) : DueAt later outbox job other := by
  induction budget generalizing outbox with
  | zero => exact after
  | succ budget ih =>
      unfold generateJob at after
      split at after
      · exact after
      · next window due =>
          dsimp only at after
          split at after
          · next advances =>
              rw [steps_last_append] at after
              exact dueAt_advanced due advances (ih _ after)
          · next fails =>
              rw [Bool.not_eq_true] at fails
              exact (dueAt_congr (failed_stays sha256 generate available now outbox job window
                fails job.snapshot.jobId)).mp after

theorem attempts_due (enabled : job.enabled = true) (budget : Nat) (outbox : Outbox) :
    ∀ attempt ∈ (generateJob sha256 generate available now job budget outbox).attempts,
      DueAt now outbox job attempt.2.1 := by
  induction budget generalizing outbox with
  | zero =>
      intro attempt member
      cases member
  | succ budget ih =>
      unfold generateJob
      split
      · intro attempt member
        cases member
      · next window due =>
          have first : DueAt now outbox job window := by
            rcases dueWindow_some due with ⟨mark, current, place, settled⟩
            refine ⟨enabled, mark, current, 0, ?_, settled⟩
            rw [place, Nat.cast_zero, zero_mul, add_zero]
          dsimp only
          split
          · next advances =>
              intro attempt member
              rcases List.mem_cons.mp member with head | tail
              · rw [head]
                exact first
              · exact dueAt_advanced due advances (ih _ attempt tail)
          · intro attempt member
            rw [List.mem_singleton.mp member]
            exact first

/-- While a window is due, so is the first one of its job; once another one went through, the
window is still due. -/
theorem due_first (positive : 0 < job.snapshot.generationInterval) {blocked : UtcWindow}
    {start : UtcNanoseconds} (order : start ≤ now) (due : DueAt start outbox job blocked) :
    ∃ window, dueWindow now outbox job = some window ∧ (window ≠ blocked →
      (generateWindow sha256 generate available now outbox job window).2.advances = true →
        DueAt start ((generateWindow sha256 generate available now outbox job window).1.last
          outbox) job blocked) := by
  rcases due with ⟨enabled, mark, current, number, place, settled⟩
  have reach : 0 ≤ (number : Int) * job.snapshot.generationInterval :=
    mul_nonneg (Int.natCast_nonneg number) positive.le
  refine ⟨windowFrom job mark.completedThrough, dueWindow_of current ?_, ?_⟩
  · rw [place] at settled
    unfold windowFrom at settled ⊢
    dsimp only at settled ⊢
    linarith
  · intro different advances
    cases number with
    | zero =>
        rw [Nat.cast_zero, zero_mul, add_zero] at place
        exact absurd place.symm different
    | succ number =>
        refine ⟨enabled, _, advanced_current advances, number, ?_, settled⟩
        rw [place]
        unfold windowFrom
        push_cast
        congr 1 <;> ring

theorem generateJob_stuck (sha256 : Body → String) (generate : Datalogger Query) (available : Nat)
    (positive : 0 < job.snapshot.generationInterval) {blocked : UtcWindow}
    {start : UtcNanoseconds} (order : start ≤ now) (budget : Nat) (outbox : Outbox)
    (due : DueAt start outbox job blocked)
    (fails : ∀ attempt ∈ (generateJob sha256 generate available now job budget outbox).attempts,
      attempt.2.1 = blocked → attempt.2.2.advances = false) :
    ((generateJob sha256 generate available now job budget outbox).halted = true ∨
      (generateJob sha256 generate available now job budget outbox).attempts.length = budget) ∧
    DueAt start ((generateJob sha256 generate available now job budget outbox).steps.last outbox)
      job blocked := by
  induction budget generalizing outbox with
  | zero => exact ⟨.inr rfl, due⟩
  | succ budget ih =>
      rcases due_first positive order due with ⟨window, next, moves⟩
      unfold generateJob at fails ⊢
      rw [next] at fails ⊢
      dsimp only at fails ⊢
      split
      · next advances =>
          rw [if_pos advances] at fails
          have different : window ≠ blocked := by
            intro equal
            rw [fails _ List.mem_cons_self equal] at advances
            cases advances
          rcases ih _ (moves different advances) (fun attempt member =>
            fails attempt (List.mem_cons_of_mem _ member)) with ⟨stuck, still⟩
          rw [steps_last_append]
          refine ⟨?_, still⟩
          rcases stuck with halted | spent
          · exact .inl halted
          · right
            rw [List.length_cons, spent]
      · next stays =>
          rw [Bool.not_eq_true] at stays
          refine ⟨.inl rfl, ?_⟩
          exact (dueAt_congr (failed_stays sha256 generate available now outbox job window stays
            job.snapshot.jobId)).mpr due

theorem generateJob_zero (job : ScheduledJob Query) (outbox : Outbox) :
    generateJob sha256 generate available now job 0 outbox = {} := by
  rw [generateJob]

theorem generateJobs_zero (jobs : List (ScheduledJob Query)) (outbox : Outbox) :
    generateJobs sha256 generate available now jobs 0 outbox = {} := by
  induction jobs generalizing outbox with
  | nil => rfl
  | cons job jobs ih =>
      unfold generateJobs
      split
      · exact ih outbox
      · rw [generateJob_zero]
        dsimp only
        rw [if_neg (by decide), Nat.zero_sub, ih]
        rfl

/-- What a run over some jobs leaves to the jobs after them. -/
def Generation.then (outbox : Outbox) (first : Generation Query) (budget : Nat)
    (rest : Nat → Outbox → Generation Query) : Generation Query :=
  if first.halted then first
  else
    let second := rest (budget - first.attempts.length) (first.steps.last outbox)
    ⟨first.steps ++ second.steps, first.attempts ++ second.attempts, second.halted⟩

theorem generateJobs_append (first second : List (ScheduledJob Query)) (budget : Nat)
    (outbox : Outbox) :
    generateJobs sha256 generate available now (first ++ second) budget outbox =
      (generateJobs sha256 generate available now first budget outbox).then outbox budget
        (generateJobs sha256 generate available now second) := by
  induction first generalizing budget outbox with
  | nil =>
      simp [generateJobs, Generation.then]
  | cons job first ih =>
      rw [List.cons_append]
      unfold generateJobs
      split
      · exact ih budget outbox
      · cases halted : (generateJob sha256 generate available now job budget outbox).halted with
        | true => simp [Generation.then, halted]
        | false =>
            dsimp only
            rw [if_neg (by simp [halted]), if_neg (by simp [halted]), ih]
            unfold Generation.then
            dsimp only
            split
            · rfl
            · rw [steps_last_append, List.length_append, Nat.sub_sub, List.append_assoc,
                List.append_assoc]

theorem generateJobs_first {jobs : List (ScheduledJob Query)} (enabled : job.enabled = true)
    (budget : Nat) (outbox : Outbox) :
    ∀ attempt ∈ (generateJob sha256 generate available now job budget outbox).attempts,
      attempt ∈ (generateJobs sha256 generate available now (job :: jobs) budget
        outbox).attempts := by
  intro attempt member
  unfold generateJobs
  rw [if_neg (by simp [enabled])]
  dsimp only
  split
  · exact member
  · exact List.mem_append_left _ member

theorem generateJobs_alone {jobs : List (ScheduledJob Query)} (enabled : job.enabled = true)
    (budget : Nat) (outbox : Outbox)
    (stuck : (generateJob sha256 generate available now job budget outbox).halted = true ∨
      (generateJob sha256 generate available now job budget outbox).attempts.length = budget) :
    generateJobs sha256 generate available now (job :: jobs) budget outbox =
      generateJob sha256 generate available now job budget outbox := by
  unfold generateJobs
  rw [if_neg (by simp [enabled])]
  dsimp only
  split
  · rfl
  · next through =>
      rcases stuck with halted | spent
      · exact absurd halted through
      · rw [Bool.not_eq_true] at through
        rw [spent, Nat.sub_self, generateJobs_zero, List.append_nil, List.append_nil]
        cases same : generateJob sha256 generate available now job budget outbox with
        | mk steps attempts halted =>
            rw [same] at through
            exact congrArg (Generation.mk steps attempts) through.symm

theorem generateJobs_others (jobs : List (ScheduledJob Query)) (budget : Nat) (outbox : Outbox)
    {jobId : String} (other : ∀ job ∈ jobs, jobId ≠ job.snapshot.jobId) :
    ((generateJobs sha256 generate available now jobs budget outbox).steps.last outbox).watermark
      jobId = outbox.watermark jobId := by
  induction jobs generalizing budget outbox with
  | nil => rfl
  | cons job jobs ih =>
      have later : ∀ job ∈ jobs, jobId ≠ job.snapshot.jobId := fun job member =>
        other job (List.mem_cons_of_mem _ member)
      have first : ((generateJob sha256 generate available now job budget outbox).steps.last
          outbox).watermark jobId = outbox.watermark jobId :=
        generateJob_others job budget outbox (other job List.mem_cons_self)
      unfold generateJobs
      split
      · exact ih budget outbox later
      · dsimp only
        split
        · exact first
        · rw [steps_last_append, ih _ _ later, first]

theorem generateJobs_jobs (jobs : List (ScheduledJob Query)) (budget : Nat) (outbox : Outbox) :
    ∀ attempt ∈ (generateJobs sha256 generate available now jobs budget outbox).attempts,
      attempt.1 ∈ jobs := by
  induction jobs generalizing budget outbox with
  | nil =>
      intro attempt member
      cases member
  | cons job jobs ih =>
      unfold generateJobs
      split
      · intro attempt member
        exact List.mem_cons_of_mem job (ih budget outbox attempt member)
      · dsimp only
        split
        · intro attempt member
          rw [attempts_job job budget outbox attempt member]
          exact List.mem_cons_self
        · intro attempt member
          rcases List.mem_append.mp member with first | rest
          · rw [attempts_job job budget outbox attempt first]
            exact List.mem_cons_self
          · exact List.mem_cons_of_mem job (ih _ _ attempt rest)

theorem generateJobs_length (jobs : List (ScheduledJob Query)) (budget : Nat) (outbox : Outbox) :
    (generateJobs sha256 generate available now jobs budget outbox).attempts.length ≤ budget := by
  induction jobs generalizing budget outbox with
  | nil => exact Nat.zero_le _
  | cons job jobs ih =>
      have first : (generateJob sha256 generate available now job budget outbox).attempts.length ≤
          budget := attempts_length job budget outbox
      unfold generateJobs
      split
      · exact ih budget outbox
      · dsimp only
        split
        · exact first
        · rw [List.length_append]
          have rest := ih (budget - (generateJob sha256 generate available now job budget
            outbox).attempts.length) ((generateJob sha256 generate available now job budget
              outbox).steps.last outbox)
          omega

/-- Jobs with different identities and positive intervals. -/
structure Distinct (jobs : List (ScheduledJob Query)) : Prop where
  identities : jobs.Pairwise (fun left right => left.snapshot.jobId ≠ right.snapshot.jobId)
  positive : ∀ job ∈ jobs, 0 < job.snapshot.generationInterval

theorem distinct_cons {jobs : List (ScheduledJob Query)} (distinct : Distinct (job :: jobs)) :
    Distinct jobs ∧ ∀ other ∈ jobs, job.snapshot.jobId ≠ other.snapshot.jobId := by
  rcases List.pairwise_cons.mp distinct.identities with ⟨apart, rest⟩
  exact ⟨⟨rest, fun other member => distinct.positive other (List.mem_cons_of_mem job member)⟩,
    apart⟩

def totalDue (now : UtcNanoseconds) (outbox : Outbox) (jobs : List (ScheduledJob Query)) : Nat :=
  (jobs.map (dueCount now outbox)).sum

theorem dueCount_congr {after : Outbox}
    (same : after.watermark job.snapshot.jobId = outbox.watermark job.snapshot.jobId) :
    dueCount now after job = dueCount now outbox job := by
  rw [dueCount, dueCount, currentWatermark_congr same]

theorem totalDue_congr {jobs : List (ScheduledJob Query)} {after : Outbox}
    (same : ∀ job ∈ jobs, after.watermark job.snapshot.jobId =
      outbox.watermark job.snapshot.jobId) :
    totalDue now after jobs = totalDue now outbox jobs := by
  rw [totalDue, totalDue, List.map_congr_left (fun job member => dueCount_congr (same job member))]

theorem generateJobs_counts {jobs : List (ScheduledJob Query)} (distinct : Distinct jobs)
    {later : UtcNanoseconds} (order : now ≤ later) (budget : Nat) (outbox : Outbox)
    (advance : ∀ attempt ∈ (generateJobs sha256 generate available now jobs budget
      outbox).attempts, attempt.2.2.advances = true) :
    (generateJobs sha256 generate available now jobs budget outbox).halted = false ∧
      totalDue later ((generateJobs sha256 generate available now jobs budget
        outbox).steps.last outbox) jobs + (generateJobs sha256 generate available now jobs budget
          outbox).attempts.length = totalDue later outbox jobs := by
  induction jobs generalizing budget outbox with
  | nil => exact ⟨rfl, rfl⟩
  | cons job jobs ih =>
      rcases distinct_cons distinct with ⟨rest, apart⟩
      unfold generateJobs at advance ⊢
      split
      · next disabled =>
          rw [if_pos disabled] at advance
          rcases ih rest budget outbox advance with ⟨through, count⟩
          refine ⟨through, ?_⟩
          have none : ∀ state, dueCount later state job = 0 := fun state => if_pos disabled
          rw [totalDue, totalDue, List.map_cons, List.map_cons, List.sum_cons, List.sum_cons, none,
            none, zero_add, zero_add]
          exact count
      · next enabled =>
          rw [if_neg enabled] at advance
          dsimp only at advance ⊢
          have one : (generateJob sha256 generate available now job budget outbox).halted =
              false := by
            apply generateJob_through
            intro attempt member
            apply advance attempt
            split
            · exact member
            · exact List.mem_append_left _ member
          rw [if_neg (by simp [one])] at advance ⊢
          have own := generateJob_counts (by simpa using enabled)
            (distinct.positive job List.mem_cons_self) order budget outbox one
          rcases ih rest _ _ (fun attempt member =>
            advance attempt (List.mem_append_right _ member)) with ⟨through, count⟩
          refine ⟨through, ?_⟩
          have mine : ∀ budget state, dueCount later ((generateJobs sha256 generate available now
              jobs budget state).steps.last state) job = dueCount later state job := by
            intro budget state
            exact dueCount_congr (generateJobs_others jobs budget state apart)
          have theirs : totalDue later ((generateJob sha256 generate available now job budget
              outbox).steps.last outbox) jobs = totalDue later outbox jobs := by
            apply totalDue_congr
            intro other member
            exact generateJob_others job budget outbox (apart other member).symm
          rw [steps_last_append, List.length_append]
          rw [totalDue] at count theirs ⊢
          rw [totalDue] at count theirs ⊢
          rw [List.map_cons, List.map_cons, List.sum_cons, List.sum_cons, mine]
          omega

theorem generateJobs_dueAt {jobs : List (ScheduledJob Query)} (distinct : Distinct jobs)
    {other : UtcWindow} {later : UtcNanoseconds} (budget : Nat) (outbox : Outbox)
    {member : ScheduledJob Query} (inside : member ∈ jobs)
    (after : DueAt later ((generateJobs sha256 generate available now jobs budget
      outbox).steps.last outbox) member other) : DueAt later outbox member other := by
  induction jobs generalizing budget outbox with
  | nil => cases inside
  | cons job jobs ih =>
      rcases distinct_cons distinct with ⟨rest, apart⟩
      rcases List.mem_cons.mp inside with head | tail
      · subst head
        unfold generateJobs at after
        split at after
        · exact (dueAt_congr (generateJobs_others jobs budget outbox apart)).mp after
        · dsimp only at after
          split at after
          · exact generateJob_dueAt budget outbox after
          · rw [steps_last_append] at after
            apply generateJob_dueAt budget outbox
            exact (dueAt_congr (generateJobs_others jobs _ _ apart)).mp after
      · have different := (apart member tail).symm
        unfold generateJobs at after
        split at after
        · exact ih rest budget outbox tail after
        · dsimp only at after
          split at after
          · exact (dueAt_congr (generateJob_others job budget outbox different)).mp after
          · rw [steps_last_append] at after
            have moved := ih rest _ _ tail after
            exact (dueAt_congr (generateJob_others job budget outbox different)).mp moved

theorem generateJobs_due {jobs : List (ScheduledJob Query)} (distinct : Distinct jobs)
    (budget : Nat) (outbox : Outbox) :
    ∀ attempt ∈ (generateJobs sha256 generate available now jobs budget outbox).attempts,
      DueAt now outbox attempt.1 attempt.2.1 := by
  induction jobs generalizing budget outbox with
  | nil =>
      intro attempt member
      cases member
  | cons job jobs ih =>
      rcases distinct_cons distinct with ⟨rest, apart⟩
      unfold generateJobs
      split
      · exact ih rest budget outbox
      · next disabled =>
          have enabled : job.enabled = true := by simpa using disabled
          have own : ∀ attempt ∈ (generateJob sha256 generate available now job budget
              outbox).attempts, DueAt now outbox attempt.1 attempt.2.1 := by
            intro attempt member
            rw [attempts_job job budget outbox attempt member]
            exact attempts_due enabled budget outbox attempt member
          dsimp only
          split
          · exact own
          · intro attempt member
            rcases List.mem_append.mp member with first | later
            · exact own attempt first
            · have inside := generateJobs_jobs jobs _ _ attempt later
              exact (dueAt_congr (generateJob_others job budget outbox
                (apart _ inside).symm)).mp (ih rest _ _ attempt later)

end Loops

/-- The environment of a run of calls: which windows go through, and that those of one job are
always generated. -/
structure Behaves {Query : Type} (advancing : String → UtcWindow → Bool)
    (served : ScheduledJob Query) (attempt : Attempt Query) : Prop where
  advances : attempt.2.2.advances = advancing attempt.1.snapshot.jobId attempt.2.1
  serves : attempt.1 = served → attempt.2.2 = .generated

/-- Everybody else leaves the watermarks to the engine. -/
def Unmarking (events : List Event) : Prop :=
  ∀ event ∈ events, ∀ watermark, event.issued ≠ .storeWatermark watermark

section Calls

variable {Query : Type} {sha256 : Body → String} {advancing : String → UtcWindow → Bool}
  {before after : List (ScheduledJob Query)} {served : ScheduledJob Query} {outbox : Outbox}
  {call : GenerateCall Query} {mark : JobWatermark} {start later : UtcNanoseconds}

theorem others_watermark (events : List Event) (unmarking : Unmarking events) (jobId : String) :
    ((machine sha256).run outbox events).watermark jobId = outbox.watermark jobId := by
  apply (machine sha256).run_invariant_of
    (fun state => state.watermark jobId = outbox.watermark jobId)
    (fun event => ∀ watermark, event.issued ≠ .storeWatermark watermark)
  · intro state event other same
    rw [watermark_congr (event_watermarks event other), same]
  · rfl
  · exact unmarking

theorem distinct_append {first second : List (ScheduledJob Query)}
    (distinct : Distinct (first ++ second)) : Distinct first ∧ Distinct second ∧
      ∀ left ∈ first, ∀ right ∈ second, left.snapshot.jobId ≠ right.snapshot.jobId := by
  rcases List.pairwise_append.mp distinct.identities with ⟨left, right, apart⟩
  exact ⟨⟨left, fun job member => distinct.positive job (List.mem_append_left _ member)⟩,
    ⟨right, fun job member => distinct.positive job (List.mem_append_right _ member)⟩, apart⟩

theorem then_attempts {first : Generation Query} {budget : Nat}
    {rest : Nat → Outbox → Generation Query} {attempt : Attempt Query}
    (member : attempt ∈ first.attempts) :
    attempt ∈ (first.then outbox budget rest).attempts := by
  unfold Generation.then
  split
  · exact member
  · exact List.mem_append_left _ member

theorem then_through {first : Generation Query} (through : first.halted = false) (budget : Nat)
    (rest : Nat → Outbox → Generation Query) :
    first.then outbox budget rest =
      ⟨first.steps ++ (rest (budget - first.attempts.length) (first.steps.last outbox)).steps,
        first.attempts ++ (rest (budget - first.attempts.length)
          (first.steps.last outbox)).attempts,
        (rest (budget - first.attempts.length) (first.steps.last outbox)).halted⟩ := by
  unfold Generation.then
  rw [if_neg (by simp [through])]

theorem generateJobs_tries (sha256 : Body → String) (after : List (ScheduledJob Query))
    (generate : Datalogger Query) (available : Nat) {now : UtcNanoseconds}
    (enabled : served.enabled = true) {window : UtcWindow}
    (due : dueWindow now outbox served = some window) (budget : Nat) :
    ∃ outcome, (served, window, outcome) ∈ (generateJobs sha256 generate available now
      (served :: after) (budget + 1) outbox).attempts := by
  have tries : ∃ outcome, (served, window, outcome) ∈ (generateJob sha256 generate available now
      served (budget + 1) outbox).attempts := by
    unfold generateJob
    rw [due]
    dsimp only
    split
    · exact ⟨_, List.mem_cons_self⟩
    · exact ⟨_, List.mem_cons_self⟩
  rcases tries with ⟨outcome, member⟩
  exact ⟨outcome, generateJobs_first enabled _ _ _ member⟩

/-- A call reaches the job, or spends its whole budget on windows that were due before it. -/
theorem call_progress (distinct : Distinct (before ++ served :: after))
    (enabled : served.enabled = true) (current : currentWatermark outbox served = some mark)
    (settled : (windowFrom served mark.completedThrough).finish + generationSettleDelay ≤ start)
    (begun : start ≤ call.now) (ends : call.now ≤ later) (unmarking : Unmarking call.others)
    (clear : ∀ job ∈ before, ∀ window, DueAt later outbox job window →
      advancing job.snapshot.jobId window = true)
    (behaves : ∀ attempt ∈ (call.done sha256 (before ++ served :: after) outbox).attempts,
      Behaves advancing served attempt) :
    (served, windowFrom served mark.completedThrough, .generated) ∈
        (call.done sha256 (before ++ served :: after) outbox).attempts ∨
      currentWatermark (call.after sha256 (before ++ served :: after) outbox) served = some mark ∧
        (∀ job ∈ before, ∀ window, DueAt later
          (call.after sha256 (before ++ served :: after) outbox) job window →
            DueAt later outbox job window) ∧
        totalDue later (call.after sha256 (before ++ served :: after) outbox) before +
          call.maximumWindows = totalDue later outbox before := by
  rcases distinct_append distinct with ⟨earlier, others, apart⟩
  have same : ∀ jobId, ((machine sha256).run outbox call.others).watermark jobId =
      outbox.watermark jobId := others_watermark call.others unmarking
  unfold GenerateCall.after
  unfold GenerateCall.done at behaves ⊢
  rw [generateJobs_append] at behaves ⊢
  generalize (machine sha256).run outbox call.others = opened at same behaves ⊢
  have advance : ∀ attempt ∈ (generateJobs sha256 call.generate call.available call.now before
      call.maximumWindows opened).attempts, attempt.2.2.advances = true := by
    intro attempt member
    rw [(behaves attempt (then_attempts member)).advances]
    apply clear attempt.1 (generateJobs_jobs before _ _ attempt member)
    apply dueAt_mono ends
    exact (dueAt_congr (same _)).mp (generateJobs_due earlier _ _ attempt member)
  rcases generateJobs_counts earlier ends call.maximumWindows opened advance with ⟨through, count⟩
  rw [then_through through] at behaves ⊢
  have kept : (Steps.last opened (generateJobs sha256 call.generate call.available call.now before
      call.maximumWindows opened).steps).watermark served.snapshot.jobId =
        outbox.watermark served.snapshot.jobId := by
    rw [generateJobs_others before _ _ (fun job member =>
      (apart job member served List.mem_cons_self).symm), same]
  rcases Nat.eq_zero_or_pos (call.maximumWindows - (generateJobs sha256 call.generate
    call.available call.now before call.maximumWindows opened).attempts.length) with spent | left
  · right
    dsimp only
    rw [spent, generateJobs_zero, List.append_nil]
    refine ⟨?_, ?_, ?_⟩
    · rw [currentWatermark_congr kept]
      exact current
    · intro job member window due
      exact (dueAt_congr (same _)).mp (generateJobs_dueAt earlier _ _ member due)
    · have most : (generateJobs sha256 call.generate call.available call.now before
          call.maximumWindows opened).attempts.length ≤ call.maximumWindows :=
        generateJobs_length before call.maximumWindows opened
      have total : totalDue later opened before = totalDue later outbox before :=
        totalDue_congr (fun job _ => same job.snapshot.jobId)
      omega
  · left
    rcases Nat.exists_eq_add_of_lt left with ⟨budget, amount⟩
    rw [Nat.zero_add] at amount
    rw [amount] at behaves ⊢
    have due : dueWindow call.now (Steps.last opened (generateJobs sha256 call.generate
        call.available call.now before call.maximumWindows opened).steps) served =
          some (windowFrom served mark.completedThrough) := by
      apply dueWindow_of
      · rw [currentWatermark_congr kept]
        exact current
      · exact settled.trans begun
    rcases generateJobs_tries sha256 after call.generate call.available enabled due budget with
      ⟨outcome, member⟩
    have tried := List.mem_append_right (generateJobs sha256 call.generate call.available call.now
      before call.maximumWindows opened).attempts member
    have generated := (behaves _ tried).serves rfl
    dsimp only at generated
    rw [generated] at tried
    exact tried

theorem calls_serve (calls : List (GenerateCall Query))
    (distinct : Distinct (before ++ served :: after))
    (enabled : served.enabled = true) (current : currentWatermark outbox served = some mark)
    (settled : (windowFrom served mark.completedThrough).finish + generationSettleDelay ≤ start)
    (times : ∀ call ∈ calls, start ≤ call.now ∧ call.now ≤ later)
    (unmarking : ∀ call ∈ calls, Unmarking call.others)
    (behaves : ∀ attempt ∈ attemptsOf sha256 (before ++ served :: after) outbox calls,
      Behaves advancing served attempt)
    (clear : ∀ job ∈ before, ∀ window, DueAt later outbox job window →
      advancing job.snapshot.jobId window = true)
    (enough : totalDue later outbox before < (calls.map GenerateCall.maximumWindows).sum) :
    (served, windowFrom served mark.completedThrough, .generated) ∈
      attemptsOf sha256 (before ++ served :: after) outbox calls := by
  induction calls generalizing outbox with
  | nil => exact absurd enough (Nat.not_lt_zero _)
  | cons call calls ih =>
      rcases call_progress distinct enabled current settled (times call List.mem_cons_self).1
        (times call List.mem_cons_self).2 (unmarking call List.mem_cons_self) clear
        (fun attempt member => behaves attempt (List.mem_append_left _ member)) with
        reached | ⟨still, shrinks, count⟩
      · exact List.mem_append_left _ reached
      · apply List.mem_append_right
        apply ih still (fun other member => times other (List.mem_cons_of_mem call member))
          (fun other member => unmarking other (List.mem_cons_of_mem call member))
          (fun attempt member => behaves attempt (List.mem_append_right _ member))
        · intro job member window due
          exact clear job member window (shrinks job member window due)
        · rw [List.map_cons, List.sum_cons] at enough
          omega

theorem call_stuck {earlier rest : List (ScheduledJob Query)} {blocker : ScheduledJob Query}
    {window : UtcWindow} (distinct : Distinct (earlier ++ blocker :: rest))
    (due : DueAt start outbox blocker window) (begun : start ≤ call.now)
    (unmarking : Unmarking call.others)
    (fails : ∀ attempt ∈ (call.done sha256 (earlier ++ blocker :: rest) outbox).attempts,
      attempt.1 = blocker → attempt.2.1 = window → attempt.2.2.advances = false) :
    (∀ attempt ∈ (call.done sha256 (earlier ++ blocker :: rest) outbox).attempts,
        attempt.1 ∈ earlier ++ [blocker]) ∧
      DueAt start (call.after sha256 (earlier ++ blocker :: rest) outbox) blocker window := by
  rcases distinct_append distinct with ⟨-, others, apart⟩
  have same : ∀ jobId, ((machine sha256).run outbox call.others).watermark jobId =
      outbox.watermark jobId := others_watermark call.others unmarking
  unfold GenerateCall.after
  unfold GenerateCall.done at fails ⊢
  rw [generateJobs_append] at fails ⊢
  generalize (machine sha256).run outbox call.others = opened at same fails ⊢
  have within : ∀ attempt ∈ (generateJobs sha256 call.generate call.available call.now earlier
      call.maximumWindows opened).attempts, attempt.1 ∈ earlier ++ [blocker] := by
    intro attempt member
    exact List.mem_append_left _ (generateJobs_jobs earlier _ _ attempt member)
  have kept : (Steps.last opened (generateJobs sha256 call.generate call.available call.now
      earlier call.maximumWindows opened).steps).watermark blocker.snapshot.jobId =
        outbox.watermark blocker.snapshot.jobId := by
    rw [generateJobs_others earlier _ _ (fun job member =>
      (apart job member blocker List.mem_cons_self).symm), same]
  cases through : (generateJobs sha256 call.generate call.available call.now earlier
      call.maximumWindows opened).halted with
  | true =>
      have done : ∀ rest, (generateJobs sha256 call.generate call.available call.now earlier
          call.maximumWindows opened).then opened call.maximumWindows rest =
            generateJobs sha256 call.generate call.available call.now earlier
              call.maximumWindows opened := fun _ => if_pos through
      rw [done]
      exact ⟨within, (dueAt_congr kept).mpr due⟩
  | false =>
      rw [then_through through] at fails ⊢
      generalize call.maximumWindows - (generateJobs sha256 call.generate call.available call.now
        earlier call.maximumWindows opened).attempts.length = left at fails ⊢
      rw [steps_last_append]
      generalize Steps.last opened (generateJobs sha256 call.generate call.available call.now
        earlier call.maximumWindows opened).steps = reached at kept fails ⊢
      have own := (dueAt_congr kept).mpr due
      rcases generateJob_stuck sha256 call.generate call.available
        (others.positive blocker List.mem_cons_self) begun left reached own
        (fun attempt member => fails attempt
          (List.mem_append_right _ (generateJobs_first due.1 left reached attempt member))
          (attempts_job blocker left reached attempt member)) with ⟨stuck, still⟩
      rw [generateJobs_alone due.1 left reached stuck]
      refine ⟨?_, still⟩
      intro attempt member
      rcases List.mem_append.mp member with first | second
      · exact within attempt first
      · rw [attempts_job blocker left reached attempt second]
        exact List.mem_append_right _ List.mem_cons_self

theorem calls_stuck {earlier rest : List (ScheduledJob Query)} {blocker : ScheduledJob Query}
    {window : UtcWindow} (calls : List (GenerateCall Query))
    (distinct : Distinct (earlier ++ blocker :: rest)) (due : DueAt start outbox blocker window)
    (begun : ∀ call ∈ calls, start ≤ call.now) (unmarking : ∀ call ∈ calls, Unmarking call.others)
    (fails : ∀ attempt ∈ attemptsOf sha256 (earlier ++ blocker :: rest) outbox calls,
      attempt.1 = blocker → attempt.2.1 = window → attempt.2.2.advances = false) :
    ∀ attempt ∈ attemptsOf sha256 (earlier ++ blocker :: rest) outbox calls,
      attempt.1 ∈ earlier ++ [blocker] := by
  induction calls generalizing outbox with
  | nil =>
      intro attempt member
      cases member
  | cons call calls ih =>
      rcases call_stuck distinct due (begun call List.mem_cons_self)
        (unmarking call List.mem_cons_self) (fun attempt member =>
          fails attempt (List.mem_append_left _ member)) with ⟨within, still⟩
      intro attempt member
      rcases List.mem_append.mp member with first | later
      · exact within attempt first
      · exact ih still (fun other inside => begun other (List.mem_cons_of_mem call inside))
          (fun other inside => unmarking other (List.mem_cons_of_mem call inside))
          (fun other inside => fails other (List.mem_append_right _ inside)) attempt later

end Calls

/-- Among calls of `generate_due` at times from `start` to `later`, a job whose window is due
gets it generated when all windows that are due before it go through and the calls together
have room for more windows than these; and it is tried at all only if no window that was due
before it from the start keeps failing. -/
theorem job_served {Query : Type} (sha256 : Body → String)
    (advancing : String → UtcWindow → Bool) (before after : List (ScheduledJob Query))
    (served : ScheduledJob Query) (outbox : Outbox) (calls : List (GenerateCall Query))
    (mark : JobWatermark) (start later : UtcNanoseconds)
    (distinct : Distinct (before ++ served :: after)) (enabled : served.enabled = true)
    (current : currentWatermark outbox served = some mark)
    (settled : (windowFrom served mark.completedThrough).finish + generationSettleDelay ≤ start)
    (times : ∀ call ∈ calls, start ≤ call.now ∧ call.now ≤ later)
    (unmarking : ∀ call ∈ calls, Unmarking call.others)
    (behaves : ∀ attempt ∈ attemptsOf sha256 (before ++ served :: after) outbox calls,
      Behaves advancing served attempt) :
    ((∀ job ∈ before, ∀ window, DueAt later outbox job window →
        advancing job.snapshot.jobId window = true) →
      totalDue later outbox before < (calls.map GenerateCall.maximumWindows).sum →
        (served, windowFrom served mark.completedThrough, .generated) ∈
          attemptsOf sha256 (before ++ served :: after) outbox calls) ∧
    ((∃ attempt ∈ attemptsOf sha256 (before ++ served :: after) outbox calls,
        attempt.1 = served) →
      ∀ job ∈ before, ∀ window, DueAt start outbox job window →
        advancing job.snapshot.jobId window = true) := by
  constructor
  · exact calls_serve calls distinct enabled current settled times unmarking behaves
  · intro tried job member window due
    rcases tried with ⟨attempt, inside, same⟩
    by_contra fails
    rw [Bool.not_eq_true] at fails
    rcases List.append_of_mem member with ⟨earlier, between, split⟩
    have shape : before ++ served :: after = earlier ++ job :: (between ++ served :: after) := by
      rw [split, List.append_assoc, List.cons_append]
    rw [shape] at distinct inside behaves
    have within := calls_stuck calls distinct due (fun call known => (times call known).1)
      unmarking (fun other known blocker held => by
        rw [(behaves other known).advances, blocker, held]
        exact fails) attempt inside
    rw [same] at within
    rcases distinct_append distinct with ⟨-, others, apart⟩
    have late : served ∈ between ++ served :: after :=
      List.mem_append_right _ List.mem_cons_self
    rcases List.mem_append.mp within with first | second
    · exact apart served first served (List.mem_cons_of_mem job late) rfl
    · exact (distinct_cons others).2 served late (by rw [List.mem_singleton.mp second])

/-- Local jobs with ten-second windows, applied at time 0. -/
def localJob (jobId : String) : ScheduledJob Unit :=
  ⟨⟨jobId, 1, 10000000000, .json, ()⟩, true, true, []⟩

def startedOutbox : Outbox :=
  ((engineMachine Unit plainChecksum).run {} [.outbox (.call (.initializeOutbox (fun _ => true))),
    .applyJobs 0 [localJob "a"], .applyJobs 0 [localJob "b"]]).outbox

def workingSource : Datalogger Unit := fun job window now =>
  .ok { artifactId := job.jobId, jobId := job.jobId, jobRevision := job.revision
        generatedAt := now, artifactWindow := window, productId := "p", deviceId := "d"
        sourcePeriod := .basic, format := job.format }

def brokenSource : Datalogger Unit := fun job window now =>
  if job.jobId = "a" then .error (.datalogError .sourceUnavailable "historian query failed")
  else workingSource job window now

/-- A call of `generate_due` with its default limit when the first windows are due. -/
def firstCall (source : Datalogger Unit) : GenerateCall Unit :=
  ⟨[], 40000000000, 4, source, 1000000000⟩

theorem working_jobs_served :
    (localJob "b", windowFrom (localJob "b") 0, .generated) ∈
      attemptsOf plainChecksum [localJob "a", localJob "b"] startedOutbox
        [firstCall workingSource] := by
  have generated : (attemptsOf plainChecksum [localJob "a", localJob "b"] startedOutbox
      [firstCall workingSource]).all (fun attempt => decide (attempt.2.2 = .generated)) = true := by
    decide +kernel
  have current : currentWatermark startedOutbox (localJob "b") = some ⟨"b", 1, 0⟩ := by
    decide +kernel
  have due : totalDue 40000000000 startedOutbox [localJob "a"] = 1 := by
    decide +kernel
  apply (job_served plainChecksum (fun _ _ => true) [localJob "a"] [] (localJob "b") startedOutbox
    [firstCall workingSource] ⟨"b", 1, 0⟩ 40000000000 40000000000 _ rfl current (by decide) _ _
    _).1
  · intro job _ window _
    rfl
  · rw [due]
    decide
  · constructor
    · simp [localJob]
    · intro job member
      simp only [List.cons_append, List.nil_append, List.mem_cons, List.not_mem_nil,
        or_false] at member
      rcases member with same | same
      · rw [same]
        decide
      · rw [same]
        decide
  · intro call member
    rw [List.mem_singleton.mp member]
    exact ⟨le_refl _, le_refl _⟩
  · intro call member event inside
    rw [List.mem_singleton.mp member] at inside
    cases inside
  · intro attempt member
    have outcome := List.all_eq_true.mp generated attempt member
    rw [decide_eq_true_eq] at outcome
    constructor
    · rw [outcome]
      rfl
    · intro _
      exact outcome

/-- Five calls, more than the one window that is due before it, never try the second job, which
alone would be served at once. -/
theorem failing_job_starves_next :
    totalDue 40000000000 startedOutbox [localJob "a"] = 1 ∧
      (attemptsOf plainChecksum [localJob "a", localJob "b"] startedOutbox
        (List.replicate 5 (firstCall brokenSource))).map (fun attempt =>
          (attempt.1.snapshot.jobId, attempt.2.2.advances)) = List.replicate 5 ("a", false) ∧
      (attemptsOf plainChecksum [localJob "b"] startedOutbox
        [firstCall brokenSource]).map (fun attempt =>
          (attempt.1.snapshot.jobId, attempt.2.2)) = [("b", .generated)] := by
  decide +kernel

end Msap1.DataSender
