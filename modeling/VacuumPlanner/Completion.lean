import VacuumPlanner.Commands

/-!
# Only a witnessed run counts as cleaning

A room is clean since the last time a job of it was *seen to run* and then completed. The
three clauses of `WitnessedRun` say so of every run of commands: a completion timestamp
moves only together with a job that goes from `RUNNING` to `COMPLETED` in the same step,
and then to the later of its old value and that completion; nothing but a running job is
ever completed; and a job that was uncertain is completed only after it was dispatched
again.

The first clause is about one command, `_completed`, which completes several jobs in one
step; `RoomsWitnessed.trans` composes them, and works because all of them carry the
instant of the report. The other two are read off the table of moves: `COMPLETED` is
entered from `RUNNING` only, and an uncertain job can only fail, and a failed one only be
dispatched.
-/

namespace VacuumPlanner

open Framework

variable {s s' s₁ : PlannerState} {observedAt : Instant}

/-! ### Timestamps and the jobs that move them -/

/-- The job `j` runs in `s` and is completed at `finishedAt` in `s'`, at the same place of
the ledger. -/
structure CompletedHere (s s' : PlannerState) (finishedAt : Instant) (j j' : QueueJob) :
    Prop where
  position : ∃ i : ℕ, s.ledger.jobs[i]? = some j ∧ s'.ledger.jobs[i]? = some j'
  before : j.state = .running
  after : j'.state = .completed
  finishedAt : j'.finishedAt = some finishedAt

/-- One completion timestamp of a room: it is unchanged, or a job of the room whose mode
counts completed in this step, and it is the later of its old value and that
completion. -/
def TimestampWitnessed (s s' : PlannerState) (finishedAt : Instant) (areaId : String)
    (counts : Mode → Prop) (old new : Option Instant) : Prop :=
  new = old ∨ ((∃ j j', CompletedHere s s' finishedAt j j' ∧ j.areaId = areaId ∧
    counts j.mode) ∧ new = some (latestCompletion old finishedAt))

/-- Both timestamps of a room. -/
structure RoomWitnessed (s s' : PlannerState) (finishedAt : Instant) (room room' : RoomPlan) :
    Prop where
  areaId : room'.areaId = room.areaId
  vacuum : TimestampWitnessed s s' finishedAt room.areaId (fun _ => True)
    room.lastCompletedVacuumAt room'.lastCompletedVacuumAt
  mop : TimestampWitnessed s s' finishedAt room.areaId (· = .vacuumAndMop)
    room.lastCompletedVacuumAndMopAt room'.lastCompletedVacuumAndMopAt

/-- The rooms of a step: the same rooms in the same places, with witnessed timestamps. -/
structure RoomsWitnessed (s s' : PlannerState) (finishedAt : Instant) : Prop where
  count : s'.planRevision.roomPlans.length = s.planRevision.roomPlans.length
  rooms : Extends (RoomWitnessed s s' finishedAt) s.planRevision.roomPlans
    s'.planRevision.roomPlans

theorem RoomsWitnessed.of_plan (h : s'.planRevision = s.planRevision) :
    RoomsWitnessed s s' observedAt where
  count := by rw [h]
  rooms := by
    rw [h]
    exact Extends.refl fun _ _ => ⟨rfl, Or.inl rfl, Or.inl rfl⟩

theorem RoomsWitnessed.of_revised (h : PlanRevised s s') : RoomsWitnessed s s' observedAt where
  count := h.count
  rooms := h.rooms.mono fun _ _ _ _ h_same =>
    ⟨h_same.areaId, Or.inl h_same.vacuum, Or.inl h_same.mop⟩

/-! ### Composing completions -/

section Compose

/-- The moves of a report that the vacuum has finished. -/
abbrev Completes (s s' : PlannerState) : Prop :=
  Rewrites (JobMoved (movesTo .completed)) s.ledger s'.ledger

theorem completed_cases {state state' : JobState} (h : (state, state') ∈ movesTo .completed) :
    state = .running ∧ state' = .completed := by
  revert h
  cases state <;> cases state' <;> decide

/-- A completed job stays as it is when more jobs are completed. -/
theorem CompletedHere.extend_right {j j' : QueueJob} (h : CompletedHere s s₁ observedAt j j')
    (h_rest : Completes s₁ s') : CompletedHere s s' observedAt j j' := by
  obtain ⟨i, h_i, h_i'⟩ := h.position
  obtain ⟨j₂, h_j₂, h_or⟩ := h_rest.jobs.exists_getElem? h_i'
  rcases h_or with rfl | h_moved
  · exact ⟨⟨i, h_i, h_j₂⟩, h.before, h.after, h.finishedAt⟩
  · have h_running := (completed_cases h_moved.move).1
    rw [h.after] at h_running
    exact absurd h_running (by decide)

/-- A job that runs after some jobs were completed ran before. -/
theorem CompletedHere.extend_left {j j' : QueueJob} (h_first : Completes s s₁)
    (h : CompletedHere s₁ s' observedAt j j') : CompletedHere s s' observedAt j j' := by
  obtain ⟨i, h_i, h_i'⟩ := h.position
  have h_lt : i < s.ledger.jobs.length := by
    rw [← h_first.jobCount]
    exact (List.getElem?_eq_some_iff.mp h_i).1
  obtain ⟨j₀, h_j₀, h_or⟩ := h_first.jobs.getElem?_of_lt h_lt h_i
  rcases h_or with rfl | h_moved
  · exact ⟨⟨i, h_j₀, h_i'⟩, h.before, h.after, h.finishedAt⟩
  · have h_completed := (completed_cases h_moved.move).2
    rw [h.before] at h_completed
    exact absurd h_completed (by decide)

variable {areaId : String} {counts : Mode → Prop} {old mid new : Option Instant}

theorem TimestampWitnessed.trans (h_first : Completes s s₁) (h_rest : Completes s₁ s')
    (h : TimestampWitnessed s s₁ observedAt areaId counts old mid)
    (h' : TimestampWitnessed s₁ s' observedAt areaId counts mid new) :
    TimestampWitnessed s s' observedAt areaId counts old new := by
  rcases h with rfl | ⟨⟨j, j', h_here, h_area, h_counts⟩, rfl⟩
  · -- nothing so far: the witness of the second part ran before the first
    rcases h' with rfl | ⟨⟨j, j', h_here, h_job⟩, rfl⟩
    · exact Or.inl rfl
    · exact Or.inr ⟨⟨j, j', h_here.extend_left h_first, h_job⟩, rfl⟩
  · -- the witness of the first part is untouched by the second
    right
    refine ⟨⟨j, j', h_here.extend_right h_rest, h_area, h_counts⟩, ?_⟩
    rcases h' with rfl | ⟨-, rfl⟩
    · rfl
    · rw [latestCompletion_idem]

theorem RoomsWitnessed.trans (h_first : Completes s s₁) (h_rest : Completes s₁ s')
    (h : RoomsWitnessed s s₁ observedAt) (h' : RoomsWitnessed s₁ s' observedAt) :
    RoomsWitnessed s s' observedAt where
  count := h'.count.trans h.count
  rooms := by
    refine h.rooms.trans h'.rooms fun room _ room₁ _ room' _ h_room h_room' => ?_
    have h_area := h_room.areaId
    refine ⟨h_room'.areaId.trans h_area, ?_, ?_⟩
    · exact h_room.vacuum.trans h_first h_rest (h_area ▸ h_room'.vacuum)
    · exact h_room.mop.trans h_first h_rest (h_area ▸ h_room'.mop)

end Compose

/-- **One completion** moves the timestamps of its room and no other. -/
theorem completeRunningJob_witnessed {entry : String × String}
    (h : completeRunningJob observedAt s entry = .ok s') : RoomsWitnessed s s' observedAt := by
  obtain ⟨result, h_result, h_state⟩ := bind_eq_ok.mp h
  obtain ⟨h_plan, h_ledger⟩ := PlannerState.construct_eq_ok.mp h_state
  obtain ⟨j, hj, h_id, h_running, parent, -, -, C, h_C, h_closed, h_rooms⟩ :=
    completeJobAndAdvancePlan_ok h_result
  obtain ⟨i, h_i⟩ := List.getElem?_of_mem hj
  -- the completed job is still at its place once the block is closed
  have h_here : CompletedHere s s' observedAt j
      (QueueLedger.changedJob .completed observedAt none none none j) := by
    obtain ⟨-, -, -, -, -, -, -, -, -, -, -, -, h_fields⟩ :=
      QueueLedger.replaceJobState_eq_ok.mp h_C
    have h_jobs : s'.ledger.jobs = C.jobs := by
      rw [h_ledger]
      rcases closeCompletedBlock_ok h_closed with ⟨-, h_same⟩ | ⟨-, h_jobs, -⟩
      · rw [h_same]
      · exact h_jobs
    refine ⟨⟨i, h_i, ?_⟩, h_running, rfl, rfl⟩
    rw [h_jobs, (congrArg LedgerFields.jobs h_fields : C.jobs = _), List.getElem?_map, h_i,
      Option.map_some, updateIf_pos (by simpa using h_id)]
  have h_rooms : s'.planRevision.roomPlans = _ := (h_plan ▸ h_rooms)
  refine ⟨by rw [h_rooms, List.length_map], ?_⟩
  rw [h_rooms]
  -- only the room of the job is advanced, and it has the job as its witness
  refine Extends.map fun room _ => ?_
  by_cases h_area : room.areaId = j.areaId
  · rw [updateIf_pos (by simpa using h_area)]
    refine ⟨rfl, Or.inr ⟨⟨j, _, h_here, h_area.symm, trivial⟩, rfl⟩, ?_⟩
    by_cases h_mode : j.mode = .vacuumAndMop
    · exact Or.inr ⟨⟨j, _, h_here, h_area.symm, h_mode⟩, if_pos h_mode⟩
    · exact Or.inl (if_neg h_mode)
  · rw [updateIf_neg (by simpa using h_area)]
    exact ⟨rfl, Or.inl rfl, Or.inl rfl⟩

theorem completeRunningJobs_witnessed {entries : List (String × String)}
    (h : entries.foldlM (completeRunningJob observedAt) s = .ok s') :
    RoomsWitnessed s s' observedAt := by
  induction entries generalizing s with
  | nil =>
    obtain rfl : s = s' := pure_eq_ok.mp h
    exact RoomsWitnessed.of_plan rfl
  | cons entry entries ih =>
    rw [List.foldlM_cons] at h
    obtain ⟨s₁, h₁, h_rest⟩ := bind_eq_ok.mp h
    exact (completeRunningJob_witnessed h₁).trans (completeRunningJob_rewrites h₁)
      (completeRunningJobs_rewrites h_rest) (ih h_rest)

/-- **Every command** leaves the timestamps alone or moves them with a witness. -/
theorem StateCommand.run_witnessed {c : StateCommand} (h : c.run s = .ok s') :
    ∃ finishedAt, RoomsWitnessed s s' finishedAt := by
  cases c with
  | ledger command =>
    -- a command of the ledger has no rooms to move, so any instant will do
    obtain ⟨L', -, h_state⟩ := bind_eq_ok.mp h
    exact ⟨0, RoomsWitnessed.of_plan (PlannerState.construct_eq_ok.mp h_state).1⟩
  | completeJob jobId completedAt =>
    exact ⟨completedAt, completeRunningJob_witnessed h⟩
  | observe outcome observedAt revisionIds =>
    refine ⟨observedAt, ?_⟩
    cases outcome with
    | running => exact RoomsWitnessed.of_plan (observeRunning_ok h).1
    | completed => exact completeRunningJobs_witnessed h
    | failed => exact RoomsWitnessed.of_plan (observeFailed_ok h).plan
    | uncertain => exact RoomsWitnessed.of_plan (observeUncertain_ok h).plan
  | cancelPendingBlock =>
    obtain ⟨b, -, -, -, h_plan, -⟩ := cancelPendingBlock_ok h
    exact ⟨0, RoomsWitnessed.of_plan h_plan⟩
  | recordDispatchAcceptance =>
    obtain ⟨b, -, -, ⟨-, rfl⟩ | ⟨-, h_plan, -⟩⟩ := recordDispatchAcceptance_ok h
    · exact ⟨0, RoomsWitnessed.of_plan rfl⟩
    · exact ⟨0, RoomsWitnessed.of_plan h_plan⟩
  | recordUncertain =>
    obtain ⟨b, -, -, ⟨-, rfl⟩ | ⟨h_plan, -⟩⟩ := recordUncertain_ok h
    · exact ⟨0, RoomsWitnessed.of_plan rfl⟩
    · exact ⟨0, RoomsWitnessed.of_plan h_plan⟩
  | postponeArea => exact ⟨0, RoomsWitnessed.of_revised (postponeArea_ok h)⟩
    -- the actions revise the plan, but no completion time
  | skipAreaToday => exact ⟨0, RoomsWitnessed.of_revised (skipAreaToday_ok h)⟩
  | setNativeValue => exact ⟨0, RoomsWitnessed.of_revised (setNativeValue_ok h)⟩

/-! ### Completed jobs and uncertain jobs -/

/-- What a command may do to the job at one place: a job that is there is untouched or
moved, and a new one is pending. -/
theorem RewritesOrSeals.job_cases {L L' : QueueLedger} (h : RewritesOrSeals L L') {i : ℕ}
    {j' : QueueJob} (h_j' : L'.jobs[i]? = some j') :
    (∃ j, L.jobs[i]? = some j ∧ (j' = j ∨ CommandMove L j j')) ∨
      (L.jobs.length ≤ i ∧ j'.state = .pending) := by
  rcases h with h_step | ⟨block, children, h_step⟩
  · have h_lt : i < L.jobs.length := by
      rw [← h_step.jobCount]
      exact (List.getElem?_eq_some_iff.mp h_j').1
    exact Or.inl (h_step.jobs.getElem?_of_lt h_lt h_j')
  · rw [h_step.jobs] at h_j'
    rcases Nat.lt_or_ge i L.jobs.length with h_lt | h_ge
    · rw [List.getElem?_append_left h_lt] at h_j'
      exact Or.inl ⟨j', h_j', Or.inl rfl⟩
    · rw [List.getElem?_append_right h_ge] at h_j'
      exact Or.inr ⟨h_ge, (h_step.pending j' (List.mem_of_getElem? h_j')).2.1⟩

/-- `COMPLETED` is entered from `RUNNING` only. -/
theorem completed_of_move {L : QueueLedger} {j j' : QueueJob} (h : j' = j ∨ CommandMove L j j')
    (h_completed : j'.state = .completed) : j.state = .completed ∨ j.state = .running := by
  rcases h with rfl | h_moved | ⟨⟨sentAt, h_sent⟩, -⟩
  · exact Or.inl h_completed
  · right
    have h_move := h_moved.move
    rw [h_completed] at h_move
    revert h_move
    cases j.state <;> decide
  · rw [h_sent.state] at h_completed
    exact absurd h_completed (by decide)

/-- A job that was uncertain and has not been dispatched since: it is uncertain or it has
failed, in the attempt it was uncertain in. -/
def Doubtful (attempt : ℤ) (i : ℕ) (s : PlannerState) : Prop :=
  ∃ j, s.ledger.jobs[i]? = some j ∧ j.attempt = attempt ∧ j.state ∈ [JobState.uncertain, .failed]

/-- A doubtful job leaves its doubt by a dispatch only. -/
theorem Doubtful.step {attempt : ℤ} {i : ℕ} {j' : QueueJob} (h : Doubtful attempt i s)
    (h_step : RewritesOrSeals s.ledger s'.ledger) (h_j' : s'.ledger.jobs[i]? = some j') :
    Doubtful attempt i s' ∨ (j'.state = .dispatching ∧ j'.attempt = attempt + 1) := by
  obtain ⟨j, h_j, h_attempt, h_state⟩ := h
  rcases h_step.job_cases h_j' with ⟨j₀, h_j₀, h_move⟩ | ⟨h_ge, -⟩
  · obtain rfl : j = j₀ := Option.some.inj (h_j.symm.trans h_j₀)
    rcases h_move with rfl | h_moved | ⟨⟨sentAt, h_sent⟩, -⟩
    · exact Or.inl ⟨_, h_j', h_attempt, h_state⟩
    · left
      refine ⟨j', h_j', h_moved.attempt.trans h_attempt, ?_⟩
      have h_move := h_moved.move
      revert h_state h_move
      cases j.state <;> cases j'.state <;> decide
    · exact Or.inr ⟨h_sent.state, by rw [h_sent.attempt, h_attempt]⟩
  · rw [List.getElem?_eq_none h_ge] at h_j
    exact absurd h_j (by simp)

/-! ### Runs -/

/-- **Only a witnessed run counts as cleaning**, of a run of commands from `s`. -/
structure WitnessedRun (s : PlannerState) (commands : List StateCommand) : Prop where
  /-- A completion timestamp moves with a job that completes in the same step. -/
  rooms : ∀ n, ∃ finishedAt, RoomsWitnessed (stateAt StateCommand.run s commands n)
    (stateAt StateCommand.run s commands (n + 1)) finishedAt
  /-- A job reaches `COMPLETED` only from `RUNNING`. -/
  completed : ∀ (n i : ℕ) (j' : QueueJob),
    (stateAt StateCommand.run s commands (n + 1)).ledger.jobs[i]? = some j' →
      j'.state = .completed → ∃ j, (stateAt StateCommand.run s commands n).ledger.jobs[i]? =
        some j ∧ (j.state = .completed ∨ j.state = .running)
  /-- Between being uncertain and being completed a job was dispatched again, with a
  larger attempt. -/
  redispatched : ∀ (m n i : ℕ) (j j' : QueueJob), m ≤ n →
    (stateAt StateCommand.run s commands m).ledger.jobs[i]? = some j → j.state = .uncertain →
      (stateAt StateCommand.run s commands n).ledger.jobs[i]? = some j' →
        j'.state = .completed → ∃ k, m ≤ k ∧ k < n ∧ ∃ before after : QueueJob,
          (stateAt StateCommand.run s commands k).ledger.jobs[i]? = some before ∧
          (stateAt StateCommand.run s commands (k + 1)).ledger.jobs[i]? = some after ∧
          before.state ≠ .dispatching ∧ after.state = .dispatching ∧ j.attempt < after.attempt

theorem stateAt_rewritesOrSeals (s : PlannerState) (commands : List StateCommand) (n : ℕ) :
    RewritesOrSeals (stateAt StateCommand.run s commands n).ledger
      (stateAt StateCommand.run s commands (n + 1)).ledger := by
  rcases stateAt_succ_cases StateCommand.run s commands n with h_same | ⟨c, -, h_run⟩
  · rw [h_same]
    exact Or.inl (Rewrites.refl _)
  · exact StateCommand.run_cases h_run

/-- No job is lost. -/
theorem RewritesOrSeals.exists_job {L L' : QueueLedger} (h : RewritesOrSeals L L') {i : ℕ}
    {j : QueueJob} (h_j : L.jobs[i]? = some j) : ∃ j', L'.jobs[i]? = some j' := by
  rcases h with h_step | ⟨block, children, h_step⟩
  · obtain ⟨j', h_j', -⟩ := h_step.jobs.exists_getElem? h_j
    exact ⟨j', h_j'⟩
  · rw [h_step.jobs, List.getElem?_append_left (List.getElem?_eq_some_iff.mp h_j).1]
    exact ⟨j, h_j⟩

/-- **Only a witnessed run counts as cleaning.** From any planner state, one with an empty
ledger included, whatever commands follow and however many of them raise. -/
theorem only_witnessed_run_counts (s : PlannerState) (commands : List StateCommand) :
    WitnessedRun s commands where
  rooms n := by
    rcases stateAt_succ_cases StateCommand.run s commands n with h_same | ⟨c, -, h_run⟩
    · rw [h_same]
      exact ⟨0, RoomsWitnessed.of_plan rfl⟩
    · exact StateCommand.run_witnessed h_run
  completed n i j' h_j' h_completed := by
    rcases (stateAt_rewritesOrSeals s commands n).job_cases h_j' with
      ⟨j, h_j, h_move⟩ | ⟨-, h_pending⟩
    · exact ⟨j, h_j, completed_of_move h_move h_completed⟩
    · rw [h_completed] at h_pending
      exact absurd h_pending (by decide)
  redispatched m n i j j' h_le h_j h_uncertain h_j' h_completed := by
    -- the job is in doubt at the one end, and not at the other
    have h_m : Doubtful j.attempt i (stateAt StateCommand.run s commands m) :=
      ⟨j, h_j, rfl, by rw [h_uncertain]; decide⟩
    have h_n : ¬ Doubtful j.attempt i (stateAt StateCommand.run s commands n) := by
      rintro ⟨j'', h_j'', -, h_state⟩
      obtain rfl : j' = j'' := Option.some.inj (h_j'.symm.trans h_j'')
      rw [h_completed] at h_state
      exact absurd h_state (by decide)
    -- the step that leaves the doubt is the new dispatch
    obtain ⟨k, h_mk, h_kn, h_k, h_k'⟩ := exists_leaving_step
      (P := fun k => Doubtful j.attempt i (stateAt StateCommand.run s commands k)) h_le h_m h_n
    have h_step := stateAt_rewritesOrSeals s commands k
    obtain ⟨before, h_before, -, h_state⟩ := id h_k
    obtain ⟨after, h_after⟩ := h_step.exists_job h_before
    rcases h_k.step h_step h_after with h_doubt | ⟨h_dispatching, h_attempt⟩
    · exact absurd h_doubt h_k'
    · refine ⟨k, h_mk, h_kn, before, after, h_before, h_after, ?_, h_dispatching, ?_⟩
      · revert h_state
        cases before.state <;> decide
      · rw [h_attempt]
        omega

end VacuumPlanner
