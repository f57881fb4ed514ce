import VacuumPlanner.Lanes

/-!
# The commit boundary

A native batch crosses the commit boundary when its claim is recorded: the block leaves
`SEALED` and every job of it carries `attempt = 1` and a `sent_at` (`Launched`). From there
on the block may be with the vacuum; it is while it is `COMMITTING`, `COMMITTED` or
`RUNNING` (`InFlight`).

The commands of the integration never take a block back over the boundary (`Advances`).
Only some of them take it out of flight (`KeepsInFlight` is about the others): the reports
of the vacuum, and the quarantine of the block itself.
-/

namespace VacuumPlanner

open Framework

/-- The block has left the sealed state and all its jobs have been sent, once. -/
def Launched (L : QueueLedger) (blockId : String) : Prop :=
  ∃ block ∈ L.blocks, block.blockId = blockId ∧ block.state.early = false ∧
    ∀ job ∈ L.jobs, job.blockId = blockId → job.attempt = 1 ∧ job.sentAt ≠ none

/-- The states of a block that may be with the vacuum and is not in doubt. -/
def inFlightStates : List BlockState := [.committing, .committed, .running]

def InFlight (L : QueueLedger) (blockId : String) : Prop :=
  ∃ block ∈ L.blocks, block.blockId = blockId ∧ block.state ∈ inFlightStates

instance (L : QueueLedger) (blockId : String) : Decidable (Launched L blockId) :=
  inferInstanceAs (Decidable (∃ block ∈ L.blocks, block.blockId = blockId ∧
    block.state.early = false ∧
      ∀ job ∈ L.jobs, job.blockId = blockId → job.attempt = 1 ∧ job.sentAt ≠ none))

instance (L : QueueLedger) (blockId : String) : Decidable (InFlight L blockId) :=
  inferInstanceAs (Decidable (∃ block ∈ L.blocks, block.blockId = blockId ∧
    block.state ∈ inFlightStates))

/-- What every command of the integration keeps of a ledger. -/
structure Advances (L L' : QueueLedger) : Prop where
  launched : ∀ id, Launched L id → Launched L' id
  lanes : LanesOrdered L → LanesOrdered L'

/-- No block is taken out of flight. -/
def KeepsInFlight (L L' : QueueLedger) : Prop := ∀ id, InFlight L id → InFlight L' id

variable {L L' : QueueLedger} {s s' : PlannerState} {id : String}

theorem Advances.refl (L : QueueLedger) : Advances L L := ⟨fun _ => id, id⟩

theorem KeepsInFlight.refl (L : QueueLedger) : KeepsInFlight L L := fun _ h => h

/-- A sealed block has not crossed the boundary. -/
theorem not_launched {b : QueueBlock} (hb : b ∈ L.blocks) (h : b.state = .sealed) :
    ¬ Launched L b.blockId := by
  rintro ⟨b', hb', h_id, h_late, -⟩
  obtain rfl := QueueLedger.block_eq hb' hb h_id
  rw [h] at h_late
  exact nomatch h_late

/-! ### Crossing it -/

/-- A rewrite without a dispatch leaves attempts and `sent_at` alone. -/
theorem Launched.of_rewrites {moves : List (JobState × JobState)}
    (h_step : Rewrites (JobMoved moves) L L') (h : Launched L id) : Launched L' id := by
  obtain ⟨b, hb, rfl, h_late, h_jobs⟩ := h
  obtain ⟨b', hb', h_kept⟩ := h_step.blocks.exists_mem hb
  refine ⟨b', hb', blockId_of_identity h_kept.identity, h_kept.late h_late, fun j' hj' h_j' => ?_⟩
  obtain ⟨i, hi⟩ := List.getElem?_of_mem hj'
  have h_lt : i < L.jobs.length := by
    rw [← h_step.jobCount]
    exact (List.getElem?_eq_some_iff.mp hi).1
  obtain ⟨j, hj, rfl | h_moved⟩ := h_step.jobs.getElem?_of_lt h_lt hi
  · exact h_jobs _ (List.mem_of_getElem? hj) h_j'
  · rw [h_moved.attempt, h_moved.sentAt]
    refine h_jobs j (List.mem_of_getElem? hj) ?_
    rw [← h_j', parent_of_identity h_moved.identity]

theorem Advances.of_rewrites {moves : List (JobState × JobState)}
    (h_step : Rewrites (JobMoved moves) L L') : Advances L L' :=
  ⟨fun _ h => h.of_rewrites h_step, fun h => h.rewrites h_step⟩

theorem Advances.of_seals {block : QueueBlock} {children : List QueueJob}
    (h_step : BlockSealed L L' block children) : Advances L L' := by
  refine ⟨fun id h => ?_, fun h => h.seals h_step⟩
  obtain ⟨b, hb, rfl, h_late, h_jobs⟩ := h
  refine ⟨b, by rw [h_step.blocks]; exact List.mem_append_left _ hb, rfl, h_late, ?_⟩
  intro j hj h_j
  rw [h_step.jobs] at hj
  rcases List.mem_append.mp hj with h_old | h_new
  · exact h_jobs j h_old h_j
  · exact absurd (h_j.symm.trans (h_step.pending j h_new).1) (h_step.fresh hb)

/-- **The claim** takes its own block over the boundary, and no block back. -/
theorem beginNativeBatchCommit_launches {blockId : String} {sentAt : Instant}
    (h : beginNativeBatchCommit L blockId sentAt = .ok L') :
    ¬ Launched L blockId ∧ Launched L' blockId ∧ Advances L L' := by
  have h_rewrites := beginNativeBatchCommit_rewrites blockId h
  obtain ⟨b, hb, rfl, h_sealed, -, -, h_pending, h_blocks, h_jobs, -⟩ := beginNativeBatchCommit_ok h
  -- the sealed block is committing now, and its jobs are at their first attempt
  refine ⟨not_launched hb h_sealed, ?_, ⟨fun id h_id => ?_, fun h => h.rewrites h_rewrites⟩⟩
  · refine ⟨_, by rw [h_blocks]; exact List.mem_map_of_mem hb, ?_, ?_, fun j' hj' h_j' => ?_⟩
    · rw [updateIf_pos (by simp)]
    · rw [updateIf_pos (by simp)]; rfl
    · rw [h_jobs] at hj'
      obtain ⟨j, hj, rfl⟩ := List.mem_map.mp hj'
      by_cases h_parent : j.blockId = b.blockId
      · rw [updateIf_pos (by simpa using h_parent)]
        have h_attempt : j.attempt = 0 :=
          ((QueueLedger.jobLifecycle hj).pending (h_pending j hj h_parent)).1
        exact ⟨by rw [h_attempt]; rfl, nofun⟩
      · rw [updateIf_neg (by simpa using h_parent)] at h_j'
        exact absurd h_j' h_parent
  · -- A launched block is not the sealed one, so its jobs are untouched.
    have h_ne : id ≠ b.blockId := fun h_eq => not_launched hb h_sealed (h_eq ▸ h_id)
    obtain ⟨b', hb', rfl, h_late, h_sent⟩ := h_id
    refine ⟨b', ?_, rfl, h_late, fun j' hj' h_j' => ?_⟩
    · rw [h_blocks]
      exact List.mem_map.mpr ⟨b', hb', updateIf_neg (by simpa using h_ne)⟩
    · rw [h_jobs] at hj'
      obtain ⟨j, hj, rfl⟩ := List.mem_map.mp hj'
      by_cases h_parent : j.blockId = b.blockId
      · rw [updateIf_pos (by simpa using h_parent)] at h_j'
        exact absurd (h_j'.symm.trans h_parent) h_ne
      · rw [updateIf_neg (by simpa using h_parent)] at h_j' ⊢
        exact h_sent j hj h_j'

/-! ### Staying in flight -/

/-- A command that rewrites one block keeps the others in flight, and that one if it is in
flight afterwards. -/
theorem InFlight.of_updateIf {blockId : String} {f : QueueBlock → QueueBlock}
    (h_blocks : L'.blocks = L.blocks.map (updateIf (·.blockId = blockId) f))
    (h_id : ∀ b, (f b).blockId = b.blockId)
    (h_own : id = blockId → ∀ b ∈ L.blocks, b.blockId = blockId → b.state ∈ inFlightStates →
      (f b).state ∈ inFlightStates) (h : InFlight L id) : InFlight L' id := by
  obtain ⟨b, hb, rfl, h_state⟩ := h
  refine ⟨_, by rw [h_blocks]; exact List.mem_map_of_mem hb, ?_⟩
  by_cases h_b : b.blockId = blockId
  · rw [updateIf_pos (by simpa using h_b)]
    exact ⟨h_id b, h_own h_b b hb h_b h_state⟩
  · rw [updateIf_neg (by simpa using h_b)]
    exact ⟨rfl, h_state⟩

/-- A command that rewrites a block that is not in flight keeps all blocks in flight. -/
theorem KeepsInFlight.of_updateIf {b : QueueBlock} {f : QueueBlock → QueueBlock}
    (hb : b ∈ L.blocks) (h_state : b.state ∉ inFlightStates)
    (h_blocks : L'.blocks = L.blocks.map (updateIf (·.blockId = b.blockId) f))
    (h_id : ∀ b, (f b).blockId = b.blockId) : KeepsInFlight L L' := by
  refine fun id h => h.of_updateIf h_blocks h_id fun _ b' hb' h_eq h_in => ?_
  obtain rfl := QueueLedger.block_eq hb' hb h_eq
  exact absurd h_in h_state

theorem KeepsInFlight.of_seals {block : QueueBlock} {children : List QueueJob}
    (h_step : BlockSealed L L' block children) : KeepsInFlight L L' := by
  rintro id ⟨b, hb, h⟩
  exact ⟨b, by rw [h_step.blocks]; exact List.mem_append_left _ hb, h⟩

theorem beginNativeBatchCommit_inFlight {blockId : String} {sentAt : Instant}
    (h : beginNativeBatchCommit L blockId sentAt = .ok L') :
    InFlight L' blockId ∧ KeepsInFlight L L' := by
  obtain ⟨b, hb, rfl, h_sealed, -, -, -, h_blocks, -⟩ := beginNativeBatchCommit_ok h
  refine ⟨⟨_, by rw [h_blocks]; exact List.mem_map_of_mem hb, ?_⟩,
    KeepsInFlight.of_updateIf hb (by rw [h_sealed]; decide) h_blocks fun _ => rfl⟩
  rw [updateIf_pos (by simp)]
  exact ⟨rfl, show BlockState.committing ∈ inFlightStates by decide⟩

/-! ### The commands of the integration -/

/-- The seal command of `start_next` leaves the ledger alone, cancels a sealed block, or
seals a new one. -/
theorem startNextCommand_cases {call : StartNextCall} {outcome : SealOutcome}
    (h : startNextCommand call s = .ok (s', outcome)) :
    s' = s ∨ (∃ blockId now, cancelPendingBlock s blockId now = .ok s') ∨
      ∃ block children, BlockSealed s.ledger s'.ledger block children := by
  cases startNextCommand_ok h with
  | cancelled h_cancel => exact Or.inr (Or.inl ⟨_, _, h_cancel⟩)
  | existing | found => exact Or.inl rfl
  | started h_plan h_first h_start h_changed h_made =>
    obtain ⟨-, h_ledger⟩ := PlannerState.construct_eq_ok.mp h_made
    rcases startDueBlock_ok h_start with
      ⟨b, -, -, -, rfl⟩ | ⟨-, rfl⟩ | ⟨b, jobs, -, -, -, h_sealed, -⟩
    · exact absurd rfl h_changed
    · exact absurd rfl h_changed
    · rw [← h_ledger] at h_sealed
      exact Or.inr (Or.inr ⟨b, jobs, h_sealed⟩)

theorem cancelPendingBlock_advances {blockId : String} {now : Instant}
    (h : cancelPendingBlock s blockId now = .ok s') :
    Advances s.ledger s'.ledger ∧ KeepsInFlight s.ledger s'.ledger := by
  obtain ⟨b, hb, rfl, h_sealed, -, h_blocks, -, h_rewrites⟩ := cancelPendingBlock_ok h
  exact ⟨.of_rewrites h_rewrites,
    .of_updateIf hb (by rw [h_sealed]; decide) h_blocks fun _ => rfl⟩

theorem startNextCommand_advances {call : StartNextCall} {outcome : SealOutcome}
    (h : startNextCommand call s = .ok (s', outcome)) :
    Advances s.ledger s'.ledger ∧ KeepsInFlight s.ledger s'.ledger := by
  rcases startNextCommand_cases h with rfl | ⟨_, _, h_cancel⟩ | ⟨_, _, h_sealed⟩
  · exact ⟨.refl _, .refl _⟩
  · exact cancelPendingBlock_advances h_cancel
  · exact ⟨.of_seals h_sealed, .of_seals h_sealed⟩

theorem PlanRevised.advances (h : PlanRevised s s') :
    Advances s.ledger s'.ledger ∧ KeepsInFlight s.ledger s'.ledger := by
  rw [h.ledger]
  exact ⟨.refl _, .refl _⟩

theorem resolveUncertainRun_advances {jobId : String} {resolution : UncertainResolution}
    {now : Instant} (h : resolveUncertainRun s jobId resolution now = .ok s') :
    Advances s.ledger s'.ledger ∧ KeepsInFlight s.ledger s'.ledger := by
  obtain ⟨-, h⟩ := resolveUncertainRun_ok h
  have h_rewrites := resolveUncertainJob_rewrites h
  obtain ⟨j, -, -, -, b, hb, -, h_state, -, h_blocks, -⟩ := resolveUncertainJob_ok h
  exact ⟨.of_rewrites h_rewrites, .of_updateIf hb (by rw [h_state]; decide) h_blocks fun b =>
    blockId_of_identity (releasedBlock_identity ..)⟩

/-- The acceptance commits its own block, which stays in flight. -/
theorem recordDispatchAcceptance_advances {blockId : String} {jobs : List QueueJob}
    {acceptedAt : Instant} (h : recordDispatchAcceptance s blockId jobs acceptedAt = .ok s') :
    Advances s.ledger s'.ledger ∧ KeepsInFlight s.ledger s'.ledger := by
  obtain ⟨b, hb, rfl, ⟨-, rfl⟩ | ⟨-, -, h_blocks, -, h_rewrites⟩⟩ := recordDispatchAcceptance_ok h
  · exact ⟨.refl _, .refl _⟩
  · refine ⟨.of_rewrites h_rewrites, fun id h => h.of_updateIf h_blocks (fun _ => rfl) ?_⟩
    exact fun _ _ _ _ _ => show BlockState.committed ∈ inFlightStates by decide

/-- The quarantine of a dispatch takes no other block out of flight. -/
theorem recordUncertain_advances {blockId : String} {reconciledAt : Instant}
    (h : recordUncertain s blockId reconciledAt = .ok s') :
    Advances s.ledger s'.ledger ∧
      ∀ id, InFlight s.ledger id → id ≠ blockId → InFlight s'.ledger id := by
  obtain ⟨b, hb, rfl, ⟨-, rfl⟩ | ⟨-, h⟩⟩ := recordUncertain_ok h
  · exact ⟨.refl _, fun _ h _ => h⟩
  · have h_rewrites := quarantineBlockDispatch_rewrites h
    obtain ⟨-, -, -, -, -, -, -, h_blocks, -⟩ := quarantineBlockDispatch_ok h
    exact ⟨.of_rewrites h_rewrites, fun id h_id h_ne =>
      h_id.of_updateIf h_blocks (fun _ => rfl) fun h_eq => absurd h_eq h_ne⟩

theorem observe_advances {outcome : ObservationOutcome} {observedAt : Instant}
    {revisionIds : ℕ → String} (h : observe outcome observedAt revisionIds s = .ok s') :
    Advances s.ledger s'.ledger :=
  .of_rewrites (observe_rewrites h)

/-- A claim that claims. -/
theorem nativeDispatchClaim_launches {blockId : String} {now : Instant} {claimed : Bool}
    (h : nativeDispatchClaim blockId now s = .ok (s', claimed)) (h_changed : s' ≠ s) :
    ¬ Launched s.ledger blockId ∧ Launched s'.ledger blockId ∧ InFlight s'.ledger blockId ∧
      Advances s.ledger s'.ledger ∧ KeepsInFlight s.ledger s'.ledger := by
  obtain ⟨b, -, -, ⟨-, rfl, -⟩ | ⟨-, -, -, h_begin⟩⟩ := nativeDispatchClaim_ok h
  · exact absurd rfl h_changed
  · obtain ⟨h_sealed, h_launched, h_advances⟩ := beginNativeBatchCommit_launches h_begin
    obtain ⟨h_flight, h_keeps⟩ := beginNativeBatchCommit_inFlight h_begin
    exact ⟨h_sealed, h_launched, h_flight, h_advances, h_keeps⟩

end VacuumPlanner
