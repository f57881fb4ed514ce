import VacuumPlanner.Commands

/-!
# One open block per lane

Only `start_due_block` looks at the lane of a block. That a lane never holds two open
blocks therefore rests on every other command: none of them may reopen a block, the bulk
commands included, which rewrite blocks without consulting the transition table.

The invariant is `LanesOrdered`: of two blocks in one lane the earlier is terminal. A
rewrite keeps it because it keeps lanes and freezes terminal blocks (`BlockKept`), and
sealing keeps it because the lane was free. Uniqueness and position of the open block are
read off it; that active jobs belong to open blocks is a fact of every ledger.
-/

namespace VacuumPlanner

open Framework

/-- Of two blocks in one lane, the earlier one is terminal. -/
def LanesOrdered (L : QueueLedger) : Prop :=
  L.blocks.Pairwise fun earlier later =>
    earlier.laneId = later.laneId → earlier.state.terminal = true

variable {L L' : QueueLedger}

theorem LanesOrdered.empty : LanesOrdered QueueLedger.empty := List.Pairwise.nil

theorem LanesOrdered.rewrites {R : QueueJob → QueueJob → Prop} (h : LanesOrdered L)
    (h_step : Rewrites R L L') : LanesOrdered L' := by
  refine h_step.blocks.pairwise h_step.blockCount (fun a a' b b' ha hb h_ab h_lane => ?_) h
  rw [laneId_of_identity ha.identity, laneId_of_identity hb.identity] at h_lane
  have h_terminal := h_ab h_lane
  rw [ha.frozen h_terminal]
  exact h_terminal

theorem LanesOrdered.seals {block : QueueBlock} {children : List QueueJob}
    (h : LanesOrdered L) (h_step : BlockSealed L L' block children) : LanesOrdered L' := by
  unfold LanesOrdered
  rw [h_step.blocks, List.pairwise_append]
  refine ⟨h, List.pairwise_singleton _ _, fun b hb b' hb' h_lane => ?_⟩
  obtain rfl := List.mem_singleton.mp hb'
  exact h_step.laneFree b hb h_lane

theorem LanesOrdered.step {c : QueueCommand} (h : LanesOrdered L) (h_run : c.run L = .ok L') :
    LanesOrdered L' := by
  rcases QueueCommand.run_cases h_run with h_step | ⟨block, children, h_step⟩
  · exact h.rewrites h_step
  · exact h.seals h_step

/-! ### What the invariant says about a lane -/

/-- In a list all of whose elements but the last satisfy `p`, one that does not is the
last. -/
theorem getLast?_of_pairwise {α : Type} {p : α → Prop} {xs : List α} {x : α}
    (h : xs.Pairwise fun earlier _ => p earlier) (hx : x ∈ xs) (h_not : ¬ p x) :
    xs.getLast? = some x := by
  induction xs with
  | nil => exact absurd hx List.not_mem_nil
  | cons y ys ih =>
    obtain ⟨h_y, h_ys⟩ := List.pairwise_cons.mp h
    cases ys with
    | nil => rw [List.mem_singleton.mp hx]; rfl
    | cons z zs =>
      rw [List.getLast?_cons_cons]
      rcases List.mem_cons.mp hx with rfl | hx
      · exact absurd (h_y z List.mem_cons_self) h_not
      · exact ih h_ys hx

/-- A lane has at most one open block, the last one in the lane, and only the jobs of open
blocks are with the vacuum or uncertain. -/
structure OneOpenBlockPerLane (L : QueueLedger) : Prop where
  unique : ∀ b ∈ L.blocks, ∀ b' ∈ L.blocks, b.laneId = b'.laneId →
    b.state.terminal = false → b'.state.terminal = false → b = b'
  last : ∀ b ∈ L.blocks, b.state.terminal = false →
    (L.blocks.filter (·.laneId = b.laneId)).getLast? = some b
  active : ∀ j ∈ L.jobs, j.state ∈ activeStates →
    ∃ b ∈ L.blocks, b.blockId = j.blockId ∧ b.state.terminal = false

theorem LanesOrdered.last (h : LanesOrdered L) {b : QueueBlock} (hb : b ∈ L.blocks)
    (h_open : b.state.terminal = false) :
    (L.blocks.filter (·.laneId = b.laneId)).getLast? = some b := by
  have h_filter : (L.blocks.filter (·.laneId = b.laneId)).Pairwise
      fun earlier _ => earlier.state.terminal = true := by
    refine (h.filter _).imp_of_mem fun {x y} hx hy h_xy => h_xy ?_
    rw [List.mem_filter, decide_eq_true_iff] at hx hy
    exact hx.2.trans hy.2.symm
  refine getLast?_of_pairwise h_filter (List.mem_filter.mpr ⟨hb, decide_eq_true rfl⟩) ?_
  rw [h_open]
  exact Bool.false_ne_true

theorem LanesOrdered.oneOpen (h : LanesOrdered L) : OneOpenBlockPerLane L where
  unique b hb b' hb' h_lane h_open h_open' := by
    have h_last := h.last hb h_open
    rw [h_lane, h.last hb' h_open'] at h_last
    exact (Option.some.inj h_last).symm
  last b hb h_open := h.last hb h_open
  active j hj h_active := by
    obtain ⟨b, hb, h_parent⟩ := QueueLedger.exists_parent hj
    refine ⟨b, hb, h_parent, QueueLedger.parentOpen_of_open hj ?_ b hb h_parent⟩
    revert h_active
    cases j.state <;> decide

/-- **One open block per lane.** Whatever commands ran since the empty ledger, and however
many of them raised, every lane has at most one open block: the last block of the lane,
and the only one whose jobs can be with the vacuum. -/
theorem one_open_block_per_lane (commands : List QueueCommand) :
    OneOpenBlockPerLane (perform QueueCommand.run QueueLedger.empty commands) :=
  (perform_invariant (fun _ _ _ h h_run => LanesOrdered.step h h_run)
    LanesOrdered.empty).oneOpen

end VacuumPlanner
