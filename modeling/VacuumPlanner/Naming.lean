import VacuumPlanner.Integration
import VacuumPlanner.DispatchSpecs

/-!
# The jobs a dispatch names

A dispatch carries the jobs `start_next` returned with its block, and reads its areas, its
modes and the jobs to accept off them, not off the ledger. They are the jobs of the block
nevertheless, in the order of the block, at every moment of a run (`Runtime.Named`): a command
keeps what a job and a block are (`Continues`), and the seal command returns what it leaves in
the ledger (`startNextCommand_names`).

`Shape` says exactly what an act makes of a runtime, where `RuntimeStep` says what is needed of
it for the invariants of `DispatchSpecs`. A call that reaches its save has run a command of the
integration, issued the way `Issued` asks (`request_updates`).
-/

namespace VacuumPlanner

open Framework

variable {L L' : QueueLedger} {s s' : PlannerState} {b : QueueBlock} {blockId : String}
  {jobs : List QueueJob}

/-! ### What a command keeps of the records -/

/-- The old records are still there at their positions, and are what they were. -/
structure Continues (L L' : QueueLedger) : Prop where
  blocks : Extends (fun b b' => b'.identity = b.identity) L.blocks L'.blocks
  jobs : Extends (fun j j' => j'.identity = j.identity) L.jobs L'.jobs

theorem Continues.of_rewrites {R : QueueJob → QueueJob → Prop} (h : Rewrites R L L')
    (keep : ∀ j j', R j j' → j'.identity = j.identity) : Continues L L' where
  blocks := h.blocks.mono fun _ _ _ _ h_kept => h_kept.identity
  jobs := h.jobs.mono fun j _ j' _ h_move => by
    rcases h_move with rfl | h_move
    · rfl
    · exact keep j j' h_move

theorem Continues.of_seals {block : QueueBlock} {children : List QueueJob}
    (h : BlockSealed L L' block children) : Continues L L' where
  blocks := by
    rw [h.blocks]
    exact Extends.append (fun b _ => show b.identity = b.identity from rfl) [block]
  jobs := by
    rw [h.jobs]
    exact Extends.append (fun j _ => show j.identity = j.identity from rfl) children

theorem CommandStep.continues (h : CommandStep L L') : Continues L L' := by
  cases h with
  | quiet rewrites => exact .of_rewrites rewrites fun _ _ h_moved => h_moved.identity
  | dispatches jobId rewrites =>
    refine .of_rewrites rewrites fun _ _ h_sent => ?_
    obtain ⟨sentAt, h_dispatched⟩ := h_sent.dispatched
    exact h_dispatched.identity
  | seals block children sealed => exact .of_seals sealed

/-- **Every command of the integration** is one of the commands of the ledger. -/
theorem IntegrationCommand.run_step {c : IntegrationCommand} (h : c.run s = .ok s') :
    CommandStep s.ledger s'.ledger := by
  cases c with
  | startDueBlock snapshot laneId key now idFactory dryRun =>
    obtain ⟨result, h_result, h⟩ := bind_eq_ok.mp h
    obtain ⟨-, h_ledger⟩ := PlannerState.construct_eq_ok.mp h
    have h_run : (LedgerCommand.startDueBlock snapshot laneId key now idFactory
        (if dryRun then .plannerSequential else .nativeBatch) .plannerAtomic false none).run
        s.ledger = .ok result.ledger := bind_eq_ok.mpr ⟨result, h_result, rfl⟩
    -- the ledger is that of the start, whatever is done with its result
    rw [h_ledger]
    exact LedgerCommand.run_step h_run
  | cancelPendingBlock blockId cancelledAt =>
    exact StateCommand.run_step (c := .cancelPendingBlock blockId cancelledAt) h
  | claim blockId now =>
    obtain ⟨⟨claimed, flag⟩, h_claim, h⟩ := bind_eq_ok.mp h
    obtain rfl : claimed = s' := pure_eq_ok.mp h
    obtain ⟨b, -, -, ⟨-, rfl, -⟩ | ⟨-, -, -, h_begin⟩⟩ := nativeDispatchClaim_ok h_claim
    · -- a block that is claimed already, or one that is claimed now
      exact .refl _
    · exact .dispatches blockId (beginNativeBatchCommit_rewrites blockId h_begin)
  | recordDispatchAcceptance blockId jobs acceptedAt =>
    exact StateCommand.run_step (c := .recordDispatchAcceptance blockId jobs acceptedAt) h
  | recordUncertain blockId reconciledAt =>
    exact StateCommand.run_step (c := .recordUncertain blockId reconciledAt) h
  | observe outcome observedAt revisionIds =>
    exact StateCommand.run_step (c := .observe outcome observedAt revisionIds) h
  | resolveUncertainRun jobId resolution now =>
    exact .of_moved (by decide) (resolveUncertainJob_rewrites (resolveUncertainRun_ok h).2)
  | recover reconciledAt =>
    obtain ⟨recovered, h_recovered, h⟩ := bind_eq_ok.mp h
    obtain ⟨-, h_ledger⟩ := PlannerState.construct_eq_ok.mp h
    rw [h_ledger]
    exact .of_moved (by decide) (quarantineAmbiguousDispatches_rewrites h_recovered)

/-! ### The jobs of a block, as they were returned -/

/-- The jobs are those of the block with the id, in its order. -/
def Names (L : QueueLedger) (blockId : String) (jobs : List QueueJob) : Prop :=
  ∃ b ∈ L.blocks, b.blockId = blockId ∧
    jobs.map (·.identity) = (jobsForBlock L b).map (·.identity)

/-- The jobs of an old block are what they were. -/
theorem jobsForBlock_continues (h : Continues L L') (hb : b ∈ L.blocks) {b' : QueueBlock}
    (h_b : b'.identity = b.identity) :
    (jobsForBlock L' b').map (·.identity) = (jobsForBlock L b).map (·.identity) := by
  unfold jobsForBlock listedJobs
  rw [List.map_filterMap, List.map_filterMap, jobIds_of_identity h_b]
  refine List.filterMap_congr fun id h_id => ?_
  have h_known : id ∈ L.jobs.map (·.jobId) := (L.valid.owns b hb).known id h_id
  obtain ⟨j, h_j⟩ := Option.isSome_iff_exists.mp (find?_key_isSome.mpr h_known)
  obtain ⟨j', hj', h_same⟩ := h.jobs.exists_mem (key_of_find? h_j).1
  have h_j' : L'.jobs.find? (fun job => decide (job.jobId = id)) = some j' :=
    (find?_key L'.valid.jobIds).mpr
      ⟨hj', (jobId_of_identity h_same).trans (key_of_find? h_j).2⟩
  rw [h_j, h_j', Option.map_some, Option.map_some, h_same]

theorem Names.continues (h : Names L blockId jobs) (h_step : Continues L L') :
    Names L' blockId jobs := by
  obtain ⟨b, hb, h_id, h_jobs⟩ := h
  obtain ⟨b', hb', h_b'⟩ := h_step.blocks.exists_mem hb
  refine ⟨b', hb', (blockId_of_identity h_b').trans h_id, ?_⟩
  rw [jobsForBlock_continues h_step hb h_b', h_jobs]

/-- A dispatch names the jobs its block was sealed with. -/
theorem Names.jobIds (h : Names L blockId jobs) (hb : b ∈ L.blocks) (h_id : b.blockId = blockId) :
    jobs.map (·.jobId) = b.jobIds := by
  obtain ⟨b', hb', h_id', h_jobs⟩ := h
  obtain rfl := L.block_eq hb hb' (h_id.trans h_id'.symm)
  have h_ids := congrArg (List.map JobIdentity.jobId) h_jobs
  rw [List.map_map, List.map_map] at h_ids
  exact h_ids.trans (map_jobId_jobsForBlock hb)

/-- A new block lists the jobs it was sealed with. -/
theorem BlockSealed.names {block : QueueBlock} {children : List QueueJob}
    (h : BlockSealed L L' block children) : Names L' block.blockId children := by
  have h_block : block ∈ L'.blocks := by
    rw [h.blocks]
    exact List.mem_append_right _ (List.mem_singleton_self block)
  refine ⟨block, h_block, rfl, ?_⟩
  unfold jobsForBlock listedJobs
  rw [h.listed, List.filterMap_map]
  have h_found : ∀ j ∈ children,
      L'.jobs.find? (fun job => decide (job.jobId = j.jobId)) = some j := by
    intro j hj
    refine (find?_key L'.valid.jobIds).mpr ⟨?_, rfl⟩
    rw [h.jobs]
    exact List.mem_append_right _ hj
  have h_children : children.filterMap
      ((fun jobId => L'.jobs.find? (fun job => decide (job.jobId = jobId))) ∘ (·.jobId)) =
      children := (List.filterMap_congr h_found).trans List.filterMap_some
  rw [h_children]

/-- The service returns a block of its ledger with the jobs of the block. -/
theorem startDueBlock_names {snapshot : PlanSnapshot} {laneId key : String} {now : Instant}
    {idFactory : ℕ → String} {strategy : DispatchStrategy} {guarantee : BlockGuarantee}
    {atomic : Bool} {expected : Option ℤ} {result : StartResult} {block : QueueBlock}
    (h : startDueBlock L snapshot laneId key now idFactory strategy guarantee atomic expected =
      .ok result) (h_block : result.block = some block) :
    Names result.ledger block.blockId result.jobs := by
  rcases startDueBlock_ok h with
    ⟨b, hb, -, -, rfl⟩ | ⟨-, rfl⟩ | ⟨b, children, -, -, -, h_sealed, h_eq⟩
  · cases h_block
    exact ⟨block, hb, rfl, rfl⟩
  · exact nomatch h_block
  · rw [h_eq] at h_block ⊢
    cases h_block
    exact h_sealed.names

/-- **What `start_next` returns** are the jobs of the block it returns. -/
theorem startNextCommand_names {call : StartNextCall} {result : StartResult} {block : QueueBlock}
    (h : startNextCommand call s = .ok (s', .result result)) (h_block : result.block = some block) :
    Names s'.ledger block.blockId result.jobs := by
  cases startNextCommand_ok h with
  | existing hb =>
    cases h_block
    exact ⟨_, hb, rfl, rfl⟩
  | found h_plan h_first h_start h_same =>
    rw [← h_same]
    exact startDueBlock_names h_start h_block
  | started h_plan h_first h_start h_changed h_made =>
    rw [(PlannerState.construct_eq_ok.mp h_made).2]
    exact startDueBlock_names h_start h_block

/-! ### What a call writes -/

/-- A command of the integration, or a new plan, made the one state of the other. -/
inductive Updates (s s' : PlannerState) : Prop
  | revises (h : PlanRevised s s')
  | runs (c : IntegrationCommand) (issued : Issued s c) (run : c.run s = .ok s')

theorem Updates.continues (h : Updates s s') : Continues s.ledger s'.ledger := by
  cases h with
  | revises h => exact h.commandStep.continues
  | runs c issued run => exact (c.run_step run).continues

/-- It keeps what sealing keeps, and every command that does one thing to every open block. -/
theorem Updates.keeps {I : QueueLedger → Prop} (h : Updates s s')
    (h_inStep : ∀ {L}, I L → OpenBlocks InStep L)
    (seals : ∀ {L L' block children}, I L → BlockSealed L L' block children → I L')
    (rows : ∀ {R L L'}, I L → Rows R L L' → I L') (h_I : I s.ledger) : I s'.ledger := by
  cases h with
  | revises h =>
    rw [h.ledger]
    exact h_I
  | runs c issued run => exact IntegrationCommand.keeps h_inStep seals rows h_I issued run

/-- It keeps the open blocks in step with their jobs. -/
theorem Updates.inStep (h : Updates s s') (h_inStep : OpenBlocks InStep s.ledger) :
    OpenBlocks InStep s'.ledger :=
  h.keeps id (fun h h_sealed => h.seals h_sealed (.sealed h_sealed))
    (fun h h_rows => h.inStep_rows h_rows) h_inStep

theorem Mutation.run_updates {mutation : Mutation} (h : mutation.run s = .ok s') :
    Updates s s' := by
  cases mutation with
  | skipAreaToday => exact .revises (skipAreaToday_ok h)
  | postponeArea => exact .revises (postponeArea_ok h)
  | setNativeValue => exact .revises (setNativeValue_ok h)
  | cancelBlock blockId now => exact .runs (.cancelPendingBlock blockId now) trivial h
  | resolveUncertainRun jobId resolution now =>
    exact .runs (.resolveUncertainRun jobId resolution now) trivial h

theorem startNextCommand_updates {call : StartNextCall} {outcome : SealOutcome}
    (h : startNextCommand call s = .ok (s', outcome)) (h_changed : s' ≠ s) : Updates s s' := by
  cases startNextCommand_ok h with
  | cancelled h_cancel => exact .runs (.cancelPendingBlock _ call.evaluatedAt) trivial h_cancel
  | existing | found => exact absurd rfl h_changed
  | started h_plan h_first h_start _ h_made =>
    exact .runs (.startDueBlock _ _ _ call.evaluatedAt call.idFactory call.dryRun) trivial
      (bind_eq_ok.mpr ⟨_, h_start, h_made⟩)

namespace Runtime

variable {r r' w : Runtime} {act : Act} {effect : Option Effect} {task : Task}
  {call : PlannerCall} {i : ℕ} {d d' : Dispatch} {stage : Stage}

/-! ### Exactly what an act does -/

/-- How an act moves a dispatch that waits for no call on the coordinator. -/
inductive Moves (act : Act) (r : Runtime) (i : ℕ) (d : Dispatch) : Stage → Prop
  | preflighted (modeOption : Option String) (h_act : act = .preflight i (.ok modeOption))
      (h_stage : d.stage = .created) : Moves act r i d (.ready modeOption)
  | rejected (e : PyError) (h_act : act = .preflight i (.error e)) (h_stage : d.stage = .created) :
    Moves act r i d .finished
  | guarded (e : PyError) (h_next : d.stage.launching = true)
      (h_guard : r.flags.requireCommandGeneration d.generation = .error e) :
    Moves act r i d (.interrupted e)
  | serviceReturned (next : Stage) (h_act : act = .serviceReturned i)
      (h_after : d.stage.afterCall = some next) : Moves act r i d next
  | serviceRaised (next : Stage) (h_act : act = .serviceRaised i)
      (h_after : d.stage.afterCall = some next) : Moves act r i d .ambiguous
  | cancelledReady (modeOption : Option String) (h_stage : d.stage = .ready modeOption) :
    Moves act r i d .finished
  | cancelledCleaned (h_stage : d.stage = .cleaned) :
    Moves act r i d (.interrupted .cancelledError)

/-- Why the call that holds the lock raises. -/
inductive Fails (act : Act) (r : Runtime) (held : Held) (e : PyError) : Prop
  | save (h_act : act = .saveRaised e)
  | cancelled (h_act : act = .cancelHolder) (h_task : held.task.cancellable = true)
      (h_e : e = .cancelledError)
  | guarded (h_act : act = .resumed) (h_saved : held.saved = true)
      (h_check : held.call.check r.flags = .error e)

/-- **Exactly what an act makes** of a runtime. -/
inductive Shape (act : Act) (r : Runtime) : Runtime → Option Effect → Prop
  | flags (flags : RuntimeFlags) (quarantines : List Instant)
      (h_flags : flags = r.flags ∨ flags = r.flags.latchTopology) :
    Shape act r { r with flags, quarantines } none
  | moves (i : ℕ) (d : Dispatch) (stage : Stage) (h_d : r.dispatches[i]? = some d)
      (h : Moves act r i d stage) : Shape act r (r.setStage i stage) none
  | begins (i : ℕ) (d : Dispatch) (service : Service) (next : Stage) (h_act : act = .callService i)
      (h_d : r.dispatches[i]? = some d) (h_next : d.stage.nextCall = some (service, next))
      (h_guard : r.flags.requireCommandGeneration d.generation = .ok ()) :
    Shape act r (r.setStage i next) (some (.begins service d))
  | enters (w : Runtime) (task : Task) (call : PlannerCall) (h_free : r.holder = none)
      (h_request : act.request r = some (w, task, call)) : Shape act r (w.enter task call) none
  | saved (held : Held) (h_holder : r.holder = some held) (h_unsaved : held.saved = false)
      (h_act : act = .saved) :
    Shape act r { r with holder := some { held with saved := true } } (some (.write held.updated))
  | raised (held : Held) (e : PyError) (h_holder : r.holder = some held)
      (h_fails : Fails act r held e) :
    Shape act r ({ r with holder := none }.raised e held.task) none
  | assigned (held : Held) (h_holder : r.holder = some held) (h_saved : held.saved = true)
      (h_act : act = .resumed) (h_check : held.call.check r.flags = .ok ()) :
    Shape act r ({ r with holder := none, state := held.updated }.returned true held.task) none

theorem resume_shape {held : Held} (h_holder : r.holder = some held) (h_saved : held.saved = true) :
    Shape .resumed r (r.resume held) none := by
  unfold resume
  split
  · next e h_check => exact .raised held e h_holder (.guarded rfl h_saved h_check)
  · next h_check => exact .assigned held h_holder h_saved rfl h_check

theorem callService_shape {service : Service} {next : Stage} (h_d : r.dispatches[i]? = some d)
    (h_next : d.stage.nextCall = some (service, next)) :
    Shape (.callService i) r (r.callService i d service next).1
      (r.callService i d service next).2 := by
  unfold callService
  split
  · next e h_guard =>
    exact .moves i d _ h_d (.guarded e (Stage.nextCall_spec h_next).1 h_guard)
  · next h_guard => exact .begins i d service next rfl h_d h_next h_guard

/-- **Every act** has one of the shapes. -/
theorem step_shape (h : r.step act = .ok (r', effect)) : Shape act r r' effect := by
  cases acted_of_step h with
  | latched => exact .flags r.flags.latchTopology r.quarantines (Or.inr rfl)
  | failedClosed =>
    -- a runtime whose topology is latched already is left as it is
    unfold failClosed
    split
    · exact .flags r.flags r.quarantines (Or.inl rfl)
    · exact .flags r.flags.latchTopology _ (Or.inr rfl)
  | entered h_free h_request => exact .enters _ _ _ h_free h_request
  | preflighted h_d h_stage => exact .moves _ _ _ h_d (.preflighted _ rfl h_stage)
  | rejected h_d h_stage => exact .moves _ _ _ h_d (.rejected _ rfl h_stage)
  | called h_d h_next => exact callService_shape h_d h_next
  | serviceReturned h_d h_after => exact .moves _ _ _ h_d (.serviceReturned _ rfl h_after)
  | serviceRaised h_d h_after => exact .moves _ _ _ h_d (.serviceRaised _ rfl h_after)
  | saved h_holder h_unsaved => exact .saved _ h_holder h_unsaved rfl
  | saveRaised h_holder h_unsaved => exact .raised _ _ h_holder (.save rfl)
  | resumed h_holder h_saved => exact resume_shape h_holder h_saved
  | cancelledReady h_d h_stage => exact .moves _ _ _ h_d (.cancelledReady _ h_stage)
  | cancelledCleaned h_d h_stage => exact .moves _ _ _ h_d (.cancelledCleaned h_stage)
  | cancelledHolder h_holder h_task => exact .raised _ _ h_holder (.cancelled rfl h_task rfl)

theorem raised_frame (r : Runtime) (e : PyError) (task : Task) : Frame r (r.raised e task) := by
  cases task with
  | startNext | mutation | observation => exact .refl r
  | claim i | acceptance i | quarantine i => exact setStage_frame r i _

theorem returned_frame (r : Runtime) (changed : Bool) (task : Task) :
    Frame r (r.returned changed task) :=
  (returned_spec r changed task).1

/-- A call that acquires the lock leaves the flags and the state alone. -/
theorem enter_keeps (h_request : act.request r = some (w, task, call)) :
    (w.enter task call).flags = r.flags ∧ (w.enter task call).state = r.state := by
  have h_spec := request_spec h_request
  unfold enter
  split
  · next e _ =>
    have h_frame := raised_frame w e task
    exact ⟨h_frame.flags.trans h_spec.flags, h_frame.state.trans h_spec.state⟩
  · have h_frame := returned_frame w false task
    exact ⟨h_frame.flags.trans h_spec.flags, h_frame.state.trans h_spec.state⟩
  · exact ⟨h_spec.flags, h_spec.state⟩

/-- The state changes only when a call is assigned, under its guard. -/
theorem step_assigns (h : r.step act = .ok (r', effect)) :
    r'.state = r.state ∨ ∃ held, r.holder = some held ∧ held.call.check r.flags = .ok () ∧
      r' = { r with holder := none, state := held.updated }.returned true held.task := by
  cases step_shape h with
  | flags | moves | begins | saved => exact Or.inl rfl
  | enters w task call h_free h_request => exact Or.inl (enter_keeps h_request).2
  | raised held e h_holder =>
    exact Or.inl (raised_frame { r with holder := none } e held.task).state
  | assigned held h_holder h_saved h_act h_check => exact Or.inr ⟨held, h_holder, h_check, rfl⟩

theorem step_state (h : r.step act = .ok (r', effect)) :
    r'.state = r.state ∨ ∃ held, r.holder = some held ∧ r'.state = held.updated := by
  refine (step_assigns h).imp_right ?_
  rintro ⟨held, h_holder, -, rfl⟩
  refine ⟨held, h_holder, ?_⟩
  exact (returned_frame { r with holder := none, state := held.updated } true held.task).state

/-! ### The dispatches of a step -/

/-- The dispatch is the other one, at some stage of its own. -/
structure SameDispatch (d d' : Dispatch) : Prop where
  blockId : d'.blockId = d.blockId
  jobs : d'.jobs = d.jobs
  generation : d'.generation = d.generation

theorem SameDispatch.refl (d : Dispatch) : SameDispatch d d := ⟨rfl, rfl, rfl⟩

/-- No dispatch has been added. -/
def Carries (r r' : Runtime) : Prop :=
  ∀ d' ∈ r'.dispatches, ∃ d ∈ r.dispatches, SameDispatch d d'

theorem Carries.of_eq (h : r'.dispatches = r.dispatches) : Carries r r' := by
  intro d' h_d'
  rw [h] at h_d'
  exact ⟨d', h_d', .refl d'⟩

theorem Carries.setStage (r : Runtime) (i : ℕ) (stage : Stage) :
    Carries r (r.setStage i stage) := by
  intro d' h_d'
  obtain ⟨j, h_j⟩ := List.getElem?_of_mem h_d'
  rcases setStage_cases h_j with ⟨h_d, -⟩ | ⟨-, d, h_d, rfl⟩
  · exact ⟨d', List.mem_of_getElem? h_d, .refl d'⟩
  · exact ⟨d, List.mem_of_getElem? h_d, rfl, rfl, rfl⟩

theorem raised_carries (r : Runtime) (e : PyError) (task : Task) : Carries r (r.raised e task) := by
  cases task with
  | startNext | mutation | observation => exact .of_eq rfl
  | claim i | acceptance i | quarantine i => exact .setStage r i _

theorem request_carries (h : act.request r = some (w, task, call)) : Carries r w := by
  cases requests_of_request h with
  | startNext | mutate | observe | quarantineAll => exact .of_eq rfl
  | claim | accept | quarantine => exact .setStage r _ _

/-- The dispatch `start_next` begins. -/
def Begun (task : Task) (d : Dispatch) : Prop :=
  ∃ generation result block, task = .startNext generation (some (.result result)) ∧
    result.block = some block ∧ d = ⟨block.blockId, result.jobs, generation, .created⟩

theorem returned_carries (r : Runtime) (changed : Bool) (task : Task) :
    ∀ d' ∈ (r.returned changed task).dispatches,
      (∃ d ∈ r.dispatches, SameDispatch d d') ∨ Begun task d' := by
  have h_old {r' : Runtime} (h : Carries r r') : ∀ d' ∈ r'.dispatches,
      (∃ d ∈ r.dispatches, SameDispatch d d') ∨ Begun task d' := fun d' h_d' => Or.inl (h d' h_d')
  cases task with
  | mutation | observation => exact h_old (.of_eq rfl)
  | claim i | acceptance i | quarantine i => exact h_old (.setStage r i _)
  | startNext generation outcome =>
    -- only a start that returns a created block appends a dispatch
    match outcome with
    | none => exact h_old (.of_eq rfl)
    | some .dryRunBlockCancelled => exact h_old (.of_eq rfl)
    | some (.result result) =>
      unfold returned
      dsimp only
      split
      · next block h_block =>
        split
        · exact h_old (.of_eq rfl)
        · intro d' h_d'
          rcases List.mem_append.mp h_d' with h_before | h_new
          · exact Or.inl ⟨d', h_before, .refl d'⟩
          · obtain rfl := List.mem_singleton.mp h_new
            exact Or.inr ⟨generation, result, block, rfl, h_block, rfl⟩
      · exact h_old (.of_eq rfl)

/-! ### Every dispatch names the jobs of its block -/

/-- What `start_next` has returned, or is about to, are the jobs of the block it returns with
them. -/
structure Named (r : Runtime) : Prop where
  dispatches : ∀ d ∈ r.dispatches, Names r.state.ledger d.blockId d.jobs
  updates : ∀ held, r.holder = some held → Updates r.state held.updated
  begun : ∀ held d, r.holder = some held → Begun held.task d →
    Names held.updated.ledger d.blockId d.jobs

theorem Named.fresh (number : ℕ) (dryRun topologyReady : Bool) (state : PlannerState) :
    Named (fresh number dryRun topologyReady state) :=
  ⟨fun _ h => absurd h List.not_mem_nil, fun _ h => (nomatch h), fun _ _ h => (nomatch h)⟩

/-- It does not depend on the flags. -/
theorem Named.with_flags (h : r.Named) (flags : RuntimeFlags) : Named { r with flags := flags } :=
  ⟨h.dispatches, h.updates, h.begun⟩

/-- A call that reaches its save has run a command of the integration. -/
theorem request_updates (h : r.Named) (h_request : act.request r = some (w, task, call))
    {updated : PlannerState} (h_prepared : (call.prepare r.flags r.state).1 = .ok (some updated)) :
    Updates r.state updated := by
  -- each call runs the one command of the integration that it stands for
  cases requests_of_request h_request with
  | startNext h_outcome =>
    obtain ⟨-, h_command, h_changed⟩ := guardedCall_prepared h_prepared
    obtain ⟨⟨t, outcome⟩, h_start, rfl⟩ := map_eq_ok.mp h_command
    exact startNextCommand_updates h_start h_changed
  | mutate =>
    obtain ⟨-, h_command, -⟩ := guardedCall_prepared h_prepared
    exact Mutation.run_updates h_command
  | observe =>
    obtain ⟨-, h_command⟩ := observationCall_prepared h_prepared
    exact .runs (.observe _ _ _) trivial h_command
  | quarantineAll h_n =>
    obtain ⟨-, h_command⟩ := observationCall_prepared h_prepared
    exact .runs (.observe .uncertain _ fun _ => "") trivial h_command
  | claim h_d =>
    obtain ⟨-, h_command, -⟩ := guardedCall_prepared h_prepared
    obtain ⟨⟨t, claimed⟩, h_claim, rfl⟩ := map_eq_ok.mp h_command
    exact .runs (.claim _ _) trivial (bind_eq_ok.mpr ⟨_, h_claim, rfl⟩)
  | accept h_d =>
    -- The jobs to accept come from the dispatch, not from the ledger: `Named` says they agree.
    obtain ⟨-, h_command, -⟩ := guardedCall_prepared h_prepared
    have h_names := h.dispatches _ (List.mem_of_getElem? h_d)
    exact .runs (.recordDispatchAcceptance _ _ _) (fun b hb h_id => h_names.jobIds hb h_id)
      h_command
  | quarantine h_d =>
    obtain ⟨-, h_command⟩ := quarantineCall_prepared h_prepared
    exact .runs (.recordUncertain _ _) trivial h_command

/-- The outcome of a seal command is that of the state it makes. -/
theorem request_begun (h_request : act.request r = some (w, task, call)) (h_d : Begun task d)
    {updated : PlannerState} (h_command : (call.command r.flags r.state).1 = .ok updated) :
    Names updated.ledger d.blockId d.jobs := by
  obtain ⟨generation, result, block, rfl, h_block, rfl⟩ := h_d
  cases requests_of_request h_request with
  | startNext h_outcome =>
    obtain ⟨⟨t, outcome⟩, h_start, rfl⟩ := map_eq_ok.mp h_command
    rw [h_start] at h_outcome
    cases h_outcome
    exact startNextCommand_names h_start h_block

/-- A step that leaves the state and the lock alone, and begins no dispatch. -/
theorem Named.of_carries (h : r.Named) (state : r'.state = r.state)
    (holder : r'.holder = r.holder ∨ r'.holder = none) (carries : Carries r r') : r'.Named := by
  have h_held {held : Held} (h_held' : r'.holder = some held) : r.holder = some held := by
    rcases holder with h_eq | h_eq
    · exact h_eq.symm.trans h_held'
    · exact nomatch h_eq.symm.trans h_held'
  refine ⟨fun d' h_d' => ?_, fun held h_held' => ?_,
    fun held d h_held' => h.begun held d (h_held h_held')⟩
  · obtain ⟨d, h_d, h_same⟩ := carries d' h_d'
    rw [state, h_same.blockId, h_same.jobs]
    exact h.dispatches d h_d
  · rw [state]
    exact h.updates held (h_held h_held')

/-- A call that returns on a state that follows the old one. -/
theorem Named.returned {changed : Bool}
    (h : ∀ d ∈ r.dispatches, Names r.state.ledger d.blockId d.jobs)
    (h_begun : ∀ d, Begun task d → Names r.state.ledger d.blockId d.jobs)
    (h_free : r.holder = none) :
    (r.returned changed task).Named := by
  have h_frame := returned_frame r changed task
  have h_free' : (r.returned changed task).holder = none := h_frame.holder.trans h_free
  refine ⟨fun d' h_d' => ?_, fun held h_held => ?_, fun held d h_held => ?_⟩
  · rw [h_frame.state]
    rcases returned_carries r changed task d' h_d' with ⟨d, h_d, h_same⟩ | h_new
    · rw [h_same.blockId, h_same.jobs]
      exact h d h_d
    · exact h_begun d' h_new
  · exact nomatch h_free'.symm.trans h_held
  · exact nomatch h_free'.symm.trans h_held

theorem Named.enter (h : r.Named) (h_free : r.holder = none)
    (h_request : act.request r = some (w, task, call)) : (w.enter task call).Named := by
  have h_spec := request_spec h_request
  have h_w : w.Named :=
    h.of_carries h_spec.state (Or.inl h_spec.holder) (request_carries h_request)
  have h_free' : w.holder = none := h_spec.holder.trans h_free
  unfold Runtime.enter
  rw [h_spec.flags, h_spec.state]
  split
  · next e _ =>
    have h_frame := raised_frame w e task
    exact h_w.of_carries h_frame.state (Or.inl h_frame.holder) (raised_carries w e task)
  · next h_prepared =>
    -- a call with nothing to save has found the state it returns
    have h_same : (call.command r.flags r.state).1 = .ok r.state :=
      Call.prepare_unchanged (Prod.ext h_prepared rfl : call.prepare r.flags r.state = (_, _))
    refine Named.returned h_w.dispatches (fun d h_d => ?_) h_free'
    rw [h_spec.state]
    exact request_begun h_request h_d h_same
  · next updated h_prepared =>
    refine ⟨fun d h_d => h_spec.state ▸ h_w.dispatches d h_d, ?_, ?_⟩
    · rintro held ⟨⟩
      exact request_updates h h_request h_prepared
    · rintro held d ⟨⟩ h_d
      exact request_begun h_request h_d (prepared_command h_prepared).1

/-- **Every act keeps it.** -/
theorem Named.step (h : r.Named) (h_step : r.step act = .ok (r', effect)) : r'.Named := by
  cases step_shape h_step with
  | flags flags quarantines h_flags => exact ⟨h.dispatches, h.updates, h.begun⟩
  | moves i d stage => exact h.of_carries rfl (Or.inl rfl) (.setStage r i stage)
  | begins i d service next => exact h.of_carries rfl (Or.inl rfl) (.setStage r i next)
  | enters w task call h_free h_request => exact h.enter h_free h_request
  | saved held h_holder =>
    refine ⟨h.dispatches, ?_, ?_⟩
    · rintro held' ⟨⟩
      exact h.updates held h_holder
    · rintro held' d ⟨⟩ h_d
      exact h.begun held d h_holder h_d
  | raised held e h_holder =>
    have h_frame := raised_frame { r with holder := none } e held.task
    exact h.of_carries h_frame.state (Or.inr h_frame.holder)
      (raised_carries { r with holder := none } e held.task)
  | assigned held h_holder =>
    refine Named.returned (fun d h_d => ?_) (fun d h_d => h.begun held d h_holder h_d) rfl
    exact (h.dispatches d h_d).continues (h.updates held h_holder).continues

/-- The open blocks stay in step with their jobs. -/
theorem Named.keeps_inStep (h : r.Named) (h_inStep : OpenBlocks InStep r.state.ledger)
    (h_step : r.step act = .ok (r', effect)) : OpenBlocks InStep r'.state.ledger := by
  rcases step_state h_step with h_same | ⟨held, h_holder, h_updated⟩
  · rw [h_same]
    exact h_inStep
  · rw [h_updated]
    exact (h.updates held h_holder).inStep h_inStep

end Runtime

end VacuumPlanner
