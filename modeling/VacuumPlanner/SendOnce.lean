import VacuumPlanner.Supersession

/-!
# Never send twice

Whether a `clean_area` call may begin is decided by four things that live apart: the claim,
which takes its block over the commit boundary, the save before it, the guard before every
side effect, and restart recovery. What they amount to is that a block whose call has begun
stays `Launched`, on disk and in the memory of every runtime that could still write, while
a dispatch that has yet to begin its call owns a block whose call has not begun
(`Sender`). A claim is refused for a launched block, so the two never meet.

This rests on the retired runtimes having settled when the store is loaded. A task of
`fail_closed` that gets the lock after the next runtime has loaded writes back a ledger in
which that runtime's claims are missing, and then its calls begin unrecorded
(`sent_unrecorded`).
-/

namespace VacuumPlanner

open Framework

namespace System

variable {s s' : System} {event : SystemEvent} {r r' : Runtime} {act : Act}
  {effect : Option Effect}

/-- The blocks whose `clean_area` call has begun. -/
def cleaned (s : System) : List String :=
  (s.begun.filter (·.service = .cleanArea)).map (·.dispatch.blockId)

/-- No `clean_area` call begins twice for one block. Whenever an external call begins, its
block is recorded on disk as launched, and its runtime is the newest one, is not in dry run
and passes its guard; and a block whose call has begun stays launched. -/
structure SentOnce (s : System) : Prop where
  once : s.cleaned.Nodup
  recorded : ∀ call ∈ s.begun, Launched call.disk.ledger call.dispatch.blockId
  live : ∀ call ∈ s.begun, call.dryRun = false ∧ call.number = call.newest ∧
    call.flags.requireCommandGeneration call.dispatch.generation = .ok ()
  kept : ∀ id ∈ s.cleaned, Launched s.disk.ledger id

/-- What holds of the runtime in the slot. -/
structure Sender (disk : PlannerState) (ids : List String) (r : Runtime) : Prop where
  durable : ∀ id, Launched r.state.ledger id → Launched disk.ledger id
  written : ∀ held, r.holder = some held → held.saved = true →
    ∀ id, Launched held.updated.ledger id → Launched disk.ledger id
  kept : ∀ id ∈ ids, Launched r.state.ledger id
  /-- A dispatch that has yet to begin its call is the first to send its block. -/
  first : ∀ (i : ℕ) (d : Dispatch), r.dispatches[i]? = some d → d.stage.launching = true →
    d.blockId ∉ ids

structure SendInv (s : System) : Prop extends SentOnce s where
  silent : s.RetiredSilent
  sender : ∀ r, s.slot.runtime = some r → Sender s.disk s.cleaned r
  retired : ∀ r ∈ s.retired, r.Silent ∨ ∀ id ∈ s.cleaned, Launched r.state.ledger id
  recovered : ∀ recovered dryRun topologyReady,
    s.slot = .settingUp recovered dryRun topologyReady →
      ∀ id ∈ s.cleaned, Launched recovered.ledger id

/-! ### What an act adds -/

theorem record_cleaned (effect : Option Effect) (id : String) :
    id ∈ (s.record r effect).cleaned ↔
      id ∈ s.cleaned ∨ ∃ d, effect = some (.begins .cleanArea d) ∧ d.blockId = id := by
  rcases effect with _ | _ | ⟨service, d⟩
  · simp [record, cleaned]
  · simp [record, cleaned]
  · cases service <;> simp [record, cleaned, eq_comm]

/-- A dispatch that is launching was launching before, unless its claim was assigned. -/
theorem Sender.traced {ids : List String} {disk : PlannerState} (h : Sender disk ids r) {i : ℕ}
    {d' : Dispatch} (h_traced : r.Traced i d') (h_launching : d'.stage.launching = true) :
    d'.blockId ∉ ids := by
  obtain ⟨d, h_d, -, h_id, -, h_before, -⟩ := h_traced
  rw [← h_id]
  exact h.first i d h_d (h_before h_launching)

/-- **An act of the runtime in the slot.** -/
theorem Sender.step (h : Sender s.disk s.cleaned r) (inv : r.Inv)
    (h_step : r.RuntimeStep act r' effect) :
    Sender (s.record r effect).disk (s.record r effect).cleaned r' := by
  -- a dispatch that may still send could send before
  have h_traces {ids : List String} (h : Sender s.disk ids r) (traces : r.Traces r') (i : ℕ)
      (d' : Dispatch) (h_d' : r'.dispatches[i]? = some d')
      (h_launching : d'.stage.launching = true) : d'.blockId ∉ ids :=
    h.traced (traces i d' h_d' (Stage.active_of_launching h_launching)) h_launching
  cases h_step with
  | quiet state holder traces undisturbed =>
    refine ⟨?_, ?_, ?_, h_traces h traces⟩
    · rw [state]; exact h.durable
    · rw [holder]; exact h.written
    · rw [state]; exact h.kept
  | begins i d service state holder traces undisturbed h_d launching passes last =>
    have h_launched : Launched r.state.ledger d.blockId :=
      inv.launched i d h_d (Stage.active_of_launching launching)
    refine ⟨?_, ?_, fun id h_id => ?_, fun j d' h_d' h_launching h_id => ?_⟩
    · rw [state]; exact h.durable
    · rw [holder]; exact h.written
    · rw [state]
      rcases (record_cleaned _ _).mp h_id with h_old | ⟨d₀, h_begins, rfl⟩
      · exact h.kept id h_old
      · cases h_begins
        exact h_launched
    · rcases (record_cleaned _ _).mp h_id with h_old | ⟨d₀, h_begins, h_same⟩
      · exact h_traces h traces j d' h_d' h_launching h_old
      · -- The only dispatch of this block is the one that sends it.
        cases h_begins
        obtain ⟨e, h_e, h_active, h_e_id, -⟩ :=
          traces j d' h_d' (Stage.active_of_launching h_launching)
        obtain rfl : j = i := inv.distinct j i e d h_e h_d h_active
          (Stage.active_of_launching launching) (h_e_id.trans h_same.symm)
        exact absurd ((last rfl d' h_d').symm.trans h_launching) Bool.noConfusion
  | waits held free state holder unsaved traces awake derived =>
    refine ⟨?_, fun held' h_held' h_saved => ?_, ?_, h_traces h traces⟩
    · rw [state]; exact h.durable
    · obtain rfl : held = held' := Option.some.inj (holder.symm.trans h_held')
      exact absurd (unsaved.symm.trans h_saved) Bool.noConfusion
    · rw [state]; exact h.kept
  | saved held h_holder unsaved state holder dispatches =>
    have h_advances := (inv.derived held h_holder).advances
    refine ⟨?_, fun held' h_held' _ => ?_, ?_, h_traces h (.of_eq dispatches)⟩
    · rw [state]; exact h_advances.launched
    · obtain rfl : { held with saved := true } = held' :=
        Option.some.inj (holder.symm.trans h_held')
      exact fun _ => id
    · rw [state]; exact h.kept
  | released held h_holder state holder traces late =>
    refine ⟨?_, fun held' h_held' => ?_, ?_, h_traces h traces⟩
    · rw [state]; exact h.durable
    · rw [holder] at h_held'
      exact nomatch h_held'
    · rw [state]; exact h.kept
  | assigned held h_holder h_saved h_act state holder traces =>
    have h_derived := inv.derived held h_holder
    refine ⟨?_, fun held' h_held' => ?_, ?_, fun i d' h_d' h_launching => ?_⟩
    · rw [state]; exact h.written held h_holder h_saved
    · rw [holder] at h_held'
      exact nomatch h_held'
    · rw [state]
      exact fun id h_id => h_derived.advances.launched id (h.kept id h_id)
    · rcases traces i d' h_d' (Stage.active_of_launching h_launching) with h_traced | h_gained
      · exact h.traced h_traced h_launching
      · obtain ⟨⟨modeOption, h_task⟩, d, h_d, h_id, -⟩ := h_gained
        rw [← h_id]
        -- The claim was not refused, so the block had not been launched.
        exact fun h_sent => (h_derived.claim i modeOption d h_task h_d).1 (h.kept _ h_sent)

/-- A runtime whose commands are invalidated begins no call. -/
theorem begins_nothing (h_inactive : r.flags.commandActive = false)
    (h_step : r.RuntimeStep act r' effect) :
    effect = none ∨ ∃ state, effect = some (.write state) := by
  cases h_step with
  | begins i d service state holder traces undisturbed h_d launching passes last =>
    have h_active := (RuntimeFlags.requireCommandGeneration_eq_ok.mp passes).1
    exact absurd (h_active.symm.trans h_inactive) Bool.noConfusion
  | saved => exact Or.inr ⟨_, rfl⟩
  | quiet | waits | released | assigned => exact Or.inl rfl

/-! ### What every event keeps -/

/-- A call that begins is the first one for its block. -/
theorem record_once (h : s.cleaned.Nodup) (sender : Sender s.disk s.cleaned r)
    (h_step : r.RuntimeStep act r' effect) : (s.record r effect).cleaned.Nodup := by
  cases h_step with
  | begins i d service state holder traces undisturbed h_d launching passes last =>
    cases service with
    | selectOption => simpa [record, cleaned] using h
    | cleanArea =>
      have h_fresh : d.blockId ∉ s.cleaned := sender.first i d h_d launching
      have h_cleaned : (s.record r (some (.begins .cleanArea d))).cleaned =
          s.cleaned ++ [d.blockId] := by simp [record, cleaned]
      rw [h_cleaned, List.nodup_append]
      refine ⟨h, List.nodup_singleton _, fun id h_id id' h_id' h_eq => ?_⟩
      rw [List.mem_singleton.mp h_id'] at h_eq
      exact h_fresh (h_eq ▸ h_id)
  | quiet | waits | released | assigned => exact h
  | saved => exact h

theorem SentOnce.record (h : s.SentOnce) (inv : r.Inv) (h_number : r.number = s.started)
    (sender : Sender s.disk s.cleaned r) (h_step : r.RuntimeStep act r' effect) :
    (s.record r effect).SentOnce := by
  have h_sender := sender.step inv h_step
  -- what is sent is recorded on disk before
  refine ⟨record_once h.once sender h_step, ?_, ?_, fun id h_id =>
    h_sender.durable id (h_sender.kept id h_id)⟩
  · cases h_step with
    | begins i d service state holder traces undisturbed h_d launching passes last =>
      intro call h_call
      rcases List.mem_append.mp h_call with h_old | h_new
      · exact h.recorded call h_old
      · rw [List.mem_singleton.mp h_new]
        exact sender.durable _ (inv.launched i d h_d (Stage.active_of_launching launching))
    | quiet | waits | released | assigned | saved => exact h.recorded
  · cases h_step with
    | begins i d service state holder traces undisturbed h_d launching passes last =>
      intro call h_call
      rcases List.mem_append.mp h_call with h_old | h_new
      · exact h.live call h_old
      · rw [List.mem_singleton.mp h_new]
        refine ⟨?_, h_number, passes⟩
        -- A dry run dispatches nothing.
        by_contra h_dry
        rw [inv.dry (Bool.eq_true_of_not_eq_false h_dry)] at h_d
        exact nomatch h_d
    | quiet | waits | released | assigned | saved => exact h.live

theorem SendInv.start (disk : PlannerState) : (start disk).SendInv where
  once := List.nodup_nil
  recorded _ h := nomatch h
  live _ h := nomatch h
  kept _ h := nomatch h
  silent _ h := nomatch h
  sender _ h := nomatch h
  retired _ h := nomatch h
  recovered _ _ _ h := nomatch h

/-- A runtime that has just loaded what is on disk. -/
theorem Sender.fresh {disk : PlannerState} {ids : List String} {number : ℕ}
    {dryRun topologyReady : Bool} (h : ∀ id ∈ ids, Launched disk.ledger id) :
    Sender disk ids (.fresh number dryRun topologyReady disk) :=
  ⟨fun _ => id, fun _ h => (nomatch h), h, fun _ _ h => (nomatch h)⟩

/-- Flags play no part. -/
theorem Sender.with_flags {disk : PlannerState} {ids : List String} (h : Sender disk ids r)
    (flags : RuntimeFlags) : Sender disk ids { r with flags := flags } :=
  ⟨h.durable, h.written, h.kept, h.first⟩

/-- An event that begins no call. -/
theorem SendInv.of_begun (h : s.SendInv) (h_begun : s'.begun = s.begun)
    (kept : ∀ id ∈ s.cleaned, Launched s'.disk.ledger id) (silent : s'.RetiredSilent)
    (sender : ∀ r, s'.slot.runtime = some r → Sender s'.disk s.cleaned r)
    (retired : ∀ r ∈ s'.retired, r.Silent ∨ ∀ id ∈ s.cleaned, Launched r.state.ledger id)
    (recovered : ∀ recovered dryRun topologyReady,
      s'.slot = .settingUp recovered dryRun topologyReady →
        ∀ id ∈ s.cleaned, Launched recovered.ledger id) : s'.SendInv := by
  have h_cleaned : s'.cleaned = s.cleaned := by unfold cleaned; rw [h_begun]
  refine ⟨⟨?_, ?_, ?_, ?_⟩, silent, ?_, ?_, ?_⟩
  · rw [h_cleaned]; exact h.once
  · rw [h_begun]; exact h.recorded
  · rw [h_begun]; exact h.live
  · rw [h_cleaned]; exact kept
  · rw [h_cleaned]; exact sender
  · rw [h_cleaned]; exact retired
  · rw [h_cleaned]; exact recovered

/-- An act of the runtime in the slot: all others are silent. -/
theorem SendInv.acted (h : s.SendInv) (h_inv : s.Inv) (h_slot : s.slot.runtime = some r)
    (h_step : r.RuntimeStep act r' effect)
    (h_s' : s' = { s.record r effect with slot := s.slot.put r' })
    (h_silent : s'.RetiredSilent) : s'.SendInv := by
  -- a block is launched on disk before its call, and was not sent by an earlier one
  have h_sender : Sender s.disk s.cleaned r := h.sender r h_slot
  have h_sent : (s.record r effect).SentOnce :=
    h.toSentOnce.record (h_inv.slot r h_slot) (h_inv.number r h_slot) h_sender h_step
  have h_put : s'.slot.runtime = some r' := by rw [h_s']; exact Slot.runtime_put h_slot
  -- the slot is not vacant, so what is retired is silent
  have h_vacant : s'.slot ≠ .vacant := fun h_vacant => by
    rw [h_vacant] at h_put
    exact nomatch h_put
  have h_cleaned : s'.cleaned = (s.record r effect).cleaned := by rw [h_s']; rfl
  have h_disk : s'.disk = (s.record r effect).disk := by rw [h_s']
  have h_begun : s'.begun = (s.record r effect).begun := by rw [h_s']
  refine ⟨⟨?_, ?_, ?_, ?_⟩, h_silent, fun r'' h_r'' => ?_,
    fun r'' h_r'' => Or.inl (h_silent.silent h_vacant h_r''), fun _ _ _ h_up => ?_⟩
  · rw [h_cleaned]; exact h_sent.once
  · rw [h_begun]; exact h_sent.recorded
  · rw [h_begun]; exact h_sent.live
  · rw [h_cleaned, h_disk]; exact h_sent.kept
  · obtain rfl := Option.some.inj (h_put.symm.trans h_r'')
    rw [h_cleaned, h_disk]
    exact h_sender.step (h_inv.slot r h_slot) h_step
  · rw [h_up] at h_put
    exact nomatch h_put

/-- An act of a retired runtime: a silent one does nothing, and until the store is loaded
again the last one keeps what is launched. -/
theorem SendInv.retiredActed {i : ℕ} (h : s.SendInv) (h_inv : s.Inv)
    (h_r : s.retired[i]? = some r) (h_act : ∀ observedAt, act ≠ .failClosed observedAt)
    (forward : r.Forward act r') (h_step : r.RuntimeStep act r' effect)
    (h_s' : s' = { s.record r effect with retired := s.retired.set i r' })
    (h_silent : s'.RetiredSilent) : s'.SendInv := by
  have h_mem : r ∈ s.retired := List.mem_of_getElem? h_r
  have h_detached := (h_inv.detached r h_mem).1
  have h_slot : s'.slot = s.slot := by rw [h_s']; exact record_slot effect
  have h_retired : s'.retired = s.retired.set i r' := by rw [h_s']
  have h_others {P : Runtime → Prop} (h : ∀ r ∈ s.retired, P r) (h_r' : P r') :
      ∀ r ∈ s'.retired, P r := by
    intro r'' h_r''
    rw [h_retired] at h_r''
    rcases List.mem_or_eq_of_mem_set h_r'' with h_old | rfl
    · exact h r'' h_old
    · exact h_r'
  -- a retired runtime is silent, or it remembers every block that was sent
  rcases h.retired r h_mem with h_quiet | h_kept
  · obtain ⟨h_quiet', rfl⟩ := h_quiet.step h_act forward h_step
    have h_disk : s'.disk = s.disk := by rw [h_s']; rfl
    refine h.of_begun (by rw [h_s']; rfl) ?_ h_silent ?_ (h_others h.retired (Or.inl h_quiet')) ?_
    · rw [h_disk]; exact h.kept
    · rw [h_disk, h_slot]; exact h.sender
    · rw [h_slot]; exact h.recovered
  · obtain ⟨h_kept', h_state⟩ := (h_inv.retired r h_mem).keeps
      (P := fun L => ∀ id ∈ s.cleaned, Launched L id)
      (fun advances h id h_id => advances.launched id (h id h_id)) h_kept h_step
    have h_others' := h_others h.retired (Or.inr h_kept')
    rcases begins_nothing h_detached h_step with rfl | ⟨state, rfl⟩
    · have h_disk : s'.disk = s.disk := by rw [h_s']; rfl
      refine h.of_begun (by rw [h_s']; rfl) ?_ h_silent ?_ h_others' ?_
      · rw [h_disk]; exact h.kept
      · rw [h_disk, h_slot]; exact h.sender
      · rw [h_slot]; exact h.recovered
    · have h_disk : s'.disk = state := by rw [h_s']; rfl
      -- A runtime that writes is not silent, so nothing has been loaded since.
      have h_vacant : s.slot = .vacant := by
        rcases h.silent r h_mem with h_quiet | ⟨h_vacant, -⟩
        · exact nomatch (h_quiet.step h_act forward h_step).2
        · exact h_vacant
      refine h.of_begun (by rw [h_s']; rfl) ?_ h_silent ?_ h_others' ?_
      · rw [h_disk]; exact h_state state rfl
      · rw [h_slot, h_vacant]; exact fun _ h_r => (nomatch h_r)
      · rw [h_slot, h_vacant]; exact fun _ _ _ h_up => (nomatch h_up)

theorem SendInv.step (h : s.SendInv) (h_inv : s.Inv) (h_event : s.LoadsSettled event)
    (h_step : SystemStep event s s') : s'.SendInv := by
  have h_silent : s'.RetiredSilent := h.silent.step h_inv h_event h_step
  cases h_step with
  | acted act r r' effect h_act h_slot forward step inv h_s' =>
    exact h.acted h_inv h_slot step h_s' h_silent
  | retiredActed i act r r' effect h_r h_act forward step inv h_s' =>
    exact h.retiredActed h_inv h_r h_act forward step h_s' h_silent
  | unloadBegan r h_slot h_s' =>
    -- an unload that begins only moves the flags of the runtime
    subst h_s'
    refine h.of_begun rfl h.kept h_silent ?_ h.retired fun _ _ _ h_up => (nomatch h_up)
    rintro _ ⟨⟩
    exact (h.sender r (by rw [h_slot]; rfl)).with_flags _
  | unloadFailed r h_fails h_slot h_s' =>
    subst h_s'
    refine h.of_begun rfl h.kept h_silent ?_ h.retired fun _ _ _ h_up => (nomatch h_up)
    rintro _ ⟨⟩
    exact (h.sender r (by rw [h_slot]; rfl)).with_flags _
  | unloaded r h_slot h_s' =>
    -- the runtime retires with what it has sent
    subst h_s'
    refine h.of_begun rfl h.kept h_silent (fun _ h_r => (nomatch h_r)) (fun r' h_r' => ?_)
      fun _ _ _ h_up => (nomatch h_up)
    rcases List.mem_append.mp h_r' with h_old | h_new
    · exact h.retired r' h_old
    · rw [List.mem_singleton.mp h_new]
      exact Or.inr (h.sender r h_slot).kept
  | loaded reconciledAt dryRun topologyReady h_load h_slot h_s' =>
    -- a runtime that has dispatched nothing keeps the invariant for nothing
    subst h_s'
    refine h.of_begun rfl h.kept h_silent ?_ h.retired fun _ _ _ h_up => (nomatch h_up)
    rintro _ ⟨⟩
    exact .fresh h.kept
  | recovering reconciledAt dryRun topologyReady recovered h_load h_slot advances h_s' =>
    -- recovery keeps every launched id launched, so a later runtime cannot send it again
    subst h_s'
    refine h.of_begun rfl h.kept h_silent (fun _ h_r => (nomatch h_r)) h.retired ?_
    rintro _ _ _ ⟨⟩
    exact fun id h_id => advances.launched id (h.kept id h_id)
  | recovered recovered dryRun topologyReady h_slot h_s' =>
    have h_kept := h.recovered recovered dryRun topologyReady h_slot
    subst h_s'
    refine h.of_begun rfl h_kept h_silent ?_ h.retired fun _ _ _ h_up => (nomatch h_up)
    rintro _ ⟨⟩
    exact .fresh h_kept
  | emptied retired h_emptied h_s' =>
    subst h_s'
    refine h.of_begun rfl h.kept h_silent (fun _ h_r => (nomatch h_r)) (fun r h_r => ?_)
      fun _ _ _ h_up => (nomatch h_up)
    rcases h_emptied with rfl | rfl
    · exact h.retired r h_r
    · exact nomatch h_r

/-- **Never send twice**, in every state of a run in which the store is loaded from settled
runtimes. -/
theorem send_once (disk : PlannerState) (events : List SystemEvent)
    (h_run : EachStep step LoadsSettled (start disk) events) (n : ℕ) :
    SentOnce (stateAt step (start disk) events n) := by
  have h_both : Inv (stateAt step (start disk) events n) ∧
      SendInv (stateAt step (start disk) events n) := by
    refine EachStep.stateAt (I := fun s => Inv s ∧ SendInv s)
      (fun s event s' h h_event h_step => ?_) h_run ⟨.start disk, .start disk⟩ n
    have h_cases := step_cases h.1 h_step
    exact ⟨h.1.step h_cases, h.2.step h.1 h_event h_cases⟩
  exact h_both.2.toSentOnce

/-- When the store is loaded, no save of an earlier runtime is pending. -/
def SavesSettled (s : System) : SystemEvent → Prop
  | .load _ _ _ => ∀ r ∈ s.retired, ∀ held, r.holder = some held → held.saved = true
  | _ => True

instance (s : System) (event : SystemEvent) : Decidable (s.SavesSettled event) :=
  match event with
  | .load _ _ _ => inferInstanceAs
    (Decidable (∀ r ∈ s.retired, ∀ held, r.holder = some held → held.saved = true))
  | .act _ | .retiredAct _ _ | .unloadBegins | .unloadFails | .unloaded | .rolledBack
  | .setupSaved | .setupSaveRaised | .crash => isTrue trivial

end System

/-! ### A call that begins unrecorded -/

/-- A `start_next` call of the kitchen's planner. -/
def kitchenStart (key : String) (ids : ℕ → String) (now : Instant) : StartNextCall where
  planningEnabled := true
  dryRun := false
  evaluatedAt := now
  idempotencyKey := some key
  idFactory := ids
  isoDate _ := ""
  evaluatePlan state := PlanSnapshotFields.construct
    ⟨state.planRevision.revisionId, "robot", now, kitchenSnapshot.jobs⟩

/-- Identities for a second block. -/
def laterIds (n : ℕ) : String := if n = 0 then "next block" else "next job"

/-- A first dispatch, from `start_next` to its assigned claim. -/
def dispatched (call : StartNextCall) : List SystemEvent :=
  ([.startNext call 0, .saved, .resumed, .preflight 0 (.ok none), .claim 0 call.evaluatedAt,
    .saved, .resumed] : List Act).map .act

/-- One dispatch, with its runtime unloaded and set up again before the vacuum reports. -/
def reloadedDispatch : List SystemEvent :=
  .load 0 false true :: dispatched (kitchenStart "key" kitchenIds 0) ++
    [.act (.callService 0), .unloadBegins, .unloaded, .load 2 false true, .setupSaved]

theorem send_once_reloaded :
    System.SentOnce (stateAt System.step (System.start kitchenState) reloadedDispatch 13) :=
  System.send_once kitchenState reloadedDispatch (by decide) 13

/-- The first runtime loses its topology while it saves a priority, and is unloaded. The
save becomes durable, the store is loaded, and only now does the task of `fail_closed` get
the lock. Its save overtakes the claim of the second runtime. -/
def overtakenClaim : List SystemEvent :=
  .load 0 false true :: dispatched (kitchenStart "key" kitchenIds 0) ++
    [.act (.callService 0), .act (.mutate (.setNativeValue .priority "kitchen" (.finite 1) 2
      "revised") 0), .act (.failClosed 3), .unloadBegins, .unloaded, .retiredAct 0 .saved,
      .retiredAct 0 .resumed, .load 4 false true, .setupSaved,
      .retiredAct 0 (.quarantineAll 0),
      .act (.mutate (.resolveUncertainRun "job" .retrySafe 5) 0), .act .saved, .act .resumed] ++
    dispatched (kitchenStart "again" laterIds 6) ++
    [.retiredAct 0 .saved, .act (.callService 0)]

/-- **A call begins unrecorded**, although every save of the first runtime that was pending
at its unload has settled before the store is loaded. -/
theorem sent_unrecorded :
    EachStep System.step System.SavesSettled (System.start kitchenState) overtakenClaim ∧
      ¬ System.SentOnce (perform System.step (System.start kitchenState) overtakenClaim) :=
  ⟨by decide, fun h => absurd h.recorded (by decide)⟩

end VacuumPlanner
