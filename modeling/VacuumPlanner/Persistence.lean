import VacuumPlanner.Coordinator

/-!
# Persist before publish

What the coordinator promises about its commands, over every order of events.

*Serializability* (`commands_serialize`). The calls that return normally compose, in the
order in which they acquired the lock, to the current state; a state is assigned or shown
to a listener only after it was saved; a command that changes nothing is neither saved nor
published; and listeners that raise change none of it. The invariants are `Serial`, which
says that a call that waits for its save has computed its result from the state it will
replace, and `Persisted`, which says that a state whose save is durable is in the trace.
Neither asks anything of the guards.

*Rejected commands* (`rejected_command_leaves_no_trace`). A call that raises should leave
memory and disk as it found them. The guard after the save breaks this: when the runtime
is invalidated or latched while the save is pending, the call raises although its state is
durable already. `Traceless` is an invariant of the runs in which that guard passes
(`ResumesPass`), and `rejected_command_leaves_a_trace` is a run in which it does not.
-/

namespace VacuumPlanner

open Framework

variable {σ E ε : Type}

namespace Coordinator

/-! ### Serializability -/

/-- The calls that have returned normally, in the order in which they acquired the lock. -/
def returned (entries : List (Entry σ E ε)) : List (Entry σ E ε) :=
  entries.filter Entry.returned

/-- The commands of the calls that returned normally, one after the other. -/
def composed (initial : σ) (entries : List (Entry σ E ε)) : Except ε σ :=
  (returned entries).foldlM Entry.apply initial

theorem composed_snoc (initial : σ) (entries : List (Entry σ E ε)) (entry : Entry σ E ε) :
    composed initial (entries ++ [entry]) =
      if entry.returned then composed initial entries >>= fun s => entry.apply s
      else composed initial entries := by
  unfold composed returned
  rw [List.filter_append, List.foldlM_append]
  cases h : entry.returned with
  | false =>
    rw [List.filter_singleton, h]
    exact bind_pure _
  | true =>
    rw [List.filter_singleton, h]
    exact congrArg _ (funext fun s => bind_pure _)

/-- The returned calls compose to the current state, and a call that waits for its save
has computed its result from that state. -/
structure Serial (initial : σ) (k : Core σ E ε) : Prop where
  acquired : k.acquired = k.entries.map (·.call) ++ k.holder.toList.map (·.call)
  composed : composed initial k.entries = .ok k.stored.state
  pending : ∀ p, k.holder = some p → p.found.state = k.stored.state ∧
    (p.call.command p.env p.found.state).1 = .ok p.updated

theorem Serial.start (initial : σ) (env : E) :
    Serial initial (start initial env : Coordinator σ E ε).core :=
  ⟨rfl, rfl, fun _ h => nomatch h⟩

theorem Serial.step {late : Prop} {initial : σ} {k k' : Core σ E ε} (h : Serial initial k)
    (h_step : CoreStep late k k') : Serial initial k' := by
  cases h_step with
  | published n => exact ⟨h.acquired, h.composed, h.pending⟩
  | passed call env outcome h_free h_outcome =>
    refine ⟨?_, ?_, nofun⟩
    · rw [h.acquired, h_free]
      simp
    · -- a call that saves nothing returns the state it found, or its error counts for nothing
      rw [composed_snoc, h.composed]
      split
      · next h_returned =>
        exact (h_outcome h_returned).2
      · rfl
  | entered call env updated h_free h_updated h_changed =>
    refine ⟨?_, h.composed, ?_⟩
    · rw [h.acquired, h_free]
      simp
    · -- the state the call is to save is the one its command made of the state found
      rintro p ⟨⟩
      exact ⟨rfl, h_updated⟩
  | saved p h_holder h_saved =>
    refine ⟨?_, h.composed, ?_⟩
    · rw [h.acquired, h_holder]
      rfl
    · rintro p' ⟨⟩
      exact h.pending p h_holder
  | raised p e h_holder h_late =>
    refine ⟨?_, ?_, nofun⟩
    · rw [h.acquired, h_holder]
      simp
    · -- a save that raises, or whose guard does, adds nothing to the composition
      rw [composed_snoc]
      exact h.composed
  | assigned p n h_holder h_saved =>
    -- nothing was assigned between entry and now, so the call extends the composition
    obtain ⟨h_found, h_command⟩ := h.pending p h_holder
    refine ⟨?_, ?_, nofun⟩
    · rw [h.acquired, h_holder]
      simp
    · rw [composed_snoc, h.composed]
      rw [h_found] at h_command
      exact h_command

/-! ### Saved before it is seen -/

/-- The state is the initial one, or the trace records its save. -/
def Known (initial : σ) (os : List (Observation σ)) (s : σ) : Prop :=
  s = initial ∨ .saved s ∈ os

theorem Known.append {initial s : σ} {os : List (Observation σ)}
    (h : Known initial os s) (os' : List (Observation σ)) :
    Known initial (os ++ os') s :=
  h.imp_right (List.mem_append_left os')

/-- **Persist before publish.** A state that is assigned or seen by a listener is the
initial one or was saved at an earlier position. -/
def PersistedFirst (initial : σ) (os : List (Observation σ)) : Prop :=
  ∀ i s, os[i]? = some (.assigned s) ∨ os[i]? = some (.seen s) →
    Known initial (os.take i) s

theorem PersistedFirst.append {initial : σ} {os os' : List (Observation σ)}
    (h : PersistedFirst initial os)
    (h_new : ∀ s, .assigned s ∈ os' ∨ .seen s ∈ os' → Known initial os s) :
    PersistedFirst initial (os ++ os') := by
  intro i s h_i
  rcases Nat.lt_or_ge i os.length with h_lt | h_ge
  · rw [List.getElem?_append_left h_lt] at h_i
    rw [List.take_append_of_le_length h_lt.le]
    exact h i s h_i
  · rw [List.getElem?_append_right h_ge] at h_i
    rw [List.take_append, List.take_of_length_le h_ge]
    refine Known.append (h_new s ?_) _
    exact h_i.imp List.mem_of_getElem? List.mem_of_getElem?

/-- The trace is persisted first, and so is what may be shown next. -/
structure Persisted (initial : σ) (k : Core σ E ε) : Prop where
  trace : PersistedFirst initial k.trace
  state : Known initial k.trace k.stored.state
  pending : ∀ p, k.holder = some p → p.saved = true → Known initial k.trace p.updated

theorem mem_replicate_seen {n : ℕ} {s t : σ}
    (h : .assigned s ∈ List.replicate n (Observation.seen t) ∨
      .seen s ∈ List.replicate n (Observation.seen t)) : s = t := by
  rcases h with h | h
  · exact nomatch (List.mem_replicate.mp h).2
  · exact Observation.seen.inj (List.mem_replicate.mp h).2

theorem Persisted.start (initial : σ) (env : E) :
    Persisted initial (start initial env : Coordinator σ E ε).core :=
  ⟨fun _ _ h => by simp [core, Coordinator.start] at h, Or.inl rfl, fun _ h => nomatch h⟩

theorem Persisted.step {late : Prop} {initial : σ} {k k' : Core σ E ε}
    (h : Persisted initial k) (h_step : CoreStep late k k') : Persisted initial k' := by
  cases h_step with
  | published n =>
    refine ⟨h.trace.append fun s h_s => ?_, h.state.append _, fun p h_p h_saved => ?_⟩
    · rw [mem_replicate_seen h_s]
      exact h.state
    · exact (h.pending p h_p h_saved).append _
  | passed call env outcome h_free h_outcome => exact ⟨h.trace, h.state, nofun⟩
    -- a call that changes nothing leaves no trace
  | entered call env updated h_free h_updated h_changed =>
    refine ⟨h.trace, h.state, ?_⟩
    rintro p ⟨⟩ ⟨⟩
  | saved p h_holder h_saved =>
    refine ⟨h.trace.append (by simp), h.state.append _, ?_⟩
    rintro p' ⟨⟩ -
    exact Or.inr (List.mem_append_right _ (List.mem_singleton_self _))
  | raised p e h_holder h_late => exact ⟨h.trace, h.state, nofun⟩
  | assigned p n h_holder h_saved =>
    -- what is assigned has been saved before, and then all listeners see it
    have h_updated : Known initial k.trace p.updated := h.pending p h_holder h_saved
    have h_assigned : PersistedFirst initial (k.trace ++ [.assigned p.updated]) := by
      refine h.trace.append fun s h_s => ?_
      obtain rfl : s = p.updated := by simpa using h_s
      exact h_updated
    refine ⟨h_assigned.append fun s h_s => ?_, (h_updated.append _).append _, nofun⟩
    rw [mem_replicate_seen h_s]
    exact h_updated.append _

/-! ### Faulty listeners -/

/-- The same coordinator with listeners that never raise. -/
def calm (c : Coordinator σ E ε) : Coordinator σ E ε :=
  { c with
    listeners := c.listeners.map fun listener => (listener.1, fun _ => .ok ())
    logged := [] }

/-- The same event with a listener that never raises. -/
def Event.calm : Event σ E ε → Event σ E ε
  | .addListener identity _ => .addListener identity fun _ => .ok ()
  | event => event

theorem notify_calm (c : Coordinator σ E ε) (identity : ℕ) (listener : σ → Except ε Unit) :
    c.calm.notify (identity, fun _ => .ok ()) = (c.notify (identity, listener)).calm := by
  unfold notify calm
  dsimp only
  split <;> rfl

theorem publish_calm (c : Coordinator σ E ε) : c.calm.publish = c.publish.calm := by
  unfold publish
  rw [show c.calm.listeners = c.listeners.map fun listener => (listener.1, fun _ => .ok ()) from
    rfl, List.foldl_map]
  generalize c.listeners = listeners
  induction listeners generalizing c with
  | nil => rfl
  | cons listener listeners ih =>
    rw [List.foldl_cons, List.foldl_cons, notify_calm c listener.1 listener.2]
    exact ih _

theorem updateProjection_calm (c : Coordinator σ E ε) (update : E → Except ε Unit × E)
    (guard : Option (E → Except ε Unit)) :
    c.calm.updateProjection update guard = (c.updateProjection update guard).calm := by
  unfold updateProjection
  dsimp only [calm]
  split
  · rfl
  split
  · rfl
  split
  · rfl
  · next env' _ _ _ => exact publish_calm { c with env := env' }

theorem acquire_calm [DecidableEq σ] (c : Coordinator σ E ε) (call : Call σ E ε) :
    c.calm.acquire call = (c.acquire call).calm := by
  unfold acquire
  dsimp only [calm]
  split <;> rfl

theorem resume_calm (c : Coordinator σ E ε) (p : Pending σ E ε) :
    c.calm.resume p = (c.resume p).calm := by
  unfold resume
  dsimp only [calm]
  split
  · rfl
  · exact congrArg (release · p.call p.env p.found (.ok p.updated)) (publish_calm { c with
      stored := { c.stored with state := p.updated }
      trace := c.trace ++ [.assigned p.updated] })

theorem step_calm [DecidableEq σ] (event : Event σ E ε) (c : Coordinator σ E ε) :
    step event.calm c.calm = (step event c).map calm := by
  -- calming an event or a coordinator leaves the lock as it is
  have h_holder : c.calm.holder = c.holder := rfl
  cases event with
  | environment change => rfl
  | addListener identity listener =>
    -- calming the listeners goes through the list
    simp only [step, Event.calm, Except.map, calm, List.filter_map, List.map_append]
    rfl
  | removeListener identity =>
    simp only [step, Event.calm, Except.map, calm, List.filter_map]
    rfl
  | publishRuntimeProjection => exact congrArg Except.ok (publish_calm c)
  | updateProjection update guard =>
    dsimp only [step, Event.calm]
    rw [h_holder]
    cases c.holder with
    | some p => rfl
    | none => exact congrArg Except.ok (updateProjection_calm c update guard)
  | acquire call =>
    dsimp only [step, Event.calm]
    rw [h_holder]
    cases c.holder with
    | some p => rfl
    | none => exact congrArg Except.ok (acquire_calm c call)
  | saved =>
    dsimp only [step, Event.calm]
    rw [h_holder]
    split <;> rfl
  | saveRaised e =>
    dsimp only [step, Event.calm]
    rw [h_holder]
    split <;> rfl
  | resumed =>
    dsimp only [step, Event.calm]
    rw [h_holder]
    split
    · exact congrArg Except.ok (resume_calm c _)
    · rfl

/-! ### The main results -/

/-- What the coordinator promises of the commands of a run. -/
structure Serializable [DecidableEq σ] (initial : σ) (env : E) (events : List (Event σ E ε))
    (c : Coordinator σ E ε) : Prop where
  /-- The calls release the lock in the order in which they acquired it. -/
  order : c.acquired = c.entries.map (·.call) ++ c.holder.toList.map (·.call)
  /-- No update is lost and none is made twice. -/
  composition : composed initial c.entries = .ok c.state
  persisted : PersistedFirst initial c.trace
  /-- A command that would change nothing saves nothing and shows nothing. -/
  unchanged : ∀ call : Call σ E ε, c.holder = none →
    (call.command c.env c.state).1 = .ok c.state →
      (c.acquire call).stored = c.stored ∧ (c.acquire call).holder = none ∧
        (c.acquire call).trace = c.trace
  /-- The same run with listeners that never raise ends in the same coordinator. -/
  listeners : perform step (start initial env) (events.map Event.calm) = c.calm

theorem acquire_unchanged [DecidableEq σ] {c : Coordinator σ E ε} {call : Call σ E ε}
    (h : (call.command c.env c.stored.state).1 = .ok c.stored.state) :
    (c.acquire call).stored = c.stored ∧ (c.acquire call).holder = none ∧
      (c.acquire call).trace = c.trace := by
  unfold acquire
  rcases h_prepare : call.prepare c.env c.stored.state with ⟨e | updated?, env'⟩
  · exact ⟨rfl, rfl, rfl⟩
  · cases updated? with
    | none => exact ⟨rfl, rfl, rfl⟩
    | some updated =>
      obtain ⟨h_updated, h_changed⟩ := Call.prepare_updated h_prepare
      exact absurd (Except.ok.inj (h_updated.symm.trans h)) h_changed

/-- **Commands are serializable and persisted before they are visible**, for any calls, in
any order of events. -/
theorem commands_serialize [DecidableEq σ] (initial : σ) (env : E)
    (events : List (Event σ E ε)) :
    Serializable initial env events (perform step (start initial env) events) := by
  have h_serial : Serial initial (perform step (start initial env) events).core :=
    perform_invariant (I := fun c => Serial initial c.core)
      (fun _ _ _ h h_step => h.step (step_core h_step)) (Serial.start initial env)
  have h_persisted : Persisted initial (perform step (start initial env) events).core :=
    perform_invariant (I := fun c => Persisted initial c.core)
      (fun _ _ _ h h_step => h.step (step_core h_step)) (Persisted.start initial env)
  exact {
    order := h_serial.acquired
    composition := h_serial.composed
    persisted := h_persisted.trace
    unchanged := fun _ _ h => acquire_unchanged h
    listeners := show perform step (start initial env).calm (events.map Event.calm) = _ from
      perform_map step_calm }

/-! ### Rejected commands -/

/-- A call that raised left both states as it found them, and while no call holds the lock
the saved state is the current one. -/
structure LeavesNoTrace (c : Coordinator σ E ε) : Prop where
  raised : ∀ entry ∈ c.entries, entry.returned = false → entry.left = entry.found
  idle : c.holder = none → c.durable = c.state

/-- The invariant: a pending save has not touched the states yet, or is on disk. -/
structure Traceless (k : Core σ E ε) : Prop where
  raised : ∀ entry ∈ k.entries, entry.returned = false → entry.left = entry.found
  idle : k.holder = none → k.stored.durable = k.stored.state
  waiting : ∀ p, k.holder = some p → p.saved = false →
    k.stored = p.found ∧ k.stored.durable = k.stored.state
  written : ∀ p, k.holder = some p → p.saved = true → k.stored.durable = p.updated

theorem Traceless.start (initial : σ) (env : E) :
    Traceless (start initial env : Coordinator σ E ε).core :=
  ⟨fun _ h => (nomatch h), fun _ => rfl, fun _ h => (nomatch h), fun _ h => (nomatch h)⟩

theorem Traceless.step {k k' : Core σ E ε} (h : Traceless k) (h_step : CoreStep False k k') :
    Traceless k' := by
  cases h_step with
  | published n => exact ⟨h.raised, h.idle, h.waiting, h.written⟩
  | passed call env outcome h_free h_outcome =>
    -- a call that is refused has found the state it leaves
    refine ⟨fun entry h_entry h_raised => ?_, fun _ => h.idle h_free, nofun, nofun⟩
    rcases List.mem_append.mp h_entry with h_old | h_new
    · exact h.raised entry h_old h_raised
    · rw [List.mem_singleton.mp h_new]
  | entered call env updated h_free h_updated h_changed =>
    refine ⟨h.raised, nofun, ?_, ?_⟩
    · rintro p ⟨⟩ -
      exact ⟨rfl, h.idle h_free⟩
    · rintro p ⟨⟩ ⟨⟩
  | saved p h_holder h_saved =>
    refine ⟨h.raised, nofun, ?_, ?_⟩
    · rintro p' ⟨⟩ ⟨⟩
    · rintro p' ⟨⟩ -
      rfl
  | raised p e h_holder h_late =>
    -- The save raised: a guard that raises after it is excluded.
    obtain ⟨h_found, h_same⟩ := h.waiting p h_holder (by simpa using h_late)
    refine ⟨fun entry h_entry h_raised => ?_, fun _ => h_same, nofun, nofun⟩
    rcases List.mem_append.mp h_entry with h_old | h_new
    · exact h.raised entry h_old h_raised
    · rw [List.mem_singleton.mp h_new]
      exact h_found
  | assigned p n h_holder h_saved =>
    refine ⟨fun entry h_entry h_raised => ?_, fun _ => h.written p h_holder h_saved, nofun, nofun⟩
    rcases List.mem_append.mp h_entry with h_old | h_new
    · exact h.raised entry h_old h_raised
    · rw [List.mem_singleton.mp h_new] at h_raised
      exact nomatch h_raised

/-- **A rejected command leaves no trace**, in every state of a run in which the guard of
a call passes whenever its save has become durable. -/
theorem rejected_command_leaves_no_trace [DecidableEq σ] (initial : σ) (env : E)
    (events : List (Event σ E ε)) (h_run : EachStep step ResumesPass (start initial env) events)
    (n : ℕ) : LeavesNoTrace (stateAt step (start initial env) events n) := by
  have h_traceless : Traceless (stateAt step (start initial env) events n).core := by
    refine EachStep.stateAt (I := fun c => Traceless c.core) (fun c event c' h h_pass h_step => ?_)
      h_run (Traceless.start initial env) n
    exact h.step ((step_core h_step).mono fun h_fails => h_fails h_pass)
  exact ⟨h_traceless.raised, h_traceless.idle⟩

end Coordinator

/-! ### The planner's commands -/

/-- A command of the planner under `require_command_generation`. -/
def guardedCall (generation : ℕ) (command : PlannerState → Except PyError PlannerState) :
    Call PlannerState RuntimeFlags PyError where
  command flags state := (command state, flags)
  guard := some fun flags => flags.requireCommandGeneration generation

/-- `postpone_area` for one day. -/
def postponeCall (areaId : String) : Call PlannerState RuntimeFlags PyError :=
  guardedCall 0 fun state => postponeArea state areaId 1 1 "postponed"

/-- One action goes through, the next names an area the plan does not have, and the save of
the last one raises. -/
def postponements : List (Coordinator.Event PlannerState RuntimeFlags PyError) :=
  [.acquire (postponeCall "kitchen"), .saved, .resumed, .acquire (postponeCall "attic"),
    .acquire (guardedCall 0 fun state => postponeArea state "kitchen" 2 1 "again"),
    .saveRaised (.osError "No space left on device")]

theorem rejected_command_leaves_no_trace_postponements :
    Coordinator.LeavesNoTrace
      (stateAt Coordinator.step (Coordinator.start kitchenState (.initial true)) postponements 6) :=
  Coordinator.rejected_command_leaves_no_trace kitchenState (.initial true) postponements
    ⟨nofun, nofun, fun _ p h => by cases h; rfl, nofun, nofun, nofun, trivial⟩ 6

/-- The topology is latched while the save of the action is pending. -/
def latchedPostponement : List (Coordinator.Event PlannerState RuntimeFlags PyError) :=
  [.acquire (postponeCall "kitchen"), .environment RuntimeFlags.latchTopology, .saved, .resumed]

/-- **A rejected command leaves a trace**: the third guard raises, the plan in memory is
the old one, and the plan on disk is the postponed one. -/
theorem rejected_command_leaves_a_trace :
    ¬ Coordinator.LeavesNoTrace
      (perform Coordinator.step (Coordinator.start kitchenState (.initial true))
        latchedPostponement) :=
  fun h => absurd (h.idle rfl) (by decide)

end VacuumPlanner
