import VacuumPlanner.Runtime

/-!
# The coordinator

`PlannerCoordinator.async_command` as a machine: any number of calls, one lock, one await
inside the critical section. Everything the coordinator itself does not decide is an
event: which call gets the lock next, how the environment changes while a save is pending,
whether the save becomes durable or raises, and who listens.

A call holds a command and a guard, both of which read the environment (the closures of
`__init__.py` read the flags of their runtime). `Call.prepare` is the body of
`async_command` from the lock to the save: a guard, the command, the comparison with the
current state, and the guard again. A third guard runs when the save returns
(`Event.resumed`).

Two records are kept that the code does not keep. `entries` lists the calls that have
released the lock, each with what it found and what it left behind; since the lock is
exclusive they are in the order in which it was acquired, which `acquired` records
separately. `trace` lists the saves, the assignments of the state and what the listeners
have seen, in order.
-/

namespace VacuumPlanner

open Framework

section Machine

variable {σ E ε : Type}

/-- A call of `async_command`. -/
structure Call (σ E ε : Type) where
  command : E → σ → Except ε σ × E
  guard : Option (E → Except ε Unit)

/-- `if guard is not None: guard()`. -/
def Call.check (call : Call σ E ε) (env : E) : Except ε Unit :=
  match call.guard with
  | none => .ok ()
  | some guard => guard env

/-- `async_command` from the lock to the save. The result is the state to save, or `none`
when the command changed nothing. -/
def Call.prepare [DecidableEq σ] (call : Call σ E ε) (env : E) (state : σ) :
    Except ε (Option σ) × E :=
  match call.check env with
  | .error e => (.error e, env)
  | .ok () =>
    match call.command env state with
    | (.error e, env') => (.error e, env')
    | (.ok updated, env') =>
      -- an equal state is neither guarded again nor saved
      if updated = state then (.ok none, env')
      else
        match call.check env' with
        | .error e => (.error e, env')
        | .ok () => (.ok (some updated), env')

theorem Call.prepare_unchanged [DecidableEq σ] {call : Call σ E ε} {env env' : E} {state : σ}
    (h : call.prepare env state = (.ok none, env')) :
    (call.command env state).1 = .ok state := by
  unfold Call.prepare at h
  split at h
  · exact nomatch h
  split at h
  · exact nomatch h
  next updated env₁ h_command =>
  split at h
  · next h_same => rw [h_command, h_same]
  split at h <;> exact nomatch h

theorem Call.prepare_updated [DecidableEq σ] {call : Call σ E ε} {env env' : E}
    {state updated : σ} (h : call.prepare env state = (.ok (some updated), env')) :
    (call.command env state).1 = .ok updated ∧ updated ≠ state := by
  unfold Call.prepare at h
  split at h
  · exact nomatch h
  split at h
  · exact nomatch h
  next updated' env₁ h_command =>
  split at h
  · exact nomatch h
  next h_ne =>
  split at h
  · exact nomatch h
  · cases h
    exact ⟨by rw [h_command], h_ne⟩

theorem Call.prepare_check [DecidableEq σ] {call : Call σ E ε} {env : E} {state : σ}
    {result : Option σ} (h : (call.prepare env state).1 = .ok result) :
    call.check env = .ok () := by
  unfold Call.prepare at h
  split at h
  · exact nomatch h
  · assumption

/-- The coordinator's state and the last state that was saved. -/
structure Stored (σ : Type) where
  state : σ
  durable : σ
  deriving DecidableEq

/-- A call that holds the lock while its save is pending. -/
structure Pending (σ E ε : Type) where
  call : Call σ E ε
  /-- The environment and the states the call found when it acquired the lock. -/
  env : E
  found : Stored σ
  updated : σ
  /-- The save has become durable. -/
  saved : Bool

/-- A call that has released the lock. -/
structure Entry (σ E ε : Type) where
  call : Call σ E ε
  env : E
  found : Stored σ
  left : Stored σ
  outcome : Except ε σ

/-- The call returned normally. -/
def Entry.returned (entry : Entry σ E ε) : Bool := entry.outcome.toBool

/-- The command function of the call, as it was when the call acquired the lock. -/
def Entry.apply (state : σ) (entry : Entry σ E ε) : Except ε σ :=
  (entry.call.command entry.env state).1

inductive Observation (σ : Type) where
  | saved (state : σ)
  | assigned (state : σ)
  | seen (state : σ)
  deriving DecidableEq

structure Coordinator (σ E ε : Type) where
  stored : Stored σ
  env : E
  /-- The registered listeners, each under its identity. -/
  listeners : List (ℕ × (σ → Except ε Unit))
  holder : Option (Pending σ E ε)
  /-- The exceptions of listeners that were logged. -/
  logged : List ε
  acquired : List (Call σ E ε)
  entries : List (Entry σ E ε)
  trace : List (Observation σ)

namespace Coordinator

/-- A new coordinator: its state was just loaded or saved. -/
def start (initial : σ) (env : E) : Coordinator σ E ε where
  stored := ⟨initial, initial⟩
  env
  listeners := []
  holder := none
  logged := []
  acquired := []
  entries := []
  trace := []

def state (c : Coordinator σ E ε) : σ := c.stored.state

def durable (c : Coordinator σ E ε) : σ := c.stored.durable

/-- The loop body of `_publish`: an exception of the listener is logged. -/
def notify (c : Coordinator σ E ε) (listener : ℕ × (σ → Except ε Unit)) :
    Coordinator σ E ε :=
  match listener.2 c.stored.state with
  | .ok () => { c with trace := c.trace ++ [.seen c.stored.state] }
  | .error e =>
    { c with trace := c.trace ++ [.seen c.stored.state], logged := c.logged ++ [e] }

/-- `_publish`. -/
def publish (c : Coordinator σ E ε) : Coordinator σ E ε :=
  c.listeners.foldl notify c

/-- `async_update_projection` under the lock. -/
def updateProjection (c : Coordinator σ E ε) (update : E → Except ε Unit × E)
    (guard : Option (E → Except ε Unit)) : Coordinator σ E ε :=
  let check (env : E) : Except ε Unit := (guard.getD fun _ => .ok ()) env
  match check c.env with
  | .error _ => c
  | .ok () =>
    match update c.env with
    | (.error _, env') => { c with env := env' }
    | (.ok (), env') =>
      match check env' with
      -- the update has been made, but nobody is told
      | .error _ => { c with env := env' }
      | .ok () => { c with env := env' }.publish

/-- The call releases the lock. -/
def release (c : Coordinator σ E ε) (call : Call σ E ε) (env : E) (found : Stored σ)
    (outcome : Except ε σ) : Coordinator σ E ε :=
  { c with
    holder := none
    entries := c.entries ++ [⟨call, env, found, c.stored, outcome⟩] }

/-- The call acquires the lock and runs until it returns, raises or awaits its save. -/
def acquire [DecidableEq σ] (c : Coordinator σ E ε) (call : Call σ E ε) :
    Coordinator σ E ε :=
  let (result, env') := call.prepare c.env c.stored.state
  let c' := { c with env := env', acquired := c.acquired ++ [call] }
  match result with
  | .error e => c'.release call c.env c.stored (.error e)
  | .ok none => c'.release call c.env c.stored (.ok c.stored.state)
  -- the call keeps the lock while it waits for the store
  | .ok (some updated) => { c' with holder := some ⟨call, c.env, c.stored, updated, false⟩ }

/-- The save has returned: the third guard, the assignment and the publication. -/
def resume (c : Coordinator σ E ε) (p : Pending σ E ε) : Coordinator σ E ε :=
  match p.call.check c.env with
  -- the store has the new state already, the coordinator keeps the old one
  | .error e => c.release p.call p.env p.found (.error e)
  | .ok () =>
    let assigned : Coordinator σ E ε := { c with
      stored := { c.stored with state := p.updated }
      trace := c.trace ++ [.assigned p.updated] }
    assigned.publish.release p.call p.env p.found (.ok p.updated)

inductive Event (σ E ε : Type) where
  /-- Anything outside the coordinator changes the environment. -/
  | environment (change : E → E)
  | addListener (identity : ℕ) (listener : σ → Except ε Unit)
  | removeListener (identity : ℕ)
  | publishRuntimeProjection
  | updateProjection (update : E → Except ε Unit × E) (guard : Option (E → Except ε Unit))
  | acquire (call : Call σ E ε)
  | saved
  | saveRaised (e : ε)
  | resumed

/-- One event. An event that cannot happen in the current state is refused. -/
def step [DecidableEq σ] : Event σ E ε → Coordinator σ E ε → Except Unit (Coordinator σ E ε)
  | .environment change, c => .ok { c with env := change c.env }
  | .addListener identity listener, c =>
    .ok { c with listeners := c.listeners.filter (·.1 ≠ identity) ++ [(identity, listener)] }
  | .removeListener identity, c =>
    .ok { c with listeners := c.listeners.filter (·.1 ≠ identity) }
  | .publishRuntimeProjection, c => .ok c.publish
  | .updateProjection update guard, c =>
    match c.holder with
    | some _ => .error ()
    | none => .ok (c.updateProjection update guard)
  | .acquire call, c =>
    match c.holder with
    | some _ => .error ()
    | none => .ok (c.acquire call)
  | .saved, c =>
    match c.holder with
    | some ⟨call, env, found, updated, false⟩ =>
      .ok { c with
        stored := { c.stored with durable := updated }
        holder := some ⟨call, env, found, updated, true⟩
        trace := c.trace ++ [.saved updated] }
    | _ => .error ()
  | .saveRaised e, c =>
    match c.holder with
    | some ⟨call, env, found, _, false⟩ => .ok (c.release call env found (.error e))
    | _ => .error ()
  | .resumed, c =>
    match c.holder with
    | some ⟨call, env, found, updated, true⟩ => .ok (c.resume ⟨call, env, found, updated, true⟩)
    | _ => .error ()

/-! ### What an event does -/

section Events

variable {c c' : Coordinator σ E ε}

/-- What the properties of a run speak about. -/
structure Core (σ E ε : Type) where
  stored : Stored σ
  holder : Option (Pending σ E ε)
  acquired : List (Call σ E ε)
  entries : List (Entry σ E ε)
  trace : List (Observation σ)

def core (c : Coordinator σ E ε) : Core σ E ε :=
  ⟨c.stored, c.holder, c.acquired, c.entries, c.trace⟩

/-- Everything an event can do. `late` says whether a guard may raise after its save. -/
inductive CoreStep (late : Prop) (k : Core σ E ε) : Core σ E ε → Prop
  /-- Nothing but listeners that see the current state. -/
  | published (n : ℕ) :
    CoreStep late k { k with trace := k.trace ++ List.replicate n (.seen k.stored.state) }
  /-- A call that acquires the lock and raises, or returns the state it found. -/
  | passed (call : Call σ E ε) (env : E) (outcome : Except ε σ)
      (h_free : k.holder = none)
      (h_outcome : outcome.toBool = true →
        outcome = .ok k.stored.state ∧ (call.command env k.stored.state).1 = .ok k.stored.state) :
    CoreStep late k { k with
      holder := none
      acquired := k.acquired ++ [call]
      entries := k.entries ++ [⟨call, env, k.stored, k.stored, outcome⟩] }
  /-- A call that acquires the lock and awaits its save. -/
  | entered (call : Call σ E ε) (env : E) (updated : σ)
      (h_free : k.holder = none)
      (h_updated : (call.command env k.stored.state).1 = .ok updated)
      (h_changed : updated ≠ k.stored.state) :
    CoreStep late k { k with
      acquired := k.acquired ++ [call]
      holder := some ⟨call, env, k.stored, updated, false⟩ }
  | saved (p : Pending σ E ε) (h_holder : k.holder = some p)
      (h_saved : p.saved = false) :
    CoreStep late k { k with
      stored := { k.stored with durable := p.updated }
      holder := some { p with saved := true }
      trace := k.trace ++ [.saved p.updated] }
  /-- The save raises, or the guard after it does. -/
  | raised (p : Pending σ E ε) (e : ε) (h_holder : k.holder = some p)
      (h_late : p.saved = true → late) :
    CoreStep late k { k with
      holder := none
      entries := k.entries ++ [⟨p.call, p.env, p.found, k.stored, .error e⟩] }
  | assigned (p : Pending σ E ε) (n : ℕ) (h_holder : k.holder = some p)
      (h_saved : p.saved = true) :
    CoreStep late k { k with
      stored := { k.stored with state := p.updated }
      holder := none
      entries := k.entries ++
        [⟨p.call, p.env, p.found, { k.stored with state := p.updated }, .ok p.updated⟩]
      trace := k.trace ++ [.assigned p.updated] ++ List.replicate n (.seen p.updated) }

theorem CoreStep.mono {late late' : Prop} {k k' : Core σ E ε} (h : CoreStep late k k')
    (imp : late → late') : CoreStep late' k k' := by
  cases h with
  | published n => exact .published n
  | passed call env outcome h_free h_outcome => exact .passed call env outcome h_free h_outcome
  | entered call env updated h_free h_updated h_changed =>
    exact .entered call env updated h_free h_updated h_changed
  | saved p h_holder h_saved => exact .saved p h_holder h_saved
  | raised p e h_holder h_late => exact .raised p e h_holder (imp ∘ h_late)
  | assigned p n h_holder h_saved => exact .assigned p n h_holder h_saved

theorem CoreStep.refl (late : Prop) (k : Core σ E ε) : CoreStep late k k := by
  have h : CoreStep late k { k with trace := k.trace ++ List.replicate 0 (.seen k.stored.state) } :=
    .published 0
  rwa [List.replicate_zero, List.append_nil] at h

theorem notify_core (c : Coordinator σ E ε) (listener : ℕ × (σ → Except ε Unit)) :
    (c.notify listener).core = { c.core with trace := c.trace ++ [.seen c.stored.state] } := by
  unfold notify
  split <;> rfl

/-- Publishing shows every listener the current state, and does nothing else. -/
theorem publish_core (c : Coordinator σ E ε) :
    c.publish.core = { c.core with
      trace := c.trace ++ List.replicate c.listeners.length (.seen c.stored.state) } := by
  unfold publish
  generalize c.listeners = listeners
  induction listeners generalizing c with
  | nil =>
    rw [List.foldl_nil, List.length_nil, List.replicate_zero, List.append_nil]
    rfl
  | cons listener listeners ih =>
    have h_notify := notify_core c listener
    have h_trace : (c.notify listener).trace = c.trace ++ [.seen c.stored.state] :=
      congrArg Core.trace h_notify
    have h_stored : (c.notify listener).stored = c.stored := congrArg Core.stored h_notify
    rw [List.foldl_cons, ih, h_notify, h_trace, h_stored, List.append_assoc]
    rfl

theorem release_core (c : Coordinator σ E ε) (call : Call σ E ε) (env : E) (found : Stored σ)
    (outcome : Except ε σ) : (c.release call env found outcome).core =
      { c.core with
        holder := none
        entries := c.core.entries ++ [⟨call, env, found, c.core.stored, outcome⟩] } := rfl

/-- An acquired lock is released at once, or held until the save returns. -/
theorem acquire_core [DecidableEq σ] (late : Prop) (h_free : c.holder = none)
    (call : Call σ E ε) : CoreStep late c.core (c.acquire call).core := by
  unfold acquire
  rcases h : call.prepare c.env c.stored.state with ⟨e | updated?, env'⟩
  · exact CoreStep.passed call c.env (.error e) h_free fun h => nomatch h
  · cases updated? with
    | none =>
      exact CoreStep.passed call c.env (.ok c.stored.state) h_free fun _ =>
        ⟨rfl, Call.prepare_unchanged h⟩
    | some updated =>
      obtain ⟨h_updated, h_changed⟩ := Call.prepare_updated h
      exact CoreStep.entered call c.env updated h_free h_updated h_changed

/-- A call whose save has returned raises only when its guard does. -/
theorem resume_core {p : Pending σ E ε} (h_holder : c.holder = some p)
    (h_saved : p.saved = true) :
    CoreStep (p.call.check c.env ≠ .ok ()) c.core (c.resume p).core := by
  unfold resume
  split
  · next e h =>
    exact CoreStep.raised p e h_holder fun _ => by rw [h]; exact nofun
  · rw [release_core, publish_core]
    exact CoreStep.assigned p c.listeners.length h_holder h_saved

/-- When a save becomes durable and its call resumes, its guard still passes. -/
def ResumesPass (c : Coordinator σ E ε) (event : Event σ E ε) : Prop :=
  event = .resumed → ∀ p, c.holder = some p → p.call.check c.env = .ok ()

theorem updateProjection_core (late : Prop) (update : E → Except ε Unit × E)
    (guard : Option (E → Except ε Unit)) :
    CoreStep late c.core (c.updateProjection update guard).core := by
  have h_quiet (env : E) : CoreStep late c.core { c with env := env }.core :=
    CoreStep.refl late c.core
  unfold updateProjection
  dsimp only
  split
  · exact h_quiet c.env
  split
  · exact h_quiet _
  split
  · exact h_quiet _
  · rw [publish_core]
    exact CoreStep.published c.listeners.length

/-- **Every event** of the coordinator is one of the steps of `CoreStep`, and a guard
raises after its save only where `ResumesPass` fails. -/
theorem step_core [DecidableEq σ] {event : Event σ E ε} (h : step event c = .ok c') :
    CoreStep (¬ ResumesPass c event) c.core c'.core := by
  cases event with
  | environment change => cases h; exact CoreStep.refl _ _
  | addListener identity listener => cases h; exact CoreStep.refl _ _
  | removeListener identity => cases h; exact CoreStep.refl _ _
  | publishRuntimeProjection =>
    cases h
    rw [publish_core]
    exact CoreStep.published c.listeners.length
  -- from here on the lock decides: free for a call that enters, held for one that goes on
  | updateProjection update guard =>
    dsimp only [step] at h
    split at h
    · exact nomatch h
    · cases h
      exact updateProjection_core _ update guard
  | acquire call =>
    dsimp only [step] at h
    split at h
    · exact nomatch h
    · next h_free =>
      cases h
      exact acquire_core _ h_free call
  | saved =>
    dsimp only [step] at h
    split at h
    · next call env found updated h_holder =>
      cases h
      exact CoreStep.saved ⟨call, env, found, updated, false⟩ h_holder rfl
    · exact nomatch h
  | saveRaised e =>
    dsimp only [step] at h
    split at h
    · next call env found updated h_holder =>
      cases h
      exact CoreStep.raised ⟨call, env, found, updated, false⟩ e h_holder nofun
    · exact nomatch h
  | resumed =>
    dsimp only [step] at h
    split at h
    · next call env found updated h_holder =>
      cases h
      -- the guard after the save is the one late refusal, and `ResumesPass` is about it
      refine (resume_core h_holder rfl).mono fun h_raises h_pass => ?_
      exact h_raises (h_pass rfl _ h_holder)
    · exact nomatch h

end Events

end Coordinator

end Machine

end VacuumPlanner
