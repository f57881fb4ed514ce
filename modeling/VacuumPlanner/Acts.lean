import VacuumPlanner.Dispatch

/-!
# The acts of a runtime, read off once

`Runtime.step` and `Act.request` match on the act, on the dispatch it names and on the call
that holds the lock. `Acted` and `Requests` list what is left when none of these matches
refuses: one constructor for each way the act can happen, with everything the matches have
found as its arguments. What the modules below say of a step is said by cases on these.
-/

namespace VacuumPlanner

namespace Runtime

variable {r r' w : Runtime} {act : Act} {effect : Option Effect} {task : Task}
  {call : PlannerCall}

/-! ### The call an act makes -/

/-- **The call of an act**, its task, and the runtime that waits for it. -/
inductive Requests (r : Runtime) : Act → Runtime → Task → PlannerCall → Prop
  | startNext {call : StartNextCall} {generation : ℕ} {outcome : Option SealOutcome}
      (h_outcome : outcome = ((startNextCommand { call with dryRun := r.dryRun } r.state).map
        Prod.snd).toOption) :
    Requests r (.startNext call generation) r (.startNext generation outcome)
      (guardedCall generation fun s =>
        (startNextCommand { call with dryRun := r.dryRun } s).map Prod.fst)
  | mutate {mutation : Mutation} {generation : ℕ} :
    Requests r (.mutate mutation generation) r .mutation (guardedCall generation mutation.run)
  | observe {outcome : ObservationOutcome} {observedAt : Instant} {revisionIds : ℕ → String}
      {generation : ℕ} :
    Requests r (.observe outcome observedAt revisionIds generation) r .observation
      (observationCall outcome observedAt revisionIds (some generation))
  | quarantineAll {n : ℕ} {observedAt : Instant} (h_n : r.quarantines[n]? = some observedAt) :
    Requests r (.quarantineAll n) { r with quarantines := r.quarantines.eraseIdx n } .observation
      (observationCall .uncertain observedAt (fun _ => "") none)
  | claim {i : ℕ} {now : Instant} {blockId : String} {jobs : List QueueJob} {generation : ℕ}
      {modeOption : Option String}
      (h_d : r.dispatches[i]? = some ⟨blockId, jobs, generation, .ready modeOption⟩) :
    Requests r (.claim i now) (r.setStage i .claiming) (.claim i modeOption)
      (guardedCall generation fun s => (nativeDispatchClaim blockId now s).map Prod.fst)
  | accept {i : ℕ} {acceptedAt : Instant} {blockId : String} {jobs : List QueueJob}
      {generation : ℕ}
      (h_d : r.dispatches[i]? = some ⟨blockId, jobs, generation, .cleaned⟩) :
    Requests r (.accept i acceptedAt) (r.setStage i .accepting) (.acceptance i)
      (guardedCall generation fun s => recordDispatchAcceptance s blockId jobs acceptedAt)
  | quarantine {i : ℕ} {reconciledAt : Instant} {blockId : String} {jobs : List QueueJob}
      {generation : ℕ}
      (h_d : r.dispatches[i]? = some ⟨blockId, jobs, generation, .ambiguous⟩) :
    Requests r (.quarantine i reconciledAt) (r.setStage i .quarantining) (.quarantine i)
      (quarantineCall blockId reconciledAt generation)

/-- A call that is made is one of them. -/
theorem requests_of_request (h : act.request r = some (w, task, call)) :
    Requests r act w task call := by
  cases act with
  | startNext call generation => cases h; exact .startNext rfl
  | mutate mutation generation => cases h; exact .mutate
  | observe outcome observedAt revisionIds generation => cases h; exact .observe
  | quarantineAll n =>
    -- the tasks of a dispatch are requested at the stage that asks for them
    dsimp only [Act.request] at h
    split at h
    · next h_n => cases h; exact .quarantineAll h_n
    · cases h
  | claim i now =>
    dsimp only [Act.request] at h
    split at h
    · next h_d => cases h; exact .claim h_d
    · cases h
  | accept i acceptedAt =>
    dsimp only [Act.request] at h
    split at h
    · next h_d => cases h; exact .accept h_d
    · cases h
  | quarantine i reconciledAt =>
    dsimp only [Act.request] at h
    split at h
    · next h_d => cases h; exact .quarantine h_d
    · cases h
  | latchTopology | failClosed | preflight | callService | serviceReturned | serviceRaised
  | saved | saveRaised | resumed | cancelWaiting | cancelHolder => cases h

/-! ### The runtime an act leaves -/

/-- **What an act makes** of a runtime when it is not refused. -/
inductive Acted (r : Runtime) : Act → Runtime → Option Effect → Prop
  | latched : Acted r .latchTopology { r with flags := r.flags.latchTopology } none
  | failedClosed {observedAt : Instant} :
    Acted r (.failClosed observedAt) (r.failClosed observedAt) none
  | entered {act : Act} {w : Runtime} {task : Task} {call : PlannerCall}
      (h_free : r.holder = none) (h_request : act.request r = some (w, task, call)) :
    Acted r act (w.enter task call) none
  | preflighted {i : ℕ} {d : Dispatch} {modeOption : Option String}
      (h_d : r.dispatches[i]? = some d) (h_stage : d.stage = .created) :
    Acted r (.preflight i (.ok modeOption)) (r.setStage i (.ready modeOption)) none
  | rejected {i : ℕ} {d : Dispatch} {e : PyError} (h_d : r.dispatches[i]? = some d)
      (h_stage : d.stage = .created) :
    Acted r (.preflight i (.error e)) (r.setStage i .finished) none
  | called {i : ℕ} {d : Dispatch} {service : Service} {next : Stage}
      (h_d : r.dispatches[i]? = some d) (h_next : d.stage.nextCall = some (service, next)) :
    Acted r (.callService i) (r.callService i d service next).1
      (r.callService i d service next).2
  | serviceReturned {i : ℕ} {d : Dispatch} {next : Stage} (h_d : r.dispatches[i]? = some d)
      (h_after : d.stage.afterCall = some next) :
    Acted r (.serviceReturned i) (r.setStage i next) none
  | serviceRaised {i : ℕ} {d : Dispatch} {next : Stage} (h_d : r.dispatches[i]? = some d)
      (h_after : d.stage.afterCall = some next) :
    Acted r (.serviceRaised i) (r.setStage i .ambiguous) none
  | saved {held : Held} (h_holder : r.holder = some held) (h_unsaved : held.saved = false) :
    Acted r .saved { r with holder := some { held with saved := true } } (some (.write held.updated))
  | saveRaised {held : Held} {e : PyError} (h_holder : r.holder = some held)
      (h_unsaved : held.saved = false) :
    Acted r (.saveRaised e) ({ r with holder := none }.raised e held.task) none
  | resumed {held : Held} (h_holder : r.holder = some held) (h_saved : held.saved = true) :
    Acted r .resumed (r.resume held) none
  | cancelledReady {i : ℕ} {d : Dispatch} {modeOption : Option String}
      (h_d : r.dispatches[i]? = some d) (h_stage : d.stage = .ready modeOption) :
    Acted r (.cancelWaiting i) (r.setStage i .finished) none
  | cancelledCleaned {i : ℕ} {d : Dispatch} (h_d : r.dispatches[i]? = some d)
      (h_stage : d.stage = .cleaned) :
    Acted r (.cancelWaiting i) (r.setStage i (.interrupted .cancelledError)) none
  | cancelledHolder {held : Held} (h_holder : r.holder = some held)
      (h_task : held.task.cancellable = true) :
    Acted r .cancelHolder ({ r with holder := none }.raised .cancelledError held.task) none

/-- A call that finds the lock free. -/
theorem acted_of_request
    (h : (match r.holder, act.request r with
      | none, some (waiting, task, call) => .ok (waiting.enter task call, none)
      | _, _ => .error ()) = (.ok (r', effect) : Except Unit (Runtime × Option Effect))) :
    Acted r act r' effect := by
  split at h
  · next h_free h_request =>
    cases h
    exact .entered h_free h_request
  · cases h

/-- **Every act** that is not refused is one of them. -/
theorem acted_of_step (h : r.step act = .ok (r', effect)) : Acted r act r' effect := by
  cases act with
  | latchTopology => cases h; exact .latched
  | failClosed observedAt => cases h; exact .failedClosed
  -- these seven only ask for a transaction, as `Act.request` says
  | startNext => exact acted_of_request h
  | mutate => exact acted_of_request h
  | observe => exact acted_of_request h
  | quarantineAll => exact acted_of_request h
  | claim => exact acted_of_request h
  | accept => exact acted_of_request h
  | quarantine => exact acted_of_request h
  | preflight i result =>
    -- a dispatch moves only from the stage that the act is for
    dsimp only [step] at h
    split at h
    · next h_d =>
      split at h
      · cases h; exact .preflighted h_d rfl
      · cases h; exact .rejected h_d rfl
    · cases h
  | callService i =>
    dsimp only [step] at h
    split at h
    · next d h_d =>
      split at h
      · next service next h_next =>
        -- the service is named in the effect, the stage it leaves in the new runtime
        obtain ⟨rfl, rfl⟩ := Prod.mk.inj (Except.ok.inj h)
        exact .called h_d h_next
      · cases h
    · cases h
  | serviceReturned i =>
    dsimp only [step] at h
    split at h
    · next d h_d =>
      split at h
      · next h_after => cases h; exact .serviceReturned h_d h_after
      · cases h
    · cases h
  | serviceRaised i =>
    dsimp only [step] at h
    split at h
    · next d h_d =>
      split at h
      · next h_after => cases h; exact .serviceRaised h_d h_after
      · cases h
    · cases h
  | saved =>
    -- and a save or its return needs a call that holds the lock
    dsimp only [step] at h
    split at h
    · next h_holder => cases h; exact .saved h_holder rfl
    · cases h
  | saveRaised e =>
    dsimp only [step] at h
    split at h
    · next h_holder => cases h; exact .saveRaised h_holder rfl
    · cases h
  | resumed =>
    dsimp only [step] at h
    split at h
    · next h_holder => cases h; exact .resumed h_holder rfl
    · cases h
  | cancelWaiting i =>
    dsimp only [step] at h
    split at h
    · -- a waiting task is either ready to preflight or already cleaned up
      next h_d => cases h; exact .cancelledReady h_d rfl
    · next h_d => cases h; exact .cancelledCleaned h_d rfl
    · cases h
  | cancelHolder =>
    dsimp only [step] at h
    split at h
    · next held h_holder =>
      split at h
      · next h_task => cases h; exact .cancelledHolder h_holder h_task
      · cases h
    · cases h

end Runtime

end VacuumPlanner
