import VacuumPlanner.NativeArea

/-!
# What a preflight confirms

A dispatch is bound when every check has passed. `bindAdapter_ok` says once what is known then:
the vacuum and the selector are those of the entry, and the modes of all jobs agree. What the
checks do to the runtime is at most one of its own acts, the one that latches the topology
(`bindAdapter_latches`), so the start of a dispatch is the `preflight` act of `Dispatch` with
its answer computed (`NativeRuntime.dispatch_acts`).
-/

namespace VacuumPlanner

open Framework

variable {config : NativeConfig} {hass : HomeAssistant} {observed : Bool} {now : Instant}
  {modes : List Mode} {r r' : Runtime} {bound : Bound}

/-! ### Every check has passed -/

/-- What is known of a dispatch of these modes once it is bound, in mode `m`. -/
structure Confirms (config : NativeConfig) (modes : List Mode) (bound : Bound) (m : Mode) :
    Prop where
  modes : ∀ mode ∈ modes, mode = m
  vacuum : ∃ registryId, config.vacuumRegistryId = some registryId ∧
    usableVacuum bound.hass registryId = some bound.adapter.vacuumEntityId
  /-- Where mopping is required, the selector bound at setup takes the mode. -/
  selector : config.requiresVacuumAndMop = true → ∃ entityId,
    resolveBoundCleaningModeEntity bound.hass config.cleaningModeRegistryId = .ok (some entityId) ∧
      bound.adapter.cleaningModeEntityId = some entityId ∧ bound.modeOption = some m.option
  /-- Where it is not, there is no selector, and the robot vacuums. -/
  plain : config.requiresVacuumAndMop = false →
    bound.adapter.cleaningModeEntityId = none ∧ bound.modeOption = none ∧ m = .vacuum

theorem resolveCommandVacuum_ok {entityId : String}
    (h : resolveCommandVacuum config hass observed now r = (.ok entityId, r')) :
    r' = r ∧ ∃ registryId, config.vacuumRegistryId = some registryId ∧
      usableVacuum hass registryId = some entityId := by
  unfold resolveCommandVacuum at h
  split at h
  · exact nomatch congrArg Prod.fst h
  · next registryId h_id =>
    split at h
    · next entityId' h_usable =>
      obtain ⟨h_entity, rfl⟩ := Prod.mk.inj h
      cases h_entity
      exact ⟨rfl, registryId, h_id, h_usable⟩
    · exact nomatch congrArg Prod.fst h

theorem resolveCommandCleaningMode_ok {entityId : Option String}
    (h : resolveCommandCleaningMode config hass r = (.ok entityId, r')) :
    r' = r ∧ (config.requiresVacuumAndMop = false → entityId = none) ∧
      (config.requiresVacuumAndMop = true → ∃ e, entityId = some e ∧
        resolveBoundCleaningModeEntity hass config.cleaningModeRegistryId = .ok (some e)) := by
  unfold resolveCommandCleaningMode at h
  split at h
  · next h_plain =>
    obtain ⟨h_entity, rfl⟩ := Prod.mk.inj h
    cases h_entity
    refine ⟨rfl, fun _ => rfl, fun h_requires => ?_⟩
    exact absurd (h_requires.symm.trans h_plain) Bool.noConfusion
  · next h_requires =>
    split at h
    · exact nomatch congrArg Prod.fst h
    · next e h_resolved =>
      obtain ⟨h_entity, rfl⟩ := Prod.mk.inj h
      cases h_entity
      exact ⟨rfl, fun h_plain => absurd h_plain h_requires, fun _ => ⟨e, rfl, h_resolved⟩⟩
    · exact nomatch congrArg Prod.fst h

/-- The one mode of a list without duplicates. -/
theorem mode_of_dedup {m : Mode} (h : (if modes = [] then [Mode.vacuum] else modes).dedup = [m]) :
    ∀ mode ∈ modes, mode = m := by
  intro mode h_mode
  have h_some : modes ≠ [] := List.ne_nil_of_mem h_mode
  rw [if_neg h_some] at h
  have h_in : mode ∈ modes.dedup := List.mem_dedup.mpr h_mode
  rw [h] at h_in
  exact List.mem_singleton.mp h_in

theorem NativeAreaAdapter.confirmMode_ok {entityId : String} {m : Mode} {modeOption : Option String}
    (h : confirmMode hass entityId m = .ok modeOption) : modeOption = some m.option := by
  unfold confirmMode at h
  obtain ⟨state, -, h⟩ := bind_eq_ok.mp h
  split at h
  · obtain ⟨-, h⟩ := seq_eq_ok.mp h
    exact (pure_eq_ok.mp h).symm
  · exact nomatch h

/-- A preflight that passes has found one mode, and chooses it wherever there is a selector. -/
theorem NativeAreaAdapter.preflight_ok {adapter : NativeAreaAdapter} {modeOption : Option String}
    (h : adapter.preflight hass modes = .ok modeOption) : ∃ m : Mode,
      (∀ mode ∈ modes, mode = m) ∧
      (adapter.cleaningModeEntityId = none → m = .vacuum ∧ modeOption = none) ∧
      (∀ e, adapter.cleaningModeEntityId = some e → modeOption = some m.option) := by
  unfold preflight at h
  obtain ⟨state, -, h⟩ := bind_eq_ok.mp h
  obtain ⟨-, h⟩ := seq_eq_ok.mp h
  obtain ⟨-, h⟩ := seq_eq_ok.mp h
  split at h
  · exact nomatch h
  · next h_modes h_none =>
    refine ⟨.vacuum, mode_of_dedup h_modes, fun _ => ⟨rfl, (pure_eq_ok.mp h).symm⟩, fun e h_e => ?_⟩
    exact nomatch h_none.symm.trans h_e
  · next m e h_modes h_some =>
    refine ⟨m, mode_of_dedup h_modes, fun h_none => ?_, fun _ _ => confirmMode_ok h⟩
    exact nomatch h_some.symm.trans h_none
  · exact nomatch h

/-- **Every check has passed** when a dispatch is bound, and none of them has touched the
runtime. -/
theorem bindAdapter_ok (h : bindAdapter config hass observed now modes r = (.ok bound, r')) :
    r' = r ∧ bound.hass = hass ∧ ∃ m, Confirms config modes bound m := by
  unfold bindAdapter at h
  split at h
  · exact nomatch congrArg Prod.fst h
  · next vacuumEntityId r₁ h_vacuum =>
    -- the checks run in order: the vacuum, the selector, then the modes of the jobs
    obtain ⟨rfl, h_registry⟩ := resolveCommandVacuum_ok h_vacuum
    split at h
    · exact nomatch congrArg Prod.fst h
    · next cleaningModeEntityId r₂ h_mode =>
      obtain ⟨rfl, h_plain, h_selector⟩ := resolveCommandCleaningMode_ok h_mode
      dsimp only at h
      split at h
      · next modeOption h_preflight =>
        obtain ⟨h_bound, rfl⟩ := Prod.mk.inj h
        cases h_bound
        obtain ⟨m, h_modes, h_none, h_some⟩ := NativeAreaAdapter.preflight_ok h_preflight
        refine ⟨rfl, rfl, m, h_modes, h_registry, fun h_requires => ?_, fun h_not => ?_⟩
        · obtain ⟨e, h_e, h_resolved⟩ := h_selector h_requires
          exact ⟨e, h_resolved, h_e, h_some e h_e⟩
        · obtain ⟨rfl, rfl⟩ := h_none (h_plain h_not)
          exact ⟨h_plain h_not, rfl, rfl⟩
      · exact nomatch congrArg Prod.fst h

/-! ### What the checks do to the runtime -/

/-- Nothing, or one of the acts that latch the topology. -/
def Latches (now : Instant) (r r' : Runtime) : Prop :=
  r' = r ∨ r.step .latchTopology = .ok (r', none) ∨ r.step (.failClosed now) = .ok (r', none)

theorem resolveCommandVacuum_latches (config : NativeConfig) (hass : HomeAssistant)
    (observed : Bool) (now : Instant) (r : Runtime) :
    Latches now r (resolveCommandVacuum config hass observed now r).2 := by
  unfold resolveCommandVacuum
  split
  · exact Or.inl rfl
  · split
    · exact Or.inl rfl
    · dsimp only
      split
      · exact Or.inr (Or.inr rfl)
      · split
        · exact Or.inr (Or.inl rfl)
        · exact Or.inl rfl

theorem resolveCommandCleaningMode_latches (config : NativeConfig) (hass : HomeAssistant)
    (now : Instant) (r : Runtime) :
    Latches now r (resolveCommandCleaningMode config hass r).2 := by
  unfold resolveCommandCleaningMode
  split
  · exact Or.inl rfl
  · split
    · exact Or.inl rfl
    · exact Or.inl rfl
    · exact Or.inr (Or.inl rfl)

theorem bindAdapter_latches (config : NativeConfig) (hass : HomeAssistant) (observed : Bool)
    (now : Instant) (modes : List Mode) (r : Runtime) :
    Latches now r (bindAdapter config hass observed now modes r).2 := by
  have h_vacuum := resolveCommandVacuum_latches config hass observed now r
  unfold bindAdapter
  split
  · next e r₁ h =>
    rw [h] at h_vacuum
    exact h_vacuum
  · next vacuumEntityId r₁ h =>
    -- the vacuum was resolved without touching the runtime
    obtain ⟨rfl, -⟩ := resolveCommandVacuum_ok h
    have h_mode := resolveCommandCleaningMode_latches config hass now r₁
    split
    · next e r₂ h' =>
      rw [h'] at h_mode
      exact h_mode
    · next cleaningModeEntityId r₂ h' =>
      rw [h'] at h_mode
      dsimp only
      split <;> exact h_mode

/-- Latching touches the flags and the tasks of `fail_closed` only. -/
theorem Latches.reflagged (h : Latches now r r') :
    ∃ flags quarantines, r' = { r with flags, quarantines } := by
  rcases h with rfl | h | h
  · exact ⟨r'.flags, r'.quarantines, rfl⟩
  · cases h
    exact ⟨_, r.quarantines, rfl⟩
  · cases h
    unfold Runtime.failClosed
    split
    · exact ⟨r.flags, r.quarantines, rfl⟩
    · exact ⟨_, _, rfl⟩

/-- **The start of a dispatch** is the preflight of its runtime, with the answer computed, after
an act that latches the topology, if any. -/
theorem NativeRuntime.dispatch_acts {n n' : NativeRuntime} {i : ℕ}
    (h : NativeRuntime.step config (.dispatch i hass observed now) n = .ok n') :
    ∃ r result, Latches now n.runtime r ∧
      r.step (.preflight i result) = .ok (n'.runtime, none) := by
  dsimp only [NativeRuntime.step] at h
  split at h
  · next blockId jobs generation h_d =>
    have h_latches :=
      bindAdapter_latches config hass observed now (jobs.map (·.mode)) n.runtime
    split at h
    · -- the adapter is bound: its option is the answer of the preflight
      next bound r h_bind =>
      cases h
      rw [h_bind] at h_latches
      refine ⟨r, .ok bound.modeOption, h_latches, ?_⟩
      obtain ⟨flags, quarantines, rfl⟩ := h_latches.reflagged
      dsimp only [Runtime.step]
      rw [h_d]
    · -- a rejection ends the dispatch as any error of the preflight does
      next e r h_bind =>
      cases h
      rw [h_bind] at h_latches
      refine ⟨r, .error .cancelledError, h_latches, ?_⟩
      obtain ⟨flags, quarantines, rfl⟩ := h_latches.reflagged
      dsimp only [Runtime.step]
      rw [h_d]
  · exact nomatch h

end VacuumPlanner
