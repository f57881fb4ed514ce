import VacuumPlanner.ConfigFlow

/-!
# What the config flow creates

`created_entry` says what an entry is when one is created: whatever has happened between the
forms, it is one a planner can be set up with. `created_modes` says where its areas can differ in
their mode.

What an entry owes to which moment is said by the steps of the run: the one that selects the
areas (`Selects`), those that answer a form, and ask for it before (`Answered`, `Asked`), and the
one that creates the entry (`Creates`). The invariant (`Sound`) keeps these steps for the areas
that are done and for the form that waits.
-/

namespace VacuumPlanner

open Framework Serialization

/-! ### Which step has done it -/

namespace FlowSession

/-- The step with the index `i` creates the entry, of a vacuum that is valid and free then. -/
structure Creates (schema : FormSchema) (events : List (FlowWorld × FlowInput)) (i : ℕ)
    (registryId : String) (title : Option String) (data : FlowData) : Prop where
  form : ∃ form, (after schema events i).result = .form (.areaPlan form)
  created : (after schema events (i + 1)).result = .createEntry title data
  vacuum : ∃ world input vacuum, events[i]? = some (world, input) ∧
    world.Shows registryId vacuum ∧ vacuum.entityId = title ∧
      world.uniqueIdTaken (some registryId) = none

/-- The step with the index `j` selects the areas, which the vacuum has segments for then. From
there to the index `n` the forms are those of areas. -/
structure Selects (schema : FormSchema) (events : List (FlowWorld × FlowInput)) (j n : ℕ)
    (registryId : String) (areaIds : List String) : Prop where
  before : j < n
  form : ∃ error, (after schema events j).result = .form (.areas error)
  vacuum : ∃ world vacuum, events[j]? = some (world, .areas areaIds) ∧
    world.Shows registryId vacuum ∧ validateAreaIds areaIds vacuum = .ok ()
  since : ∀ k, j < k → k ≤ n → ∃ form, (after schema events k).result = .form (.areaPlan form)

/-- The step with the index `m` asks for the form that is there at `n`, in the world. -/
structure Asked (schema : FormSchema) (events : List (FlowWorld × FlowInput)) (m n : ℕ)
    (world : FlowWorld) : Prop where
  event : ∃ input, events[m]? = some (world, input)
  before : m < n
  since : ∀ k, m < k → k ≤ n → after schema events k = after schema events n

/-- The step with the index `a` answers the form of the area with the index `p`, which the step
with the index `m` has asked for in the world. -/
structure Answered (schema : FormSchema) (events : List (FlowWorld × FlowInput)) (m a p : ℕ)
    (world : FlowWorld) (plan : String × Payload) : Prop where
  asked : Asked schema events m a world
  index : (after schema events a).flow.areaPlanIndex = p
  answer : ∃ form answers world', (after schema events a).result = .form (.areaPlan form) ∧
    events[a]? = some (world', .areaPlan answers) ∧ schema form answers = some plan.2
  recorded : (after schema events (a + 1)).flow.pendingAreaPlans[p]? = some plan

variable {schema : FormSchema} {events : List (FlowWorld × FlowInput)} {j m n p : ℕ}
  {world : FlowWorld} {registryId : String} {areaIds : List String}

theorem Asked.succ (h : Asked schema events m n world)
    (h_same : after schema events (n + 1) = after schema events n) :
    Asked schema events m (n + 1) world where
  event := h.event
  before := h.before.trans (Nat.lt_succ_self n)
  since k h_mk h_kn := by
    rcases Nat.le_or_eq_of_le_succ h_kn with h_kn | rfl
    · rw [h_same, h.since k h_mk h_kn]
    · rfl

/-- A form that has just been asked for. -/
theorem Asked.now {input : FlowInput} (h : events[n]? = some (world, input)) :
    Asked schema events n (n + 1) world where
  event := ⟨input, h⟩
  before := Nat.lt_succ_self n
  since k h_nk h_kn := by rw [le_antisymm h_kn h_nk]

theorem Selects.succ (h : Selects schema events j n registryId areaIds)
    (h_form : ∃ form, (after schema events (n + 1)).result = .form (.areaPlan form)) :
    Selects schema events j (n + 1) registryId areaIds where
  before := h.before.trans (Nat.lt_succ_self n)
  form := h.form
  vacuum := h.vacuum
  since k h_jk h_kn := by
    rcases Nat.le_or_eq_of_le_succ h_kn with h_kn | rfl
    · exact h.since k h_jk h_kn
    · exact h_form

end FlowSession

/-! ### Every flow -/

namespace ConfigFlow

variable {world : FlowWorld} {flow : ConfigFlow} {areaId : String} {settings : AreaPlan}

/-- A mode is that of the first area, or it was asked for while the selector was gone or could
not be read. -/
def Fits (world : FlowWorld) (flow : ConfigFlow) (mode : String) : Prop :=
  ∀ first ∈ flow.pendingAreaPlans.head?, first.2.get "mode" = .str mode ∨
    (first.2.get "mode" = .str PreferredMode.vacuumAndMop.value ∧
      mode = PreferredMode.vacuum.value ∧
      findDreameMovaCleaningModeEntity world.home flow.vacuumRegistryId = .ok none) ∨
    ∃ e, findDreameMovaCleaningModeEntity world.home flow.vacuumRegistryId = .error e

/-- What holds of the selected areas: they are distinct, and the first ones are done, in order. -/
structure Sound (flow : ConfigFlow) : Prop where
  nodup : flow.selectedAreaIds.Nodup
  done : flow.pendingAreaPlans.map Prod.fst = flow.selectedAreaIds.take flow.areaPlanIndex

/-- The area of a form is none of those that are done. -/
theorem Sound.not_done (h : flow.Sound)
    (h_area : flow.selectedAreaIds[flow.areaPlanIndex]? = some areaId) :
    areaId ∉ flow.pendingAreaPlans.map Prod.fst := by
  obtain ⟨h_index, h_get⟩ := List.getElem?_eq_some_iff.mp h_area
  rw [h.done]
  intro h_mem
  have h_split := h.nodup
  rw [← List.take_append_drop flow.areaPlanIndex flow.selectedAreaIds,
    List.drop_eq_getElem_cons h_index, h_get] at h_split
  exact List.disjoint_of_nodup_append h_split h_mem List.mem_cons_self

theorem Sound.record_pending (h : flow.Sound)
    (h_area : flow.selectedAreaIds[flow.areaPlanIndex]? = some areaId) (answers : Payload) :
    (flow.record areaId answers).pendingAreaPlans = flow.pendingAreaPlans ++ [(areaId, answers)] :=
  Dict.set_of_not_mem (h.not_done h_area)

/-- One area more is done. -/
theorem Sound.record (h : flow.Sound)
    (h_area : flow.selectedAreaIds[flow.areaPlanIndex]? = some areaId) (answers : Payload) :
    (flow.record areaId answers).Sound where
  nodup := h.nodup
  done := by
    rw [h.record_pending h_area, List.map_append, h.done]
    show _ = flow.selectedAreaIds.take (flow.areaPlanIndex + 1)
    rw [List.take_add_one, h_area]
    rfl

/-- As many areas are done as the index says. -/
theorem Sound.pending_length (h : flow.Sound)
    (h_area : flow.selectedAreaIds[flow.areaPlanIndex]? = some areaId) :
    flow.pendingAreaPlans.length = flow.areaPlanIndex := by
  obtain ⟨h_index, -⟩ := List.getElem?_eq_some_iff.mp h_area
  have h_length := congrArg List.length h.done
  rw [List.length_map, List.length_take] at h_length
  omega

theorem Fits.record {mode : String} {answers : Payload} (h_sound : flow.Sound)
    (h_area : flow.selectedAreaIds[flow.areaPlanIndex]? = some areaId) (h : flow.Fits world mode)
    (h_first : flow.pendingAreaPlans = [] → answers.get "mode" = .str mode) :
    (flow.record areaId answers).Fits world mode := by
  intro first h_mem
  rw [h_sound.record_pending h_area, List.head?_append] at h_mem
  cases h_pending : flow.pendingAreaPlans with
  | nil =>
    rw [h_pending] at h_mem
    cases h_mem
    exact Or.inl (h_first h_pending)
  | cons plan plans =>
    rw [h_pending] at h_mem
    exact h first (by rw [h_pending]; exact h_mem)

theorem offeredModes_mem {selector : Option String} {mode : String}
    (h : mode ∈ offeredModes selector) : mode ∈ offeredModes (some "") := by
  cases selector with
  | none => exact List.mem_cons.mpr ((List.mem_cons.mp h).imp_right fun h => nomatch h)
  | some entityId => exact h

/-- The modes a form offers fit the first area. -/
theorem modes_fit {selector : Option String}
    (h_first : ∀ first ∈ flow.pendingAreaPlans.head?, ∃ mode ∈ offeredModes (some ""),
      first.2.get "mode" = .str mode)
    (h_selector : findDreameMovaCleaningModeEntity world.home flow.vacuumRegistryId = .ok selector) :
    ∀ mode ∈ (flow.batchMode (offeredModes selector)).elim (offeredModes selector) ([·]),
      mode ∈ offeredModes (some "") ∧ flow.Fits world mode := by
  unfold batchMode
  cases h_pending : flow.pendingAreaPlans with
  | nil =>
    intro mode h_mode
    refine ⟨offeredModes_mem h_mode, fun first h_first => ?_⟩
    rw [h_pending] at h_first
    exact nomatch h_first
  | cons first plans =>
    obtain ⟨m, h_m, h_get⟩ := h_first first (by rw [h_pending]; rfl)
    dsimp only
    rw [h_get]
    dsimp only
    split
    · -- the form offers the mode of the first area only
      intro mode h_mode
      obtain rfl := List.mem_singleton.mp h_mode
      refine ⟨h_m, fun first' h_first' => ?_⟩
      rw [h_pending] at h_first'
      cases h_first'
      exact Or.inl h_get
    · next h_gone =>
      -- the first area mops, and the selector it was promised is not there
      cases selector with
      | some entityId => exact absurd h_m h_gone
      | none =>
        have h_mop : m = PreferredMode.vacuumAndMop.value := by
          rcases List.mem_cons.mp h_m with h_vacuum | h_mop
          · exact absurd (h_vacuum ▸ List.mem_cons_self) h_gone
          · exact List.mem_singleton.mp h_mop
        intro mode h_mode
        refine ⟨offeredModes_mem h_mode, fun first' h_first' => ?_⟩
        rw [h_pending] at h_first'
        cases h_first'
        exact Or.inr (Or.inl ⟨h_mop ▸ h_get, List.mem_singleton.mp h_mode, h_selector⟩)

end ConfigFlow

namespace FlowSession

variable {schema : FormSchema} {events : List (FlowWorld × FlowInput)} {n : ℕ}
  {world : FlowWorld} {input : FlowInput} {flow : ConfigFlow} {session session' : FlowSession}

/-- The areas that are done, each with the step that has answered its form. -/
def Planned (schema : FormSchema) (events : List (FlowWorld × FlowInput)) (n : ℕ)
    (flow : ConfigFlow) : Prop :=
  ∀ p plan, flow.pendingAreaPlans[p]? = some plan → ∃ m a world, ∃ settings : AreaPlan, a < n ∧
    Answered schema events m a p world plan ∧ settings.StoredAs plan.2 ∧
      settings.Answers (ConfigFlow.offeredModes (some "")) ∧ flow.Fits world settings.mode

/-- A form of an area waits for its answers. -/
structure Waits (schema : FormSchema) (events : List (FlowWorld × FlowInput)) (n : ℕ)
    (flow : ConfigFlow) (form : AreaPlanForm) : Prop where
  index : flow.areaPlanIndex < flow.selectedAreaIds.length
  selects : ∃ registryId j, flow.vacuumRegistryId = some registryId ∧
    Selects schema events j n registryId flow.selectedAreaIds
  asked : ∃ m world, Asked schema events m n world ∧ ∀ mode ∈ form.modes,
    mode ∈ ConfigFlow.offeredModes (some "") ∧ flow.Fits world mode

/-- The entry has been created. -/
structure Finished (schema : FormSchema) (events : List (FlowWorld × FlowInput)) (n : ℕ)
    (flow : ConfigFlow) (title : Option String) (data : FlowData) : Prop where
  chosen : flow.selectedAreaIds ≠ []
  index : flow.areaPlanIndex = flow.selectedAreaIds.length
  entry : data = ⟨title, flow.selectedAreaIds, flow.pendingAreaPlans⟩
  creates : ∃ registryId i j, i < n ∧ flow.vacuumRegistryId = some registryId ∧
    Creates schema events i registryId title data ∧
      Selects schema events j i registryId flow.selectedAreaIds ∧
        Planned schema events (i + 1) flow

/-- What holds of a flow and its form, whatever the worlds between its forms. -/
structure Sound (schema : FormSchema) (events : List (FlowWorld × FlowInput)) (n : ℕ)
    (session : FlowSession) : Prop where
  flow : session.flow.Sound
  user : ∀ error, session.result = .form (.user error) → session.flow.selectedAreaIds = []
  planned : Planned schema events n session.flow
  form : ∀ form, session.result = .form (.areaPlan form) →
    Waits schema events n session.flow form
  created : ∀ title data, session.result = .createEntry title data →
    Finished schema events n session.flow title data

theorem Sound.start (schema : FormSchema) (events : List (FlowWorld × FlowInput)) :
    Sound schema events 0 start where
  flow := ⟨List.nodup_nil, rfl⟩
  user _ _ := rfl
  planned _ _ h := nomatch h
  form _ h := nomatch h
  created _ _ h := nomatch h

theorem Planned.succ (h : Planned schema events n flow) : Planned schema events (n + 1) flow := by
  intro p plan h_plan
  obtain ⟨m, a, world, settings, h_a, h_answered⟩ := h p plan h_plan
  exact ⟨m, a, world, settings, h_a.trans (Nat.lt_succ_self n), h_answered⟩

/-- The first area has a mode that was offered. -/
theorem Planned.first_mode (h : Planned schema events n flow) :
    ∀ first ∈ flow.pendingAreaPlans.head?, ∃ mode ∈ ConfigFlow.offeredModes (some ""),
      first.2.get "mode" = .str mode := by
  intro first h_first
  rw [List.head?_eq_getElem?] at h_first
  obtain ⟨-, -, -, settings, -, -, h_stored, h_answers, -⟩ := h 0 first h_first
  exact ⟨settings.mode, h_answers.mode, h_stored.mode⟩

/-- An input that changes nothing. -/
theorem Sound.succ (h : Sound schema events n session)
    (h_n : after schema events n = session) (h_n' : after schema events (n + 1) = session) :
    Sound schema events (n + 1) session where
  flow := h.flow
  user := h.user
  planned := h.planned.succ
  form form h_form := by
    obtain ⟨h_index, ⟨registryId, j, h_id, h_selects⟩, m, world, h_asked, h_modes⟩ :=
      h.form form h_form
    refine ⟨h_index, ⟨registryId, j, h_id, h_selects.succ ⟨form, by rw [h_n', h_form]⟩⟩,
      m, world, h_asked.succ (h_n'.trans h_n.symm), h_modes⟩
  created title data h_created := by
    obtain ⟨h_some, h_index, h_data, registryId, i, j, h_i, h_creates⟩ :=
      h.created title data h_created
    exact ⟨h_some, h_index, h_data, registryId, i, j, h_i.trans (Nat.lt_succ_self n), h_creates⟩

/-- A step that leads to no form of an area and creates nothing. -/
theorem Sound.aside {result : FlowResult} (h_flow : flow.Sound)
    (h_planned : Planned schema events n flow)
    (h_user : ∀ error, result = .form (.user error) → flow.selectedAreaIds = [])
    (h_form : ∀ form, result ≠ .form (.areaPlan form))
    (h_created : ∀ title data, result ≠ .createEntry title data) :
    Sound schema events (n + 1) ⟨flow, result⟩ where
  flow := h_flow
  user := h_user
  planned := h_planned.succ
  form form h := absurd h (h_form form)
  created title data h := absurd h (h_created title data)

theorem asks_flow (world : FlowWorld) (flow : ConfigFlow) (form : Form) :
    (asks world flow form).flow = flow := by
  unfold asks
  cases flow.areaPlanForm world <;> rfl

/-- The form of an area is asked for: it is shown, or the form before it stays. -/
theorem Sound.asks {form : Form} (h_event : events[n]? = some (world, input))
    (h_flow : flow.Sound) (h_planned : Planned schema events (n + 1) flow)
    (h_index : flow.areaPlanIndex < flow.selectedAreaIds.length)
    (h_selects : (∃ shown, (asks world flow form).result = .form (.areaPlan shown)) →
      ∃ registryId j, flow.vacuumRegistryId = some registryId ∧
        Selects schema events j (n + 1) registryId flow.selectedAreaIds)
    (h_user : ∀ error, form ≠ .user error)
    (h_modes : ∀ shown, form = .areaPlan shown →
      ∀ mode ∈ shown.modes, mode ∈ ConfigFlow.offeredModes (some "")) :
    Sound schema events (n + 1) (asks world flow form) := by
  rcases asks_cases world flow form h_index with
    ⟨selector, shown, h_asks, h_selector, h_shown⟩ | ⟨h_asks, e, h_raised⟩
  · rw [h_asks] at h_selects ⊢
    refine ⟨h_flow, nofun, h_planned, fun form' h_form' => ?_, nofun⟩
    cases h_form'
    refine ⟨h_index, h_selects ⟨shown, rfl⟩, n, world, .now h_event, ?_⟩
    -- the modes it offers fit the first area, or say why they do not
    rw [h_shown]
    exact ConfigFlow.modes_fit h_planned.first_mode h_selector
  · rw [h_asks] at h_selects ⊢
    refine ⟨h_flow, fun error h => ?_, h_planned, fun form' h_form' => ?_, nofun⟩
    · cases h
      exact absurd rfl (h_user error)
    · cases h_form'
      -- the form of an earlier area stays for this one
      refine ⟨h_index, h_selects ⟨form', rfl⟩, n, world, .now h_event, fun mode h_mode => ?_⟩
      exact ⟨h_modes form' rfl mode h_mode, fun _ _ => Or.inr (Or.inr ⟨e, h_raised⟩)⟩

/-- The answers of a form are those of the area it waits for. -/
theorem Waits.planned {form : AreaPlanForm} {answers values : Payload} {areaId : String}
    (h_valid : schema.Validates) (h : Waits schema events n flow form) (h_flow : flow.Sound)
    (h_planned : Planned schema events n flow)
    (h_event : events[n]? = some (world, .areaPlan answers))
    (h_n : after schema events n = ⟨flow, .form (.areaPlan form)⟩)
    (h_n' : (after schema events (n + 1)).flow = flow.record areaId values)
    (h_schema : schema form answers = some values)
    (h_strict : ∀ key ∈ ["vacuum_interval_days", "mop_interval_days", "priority"],
      (values.lookup key).any isStrictInt = true)
    (h_area : flow.selectedAreaIds[flow.areaPlanIndex]? = some areaId) :
    Planned schema events (n + 1) (flow.record areaId values) := by
  have h_pending := h_flow.record_pending h_area values
  have h_length := h_flow.pending_length h_area
  intro p plan h_plan
  rw [h_pending] at h_plan
  by_cases h_p : p < flow.pendingAreaPlans.length
  · -- the areas before it keep their plans
    rw [List.getElem?_append_left h_p] at h_plan
    obtain ⟨m, a, asked, settings, h_a, h_answered, h_stored, h_answers, h_fits⟩ :=
      h_planned p plan h_plan
    refine ⟨m, a, asked, settings, h_a.trans (Nat.lt_succ_self n), h_answered, h_stored, h_answers,
      h_fits.record h_flow h_area fun h_nil => ?_⟩
    rw [h_nil] at h_p
    exact absurd h_p (Nat.not_lt_zero _)
  · rw [List.getElem?_append_right (not_lt.mp h_p)] at h_plan
    -- the plan that is added is the answer to the form shown
    obtain ⟨h_last, h_plan⟩ := List.getElem?_eq_some_iff.mp h_plan
    rw [List.getElem_singleton] at h_plan
    subst h_plan
    rw [List.length_singleton] at h_last
    obtain rfl : p = flow.areaPlanIndex := by omega
    obtain ⟨m, asked, h_asked, h_modes⟩ := h.asked
    obtain ⟨settings, h_stored, h_answers⟩ := h_valid.answers h_schema h_strict
    obtain ⟨h_mode, h_fits⟩ := h_modes _ h_answers.mode
    refine ⟨m, n, asked, settings, Nat.lt_succ_self n, ⟨h_asked, by rw [h_n], ?_, ?_⟩, h_stored,
      { h_answers with mode := h_mode }, h_fits.record h_flow h_area fun _ => h_stored.mode⟩
    · exact ⟨form, answers, world, by rw [h_n], h_event, h_schema⟩
    · rw [h_n', h_pending, ← h_length, List.getElem?_concat_length]

/-- Every input keeps it. -/
theorem Sound.step (h_valid : schema.Validates) (h : Sound schema events n session)
    (h_n : after schema events n = session) (h_n' : after schema events (n + 1) = session')
    (h_event : events[n]? = some (world, input))
    (h_takes : Takes schema world input session session') :
    Sound schema events (n + 1) session' := by
  cases h_takes with
  | same => exact h.succ h_n h_n'
  | user => exact .aside h.flow h.planned (fun _ _ => h.user _ rfl) nofun nofun
  | areas => exact .aside h.flow h.planned nofun nofun nofun
  | aborted => exact .aside h.flow h.planned nofun nofun nofun
  | @found _ flow _ registryId =>
    have h_none : flow.selectedAreaIds = [] := h.user _ rfl
    have h_pending : flow.pendingAreaPlans = [] := by
      have h_done := h.flow.done
      rw [show (FlowSession.mk flow _).flow.selectedAreaIds = [] from h_none,
        List.take_nil] at h_done
      exact List.map_eq_nil_iff.mp h_done
    -- nothing has been selected for another vacuum
    refine .aside ⟨h.flow.nodup, h.flow.done⟩ (fun p plan h_plan => ?_) nofun nofun nofun
    have h_plan : flow.pendingAreaPlans[p]? = some plan := h_plan
    rw [h_pending] at h_plan
    exact nomatch h_plan
  | @selected flow error areaIds registryId vacuum h_id h_shows h_segments =>
    obtain ⟨-, h_nodup, -⟩ := validateAreaIds_eq_ok.mp h_segments
    have h_some : areaIds ≠ [] := (validateAreaIds_eq_ok.mp h_segments).1
    -- this is the step that selects the areas
    refine .asks h_event ⟨h_nodup, rfl⟩ (fun _ _ h => nomatch h)
      (List.length_pos_of_ne_nil h_some) (fun h_shown => ?_) nofun nofun
    refine ⟨registryId, n, h_id, Nat.lt_succ_self n, ⟨error, by rw [h_n]⟩,
      ⟨world, vacuum, h_event, h_shows, h_segments⟩, fun k h_nk h_kn => ?_⟩
    rw [le_antisymm h_kn h_nk, h_n']
    exact h_shown
  | @asked flow form =>
    -- an answer that is not accepted is asked for again
    obtain ⟨h_index, ⟨registryId, j, h_id, h_selects⟩, m, world', -, h_modes⟩ := h.form form rfl
    refine .asks h_event h.flow h.planned.succ h_index (fun h_shown => ?_) nofun
      fun shown h_form mode h_mode => ?_
    · exact ⟨registryId, j, h_id, h_selects.succ (by rw [h_n']; exact h_shown)⟩
    · cases h_form
      exact (h_modes mode h_mode).1
  | @answered flow form answers values areaId h_schema h_strict h_area h_next =>
    have h_waits := h.form form rfl
    obtain ⟨registryId, j, h_id, h_selects⟩ := h_waits.selects
    obtain ⟨m, world', -, h_modes⟩ := h_waits.asked
    refine .asks h_event (h.flow.record h_area values)
      (h_waits.planned h_valid h.flow h.planned h_event h_n (by rw [h_n', asks_flow]) h_schema
        h_strict h_area) h_next (fun h_shown => ?_) nofun fun shown h_form mode h_mode => ?_
    · exact ⟨registryId, j, h_id, h_selects.succ (by rw [h_n']; exact h_shown)⟩
    · cases h_form
      exact (h_modes mode h_mode).1
  | @finished flow form answers values areaId h_schema h_strict h_area h_last =>
    have h_waits := h.form form rfl
    obtain ⟨registryId, j, h_id, h_selects⟩ := h_waits.selects
    -- after the last area the flow shows no form
    have h_planned := h_waits.planned h_valid h.flow h.planned h_event h_n (by rw [h_n'])
      h_schema h_strict h_area
    have h_index := h_waits.index
    have h_form_free (form : Form) : (flow.record areaId values).finish world ≠ .form form := by
      intro h_form
      rcases (flow.record areaId values).finish_cases world with
        ⟨reason, h_finish⟩ | ⟨registryId, vacuum, -, -, -, h_finish⟩
      · exact nomatch h_finish.symm.trans h_form
      · exact nomatch h_finish.symm.trans h_form
    refine ⟨h.flow.record h_area values, fun error h_form => ?_, h_planned, fun form h_form => ?_,
      fun title data h_created => ?_⟩
    · exact absurd h_form (h_form_free _)
    · exact absurd h_form (h_form_free _)
    · -- this is the step that creates the entry
      rcases (flow.record areaId values).finish_cases world with
        ⟨reason, h_finish⟩ | ⟨registryId', vacuum, h_id', h_shows, h_free, h_finish⟩
      · exact nomatch h_finish.symm.trans h_created
      · obtain rfl := Option.some.inj (h_id.symm.trans h_id')
        obtain ⟨rfl, rfl⟩ := FlowResult.createEntry.inj (h_finish.symm.trans h_created)
        refine ⟨List.ne_nil_of_length_pos (Nat.zero_lt_of_lt h_index),
          le_antisymm (Nat.succ_le_of_lt h_index) h_last, rfl, registryId, n, j,
          Nat.lt_succ_self n, h_id, ⟨⟨form, by rw [h_n]⟩, by rw [h_n']; exact h_created, ?_⟩,
          h_selects, h_planned⟩
        exact ⟨world, _, vacuum, h_event, h_shows, rfl, h_free⟩

/-- Every flow keeps it. -/
theorem sound_after (h_valid : schema.Validates) (events : List (FlowWorld × FlowInput)) (n : ℕ) :
    Sound schema events n (after schema events n) := by
  induction n with
  | zero => exact .start schema events
  | succ n ih =>
    rcases stateAt_succ_cases (step schema) .start events n with h_same | ⟨event, h_event, h_step⟩
    · have h_same : after schema events (n + 1) = after schema events n := h_same
      rw [h_same]
      exact ih.succ rfl h_same
    · exact ih.step h_valid rfl rfl h_event (step_takes h_step)

end FlowSession

/-! ### The entry -/

/-- Payloads that hold settings. -/
theorem AreaPlan.exists_of_stored {P : AreaPlan → Prop} {stored : List (String × Payload)}
    (h : ∀ plan ∈ stored, ∃ settings : AreaPlan, settings.StoredAs plan.2 ∧ P settings) :
    ∃ plans : List (String × AreaPlan), List.Forall₂ (fun stored plan => stored.1 = plan.1 ∧
      plan.2.StoredAs stored.2) stored plans ∧ ∀ plan ∈ plans, P plan.2 := by
  induction stored with
  | nil => exact ⟨[], .nil, nofun⟩
  | cons first stored ih =>
    obtain ⟨⟨settings, h_stored, h_settings⟩, h_rest⟩ := List.forall_mem_cons.mp h
    obtain ⟨plans, h_plans, h_each⟩ := ih h_rest
    exact ⟨(first.1, settings) :: plans, .cons ⟨rfl, h_stored⟩ h_plans,
      List.forall_mem_cons.mpr ⟨h_settings, h_each⟩⟩

/-- The settings of an entry that is created are read back as they were answered. -/
theorem FlowData.entry_plans (data : FlowData) {plans : List (String × AreaPlan)}
    {vacuumEntityId : String} (h_vacuum : data.vacuumEntityId = some vacuumEntityId)
    (h_plans : List.Forall₂ (fun stored plan => stored.1 = plan.1 ∧ plan.2.StoredAs stored.2)
      data.areaPlans plans)
    (h_ids : plans.map Prod.fst = data.areaIds) (h_nodup : data.areaIds.Nodup)
    (entryId registryId : String) : ∃ entry, data.entry entryId registryId = some entry ∧
      entry.areaIds = data.areaIds ∧ configuredAreaPlans entry = plans := by
  -- each stored plan is read, whatever its place
  have h_read : ∃ read : List (String × AreaSettings), (data.areaPlans.mapM fun plan =>
      (AreaSettings.read plan.2).map fun settings => (plan.1, settings)) = some read ∧
      List.Forall₂ (fun settings plan => settings.1 = plan.1 ∧
        ∀ index, settings.2.plan index = plan.2) read plans := by
    generalize data.areaPlans = areaPlans at h_plans
    clear h_ids
    induction h_plans with
    | nil => exact ⟨[], rfl, .nil⟩
    | @cons stored plan _ _ h_plan _ ih =>
      obtain ⟨rest, h_rest, h_each⟩ := ih
      obtain ⟨read, h_read, h_settings⟩ := AreaSettings.read_dump plan.2
      refine ⟨(stored.1, read) :: rest, ?_, .cons ⟨h_plan.1, h_settings⟩ h_each⟩
      rw [List.mapM_cons, h_rest, h_plan.2.read, h_read]
      rfl
  obtain ⟨stored, h_stored, h_each⟩ := h_read
  refine ⟨⟨entryId, some registryId, vacuumEntityId, data.areaIds, stored⟩, ?_, rfl, ?_⟩
  · unfold FlowData.entry
    rw [h_vacuum]
    show (data.areaPlans.mapM fun plan =>
      (AreaSettings.read plan.2).map fun settings => (plan.1, settings)).bind _ = _
    rw [h_stored]
    rfl
  -- the ids are distinct, so each is looked up where it was stored
  · rw [configuredAreaPlans_eq h_nodup]
    have h_keys : stored.map Prod.fst = data.areaIds := by
      rw [← h_ids, ← List.forall₂_eq_eq_eq, List.forall₂_map_left_iff, List.forall₂_map_right_iff]
      exact h_each.imp fun _ _ h => h.1
    refine List.ext_getElem ?_ fun i h_i h_i' => ?_
    · rw [List.length_map, List.length_zipIdx, ← h_ids, List.length_map]
    · have h_i_stored : i < stored.length := h_each.length_eq ▸ h_i'
      obtain ⟨h_id, h_plan⟩ := h_each.get h_i_stored h_i'
      have h_i_areas : i < data.areaIds.length := by
        rw [← h_keys, List.length_map]
        exact h_i_stored
      have h_area : data.areaIds[i] = stored[i].1 := by
        simp only [← h_keys, List.getElem_map]
      have h_lookup : stored.lookup stored[i].1 = some stored[i].2 :=
        Dict.lookup_of_mem (h_keys ▸ h_nodup) (List.getElem_mem h_i_stored)
      simp only [List.getElem_map, List.getElem_zipIdx, h_area, h_lookup, Option.getD_some]
      exact Prod.ext h_id (h_plan _)

/-- An entry whose settings are answers can be set up when its ids are texts. -/
theorem EntryData.valid_of_answers {entry : EntryData}
    (h_ids : (configuredAreaPlans entry).map Prod.fst = entry.areaIds) (h_some : entry.areaIds ≠ [])
    (h_answers : ∀ plan ∈ configuredAreaPlans entry,
      plan.2.Answers (ConfigFlow.offeredModes (some ""))) :
    entry.Valid ↔ ¬ isBlank entry.laneId = true ∧
      ∀ areaId ∈ entry.areaIds, ¬ isBlank areaId = true := by
  rw [← h_ids, List.forall_mem_map]
  constructor
  · intro h
    obtain ⟨area, h_area⟩ := List.exists_mem_of_ne_nil _ fun h_nil =>
      h_some (h_ids ▸ List.map_eq_nil_iff.mpr h_nil)
    exact ⟨(h area h_area).2.1, fun plan h_plan => (h plan h_plan).1⟩
  · rintro ⟨h_lane, h_areas⟩ plan h_plan
    have h_plan_answers := h_answers plan h_plan
    refine ⟨h_areas plan h_plan, h_lane, h_plan_answers.vacuumInterval.1,
      h_plan_answers.mopInterval.1, ?_⟩
    rcases List.mem_cons.mp h_plan_answers.mode with h_vacuum | h_mop
    · exact ⟨.vacuum, h_vacuum⟩
    · exact ⟨.vacuumAndMop, List.mem_singleton.mp h_mop⟩

section Created

variable {schema : FormSchema} {events : List (FlowWorld × FlowInput)} {n : ℕ}
  {title : Option String} {data : FlowData}

/-- **An entry that is created can be set up.** Whatever the home does between the forms and
whatever is answered, the entry is that of a vacuum that was valid and free in the step that
created it; its areas are distinct, and the vacuum had segments for all of them in the step that
selected them; each has the plan it was answered, in a step between the two and within the bounds
of its form; and the setup reads exactly these plans and makes its first state of them whenever
the ids are texts. -/
theorem created_entry (h_valid : schema.Validates)
    (h : (FlowSession.after schema events n).result = .createEntry title data) :
    ∃ registryId vacuumEntityId i j, i < n ∧ title = some vacuumEntityId ∧
      data.vacuumEntityId = title ∧
      FlowSession.Creates schema events i registryId title data ∧
      FlowSession.Selects schema events j i registryId data.areaIds ∧
      (∀ p plan, data.areaPlans[p]? = some plan → ∃ m a world, a ≤ i ∧
        FlowSession.Answered schema events m a p world plan) ∧
      ∃ plans : List (String × AreaPlan),
        List.Forall₂ (fun stored plan => stored.1 = plan.1 ∧ plan.2.StoredAs stored.2)
          data.areaPlans plans ∧
        plans.map Prod.fst = data.areaIds ∧
        (∀ plan ∈ plans, plan.2.Answers (ConfigFlow.offeredModes (some ""))) ∧
        ∀ entryId, ∃ entry, data.entry entryId registryId = some entry ∧
          configuredAreaPlans entry = plans ∧ ∀ revisionId now,
            ((∃ state, initialPlannerState entry revisionId now = .ok state) ↔
              ¬ isBlank entry.laneId = true ∧ (∀ areaId ∈ data.areaIds, ¬ isBlank areaId = true) ∧
                ¬ isBlank revisionId = true) := by
  have h_sound := FlowSession.sound_after h_valid events n
  obtain ⟨h_some, h_index, rfl, registryId, i, j, h_i, -, h_creates, h_selects, h_planned⟩ :=
    h_sound.created title data h
  have h_done := h_sound.flow.done
  rw [h_index, List.take_length] at h_done
  generalize (FlowSession.after schema events n).flow = flow at *
  obtain ⟨world, input, vacuum, -, h_shows, h_entity, -⟩ := h_creates.vacuum
  obtain ⟨vacuumEntityId, -, h_vacuum, -⟩ := h_shows.valid.online
  obtain ⟨world', chosen, -, -, h_segments⟩ := h_selects.vacuum
  obtain ⟨-, h_nodup, -⟩ := validateAreaIds_eq_ok.mp h_segments
  have h_title : title = some vacuumEntityId := h_entity.symm.trans h_vacuum
  -- every area has been answered, so the stored plans are the answers
  have h_stored : ∀ plan ∈ flow.pendingAreaPlans, ∃ settings : AreaPlan,
      settings.StoredAs plan.2 ∧ settings.Answers (ConfigFlow.offeredModes (some "")) := by
    intro plan h_plan
    obtain ⟨p, h_p⟩ := List.getElem?_of_mem h_plan
    obtain ⟨-, -, -, settings, -, -, h_stored, h_answers, -⟩ := h_planned p plan h_p
    exact ⟨settings, h_stored, h_answers⟩
  obtain ⟨plans, h_plans, h_each⟩ := AreaPlan.exists_of_stored h_stored
  -- in the order of the areas
  have h_ids : plans.map Prod.fst = flow.selectedAreaIds := by
    rw [← h_done, eq_comm, ← List.forall₂_eq_eq_eq, List.forall₂_map_left_iff,
      List.forall₂_map_right_iff]
    exact h_plans.imp fun _ _ h => h.1
  refine ⟨registryId, vacuumEntityId, i, j, h_i, h_title, rfl, h_creates, h_selects,
    fun p plan h_plan => ?_, plans, h_plans, h_ids, h_each, fun entryId => ?_⟩
  · obtain ⟨m, a, world, -, h_a, h_answered, -⟩ := h_planned p plan h_plan
    exact ⟨m, a, world, Nat.lt_succ_iff.mp h_a, h_answered⟩
  · obtain ⟨entry, h_entry, h_areas, h_configured⟩ := FlowData.entry_plans
      ⟨title, flow.selectedAreaIds, flow.pendingAreaPlans⟩ h_title h_plans h_ids h_nodup
      entryId registryId
    refine ⟨entry, h_entry, h_configured, fun revisionId now => ?_⟩
    rw [initialPlannerState_isOk, EntryData.valid_of_answers
      (by rw [h_configured, h_ids, h_areas]) (h_areas ▸ h_some) (h_configured ▸ h_each), h_areas,
      and_assoc]

/-- **One batch has one mode.** The areas of an entry that is created share the mode of the first
one, but for those whose form was asked for in a world without the selector, which are vacuumed
although the first one mops, and those whose form could not be made in such a world, because the
look-up of the selector raised: these were answered on the form before theirs. -/
theorem created_modes (h_valid : schema.Validates)
    (h : (FlowSession.after schema events n).result = .createEntry title data) :
    ∃ mode ∈ ConfigFlow.offeredModes (some ""),
      (∃ first ∈ data.areaPlans.head?, first.2.get "mode" = .str mode) ∧
      ∀ p plan, data.areaPlans[p]? = some plan → ∃ m a world, a < n ∧
        FlowSession.Answered schema events m a p world plan ∧
        (plan.2.get "mode" = .str mode ∨
          (mode = PreferredMode.vacuumAndMop.value ∧
            plan.2.get "mode" = .str PreferredMode.vacuum.value ∧
            findDreameMovaCleaningModeEntity world.home
              (FlowSession.after schema events n).flow.vacuumRegistryId = .ok none) ∨
          ∃ e, findDreameMovaCleaningModeEntity world.home
            (FlowSession.after schema events n).flow.vacuumRegistryId = .error e) := by
  have h_sound := FlowSession.sound_after h_valid events n
  obtain ⟨h_some, h_index, rfl, -⟩ := h_sound.created title data h
  have h_done := h_sound.flow.done
  have h_planned := h_sound.planned
  rw [h_index, List.take_length] at h_done
  generalize (FlowSession.after schema events n).flow = flow at *
  -- the first area sets the mode, and the others are held to it
  obtain ⟨first, h_first⟩ : ∃ first, first ∈ flow.pendingAreaPlans.head? := by
    cases h_pending : flow.pendingAreaPlans with
    | nil => rw [h_pending] at h_done; exact absurd h_done.symm h_some
    | cons first plans => exact ⟨first, rfl⟩
  obtain ⟨mode, h_mode, h_get⟩ := h_planned.first_mode first h_first
  refine ⟨mode, h_mode, ⟨first, h_first, h_get⟩, fun p plan h_plan => ?_⟩
  obtain ⟨m, a, world, settings, h_a, h_answered, h_stored, -, h_fits⟩ := h_planned p plan h_plan
  refine ⟨m, a, world, h_a, h_answered, ?_⟩
  rcases h_fits first h_first with h_same | ⟨h_mop, h_vacuum, h_none⟩ | h_raised
  · exact Or.inl (h_stored.mode.trans (h_same.symm.trans h_get))
  · exact Or.inr (Or.inl ⟨Json.str.inj (h_get.symm.trans h_mop), h_vacuum ▸ h_stored.mode, h_none⟩)
  · exact Or.inr (Or.inr h_raised)

end Created

/-! ### A kitchen is onboarded -/

def kitchenWorld : FlowWorld := ⟨kitchenRegistries, fun _ => none⟩

/-- The kitchen is mopped every two weeks, and the rest is left as it is. -/
def onboarding : List (FlowWorld × FlowInput) :=
  [(kitchenWorld, .user "registry"), (kitchenWorld, .areas ["kitchen"]),
    (kitchenWorld, .areaPlan [("mop_interval_days", .int 14)])]

def onboardedPlan : AreaPlan := ⟨true, 7, 14, 0, "vacuum"⟩

theorem onboarding_result : (FlowSession.after AreaPlanForm.schema onboarding 3).result =
    .createEntry (some "vacuum.robot")
      ⟨some "vacuum.robot", ["kitchen"], [("kitchen", onboardedPlan.dump)]⟩ := rfl

theorem created_entry_kitchen : ∃ registryId i j plans entry,
    FlowSession.Creates AreaPlanForm.schema onboarding i registryId (some "vacuum.robot")
      ⟨some "vacuum.robot", ["kitchen"], [("kitchen", onboardedPlan.dump)]⟩ ∧
    FlowSession.Selects AreaPlanForm.schema onboarding j i registryId ["kitchen"] ∧
    (⟨some "vacuum.robot", ["kitchen"], [("kitchen", onboardedPlan.dump)]⟩ : FlowData).entry
      "entry" registryId = some entry ∧ configuredAreaPlans entry = plans := by
  obtain ⟨registryId, -, i, j, -, -, -, h_creates, h_selects, -, plans, -, -, -, h_entry⟩ :=
    created_entry AreaPlanForm.schema_validates onboarding_result
  obtain ⟨entry, h_read, h_configured, -⟩ := h_entry "entry"
  exact ⟨registryId, i, j, plans, entry, h_creates, h_selects, h_read, h_configured⟩

/-! The kitchen is to be mopped, and then the selector is gone. -/

def moppingVacuum : HomeEntry :=
  { kitchenVacuum with
    platform := some "mova"
    deviceId := some "device"
    options := [("vacuum", .object [("area_mapping",
      .object [("kitchen", .array [.str "17"]), ("bath", .array [.str "18"])])])] }

def modeSelector : HomeEntry where
  id := some "selector"
  entityId := some "select.robot_cleaning_mode"
  domain := some "select"
  uniqueId := some "robot_cleaning_mode"
  disabled := false
  disabledBy := none
  platform := some "mova"
  deviceId := some "device"
  options := []

/-- The selector has a state, or it has none. -/
def moppingWorld (present : Bool) : FlowWorld where
  home :=
    { kitchenRegistries with
      entries := fun id => if id = "registry" then some moppingVacuum else none
      states := fun id =>
        if id = "select.robot_cleaning_mode" && present then
          some ⟨"Vacuum", [("options", .array [.str "Vacuum", .str "Vacuum and Mop"])]⟩
        else kitchenRegistries.states id
      devices := fun _ => [modeSelector] }
  uniqueIdTaken _ := none

def mixedOnboarding : List (FlowWorld × FlowInput) :=
  [(moppingWorld true, .user "registry"), (moppingWorld true, .areas ["kitchen", "bath"]),
    (moppingWorld false, .areaPlan [("mode", .str "vacuum_and_mop")]),
    (moppingWorld true, .areaPlan [])]

def mixedData : FlowData :=
  ⟨some "vacuum.robot", ["kitchen", "bath"],
    [("kitchen", AreaPlan.dump ⟨true, 7, 7, 0, "vacuum_and_mop"⟩),
      ("bath", AreaPlan.dump ⟨true, 7, 7, 0, "vacuum"⟩)]⟩

theorem mixedOnboarding_result : (FlowSession.after AreaPlanForm.schema mixedOnboarding 4).result =
    .createEntry (some "vacuum.robot") mixedData := rfl

/-- The bath was asked for without the selector, or it could not be looked up. -/
theorem created_modes_kitchen : ∃ m a world plan, mixedData.areaPlans[1]? = some plan ∧
    FlowSession.Answered AreaPlanForm.schema mixedOnboarding m a 1 world plan ∧
    (findDreameMovaCleaningModeEntity world.home (some "registry") = .ok none ∨
      ∃ e, findDreameMovaCleaningModeEntity world.home (some "registry") = .error e) := by
  obtain ⟨mode, -, ⟨first, h_first, h_get⟩, h_each⟩ :=
    created_modes AreaPlanForm.schema_validates mixedOnboarding_result
  obtain ⟨m, a, world, -, h_answered, h_mode⟩ := h_each 1 _ rfl
  refine ⟨m, a, world, _, rfl, h_answered, ?_⟩
  rcases h_mode with h_same | ⟨-, -, h_gone⟩ | h_raised
  · -- the kitchen mops, and the bath does not
    cases h_first
    exact absurd (Json.str.inj (h_get.trans h_same.symm))
      (by decide : "vacuum_and_mop" ≠ "vacuum")
  · exact Or.inl h_gone
  · exact Or.inr h_raised

end VacuumPlanner
