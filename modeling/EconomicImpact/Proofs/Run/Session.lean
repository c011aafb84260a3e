import Mathlib
import EconomicImpact.Proofs.Outcome
import EconomicImpact.Proofs.Run.Solving
import EconomicImpact.Run.Session

set_option autoImplicit false

namespace EconomicImpact

variable {α : Type}

namespace Registry

theorem get_ok (r : Registry α) (id : Uuid) (model : RegisteredModel α)
    (found : r.get id = .ok model) : model ∈ r.models ∧ model.version.id = id := by
  unfold get at found
  cases first : r.models.find? (·.version.id == id) with
  | none =>
      rw [first] at found
      cases found
  | some other =>
      rw [first] at found
      cases found
      have same := List.find?_some first
      exact ⟨List.mem_of_find?_eq_some first, eq_of_beq same⟩

-- A registry that grows at its end gives the models that it gave before.
theorem get_extended (r later : Registry α) (grown : r.models <+: later.models) (id : Uuid)
    (model : RegisteredModel α) (found : r.get id = .ok model) : later.get id = .ok model := by
  obtain ⟨added, parts⟩ := grown
  unfold get at found ⊢
  cases first : r.models.find? (·.version.id == id) with
  | none =>
      rw [first] at found
      cases found
  | some other =>
      rw [first] at found
      rw [← parts, List.find?_append, first]
      exact found

end Registry

namespace Session

variable [Scalar α]

-- The inverses that a session may keep.
def Keeps (s : Session α) (id : Uuid) (value : SquareTable α) : Prop :=
  ∃ model, s.registry.get id = .ok model ∧
    model.ownInverse s.settings.solver.maxConditionNumber = .ok value

structure Sound [SpectralRoutine α] (s : Session α) : Prop where
  accepted : ∀ model ∈ s.registry.models, ∃ snapshot, Economy.ofSnapshot snapshot = .ok model.economy
  faithful : s.cache.Faithful s.Keeps

variable (s : Session α)

theorem keeps_own (id : Uuid) (model : RegisteredModel α) (found : s.registry.get id = .ok model)
    (value : SquareTable α) :
    s.Keeps model.version.id value ↔
      model.ownInverse s.settings.solver.maxConditionNumber = .ok value := by
  obtain ⟨-, rfl⟩ := s.registry.get_ok id model found
  constructor
  · rintro ⟨other, again, kept⟩
    rw [found] at again
    cases again
    exact kept
  · intro kept
    exact ⟨model, found, kept⟩

variable [SpectralRoutine α] {s}

theorem start_sound (settings : Settings α) : (start settings).Sound where
  accepted _ member := nomatch member
  faithful := LruCache.empty_faithful _

theorem use_cache_spec {β : Type} (sound : s.Sound) (computation : Solving α β)
    (transparent : computation.Transparent s.Keeps) :
    (s.useCache computation).1 = computation.alone ∧ (s.useCache computation).2.Sound := by
  obtain ⟨result, faithful⟩ := Caching.run_of_yields computation _ s.cache sound.faithful transparent
  exact ⟨result, ⟨sound.accepted, faithful⟩⟩

theorem on_model_sound {β : Type} (sound : s.Sound) (id : Uuid)
    (computation : RegisteredModel α → Solving α β)
    (transparent : ∀ model, s.registry.get id = .ok model →
      (computation model).Transparent s.Keeps) :
    (s.onModel id computation).2.Sound := by
  unfold onModel
  cases found : s.registry.get id with
  | ok model => exact (use_cache_spec sound _ (transparent model found)).2
  | error fault => exact sound

theorem on_model_alone {β : Type} (sound : s.Sound) (id : Uuid) (model : RegisteredModel α)
    (found : s.registry.get id = .ok model) (computation : RegisteredModel α → Solving α β)
    (transparent : (computation model).Transparent s.Keeps) :
    (s.onModel id computation).1 = (computation model).alone := by
  unfold onModel
  rw [found]
  exact (use_cache_spec sound _ transparent).1

theorem answer_alone {β : Type} (sound : s.Sound) (id : Uuid) (model : RegisteredModel α)
    (found : s.registry.get id = .ok model) (wrap : β → Answer α)
    (computation : RegisteredModel α → Solving α β)
    (transparent : (computation model).Transparent s.Keeps) :
    (answer wrap (s.onModel id computation)).1 = (computation model).alone.map wrap :=
  congrArg (Except.map wrap) (on_model_alone sound id model found computation transparent)

variable [BitImage α]

theorem register_sound (sound : s.Sound) (id : Uuid) (time : String) (snapshot : Snapshot α)
    (source : String) : (s.register id time snapshot source).2.Sound := by
  unfold register
  cases registered : s.registry.register id time snapshot source with
  | error fault => exact sound
  | ok pair =>
      unfold Registry.register at registered
      obtain ⟨economy, accepted, rest⟩ := (Outcome.bind_ok_iff _ _ _).mp registered
      rw [Outcome.pure_ok_iff] at rest
      subst rest
      constructor
      · intro model member
        rcases List.mem_append.mp member with earlier | added
        · exact sound.accepted model earlier
        · rw [List.mem_singleton.mp added]
          exact ⟨snapshot, accepted⟩
      · intro key value kept
        obtain ⟨model, found, own⟩ := sound.faithful key value kept
        exact ⟨model, s.registry.get_extended _ ⟨_, rfl⟩ key model found, own⟩

theorem perform_sound (sound : s.Sound) (optimise : Optimiser α) (command : Command α) :
    (s.perform optimise command).2.Sound := by
  have own := s.keeps_own
  cases command with
  | register id time snapshot source => exact register_sound sound id time snapshot source
  | nowcast id time request =>
      simp only [perform, answer, nowcast]
      cases balanced : request.balancing.balance request.start request.rows request.columns with
      | ok table => exact register_sound sound id time _ _
      | error fault => exact sound
  | version model => exact sound
  | versions => exact sound
  | size => exact sound
  | cacheCounts => exact sound
  | inverse id =>
      exact on_model_sound sound id _ fun model found =>
        model.inverse_transparent _ _ (own id model found)
  | solve id shock =>
      exact on_model_sound sound id _ fun model found =>
        model.solve_transparent _ _ (own id model found) shock
  | solveShock id shock =>
      exact on_model_sound sound id _ fun model found =>
        model.solve_shock_transparent _ _ (own id model found) shock
  | schedule id schedule mode =>
      exact on_model_sound sound id _ fun model found =>
        model.solve_schedule_transparent _ _ (own id model found) schedule mode
  | multipliers id =>
      exact on_model_sound sound id _ fun model found =>
        model.output_multipliers_transparent _ _ (own id model found)
  | run stamp request =>
      exact on_model_sound sound _ _ fun model found =>
        model.run_transparent _ optimise s.settings stamp request (own _ model found)

theorem perform_all_sound (sound : s.Sound) (optimise : Optimiser α)
    (commands : List (Command α)) : (s.performAll optimise commands).2.Sound := by
  induction commands generalizing s with
  | nil => exact sound
  | cons command rest ih => exact ih (perform_sound sound optimise command)

theorem perform_settings (s : Session α) (optimise : Optimiser α) (command : Command α) :
    (s.perform optimise command).2.settings = s.settings := by
  have onModel {β : Type} (id : Uuid) (computation : RegisteredModel α → Solving α β) :
      (s.onModel id computation).2.settings = s.settings := by
    unfold onModel
    cases s.registry.get id <;> rfl
  have register (id : Uuid) (time : String) (snapshot : Snapshot α) (source : String) :
      (s.register id time snapshot source).2.settings = s.settings := by
    unfold Session.register
    cases s.registry.register id time snapshot source <;> rfl
  cases command with
  | register id time snapshot source => exact register id time snapshot source
  | nowcast id time request =>
      simp only [perform, answer, nowcast]
      cases request.balancing.balance request.start request.rows request.columns with
      | ok table => exact register id time _ _
      | error fault => rfl
  | version model => rfl
  | versions => rfl
  | size => rfl
  | cacheCounts => rfl
  | inverse id => exact onModel id _
  | solve id shock => exact onModel id _
  | solveShock id shock => exact onModel id _
  | schedule id schedule mode => exact onModel id _
  | multipliers id => exact onModel id _
  | run stamp request => exact onModel _ _

theorem perform_all_settings (s : Session α) (optimise : Optimiser α)
    (commands : List (Command α)) :
    (s.performAll optimise commands).2.settings = s.settings := by
  induction commands generalizing s with
  | nil => rfl
  | cons command rest ih => exact (ih _).trans (s.perform_settings optimise command)

theorem reached_sound {settings : Settings α} {optimise : Optimiser α}
    {commands : List (Command α)} {s : Session α}
    (reached : ((start settings).performAll optimise commands).2 = s) :
    s.Sound ∧ s.settings = settings := by
  subst reached
  exact ⟨perform_all_sound (start_sound settings) optimise commands,
    (start settings).perform_all_settings optimise commands⟩

theorem perform_solve (sound : s.Sound) (optimise : Optimiser α) (id : Uuid)
    (model : RegisteredModel α) (found : s.registry.get id = .ok model) (shock : List α) :
    (s.perform optimise (.solve id shock)).1 =
      (model.ownInverse s.settings.solver.maxConditionNumber >>= fun inverse =>
        inverse.impact model.economy.sectors.toList shock).map .impact := by
  rw [← model.solve_alone]
  exact answer_alone sound id model found .impact _
    (model.solve_transparent _ _ (s.keeps_own id model found) shock)

theorem perform_schedule (sound : s.Sound) (optimise : Optimiser α) (id : Uuid)
    (model : RegisteredModel α) (found : s.registry.get id = .ok model) (schedule : Schedule α)
    (mode : ShockMode) :
    (s.perform optimise (.schedule id schedule mode)).1 =
      (schedule.effectiveShocks model.economy.sectors mode >>= fun shocks =>
        model.ownInverse s.settings.solver.maxConditionNumber >>= fun inverse =>
          Phased.solve inverse model.economy.sectors mode shocks).map .phased := by
  rw [← model.solve_schedule_alone]
  exact answer_alone sound id model found .phased _
    (model.solve_schedule_transparent _ _ (s.keeps_own id model found) schedule mode)

end Session

end EconomicImpact
