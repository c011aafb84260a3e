import Mathlib
import EconomicImpact.Proofs.Fault
import EconomicImpact.Proofs.Leontief.Accounting
import EconomicImpact.Proofs.Table.Dominance

set_option autoImplicit false

namespace EconomicImpact

def Fault.Singular {α : Type} (fault : Fault α) : Prop := ∃ cause, fault = .singularSystem cause

theorem Fault.Singular.blocks {α : Type} {fault : Fault α} (singular : fault.Singular) :
    fault.Blocks := by
  obtain ⟨cause, rfl⟩ := singular
  rfl

namespace Session

inductive Command.Solves {α : Type} (id : Uuid) : Command α → Prop
  | inverse : Solves id (.inverse id)
  | solve (shock : List α) : Solves id (.solve id shock)
  | solveShock (shock : Shock α) : Solves id (.solveShock id shock)
  | schedule (schedule : Schedule α) (mode : ShockMode) : Solves id (.schedule id schedule mode)
  | multipliers : Solves id (.multipliers id)

variable {α : Type} [Scalar α] [SpectralRoutine α] [BitImage α]

theorem solves_spare {s : Session α} (sound : s.Sound) (optimise : Optimiser α) (id : Uuid)
    (model : RegisteredModel α) (found : s.registry.get id = .ok model)
    (inverse : SquareTable α)
    (own : model.ownInverse s.settings.solver.maxConditionNumber = .ok inverse)
    (command : Command α) (solves : command.Solves id) :
    Outcome.Free Fault.Blocks (s.perform optimise command).1 := by
  have keeps := s.keeps_own id model found
  have inverted : Outcome.Free Fault.Blocks
      (model.ownInverse s.settings.solver.maxConditionNumber) := by
    rw [own]
    exact Outcome.free_ok inverse
  have answered {β : Type} (wrap : β → Answer α) (computation : RegisteredModel α → Solving α β)
      (transparent : (computation model).Transparent s.Keeps)
      (free : Outcome.Free Fault.Blocks (computation model).alone) :
      Outcome.Free Fault.Blocks (answer wrap (s.onModel id computation)).1 := by
    rw [answer_alone sound id model found wrap computation transparent]
    exact Outcome.free_map wrap free
  cases solves with
  | inverse =>
      refine answered .inverse _ (model.inverse_transparent _ _ keeps) ?_
      rw [model.inverse_alone]
      exact inverted
  | solve shock =>
      refine answered .impact _ (model.solve_transparent _ _ keeps shock) ?_
      rw [model.solve_alone]
      exact Outcome.free_bind inverted fun inverse => inverse.impact_free _ _
  | solveShock shock =>
      refine answered .impact _ (model.solve_shock_transparent _ _ keeps shock) ?_
      rw [model.solve_shock_alone]
      refine Outcome.free_bind (shock.resolve_free _) fun values => ?_
      exact Outcome.free_bind inverted fun inverse => inverse.impact_free _ _
  | schedule schedule mode =>
      refine answered .phased _ (model.solve_schedule_transparent _ _ keeps schedule mode) ?_
      rw [model.solve_schedule_alone]
      refine Outcome.free_bind (schedule.effective_shocks_free _ mode) fun shocks => ?_
      exact Outcome.free_bind inverted fun inverse => Phased.solve_free inverse _ mode shocks
  | multipliers =>
      refine answered .multipliers _ (model.output_multipliers_transparent _ _ keeps) ?_
      rw [model.output_multipliers_alone]
      exact Outcome.free_bind inverted fun inverse => Outcome.free_ok _

theorem solves_free {s : Session α} (sound : s.Sound) (optimise : Optimiser α) (id : Uuid)
    (model : RegisteredModel α) (found : s.registry.get id = .ok model)
    (inverse : SquareTable α)
    (own : model.ownInverse s.settings.solver.maxConditionNumber = .ok inverse)
    (command : Command α) (solves : command.Solves id) :
    Outcome.Free Fault.Singular (s.perform optimise command).1 :=
  fun fault failed singular =>
    solves_spare sound optimise id model found inverse own command solves fault failed singular.blocks

end Session

variable {K : Type} [Field K] [LinearOrder K] [IsStrictOrderedRing K]

namespace Economy

theorem Accepted.dominated [SpectralRoutine K] {s : Snapshot K} {e : Economy K} (accepted : Accepted s e)
    (below : e.maxColumnSum < 1) : Dominated e.coefficients.matrix e.maxColumnSum where
  nonneg := accepted.coefficients_nonneg
  columns := e.column_sum_le_max
  bound_nonneg := e.max_column_sum_nonneg
  below_one := below

end Economy

theorem leontief_inverse_of_dominated {n : Nat} {a : Table K n n} {s : K}
    (dominated : Dominated a.matrix s) :
    ∃ inverse : Table K n n, inverse.matrix * (1 - a.matrix) = 1 ∧
      ∀ limit, (1 + s) / (1 - s) ≤ limit → leontiefInverse a limit = .ok inverse := by
  have regular := isUnit_iff_ne_zero.mpr dominated.det_ne_zero
  obtain ⟨inverse, same⟩ := Table.exists_table (1 - a.matrix)⁻¹
  have inverted : inverse.matrix * (1 - a.matrix) = 1 := by
    rw [same]
    exact Matrix.nonsing_inv_mul _ regular
  refine ⟨inverse, inverted, fun limit enough => ?_⟩
  exact (leontief_inverse_ok_iff a limit inverse).mpr
    ⟨inverted, (dominated.condition_le inverted).trans enough⟩

theorem column_sums_below_one_invert [SpectralRoutine K] [BitImage K] :
    (∀ (snapshot : Snapshot K) (e : Economy K),
      Economy.ofSnapshot snapshot = .ok e → e.maxColumnSum < 1 →
      (1 - e.coefficients.matrix).det ≠ 0 ∧
      ∃ (inverse : Table K e.size e.size) (multipliers : Vector K e.size),
        inverse.matrix = (1 - e.coefficients.matrix)⁻¹ ∧
        (leontiefSystem e.coefficients).inverse? = some inverse ∧
        (∀ i j, 0 ≤ inverse.get i j) ∧ (∀ i, 1 ≤ inverse.get i i) ∧
        (SquareTable.mk e.size inverse).outputMultipliers e.sectors.toList =
          .ofAligned e.sectors multipliers ∧
        (∀ j, 1 ≤ multipliers.get j ∧ multipliers.get j ≤ 1 / (1 - e.maxColumnSum)) ∧
        (leontiefSystem e.coefficients).oneNorm * inverse.oneNorm ≤
          (1 + e.maxColumnSum) / (1 - e.maxColumnSum) ∧
        ∀ limit, (1 + e.maxColumnSum) / (1 - e.maxColumnSum) ≤ limit →
          leontiefInverse e.coefficients limit = .ok inverse) ∧
    ∀ (settings : Settings K) (optimise : Optimiser K) (commands : List (Session.Command K))
      (s : Session K) (id : Uuid) (model : RegisteredModel K),
      ((Session.start settings).performAll optimise commands).2 = s →
      s.registry.get id = .ok model → model.economy.maxColumnSum < 1 →
      (1 + model.economy.maxColumnSum) / (1 - model.economy.maxColumnSum) ≤
        settings.solver.maxConditionNumber →
      (∃ inverse : Table K model.economy.size model.economy.size,
        inverse.matrix = (1 - model.economy.coefficients.matrix)⁻¹ ∧
        (s.perform optimise (.inverse id)).1 = .ok (.inverse ⟨_, inverse⟩)) ∧
      ∀ command : Session.Command K, command.Solves id → ∀ cause,
        (s.perform optimise command).1 ≠ .error (.singularSystem cause) := by
  constructor
  · intro snapshot e registered below
    have dominated := (Economy.of_snapshot_accepted snapshot e registered).dominated below
    obtain ⟨inverse, inverted, within⟩ := leontief_inverse_of_dominated dominated
    refine ⟨dominated.det_ne_zero, inverse, Vector.ofFn inverse.columnSum, ?_, ?_, ?_, ?_, ?_, ?_, ?_,
      within⟩
    · exact (Matrix.inv_eq_left_inv inverted).symm
    · rw [Table.inverse_eq_some_iff, leontief_system_matrix]
      exact inverted
    · exact dominated.inverse_nonneg inverted
    · exact dominated.one_le_diagonal inverted
    · rw [SquareTable.outputMultipliers, SectorVector.ofAligned, Vector.toList_ofFn]
    · intro j
      rw [Vector.get_ofFn, Table.column_sum_eq]
      exact ⟨dominated.one_le_column_sum inverted j, dominated.column_sum_le inverted j⟩
    · rw [Table.one_norm_eq, Table.one_norm_eq, leontief_system_matrix]
      exact dominated.condition_le inverted
  · intro settings optimise commands s id model reached found below enough
    obtain ⟨sound, kept⟩ := Session.reached_sound reached
    obtain ⟨snapshot, registered⟩ := sound.accepted model (Registry.get_ok _ id model found).1
    have dominated := (Economy.of_snapshot_accepted snapshot _ registered).dominated below
    obtain ⟨inverse, inverted, within⟩ := leontief_inverse_of_dominated dominated
    have own : model.ownInverse s.settings.solver.maxConditionNumber = .ok ⟨_, inverse⟩ := by
      rw [kept]
      exact congrArg (Except.map (SquareTable.mk _)) (within _ enough)
    refine ⟨⟨inverse, (Matrix.inv_eq_left_inv inverted).symm, ?_⟩, ?_⟩
    · refine (Session.answer_alone sound id model found .inverse _
        (model.inverse_transparent _ _ (s.keeps_own id model found))).trans ?_
      rw [model.inverse_alone]
      exact congrArg (Except.map Session.Answer.inverse) own
    · intro command solves cause failed
      exact Session.solves_free sound optimise id model found ⟨_, inverse⟩ own command solves _ failed
        ⟨cause, rfl⟩

theorem two_sector_columns_invert :
    (∃ e, Economy.ofSnapshot twoSectorSnapshot = .ok e ∧ e.maxColumnSum < 1 ∧
      (1 - e.coefficients.matrix).det ≠ 0) ∧
    ∃ (s : Session ℚ) (model : RegisteredModel ℚ),
      ((Session.start Settings.standard).performAll simplex
        [.register .nil "" twoSectorSnapshot "test"]).2 = s ∧
      s.registry.get .nil = .ok model ∧ model.economy.maxColumnSum < 1 ∧
      (1 + model.economy.maxColumnSum) / (1 - model.economy.maxColumnSum) ≤
        (Settings.standard : Settings ℚ).solver.maxConditionNumber ∧
      ∀ cause, (s.perform simplex (.solve .nil [1, 1])).1 ≠ .error (.singularSystem cause) := by
  constructor
  · have facts : (Economy.ofSnapshot twoSectorSnapshot).toOption.any
        (fun e => decide (e.maxColumnSum < 1)) = true := by decide +kernel
    obtain ⟨e, registered, below⟩ := (Outcome.any_ok_iff _ _).mp facts
    have below := of_decide_eq_true below
    exact ⟨e, registered, below, (column_sums_below_one_invert.1 _ e registered below).1⟩
  · have facts : (((Session.start (α := ℚ) Settings.standard).performAll simplex
        [.register .nil "" twoSectorSnapshot "test"]).2.registry.get .nil).toOption.any
          (fun model => decide (model.economy.maxColumnSum < 1 ∧
            (1 + model.economy.maxColumnSum) / (1 - model.economy.maxColumnSum) ≤
              (Settings.standard : Settings ℚ).solver.maxConditionNumber)) = true := by
      decide +kernel
    obtain ⟨model, found, bounds⟩ := (Outcome.any_ok_iff _ _).mp facts
    obtain ⟨below, enough⟩ := of_decide_eq_true bounds
    obtain ⟨-, regular⟩ := column_sums_below_one_invert.2 Settings.standard simplex
      [.register .nil "" twoSectorSnapshot "test"] _ .nil model rfl found below enough
    exact ⟨_, model, rfl, found, below, enough, regular _ (.solve [1, 1])⟩

end EconomicImpact
