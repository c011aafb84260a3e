import Mathlib
import EconomicImpact.Proofs.Reordering.Feasibility
import EconomicImpact.Proofs.Reordering.Model
import EconomicImpact.Proofs.Run.Solving

set_option autoImplicit false

namespace EconomicImpact

def RegisteredModel.OwnIn {α : Type} [Scalar α] (model : RegisteredModel α) (limit : α)
    (cache : LruCache Uuid (SquareTable α)) : Prop :=
  cache.Faithful fun id inverse => id = model.version.id → model.ownInverse limit = .ok inverse

namespace RegisteredModel.OwnIn

variable {α β : Type} [Scalar α] {model : RegisteredModel α} {limit : α}
  {cache : LruCache Uuid (SquareTable α)} (own : model.OwnIn limit cache)

include own

theorem run_eq (computation : Solving α β)
    (blind : ∀ valid : Uuid → SquareTable α → Prop,
      (∀ value, valid model.version.id value ↔ model.ownInverse limit = .ok value) →
        computation.Transparent valid) :
    (Caching.run cache computation).1 = computation.alone :=
  (Caching.run_of_yields computation _ cache own
    (blind _ fun _ => ⟨fun valid => valid rfl, fun found _ => found⟩)).1

theorem run_solve_shock (shock : Shock α) :
    (Caching.run cache (model.solveShock limit shock)).1 = (model.solveShock limit shock).alone :=
  own.run_eq _ fun valid known => model.solve_shock_transparent limit valid known shock

theorem run_output_multipliers :
    (Caching.run cache (model.outputMultipliers limit)).1 = (model.outputMultipliers limit).alone :=
  own.run_eq _ fun valid known => model.output_multipliers_transparent limit valid known

end RegisteredModel.OwnIn

section orders

variable {K : Type} [Field K] [LinearOrder K] [IsStrictOrderedRing K] [SpectralRoutine K]

-- What is refused in one order is refused in the other; the fault may name another sector, as the first
-- unknown code depends on the order.
theorem sector_order_immaterial (snapshot : Snapshot K) (e : Economy K)
    (accepted : Economy.ofSnapshot snapshot = .ok e) (σ : Equiv.Perm (Fin e.size)) :
    (snapshot = e.snapshot ∧
      (SpectralRoutine.OrderFree K →
        Economy.ofSnapshot (e.reordered σ).snapshot = .ok (e.reordered σ)) ∧
      (e.maxColumnSum < 1 → Economy.ofSnapshot (e.reordered σ).snapshot = .ok (e.reordered σ)) ∧
      e.outputVector.Alike (e.reordered σ).outputVector) ∧
    (∀ (version other : ModelVersion) (limit : K) (first second : LruCache Uuid (SquareTable K)),
      RegisteredModel.OwnIn ⟨version, e⟩ limit first →
      RegisteredModel.OwnIn ⟨other, e.reordered σ⟩ limit second →
      (∀ v w : SectorVector K, v.Alike w →
        Outcome.Matched Impact.Alike
          (Caching.run first (RegisteredModel.solveShock ⟨version, e⟩ limit (.keyed v))).1
          (Caching.run second
            (RegisteredModel.solveShock ⟨other, e.reordered σ⟩ limit (.keyed w))).1) ∧
      Outcome.Matched SectorVector.Alike
        (Caching.run first (RegisteredModel.outputMultipliers ⟨version, e⟩ limit)).1
        (Caching.run second (RegisteredModel.outputMultipliers ⟨other, e.reordered σ⟩ limit)).1) ∧
    (∀ x y : SectorVector K, x.Alike y →
      (∀ code, x.get? code = y.get? code) ∧ x.total = y.total ∧
      (∀ c d : Coefficients K, c.Alike d →
        Outcome.Matched SatelliteAccounts.Alike (c.accounts x) (d.accounts y)) ∧
      ∀ (optimise : Optimiser K) (settings : FeasibilitySettings K), settings.lpEnabled = false →
        ∀ set again : ConstraintSet K, set.Alike again →
          ∀ context later : SolveContext K, context.Alike later →
            Outcome.Matched
              (fun a b => a.Alike b ∧ a.binding.map (·.source.id) = b.binding.map (·.source.id))
              (Feasibility.solve optimise settings x set context)
              (Feasibility.solve optimise settings y again later)) := by
  have checks := Economy.of_snapshot_accepted snapshot e accepted
  have same := e.same_model checks.sectors_injective σ
  have registered (productive : (e.reordered σ).isProductive = true) :
      Economy.ofSnapshot (e.reordered σ).snapshot = .ok (e.reordered σ) :=
    (Economy.reordered_snapshot snapshot e accepted σ).trans (if_pos productive)
  refine ⟨⟨Economy.eq_snapshot snapshot e accepted, fun free => registered ?_,
    fun productive => registered ?_, SectorVector.of_aligned_alike same.order same.output⟩, ?_, ?_⟩
  · rw [same.is_productive_eq free]
    exact checks.productive
  · have below : (e.reordered σ).maxColumnSum < 1 := same.max_column_sum_eq.trans_lt productive
    simp [Economy.isProductive, below]
  · intro version other limit first second own ownOther
    refine ⟨fun v w alike => ?_, ?_⟩
    · rw [own.run_solve_shock, ownOther.run_solve_shock]
      exact same.solve_shock_alike version other limit alike
    · rw [own.run_output_multipliers, ownOther.run_output_multipliers]
      exact same.output_multipliers_alike version other limit
  · intro x y alike
    refine ⟨alike.get_eq, alike.total_eq, fun c d coefficients => accounts_alike coefficients alike, ?_⟩
    intro optimise settings disabled set again sets context later contexts
    exact (Feasibility.solve_alike optimise disabled alike sets contexts).imp
      fun a b same => ⟨same, same.binding_ids⟩

end orders

def twoSectorLimits (group : List String) : ConstraintSet ℚ :=
  .ofConstraints [
    { Constraint.strictOn .capacityCap "A" 155 with
      id := ⟨.replicate 16 1⟩, scope := .group group },
    { Constraint.strictOn .floor "B" 10 with id := ⟨.replicate 16 2⟩ },
    { Constraint.strictOn .capacityCap "A" 20 with
      id := ⟨.replicate 16 3⟩, window := some (2030, 2031) }]

theorem two_sector_limits_alike {group other : List String}
    (same : ∀ code, code ∈ group ↔ code ∈ other) :
    (twoSectorLimits group).Alike (twoSectorLimits other) where
  id := rfl
  version := rfl
  constraints := .cons (.scope _ ⟨by simp, same⟩)
    (.cons (.scope _ ⟨Iff.rfl, fun _ => Iff.rfl⟩)
      (.cons (.scope _ ⟨Iff.rfl, fun _ => Iff.rfl⟩) .nil))

def twoSectorVersion : ModelVersion := ⟨.nil, 2023, "test", 2, "", defaultDenomination, ""⟩

theorem two_sectors_reversed :
    ∃ (e : Economy ℚ) (x y : Impact ℚ) (a b : FeasibilityResult ℚ),
      Economy.ofSnapshot twoSectorSnapshot = .ok e ∧
      Economy.ofSnapshot (e.reordered Fin.revPerm).snapshot = .ok (e.reordered Fin.revPerm) ∧
      (e.reordered Fin.revPerm).sectors.toList = ["B", "A"] ∧
      (Caching.run (.empty 1) (RegisteredModel.solveShock ⟨twoSectorVersion, e⟩ 1000
        (.keyed ⟨[("A", 69), ("B", 138)]⟩))).1 = .ok x ∧
      (Caching.run (.empty 1) (RegisteredModel.solveShock
        ⟨twoSectorVersion, e.reordered Fin.revPerm⟩ 1000 (.keyed ⟨[("B", 138), ("A", 69)]⟩))).1 =
          .ok y ∧
      x.Alike y ∧ x.deltaX.get? "A" = some 100 ∧ y.deltaX.get? "A" = some 100 ∧
      Feasibility.solve simplex clippingOnly x.deltaX (twoSectorLimits ["A", "B"])
        { SolveContext.bare none with year := some 2025 } = .ok a ∧
      Feasibility.solve simplex clippingOnly y.deltaX (twoSectorLimits ["B", "A", "B"])
        { SolveContext.bare none with year := some 2025 } = .ok b ∧
      a.Alike b ∧ a.feasible.get? "A" = some 50 ∧ b.feasible.get? "A" = some 50 ∧
      b.binding.map (·.source.id) = [⟨.replicate 16 1⟩] ∧ b.slack = [⟨.replicate 16 2⟩] ∧
      b.inactive = [⟨.replicate 16 3⟩] := by
  have facts : (Economy.ofSnapshot twoSectorSnapshot).toOption.any (fun e =>
      decide ((e.reordered Fin.revPerm).sectors.toList = ["B", "A"]) &&
        (RegisteredModel.solveShock ⟨twoSectorVersion, e⟩ 1000
          (.keyed ⟨[("A", 69), ("B", 138)]⟩)).alone.toOption.any fun x =>
            decide (x.deltaX.get? "A" = some 100) &&
              (Feasibility.solve simplex clippingOnly x.deltaX (twoSectorLimits ["A", "B"])
                { SolveContext.bare none with year := some 2025 }).toOption.any fun a =>
                  decide (a.feasible.get? "A" = some 50 ∧
                    a.binding.map (·.source.id) = [⟨.replicate 16 1⟩] ∧
                    a.slack = [⟨.replicate 16 2⟩] ∧ a.inactive = [⟨.replicate 16 3⟩])) = true := by
    decide +kernel
  obtain ⟨e, accepted, facts⟩ := (Outcome.any_ok_iff _ _).mp facts
  obtain ⟨codes, facts⟩ := Bool.and_eq_true_iff.mp facts
  have codes := of_decide_eq_true codes
  obtain ⟨x, solved, facts⟩ := (Outcome.any_ok_iff _ _).mp facts
  obtain ⟨output, facts⟩ := Bool.and_eq_true_iff.mp facts
  have output := of_decide_eq_true output
  obtain ⟨a, feasible, facts⟩ := (Outcome.any_ok_iff _ _).mp facts
  obtain ⟨clipped, binding, slack, inactive⟩ := of_decide_eq_true facts
  obtain ⟨⟨-, registered, -, -⟩, asked, followed⟩ :=
    sector_order_immaterial twoSectorSnapshot e accepted Fin.revPerm
  have fresh (model : RegisteredModel ℚ) : model.OwnIn 1000 (.empty 1) := LruCache.empty_faithful 1
  have shocks : SectorVector.Alike (⟨[("A", 69), ("B", 138)]⟩ : SectorVector ℚ)
      ⟨[("B", 138), ("A", 69)]⟩ := ⟨by decide, .swap _ _ _⟩
  have impacts := (asked twoSectorVersion twoSectorVersion 1000 (.empty 1) (.empty 1) (fresh _)
    (fresh _)).1 _ _ shocks
  have solved := ((fresh ⟨twoSectorVersion, e⟩).run_solve_shock _).trans solved
  rw [solved] at impacts
  obtain ⟨y, solvedOther, alike⟩ := impacts.other_ok
  obtain ⟨values, -, -, constrained⟩ := followed _ _ alike.deltaX
  have limits := constrained simplex clippingOnly rfl (twoSectorLimits ["A", "B"])
    (twoSectorLimits ["B", "A", "B"]) (two_sector_limits_alike (by simp [or_comm]))
    { SolveContext.bare none with year := some 2025 }
    { SolveContext.bare none with year := some 2025 } ⟨rfl, .none, .none, .none⟩
  rw [feasible] at limits
  obtain ⟨b, feasibleOther, same, ids⟩ := limits.other_ok
  exact ⟨e, x, y, a, b, accepted, registered rational_radius_order_free, codes, solved, solvedOther, alike, output,
    (values "A").symm.trans output, feasible, feasibleOther, same, clipped,
    (same.feasible.get_eq "A").symm.trans clipped, ids.symm.trans binding,
    same.slack.symm.trans slack, same.inactive.symm.trans inactive⟩

end EconomicImpact
