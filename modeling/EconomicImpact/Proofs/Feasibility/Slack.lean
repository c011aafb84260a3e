import Mathlib
import EconomicImpact.Proofs.Feasibility.Infeasible

set_option autoImplicit false

namespace EconomicImpact.Feasibility

variable {K : Type} [Field K] [LinearOrder K] [IsStrictOrderedRing K] {n : Nat}

omit [IsStrictOrderedRing K] in
theorem abs_room (b : Bound K n) (y : Vector K n) : |b.lhs y - b.limit| = |room b y| := by
  unfold room
  cases b.sense with
  | upper => rw [Sense.direction, neg_neg, one_mul, abs_sub_comm]
  | lower => rw [Sense.direction, neg_one_mul, neg_sub]

theorem missed_iff_room {tolerance : K} (b : Bound K n) (y : Vector K n) (nonneg : 0 ≤ tolerance) :
    tolerance < b.violation y ↔ room b y < -tolerance := by
  rw [← not_le, b.violation_le_iff y tolerance nonneg, room]
  cases b.sense with
  | upper =>
      simp only [Sense.direction]
      constructor <;> intro beyond <;> linarith
  | lower =>
      simp only [Sense.direction]
      constructor <;> intro beyond <;> linarith

theorem slack_iff {tolerance : K} (b : Bound K n) (y : Vector K n) (nonneg : 0 ≤ tolerance) :
    isBinding tolerance y b = false ↔
      tolerance < room b y ∨ (b.isHard = true ∧ tolerance < b.violation y) := by
  have missed := missed_iff_room b y nonneg
  rw [isBinding, Bool.or_eq_false_iff, decide_eq_false_iff_not, not_le, Scalar.abs_exact, abs_room,
    lt_abs, isRelaxed]
  by_cases beyond : tolerance < b.violation y
  · have short := missed.mp beyond
    have full : ¬tolerance < room b y := by linarith
    have far : tolerance < -room b y := by linarith
    cases b.isHard <;> simp [beyond, full, far]
  · have kept : ¬tolerance < -room b y := fun short => beyond (missed.mpr (by linarith))
    simp [beyond, kept]

variable {optimise : Optimiser K} {settings : FeasibilitySettings K} {u : SectorVector K}
  {set : ConstraintSet K} {context : SolveContext K}

theorem Solved.within_iff_drift {resolution : Resolution K u.size} {found : Candidate K u.size}
    {y : Vector K u.size} (stages : Solved optimise settings u set context resolution found y)
    (nonneg : 0 ≤ settings.bindingTolerance) (b : Bound K u.size) :
    b.violation y ≤ settings.bindingTolerance ↔
      drift settings.bindingTolerance u.values resolution.active b found.values ≤
        room b found.values + settings.bindingTolerance := by
  obtain ⟨rfl, -⟩ := (settle_ok_iff _ _ _ _ _).mp stages.settled
  exact violation_tidy_le_iff b found.values _ nonneg

theorem slack_bounds_have_room_iff (r : FeasibilityResult K)
    (nonneg : 0 ≤ settings.bindingTolerance)
    (solved : solve optimise settings u set context = .ok r) :
    ∃ (resolution : Resolution K u.size) (found : Candidate K u.size) (y : Vector K u.size),
      Solved optimise settings u set context resolution found y ∧
      r.feasible = .ofAligned u.codes y ∧
      r.slack = (resolution.active.filter
        (!isBinding settings.bindingTolerance y ·)).map (·.id) ∧
      (∀ b ∈ resolution.active, isBinding settings.bindingTolerance y b = false ↔
        settings.bindingTolerance < room b y ∨
          (b.isHard = true ∧ settings.bindingTolerance < b.violation y)) ∧
      ((∀ b ∈ resolution.active, isBinding settings.bindingTolerance y b = false →
          b.violation y ≤ settings.bindingTolerance) ↔
        ∀ b ∈ resolution.active, b.isHard = true →
          drift settings.bindingTolerance u.values resolution.active b found.values ≤
            room b found.values + settings.bindingTolerance) ∧
      (r.method ≠ .lp → ∀ b ∈ resolution.active,
        isBinding settings.bindingTolerance y b = false →
          b.violation y ≤ violationTolerance settings.bindingTolerance b.limit) := by
  obtain ⟨resolution, found, y, stages, rfl⟩ := (solve_ok_iff _ _ _ _ _ _).mp solved
  have slack (b : Bound K u.size) := slack_iff b y nonneg
  -- Room beyond the tolerance is no violation, so what a slack bound misses, it misses as a hard one.
  have hardly (b : Bound K u.size)
      (listed : isBinding settings.bindingTolerance y b = false)
      (beyond : settings.bindingTolerance < b.violation y) : b.isHard = true := by
    rcases (slack b).mp listed with spare | ⟨hard, -⟩
    · have short := (missed_iff_room b y nonneg).mp beyond
      linarith
    · exact hard
  refine ⟨resolution, found, y, stages, rfl, rfl, fun b _ => slack b, ?_, ?_⟩
  · simp only [← stages.within_iff_drift nonneg]
    constructor
    · intro roomy b active hard
      by_contra beyond
      have missed := not_le.mp beyond
      exact beyond (roomy b active ((slack b).mpr (.inr ⟨hard, missed⟩)))
    · intro kept b active listed
      by_contra beyond
      exact beyond (kept b active (hardly b listed (not_le.mp beyond)))
  · intro clipping b active listed
    by_cases beyond : settings.bindingTolerance < b.violation y
    · rcases stages.optimal_or_checked with ⟨optimal, -⟩ | ⟨-, checked⟩
      · exact absurd optimal clipping
      · exact checked b active (hardly b listed beyond)
    · refine (not_lt.mp beyond).trans (le_mul_of_one_le_right nonneg ?_)
      rw [Scalar.larger_eq_max]
      exact le_max_right _ _

-- A cap that holds back almost a million, and a floor under both sectors that asks for one unit more than the
-- cap and the second sector leave. Clipping spreads the unit over both.
def cappedMillions : SectorVector ℚ := ⟨[("S1", 2000000), ("S2", 1000000)]⟩

def capUnderFloor : ConstraintSet ℚ :=
  .ofConstraints [.strictOn .capacityCap "S1" 1000000,
    { Constraint.strictOn .floor "S1" 2000001 with
      id := ⟨Vector.replicate 16 1⟩
      scope := .group ["S1", "S2"] }]

def spreadMillions : Vector ℚ cappedMillions.size :=
  Vector.replicate cappedMillions.size (2000001 / 2)

theorem cap_under_floor_solved :
    ∃ r, solve simplex clippingOnly cappedMillions capUnderFloor (.bare none) = .ok r ∧
      r.feasible = .ofAligned cappedMillions.codes spreadMillions ∧ r.slack = [.nil] ∧
      r.enablers = [] := by
  have facts : (solve simplex clippingOnly cappedMillions capUnderFloor
      (.bare none)).toOption.any (fun r => decide (
        r.feasible = .ofAligned cappedMillions.codes spreadMillions ∧ r.slack = [.nil] ∧
          r.enablers = [])) = true := by decide +kernel
  obtain ⟨r, solved, same⟩ := (Outcome.any_ok_iff _ _).mp facts
  exact ⟨r, solved, of_decide_eq_true same⟩

theorem cap_under_floor_resolved :
    ∃ resolution, capUnderFloor.resolve cappedMillions.codes
        (SolveContext.bare none).resolution = .ok resolution ∧
      ∃ b ∈ resolution.active, (∀ c ∈ resolution.active, c.id = .nil ↔ c.source = b.source) ∧
        b.isHard = true ∧ clippingOnly.bindingTolerance < b.violation spreadMillions := by
  have facts : (capUnderFloor.resolve cappedMillions.codes
      (SolveContext.bare none).resolution).toOption.any (fun resolution =>
        resolution.active.any fun b =>
          (resolution.active.all fun c => decide (c.id = .nil ↔ c.source = b.source)) &&
            b.isHard &&
            decide (clippingOnly.bindingTolerance < b.violation spreadMillions)) = true := by
    decide +kernel
  obtain ⟨resolution, resolved, facts⟩ := (Outcome.any_ok_iff _ _).mp facts
  refine ⟨resolution, resolved, ?_⟩
  simpa only [List.any_eq_true, List.all_eq_true, Bool.and_eq_true, decide_eq_true_eq,
    and_assoc] using facts

theorem missed_cap_reported_slack :
    ∃ r resolution y,
      (0 : ℚ) ≤ clippingOnly.bindingTolerance ∧
      solve simplex clippingOnly cappedMillions capUnderFloor (.bare none) = .ok r ∧
      capUnderFloor.resolve cappedMillions.codes (SolveContext.bare none).resolution =
        .ok resolution ∧
      r.feasible = .ofAligned cappedMillions.codes y ∧ r.enablers = [] ∧
      ∃ b ∈ resolution.active, r.slack = [b.id] ∧
        (∀ c ∈ resolution.active, c.id = b.id → c.source = b.source) ∧
        clippingOnly.bindingTolerance < b.violation y := by
  obtain ⟨r, solved, feasible, slack, enablers⟩ := cap_under_floor_solved
  obtain ⟨resolution, resolved, b, active, only, -, missed⟩ := cap_under_floor_resolved
  have own : b.id = .nil := (only b active).mpr rfl
  refine ⟨r, resolution, spreadMillions, by decide +kernel, solved, resolved, feasible, enablers,
    b, active, by rw [slack, own], ?_, missed⟩
  rw [own]
  exact fun c listed => (only c listed).mp

theorem missed_cap_after_clipping :
    ∃ (r : FeasibilityResult ℚ) (resolution : Resolution ℚ cappedMillions.size)
      (found : Candidate ℚ cappedMillions.size) (y : Vector ℚ cappedMillions.size),
      solve simplex clippingOnly cappedMillions capUnderFloor (.bare none) = .ok r ∧
      r.feasible = .ofAligned cappedMillions.codes y ∧
      (∀ b ∈ resolution.active, isBinding clippingOnly.bindingTolerance y b = false →
        r.method ≠ .lp →
          b.violation y ≤ violationTolerance clippingOnly.bindingTolerance b.limit) ∧
      ¬∀ b ∈ resolution.active, b.isHard = true →
        drift clippingOnly.bindingTolerance cappedMillions.values resolution.active b
          found.values ≤ room b found.values + clippingOnly.bindingTolerance := by
  obtain ⟨r, solved, feasible, -⟩ := cap_under_floor_solved
  obtain ⟨known, resolved, b, active, -, hard, missed⟩ := cap_under_floor_resolved
  obtain ⟨resolution, found, y, stages, aligned, -, slack, exactly, clipped⟩ :=
    slack_bounds_have_room_iff r (by decide +kernel) solved
  obtain rfl := stages.resolution_unique resolved
  obtain rfl := SectorVector.of_aligned_injective _ _ _ (aligned.symm.trans feasible)
  refine ⟨r, resolution, found, _, solved, aligned, fun b active listed other =>
    clipped other b active listed, fun kept => ?_⟩
  have unbound := (slack b active).mpr (.inr ⟨hard, missed⟩)
  exact absurd (exactly.mpr kept b active unbound) (not_le.mpr missed)

end EconomicImpact.Feasibility
