import Mathlib
import EconomicImpact.Feasibility.Simplex
import EconomicImpact.Proofs.Feasibility.Snapping

set_option autoImplicit false

namespace EconomicImpact

open Deviation

-- An assignment that is returned is optimal, and infeasible is what has no assignment.
structure Optimiser.ExactOn {α ι : Type} [Scalar α] [DecidableEq ι] (optimise : Optimiser α)
    (p : LinearProgram ι α) : Prop where
  optimal : ∀ x, optimise p = .ok x → p.Optimal x
  infeasible : optimise p = .error .infeasible ↔ ¬∃ x, p.Feasible x

theorem Optimiser.exact_of_optimal {α ι : Type} [Scalar α] [DecidableEq ι]
    (optimise : Optimiser α) (p : LinearProgram ι α) (x : ι → α) (returned : optimise p = .ok x)
    (optimal : p.Optimal x) : Optimiser.ExactOn optimise p := by
  constructor
  · intro z answer
    rw [returned] at answer
    cases answer
    exact optimal
  · constructor
    · intro answer
      rw [returned] at answer
      cases answer
    · intro empty
      exact absurd ⟨x, optimal.toFeasible⟩ empty

namespace Feasibility

variable {K : Type} [Field K] [LinearOrder K]

theorem least_deviation_optimal {n : Nat} {optimise : Optimiser K} {u z : Vector K n}
    {bounds : List (Bound K n)} {penalty : K}
    (exact : Optimiser.ExactOn optimise (program u bounds penalty))
    (solved : leastDeviation optimise u bounds penalty = .ok z) :
    ∃ x, (program u bounds penalty).Optimal x ∧ decode u bounds x = z := by
  obtain ⟨x, returned, decoded⟩ := (Outcome.map_ok_iff _ _ _).mp solved
  exact ⟨x, exact.optimal x returned, decoded⟩

variable [IsStrictOrderedRing K]

theorem violation_tolerance_nonneg (tolerance limit : K) (nonneg : 0 ≤ tolerance) :
    0 ≤ violationTolerance tolerance limit := by
  rw [violationTolerance, Scalar.larger_eq_max]
  exact mul_nonneg nonneg (zero_le_one.trans (le_max_right _ _))

theorem room_nonneg {n : Nat} (b : Bound K n) (z : Vector K n) (met : b.violation z = 0) :
    0 ≤ room b z := by
  have within := (b.met_iff z).mp met
  unfold room
  cases sense : b.sense with
  | upper =>
      rw [sense] at within
      simpa [Sense.direction] using within
  | lower =>
      rw [sense] at within
      simpa [Sense.direction] using within

theorem violation_tidy_le_spread {n : Nat} {tolerance penalty excess : K} {u : Vector K n}
    {bounds : List (Bound K n)} (sound : ∀ b ∈ bounds, b.Sound) (nonneg : 0 ≤ tolerance)
    (accepted : 0 ≤ excess) (x : Move n bounds.length → K)
    (feasible : (program u bounds penalty).Feasible x) (b : Bound K n) (listed : b ∈ bounds)
    (hard : b.isHard = true) :
    b.violation (tidy tolerance u bounds (decode u bounds x)) ≤
      max excess (spread tolerance bounds b) := by
  have left := room_nonneg b _ (hard_bound_met u bounds penalty feasible b listed hard)
  have carried := drift_le_spread sound nonneg b listed (decode u bounds x)
    (decode_le u bounds penalty feasible) (le_decode u bounds penalty feasible)
  rw [violation_tidy_le_iff b _ _ (le_max_of_le_left accepted)]
  have most := le_max_right excess (spread tolerance bounds b)
  linarith

variable {optimise : Optimiser K} {settings : FeasibilitySettings K} {u : SectorVector K}
  {set : ConstraintSet K} {context : SolveContext K} {resolution : Resolution K u.size}

omit [IsStrictOrderedRing K] in
-- Clipping repeats the check on the final vector; without active bounds there is nothing to check.
theorem Solved.optimal_or_checked {found : Candidate K u.size} {y : Vector K u.size}
    (stages : Solved optimise settings u set context resolution found y) :
    (found.method = .lp ∧
        leastDeviation optimise u.values resolution.active settings.softPenalty =
          .ok found.values) ∨
      (found.method ≠ .lp ∧ ∀ b ∈ resolution.active, b.isHard = true →
        b.violation y ≤ violationTolerance settings.bindingTolerance b.limit) := by
  obtain ⟨-, checked⟩ := (settle_ok_iff _ _ _ _ _).mp stages.settled
  have kept (clipping : found.method = .clipping) : ∀ b ∈ resolution.active, b.isHard = true →
      b.violation y ≤ violationTolerance settings.bindingTolerance b.limit := by
    intro b active hard
    exact not_lt.mp ((hard_violations_nil_iff _ _ _).mp (checked clipping) b active hard)
  cases (candidate_ok_iff _ _ _ _ _).mp stages.chosen with
  | passthrough free =>
      refine .inr ⟨by simp, ?_⟩
      simp [free]
  | disabled bounded off => exact .inr ⟨by simp [clipped], kept rfl⟩
  | optimal bounded on z solved met => exact .inl ⟨rfl, solved⟩
  | violated bounded on z solved id others missed => exact .inr ⟨by simp [clipped], kept rfl⟩
  | failed bounded on reason solved => exact .inr ⟨by simp [clipped], kept rfl⟩

section optimal

variable (nonneg : 0 ≤ settings.bindingTolerance)
  (resolved : set.resolve u.codes context.resolution = .ok resolution)
  (exact : Optimiser.ExactOn optimise (program u.values resolution.active settings.softPenalty))

include nonneg resolved exact

theorem Solved.violation_le_spread {found : Candidate K u.size} {y : Vector K u.size}
    (stages : Solved optimise settings u set context resolution found y) (b : Bound K u.size)
    (active : b ∈ resolution.active) (hard : b.isHard = true) :
    b.violation y ≤ max (violationTolerance settings.bindingTolerance b.limit)
      (spread settings.bindingTolerance resolution.active b) := by
  rcases stages.optimal_or_checked with ⟨-, source⟩ | ⟨-, kept⟩
  · obtain ⟨x, best, decoded⟩ := least_deviation_optimal exact source
    obtain ⟨rfl, -⟩ := (settle_ok_iff _ _ _ _ _).mp stages.settled
    rw [← decoded]
    exact violation_tidy_le_spread (set.active_sound u.codes _ resolution resolved) nonneg
      (violation_tolerance_nonneg _ b.limit nonneg) x best.toFeasible b active hard
  · exact le_max_of_le_left (kept b active hard)

theorem hard_bounds_kept_iff (r : FeasibilityResult K)
    (solved : solve optimise settings u set context = .ok r) :
    ∃ y : Vector K u.size, r.feasible = .ofAligned u.codes y ∧
      ((∀ b ∈ resolution.active, b.isHard = true →
          b.violation y ≤ violationTolerance settings.bindingTolerance b.limit) ↔
        (r.method = .lp → ∃ z,
          leastDeviation optimise u.values resolution.active settings.softPenalty = .ok z ∧
          ∀ b ∈ resolution.active, b.isHard = true →
            drift settings.bindingTolerance u.values resolution.active b z ≤
              room b z + violationTolerance settings.bindingTolerance b.limit)) ∧
      (∀ b ∈ resolution.active, b.isHard = true →
        b.violation y ≤ max (violationTolerance settings.bindingTolerance b.limit)
          (spread settings.bindingTolerance resolution.active b)) ∧
      ((∀ b ∈ resolution.active, b.isHard = true →
          spread settings.bindingTolerance resolution.active b ≤
            violationTolerance settings.bindingTolerance b.limit) →
        ∀ b ∈ resolution.active, b.isHard = true →
          b.violation y ≤ violationTolerance settings.bindingTolerance b.limit) := by
  obtain ⟨resolution', found, y, stages, rfl⟩ := (solve_ok_iff _ _ _ _ _ _).mp solved
  obtain rfl := stages.resolution_unique resolved
  have near := stages.violation_le_spread nonneg resolved exact
  refine ⟨y, rfl, ?_, near, fun narrow b active hard =>
    (near b active hard).trans_eq (max_eq_left (narrow b active hard))⟩
  rcases stages.optimal_or_checked with ⟨optimal, source⟩ | ⟨other, kept⟩
  · obtain ⟨rfl, -⟩ := (settle_ok_iff _ _ _ _ _).mp stages.settled
    have accepted (b : Bound K u.size) := violation_tolerance_nonneg _ b.limit nonneg
    constructor
    · intro kept _
      refine ⟨found.values, source, ?_⟩
      intro b active hard
      exact (violation_tidy_le_iff b found.values _ (accepted b)).mp (kept b active hard)
    · intro spared b active hard
      obtain ⟨z, same, within⟩ := spared optimal
      rw [source] at same
      cases same
      exact (violation_tidy_le_iff b found.values _ (accepted b)).mpr (within b active hard)
  · exact ⟨fun _ method => absurd method other, fun _ => kept⟩

end optimal

def cappedOutput : SectorVector ℚ := ⟨[("S1", 100)]⟩

def fewJobs : Coefficients ℚ := ⟨.nil, ⟨[("S1", 1 / 1000000)]⟩, ⟨[("S1", 0)]⟩, ⟨[("S1", 0)]⟩⟩

def jobsAboveCap : ConstraintSet ℚ :=
  .ofConstraints [.strictOn .capacityCap "S1" 100, .strictOn .floor "S1" 50,
    .strictOn .labor "S1" (201 / 2000000)]

def overCap : Vector ℚ cappedOutput.size := Vector.replicate cappedOutput.size (201 / 2)

theorem jobs_above_cap_resolved :
    ∃ resolution, jobsAboveCap.resolve cappedOutput.codes
        (SolveContext.bare (some fewJobs)).resolution = .ok resolution ∧
      (∀ b ∈ resolution.active, b.violation cappedOutput.values = 0) ∧
      (∃ x, simplex (program cappedOutput.values resolution.active
          Settings.standard.feasibility.softPenalty) = .ok x ∧
        (program cappedOutput.values resolution.active
          Settings.standard.feasibility.softPenalty).Optimal x) ∧
      ∃ b ∈ resolution.active, b.isHard = true ∧
        violationTolerance Settings.standard.feasibility.bindingTolerance b.limit <
          b.violation overCap := by
  have facts : (jobsAboveCap.resolve cappedOutput.codes
      (SolveContext.bare (some fewJobs)).resolution).toOption.any (fun resolution =>
        resolution.active.all (fun b => decide (b.violation cappedOutput.values = 0)) &&
        resolution.active.any (fun b => b.isHard && decide
          (violationTolerance Settings.standard.feasibility.bindingTolerance b.limit <
            b.violation overCap)) &&
        (simplex (program cappedOutput.values resolution.active
          Settings.standard.feasibility.softPenalty)).toOption.any
            (fun x => (Move.all _ _).all fun v => decide (x v = 0))) = true := by decide +kernel
  obtain ⟨resolution, resolved, facts⟩ := (Outcome.any_ok_iff _ _).mp facts
  rw [Bool.and_eq_true, Bool.and_eq_true] at facts
  obtain ⟨⟨met, exceeded⟩, zero⟩ := facts
  have met : ∀ b ∈ resolution.active, b.violation cappedOutput.values = 0 := fun b active =>
    of_decide_eq_true (List.all_eq_true.mp met b active)
  obtain ⟨x, returned, still⟩ := (Outcome.any_ok_iff _ _).mp zero
  have same : x = fun _ => 0 := by
    funext v
    exact of_decide_eq_true (List.all_eq_true.mp still v (Move.mem_all v))
  subst same
  have sound := jobsAboveCap.active_sound cappedOutput.codes _ resolution resolved
  have optimal := zero_optimal cappedOutput.values resolution.active
    Settings.standard.feasibility.softPenalty met (by decide +kernel)
    fun b active => (sound b active).nonempty
  refine ⟨resolution, resolved, met, ⟨_, returned, optimal⟩, ?_⟩
  simpa only [List.any_eq_true, Bool.and_eq_true, decide_eq_true_eq] using exceeded

theorem jobs_above_cap_solved :
    ∃ r, solve simplex Settings.standard.feasibility cappedOutput jobsAboveCap
        (.bare (some fewJobs)) = .ok r ∧ r.feasible = .ofAligned cappedOutput.codes overCap := by
  have facts : (solve simplex Settings.standard.feasibility cappedOutput jobsAboveCap
      (.bare (some fewJobs))).toOption.any
        (fun r => decide (r.feasible = .ofAligned cappedOutput.codes overCap)) = true := by
    decide +kernel
  obtain ⟨r, solved, same⟩ := (Outcome.any_ok_iff _ _).mp facts
  exact ⟨r, solved, of_decide_eq_true same⟩

theorem optimal_vector_carried_above_hard_cap :
    ∃ r resolution y,
      0 ≤ Settings.standard.feasibility.bindingTolerance (α := ℚ) ∧
      solve simplex Settings.standard.feasibility cappedOutput jobsAboveCap
        (.bare (some fewJobs)) = .ok r ∧
      jobsAboveCap.resolve cappedOutput.codes (SolveContext.bare (some fewJobs)).resolution =
        .ok resolution ∧
      Optimiser.ExactOn simplex (program cappedOutput.values resolution.active
        Settings.standard.feasibility.softPenalty) ∧
      r.feasible = .ofAligned cappedOutput.codes y ∧
      ¬∀ b ∈ resolution.active, b.isHard = true →
        b.violation y ≤
          violationTolerance Settings.standard.feasibility.bindingTolerance b.limit := by
  obtain ⟨r, solved, feasible⟩ := jobs_above_cap_solved
  obtain ⟨resolution, resolved, -, ⟨x, returned, optimal⟩, b, active, hard, exceeded⟩ :=
    jobs_above_cap_resolved
  have exact := Optimiser.exact_of_optimal simplex _ x returned optimal
  refine ⟨r, resolution, overCap, by decide +kernel, solved, resolved, exact, feasible, ?_⟩
  intro kept
  exact absurd (kept b active hard) (not_le.mpr exceeded)

theorem hard_bounds_of_crowded_sector :
    ∃ r resolution y,
      solve simplex Settings.standard.feasibility cappedOutput jobsAboveCap
        (.bare (some fewJobs)) = .ok r ∧
      jobsAboveCap.resolve cappedOutput.codes (SolveContext.bare (some fewJobs)).resolution =
        .ok resolution ∧
      r.feasible = .ofAligned cappedOutput.codes y ∧
      ∀ b ∈ resolution.active, b.isHard = true →
        b.violation y ≤
          max (violationTolerance Settings.standard.feasibility.bindingTolerance b.limit)
            (spread Settings.standard.feasibility.bindingTolerance resolution.active b) := by
  obtain ⟨r, solved, -⟩ := jobs_above_cap_solved
  obtain ⟨resolution, resolved, -, ⟨x, returned, optimal⟩, -⟩ := jobs_above_cap_resolved
  have exact := Optimiser.exact_of_optimal simplex _ x returned optimal
  obtain ⟨y, feasible, -, near, -⟩ :=
    hard_bounds_kept_iff (by decide +kernel) resolved exact r solved
  exact ⟨r, resolution, y, solved, resolved, feasible, near⟩

end Feasibility

end EconomicImpact
