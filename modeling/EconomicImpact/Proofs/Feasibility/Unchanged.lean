import Mathlib
import EconomicImpact.Proofs.Constraint.Conflict
import EconomicImpact.Proofs.Feasibility.Clipping
import EconomicImpact.Proofs.Feasibility.HardBounds

set_option autoImplicit false

namespace EconomicImpact

open Deviation

variable {K : Type} [Field K] [LinearOrder K] [IsStrictOrderedRing K] {n : Nat}

theorem clip_of_met (u : Vector K n) (bounds : List (Bound K n))
    (met : ∀ b ∈ bounds, b.violation u = 0) : clip u bounds = u := by
  refine List.foldlRecOn (motive := (· = u)) (Clipping.passes bounds) Clipping.apply rfl ?_
  rintro y rfl b turn
  exact Clipping.apply_of_met b y (met b (Clipping.mem_passes b turn))

namespace Feasibility

variable (tolerance : K) (u : Vector K n) (bounds : List (Bound K n)) (i : Fin n)

-- The limits of the bounds on a sector lie beyond a value that meets them, on the side of their sense.
theorem land_on_side (b : Bound K n) (sound : b.Sound) (met : b.violation u = 0)
    (j : Fin n) (w : K) (single : b.single? = some (j, w)) :
    match b.sense with
    | .upper => u.get j ≤ b.limit / w
    | .lower => b.limit / w ≤ u.get j := by
  exact (b.single_met_iff single (sound.weight_pos single)).mp met

omit [IsStrictOrderedRing K] in
-- Snapping leads from the value it starts with only to limits of bounds on the sector.
theorem landing_induction (motive : K → Prop) (v : K) (start : motive v)
    (limits : ∀ b ∈ bounds, ∀ w, b.single? = some (i, w) → motive (b.limit / w)) :
    motive (landing tolerance bounds i v) := by
  induction bounds generalizing v with
  | nil => exact start
  | cons b rest ih =>
      have first : motive (landOn tolerance i v b) := by
        unfold landOn
        cases single : b.single? with
        | none => exact start
        | some term =>
            obtain ⟨j, w⟩ := term
            by_cases near : j = i ∧ Scalar.abs (w * v - b.limit) ≤ tolerance
            · have limit := limits b List.mem_cons_self w (by rw [single, near.1])
              simpa only [if_pos near] using limit
            · simpa only [if_neg near] using start
      exact ih _ first fun c member => limits c (List.mem_cons_of_mem b member)

theorem covers_of_single {α : Type} (b : Bound α n) (w : α) (single : b.single? = some (i, w)) :
    b.covers i = true := by
  simp [Bound.covers, Bound.sectors, single_term b i w single]

section met

variable {u bounds} (sound : ∀ b ∈ bounds, b.Sound) (met : ∀ b ∈ bounds, b.violation u = 0)

include sound met

theorem le_landing_of_unraised (unraised : movable .lower bounds i = false) :
    u.get i ≤ landing tolerance bounds i (u.get i) := by
  refine landing_induction tolerance bounds i (u.get i ≤ ·) _ (le_refl _) ?_
  intro b listed w single
  have side := land_on_side u b (sound b listed) (met b listed) i w single
  cases sense : b.sense with
  | upper => simpa only [sense] using side
  | lower =>
      have uncovered := (movable_eq_false_iff _ _ _).mp unraised b listed sense
      rw [covers_of_single i b w single] at uncovered
      cases uncovered

theorem landing_le_of_unlowered (unlowered : movable .upper bounds i = false) :
    landing tolerance bounds i (u.get i) ≤ u.get i := by
  refine landing_induction tolerance bounds i (· ≤ u.get i) _ (le_refl _) ?_
  intro b listed w single
  have side := land_on_side u b (sound b listed) (met b listed) i w single
  cases sense : b.sense with
  | lower => simpa only [sense] using side
  | upper =>
      have uncovered := (movable_eq_false_iff _ _ _).mp unlowered b listed sense
      rw [covers_of_single i b w single] at uncovered
      cases uncovered

-- A value that meets its bounds can only be carried off where bounds act from both sides.
theorem settled_of_met :
    settledAt tolerance u bounds i (u.get i) =
      if movable .lower bounds i = true ∧ movable .upper bounds i = true then
        landing tolerance bounds i (u.get i)
      else u.get i := by
  simp only [settledAt, Scalar.smaller_eq_min, Scalar.larger_eq_max]
  cases raisable : movable .lower bounds i with
  | true =>
      cases lowerable : movable .upper bounds i with
      | true => simp
      | false => simpa using landing_le_of_unlowered tolerance i sound met lowerable
  | false =>
      have above := le_landing_of_unraised tolerance i sound met raisable
      cases lowerable : movable .upper bounds i <;> simp [above]

omit sound in
theorem hard_violations_of_met (nonneg : 0 ≤ tolerance) :
    hardViolations tolerance u bounds = [] := by
  rw [hard_violations_nil_iff]
  intro b listed _
  rw [met b listed]
  exact not_lt.mpr (violation_tolerance_nonneg tolerance b.limit nonneg)

omit tolerance in
theorem candidate_of_met (optimise : Optimiser K) (settings : FeasibilitySettings K)
    (nonneg : 0 ≤ settings.bindingTolerance)
    (returns : settings.lpEnabled = true → 0 < settings.softPenalty ∧
      ∃ x, optimise (program u bounds settings.softPenalty) = .ok x ∧
        (program u bounds settings.softPenalty).Optimal x) :
    ∃ method fallback,
      candidate optimise settings u bounds = .ok ⟨u, method, fallback⟩ ∧
        (method = .clipping ↔ bounds ≠ [] ∧ settings.lpEnabled = false) := by
  by_cases free : bounds = []
  · exact ⟨.passthrough, none, (candidate_ok_iff _ _ _ _ _).mpr (.passthrough free), by simp [free]⟩
  · cases enabled : settings.lpEnabled with
    | false =>
        have clippedStill : clipped u bounds .disabled = ⟨u, .clipping, some .disabled⟩ := by
          rw [clipped, clip_of_met u bounds met]
        have chosen : Chosen optimise settings u bounds (clipped u bounds .disabled) :=
          .disabled free enabled
        rw [clippedStill] at chosen
        exact ⟨.clipping, some .disabled, (candidate_ok_iff _ _ _ _ _).mpr chosen, by simp [free]⟩
    | true =>
        obtain ⟨priced, x, returned, optimal⟩ := returns enabled
        have decoded := decode_optimal u bounds settings.softPenalty met priced
          (fun b listed => (sound b listed).nonempty) optimal
        have solved : leastDeviation optimise u bounds settings.softPenalty = .ok u :=
          (Outcome.map_ok_iff _ _ _).mpr ⟨x, returned, decoded⟩
        have kept := hard_violations_of_met settings.bindingTolerance met nonneg
        exact ⟨.lp, none, (candidate_ok_iff _ _ _ _ _).mpr (.optimal free enabled u solved kept),
          by simp⟩

end met

variable {optimise : Optimiser K} {settings : FeasibilitySettings K} {u : SectorVector K}
  {set : ConstraintSet K} {context : SolveContext K} {resolution : Resolution K u.size}

theorem met_change_kept_iff (nonneg : 0 ≤ settings.bindingTolerance)
    (returns : settings.lpEnabled = true → 0 < settings.softPenalty ∧
      ∃ x, optimise (program u.values resolution.active settings.softPenalty) = .ok x ∧
        (program u.values resolution.active settings.softPenalty).Optimal x)
    (resolved : set.resolve u.codes context.resolution = .ok resolution)
    (met : ∀ b ∈ resolution.active, b.violation u.values = 0) :
    (∃ r y, solve optimise settings u set context = .ok r ∧ r.feasible = .ofAligned u.codes y ∧
        ∀ i, |y.get i - u.values.get i| ≤ settings.bindingTolerance) ↔
      (allSectors ∈ u.codes.toList → set.hardConflicts context.year = []) ∧
      (∀ i, movable .lower resolution.active i = true →
        movable .upper resolution.active i = true →
        |landing settings.bindingTolerance resolution.active i (u.values.get i) -
          u.values.get i| ≤ settings.bindingTolerance) ∧
      (settings.lpEnabled = false → hardViolations settings.bindingTolerance
        (tidy settings.bindingTolerance u.values resolution.active u.values)
        resolution.active = []) := by
  have sound := set.active_sound u.codes _ resolution resolved
  have settled (i : Fin u.size) := settled_of_met settings.bindingTolerance i sound met
  obtain ⟨method, fallback, chosen, clipping⟩ :=
    candidate_of_met sound met optimise settings nonneg returns
  constructor
  · rintro ⟨r, y, solved, feasible, near⟩
    obtain ⟨resolution', found, final, stages, rfl⟩ := (solve_ok_iff _ _ _ _ _ _).mp solved
    obtain rfl := stages.resolution_unique resolved
    have same := stages.chosen.symm.trans chosen
    cases same
    obtain rfl := SectorVector.of_aligned_injective u.codes final y feasible
    obtain ⟨rfl, checked⟩ := (settle_ok_iff _ _ _ _ _).mp stages.settled
    refine ⟨fun _ => stages.consistent, ?_, ?_⟩
    · intro i raisable lowerable
      have moved := near i
      rwa [tidy_get, settled, if_pos ⟨raisable, lowerable⟩] at moved
    · intro off
      by_cases free : resolution'.active = []
      · simp [free, hardViolations]
      · exact checked (clipping.mpr ⟨free, off⟩)
  · rintro ⟨consistent, near, checked⟩
    have unopposed : set.hardConflicts context.year = [] := by
      by_cases proper : allSectors ∈ u.codes.toList
      · exact consistent proper
      · by_contra conflict
        obtain ⟨b, active, -, violated⟩ := set.hard_conflict_violated context.resolution
          resolution resolved proper conflict u.values
        exact absurd (met b active) violated.ne'
    have accepted : settle settings.bindingTolerance u.values resolution.active
        ⟨u.values, method, fallback⟩ =
          .ok (tidy settings.bindingTolerance u.values resolution.active u.values) :=
      (settle_ok_iff _ _ _ _ _).mpr ⟨rfl, fun clipped => checked (clipping.mp clipped).2⟩
    refine ⟨_, _, (solve_ok_iff _ _ _ _ _ _).mpr ⟨resolution, _, _,
      ⟨fun _ => rfl, unopposed, resolved, chosen, accepted⟩, rfl⟩, rfl, ?_⟩
    intro i
    rw [tidy_get, settled]
    by_cases both : movable .lower resolution.active i = true ∧
        movable .upper resolution.active i = true
    · rw [if_pos both]
      exact near i both.1 both.2
    · rw [if_neg both, sub_self, abs_zero]
      exact nonneg

-- A sector under the code of all sectors: floor and cap name one code and bound different sums.
def starredOutput : SectorVector ℚ := ⟨[("*", 60), ("S1", -30)]⟩

def starredBounds : ConstraintSet ℚ :=
  .ofConstraints [{ Constraint.strictOn .floor "*" 50 with scope := .group [allSectors] },
    { Constraint.strictOn .capacityCap "*" 40 with scope := .all }]

example :
    ((starredBounds.resolve starredOutput.codes (SolveContext.bare none).resolution).toOption.any
      fun resolution => resolution.active.all fun b => b.violation starredOutput.values = 0) ∧
      (solve simplex Settings.standard.feasibility starredOutput starredBounds
        (.bare none)).toOption.isNone := by decide +kernel

-- The sector at its cap meets every bound; the linear program has it moved, clipping has it refused.
theorem met_change_moved_or_refused :
    ∃ resolution,
      0 ≤ Settings.standard.feasibility.bindingTolerance (α := ℚ) ∧
      0 < Settings.standard.feasibility.softPenalty (α := ℚ) ∧
      jobsAboveCap.resolve cappedOutput.codes (SolveContext.bare (some fewJobs)).resolution =
        .ok resolution ∧
      (∀ b ∈ resolution.active, b.violation cappedOutput.values = 0) ∧
      (∃ x, simplex (program cappedOutput.values resolution.active
          Settings.standard.feasibility.softPenalty) = .ok x ∧
        (program cappedOutput.values resolution.active
          Settings.standard.feasibility.softPenalty).Optimal x) ∧
      (¬∃ r y, solve simplex Settings.standard.feasibility cappedOutput jobsAboveCap
          (.bare (some fewJobs)) = .ok r ∧ r.feasible = .ofAligned cappedOutput.codes y ∧
        ∀ i, |y.get i - cappedOutput.values.get i| ≤
          Settings.standard.feasibility.bindingTolerance) ∧
      ¬∃ r, solve simplex { Settings.standard.feasibility with lpEnabled := false } cappedOutput
        jobsAboveCap (.bare (some fewJobs)) = .ok r := by
  obtain ⟨resolution, resolved, met, returns, -⟩ := jobs_above_cap_resolved
  refine ⟨resolution, by decide +kernel, by decide +kernel, resolved, met, returns, ?_, ?_⟩
  · rintro ⟨r, y, solved, feasible, near⟩
    obtain ⟨r', solved', feasible'⟩ := jobs_above_cap_solved
    rw [solved] at solved'
    cases solved'
    obtain rfl := SectorVector.of_aligned_injective _ _ _ (feasible.symm.trans feasible')
    have moved : ¬|overCap.get ⟨0, by decide⟩ - cappedOutput.values.get ⟨0, by decide⟩| ≤
        Settings.standard.feasibility.bindingTolerance := by decide +kernel
    exact moved (near _)
  · rintro ⟨r, solved⟩
    have refused : (solve simplex { Settings.standard.feasibility with lpEnabled := false }
        cappedOutput jobsAboveCap (.bare (some fewJobs))).toOption.any (fun _ => true) = false := by
      decide +kernel
    rw [solved] at refused
    cases refused

theorem met_change_of_crowded_sector :
    ∃ resolution,
      jobsAboveCap.resolve cappedOutput.codes (SolveContext.bare (some fewJobs)).resolution =
        .ok resolution ∧
      ((∃ r y, solve simplex Settings.standard.feasibility cappedOutput jobsAboveCap
          (.bare (some fewJobs)) = .ok r ∧ r.feasible = .ofAligned cappedOutput.codes y ∧
        ∀ i, |y.get i - cappedOutput.values.get i| ≤
          Settings.standard.feasibility.bindingTolerance) →
        ∀ i, movable .lower resolution.active i = true →
          movable .upper resolution.active i = true →
          |landing Settings.standard.feasibility.bindingTolerance resolution.active i
            (cappedOutput.values.get i) - cappedOutput.values.get i| ≤
            Settings.standard.feasibility.bindingTolerance) := by
  obtain ⟨resolution, resolved, met, returns, -⟩ := jobs_above_cap_resolved
  have exactly := met_change_kept_iff (by decide +kernel)
    (fun _ => ⟨by decide +kernel, returns⟩) resolved met
  exact ⟨resolution, resolved, fun kept => (exactly.mp kept).2.1⟩

end Feasibility

end EconomicImpact
