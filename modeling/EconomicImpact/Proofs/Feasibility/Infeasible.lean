import Mathlib
import EconomicImpact.Proofs.Feasibility.Attainable
import EconomicImpact.Proofs.Feasibility.Clipping
import EconomicImpact.Proofs.Feasibility.Unchanged

set_option autoImplicit false

namespace EconomicImpact.Feasibility

open Deviation Clipping

section stages

variable {α : Type} [Scalar α] {n : Nat}

theorem candidate_error_iff (optimise : Optimiser α) (settings : FeasibilitySettings α)
    (u : Vector α n) (bounds : List (Bound α n)) (fault : Fault α) :
    candidate optimise settings u bounds = .error fault ↔
      bounds ≠ [] ∧ settings.lpEnabled = true ∧
        optimise (program u bounds settings.softPenalty) = .error .infeasible ∧
        .infeasible .emptyProgram ((bounds.filter (·.isHard)).map (·.id)) = fault := by
  rw [← Outcome.map_stopped_iff _ (decode u bounds)]
  change _ ↔ bounds ≠ [] ∧ settings.lpEnabled = true ∧
    leastDeviation optimise u bounds settings.softPenalty = .error .infeasible ∧ _
  by_cases free : bounds = []
  · simp [candidate, free]
  · cases enabled : settings.lpEnabled with
    | false => simp [candidate, free, enabled]
    | true =>
        cases answer : leastDeviation optimise u bounds settings.softPenalty with
        | ok z =>
            cases missed : hardViolations settings.bindingTolerance z bounds <;>
              simp [candidate, free, enabled, answer, missed]
        | error obstacle =>
            cases obstacle <;> simp [candidate, free, enabled, answer]

theorem settle_error_iff (tolerance : α) (u : Vector α n) (bounds : List (Bound α n))
    (found : Candidate α n) (fault : Fault α) :
    settle tolerance u bounds found = .error fault ↔
      found.method = .clipping ∧
        hardViolations tolerance (tidy tolerance u bounds found.values) bounds ≠ [] ∧
        .infeasible .unmetByClipping
          (hardViolations tolerance (tidy tolerance u bounds found.values) bounds) = fault := by
  simp only [settle]
  by_cases refused : found.method = .clipping ∧
      hardViolations tolerance (tidy tolerance u bounds found.values) bounds ≠ []
  · simp [refused]
  · rw [if_neg refused]
    constructor
    · intro impossible
      cases impossible
    · rintro ⟨clipping, missed, -⟩
      exact absurd ⟨clipping, missed⟩ refused

-- Once its constraints are resolved, a solve can only find the bounds infeasible, all of them together.
theorem finish_free {sort : Fault α → Prop}
    (other : ∀ cause ids, cause ≠ .opposingBounds → ¬sort (.infeasible cause ids))
    (optimise : Optimiser α) (settings : FeasibilitySettings α) (u : SectorVector α)
    (set : ConstraintSet α) (context : SolveContext α) (resolution : Resolution α u.size) :
    Outcome.Free sort (finish optimise settings u set context resolution) := by
  refine Outcome.free_bind (fun fault failed => ?_) fun found =>
    Outcome.free_bind (fun fault failed => ?_) fun y => Outcome.free_ok _
  · obtain ⟨-, -, -, rfl⟩ := (candidate_error_iff _ _ _ _ _).mp failed
    exact other _ _ nofun
  · obtain ⟨-, -, rfl⟩ := (settle_error_iff _ _ _ _ _).mp failed
    exact other _ _ nofun

theorem Chosen.values_of_clipping {optimise : Optimiser α} {settings : FeasibilitySettings α}
    {u : Vector α n} {bounds : List (Bound α n)} {found : Candidate α n}
    (chosen : Chosen optimise settings u bounds found) (clipping : found.method = .clipping) :
    found.values = clip u bounds := by
  cases chosen with
  | passthrough => cases clipping
  | disabled => rfl
  | optimal => cases clipping
  | violated => rfl
  | failed => rfl

variable (optimise : Optimiser α) (settings : FeasibilitySettings α) (u : SectorVector α)
  (set : ConstraintSet α) (context : SolveContext α) {resolution : Resolution α u.size}

def ClippingRefused (resolution : Resolution α u.size) : Prop :=
  ∃ found, candidate optimise settings u.values resolution.active = .ok found ∧
    found.method = .clipping ∧
    hardViolations settings.bindingTolerance
      (tidy settings.bindingTolerance u.values resolution.active
        (clip u.values resolution.active)) resolution.active ≠ []

-- One case for each stage that may report the bounds of a resolved set.
theorem solve_infeasible_iff (finite : ∀ i, Scalar.isFinite (u.values.get i) = true)
    (resolved : set.resolve u.codes context.resolution = .ok resolution) :
    (∃ cause ids, solve optimise settings u set context = .error (.infeasible cause ids)) ↔
      set.hardConflicts context.year ≠ [] ∨
      (resolution.active ≠ [] ∧ settings.lpEnabled = true ∧
        optimise (program u.values resolution.active settings.softPenalty) =
          .error .infeasible) ∨
      ClippingRefused optimise settings u resolution := by
  have numbers := (some_not_finite_iff u.values).mpr finite
  unfold solve
  simp only [numbers, Bool.false_eq_true, if_false]
  cases conflicts : set.hardConflicts context.year with
  | cons first rest => simp [throw, throwThe, MonadExceptOf.throw]
  | nil =>
      have opened : set.resolve u.codes
          ⟨context.year, context.baseOutput, context.coefficients⟩ = .ok resolution := resolved
      simp only [opened, bind, Except.bind, ne_eq, not_true_eq_false, false_or]
      cases chosen : candidate optimise settings u.values resolution.active with
      | error fault =>
          obtain ⟨bounded, enabled, answer, rfl⟩ := (candidate_error_iff _ _ _ _ _).mp chosen
          simp [bounded, enabled, answer]
      | ok found =>
          have nonempty : ¬(resolution.active ≠ [] ∧ settings.lpEnabled = true ∧
              optimise (program u.values resolution.active settings.softPenalty) =
                .error .infeasible) := by
            rintro ⟨bounded, enabled, answer⟩
            have stopped := (candidate_error_iff _ _ _ _ _).mpr ⟨bounded, enabled, answer, rfl⟩
            rw [chosen] at stopped
            cases stopped
          have refused : ClippingRefused optimise settings u resolution ↔
              found.method = .clipping ∧ hardViolations settings.bindingTolerance
                (tidy settings.bindingTolerance u.values resolution.active found.values)
                resolution.active ≠ [] := by
            have values := ((candidate_ok_iff _ _ _ _ _).mp chosen).values_of_clipping
            constructor
            · rintro ⟨same, again, clipping, missed⟩
              rw [chosen] at again
              cases again
              exact ⟨clipping, by rwa [values clipping]⟩
            · rintro ⟨clipping, missed⟩
              exact ⟨found, chosen, clipping, by rwa [values clipping] at missed⟩
          rw [refused]
          simp only [nonempty, false_or]
          cases settled : settle settings.bindingTolerance u.values resolution.active found with
          | error fault =>
              obtain ⟨clipping, missed, rfl⟩ := (settle_error_iff _ _ _ _ _).mp settled
              simp [clipping, missed]
          | ok y =>
              obtain ⟨rfl, accepted⟩ := (settle_ok_iff _ _ _ _ _).mp settled
              simpa [pure, Except.pure] using accepted

end stages

variable {K : Type} [Field K] [LinearOrder K] [IsStrictOrderedRing K]

variable {optimise : Optimiser K} {settings : FeasibilitySettings K} {u : SectorVector K}
  {set : ConstraintSet K} {context : SolveContext K} {resolution : Resolution K u.size}

-- Clipping that meets the hard bounds is refused only if snapping carries it off again.
theorem not_refused_of_clip_meets_hard (nonneg : 0 ≤ settings.bindingTolerance)
    (sound : ∀ b ∈ resolution.active, b.Sound)
    (met : MeetsHard resolution.active (clip u.values resolution.active))
    (near : ∀ b ∈ resolution.active, b.isHard = true →
      spread settings.bindingTolerance resolution.active b ≤
        violationTolerance settings.bindingTolerance b.limit) :
    ¬ClippingRefused optimise settings u resolution := by
  rintro ⟨-, -, -, missed⟩
  refine missed ((hard_violations_nil_iff _ _ _).mpr fun b active hard => not_lt.mpr ?_)
  have permitted := clip_permitted u.values resolution.active sound
  have carried := drift_le_spread sound nonneg b active _ permitted.unraised permitted.unlowered
  have left := room_nonneg b _ (met b active hard)
  rw [violation_tidy_le_iff b _ _ (violation_tolerance_nonneg _ _ nonneg)]
  linarith [near b active hard]

theorem attainable_reported_infeasible_iff (nonneg : 0 ≤ settings.bindingTolerance)
    (resolved : set.resolve u.codes context.resolution = .ok resolution)
    (trusted : optimise (program u.values resolution.active settings.softPenalty) =
      .error .infeasible →
        ¬∃ x, (program u.values resolution.active settings.softPenalty).Feasible x)
    (attainable : ∃ z, MeetsHard resolution.active z) :
    ((∃ cause ids, solve optimise settings u set context = .error (.infeasible cause ids)) ↔
      set.hardConflicts context.year ≠ [] ∨ ClippingRefused optimise settings u resolution) ∧
    (set.hardConflicts context.year ≠ [] → allSectors ∈ u.codes.toList) ∧
    (resolution.active.Pairwise
        (fun b c => b.isHard = true → c.isHard = true → Compatible b c) →
      (∀ b ∈ resolution.active, b.isHard = true →
        spread settings.bindingTolerance resolution.active b ≤
          violationTolerance settings.bindingTolerance b.limit) →
      ¬ClippingRefused optimise settings u resolution) := by
  have sound := set.active_sound u.codes _ resolution resolved
  refine ⟨?_, ?_, ?_⟩
  · rw [solve_infeasible_iff optimise settings u set context (fun _ => rfl) resolved]
    have assigned := (program_feasible_iff_hard_bounds_attainable u.values resolution.active
      settings.softPenalty fun b active => (sound b active).positive).1.mpr attainable
    have untold : ¬(resolution.active ≠ [] ∧ settings.lpEnabled = true ∧
        optimise (program u.values resolution.active settings.softPenalty) =
          .error .infeasible) :=
      fun told => trusted told.2.2 assigned
    simp only [untold, false_or]
  · intro conflict
    by_contra proper
    obtain ⟨z, met⟩ := attainable
    obtain ⟨b, active, hard, violated⟩ := set.hard_conflict_violated context.resolution
      resolution resolved proper conflict z
    exact violated.ne' (met b active hard)
  · intro compatible near
    exact not_refused_of_clip_meets_hard nonneg sound
      (clip_meets_hard u.values resolution.active sound compatible attainable) near

def cappedPair : SectorVector ℚ := ⟨[("S1", 60), ("S2", 40)]⟩

def floorInsideCap : ConstraintSet ℚ :=
  .ofConstraints [
    { Constraint.strictOn .capacityCap "S1" 80 with scope := .group ["S1", "S2"] },
    .strictOn .floor "S2" 38]

def attainedPair : Vector ℚ cappedPair.size := ⟨#[42, 38], rfl⟩

def isInfeasible {α β : Type} (answer : Except (Fault α) β) : Bool :=
  match answer with
  | .error (.infeasible _ _) => true
  | _ => false

theorem is_infeasible_iff {α β : Type} (answer : Except (Fault α) β) :
    isInfeasible answer = true ↔ ∃ cause ids, answer = .error (.infeasible cause ids) := by
  unfold isInfeasible
  split
  · rename_i cause ids
    exact ⟨fun _ => ⟨cause, ids, rfl⟩, fun _ => rfl⟩
  · rename_i other
    constructor
    · intro impossible
      cases impossible
    · rintro ⟨cause, ids, rfl⟩
      exact absurd rfl (other cause ids)

theorem floor_inside_cap_resolved :
    ∃ resolution, floorInsideCap.resolve cappedPair.codes (SolveContext.bare none).resolution =
        .ok resolution ∧
      MeetsHard resolution.active attainedPair ∧
      ∃ x, simplex (program cappedPair.values resolution.active clippingOnly.softPenalty) =
        .ok x := by
  have facts : (floorInsideCap.resolve cappedPair.codes
      (SolveContext.bare none).resolution).toOption.any (fun resolution =>
        resolution.active.all (fun b => !b.isHard || decide (b.violation attainedPair = 0)) &&
        (simplex (program cappedPair.values resolution.active
          clippingOnly.softPenalty)).toOption.any fun _ => true) = true := by decide +kernel
  obtain ⟨resolution, resolved, facts⟩ := (Outcome.any_ok_iff _ _).mp facts
  obtain ⟨met, answered⟩ := Bool.and_eq_true_iff.mp facts
  obtain ⟨x, returned, -⟩ := (Outcome.any_ok_iff _ _).mp answered
  refine ⟨resolution, resolved, fun b active hard => ?_, x, returned⟩
  simpa [hard] using List.all_eq_true.mp met b active

-- Two attainable sets that are reported: clipping undoes a floor, and a code is read as all sectors.
theorem attainable_bounds_reported_infeasible :
    (∃ resolution,
      floorInsideCap.resolve cappedPair.codes (SolveContext.bare none).resolution =
        .ok resolution ∧
      (simplex (program cappedPair.values resolution.active clippingOnly.softPenalty) =
        .error .infeasible →
          ¬∃ x, (program cappedPair.values resolution.active clippingOnly.softPenalty).Feasible x) ∧
      MeetsHard resolution.active attainedPair ∧
      ∃ cause ids, solve simplex clippingOnly cappedPair floorInsideCap (.bare none) =
        .error (.infeasible cause ids)) ∧
    ∃ resolution,
      starredBounds.resolve starredOutput.codes (SolveContext.bare none).resolution =
        .ok resolution ∧
      MeetsHard resolution.active starredOutput.values ∧
      ∃ cause ids, solve simplex Settings.standard.feasibility starredOutput starredBounds
        (.bare none) = .error (.infeasible cause ids) := by
  constructor
  · obtain ⟨resolution, resolved, met, x, returned⟩ := floor_inside_cap_resolved
    refine ⟨resolution, resolved, ?_, met, (is_infeasible_iff _).mp (by decide +kernel)⟩
    intro told
    rw [returned] at told
    cases told
  · have facts : (starredBounds.resolve starredOutput.codes
        (SolveContext.bare none).resolution).toOption.any (fun resolution =>
          resolution.active.all fun b => decide (b.violation starredOutput.values = 0)) = true := by
      decide +kernel
    obtain ⟨resolution, resolved, met⟩ := (Outcome.any_ok_iff _ _).mp facts
    refine ⟨resolution, resolved, fun b active _ => ?_, (is_infeasible_iff _).mp (by decide +kernel)⟩
    exact of_decide_eq_true (List.all_eq_true.mp met b active)

theorem floor_inside_cap_reported_by_clipping :
    ∃ resolution,
      floorInsideCap.resolve cappedPair.codes (SolveContext.bare none).resolution =
        .ok resolution ∧
      (∃ z, MeetsHard resolution.active z) ∧
      ClippingRefused simplex clippingOnly cappedPair resolution := by
  obtain ⟨resolution, resolved, met, x, returned⟩ := floor_inside_cap_resolved
  have reported : ∃ cause ids, solve simplex clippingOnly cappedPair floorInsideCap (.bare none) =
      .error (.infeasible cause ids) := (is_infeasible_iff _).mp (by decide +kernel)
  have trusted : simplex (program cappedPair.values resolution.active clippingOnly.softPenalty) =
      .error .infeasible →
        ¬∃ x, (program cappedPair.values resolution.active clippingOnly.softPenalty).Feasible x := by
    intro told
    rw [returned] at told
    cases told
  have nonneg : (0 : ℚ) ≤ clippingOnly.bindingTolerance := by decide +kernel
  obtain ⟨exactly, starred, -⟩ :=
    attainable_reported_infeasible_iff nonneg resolved trusted ⟨_, met⟩
  refine ⟨resolution, resolved, ⟨_, met⟩, (exactly.mp reported).resolve_left fun conflict => ?_⟩
  exact absurd (starred conflict) (by decide +kernel)

end EconomicImpact.Feasibility
