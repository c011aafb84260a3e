import Mathlib
import EconomicImpact.Feasibility.Simplex
import EconomicImpact.Proofs.Feasibility.Restraint

set_option autoImplicit false

namespace EconomicImpact

variable {α : Type} [Scalar α]

namespace Scalar

@[simp] theorem larger_self (a : α) : larger a a = a := by
  unfold larger
  split <;> simp

@[simp] theorem smaller_self (a : α) : smaller a a = a := by
  unfold smaller
  split <;> simp

theorem le_larger [OrderedScalar α] {a b : α} (comparable : Comparable a) : a ≤ larger a b := by
  unfold larger
  by_cases less : a < b
  · rw [if_pos less]
    exact ((OrderedScalar.lt_iff a b).mp less).1
  · rw [if_neg less, if_pos (show a ≤ a from comparable)]
    exact comparable

end Scalar

section excess

variable {n : Nat}

def Bound.excess (b : Bound α n) (y : Vector α n) : α :=
  match b.sense with
  | .upper => b.lhs y - b.limit
  | .lower => b.limit - b.lhs y

theorem Bound.violation_eq (b : Bound α n) (y : Vector α n) :
    b.violation y = Scalar.larger (b.excess y) 0 := by
  unfold violation excess
  cases b.sense <;> rfl

-- An undefined excess counts as no violation, so a bound may pass with it.
theorem Bound.excess_le_iff [OrderedScalar α] (b : Bound α n) (y : Vector α n) {limit : α}
    (comparable : Scalar.Comparable limit) (passed : ¬limit < b.violation y) :
    b.excess y ≤ limit ↔ Scalar.Comparable (b.excess y) := by
  refine ⟨fun le => (OrderedScalar.comparable_of_le _ _ le).1, fun defined => ?_⟩
  have below : b.excess y ≤ b.violation y := by
    rw [b.violation_eq]
    exact Scalar.le_larger defined
  have violation := (OrderedScalar.comparable_of_le _ _ below).2
  exact OrderedScalar.le_trans _ _ _ below (Scalar.le_of_not_lt violation comparable passed)

end excess

namespace Feasibility

open Deviation

theorem tidy_free {n : Nat} (tolerance : α) (u : Vector α n) : tidy tolerance u [] u = u :=
  vector_ext_get fun i => by simp [tidy, restrain, movable]

inductive FallsBack {n : Nat} (optimise : Optimiser α) (settings : FeasibilitySettings α)
    (u : Vector α n) (bounds : List (Bound α n)) : FallbackReason → Prop
  | disabled (off : settings.lpEnabled = false) : FallsBack optimise settings u bounds .disabled
  | violates (on : settings.lpEnabled = true) (x : Move n bounds.length → α)
      (answered : optimise (program u bounds settings.softPenalty) = .ok x) (b : Bound α n)
      (listed : b ∈ bounds) (hard : b.isHard = true)
      (missed : violationTolerance settings.bindingTolerance b.limit <
        b.violation (decode u bounds x)) :
      FallsBack optimise settings u bounds (.violates b.id)
  | failed (on : settings.lpEnabled = true) (reason : String)
      (answered : optimise (program u bounds settings.softPenalty) = .error (.failed reason)) :
      FallsBack optimise settings u bounds (.failed reason)

section chosen

variable {n : Nat} {optimise : Optimiser α} {settings : FeasibilitySettings α} {u : Vector α n}
  {bounds : List (Bound α n)} {found : Candidate α n}
  (chosen : Chosen optimise settings u bounds found)

include chosen

theorem Chosen.passthrough_iff : found.method = .passthrough ↔ bounds = [] := by
  cases chosen with
  | passthrough free => simp [free]
  | disabled bounded off => simp [clipped, bounded]
  | optimal bounded on z solved met => simp [bounded]
  | violated bounded on z solved id others missed => simp [clipped, bounded]
  | failed bounded on reason solved => simp [clipped, bounded]

theorem Chosen.clipping_iff : found.method = .clipping ↔ found.fallback.isSome = true := by
  cases chosen <;> simp [clipped]

theorem Chosen.values_of_free (free : bounds = []) : found.values = u := by
  cases chosen with
  | passthrough free => rfl
  | disabled bounded | optimal bounded | violated bounded | failed bounded =>
      exact absurd free bounded

theorem Chosen.falls_back (reason : FallbackReason) (flagged : found.fallback = some reason) :
    FallsBack optimise settings u bounds reason := by
  cases chosen with
  | passthrough free => cases flagged
  | disabled bounded off =>
      cases flagged
      exact .disabled off
  | optimal bounded on z solved met => cases flagged
  | violated bounded on z solved id others missed =>
      cases flagged
      obtain ⟨x, answered, rfl⟩ := (Outcome.map_ok_iff _ _ _).mp solved
      have first : id ∈ hardViolations settings.bindingTolerance (decode u bounds x) bounds := by
        rw [missed]
        exact List.mem_cons_self
      obtain ⟨b, beyond, rfl⟩ := List.mem_map.mp first
      obtain ⟨listed, exceeds⟩ := List.mem_filter.mp beyond
      obtain ⟨hard, exceeds⟩ := Bool.and_eq_true_iff.mp exceeds
      exact .violates on x answered b listed hard (of_decide_eq_true exceeds)
  | failed bounded on reason solved =>
      cases flagged
      exact .failed on reason ((Outcome.map_stopped_iff _ _ _).mp solved)

end chosen

section solve

variable {optimise : Optimiser α} {settings : FeasibilitySettings α} {u : SectorVector α}
  {set : ConstraintSet α} {context : SolveContext α}

theorem Solved.feasible_of_free {resolution : Resolution α u.size} {found : Candidate α u.size}
    {y : Vector α u.size} (stages : Solved optimise settings u set context resolution found y)
    (free : resolution.active = []) : y = u.values := by
  have chosen := (candidate_ok_iff _ _ _ _ _).mp stages.chosen
  obtain ⟨final, -⟩ := (settle_ok_iff _ _ _ _ _).mp stages.settled
  rw [chosen.values_of_free free, free, tidy_free] at final
  exact final.symm

theorem report_warned_iff (resolution : Resolution α u.size) (y : Vector α u.size)
    (method : SolveMethod) (fallback : Option FallbackReason) :
    (∃ warning ∈ (report settings u set context resolution y method fallback).warnings,
      warning.code = .fallbackApplied) ↔ fallback.isSome = true := by
  cases fallback with
  | none => simp [report]
  | some reason => simp [report, FallbackReason.warning]

theorem fallback_flagged_exactly [OrderedScalar α] (r : FeasibilityResult α)
    (solved : solve optimise settings u set context = .ok r) :
    ∃ (resolution : Resolution α u.size) (y : Vector α u.size),
      set.resolve u.codes context.resolution = .ok resolution ∧
      r.feasible = .ofAligned u.codes y ∧
      (r.method = .passthrough ↔ resolution.active = []) ∧
      (r.method = .passthrough → r.feasible = u ∧ r.unconstrained = u) ∧
      [r.method = .clipping, r.fallbackUsed = true, ∃ reason, r.fallbackReason = some reason,
        ∃ warning ∈ r.warnings, warning.code = .fallbackApplied].TFAE ∧
      (r.method = .clipping → ∀ b ∈ resolution.active, b.isHard = true →
        Scalar.Comparable (violationTolerance settings.bindingTolerance b.limit) →
          (b.excess y ≤ violationTolerance settings.bindingTolerance b.limit ↔
            Scalar.Comparable (b.excess y))) ∧
      (r.method = .clipping → settings.lpEnabled = true →
        (∃ reason, r.fallbackReason = some (.failed reason) ∧
          optimise (program u.values resolution.active settings.softPenalty) =
            .error (.failed reason)) ∨
        ∃ x, optimise (program u.values resolution.active settings.softPenalty) = .ok x ∧
          ∃ b ∈ resolution.active, b.isHard = true ∧ r.fallbackReason = some (.violates b.id) ∧
            violationTolerance settings.bindingTolerance b.limit <
              b.violation (decode u.values resolution.active x)) := by
  obtain ⟨resolution, found, y, stages, rfl⟩ := (solve_ok_iff _ _ _ _ _ _).mp solved
  have chosen := (candidate_ok_iff _ _ _ _ _).mp stages.chosen
  obtain ⟨-, checked⟩ := (settle_ok_iff _ _ _ _ _).mp stages.settled
  refine ⟨resolution, y, stages.resolved, rfl, chosen.passthrough_iff, fun passed => ?_, ?_,
    fun clipping b active hard defined => ?_, fun clipping on => ?_⟩
  · refine ⟨?_, rfl⟩
    change SectorVector.ofAligned u.codes y = u
    rw [stages.feasible_of_free (chosen.passthrough_iff.mp passed), SectorVector.of_aligned_self]
  · tfae_have 1 ↔ 2 := chosen.clipping_iff
    tfae_have 2 ↔ 3 := Option.isSome_iff_exists
    tfae_have 4 ↔ 2 := report_warned_iff _ _ _ _
    tfae_finish
  · exact b.excess_le_iff y defined
      ((hard_violations_nil_iff _ _ _).mp (checked clipping) b active hard)
  · obtain ⟨reason, flagged⟩ := Option.isSome_iff_exists.mp (chosen.clipping_iff.mp clipping)
    cases chosen.falls_back reason flagged with
    | disabled off =>
        rw [on] at off
        cases off
    | violates _ x answered b listed hard missed =>
        exact .inr ⟨x, answered, b, listed, hard, flagged, missed⟩
    | failed _ reason answered => exact .inl ⟨reason, flagged, answered⟩

end solve

def hugePair : SectorVector Float := ⟨[("S1", 1e308), ("S2", 1e308)]⟩

def capAndFloorOnPair : ConstraintSet Float :=
  .ofConstraints [
    { Constraint.strictOn .capacityCap "S1" 100 with scope := .group ["S1", "S2"] },
    { Constraint.strictOn .floor "S1" 50 with scope := .group ["S1", "S2"] }]

-- The sum of the pair overflows, its shares are undefined, and no bound finds a violation in them.
theorem undefined_sums_pass_as_met :
    ∃ r resolution y,
      solve simplex clippingOnly hugePair capAndFloorOnPair (.bare none) = .ok r ∧
      capAndFloorOnPair.resolve hugePair.codes (SolveContext.bare none).resolution =
        .ok resolution ∧
      r.feasible = .ofAligned hugePair.codes y ∧
      r.method = .clipping ∧
      ∃ b ∈ resolution.active, b.isHard = true ∧
        Scalar.Comparable (violationTolerance (clippingOnly (α := Float)).bindingTolerance b.limit) ∧
        ¬b.excess y ≤ violationTolerance (clippingOnly (α := Float)).bindingTolerance b.limit := by
  have finite : ∀ i, Scalar.isFinite (hugePair.values.get i) = true := by decide +kernel
  have consistent : capAndFloorOnPair.hardConflicts none = [] := by decide +kernel
  have facts : (capAndFloorOnPair.resolve hugePair.codes
      (SolveContext.bare none).resolution).toOption.any (fun resolution =>
        (candidate simplex clippingOnly hugePair.values resolution.active).toOption.any fun found =>
          decide (found.method = .clipping) &&
            (settle clippingOnly.bindingTolerance hugePair.values resolution.active
              found).toOption.any fun y => resolution.active.any fun b => b.isHard &&
                decide (Scalar.Comparable
                  (violationTolerance (clippingOnly (α := Float)).bindingTolerance b.limit)) &&
                !decide (b.excess y ≤
                  violationTolerance clippingOnly.bindingTolerance b.limit)) = true := by
    decide +kernel
  obtain ⟨resolution, resolved, facts⟩ := (Outcome.any_ok_iff _ _).mp facts
  obtain ⟨found, chosen, facts⟩ := (Outcome.any_ok_iff _ _).mp facts
  obtain ⟨clipping, facts⟩ := Bool.and_eq_true_iff.mp facts
  obtain ⟨y, settled, facts⟩ := (Outcome.any_ok_iff _ _).mp facts
  obtain ⟨b, active, facts⟩ := List.any_eq_true.mp facts
  obtain ⟨⟨hard, defined⟩, missed⟩ := by simpa only [Bool.and_eq_true] using facts
  have solved := (solve_ok_iff simplex clippingOnly hugePair capAndFloorOnPair (.bare none) _).mpr
    ⟨resolution, found, y, ⟨finite, consistent, resolved, chosen, settled⟩, rfl⟩
  exact ⟨_, resolution, y, solved, resolved, rfl, of_decide_eq_true clipping, b, active, hard,
    of_decide_eq_true defined, by simpa using missed⟩

def idleOptimiser : Optimiser ℚ := fun _ => .ok fun _ => 0

def overflowingOutput : SectorVector ℚ := ⟨[("A", 60), ("B", 3), ("C", 7)]⟩

def capBesideFloor : ConstraintSet ℚ :=
  .ofConstraints [.strictOn .capacityCap "A" 40, .strictOn .floor "B" 5]

theorem idle_answer_replaced_and_flagged :
    ∃ r resolution y,
      solve idleOptimiser Settings.standard.feasibility overflowingOutput capBesideFloor
        (.bare none) = .ok r ∧
      capBesideFloor.resolve overflowingOutput.codes (SolveContext.bare none).resolution =
        .ok resolution ∧
      r.feasible = .ofAligned overflowingOutput.codes y ∧
      r.method = .clipping ∧ r.fallbackUsed = true ∧ (∃ reason, r.fallbackReason = some reason) ∧
      (∃ warning ∈ r.warnings, warning.code = .fallbackApplied) ∧
      ∀ b ∈ resolution.active, b.isHard = true →
        b.excess y ≤
          violationTolerance Settings.standard.feasibility.bindingTolerance b.limit := by
  have clips : (solve idleOptimiser Settings.standard.feasibility overflowingOutput capBesideFloor
      (.bare none)).toOption.any (fun r => decide (r.method = .clipping)) = true := by
    decide +kernel
  obtain ⟨r, solved, clipping⟩ := (Outcome.any_ok_iff _ _).mp clips
  have clipping := of_decide_eq_true clipping
  obtain ⟨resolution, y, resolved, feasible, -, -, flags, met, -⟩ :=
    fallback_flagged_exactly r solved
  refine ⟨r, resolution, y, solved, resolved, feasible, clipping, ?_, ?_, ?_, fun b active hard => ?_⟩
  · exact (flags.out 0 1).mp clipping
  · exact (flags.out 0 2).mp clipping
  · exact (flags.out 0 3).mp clipping
  · exact (met clipping b active hard (le_refl _)).mpr (le_refl _)

end Feasibility

end EconomicImpact
