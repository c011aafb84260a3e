import EconomicImpact.Feasibility.Simplex
import EconomicImpact.Proofs.Constraint.Resolution
import EconomicImpact.Proofs.Feasibility.Deviation
import EconomicImpact.Proofs.Feasibility.Solve
import EconomicImpact.Proofs.Scalar.Double
import EconomicImpact.Proofs.SectorVector

set_option autoImplicit false

namespace EconomicImpact

variable {α : Type} {n : Nat}

namespace ConstraintKind

theorem sense_lower_iff (kind : ConstraintKind) : kind.sense = some .lower ↔ kind = .floor := by
  cases kind <;> decide

end ConstraintKind

namespace Resolution

def Unraised (resolution : Resolution α n) (i : Fin n) : Prop :=
  ∀ b ∈ resolution.active, b.source.kind = .floor → i ∉ b.sectors

def Unlowered (resolution : Resolution α n) (i : Fin n) : Prop :=
  ∀ b ∈ resolution.active, b.source.kind.sense = some .upper → i ∉ b.sectors

end Resolution

namespace Feasibility

variable [Scalar α]

theorem settle_ok_iff (tolerance : α) (u : Vector α n) (bounds : List (Bound α n))
    (found : Candidate α n) (y : Vector α n) :
    settle tolerance u bounds found = .ok y ↔
      tidy tolerance u bounds found.values = y ∧
        (found.method = .clipping → hardViolations tolerance y bounds = []) := by
  simp only [settle]
  by_cases refused : found.method = .clipping ∧
      hardViolations tolerance (tidy tolerance u bounds found.values) bounds ≠ []
  · rw [if_pos refused]
    constructor
    · intro impossible
      cases impossible
    · rintro ⟨rfl, accepted⟩
      exact absurd (accepted refused.1) refused.2
  · rw [if_neg refused]
    constructor
    · intro same
      cases same
      exact ⟨rfl, fun clipping => not_not.mp fun violated => refused ⟨clipping, violated⟩⟩
    · rintro ⟨rfl, -⟩
      rfl

section restrain

variable [OrderedScalar α] (u : Vector α n) (bounds : List (Bound α n)) (y : Vector α n) (i : Fin n)

-- A sector that nothing can raise is lowered to its limit after any move, and the other way round.
theorem restrain_unmoved (sense : Sense) (finite : Scalar.isFinite (u.get i) = true)
    (fixed : movable sense.opposite bounds i = false) :
    sense.Within (u.get i) ((restrain u bounds y).get i) := by
  have comparable := OrderedScalar.comparable_of_finite (u.get i) finite
  simp only [restrain, Vector.get_ofFn]
  cases sense with
  | lower =>
      rw [Sense.opposite] at fixed
      rw [if_neg (by simp [fixed])]
      exact Scalar.bounded_within .lower _ _ comparable
  | upper =>
      rw [Sense.opposite] at fixed
      rw [if_neg (c := movable .lower bounds i = true) (by simp [fixed])]
      have lowered : Scalar.smaller (y.get i) (u.get i) ≤ u.get i :=
        Scalar.bounded_within .upper _ _ comparable
      by_cases lowerable : movable .upper bounds i = true
      · rw [if_pos lowerable]
        exact lowered
      · rw [if_neg lowerable]
        rcases Scalar.bounded_cases .lower (Scalar.smaller (y.get i) (u.get i)) (u.get i)
          comparable with limit | ⟨kept, -⟩
        · exact (congrArg (· ≤ u.get i) limit).mpr comparable
        · exact (congrArg (· ≤ u.get i) kept).mpr lowered

end restrain

section solve

variable [OrderedScalar α] {optimise : Optimiser α} {settings : FeasibilitySettings α}
  {u : SectorVector α} {set : ConstraintSet α} {context : SolveContext α}
  {resolution : Resolution α u.size} {found : Candidate α u.size} {y : Vector α u.size}

theorem Solved.unmoved (stages : Solved optimise settings u set context resolution found y)
    (sense : Sense) (i : Fin u.size)
    (uncovered : ∀ b ∈ resolution.active, b.source.kind.sense = some sense.opposite →
      i ∉ b.sectors) : sense.Within (u.values.get i) (y.get i) := by
  obtain ⟨rfl, -⟩ := (settle_ok_iff _ _ _ _ _).mp stages.settled
  refine restrain_unmoved u.values resolution.active _ i sense (stages.finite i) ?_
  rw [movable_eq_false_iff]
  intro b active same
  have kind := set.active_sense u.codes _ resolution stages.resolved b active
  rw [same] at kind
  simpa [Bound.covers] using uncovered b active kind

theorem totals_within (sense : Sense) (finite : ∀ i, Scalar.isFinite (u.values.get i) = true)
    (within : ∀ i, sense.Within (u.values.get i) (y.get i))
    (comparable : Scalar.Comparable (Scalar.total y.toList)) :
    sense.Within (Scalar.total u.values.toList) (Scalar.total y.toList) :=
  Scalar.total_within ((forall_mem_to_list_iff _ _).mpr finite)
    ((forall₂_to_list_iff _ _ _).mpr within) comparable

omit [OrderedScalar α] in
theorem report_gap_iff (method : SolveMethod) (fallback : Option FallbackReason)
    (entry : String × α) :
    entry ∈ (report settings u set context resolution y method fallback).gap.entries ↔
      ∃ i, entry = (u.codes.get i, y.get i - u.values.get i) := by
  change entry ∈ (SectorVector.ofAligned u.codes _).entries ↔ _
  rw [SectorVector.mem_of_aligned_iff]
  simp [Vector.get_eq_getElem]

theorem solve_moves_only_where_bounds_act (r : FeasibilityResult α)
    (solved : solve optimise settings u set context = .ok r) :
    ∃ (resolution : Resolution α u.size) (y : Vector α u.size),
      set.resolve u.codes context.resolution = .ok resolution ∧
      r.feasible = .ofAligned u.codes y ∧
      (∀ i, resolution.Unraised i → y.get i ≤ u.values.get i) ∧
      (∀ i, resolution.Unlowered i → u.values.get i ≤ y.get i) ∧
      (∀ i, (∀ b ∈ resolution.active, i ∉ b.sectors) → y.get i = u.values.get i ∨
        (Scalar.isZero (y.get i) = true ∧ Scalar.isZero (u.values.get i) = true)) ∧
      ((∀ b ∈ resolution.active, b.source.kind.sense = some .upper) →
        (∀ entry ∈ r.gap.entries, entry.2 ≤ 0) ∧
          (r.totals.totalFeasible ≤ r.totals.totalUnconstrained ↔
            Scalar.Comparable r.totals.totalFeasible)) ∧
      ((∀ b ∈ resolution.active, b.source.kind = .floor) →
        (∀ entry ∈ r.gap.entries, 0 ≤ entry.2) ∧
          (r.totals.totalUnconstrained ≤ r.totals.totalFeasible ↔
            Scalar.Comparable r.totals.totalFeasible)) := by
  obtain ⟨resolution, found, y, stages, rfl⟩ :=
    (solve_ok_iff optimise settings u set context r).mp solved
  have falls (i : Fin u.size) (unraised : resolution.Unraised i) : y.get i ≤ u.values.get i :=
    stages.unmoved .upper i fun b active lower =>
      unraised b active ((ConstraintKind.sense_lower_iff _).mp lower)
  have rises (i : Fin u.size) (unlowered : resolution.Unlowered i) : u.values.get i ≤ y.get i :=
    stages.unmoved .lower i unlowered
  refine ⟨resolution, y, stages.resolved, rfl, falls, rises, ?_, ?_, ?_⟩
  · intro i uncovered
    exact OrderedScalar.eq_or_zeros _ _ (falls i fun b active _ => uncovered b active)
      (rises i fun b active _ => uncovered b active)
  · intro upper
    have below (i : Fin u.size) : y.get i ≤ u.values.get i := by
      apply falls i
      intro b active floor
      have sense := upper b active
      rw [floor] at sense
      cases sense
    refine ⟨fun entry member => ?_, fun ordered => (OrderedScalar.comparable_of_le _ _ ordered).1,
      totals_within .upper stages.finite below⟩
    obtain ⟨i, rfl⟩ := (report_gap_iff _ _ entry).mp member
    exact OrderedScalar.sub_nonpos _ _ (stages.finite i) (below i)
  · intro lower
    have above (i : Fin u.size) : u.values.get i ≤ y.get i := by
      apply rises i
      intro b active sense
      rw [lower b active] at sense
      cases sense
    refine ⟨fun entry member => ?_, fun ordered => (OrderedScalar.comparable_of_le _ _ ordered).2,
      totals_within .lower stages.finite above⟩
    obtain ⟨i, rfl⟩ := (report_gap_iff _ _ entry).mp member
    exact OrderedScalar.sub_nonneg _ _ (stages.finite i) (above i)

end solve

section overflow

def hugeOutput : SectorVector Float := ⟨[("S1", 1.7e308), ("S2", 1.7e308), ("S3", -1.7e308)]⟩

def smallRatios : SectorVector Float := ⟨[("S1", 1e-10), ("S2", 1e-10), ("S3", 1e-10)]⟩

def noRatios : SectorVector Float := ⟨[("S1", 0), ("S2", 0), ("S3", 0)]⟩

def sinkingLabor : ConstraintSet Float := .ofConstraints [.strictOn .labor "S3" (-2e298)]

-- The first two sectors overflow, the third is lowered without end, and their sum is no number.
theorem overflowing_totals_out_of_order :
    ∃ r resolution,
      solve simplex clippingOnly hugeOutput sinkingLabor
        (.bare (some ⟨.nil, smallRatios, noRatios, noRatios⟩)) = .ok r ∧
      sinkingLabor.resolve hugeOutput.codes
        (SolveContext.bare (some ⟨.nil, smallRatios, noRatios, noRatios⟩)).resolution =
          .ok resolution ∧
      (∀ b ∈ resolution.active, b.source.kind.sense = some .upper) ∧
      ¬r.totals.totalFeasible ≤ r.totals.totalUnconstrained := by
  have facts : (solve simplex clippingOnly hugeOutput sinkingLabor
      (.bare (some ⟨.nil, smallRatios, noRatios, noRatios⟩))).toOption.any (fun r =>
        !decide (r.totals.totalFeasible ≤ r.totals.totalUnconstrained)) = true := by decide +kernel
  have resolves : (sinkingLabor.resolve hugeOutput.codes
      (SolveContext.bare (some ⟨.nil, smallRatios, noRatios, noRatios⟩)).resolution).toOption.any
        (fun resolution => resolution.active.all fun b =>
          decide (b.source.kind.sense = some .upper)) = true := by decide +kernel
  obtain ⟨r, solved, unordered⟩ := (Outcome.any_ok_iff _ _).mp facts
  obtain ⟨resolution, resolved, upper⟩ := (Outcome.any_ok_iff _ _).mp resolves
  refine ⟨r, resolution, solved, resolved, fun b active => ?_, ?_⟩
  · exact of_decide_eq_true (List.all_eq_true.mp upper b active)
  · simpa using unordered

end overflow

section undefined

def undefinedOptimiser : Optimiser Float := fun _ => .ok fun _ => 0 / 0

def threeSectors : SectorVector Float := ⟨[("A", 60), ("B", 3), ("C", 7)]⟩

def capAndFloor : ConstraintSet Float :=
  .ofConstraints [.strictOn .capacityCap "A" 40, .strictOn .floor "B" 5]

theorem undefined_answer_moves_only_where_bounds_act :
    ∃ r resolution y,
      solve undefinedOptimiser Settings.standard.feasibility threeSectors capAndFloor (.bare none) =
        .ok r ∧
      capAndFloor.resolve threeSectors.codes (SolveContext.bare none).resolution = .ok resolution ∧
      r.feasible = .ofAligned threeSectors.codes y ∧
      (∀ i, resolution.Unraised i → y.get i ≤ threeSectors.values.get i) ∧
      (∀ i, resolution.Unlowered i → threeSectors.values.get i ≤ y.get i) := by
  have succeeds : (solve undefinedOptimiser Settings.standard.feasibility threeSectors capAndFloor
      (.bare none)).toOption.any (fun _ => true) = true := by decide +kernel
  obtain ⟨r, solved, -⟩ := (Outcome.any_ok_iff _ _).mp succeeds
  obtain ⟨resolution, y, resolved, feasible, falls, rises, -⟩ :=
    solve_moves_only_where_bounds_act r solved
  exact ⟨r, resolution, y, solved, resolved, feasible, falls, rises⟩

end undefined

end Feasibility

end EconomicImpact
