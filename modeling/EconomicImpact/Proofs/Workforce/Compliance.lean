import Mathlib
import EconomicImpact.Proofs.Workforce.Ranges
import EconomicImpact.Workforce.Compliance

set_option autoImplicit false

namespace EconomicImpact

def ComplianceStatus.standing : ComplianceStatus → Option Nat
  | nonCompliant => some 0
  | atRisk => some 1
  | compliant => some 2
  | noTarget | insufficientData => none

variable {K : Type} [Field K] [LinearOrder K]

structure Band.Below (band raised : Band K) : Prop where
  min : band.min ≤ raised.min
  mid : band.mid ≤ raised.mid
  max : band.max ≤ raised.max

structure ComplianceCheck.Finds (check : ComplianceCheck K) (goal : ShareGoal K) (base total : K)
    (jobs projected gap : Band K) (missing : K) : Prop where
  reported : check = ⟨check.status, some goal, some projected, some gap, some missing⟩
  shares : projected =
    ⟨(base + jobs.min) / total, (base + jobs.mid) / total, (base + jobs.max) / total⟩
  shortfall : gap = ⟨goal.effective - projected.max, goal.effective - projected.mid,
    goal.effective - projected.min⟩
  projected_ordered : projected.Ordered
  gap_ordered : gap.Ordered
  fewest : IsLeast {further | 0 ≤ further ∧
    goal.effective ≤ (base + jobs.mid + further) / total} missing
  compliant_iff : check.status = .compliant ↔
    ∀ share ∈ Set.Icc projected.min projected.max, goal.high ≤ share
  non_compliant_iff : check.status = .nonCompliant ↔ check.status ≠ .compliant ∧
    ∀ share ∈ Set.Icc projected.min projected.max, share < goal.low

section verdict

variable (goal : ShareGoal K) {projected raised : Band K}

theorem ShareGoal.status_compliant_iff :
    goal.status projected = .compliant ↔ goal.high ≤ projected.min := by
  unfold status
  by_cases reached : goal.high ≤ projected.min
  · simp [reached]
  · by_cases missed : projected.max < goal.low <;> simp [reached, missed]

theorem ShareGoal.status_non_compliant_iff :
    goal.status projected = .nonCompliant ↔
      goal.status projected ≠ .compliant ∧ projected.max < goal.low := by
  unfold status
  by_cases reached : goal.high ≤ projected.min
  · simp [reached]
  · by_cases missed : projected.max < goal.low <;> simp [reached, missed]

-- The ends of the projection that decide rise with the jobs, whichever of the thresholds is the higher one.
theorem ShareGoal.standing_mono (below : projected.Below raised) :
    ∃ before after, (goal.status projected).standing = some before ∧
      (goal.status raised).standing = some after ∧ before ≤ after := by
  unfold status
  by_cases reached : goal.high ≤ projected.min
  · have still := reached.trans below.min
    rw [if_pos reached, if_pos still]
    exact ⟨2, 2, rfl, rfl, le_rfl⟩
  rw [if_neg reached]
  by_cases missed : projected.max < goal.low
  · rw [if_pos missed]
    by_cases later : goal.high ≤ raised.min
    · rw [if_pos later]
      exact ⟨0, 2, rfl, rfl, Nat.zero_le _⟩
    rw [if_neg later]
    by_cases still : raised.max < goal.low
    · rw [if_pos still]
      exact ⟨0, 0, rfl, rfl, le_rfl⟩
    · rw [if_neg still]
      exact ⟨0, 1, rfl, rfl, Nat.zero_le _⟩
  · have near : ¬raised.max < goal.low := fun still => missed (below.max.trans_lt still)
    rw [if_neg missed, if_neg near]
    by_cases later : goal.high ≤ raised.min
    · rw [if_pos later]
      exact ⟨1, 2, rfl, rfl, Nat.le_succ 1⟩
    · rw [if_neg later]
      exact ⟨1, 1, rfl, rfl, le_rfl⟩

end verdict

theorem check_compliance_of_positive (totalJobs : K) (jobs : Band K)
    (baseline : BaselineWorkforce K) (goal : ShareGoal K)
    (positive : 0 < baseline.totalEmployment + totalJobs) {projected : Band K}
    (shares : projectedShares (baseline.nationalEmployment.getD 0)
      (baseline.totalEmployment + totalJobs) jobs = projected) :
    checkCompliance totalJobs jobs (some baseline) (some goal) = {
      status := goal.status projected
      goal := some goal
      projected := some projected
      gap := some ⟨goal.effective - projected.max, goal.effective - projected.mid,
        goal.effective - projected.min⟩
      gapJobs := some (max ((goal.effective - projected.mid) *
        (baseline.totalEmployment + totalJobs)) 0) } := by
  subst shares
  simp only [checkCompliance, if_neg (not_le.mpr positive), Scalar.larger_eq_max]

variable [IsStrictOrderedRing K]

section projection

variable (base : K) {total : K} (positive : 0 < total) {jobs raised : Band K}

include positive

theorem projected_shares_below (below : jobs.Below raised) :
    (projectedShares base total jobs).Below (projectedShares base total raised) := by
  have share {a b : K} (le : a ≤ b) : (base + a) / total ≤ (base + b) / total :=
    div_le_div_of_nonneg_right (add_le_add_right le base) positive.le
  exact ⟨share below.min, share below.mid, share below.max⟩

theorem projected_shares_ordered (ordered : jobs.Ordered) :
    (projectedShares base total jobs).Ordered := by
  have share {a b : K} (le : a ≤ b) : (base + a) / total ≤ (base + b) / total :=
    div_le_div_of_nonneg_right (add_le_add_right le base) positive.le
  exact ⟨share ordered.min_le_mid, share ordered.mid_le_max⟩

theorem missing_jobs_least (present effective : K) :
    IsLeast {further | 0 ≤ further ∧ effective ≤ (present + further) / total}
      (max ((effective - present / total) * total) 0) := by
  have reaches (further : K) : effective ≤ (present + further) / total ↔
      (effective - present / total) * total ≤ further := by
    rw [sub_mul, div_mul_cancel₀ _ positive.ne', le_div_iff₀ positive, sub_le_iff_le_add']
  constructor
  · exact ⟨le_max_right _ _, (reaches _).mpr (le_max_left _ _)⟩
  · rintro further ⟨nonneg, reached⟩
    exact max_le ((reaches further).mp reached) nonneg

end projection

theorem check_compliance_finds {totalJobs : K} {jobs : Band K} {baseline : BaselineWorkforce K}
    (goal : ShareGoal K) (positive : 0 < baseline.totalEmployment + totalJobs)
    (ordered : jobs.Ordered) :
    ∃ projected gap missing,
      (checkCompliance totalJobs jobs (some baseline) (some goal)).Finds goal
        (baseline.nationalEmployment.getD 0) (baseline.totalEmployment + totalJobs) jobs
        projected gap missing := by
  rw [check_compliance_of_positive totalJobs jobs baseline goal positive rfl]
  have inOrder := projected_shares_ordered (baseline.nationalEmployment.getD 0) positive ordered
  have ends := inOrder.min_le_mid.trans inOrder.mid_le_max
  refine ⟨_, _, _, {
    reported := rfl
    shares := rfl
    shortfall := rfl
    projected_ordered := inOrder
    gap_ordered := ⟨sub_le_sub_left inOrder.mid_le_max _, sub_le_sub_left inOrder.min_le_mid _⟩
    fewest := missing_jobs_least positive _ _
    compliant_iff := ?_
    non_compliant_iff := ?_ }⟩
  · rw [goal.status_compliant_iff]
    exact ⟨fun reached share inside => reached.trans inside.1,
      fun each => each _ (Set.left_mem_Icc.mpr ends)⟩
  · rw [goal.status_non_compliant_iff]
    exact and_congr_right fun _ => ⟨fun missed share inside => inside.2.trans_lt missed,
      fun each => each _ (Set.right_mem_Icc.mpr ends)⟩

theorem compliance_measured_and_monotone (totalJobs : K) (baseline : BaselineWorkforce K)
    (goal : ShareGoal K) (positive : 0 < baseline.totalEmployment + totalJobs) :
    (∀ jobs : Band K, jobs.Ordered → ∃ projected gap missing,
      (checkCompliance totalJobs jobs (some baseline) (some goal)).Finds goal
        (baseline.nationalEmployment.getD 0) (baseline.totalEmployment + totalJobs) jobs
        projected gap missing) ∧
    ∀ jobs raised : Band K, jobs.Below raised → ∃ before after,
      (checkCompliance totalJobs jobs (some baseline) (some goal)).status.standing =
          some before ∧
        (checkCompliance totalJobs raised (some baseline) (some goal)).status.standing =
          some after ∧
        before ≤ after := by
  constructor
  · intro jobs ordered
    exact check_compliance_finds goal positive ordered
  · intro jobs raised below
    rw [check_compliance_of_positive totalJobs jobs baseline goal positive rfl,
      check_compliance_of_positive totalJobs raised baseline goal positive rfl]
    exact goal.standing_mono (projected_shares_below _ positive below)

def miningBaseline : BaselineWorkforce ℚ := ⟨"Mining", 900, some 270⟩

def crossedGoal : ShareGoal ℚ := ⟨"Mining", 1 / 2, 3 / 5, 9 / 20⟩

theorem crossed_goal_measured :
    0 < miningBaseline.totalEmployment + 100 ∧ (⟨30, 80, 130⟩ : Band ℚ).Ordered ∧
      (⟨30, 80, 130⟩ : Band ℚ).Below ⟨180, 180, 180⟩ ∧
      (∃ projected gap, (checkCompliance 100 ⟨30, 80, 130⟩ (some miningBaseline)
        (some crossedGoal)).Finds crossedGoal 270 (miningBaseline.totalEmployment + 100)
          ⟨30, 80, 130⟩ projected gap 150) ∧
      (checkCompliance 100 ⟨30, 80, 130⟩ (some miningBaseline)
        (some crossedGoal)).status = .nonCompliant ∧
      (checkCompliance 100 ⟨180, 180, 180⟩ (some miningBaseline)
        (some crossedGoal)).status = .compliant ∧
      ∃ before after,
        (checkCompliance 100 ⟨30, 80, 130⟩ (some miningBaseline)
            (some crossedGoal)).status.standing = some before ∧
          (checkCompliance 100 ⟨180, 180, 180⟩ (some miningBaseline)
            (some crossedGoal)).status.standing = some after ∧
          before ≤ after := by
  have positive : 0 < miningBaseline.totalEmployment + 100 := by decide +kernel
  have ordered : (⟨30, 80, 130⟩ : Band ℚ).Ordered := ⟨by decide +kernel, by decide +kernel⟩
  have below : (⟨30, 80, 130⟩ : Band ℚ).Below ⟨180, 180, 180⟩ :=
    ⟨by decide +kernel, by decide +kernel, by decide +kernel⟩
  obtain ⟨finds, monotone⟩ :=
    compliance_measured_and_monotone 100 miningBaseline crossedGoal positive
  obtain ⟨projected, gap, missing, found⟩ := finds _ ordered
  have fewest : some missing = some 150 :=
    (congrArg ComplianceCheck.gapJobs found.reported).symm.trans (by decide +kernel)
  cases fewest
  exact ⟨positive, ordered, below, ⟨projected, gap, found⟩, by decide +kernel,
    by decide +kernel, monotone _ _ below⟩

end EconomicImpact
