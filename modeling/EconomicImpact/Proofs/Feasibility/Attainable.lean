import Mathlib
import EconomicImpact.Proofs.Constraint.Bound
import EconomicImpact.Proofs.Feasibility.Restraint

/-!
When the deviation program has an assignment at all. A vector that meets the hard bounds may move sectors
in directions that no bound calls for. Taking these moves back loses no bound, and what remains is
reached by shifts of single sectors.
-/

set_option autoImplicit false

namespace EconomicImpact

def Bound.standing {α : Type} {n : Nat} (confidence : Confidence) (sense : Sense)
    (terms : List (Fin n × α)) (limit : α) : Bound α n :=
  ⟨{ Constraint.strictOn .capacityCap "" limit with confidence }, sense, terms, limit⟩

variable {K : Type} [Field K] [LinearOrder K] {n : Nat}

namespace Feasibility

variable (u : Vector K n) (bounds : List (Bound K n)) (y : Vector K n)

theorem restrain_permitted [IsStrictOrderedRing K] : Permitted u bounds (restrain u bounds y) :=
  ⟨fun i => restrain_unmoved u bounds y i .upper rfl, fun i => restrain_unmoved u bounds y i .lower rfl⟩

-- Where a bound calls for a direction, only moves in the other direction are taken back.
theorem restrain_within (b : Bound K n) (listed : b ∈ bounds) (i : Fin n)
    (covered : i ∈ b.sectors) : b.sense.Within (y.get i) ((restrain u bounds y).get i) := by
  have called := movable_of_mem b listed i covered
  simp only [restrain, Vector.get_ofFn, Scalar.smaller_eq_min, Scalar.larger_eq_max]
  cases sense : b.sense with
  | upper =>
      rw [sense] at called
      rw [if_pos called]
      by_cases raisable : movable .lower bounds i = true
      · rw [if_pos raisable]
        exact le_refl _
      · rw [if_neg raisable]
        exact min_le_left _ _
  | lower =>
      rw [sense] at called
      rw [if_pos called]
      by_cases lowerable : movable .upper bounds i = true
      · rw [if_pos lowerable]
        exact le_refl _
      · rw [if_neg lowerable]
        exact le_max_left _ _

theorem restrain_meets_hard [IsStrictOrderedRing K]
    (positive : ∀ b ∈ bounds, ∀ t ∈ b.terms, 0 < t.2) (met : MeetsHard bounds y) :
    MeetsHard bounds (restrain u bounds y) := by
  intro b listed hard
  exact b.met_of_moved (positive b listed) (met b listed hard)
    fun i covered => restrain_within u bounds y b listed i covered

end Feasibility

namespace Deviation

variable (u : Vector K n) (bounds : List (Bound K n)) (penalty : K) {y : Vector K n}

-- Reaches a vector by shifts of single sectors and pays for the soft bounds that it misses.
def ownShifts (y : Vector K n) : Move n bounds.length → K
  | .raise i => max (y.get i - u.get i) 0
  | .lower i => max (u.get i - y.get i) 0
  | .scale _ => 0
  | .slack c => if (bounds.get c).isHard then 0 else (bounds.get c).violation y

theorem own_shifts_allowed [IsStrictOrderedRing K] (permitted : Permitted u bounds y) :
    Allowed u bounds penalty (ownShifts u bounds y) where
  nonneg v := by
    cases v with
    | raise i => exact le_max_right _ _
    | lower i => exact le_max_right _ _
    | scale g => exact le_refl 0
    | slack c =>
        simp only [ownShifts]
        by_cases hard : (bounds.get c).isHard = true
        · rw [if_pos hard]
        · rw [if_neg hard]
          exact Bound.violation_nonneg _ _
  fixed_zero v fixed := by
    cases v with
    | raise i =>
        have below := permitted.unraised i (by simpa [program] using fixed)
        exact max_eq_right (sub_nonpos.mpr below)
    | lower i =>
        have above := permitted.unlowered i (by simpa [program] using fixed)
        exact max_eq_right (sub_nonpos.mpr above)
    | scale g => rfl
    | slack c => exact if_pos fixed

theorem decode_own_shifts [IsStrictOrderedRing K] (permitted : Permitted u bounds y) :
    decode u bounds (ownShifts u bounds y) = y := by
  refine vector_ext_get fun i => ?_
  rw [decode_get u bounds 0 (own_shifts_allowed u bounds 0 permitted)]
  simp only [ownShifts, mul_zero, Finset.sum_const_zero, add_zero]
  have split := max_zero_sub_max_neg_zero_eq_self (y.get i - u.get i)
  rw [neg_sub] at split
  rw [add_sub_assoc, split, add_sub_cancel]

theorem own_shifts_feasible [IsStrictOrderedRing K] (permitted : Permitted u bounds y)
    (met : MeetsHard bounds y) : (program u bounds penalty).Feasible (ownShifts u bounds y) := by
  rw [feasible_iff]
  refine ⟨own_shifts_allowed u bounds penalty permitted, fun c => ?_⟩
  rw [decode_own_shifts u bounds permitted]
  simp only [ownShifts]
  by_cases hard : (bounds.get c).isHard = true
  · rw [if_pos hard, met _ (List.get_mem bounds c) hard]
  · rw [if_neg hard]

variable [IsStrictOrderedRing K]

theorem decode_permitted {x : Move n bounds.length → K}
    (feasible : (program u bounds penalty).Feasible x) :
    Permitted u bounds (decode u bounds x) :=
  ⟨decode_le u bounds penalty feasible, le_decode u bounds penalty feasible⟩

theorem decode_meets_hard {x : Move n bounds.length → K}
    (feasible : (program u bounds penalty).Feasible x) : MeetsHard bounds (decode u bounds x) :=
  hard_bound_met u bounds penalty feasible

theorem program_feasible_iff_hard_bounds_attainable
    (positive : ∀ b ∈ bounds, ∀ t ∈ b.terms, 0 < t.2) :
    ((∃ x, (program u bounds penalty).Feasible x) ↔ ∃ y, MeetsHard bounds y) ∧
      ∀ x, (program u bounds penalty).Feasible x →
        MeetsHard bounds (decode u bounds x) ∧
        (∀ c : Fin bounds.length,
          (bounds.get c).violation (decode u bounds x) ≤ x (.slack c)) ∧
        Permitted u bounds (decode u bounds x) := by
  constructor
  · constructor
    · rintro ⟨x, feasible⟩
      exact ⟨_, decode_meets_hard u bounds penalty feasible⟩
    · rintro ⟨y, met⟩
      exact ⟨_, own_shifts_feasible u bounds penalty (Feasibility.restrain_permitted u bounds y)
        (Feasibility.restrain_meets_hard u bounds y positive met)⟩
  · intro x feasible
    exact ⟨decode_meets_hard u bounds penalty feasible,
      violation_le_slack u bounds penalty feasible, decode_permitted u bounds penalty feasible⟩

def overlappingBounds : List (Bound ℚ 3) :=
  [.standing .hard .upper [(0, 2), (1, 1)] 100, .standing .estimated .lower [(1, 1), (2, 1)] 80,
    .standing .hard .lower [(1, 3)] 114]

theorem overlapping_bounds_attainable :
    (∀ b ∈ overlappingBounds, ∀ t ∈ b.terms, 0 < t.2) ∧
      ∃ x, (program #v[60, 40, 5] overlappingBounds 1000).Feasible x ∧
        MeetsHard overlappingBounds (decode #v[60, 40, 5] overlappingBounds x) := by
  have positive : ∀ b ∈ overlappingBounds, ∀ t ∈ b.terms, 0 < t.2 := by decide +kernel
  obtain ⟨attainable, decoded⟩ :=
    program_feasible_iff_hard_bounds_attainable #v[60, 40, 5] overlappingBounds 1000 positive
  have met : ∀ b ∈ overlappingBounds, b.isHard = true → b.violation #v[31, 38, 5] = 0 := by
    decide +kernel
  obtain ⟨x, feasible⟩ := attainable.mpr ⟨_, met⟩
  exact ⟨positive, x, feasible, (decoded x feasible).1⟩

end Deviation

end EconomicImpact
