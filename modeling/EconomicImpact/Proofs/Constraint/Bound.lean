import Mathlib
import EconomicImpact.Proofs.Constraint.Sense
import EconomicImpact.Proofs.Feasibility.Deviation

set_option autoImplicit false

namespace EconomicImpact

theorem mem_sectors_iff {α : Type} {n : Nat} (b : Bound α n) (i : Fin n) :
    i ∈ b.sectors ↔ b.covers i = true := by
  simp [Bound.covers]

theorem movable_of_mem {α : Type} {n : Nat} {bounds : List (Bound α n)} (b : Bound α n)
    (listed : b ∈ bounds) (i : Fin n) (covered : i ∈ b.sectors) :
    movable b.sense bounds i = true := by
  rw [movable, List.any_eq_true]
  exact ⟨b, listed, by simp [(mem_sectors_iff b i).mp covered]⟩

theorem single_term {α : Type} {n : Nat} (b : Bound α n) (j : Fin n) (w : α)
    (single : b.single? = some (j, w)) : b.terms = [(j, w)] := by
  unfold Bound.single? at single
  split at single
  · rename_i term terms
    cases single
    exact terms
  · cases single

variable {K : Type} [Field K] [LinearOrder K] {n : Nat}

def MeetsHard (bounds : List (Bound K n)) (y : Vector K n) : Prop :=
  ∀ b ∈ bounds, b.isHard = true → b.violation y = 0

structure Permitted (u : Vector K n) (bounds : List (Bound K n)) (y : Vector K n) : Prop where
  unraised : ∀ i, movable .lower bounds i = false → y.get i ≤ u.get i
  unlowered : ∀ i, movable .upper bounds i = false → u.get i ≤ y.get i

variable [IsStrictOrderedRing K]

namespace Bound

variable (b : Bound K n) {y z : Vector K n}

theorem met_iff_within : b.violation y = 0 ↔ b.sense.Within b.limit (b.lhs y) := b.met_iff y

omit [IsStrictOrderedRing K] in
theorem lhs_congr (same : ∀ i ∈ b.sectors, y.get i = z.get i) : b.lhs y = b.lhs z := by
  unfold lhs
  congr 1
  refine List.map_congr_left fun t member => ?_
  exact congrArg (t.2 * ·) (same t.1 (List.mem_map_of_mem member))

omit [IsStrictOrderedRing K] in
theorem violation_congr (same : ∀ i ∈ b.sectors, y.get i = z.get i) :
    b.violation y = b.violation z := by
  simp only [violation, b.lhs_congr same]

section positive

variable (positive : ∀ t ∈ b.terms, 0 < t.2)

include positive

theorem lhs_le_lhs (le : ∀ i ∈ b.sectors, y.get i ≤ z.get i) : b.lhs y ≤ b.lhs z := by
  rw [lhs, lhs, Scalar.total_eq_sum, Scalar.total_eq_sum]
  refine List.sum_le_sum fun t member => ?_
  exact mul_le_mul_of_nonneg_left (le t.1 (List.mem_map_of_mem member)) (positive t member).le

theorem lhs_within (moved : ∀ i ∈ b.sectors, b.sense.Within (y.get i) (z.get i)) :
    b.sense.Within (b.lhs y) (b.lhs z) := by
  cases sense : b.sense with
  | upper =>
      rw [sense] at moved
      exact b.lhs_le_lhs positive moved
  | lower =>
      rw [sense] at moved
      exact b.lhs_le_lhs positive moved

theorem violation_le_of_moved (moved : ∀ i ∈ b.sectors, b.sense.Within (y.get i) (z.get i)) :
    b.violation z ≤ b.violation y := by
  have within := b.lhs_within positive moved
  cases sense : b.sense with
  | upper =>
      rw [sense] at within
      simp only [violation, sense, Scalar.larger_eq_max]
      exact max_le_max_right 0 (sub_le_sub_right within b.limit)
  | lower =>
      rw [sense] at within
      simp only [violation, sense, Scalar.larger_eq_max]
      exact max_le_max_right 0 (sub_le_sub_left within b.limit)

theorem met_of_moved (met : b.violation y = 0)
    (moved : ∀ i ∈ b.sectors, b.sense.Within (y.get i) (z.get i)) : b.violation z = 0 :=
  le_antisymm ((b.violation_le_of_moved positive moved).trans_eq met) (b.violation_nonneg z)

end positive

omit [IsStrictOrderedRing K] in
theorem Sound.weight_pos {b : Bound K n} (sound : b.Sound) {j : Fin n} {w : K}
    (single : b.single? = some (j, w)) : 0 < w :=
  sound.positive (j, w) (by simp [single_term b j w single])

theorem single_met_iff {j : Fin n} {w : K} (single : b.single? = some (j, w)) (weight : 0 < w) :
    b.violation y = 0 ↔ b.sense.Within (b.limit / w) (y.get j) := by
  have lhs : b.lhs y = w * y.get j := by simp [lhs, single_term b j w single]
  rw [met_iff_within, lhs]
  cases b.sense with
  | upper => exact (le_div_iff₀' weight).symm
  | lower => exact (div_le_iff₀' weight).symm

theorem single_violation {j : Fin n} {w : K} (single : b.single? = some (j, w)) (weight : 0 < w)
    (beyond : b.sense.Within (y.get j) (b.limit / w)) :
    b.violation y = w * |y.get j - b.limit / w| := by
  have lhs : b.lhs y = w * y.get j := by simp [lhs, single_term b j w single]
  have scaled : w * (b.limit / w) = b.limit := mul_div_cancel₀ _ weight.ne'
  cases sense : b.sense with
  | upper =>
      rw [sense] at beyond
      have gap : 0 ≤ y.get j - b.limit / w := sub_nonneg.mpr beyond
      have reached := mul_nonneg weight.le gap
      rw [mul_sub, scaled] at reached
      rw [abs_of_nonneg gap, mul_sub, scaled]
      simp only [violation, sense, lhs, Scalar.larger_eq_max, max_eq_left reached]
  | lower =>
      rw [sense] at beyond
      have gap : y.get j - b.limit / w ≤ 0 := sub_nonpos.mpr beyond
      have reached := mul_nonneg weight.le (neg_nonneg.mpr gap)
      rw [neg_sub, mul_sub, scaled] at reached
      rw [abs_of_nonpos gap, neg_sub, mul_sub, scaled]
      simp only [violation, sense, lhs, Scalar.larger_eq_max, max_eq_left reached]

end Bound

end EconomicImpact
