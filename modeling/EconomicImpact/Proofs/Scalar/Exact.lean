import Mathlib.Algebra.Order.Field.Basic
import Mathlib.Algebra.BigOperators.Group.List.Basic
import EconomicImpact.Scalar

set_option autoImplicit false

namespace EconomicImpact

instance exactScalar {K : Type} [Field K] [LinearOrder K] : Scalar K where
  decidableLt _ _ := inferInstance
  decidableLe _ _ := inferInstance
  abs a := |a|
  isFinite _ := true
  precedes a b := decide (a ≤ b)

namespace Scalar

variable {K : Type} [Field K] [LinearOrder K]

@[simp] theorem is_finite_exact (a : K) : Scalar.isFinite a = true := rfl

@[simp] theorem abs_exact (a : K) : Scalar.abs a = |a| := rfl

@[simp] theorem larger_eq_max (a b : K) : larger a b = max a b := by
  simp only [larger, le_refl, if_true, max_def]
  by_cases less : a < b
  · rw [if_pos less, if_pos less.le]
  · rw [if_neg less]
    by_cases le : a ≤ b
    · rw [if_pos le, le_antisymm le (not_lt.mp less)]
    · rw [if_neg le]

@[simp] theorem smaller_eq_min (a b : K) : smaller a b = min a b := by
  simp only [smaller, le_refl, if_true, min_def]
  by_cases less : b < a
  · rw [if_pos less, if_neg (not_le.mpr less)]
  · rw [if_neg less, if_pos (not_lt.mp less)]

@[simp] theorem total_eq_sum (numbers : List K) : total numbers = numbers.sum := by
  simp only [total, List.sum_eq_foldl]

theorem greatest_le_iff (numbers : List K) (bound : K) :
    greatest numbers ≤ bound ↔ 0 ≤ bound ∧ ∀ a ∈ numbers, a ≤ bound := by
  have fold : ∀ start : K, numbers.foldl larger start ≤ bound ↔
      start ≤ bound ∧ ∀ a ∈ numbers, a ≤ bound := by
    induction numbers with
    | nil => simp
    | cons a rest ih =>
        intro start
        rw [List.foldl_cons, ih, larger_eq_max, max_le_iff, List.forall_mem_cons, and_assoc]
  exact fold 0

@[simp] theorem is_zero_iff (a : K) : isZero a = true ↔ a = 0 := by
  rw [isZero, Bool.and_eq_true, decide_eq_true_iff, decide_eq_true_iff]
  exact le_antisymm_iff.symm

end Scalar

end EconomicImpact
