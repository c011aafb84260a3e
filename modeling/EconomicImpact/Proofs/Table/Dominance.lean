import Mathlib
import EconomicImpact.Proofs.Table.Matrix

set_option autoImplicit false

namespace EconomicImpact

open Matrix

variable {K : Type} [Field K] [LinearOrder K] [IsStrictOrderedRing K] {n : Nat}

structure Dominated (a : Matrix (Fin n) (Fin n) K) (s : K) : Prop where
  nonneg : ∀ i j, 0 ≤ a i j
  columns : ∀ j, ∑ i, a i j ≤ s
  bound_nonneg : 0 ≤ s
  below_one : s < 1

namespace Dominated

variable {a l : Matrix (Fin n) (Fin n) K} {s : K} (dominated : Dominated a s)

include dominated

-- The least entry of a row cannot be negative: the column sums would give back less than all of it.
theorem nonneg_of_image_nonneg (w : Fin n → K) (image : ∀ j, 0 ≤ (w ᵥ* (1 - a)) j) (i : Fin n) :
    0 ≤ w i := by
  by_contra negative
  obtain ⟨k, -, least⟩ := Finset.exists_min_image Finset.univ w ⟨i, Finset.mem_univ i⟩
  have below : w k < 0 := (least i (Finset.mem_univ i)).trans_lt (not_le.mp negative)
  have entry : (w ᵥ* (1 - a)) k = w k - ∑ j, w j * a j k := by
    rw [vecMul_sub, vecMul_one]
    rfl
  have returned : w k * s ≤ ∑ j, w j * a j k :=
    calc w k * s ≤ w k * ∑ j, a j k := mul_le_mul_of_nonpos_left (dominated.columns k) below.le
      _ = ∑ j, w k * a j k := Finset.mul_sum ..
      _ ≤ ∑ j, w j * a j k := Finset.sum_le_sum fun j member =>
          mul_le_mul_of_nonneg_right (least j member) (dominated.nonneg j k)
  have kept : 0 ≤ w k * (1 - s) := by
    have here := image k
    rw [entry] at here
    linarith
  exact absurd kept (not_le.mpr (mul_neg_of_neg_of_pos below (sub_pos.mpr dominated.below_one)))

theorem det_ne_zero : (1 - a).det ≠ 0 := by
  intro singular
  obtain ⟨w, nonzero, kernel⟩ := exists_vecMul_eq_zero_iff.mpr singular
  refine nonzero (funext fun i => le_antisymm ?_ ?_)
  · have opposite : ∀ j, 0 ≤ (-w ᵥ* (1 - a)) j := by simp [neg_vecMul, kernel]
    exact neg_nonneg.mp (dominated.nonneg_of_image_nonneg (-w) opposite i)
  · exact dominated.nonneg_of_image_nonneg w (by simp [kernel]) i

theorem column_norm_system_le : columnNorm (1 - a) ≤ 1 + s := by
  rw [columnNorm, Finset.fold_max_le]
  refine ⟨add_nonneg zero_le_one dominated.bound_nonneg, fun j _ => ?_⟩
  calc ∑ i, |(1 - a) i j| ≤ ∑ i, ((1 : Matrix (Fin n) (Fin n) K) i j + a i j) := by
        refine Finset.sum_le_sum fun i _ => ?_
        have diagonal : 0 ≤ (1 : Matrix (Fin n) (Fin n) K) i j := by
          rw [one_apply]
          exact ite_nonneg zero_le_one le_rfl
        refine (abs_sub _ _).trans ?_
        rw [abs_of_nonneg diagonal, abs_of_nonneg (dominated.nonneg i j)]
    _ = 1 + ∑ i, a i j := by
        simp only [Finset.sum_add_distrib, one_apply, Finset.sum_ite_eq', Finset.mem_univ, if_true]
    _ ≤ 1 + s := add_le_add_right (dominated.columns j) 1

section inverse

variable (inverted : l * (1 - a) = 1)

include inverted

theorem inverse_nonneg (i j : Fin n) : 0 ≤ l i j := by
  refine dominated.nonneg_of_image_nonneg (l i) (fun k => ?_) j
  have row : (l i ᵥ* (1 - a)) k = (1 : Matrix (Fin n) (Fin n) K) i k :=
    congrFun (congrFun inverted i) k
  rw [row, one_apply]
  exact ite_nonneg zero_le_one le_rfl

theorem one_le_diagonal (i : Fin n) : 1 ≤ l i i := by
  have split : l = 1 + l * a := by
    rw [mul_sub, mul_one, sub_eq_iff_eq_add] at inverted
    exact inverted
  have ripple : 0 ≤ (l * a) i i := by
    rw [mul_apply]
    exact Finset.sum_nonneg fun k _ =>
      mul_nonneg (dominated.inverse_nonneg inverted i k) (dominated.nonneg k i)
  rw [split, Matrix.add_apply, one_apply_eq]
  exact le_add_of_nonneg_right ripple

theorem one_le_column_sum (j : Fin n) : 1 ≤ ∑ i, l i j :=
  (dominated.one_le_diagonal inverted j).trans
    (Finset.single_le_sum (fun i _ => dominated.inverse_nonneg inverted i j) (Finset.mem_univ j))

theorem column_sum_le (j : Fin n) : ∑ i, l i j ≤ 1 / (1 - s) := by
  have split : l = 1 + a * l := by
    have right := mul_eq_one_comm.mp inverted
    rw [sub_mul, one_mul, sub_eq_iff_eq_add] at right
    exact right
  -- Each unit of the column passes on no more than its own column sum of inputs.
  have passed : ∑ i, (a * l) i j ≤ s * ∑ k, l k j :=
    calc ∑ i, (a * l) i j = ∑ k, (∑ i, a i k) * l k j := by
          simp only [mul_apply, Finset.sum_mul]
          exact Finset.sum_comm
      _ ≤ ∑ k, s * l k j := Finset.sum_le_sum fun k _ =>
          mul_le_mul_of_nonneg_right (dominated.columns k) (dominated.inverse_nonneg inverted k j)
      _ = s * ∑ k, l k j := (Finset.mul_sum ..).symm
  have whole : ∑ i, l i j = 1 + ∑ i, (a * l) i j := by
    conv_lhs => rw [split]
    simp only [Matrix.add_apply, Finset.sum_add_distrib, one_apply, Finset.sum_ite_eq', Finset.mem_univ,
      if_true]
  rw [le_div_iff₀ (sub_pos.mpr dominated.below_one)]
  linarith

theorem column_norm_inverse_le : columnNorm l ≤ 1 / (1 - s) := by
  rw [columnNorm, Finset.fold_max_le]
  refine ⟨one_div_nonneg.mpr (sub_nonneg.mpr dominated.below_one.le), fun j _ => ?_⟩
  have entries : ∑ i, |l i j| = ∑ i, l i j :=
    Finset.sum_congr rfl fun i _ => abs_of_nonneg (dominated.inverse_nonneg inverted i j)
  rw [entries]
  exact dominated.column_sum_le inverted j

theorem condition_le : columnNorm (1 - a) * columnNorm l ≤ (1 + s) / (1 - s) := by
  have system_nonneg : 0 ≤ 1 + s := add_nonneg zero_le_one dominated.bound_nonneg
  calc columnNorm (1 - a) * columnNorm l ≤ (1 + s) * (1 / (1 - s)) :=
        mul_le_mul dominated.column_norm_system_le (dominated.column_norm_inverse_le inverted)
          (column_norm_nonneg l) system_nonneg
    _ = (1 + s) / (1 - s) := mul_one_div ..

end inverse

end Dominated

end EconomicImpact
