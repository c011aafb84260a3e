import Mathlib
import EconomicImpact.Proofs.Scalar.Exact
import EconomicImpact.Table

set_option autoImplicit false

namespace EconomicImpact

def columnNorm {K : Type} [Field K] [LinearOrder K] {m n : Nat} (a : Matrix (Fin m) (Fin n) K) : K :=
  Finset.univ.fold max 0 fun j => ∑ i, |a i j|

theorem column_norm_nonneg {K : Type} [Field K] [LinearOrder K] {m n : Nat}
    (a : Matrix (Fin m) (Fin n) K) : 0 ≤ columnNorm a :=
  Finset.le_fold_max 0 |>.mpr (.inl le_rfl)

namespace Table

variable {α : Type} {m n : Nat}

def matrix (t : Table α m n) : Matrix (Fin m) (Fin n) α := Matrix.of t.get

@[simp] theorem matrix_apply (t : Table α m n) (i : Fin m) (j : Fin n) : t.matrix i j = t.get i j :=
  rfl

theorem matrix_injective {s t : Table α m n} (same : s.matrix = t.matrix) : s = t :=
  ext_get fun i j => congrFun (congrFun same i) j

theorem exists_table (a : Matrix (Fin m) (Fin n) α) : ∃ t : Table α m n, t.matrix = a :=
  ⟨ofFn a, by ext i j; exact get_ofFn a i j⟩

theorem of_lists_mem [Zero α] (rows : List (List α)) (height : rows.length = m)
    (width : ∀ row ∈ rows, row.length = n) (i : Fin m) (j : Fin n) :
    ∃ row ∈ rows, (ofLists m n rows).get i j ∈ row := by
  have present : i.val < rows.length := height.symm ▸ i.isLt
  have inside : j.val < rows[i.val].length := by
    rw [width _ (List.getElem_mem present)]
    exact j.isLt
  refine ⟨rows[i.val], List.getElem_mem present, ?_⟩
  rw [ofLists, get_ofFn, List.getD_eq_getElem _ _ present, List.getD_eq_getElem _ _ inside]
  exact List.getElem_mem inside

variable {K : Type} [Field K] [LinearOrder K]

@[simp] theorem matrix_identity : (identity n : Table K n n).matrix = 1 := by
  ext i j
  simp [identity, Matrix.one_apply]

@[simp] theorem matrix_sub (s t : Table K m n) : (s.sub t).matrix = s.matrix - t.matrix := by
  ext i j
  simp [sub]

theorem apply_get (t : Table K m n) (v : Vector K n) (i : Fin m) :
    (t.apply v).get i = t.matrix.mulVec v.get i := by
  simp only [apply, Vector.get_ofFn, Scalar.total_eq_sum, List.sum_ofFn, Matrix.mulVec, dotProduct,
    matrix_apply]

theorem row_sum_eq (t : Table K m n) (i : Fin m) : t.rowSum i = ∑ j, t.get i j := by
  simp only [rowSum, row, Scalar.total_eq_sum, List.sum_ofFn]

theorem column_sum_eq (t : Table K m n) (j : Fin n) : t.columnSum j = ∑ i, t.get i j := by
  simp only [columnSum, column, Scalar.total_eq_sum, List.sum_ofFn]

theorem greatest_of_fn (f : Fin n → K) :
    Scalar.greatest (List.ofFn f) = Finset.univ.fold max 0 f := by
  refine eq_of_forall_ge_iff fun bound => ?_
  rw [Scalar.greatest_le_iff, Finset.fold_max_le]
  simp [List.mem_ofFn]

theorem one_norm_eq (t : Table K m n) : t.oneNorm = columnNorm t.matrix := by
  simp only [oneNorm, greatest_of_fn, columnNorm, column, List.map_ofFn, Scalar.total_eq_sum,
    List.sum_ofFn]
  rfl

end Table

end EconomicImpact
