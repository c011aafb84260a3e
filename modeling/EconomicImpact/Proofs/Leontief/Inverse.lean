import Mathlib
import EconomicImpact.Leontief.Impact
import EconomicImpact.Leontief.Inverse
import EconomicImpact.Proofs.SectorVector
import EconomicImpact.Proofs.Table.Inverse

set_option autoImplicit false

namespace EconomicImpact

theorem SquareTable.impact_eq {α : Type} [Scalar α] {n : Nat} (inverse : Table α n n)
    (codes : Vector String n) (shock : Vector α n) :
    (SquareTable.mk n inverse).impact codes.toList shock.toList = .ok {
      deltaX := .ofAligned codes (inverse.apply shock)
      direct := .ofAligned codes shock
      indirect := .ofAligned codes ((inverse.apply shock).zipWith (· - ·) shock) } := by
  have length : shock.toList.length = n := by simp
  have demand : (⟨shock.toList.toArray, by simp⟩ : Vector α n) = shock :=
    Vector.toArray_inj.mp (Array.toArray_toList)
  unfold impact
  rw [dif_pos length]
  simp only [demand, SectorVector.ofAligned]

variable {K : Type} [Field K] [LinearOrder K] [IsStrictOrderedRing K] {n : Nat}
  (a : Table K n n) (limit : K)

omit [IsStrictOrderedRing K] in
theorem leontief_system_matrix : (leontiefSystem a).matrix = 1 - a.matrix := by
  rw [leontiefSystem, Table.matrix_sub, Table.matrix_identity]

theorem leontief_inverse_ok_iff (inverse : Table K n n) :
    leontiefInverse a limit = .ok inverse ↔
      inverse.matrix * (1 - a.matrix) = 1 ∧
        columnNorm (1 - a.matrix) * columnNorm inverse.matrix ≤ limit := by
  rw [← leontief_system_matrix, ← Table.inverse_eq_some_iff, ← Table.one_norm_eq,
    ← Table.one_norm_eq]
  unfold leontiefInverse
  cases found : (leontiefSystem a).inverse? with
  | none => simp [found]
  | some other =>
      simp only [found, Scalar.is_finite_exact, Bool.not_true, Bool.false_or, Option.some.injEq]
      by_cases excessive : limit < (leontiefSystem a).oneNorm * other.oneNorm
      · rw [if_pos (decide_eq_true excessive)]
        constructor
        · intro refused
          cases refused
        · rintro ⟨rfl, within⟩
          exact absurd within (not_le.mpr excessive)
      · have finite : (other.toLists.any fun row => row.any fun _ => false) = false := by simp
        rw [if_neg (by simpa using excessive), finite, if_neg Bool.false_ne_true]
        constructor
        · intro same
          cases same
          exact ⟨rfl, not_lt.mp excessive⟩
        · rintro ⟨rfl, -⟩
          rfl

theorem leontief_inverse_exists_iff :
    (∃ inverse, leontiefInverse a limit = .ok inverse) ↔
      (1 - a.matrix).det ≠ 0 ∧
        columnNorm (1 - a.matrix) * columnNorm (1 - a.matrix)⁻¹ ≤ limit := by
  constructor
  · rintro ⟨inverse, found⟩
    obtain ⟨product, within⟩ := (leontief_inverse_ok_iff a limit inverse).mp found
    rw [Matrix.inv_eq_left_inv product]
    exact ⟨Matrix.det_ne_zero_of_left_inverse product, within⟩
  · rintro ⟨regular, within⟩
    obtain ⟨inverse, same⟩ := Table.exists_table (1 - a.matrix)⁻¹
    refine ⟨inverse, (leontief_inverse_ok_iff a limit inverse).mpr ⟨?_, ?_⟩⟩
    · rw [same]
      exact Matrix.nonsing_inv_mul _ (isUnit_iff_ne_zero.mpr regular)
    · rwa [same]

variable {a limit}

theorem leontief_inverse_two_sided {inverse : Table K n n}
    (found : leontiefInverse a limit = .ok inverse) :
    (1 - a.matrix) * inverse.matrix = 1 ∧ inverse.matrix * (1 - a.matrix) = 1 := by
  obtain ⟨product, -⟩ := (leontief_inverse_ok_iff a limit inverse).mp found
  exact ⟨mul_eq_one_comm.mp product, product⟩

theorem balance_iff {inverse : Table K n n} (found : leontiefInverse a limit = .ok inverse)
    (demand output : Vector K n) :
    output.get = a.matrix.mulVec output.get + demand.get ↔ output = inverse.apply demand := by
  obtain ⟨right, left⟩ := leontief_inverse_two_sided found
  have applied : (inverse.apply demand).get = inverse.matrix.mulVec demand.get :=
    funext fun i => inverse.apply_get demand i
  constructor
  · intro balanced
    have system : (1 - a.matrix).mulVec output.get = demand.get := by
      rw [Matrix.sub_mulVec, Matrix.one_mulVec, sub_eq_iff_eq_add, add_comm]
      exact balanced
    have solved := congrArg inverse.matrix.mulVec system
    rw [Matrix.mulVec_mulVec, left, Matrix.one_mulVec, ← applied] at solved
    exact vector_ext_get fun i => congrFun solved i
  · rintro rfl
    have system : (1 - a.matrix).mulVec (inverse.apply demand).get = demand.get := by
      rw [applied, Matrix.mulVec_mulVec, right, Matrix.one_mulVec]
    rw [Matrix.sub_mulVec, Matrix.one_mulVec, sub_eq_iff_eq_add, add_comm] at system
    exact system

end EconomicImpact
