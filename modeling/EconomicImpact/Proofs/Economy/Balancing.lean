import Mathlib
import EconomicImpact.Economy.Balancing
import EconomicImpact.Proofs.SectorVector
import EconomicImpact.Proofs.Table.Matrix

set_option autoImplicit false

namespace EconomicImpact.Balancing

section run

variable {α : Type} [Scalar α] {n : Nat}

-- The ways in which a run of at most some further iterations ends. All iterates before the last one
-- missed the tolerance.
inductive Stopped (tolerance : α) (rows columns : Vector α n) (t : Table α n n) (left done : Nat)
    (error : Option α) : Balanced α n → Prop
  | converged (k : Nat) (inTime : k < left)
      (early : ∀ l < k, ¬deviation rows columns ((iteration rows columns)^[l + 1] t) ≤ tolerance)
      (met : deviation rows columns ((iteration rows columns)^[k + 1] t) ≤ tolerance) :
      Stopped tolerance rows columns t left done error
        ⟨(iteration rows columns)^[k + 1] t, true, done + (k + 1),
          some (deviation rows columns ((iteration rows columns)^[k + 1] t))⟩
  | exhausted
      (missed : ∀ l < left,
        ¬deviation rows columns ((iteration rows columns)^[l + 1] t) ≤ tolerance) :
      Stopped tolerance rows columns t left done error
        ⟨(iteration rows columns)^[left] t, false, done + left,
          if left = 0 then error
          else some (deviation rows columns ((iteration rows columns)^[left] t))⟩

theorem run_stopped (tolerance : α) (rows columns : Vector α n) (left done : Nat)
    (error : Option α) (t : Table α n n) :
    Stopped tolerance rows columns t left done error
      (run tolerance rows columns left done error t) := by
  induction left generalizing done error t with
  | zero => exact .exhausted fun l none => absurd none (Nat.not_lt_zero l)
  | succ left ih =>
      rw [run]
      by_cases met : deviation rows columns (iteration rows columns t) ≤ tolerance
      · rw [if_pos met]
        exact .converged 0 left.succ_pos (fun l none => absurd none (Nat.not_lt_zero l)) met
      · rw [if_neg met]
        -- The first iterate missed, and those of the rest of the run come one later.
        have first (m : Nat)
            (rest : ∀ l < m, ¬deviation rows columns
              ((iteration rows columns)^[l + 1] (iteration rows columns t)) ≤ tolerance) :
            ∀ l < m + 1, ¬deviation rows columns
              ((iteration rows columns)^[l + 1] t) ≤ tolerance := by
          intro l before
          cases l with
          | zero => exact met
          | succ l => exact rest l (Nat.lt_of_succ_lt_succ before)
        have later := ih (done + 1) (some (deviation rows columns (iteration rows columns t)))
          (iteration rows columns t)
        generalize run tolerance rows columns left (done + 1) _ (iteration rows columns t) = ended
          at later
        cases later with
        | converged k inTime early reached =>
            rw [Nat.add_right_comm, Nat.add_assoc]
            exact .converged (k + 1) (Nat.succ_lt_succ inTime) (first k early) reached
        | exhausted missed =>
            have whole : Stopped tolerance rows columns t (left + 1) done error _ :=
              .exhausted (first left missed)
            rw [if_neg left.succ_ne_zero] at whole
            rw [Nat.add_right_comm, Nat.add_assoc]
            split
            · rename_i last
              subst last
              exact whole
            · exact whole

end run

variable {K : Type} [Field K] [LinearOrder K]

structure Admissible (start : List (List K)) (rows columns : List K) : Prop where
  square : ∀ row ∈ start, row.length = start.length
  rowCount : rows.length = start.length
  columnCount : columns.length = start.length
  rowsNonneg : ∀ target ∈ rows, 0 ≤ target
  columnsNonneg : ∀ target ∈ columns, 0 ≤ target

namespace Admissible

variable {start : List (List K)} {rows columns : List K} (admissible : Admissible start rows columns)

def flows : Matrix (Fin start.length) (Fin start.length) K :=
  Matrix.of fun i j =>
    (start.get i).get (j.cast (admissible.square _ (List.get_mem start i)).symm)

def rowTargets : Vector K start.length := ⟨rows.toArray, admissible.rowCount⟩

def columnTargets : Vector K start.length := ⟨columns.toArray, admissible.columnCount⟩

def iterate (k : Nat) : Table K start.length start.length :=
  (iteration admissible.rowTargets admissible.columnTargets)^[k] (.ofLists _ _ start)

theorem iterate_zero : (admissible.iterate 0).matrix = admissible.flows := by
  ext i j
  have inside : j.val < (start.get i).length := by
    rw [admissible.square _ (List.get_mem start i)]
    exact j.isLt
  change (Table.ofLists _ _ start).get i j = (start.get i).get ⟨j, inside⟩
  rw [Table.ofLists, Table.get_ofFn, List.getD_eq_getElem start [] i.isLt]
  exact List.getD_eq_getElem _ _ inside

theorem row_target_nonneg (i : Fin start.length) : 0 ≤ admissible.rowTargets.get i :=
  (forall_mem_to_list_iff (0 ≤ ·) admissible.rowTargets).mp admissible.rowsNonneg i

theorem column_target_nonneg (j : Fin start.length) : 0 ≤ admissible.columnTargets.get j :=
  (forall_mem_to_list_iff (0 ≤ ·) admissible.columnTargets).mp admissible.columnsNonneg j

theorem balance_eq (b : Balancing K) :
    b.balance start rows columns =
      .ok (b.balanceTable (admissible.iterate 0) admissible.rowTargets admissible.columnTargets) := by
  have square : start.find? (·.length ≠ start.length) = none :=
    List.find?_eq_none.mpr fun row member => by simpa using admissible.square row member
  have nonneg : (rows ++ columns).any (· < 0) = false := by
    refine List.any_eq_false.mpr fun target member => ?_
    rcases List.mem_append.mp member with inRows | inColumns
    · simpa using admissible.rowsNonneg target inRows
    · simpa using admissible.columnsNonneg target inColumns
  unfold balance
  dsimp only
  rw [square]
  dsimp only
  rw [dif_pos admissible.rowCount, dif_pos admissible.columnCount, nonneg]
  rfl

theorem balanced_stopped (b : Balancing K) :
    ∃ balanced, b.balance start rows columns = .ok balanced ∧
      Stopped b.tolerance admissible.rowTargets admissible.columnTargets (admissible.iterate 0)
        b.maxIterations 0 none balanced :=
  ⟨_, admissible.balance_eq b, run_stopped ..⟩

end Admissible

section scaling

variable {n : Nat} (targets : Vector K n) (t : Table K n n)

theorem scale_rows_matrix :
    (scaleRows targets t).matrix =
      Matrix.diagonal (fun i => factor (targets.get i) (∑ j, t.get i j)) * t.matrix := by
  ext i j
  simp only [scaleRows, Table.matrix_apply, Table.get_ofFn, Vector.get_ofFn, Table.row_sum_eq,
    Matrix.diagonal_mul, mul_comm]

theorem scale_columns_matrix :
    (scaleColumns targets t).matrix =
      t.matrix * Matrix.diagonal (fun j => factor (targets.get j) (∑ i, t.get i j)) := by
  ext i j
  simp only [scaleColumns, Table.matrix_apply, Table.get_ofFn, Vector.get_ofFn,
    Table.column_sum_eq, Matrix.mul_diagonal]

theorem factor_line (target sum : K) :
    sum * factor target sum = if 0 < sum then target else 0 := by
  unfold factor
  split
  · rename_i positive
    exact mul_div_cancel₀ target positive.ne'
  · exact mul_zero sum

theorem scale_columns_sum (j : Fin n) :
    ∑ i, (scaleColumns targets t).get i j =
      if 0 < ∑ i, t.get i j then targets.get j else 0 := by
  rw [← factor_line, Finset.sum_mul]
  refine Finset.sum_congr rfl fun i _ => ?_
  simp only [scaleColumns, Table.get_ofFn, Vector.get_ofFn, Table.column_sum_eq]

end scaling

section biproportional

variable [IsStrictOrderedRing K] {n : Nat}

theorem factor_nonneg (target sum : K) (nonneg : 0 ≤ target) : 0 ≤ factor target sum := by
  unfold factor
  split
  · rename_i positive
    exact div_nonneg nonneg positive.le
  · exact le_rfl

-- The second matrix is the first with rows and columns multiplied by factors that are not negative.
def Biproportional (z w : Matrix (Fin n) (Fin n) K) : Prop :=
  ∃ left right : Fin n → K, (∀ i, 0 ≤ left i) ∧ (∀ j, 0 ≤ right j) ∧
    w = Matrix.diagonal left * z * Matrix.diagonal right

namespace Biproportional

variable {z w v : Matrix (Fin n) (Fin n) K}

theorem refl : Biproportional z z :=
  ⟨1, 1, fun _ => zero_le_one, fun _ => zero_le_one, by simp⟩

theorem trans (first : Biproportional z w) (second : Biproportional w v) : Biproportional z v := by
  obtain ⟨left, right, leftNonneg, rightNonneg, rfl⟩ := first
  obtain ⟨left', right', leftNonneg', rightNonneg', rfl⟩ := second
  refine ⟨left' * left, right * right', fun i => mul_nonneg (leftNonneg' i) (leftNonneg i),
    fun j => mul_nonneg (rightNonneg j) (rightNonneg' j), ?_⟩
  have folded (a b : Fin n → K) : Matrix.diagonal (a * b) = Matrix.diagonal a * Matrix.diagonal b :=
    (Matrix.diagonal_mul_diagonal a b).symm
  rw [folded, folded]
  simp only [Matrix.mul_assoc]

theorem entry (scaled : Biproportional z w) (i j : Fin n) : ∃ c, 0 ≤ c ∧ w i j = c * z i j := by
  obtain ⟨left, right, leftNonneg, rightNonneg, rfl⟩ := scaled
  refine ⟨left i * right j, mul_nonneg (leftNonneg i) (rightNonneg j), ?_⟩
  rw [Matrix.mul_diagonal, Matrix.diagonal_mul, mul_right_comm]

end Biproportional

theorem iteration_biproportional (rows columns : Vector K n) (t : Table K n n)
    (rowsNonneg : ∀ i, 0 ≤ rows.get i) (columnsNonneg : ∀ j, 0 ≤ columns.get j) :
    Biproportional t.matrix (iteration rows columns t).matrix := by
  rw [iteration, scale_columns_matrix, scale_rows_matrix]
  exact ⟨_, _, fun i => factor_nonneg _ _ (rowsNonneg i),
    fun j => factor_nonneg _ _ (columnsNonneg j), rfl⟩

end biproportional

namespace Admissible

variable [IsStrictOrderedRing K] {start : List (List K)} {rows columns : List K}
  (admissible : Admissible start rows columns)

theorem iterate_biproportional (k : Nat) :
    Biproportional admissible.flows (admissible.iterate k).matrix := by
  induction k with
  | zero =>
      rw [admissible.iterate_zero]
      exact .refl
  | succ k ih =>
      rw [iterate, Function.iterate_succ_apply']
      exact ih.trans (iteration_biproportional _ _ _ admissible.row_target_nonneg
        admissible.column_target_nonneg)

omit [IsStrictOrderedRing K] in
theorem iterate_column_sum (k : Nat) (j : Fin start.length) :
    ∑ i, (admissible.iterate (k + 1)).get i j = admissible.columnTargets.get j ∨
      ∑ i, (admissible.iterate (k + 1)).get i j = 0 := by
  rw [iterate, Function.iterate_succ_apply', iteration, scale_columns_sum]
  exact ite_eq_or_eq ..

end Admissible

theorem Stopped.iterated {α : Type} [Scalar α] {n : Nat} {tolerance : α} {rows columns : Vector α n}
    {t : Table α n n} {left done : Nat} {error : Option α} {balanced : Balanced α n}
    (stopped : Stopped tolerance rows columns t left done error balanced) (some_left : left ≠ 0) :
    ∃ k, balanced.flows = (iteration rows columns)^[k + 1] t := by
  cases stopped with
  | converged k => exact ⟨k, rfl⟩
  | exhausted => exact ⟨left - 1, by rw [Nat.sub_add_cancel (Nat.pos_of_ne_zero some_left)]⟩

theorem balanced_flows_biproportional [IsStrictOrderedRing K] (b : Balancing K)
    {start : List (List K)} {rows columns : List K}
    (admissible : Admissible start rows columns) (iterates : 1 ≤ b.maxIterations) :
    ∃ balanced, b.balance start rows columns = .ok balanced ∧
      (∃ left right : Fin start.length → K, (∀ i, 0 ≤ left i) ∧ (∀ j, 0 ≤ right j) ∧
        balanced.flows.matrix =
          Matrix.diagonal left * admissible.flows * Matrix.diagonal right) ∧
      (∀ i j, (admissible.flows i j = 0 → balanced.flows.get i j = 0) ∧
        (0 ≤ admissible.flows i j → 0 ≤ balanced.flows.get i j) ∧
        (admissible.flows i j ≤ 0 → balanced.flows.get i j ≤ 0)) ∧
      ∀ j, ∑ i, balanced.flows.get i j = admissible.columnTargets.get j ∨
        ∑ i, balanced.flows.get i j = 0 := by
  obtain ⟨balanced, done, stopped⟩ := admissible.balanced_stopped b
  obtain ⟨k, iterated⟩ := stopped.iterated (Nat.one_le_iff_ne_zero.mp iterates)
  have same : balanced.flows = admissible.iterate (k + 1) := iterated
  have scaled := admissible.iterate_biproportional (k + 1)
  rw [← same] at scaled
  refine ⟨balanced, done, scaled, fun i j => ?_, ?_⟩
  · obtain ⟨c, nonneg, entry⟩ := scaled.entry i j
    rw [Table.matrix_apply] at entry
    rw [entry]
    exact ⟨fun zero => by rw [zero, mul_zero], mul_nonneg nonneg, mul_nonpos_of_nonneg_of_nonpos nonneg⟩
  · rw [same]
    exact admissible.iterate_column_sum k

-- The last sector buys nothing, so its column stays clear whatever its target.
def signedFlows : List (List ℚ) := [[0, 20, 0], [30, -40, 0], [60, 50, 0]]

theorem signed_flows_balanced :
    1 ≤ (standard : Balancing ℚ).maxIterations ∧
      Admissible signedFlows [25, 80, 0] [35, 70, 9] ∧
      ∃ balanced : Balanced ℚ signedFlows.length,
        standard.balance signedFlows [25, 80, 0] [35, 70, 9] = .ok balanced ∧
          balanced.flows.get (0 : Fin 3) (0 : Fin 3) = 0 ∧
          balanced.flows.get (1 : Fin 3) (1 : Fin 3) ≤ 0 ∧
          ∑ i, balanced.flows.get i (2 : Fin 3) = 0 := by
  have iterates : 1 ≤ (standard : Balancing ℚ).maxIterations := by decide
  have admissible : Admissible signedFlows [25, 80, 0] [35, 70, 9] :=
    ⟨by decide, rfl, rfl, by decide, by decide⟩
  obtain ⟨balanced, done, -, signs, -⟩ :=
    balanced_flows_biproportional standard admissible iterates
  refine ⟨iterates, admissible, balanced, done, (signs (0 : Fin 3) (0 : Fin 3)).1 rfl,
    (signs (1 : Fin 3) (1 : Fin 3)).2.2 ?_, ?_⟩
  · change (-40 : ℚ) ≤ 0
    norm_num
  · have clear : ∀ i : Fin 3, admissible.flows i (2 : Fin 3) = 0 := by
      intro i
      fin_cases i <;> rfl
    exact Finset.sum_eq_zero fun i _ => (signs i (2 : Fin 3)).1 (clear i)

end EconomicImpact.Balancing
