import Mathlib
import EconomicImpact.Proofs.Economy.Balancing
import EconomicImpact.Proofs.Outcome

set_option autoImplicit false

namespace EconomicImpact.Balancing

variable {K : Type} [Field K] [LinearOrder K] {n : Nat}

def Near (tolerance : K) (rows columns : Vector K n) (t : Table K n n) : Prop :=
  (∀ i, |∑ j, t.get i j - rows.get i| ≤ tolerance) ∧
    ∀ j, |∑ i, t.get i j - columns.get j| ≤ tolerance

-- The largest distance of a total from its target; a table without sectors has no totals.
structure LargestDeviation (rows columns : Vector K n) (t : Table K n n) (error : K) : Prop where
  near : Near error rows columns t
  attained : (∃ i, |∑ j, t.get i j - rows.get i| = error) ∨
    (∃ j, |∑ i, t.get i j - columns.get j| = error) ∨ (n = 0 ∧ error = 0)

section deviation

theorem greatest_attained (numbers : List K) :
    Scalar.greatest numbers = 0 ∨ Scalar.greatest numbers ∈ numbers := by
  have fold : ∀ start : K, numbers.foldl Scalar.larger start = start ∨
      numbers.foldl Scalar.larger start ∈ numbers := by
    induction numbers with
    | nil => exact fun start => .inl rfl
    | cons a rest ih =>
        intro start
        rw [List.foldl_cons, Scalar.larger_eq_max]
        rcases ih (max start a) with kept | later
        · rw [kept]
          rcases max_choice start a with left | right
          · exact .inl left
          · exact .inr (List.mem_cons.mpr (.inl right))
        · exact .inr (List.mem_cons_of_mem a later)
  exact fold 0

variable (rows columns : Vector K n) (t : Table K n n)

theorem deviation_le_iff (tolerance : K) :
    deviation rows columns t ≤ tolerance ↔ 0 ≤ tolerance ∧ Near tolerance rows columns t := by
  simp only [deviation, Scalar.larger_eq_max, max_le_iff, Scalar.greatest_le_iff,
    List.forall_mem_ofFn_iff, Table.row_sum_eq, Table.column_sum_eq, Scalar.abs_exact, Near]
  tauto

theorem deviation_attained :
    deviation rows columns t = 0 ∨ (∃ i, |∑ j, t.get i j - rows.get i| = deviation rows columns t) ∨
      ∃ j, |∑ i, t.get i j - columns.get j| = deviation rows columns t := by
  have listed (f : Fin n → K) :
      Scalar.greatest (List.ofFn f) = 0 ∨ ∃ i, f i = Scalar.greatest (List.ofFn f) :=
    (greatest_attained _).imp_right List.mem_ofFn.mp
  simp only [deviation, Scalar.larger_eq_max, Table.row_sum_eq, Table.column_sum_eq,
    Scalar.abs_exact]
  rcases max_choice (Scalar.greatest (List.ofFn fun i => |∑ j, t.get i j - rows.get i|))
    (Scalar.greatest (List.ofFn fun j => |∑ i, t.get i j - columns.get j|)) with inRows | inColumns
  · rw [inRows]
    exact (listed _).imp_right .inl
  · rw [inColumns]
    exact (listed _).imp_right .inr

theorem largest_deviation [IsStrictOrderedRing K] :
    LargestDeviation rows columns t (deviation rows columns t) := by
  obtain ⟨-, near⟩ := (deviation_le_iff rows columns t _).mp le_rfl
  refine ⟨near, ?_⟩
  rcases deviation_attained rows columns t with none | inRows | inColumns
  · -- Where nothing deviates, every total does so by zero.
    rcases Nat.eq_zero_or_pos n with empty | some_sector
    · exact .inr (.inr ⟨empty, none⟩)
    · exact .inl ⟨⟨0, some_sector⟩, le_antisymm (near.1 _) (none.trans_le (abs_nonneg _))⟩
  · exact .inl inRows
  · exact .inr (.inl inColumns)

end deviation

section ordered

variable [IsStrictOrderedRing K] {rows columns : Vector K n} {t : Table K n n}

-- Rows and columns add up to the same total, so targets can only be met as far as theirs agree.
theorem Near.targets_agree {tolerance : K} (near : Near tolerance rows columns t) :
    |∑ i, rows.get i - ∑ j, columns.get j| ≤ 2 * n * tolerance := by
  have whole : ∑ j, ∑ i, t.get i j = ∑ i, ∑ j, t.get i j := Finset.sum_comm
  have split : ∑ i, rows.get i - ∑ j, columns.get j =
      ∑ j, (∑ i, t.get i j - columns.get j) - ∑ i, (∑ j, t.get i j - rows.get i) := by
    rw [Finset.sum_sub_distrib, Finset.sum_sub_distrib, whole]
    ring
  have spread (f : Fin n → K) (each : ∀ i, |f i| ≤ tolerance) : |∑ i, f i| ≤ n * tolerance := by
    refine (Finset.abs_sum_le_sum_abs f _).trans ?_
    simpa using Finset.sum_le_card_nsmul Finset.univ (fun i => |f i|) tolerance fun i _ => each i
  rw [split]
  calc |∑ j, (∑ i, t.get i j - columns.get j) - ∑ i, (∑ j, t.get i j - rows.get i)|
      ≤ |∑ j, (∑ i, t.get i j - columns.get j)| + |∑ i, (∑ j, t.get i j - rows.get i)| :=
        abs_sub _ _
    _ ≤ n * tolerance + n * tolerance := add_le_add (spread _ near.2) (spread _ near.1)
    _ = 2 * n * tolerance := by ring

omit [IsStrictOrderedRing K] in
-- An entry of a line that is on target keeps its value, also where the whole line is zero.
theorem mul_factor_self {entry sum : K} (nonneg : 0 ≤ entry) (part : entry ≤ sum) :
    entry * factor sum sum = entry := by
  unfold factor
  split
  · rename_i positive
    rw [div_self positive.ne', mul_one]
  · rename_i cleared
    rw [le_antisymm (part.trans (not_lt.mp cleared)) nonneg, mul_zero]

theorem iteration_fixed (nonneg : ∀ i j, 0 ≤ t.get i j)
    (onRows : ∀ i, ∑ j, t.get i j = rows.get i)
    (onColumns : ∀ j, ∑ i, t.get i j = columns.get j) : iteration rows columns t = t := by
  have keptRows : scaleRows rows t = t := by
    refine Table.ext_get fun i j => ?_
    simp only [scaleRows, Table.get_ofFn, Vector.get_ofFn, Table.row_sum_eq, ← onRows]
    exact mul_factor_self (nonneg i j)
      (Finset.single_le_sum (fun k _ => nonneg i k) (Finset.mem_univ j))
  have keptColumns : scaleColumns columns t = t := by
    refine Table.ext_get fun i j => ?_
    simp only [scaleColumns, Table.get_ofFn, Vector.get_ofFn, Table.column_sum_eq, ← onColumns]
    exact mul_factor_self (nonneg i j)
      (Finset.single_le_sum (fun k _ => nonneg k j) (Finset.mem_univ i))
  rw [iteration, keptRows, keptColumns]

end ordered

namespace Admissible

variable {start : List (List K)} {rows columns : List K} (admissible : Admissible start rows columns)
  (b : Balancing K)

structure Reaches (k : Nat) : Prop where
  counted : 1 ≤ k
  inTime : k ≤ b.maxIterations
  near : Near b.tolerance admissible.rowTargets admissible.columnTargets (admissible.iterate k)

variable {b} in
theorem not_reached {limit : Nat} (tolerant : 0 ≤ b.tolerance)
    (missed : ∀ l < limit, ¬deviation admissible.rowTargets admissible.columnTargets
      (admissible.iterate (l + 1)) ≤ b.tolerance) : ∀ k ≤ limit, ¬admissible.Reaches b k := by
  rintro k within reached
  obtain ⟨l, rfl⟩ := Nat.exists_eq_add_one.mpr reached.counted
  exact missed l within ((deviation_le_iff _ _ _ _).mpr ⟨tolerant, reached.near⟩)

structure ConvergedAt (balanced : Balanced K start.length) (k : Nat) : Prop where
  reached : admissible.Reaches b k
  first : ∀ l < k, ¬admissible.Reaches b l
  flows : balanced.flows = admissible.iterate k
  iterations : balanced.iterations = k
  error : ∃ error, balanced.finalError = some error ∧
    LargestDeviation admissible.rowTargets admissible.columnTargets balanced.flows error

theorem converged_at_first [IsStrictOrderedRing K] (tolerant : 0 ≤ b.tolerance) :
    ∃ balanced, b.balance start rows columns = .ok balanced ∧
      ((balanced.converged = true ∧ ∃ k, admissible.ConvergedAt b balanced k) ∨
        (balanced.converged = false ∧ ∀ k, ¬admissible.Reaches b k)) := by
  obtain ⟨balanced, done, stopped⟩ := admissible.balanced_stopped b
  refine ⟨balanced, done, ?_⟩
  cases stopped with
  | converged k inTime early met =>
      obtain ⟨-, near⟩ := (deviation_le_iff _ _ _ _).mp met
      have first := admissible.not_reached tolerant early
      exact .inl ⟨rfl, k + 1, ⟨k.succ_pos, inTime, near⟩,
        fun l before => first l (Nat.le_of_lt_succ before), rfl, Nat.zero_add _, _, rfl,
        largest_deviation _ _ _⟩
  | exhausted missed =>
      have never := admissible.not_reached tolerant missed
      exact .inr ⟨rfl, fun k reached => never k reached.inTime reached⟩

theorem row_total : ∑ i, admissible.rowTargets.get i = rows.sum := by
  rw [← List.sum_ofFn, ← to_list_eq_of_fn]
  rfl

theorem column_total : ∑ j, admissible.columnTargets.get j = columns.sum := by
  rw [← List.sum_ofFn, ← to_list_eq_of_fn]
  rfl

structure OnTarget : Prop where
  nonneg : ∀ i j, 0 ≤ admissible.flows i j
  rows : ∀ i, ∑ j, admissible.flows i j = admissible.rowTargets.get i
  columns : ∀ j, ∑ i, admissible.flows i j = admissible.columnTargets.get j

variable {admissible b} in
theorem OnTarget.iterate_one [IsStrictOrderedRing K] (onTarget : admissible.OnTarget) :
    admissible.iterate 1 = admissible.iterate 0 := by
  have entry (i j : Fin start.length) : (admissible.iterate 0).get i j = admissible.flows i j :=
    congrFun (congrFun admissible.iterate_zero i) j
  refine iteration_fixed (t := admissible.iterate 0) (fun i j => ?_) (fun i => ?_) fun j => ?_
  · rw [entry]
    exact onTarget.nonneg i j
  · simp only [entry]
    exact onTarget.rows i
  · simp only [entry]
    exact onTarget.columns j

variable {admissible b} in
theorem OnTarget.error_eq_zero [IsStrictOrderedRing K] (onTarget : admissible.OnTarget)
    {t : Table K start.length start.length} (same : t.matrix = admissible.flows) {error : K}
    (largest : LargestDeviation admissible.rowTargets admissible.columnTargets t error) :
    error = 0 := by
  have rows (i : Fin start.length) : ∑ j, t.get i j = admissible.rowTargets.get i := by
    rw [← onTarget.rows, ← same]
    rfl
  have columns (j : Fin start.length) : ∑ i, t.get i j = admissible.columnTargets.get j := by
    rw [← onTarget.columns, ← same]
    rfl
  rcases largest.attained with ⟨i, attained⟩ | ⟨j, attained⟩ | ⟨-, none⟩
  · rw [← attained, rows, sub_self, abs_zero]
  · rw [← attained, columns, sub_self, abs_zero]
  · exact none

end Admissible

theorem convergence_reported_exactly [IsStrictOrderedRing K] (b : Balancing K)
    {start : List (List K)} {rows columns : List K}
    (admissible : Admissible start rows columns) (tolerant : 0 ≤ b.tolerance) :
    ∃ balanced, b.balance start rows columns = .ok balanced ∧
      (balanced.converged = true ↔ ∃ k, admissible.Reaches b k) ∧
      (balanced.converged = true → ∃ k, admissible.ConvergedAt b balanced k) ∧
      (2 * start.length * b.tolerance < |rows.sum - columns.sum| → balanced.converged = false) ∧
      (1 ≤ b.maxIterations → admissible.OnTarget →
        balanced.flows.matrix = admissible.flows ∧ balanced.converged = true ∧
          balanced.iterations = 1 ∧ balanced.finalError = some 0) := by
  obtain ⟨balanced, done, verdict⟩ := admissible.converged_at_first b tolerant
  have converges : balanced.converged = true ↔ ∃ k, admissible.Reaches b k := by
    rcases verdict with ⟨converged, k, atFirst⟩ | ⟨failed, never⟩
    · exact iff_of_true converged ⟨k, atFirst.reached⟩
    · exact iff_of_false (by simp [failed]) fun ⟨k, reached⟩ => never k reached
  have found (converged : balanced.converged = true) :
      ∃ k, admissible.ConvergedAt b balanced k := by
    rcases verdict with ⟨-, atFirst⟩ | ⟨failed, -⟩
    · exact atFirst
    · exact absurd (failed.symm.trans converged) Bool.false_ne_true
  refine ⟨balanced, done, converges, found, fun apart => ?_, fun iterates onTarget => ?_⟩
  · refine Bool.eq_false_iff.mpr fun converged => ?_
    obtain ⟨k, reached⟩ := converges.mp converged
    have agree := reached.near.targets_agree
    rw [admissible.row_total, admissible.column_total] at agree
    exact absurd agree (not_le.mpr apart)
  · have still := onTarget.iterate_one
    have same : (admissible.iterate 1).matrix = admissible.flows := by
      rw [still, admissible.iterate_zero]
    have error := onTarget.error_eq_zero same (largest_deviation _ _ _)
    have reached : admissible.Reaches b 1 := ⟨le_rfl, iterates,
      ((deviation_le_iff _ _ _ _).mp (error.trans_le tolerant)).2⟩
    have converged := converges.mpr ⟨1, reached⟩
    obtain ⟨k, atFirst⟩ := found converged
    have once : k = 1 := le_antisymm
      (not_lt.mp fun later => atFirst.first 1 later reached) atFirst.reached.counted
    subst once
    obtain ⟨last, reported, largest⟩ := atFirst.error
    rw [atFirst.flows] at largest ⊢
    exact ⟨same, converged, atFirst.iterations,
      by rw [reported, onTarget.error_eq_zero same largest]⟩

def twoSectorFlows : List (List ℚ) := [[10, 20], [30, 40]]

def patient : Balancing ℚ := ⟨1 / 1000, 5⟩

theorem two_sector_totals_admissible : Admissible twoSectorFlows [30, 70] [40, 60] :=
  ⟨by decide, rfl, rfl, by decide, by decide⟩

theorem two_sector_totals_met : two_sector_totals_admissible.OnTarget := by
  refine ⟨?_, by decide +kernel, by decide +kernel⟩
  exact Fin.forall_fin_two.mpr ⟨by decide +kernel, by decide +kernel⟩

theorem two_sector_flows_converge :
    0 ≤ patient.tolerance ∧
      (∃ admissible : Admissible twoSectorFlows [35, 75] [45, 65], ∃ balanced,
        patient.balance twoSectorFlows [35, 75] [45, 65] = .ok balanced ∧
          balanced.converged = true ∧ admissible.ConvergedAt patient balanced 2) ∧
      (∃ balanced, patient.balance twoSectorFlows [35, 75] [50, 70] = .ok balanced ∧
        balanced.converged = false) ∧
      ∃ admissible : Admissible twoSectorFlows [30, 70] [40, 60], ∃ balanced,
        patient.balance twoSectorFlows [30, 70] [40, 60] = .ok balanced ∧
          balanced.flows.matrix = admissible.flows ∧ balanced.converged = true ∧
          balanced.iterations = 1 ∧ balanced.finalError = some 0 := by
  have tolerant : 0 ≤ patient.tolerance := by decide +kernel
  refine ⟨tolerant, ?_, ?_, ?_⟩
  · have admissible : Admissible twoSectorFlows [35, 75] [45, 65] :=
      ⟨by decide, rfl, rfl, by decide, by decide⟩
    have facts : (patient.balance twoSectorFlows [35, 75] [45, 65]).toOption.any
        (fun r => r.converged && r.iterations == 2) = true := by decide +kernel
    obtain ⟨balanced, done, ends⟩ := (Outcome.any_ok_iff _ _).mp facts
    rw [Bool.and_eq_true, beq_iff_eq] at ends
    obtain ⟨again, same, -, found, -⟩ :=
      convergence_reported_exactly patient admissible tolerant
    cases same.symm.trans done
    obtain ⟨k, atFirst⟩ := found ends.1
    have second : k = 2 := atFirst.iterations.symm.trans ends.2
    exact ⟨admissible, balanced, done, ends.1, second ▸ atFirst⟩
  · have admissible : Admissible twoSectorFlows [35, 75] [50, 70] :=
      ⟨by decide, rfl, rfl, by decide, by decide⟩
    obtain ⟨balanced, done, -, -, apart, -⟩ :=
      convergence_reported_exactly patient admissible tolerant
    exact ⟨balanced, done, apart (by decide +kernel)⟩
  · obtain ⟨balanced, done, -, -, -, still⟩ :=
      convergence_reported_exactly patient two_sector_totals_admissible tolerant
    exact ⟨_, balanced, done, still (by decide) two_sector_totals_met⟩

end EconomicImpact.Balancing
