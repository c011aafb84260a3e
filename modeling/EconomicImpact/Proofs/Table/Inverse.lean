import Mathlib
import EconomicImpact.Proofs.Table.Matrix
import EconomicImpact.Table.Inverse

/-!
Elimination computes the inverse. Every step multiplies both sides by one regular matrix, so the right side
times the table stays the left side. Each step clears one column below the diagonal, and back
substitution turns the upper triangle into the identity. A zero pivot shows that the table is singular.
-/

set_option autoImplicit false

namespace EconomicImpact

variable {n : Nat}

theorem drop_places (k : Nat) (inside : k < n) :
    (List.finRange n).drop k = ⟨k, inside⟩ :: (List.finRange n).drop (k + 1) := by
  rw [List.drop_eq_getElem_cons (by simpa using inside)]
  simp

-- A loop over all places either keeps an invariant to its end or stops at a place in a state that has it.
theorem foldlM_places {σ : Type} (step : σ → Fin n → Option σ) (motive : Nat → σ → Prop)
    (advance : ∀ (i : Fin n) s t, motive i s → step s i = some t → motive (i + 1) t)
    (start : σ) (initial : motive 0 start) :
    match (List.finRange n).foldlM step start with
    | some s => motive n s
    | none => ∃ (i : Fin n) (s : σ), motive i s ∧ step s i = none := by
  have later : ∀ left k, k + left = n → ∀ s, motive k s →
      match ((List.finRange n).drop k).foldlM step s with
      | some s => motive n s
      | none => ∃ (i : Fin n) (s : σ), motive i s ∧ step s i = none := by
    intro left
    induction left with
    | zero =>
        intro k done s holds
        have finished : (List.finRange n).drop k = [] := by
          rw [List.drop_eq_nil_iff, List.length_finRange]
          omega
        rw [finished]
        have all : k = n := by omega
        exact all ▸ holds
    | succ left ih =>
        intro k more s holds
        have inside : k < n := by omega
        rw [drop_places k inside, List.foldlM_cons]
        cases taken : step s ⟨k, inside⟩ with
        | none => exact ⟨⟨k, inside⟩, s, holds, taken⟩
        | some t => exact ih (k + 1) (by omega) t (advance ⟨k, inside⟩ s t holds taken)
  exact later n 0 (Nat.zero_add n) start initial

theorem foldr_places {σ : Type} (step : Fin n → σ → σ) (motive : Nat → σ → Prop)
    (advance : ∀ (i : Fin n) s, motive (i + 1) s → motive i (step i s))
    (start : σ) (initial : motive n start) :
    motive 0 ((List.finRange n).foldr step start) := by
  have earlier : ∀ left k, k + left = n → motive k (((List.finRange n).drop k).foldr step start) := by
    intro left
    induction left with
    | zero =>
        intro k done
        have finished : (List.finRange n).drop k = [] := by
          rw [List.drop_eq_nil_iff, List.length_finRange]
          omega
        rw [finished]
        have all : k = n := by omega
        exact all ▸ initial
    | succ left ih =>
        intro k more
        have inside : k < n := by omega
        rw [drop_places k inside, List.foldr_cons]
        exact advance ⟨k, inside⟩ _ (ih (k + 1) (by omega))
  exact earlier n 0 (Nat.zero_add n)

namespace Table

section pivot

variable {K : Type} [Field K] [LinearOrder K]

theorem largest_of_fold {γ : Type} (size : γ → K) (items : List γ) (start : γ) :
    let best := items.foldl (fun best r => if size best < size r then r else best) start
    (best = start ∨ best ∈ items) ∧ size start ≤ size best ∧ ∀ r ∈ items, size r ≤ size best := by
  induction items generalizing start with
  | nil => simp
  | cons r rest ih =>
      by_cases larger : size start < size r
      · obtain ⟨from_rest, first, others⟩ := ih r
        simp only [List.foldl_cons, if_pos larger]
        refine ⟨.inr ?_, larger.le.trans first, ?_⟩
        · rcases from_rest with same | member
          · rw [same]
            exact List.mem_cons_self
          · exact List.mem_cons_of_mem r member
        · intro q member
          rcases List.mem_cons.mp member with rfl | later
          · exact first
          · exact others q later
      · obtain ⟨from_rest, first, others⟩ := ih start
        simp only [List.foldl_cons, if_neg larger]
        refine ⟨?_, first, ?_⟩
        · rcases from_rest with same | member
          · exact .inl same
          · exact .inr (List.mem_cons_of_mem r member)
        · intro q member
          rcases List.mem_cons.mp member with rfl | later
          · exact (not_lt.mp larger).trans first
          · exact others q later

theorem pivot_row_spec (t : Table K n n) (i : Fin n) :
    i ≤ t.pivotRow i ∧ ∀ r, i ≤ r → |t.get r i| ≤ |t.get (t.pivotRow i) i| := by
  obtain ⟨from_rest, first, others⟩ := largest_of_fold (fun r => |t.get r i|)
    ((List.finRange n).filter (i < ·)) i
  constructor
  · rcases from_rest with same | member
    · exact same.ge
    · exact (of_decide_eq_true (List.mem_filter.mp member).2).le
  · intro r below
    rcases below.eq_or_lt with rfl | strictly
    · exact first
    · exact others r (List.mem_filter.mpr ⟨List.mem_finRange r, decide_eq_true strictly⟩)

end pivot

theorem swap_rows_matrix {α : Type} (t : Table α n n) (i k : Fin n) :
    (t.swapRows i k).matrix = t.matrix.submatrix (Equiv.swap i k) id := by
  ext r c
  simp [swapRows, Equiv.swap_apply_def]

namespace Elimination

section field

variable {K : Type} [Field K] [LinearOrder K]

-- The state after the first `k` columns: both sides differ from the start by one regular factor, and
-- the left side has these columns cleared below pivots that are not zero.
structure Reduced (t : Table K n n) (k : Nat) (s : Elimination K n) : Prop where
  product : s.right.matrix * t.matrix = s.left.matrix
  regular : s.right.matrix.det ≠ 0
  cleared : ∀ r c : Fin n, c.val < k → c < r → s.left.get r c = 0
  pivots : ∀ c : Fin n, c.val < k → s.left.get c c ≠ 0

theorem start_reduced (t : Table K n n) : Reduced t 0 (start t) where
  product := by simp [start]
  regular := by simp [start]
  cleared _ _ before := absurd before (Nat.not_lt_zero _)
  pivots _ before := absurd before (Nat.not_lt_zero _)

theorem swap_reduced {t : Table K n n} {s : Elimination K n} (i k : Fin n) (later : i ≤ k)
    (reduced : Reduced t i s) : Reduced t i (s.swap i k) where
  product := by
    simp only [swap, swap_rows_matrix, ← reduced.product]
    exact (Matrix.submatrix_mul_equiv s.right.matrix t.matrix (Equiv.swap i k) (Equiv.refl _) id).symm
  regular := by
    simp only [swap, swap_rows_matrix, Matrix.det_permute]
    refine mul_ne_zero ?_ reduced.regular
    rcases Int.units_eq_one_or (Equiv.Perm.sign (Equiv.swap i k)) with even | odd
    · simp [even]
    · simp [odd]
  cleared r c before below := by
    have kept := reduced.cleared
    simp only [swap, swapRows, Table.get_ofFn]
    by_cases first : r = i
    · rw [if_pos first]
      exact kept k c before (lt_of_lt_of_le (Fin.lt_def.mpr before) later)
    · rw [if_neg first]
      by_cases second : r = k
      · rw [if_pos second]
        exact kept i c before (Fin.lt_def.mpr before)
      · rw [if_neg second]
        exact kept r c before below
  pivots c before := by
    have first : c ≠ i := (Fin.lt_def.mpr before).ne
    have second : c ≠ k := (lt_of_lt_of_le (Fin.lt_def.mpr before) later).ne
    simp only [swap, swapRows, Table.get_ofFn, if_neg first, if_neg second]
    exact reduced.pivots c before

def multiple (s : Elimination K n) (i r : Fin n) : K :=
  if i < r then s.left.get r i / s.left.get i i else 0

theorem clear_below_right (s : Elimination K n) (i r c : Fin n) :
    (s.clearBelow i).right.get r c =
      s.right.get r c + -s.multiple i r * s.right.get i c := by
  simp only [clearBelow, Table.get_ofFn, multiple]
  by_cases below : i < r
  · rw [if_pos below, if_pos below]
    ring
  · rw [if_neg below, if_neg below]
    ring

theorem clear_below_left {t : Table K n n} {s : Elimination K n} (i r c : Fin n)
    (reduced : Reduced t i s) (pivot : s.left.get i i ≠ 0) :
    (s.clearBelow i).left.get r c = s.left.get r c + -s.multiple i r * s.left.get i c := by
  simp only [clearBelow, Table.get_ofFn, multiple]
  by_cases below : i < r
  · rw [if_pos below, if_pos below]
    rcases lt_trichotomy c i with left | same | right
    · rw [if_neg left.ne, if_neg left.not_gt, reduced.cleared i c left left]
      ring
    · rw [if_pos same, same]
      field_simp
      ring
    · rw [if_neg right.ne', if_pos right]
      ring
  · rw [if_neg below, if_neg below]
    ring

theorem clear_below_reduced {t : Table K n n} {s : Elimination K n} (i : Fin n)
    (reduced : Reduced t i s) (pivot : s.left.get i i ≠ 0) :
    Reduced t (i + 1) (s.clearBelow i) where
  product := by
    ext r c
    have row (q : Fin n) : ∑ j, s.right.get q j * t.get j c = s.left.get q c :=
      congrFun (congrFun reduced.product q) c
    rw [Matrix.mul_apply, matrix_apply, clear_below_left i r c reduced pivot]
    simp only [matrix_apply, clear_below_right, add_mul, mul_assoc, Finset.sum_add_distrib,
      ← Finset.mul_sum, row]
  regular := by
    have same : (s.clearBelow i).right.matrix.det = s.right.matrix.det :=
      Matrix.det_eq_of_forall_row_eq_smul_add_const (fun r => -s.multiple i r) i (by simp [multiple])
        fun r c => s.clear_below_right i r c
    rw [same]
    exact reduced.regular
  cleared r c before below := by
    rw [clear_below_left i r c reduced pivot]
    rcases (Nat.lt_succ_iff.mp before).lt_or_eq with earlier | last
    · have both := reduced.cleared r c earlier below
      rw [both, reduced.cleared i c earlier (Fin.lt_def.mpr earlier)]
      ring
    · obtain rfl : c = i := Fin.ext last
      rw [multiple, if_pos below]
      field_simp
      ring
  pivots c before := by
    rw [clear_below_left i c c reduced pivot]
    rcases (Nat.lt_succ_iff.mp before).lt_or_eq with earlier | last
    · rw [multiple, if_neg (Fin.lt_def.mpr earlier).not_gt]
      simpa using reduced.pivots c earlier
    · obtain rfl : c = i := Fin.ext last
      simpa [multiple] using pivot

theorem step_reduced {t : Table K n n} (i : Fin n) (s next : Elimination K n)
    (reduced : Reduced t i s) (taken : s.step i = some next) : Reduced t (i + 1) next := by
  have swapped := swap_reduced i (s.left.pivotRow i) (pivot_row_spec s.left i).1 reduced
  unfold step at taken
  by_cases zero : Scalar.isZero ((s.swap i (s.left.pivotRow i)).left.get i i) = true
  · rw [if_pos zero] at taken
    cases taken
  · rw [if_neg zero] at taken
    cases taken
    exact clear_below_reduced i swapped fun vanishes => zero ((Scalar.is_zero_iff _).mpr vanishes)

-- Below a zero pivot the whole column vanishes, and with the cleared columns before it the left side
-- splits into two blocks of which the second has a zero column.
theorem singular_of_stop [IsStrictOrderedRing K] {t : Table K n n} (i : Fin n)
    (s : Elimination K n) (reduced : Reduced t i s) (stopped : s.step i = none) :
    t.matrix.det = 0 := by
  have pivot : s.left.get (s.left.pivotRow i) i = 0 := by
    unfold step at stopped
    by_cases zero : Scalar.isZero ((s.swap i (s.left.pivotRow i)).left.get i i) = true
    · have vanishes := (Scalar.is_zero_iff _).mp zero
      simpa [swap, swapRows] using vanishes
    · rw [if_neg zero] at stopped
      cases stopped
  have column : ∀ r, i ≤ r → s.left.get r i = 0 := by
    intro r below
    have largest := (pivot_row_spec s.left i).2 r below
    rw [pivot, abs_zero] at largest
    exact abs_nonpos_iff.mp largest
  have lowerBlock : (s.left.matrix.toSquareBlockProp fun r => ¬r < i).det = 0 :=
    Matrix.det_eq_zero_of_column_eq_zero ⟨i, lt_irrefl i⟩ fun r => column r.1 (not_lt.mp r.2)
  have left : s.left.matrix.det = 0 := by
    rw [Matrix.twoBlockTriangular_det s.left.matrix (· < i), lowerBlock, mul_zero]
    · intro r notBefore c before
      exact reduced.cleared r c before (lt_of_lt_of_le before (not_lt.mp notBefore))
  have product := congrArg Matrix.det reduced.product
  rw [Matrix.det_mul, left] at product
  exact (mul_eq_zero.mp product).resolve_left reduced.regular

-- The product of the right side and the table while back substitution goes from the last row to the
-- first: the rows from `k` on are those of the identity, the others have lost their columns from `k` on.
structure Substituted (t : Table K n n) (upper : Elimination K n) (k : Nat)
    (s : Elimination K n) : Prop where
  left : s.left = upper.left
  product : ∀ r c : Fin n, (s.right.matrix * t.matrix) r c =
    if r.val < k then (if c.val < k then upper.left.get r c else 0) else if r = c then 1 else 0

theorem substitute_step {t : Table K n n} {upper : Elimination K n} (reduced : Reduced t n upper)
    (i : Fin n) (s : Elimination K n) (substituted : Substituted t upper (i + 1) s) :
    Substituted t upper i (s.substitute i) where
  left := substituted.left
  product r c := by
    have pivot := reduced.pivots i i.isLt
    have row (q : Fin n) : ∑ j, s.right.get q j * t.get j c = _ := substituted.product q c
    have pivotRow : ∑ j, s.right.get i j / upper.left.get i i * t.get j c =
        if i = c then 1 else 0 := by
      have cut := row i
      rw [if_pos (Nat.lt_succ_self _)] at cut
      simp only [div_mul_eq_mul_div, ← Finset.sum_div, cut]
      rcases lt_trichotomy c i with before | same | after
      · rw [if_pos (Nat.lt_succ_of_lt before), reduced.cleared i c c.isLt before, zero_div,
          if_neg before.ne']
      · subst same
        rw [if_pos (Nat.lt_succ_self _), div_self pivot, if_pos rfl]
      · rw [if_neg (not_lt.mpr (Nat.succ_le_of_lt after)), zero_div, if_neg after.ne]
    simp only [Matrix.mul_apply, matrix_apply, substitute, Table.get_ofFn, substituted.left]
    rcases lt_trichotomy r i with above | same | below
    · have cut := row r
      rw [if_pos (Nat.lt_succ_of_lt above)] at cut
      simp only [if_neg above.ne, if_pos above, if_pos (Fin.lt_def.mp above), add_mul, neg_mul,
        mul_right_comm _ (upper.left.get r i), Finset.sum_add_distrib, Finset.sum_neg_distrib,
        ← Finset.sum_mul, pivotRow, cut]
      rcases lt_trichotomy c i with before | same | after
      · rw [if_neg before.ne', if_pos (Nat.lt_succ_of_lt before), if_pos (Fin.lt_def.mp before)]
        ring
      · subst same
        rw [if_pos rfl, if_pos (Nat.lt_succ_self _), if_neg (lt_irrefl _)]
        ring
      · rw [if_neg after.ne, if_neg (not_lt.mpr (Nat.succ_le_of_lt after)),
          if_neg (Fin.lt_def.mp after).not_gt]
        ring
    · subst same
      simp only [if_pos, pivotRow, if_neg (lt_irrefl _)]
    · have kept := row r
      rw [if_neg (not_lt.mpr (Nat.succ_le_of_lt below))] at kept
      simp only [if_neg below.ne', if_neg below.not_gt, if_neg (Fin.lt_def.mp below).not_gt, kept]

end field

end Elimination

section inverse

variable {K : Type} [Field K] [LinearOrder K] [IsStrictOrderedRing K]

theorem eliminate_spec (t : Table K n n) :
    match t.eliminate with
    | some s => Elimination.Reduced t n s
    | none => t.matrix.det = 0 := by
  have ends := foldlM_places Elimination.step (Elimination.Reduced t)
    (fun i s next reduced taken => Elimination.step_reduced i s next reduced taken)
    (Elimination.start t) (Elimination.start_reduced t)
  unfold eliminate
  cases eliminated : (List.finRange n).foldlM Elimination.step (Elimination.start t) with
  | some s =>
      rw [eliminated] at ends
      exact ends
  | none =>
      rw [eliminated] at ends
      obtain ⟨i, s, reduced, stopped⟩ := ends
      exact Elimination.singular_of_stop i s reduced stopped

theorem inverse_mul (t inverse : Table K n n) (found : t.inverse? = some inverse) :
    inverse.matrix * t.matrix = 1 := by
  have spec := t.eliminate_spec
  unfold inverse? at found
  cases eliminated : t.eliminate with
  | none =>
      rw [eliminated] at found
      cases found
  | some upper =>
      rw [eliminated] at found spec
      cases found
      have solved := foldr_places (fun i s => s.substitute i) (Elimination.Substituted t upper)
        (fun i s => Elimination.substitute_step spec i s) upper
        ⟨rfl, fun r c => by rw [spec.product, if_pos r.isLt, if_pos c.isLt, matrix_apply]⟩
      ext r c
      rw [solved.product, if_neg (Nat.not_lt_zero _), Matrix.one_apply]

theorem det_eq_zero_of_no_inverse (t : Table K n n) (failed : t.inverse? = none) :
    t.matrix.det = 0 := by
  have spec := t.eliminate_spec
  rw [inverse?, Option.map_eq_none_iff] at failed
  rw [failed] at spec
  exact spec

theorem inverse_eq_some_iff (t inverse : Table K n n) :
    t.inverse? = some inverse ↔ inverse.matrix * t.matrix = 1 := by
  constructor
  · exact t.inverse_mul inverse
  · intro product
    cases found : t.inverse? with
    | none =>
        have singular := t.det_eq_zero_of_no_inverse found
        have unit := congrArg Matrix.det product
        rw [Matrix.det_mul, singular, mul_zero, Matrix.det_one] at unit
        exact absurd unit zero_ne_one
    | some other =>
        have both := mul_eq_one_comm.mp (t.inverse_mul other found)
        have same : other.matrix = inverse.matrix := (left_inv_eq_right_inv product both).symm
        rw [matrix_injective same]

end inverse

end Table

end EconomicImpact
