import Mathlib
import EconomicImpact.Proofs.Leontief.Accounting
import EconomicImpact.Proofs.Reordering.Vector

set_option autoImplicit false

namespace EconomicImpact

variable {α : Type}

namespace Economy

def snapshot (e : Economy α) : Snapshot α :=
  ⟨e.sectors.toList, e.flows.toLists, e.output.toList, e.baseYear, e.denomination⟩

def reordered (e : Economy α) (σ : Equiv.Perm (Fin e.size)) : Economy α :=
  { e with
    sectors := Vector.ofFn fun i => e.sectors.get (σ i)
    flows := Table.ofFn fun i j => e.flows.get (σ i) (σ j)
    output := Vector.ofFn fun i => e.output.get (σ i) }

structure SameModel (e f : Economy α) where
  order : Reordering e.sectors f.sectors
  flows : ∀ i j, f.flows.get i j = e.flows.get (order.place i) (order.place j)
  output : order.Carries e.output f.output

def same_model (e : Economy α) (distinct : Function.Injective e.sectors.get)
    (σ : Equiv.Perm (Fin e.size)) : SameModel e (e.reordered σ) where
  order := ⟨σ, fun j => Vector.get_ofFn _ j, distinct⟩
  flows i j := Table.get_ofFn _ i j
  output j := Vector.get_ofFn _ j

end Economy

theorem Economy.Accepted.sectors_injective [Scalar α] [SpectralRoutine α] {s : Snapshot α}
    {e : Economy α} (accepted : Economy.Accepted s e) : Function.Injective e.sectors.get := by
  have distinct := (first_repeat_none_iff _).mp accepted.distinct
  rw [← accepted.sectors, to_list_eq_of_fn, List.nodup_ofFn] at distinct
  exact distinct

theorem Table.to_lists_of_lists [Zero α] {m n : Nat} (rows : List (List α))
    (height : rows.length = m) (width : ∀ row ∈ rows, row.length = n) :
    (Table.ofLists m n rows).toLists = rows := by
  refine List.ext_getElem (by simp [toLists, height]) fun i inside present => ?_
  have count : (rows.getD i []).length = n := by
    rw [List.getD_eq_getElem _ _ present]
    exact width _ (List.getElem_mem present)
  simp only [toLists, List.getElem_ofFn, row, ofLists, get_ofFn]
  rw [List.getD_eq_getElem _ _ present] at count ⊢
  refine List.ext_getElem (by simp [count]) fun j _ there => ?_
  simp [there]

theorem Table.of_lists_to_lists [Zero α] {m n : Nat} (t : Table α m n) :
    Table.ofLists m n t.toLists = t := by
  refine ext_get fun i j => ?_
  simp [ofLists, toLists, row]

namespace Economy

variable [Scalar α] [SpectralRoutine α]

theorem eq_snapshot (s : Snapshot α) (e : Economy α) (accepted : ofSnapshot s = .ok e) :
    s = e.snapshot := by
  obtain ⟨checked, rfl, -⟩ := checked_of_snapshot s e accepted
  have flows := Table.to_lists_of_lists s.flows checked.rows checked.columns
  obtain ⟨codes, given, output, year, denomination⟩ := s
  exact congrArg (Snapshot.mk codes · output year denomination) flows.symm

omit [SpectralRoutine α] in
theorem economy_of_snapshot (e : Economy α) (codes : e.snapshot.sectorCodes.length = _) :
    e.snapshot.economy codes = e := by
  obtain ⟨size, sectors, flows, ⟨⟨output⟩, rfl⟩, year, denomination⟩ := e
  have table := Table.of_lists_to_lists flows
  exact congrArg (Economy.mk _ sectors · _ year denomination) table

omit [SpectralRoutine α] in
theorem snapshot_checked (e : Economy α) (some : e.size ≠ 0)
    (distinct : Function.Injective e.sectors.get)
    (usableFlows : ∀ i j, unusableFlow (e.flows.get i j) = false)
    (usable : ∀ j, unusableOutput (e.output.get j) = false) : e.snapshot.Checked where
  nonempty := by simpa [snapshot] using some
  codes := by simp [snapshot]
  rows := by simp [snapshot, Table.toLists]
  columns row member := by
    obtain ⟨i, rfl⟩ := List.mem_ofFn.mp member
    simp [snapshot, Table.row]
  distinct := by
    rw [first_repeat_none_iff, snapshot, to_list_eq_of_fn, List.nodup_ofFn]
    exact distinct
  flows := by
    refine List.any_eq_false.mpr fun row member => ?_
    obtain ⟨i, rfl⟩ := List.mem_ofFn.mp member
    refine ne_true_of_eq_false (List.any_eq_false.mpr fun v listed => ?_)
    obtain ⟨j, rfl⟩ := List.mem_ofFn.mp listed
    exact ne_true_of_eq_false (usableFlows i j)
  output := by
    refine List.find?_eq_none.mpr fun entry member => ?_
    exact ne_true_of_eq_false ((forall_mem_to_list_iff (unusableOutput · = false) e.output).mpr
      usable entry.2 (List.of_mem_zip member).2)

theorem reordered_snapshot (s : Snapshot α) (e : Economy α) (accepted : ofSnapshot s = .ok e)
    (σ : Equiv.Perm (Fin e.size)) :
    ofSnapshot (e.reordered σ).snapshot =
      if (e.reordered σ).isProductive then .ok (e.reordered σ)
      else .error (.singularSystem (.unproductive (e.reordered σ).spectralRadius)) := by
  have checks := of_snapshot_accepted s e accepted
  have same := e.same_model checks.sectors_injective σ
  have some : e.size ≠ 0 := by
    obtain ⟨checked, rfl, -⟩ := checked_of_snapshot s e accepted
    exact checked.nonempty
  have checked : (e.reordered σ).snapshot.Checked := by
    refine snapshot_checked _ some same.order.other_distinct (fun i j => ?_) fun j => ?_
    · rw [same.flows]
      exact checks.usableFlows _ _
    · rw [same.output]
      exact checks.usable _
  rw [of_snapshot_checked _ checked, economy_of_snapshot]

end Economy

section tables

variable {K : Type} [Field K] [LinearOrder K] {n m : Nat} {order : Vector String n}
  {other : Vector String m} (r : Reordering order other)

theorem column_norm_submatrix (σ : Fin m ≃ Fin n) (a : Matrix (Fin n) (Fin n) K) :
    columnNorm (a.submatrix σ σ) = columnNorm a := by
  have sums (j : Fin m) : ∑ i, |a.submatrix σ σ i j| = ∑ i, |a i (σ j)| :=
    Equiv.sum_comp σ fun i => |a i (σ j)|
  refine eq_of_forall_ge_iff fun bound => ?_
  simp only [columnNorm, Finset.fold_max_le, sums, Finset.mem_univ, true_implies]
  exact and_congr_right fun _ =>
    (σ.surjective.forall (p := fun j => ∑ i, |a i j| ≤ bound)).symm

def SpectralRoutine.OrderFree (K : Type) [Field K] [LinearOrder K] [SpectralRoutine K] : Prop :=
  ∀ {m n : Nat} (s : Table K n n) (t : Table K m m) (place : Fin m ≃ Fin n),
    t.matrix = s.matrix.submatrix place place →
      (SpectralRoutine.radius t : K) = SpectralRoutine.radius s

theorem rational_radius_order_free : SpectralRoutine.OrderFree ℚ := by
  intro m n s t place tables
  change t.oneNorm = s.oneNorm
  rw [Table.one_norm_eq, Table.one_norm_eq, tables, column_norm_submatrix]

noncomputable instance : SpectralRoutine ℝ where
  radius t := (spectralRadius ℂ (t.matrix.map Complex.ofReal)).toReal

theorem real_radius_order_free : SpectralRoutine.OrderFree ℝ := by
  intro m n s t place tables
  have renamed : t.matrix.map Complex.ofReal =
      Matrix.reindexAlgEquiv ℂ ℂ place.symm (s.matrix.map Complex.ofReal) := by
    rw [tables]
    rfl
  change (spectralRadius ℂ _).toReal = (spectralRadius ℂ _).toReal
  rw [renamed, spectralRadius, AlgEquiv.spectrum_eq]
  rfl

theorem apply_carries {s : Table K n n} {t : Table K m m}
    (tables : t.matrix = s.matrix.submatrix r.place r.place) {v : Vector K n} {w : Vector K m}
    (carries : r.Carries v w) : r.Carries (s.apply v) (t.apply w) := by
  intro j
  rw [Table.apply_get, Table.apply_get, tables]
  simp only [Matrix.mulVec, dotProduct, Matrix.submatrix_apply, carries _]
  exact Equiv.sum_comp r.place fun i => s.matrix (r.place j) i * v.get i

theorem column_sums_carry {s : Table K n n} {t : Table K m m}
    (tables : t.matrix = s.matrix.submatrix r.place r.place) :
    r.Carries (Vector.ofFn s.columnSum) (Vector.ofFn t.columnSum) := by
  intro j
  rw [Vector.get_ofFn, Vector.get_ofFn, Table.column_sum_eq, Table.column_sum_eq]
  simp only [← Table.matrix_apply, tables, Matrix.submatrix_apply]
  exact Equiv.sum_comp r.place fun i => s.matrix i (r.place j)

variable [IsStrictOrderedRing K]

theorem leontief_inverse_reordered {a : Table K n n} {b : Table K m m}
    (tables : b.matrix = a.matrix.submatrix r.place r.place) (limit : K) :
    Outcome.Matched
      (fun s t => leontiefInverse a limit = .ok s ∧ leontiefInverse b limit = .ok t ∧
        t.matrix = s.matrix.submatrix r.place r.place)
      (leontiefInverse a limit) (leontiefInverse b limit) := by
  have system : 1 - b.matrix = (1 - a.matrix).submatrix r.place r.place := by
    rw [tables, Matrix.submatrix_sub, Pi.sub_apply, Pi.sub_apply, Matrix.submatrix_one_equiv]
  have exist : (∃ t, leontiefInverse b limit = .ok t) ↔ ∃ s, leontiefInverse a limit = .ok s := by
    rw [leontief_inverse_exists_iff, leontief_inverse_exists_iff, system,
      Matrix.det_submatrix_equiv_self, Matrix.inv_submatrix_equiv, column_norm_submatrix,
      column_norm_submatrix]
  cases first : leontiefInverse a limit with
  | error fault =>
      cases second : leontiefInverse b limit with
      | error other => exact .error _ _
      | ok t =>
          obtain ⟨s, found⟩ := exist.mp ⟨t, second⟩
          rw [first] at found
          cases found
  | ok s =>
      obtain ⟨t, second⟩ := exist.mpr ⟨s, first⟩
      rw [second]
      obtain ⟨-, leftS⟩ := leontief_inverse_two_sided first
      obtain ⟨-, leftT⟩ := leontief_inverse_two_sided second
      refine .ok ⟨rfl, rfl, ?_⟩
      rw [← Matrix.inv_eq_left_inv leftT, ← Matrix.inv_eq_left_inv leftS, system,
        Matrix.inv_submatrix_equiv]

end tables

structure Impact.Alike (x y : Impact α) : Prop where
  deltaX : x.deltaX.Alike y.deltaX
  direct : x.direct.Alike y.direct
  indirect : x.indirect.Alike y.indirect

namespace Economy.SameModel

variable {K : Type} [Field K] [LinearOrder K] {e f : Economy K} (s : SameModel e f)

include s

theorem coefficients_eq :
    f.coefficients.matrix = e.coefficients.matrix.submatrix s.order.place s.order.place := by
  ext i j
  simp only [Table.matrix_apply, Matrix.submatrix_apply, coefficients, technicalCoefficients,
    Table.get_ofFn, s.flows, s.output _]

theorem max_column_sum_eq : f.maxColumnSum = e.maxColumnSum := by
  have sums := column_sums_carry s.order s.coefficients_eq
  simp only [Reordering.Carries, Vector.get_ofFn] at sums
  refine eq_of_forall_ge_iff fun bound => ?_
  simp only [maxColumnSum, Scalar.greatest_le_iff, List.mem_ofFn, forall_exists_index,
    forall_apply_eq_imp_iff, sums]
  exact and_congr_right fun _ =>
    (s.order.place.surjective.forall (p := fun j => e.coefficients.columnSum j ≤ bound)).symm

theorem is_productive_eq [SpectralRoutine K] (free : SpectralRoutine.OrderFree K) :
    f.isProductive = e.isProductive := by
  rw [isProductive, isProductive, s.max_column_sum_eq, spectralRadius, spectralRadius,
    free _ _ s.order.place s.coefficients_eq]

variable [IsStrictOrderedRing K] (version other : ModelVersion) (limit : K)

theorem solve_shock_alike {v w : SectorVector K} (alike : v.Alike w) :
    Outcome.Matched Impact.Alike
      (RegisteredModel.solveShock ⟨version, e⟩ limit (.keyed v)).alone
      (RegisteredModel.solveShock ⟨other, f⟩ limit (.keyed w)).alone := by
  have resolved {n : Nat} (x : SectorVector K) (order : Vector String n) :
      (Shock.keyed x).resolve order = x.alignSparse order := by
    have finite (values : Vector K n) :
        (values.toList.any fun a => !Scalar.isFinite a) = false :=
      List.any_eq_false.mpr fun a _ => by simp
    simp only [Shock.resolve, Shock.align, finite, Bool.false_eq_true, if_false]
    generalize x.alignSparse order = aligned
    cases aligned <;> rfl
  rw [RegisteredModel.solve_shock_alone, RegisteredModel.solve_shock_alone, resolved, resolved]
  refine (alike.align_sparse s.order).bind fun x y carries => ?_
  dsimp only [RegisteredModel.ownInverse]
  rw [Outcome.bind_map, Outcome.bind_map]
  refine (leontief_inverse_reordered s.order s.coefficients_eq limit).bind
    fun a b ⟨found, foundOther, tables⟩ => ?_
  rw [impact_of_inverse found, impact_of_inverse foundOther]
  have deltaX := apply_carries s.order tables carries
  exact .ok ⟨SectorVector.of_aligned_alike s.order deltaX, SectorVector.of_aligned_alike s.order carries,
    SectorVector.of_aligned_alike s.order (apply_carries s.order s.coefficients_eq deltaX)⟩

theorem output_multipliers_alike :
    Outcome.Matched SectorVector.Alike
      (RegisteredModel.outputMultipliers ⟨version, e⟩ limit).alone
      (RegisteredModel.outputMultipliers ⟨other, f⟩ limit).alone := by
  rw [RegisteredModel.output_multipliers_alone, RegisteredModel.output_multipliers_alone]
  dsimp only [RegisteredModel.ownInverse]
  rw [Outcome.bind_map, Outcome.bind_map]
  refine (leontief_inverse_reordered s.order s.coefficients_eq limit).bind
    fun a b ⟨_, _, tables⟩ => ?_
  have columns := SectorVector.of_aligned_alike s.order (column_sums_carry s.order tables)
  simp only [SectorVector.ofAligned, Vector.toList_ofFn] at columns
  exact .ok columns

end Economy.SameModel

end EconomicImpact
