import Mathlib
import EconomicImpact.Economy.Model
import EconomicImpact.Proofs.SectorVector
import EconomicImpact.Proofs.Table.Matrix

set_option autoImplicit false

namespace EconomicImpact

instance : BitImage ℚ := ⟨fun q => (Float.ofInt q.num / Float.ofNat q.den).toBits⟩

-- The radius of a rational table need not be rational; the norm bounds it from above.
instance : SpectralRoutine ℚ := ⟨Table.oneNorm⟩

namespace Snapshot

variable {α : Type} [Scalar α]

structure Checked (s : Snapshot α) : Prop where
  nonempty : s.output.length ≠ 0
  codes : s.sectorCodes.length = s.output.length
  rows : s.flows.length = s.output.length
  columns : ∀ row ∈ s.flows, row.length = s.output.length
  distinct : firstRepeat? s.sectorCodes = none
  flows : s.flows.any (·.any Economy.unusableFlow) = false
  output : (s.sectorCodes.zip s.output).find? (fun (_, v) => Economy.unusableOutput v) = none

omit [Scalar α] in
theorem size_of_codes (s : Snapshot α) (codes : s.sectorCodes.length = s.output.length) :
    s.sectorCodes.toArray.size = s.output.length := List.size_toArray.trans codes

omit [Scalar α] in
theorem size_of_output (s : Snapshot α) : s.output.toArray.size = s.output.length :=
  List.size_toArray

def economy (s : Snapshot α) (codes : s.sectorCodes.length = s.output.length) : Economy α where
  size := s.output.length
  sectors := ⟨s.sectorCodes.toArray, s.size_of_codes codes⟩
  flows := Table.ofLists _ _ s.flows
  output := ⟨s.output.toArray, s.size_of_output⟩
  baseYear := s.baseYear
  denomination := s.denomination

end Snapshot

namespace Economy

section snapshot

variable {α : Type} [Scalar α] [SpectralRoutine α]

structure Accepted (s : Snapshot α) (e : Economy α) : Prop where
  sectors : e.sectors.toList = s.sectorCodes
  output : e.output.toList = s.output
  distinct : firstRepeat? s.sectorCodes = none
  usableFlows : ∀ i j, unusableFlow (e.flows.get i j) = false
  usable : ∀ j, unusableOutput (e.output.get j) = false
  productive : e.isProductive = true

theorem of_snapshot_checked (s : Snapshot α) (checked : s.Checked) :
    ofSnapshot s =
      if (s.economy checked.codes).isProductive then .ok (s.economy checked.codes)
      else .error (.singularSystem (.unproductive (s.economy checked.codes).spectralRadius)) := by
  have square : s.flows.find? (·.length ≠ s.output.length) = none :=
    List.find?_eq_none.mpr fun row member => by simpa using checked.columns row member
  unfold ofSnapshot
  dsimp only
  rw [if_neg checked.nonempty, dif_pos checked.codes, if_neg (not_not.mpr checked.rows), square,
    checked.distinct, checked.output]
  simp only [checked.flows]
  rfl

theorem checked_of_snapshot (s : Snapshot α) (e : Economy α) (accepted : ofSnapshot s = .ok e) :
    ∃ checked : s.Checked, e = s.economy checked.codes ∧ e.isProductive = true := by
  unfold ofSnapshot at accepted
  by_cases empty : s.output.length = 0
  · simp only [if_pos empty] at accepted
    cases accepted
  by_cases codes : s.sectorCodes.length = s.output.length
  · by_cases rows : s.flows.length ≠ s.output.length
    · simp only [if_neg empty, dif_pos codes, if_pos rows] at accepted
      cases accepted
    simp only [if_neg empty, dif_pos codes, if_neg rows] at accepted
    split at accepted
    · cases accepted
    rename_i square
    split at accepted
    · cases accepted
    rename_i distinct
    split at accepted
    · cases accepted
    rename_i flows
    split at accepted
    · cases accepted
    rename_i output
    split at accepted
    · rename_i productive
      cases accepted
      have columns : ∀ row ∈ s.flows, row.length = s.output.length := by
        intro row member
        simpa using List.find?_eq_none.mp square row member
      exact ⟨⟨empty, codes, not_not.mp rows, columns, distinct, eq_false_of_ne_true flows, output⟩,
        rfl, productive⟩
    · cases accepted
  · simp only [if_neg empty, dif_neg codes] at accepted
    cases accepted

theorem of_snapshot_accepted (s : Snapshot α) (e : Economy α) (accepted : ofSnapshot s = .ok e) :
    Accepted s e := by
  obtain ⟨checked, rfl, productive⟩ := checked_of_snapshot s e accepted
  refine ⟨rfl, rfl, checked.distinct, fun i j => ?_, fun j => ?_, productive⟩
  · obtain ⟨row, member, entry⟩ := Table.of_lists_mem s.flows checked.rows checked.columns i j
    have usable := List.any_eq_false.mp checked.flows row member
    exact eq_false_of_ne_true (List.any_eq_false.mp (eq_false_of_ne_true usable) _ entry)
  · have inside : j.val < (s.sectorCodes.zip s.output).length := by
      have bound : j.val < s.output.length := j.isLt
      have same := checked.codes
      rw [List.length_zip]
      omega
    have member := List.getElem_mem inside
    rw [List.getElem_zip] at member
    exact eq_false_of_ne_true (List.find?_eq_none.mp checked.output _ member)

end snapshot

variable {K : Type} [Field K] [LinearOrder K]

theorem Accepted.output_pos [SpectralRoutine K] {s : Snapshot K} {e : Economy K}
    (accepted : Accepted s e) (j : Fin e.size) : 0 < e.output.get j := by
  have usable := accepted.usable j
  simpa [unusableOutput] using usable

theorem Accepted.flows_nonneg [SpectralRoutine K] {s : Snapshot K} {e : Economy K}
    (accepted : Accepted s e) (i j : Fin e.size) : 0 ≤ e.flows.get i j := by
  have usable := accepted.usableFlows i j
  simpa [unusableFlow] using usable

theorem Accepted.coefficients_nonneg [IsStrictOrderedRing K] [SpectralRoutine K] {s : Snapshot K}
    {e : Economy K} (accepted : Accepted s e) (i j : Fin e.size) : 0 ≤ e.coefficients.get i j := by
  rw [coefficients, technicalCoefficients, Table.get_ofFn]
  exact ite_nonneg le_rfl (div_nonneg (accepted.flows_nonneg i j) (accepted.output_pos j).le)

theorem column_sum_le_max (e : Economy K) (j : Fin e.size) :
    ∑ i, e.coefficients.get i j ≤ e.maxColumnSum := by
  have greatest := (Scalar.greatest_le_iff _ _).mp (le_refl e.maxColumnSum)
  rw [← Table.column_sum_eq]
  exact greatest.2 _ (List.mem_ofFn.mpr ⟨j, rfl⟩)

theorem max_column_sum_nonneg (e : Economy K) : 0 ≤ e.maxColumnSum :=
  ((Scalar.greatest_le_iff _ _).mp (le_refl e.maxColumnSum)).1

def finalDemand {α : Type} [Scalar α] (e : Economy α) : Vector α e.size :=
  Vector.ofFn fun i => e.output.get i - e.flows.rowSum i

theorem base_output_balanced (e : Economy K) (positive : ∀ j, 0 < e.output.get j) :
    e.output.get = e.coefficients.matrix.mulVec e.output.get + e.finalDemand.get := by
  funext i
  have delivered (j : Fin e.size) :
      e.coefficients.get i j * e.output.get j = e.flows.get i j := by
    have nonzero := (positive j).ne'
    have counted : ¬Scalar.isZero (e.output.get j) = true := by rwa [Scalar.is_zero_iff]
    rw [coefficients, technicalCoefficients, Table.get_ofFn, if_neg counted,
      div_mul_cancel₀ _ nonzero]
  simp only [Pi.add_apply, Matrix.mulVec, dotProduct, Table.matrix_apply, delivered, finalDemand,
    Vector.get_ofFn, Table.row_sum_eq]
  ring

end Economy

end EconomicImpact
