import Mathlib
import EconomicImpact.Proofs.Alignment
import EconomicImpact.Proofs.Leontief.Inverse

set_option autoImplicit false

namespace EconomicImpact

variable {K : Type} [Field K] [LinearOrder K] {n : Nat}

theorem SectorVector.total_of_aligned (codes : Vector String n) (v : Vector K n) :
    (ofAligned codes v).total = ∑ i, v.get i := by
  rw [total, values_of_aligned, Scalar.total_eq_sum, to_list_eq_of_fn, List.sum_ofFn]

theorem Table.weighted_total (t : Table K n n) (weights : Fin n → K) (v : Vector K n) :
    ∑ i, weights i * (t.apply v).get i = ∑ j, (∑ i, weights i * t.get i j) * v.get j := by
  simp only [Table.apply_get]
  exact Matrix.dotProduct_mulVec weights t.matrix v.get

namespace SquareTable

variable (inverse : Table K n n) (codes : Vector String n)

theorem output_multipliers_eq :
    (SquareTable.mk n inverse).outputMultipliers codes.toList =
      .ofAligned codes (Vector.ofFn fun j => ∑ i, inverse.get i j) := by
  simp only [outputMultipliers, Table.column_sum_eq, SectorVector.ofAligned, Vector.toList_ofFn]

theorem employment_multipliers_eq (jobs : Vector K n) :
    (SquareTable.mk n inverse).employmentMultipliers codes.toList jobs.toList =
      .ok (.ofAligned codes (Vector.ofFn fun j => ∑ i, jobs.get i * inverse.get i j)) := by
  have length : jobs.toList.length = n := by simp
  have products (j : Fin n) : (inverse.column j).zipWith (· * ·) jobs.toList =
      List.ofFn fun i => jobs.get i * inverse.get i j := by
    rw [Table.column, to_list_eq_of_fn]
    refine List.ext_getElem (by simp) fun i inZip inList => ?_
    simp [mul_comm]
  unfold employmentMultipliers
  rw [if_pos length]
  simp only [products, Scalar.total_eq_sum, List.sum_ofFn, SectorVector.ofAligned,
    Vector.toList_ofFn]

end SquareTable

theorem Coefficients.accounts_employment {c : Coefficients K} {deltaX : SectorVector K}
    (covers : c.Covers deltaX.codes.toList) (distinct : deltaX.codes.toList.Nodup) :
    ∃ accounts, c.accounts deltaX = .ok accounts ∧
      accounts.totals.employment =
        (deltaX.entries.map fun entry => (c.jobs.get? entry.1).getD 0 * entry.2).sum := by
  obtain ⟨aligned, found, rates⟩ := covers.align distinct
  have rate (k : Fin deltaX.size) :
      (c.jobs.get? (deltaX.entries.get k).1).getD 0 = aligned.jobs.get k := by
    have sanitized := rates k
    rw [SectorVector.codes_get] at sanitized
    obtain ⟨value, listed, same⟩ := Option.map_eq_some_iff.mp sanitized
    rw [listed, ← same]
    rfl
  have products : (deltaX.values.zipWith (· * ·) aligned.jobs).toList =
      deltaX.entries.map fun entry => (c.jobs.get? entry.1).getD 0 * entry.2 := by
    rw [to_list_eq_of_fn, ← List.ofFn_get (l := deltaX.entries), List.map_ofFn]
    refine congrArg List.ofFn (funext fun k => ?_)
    change _ = (c.jobs.get? (deltaX.entries.get k).1).getD 0 * (deltaX.entries.get k).2
    rw [rate, ← SectorVector.values_get, mul_comm]
    simp [Vector.get_eq_getElem]
  unfold accounts
  rw [found]
  refine ⟨_, rfl, ?_⟩
  rw [← products]
  exact Scalar.total_eq_sum _

theorem totals_through_multipliers (inverse : Table K n n) (codes : Vector String n)
    (distinct : codes.toList.Nodup) (shock jobs : Vector K n) (c : Coefficients K)
    (covers : c.Covers codes.toList) (rates : ∀ i, c.jobs.get? (codes.get i) = some (jobs.get i)) :
    ∃ impact accounts, ∃ deltaX output employment : Vector K n,
      (SquareTable.mk n inverse).impact codes.toList shock.toList = .ok impact ∧
      impact.deltaX = .ofAligned codes deltaX ∧
      (∀ i, deltaX.get i = ∑ j, inverse.get i j * shock.get j) ∧
      (SquareTable.mk n inverse).outputMultipliers codes.toList = .ofAligned codes output ∧
      (∀ j, output.get j = ∑ i, inverse.get i j) ∧
      (SquareTable.mk n inverse).employmentMultipliers codes.toList jobs.toList =
        .ok (.ofAligned codes employment) ∧
      (∀ j, employment.get j = ∑ i, jobs.get i * inverse.get i j) ∧
      c.accounts impact.deltaX = .ok accounts ∧
      impact.deltaX.total = ∑ j, output.get j * shock.get j ∧
      accounts.totals.employment = ∑ j, employment.get j * shock.get j := by
  have sameCodes : (SectorVector.ofAligned codes (inverse.apply shock)).codes.toList =
      codes.toList := SectorVector.codes_of_aligned codes _
  obtain ⟨accounts, accounted, employed⟩ :=
    Coefficients.accounts_employment (sameCodes ▸ covers) (sameCodes ▸ distinct)
  refine ⟨_, accounts, inverse.apply shock, _, _, SquareTable.impact_eq inverse codes shock, rfl,
    fun i => ?_, SquareTable.output_multipliers_eq inverse codes, fun j => Vector.get_ofFn _ j,
    SquareTable.employment_multipliers_eq inverse codes jobs, fun j => Vector.get_ofFn _ j,
    accounted, ?_, ?_⟩
  · exact inverse.apply_get shock i
  · simpa [SectorVector.total_of_aligned, Vector.get_ofFn] using
      inverse.weighted_total (fun _ => 1) shock
  · rw [employed, SectorVector.entries_of_aligned, List.map_ofFn, List.sum_ofFn]
    simpa [rates, Vector.get_ofFn] using inverse.weighted_total jobs.get shock

def lopsidedInverse : Table ℚ 2 2 := ⟨#v[#v[3/2, 1/4], #v[2, 5/4]]⟩

def reversedJobs : Coefficients ℚ where
  versionId := .nil
  jobs := ⟨[("B", 7), ("A", 3)]⟩
  imports := ⟨[("A", 1/10), ("B", 1/5)]⟩
  valueAdded := ⟨[("B", 1/2), ("A", 1/4)]⟩

theorem lopsided_totals_through_multipliers :
    (#v["A", "B"] : Vector String 2).toList.Nodup ∧ reversedJobs.Covers ["A", "B"] ∧
      ∃ impact accounts,
        (SquareTable.mk 2 lopsidedInverse).impact ["A", "B"] [10, 20] = .ok impact ∧
        reversedJobs.accounts impact.deltaX = .ok accounts ∧
        impact.deltaX.total = 65 ∧ accounts.totals.employment = 375 := by
  have distinct : (#v["A", "B"] : Vector String 2).toList.Nodup := by decide
  have covers : reversedJobs.Covers (#v["A", "B"] : Vector String 2).toList := by decide
  have rates : ∀ i, reversedJobs.jobs.get? ((#v["A", "B"] : Vector String 2).get i) =
      some ((#v[3, 7] : Vector ℚ 2).get i) := Fin.forall_fin_two.mpr ⟨rfl, rfl⟩
  obtain ⟨impact, accounts, deltaX, output, employment, solved, -, -, -, perOutput, -, perJob,
    accounted, total, jobs⟩ := totals_through_multipliers lopsidedInverse #v["A", "B"] distinct
      #v[10, 20] #v[3, 7] reversedJobs covers rates
  refine ⟨distinct, covers, impact, accounts, solved, accounted, ?_, ?_⟩
  · rw [total]
    simp only [perOutput, Fin.sum_univ_two]
    decide +kernel
  · rw [jobs]
    simp only [perJob, Fin.sum_univ_two]
    decide +kernel

end EconomicImpact
