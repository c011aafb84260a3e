import Mathlib
import EconomicImpact.Proofs.Run.Stages
import EconomicImpact.Proofs.Shock.Scaling

set_option autoImplicit false

namespace EconomicImpact

variable {K : Type} [Field K] [LinearOrder K] {n : Nat}

def SatelliteTotals.scaled (totals : SatelliteTotals K) (factor : K) : SatelliteTotals K where
  employment := totals.employment * factor
  importLeakage := totals.importLeakage * factor
  domesticOutput := totals.domesticOutput * factor
  valueAdded := totals.valueAdded * factor

def SatelliteAccounts.scaled (accounts : SatelliteAccounts K) (factor : K) :
    SatelliteAccounts K where
  employment := accounts.employment.scale factor
  importLeakage := accounts.importLeakage.scale factor
  domesticOutput := accounts.domesticOutput.scale factor
  valueAdded := accounts.valueAdded.scale factor
  totals := accounts.totals.scaled factor
  coefficientsVersionId := accounts.coefficientsVersionId
  findings := accounts.findings

namespace Coefficients

def accountsOf {α : Type} [Scalar α] (c : Coefficients α) (order : Vector String n)
    (values : Vector α n) (aligned : AlignedCoefficients α n) : SatelliteAccounts α :=
  let employment := values.zipWith (· * ·) aligned.jobs
  let imports := values.zipWith (· * ·) aligned.imports
  let valueAdded := values.zipWith (· * ·) aligned.valueAdded
  let domestic := values.zipWith (· - ·) imports
  { employment := .ofAligned order employment
    importLeakage := .ofAligned order imports
    domesticOutput := .ofAligned order domestic
    valueAdded := .ofAligned order valueAdded
    totals := {
      employment := Scalar.total employment.toList
      importLeakage := Scalar.total imports.toList
      domesticOutput := Scalar.total domestic.toList
      valueAdded := Scalar.total valueAdded.toList }
    coefficientsVersionId := c.versionId
    findings := aligned.findings }

theorem accounts_of_aligned {α : Type} [Scalar α] (c : Coefficients α) (order : Vector String n)
    (values : Vector α n) :
    c.accounts (.ofAligned order values) = (c.align order).map (c.accountsOf order values) := by
  generalize same : SectorVector.ofAligned order values = deltaX
  have entries : deltaX.entries = order.toList.zip values.toList :=
    congrArg SectorVector.entries same.symm
  have size : n = deltaX.size := by simp [SectorVector.size, entries]
  subst size
  have codes : deltaX.codes = order :=
    Vector.toList_inj.mp (by simp [SectorVector.codes, entries, List.map_fst_zip])
  have numbers : deltaX.values = values :=
    Vector.toList_inj.mp (by simp [SectorVector.values, entries, List.map_snd_zip])
  rw [← codes, ← numbers]
  rfl

theorem accounts_of_scaled (c : Coefficients K) (order : Vector String n) (values : Vector K n)
    (aligned : AlignedCoefficients K n) (factor : K) :
    c.accountsOf order (values.map (· * factor)) aligned =
      (c.accountsOf order values aligned).scaled factor := by
  have product (ratios : Vector K n) : (values.map (· * factor)).zipWith (· * ·) ratios =
      (values.zipWith (· * ·) ratios).map (· * factor) :=
    Vector.ext fun i inside => by
      simp only [Vector.getElem_zipWith, Vector.getElem_map, mul_right_comm]
  have difference := zip_with_scaled (n := n) (· - ·) factor fun a b => (sub_mul a b factor).symm
  simp only [accountsOf, product, difference, SectorVector.ofAligned, SectorVector.of_zip_scaled,
    Vector.toList_map, Scalar.total_scaled]
  rfl

theorem accounts_scaled (c : Coefficients K) (deltaX : SectorVector K) (factor : K) :
    c.accounts (deltaX.scale factor) = (c.accounts deltaX).map (·.scaled factor) := by
  have scaled : SectorVector.ofAligned deltaX.codes (deltaX.values.map (· * factor)) =
      deltaX.scale factor := by
    rw [SectorVector.ofAligned, Vector.toList_map, SectorVector.of_zip_scaled,
      ← SectorVector.ofAligned, SectorVector.of_aligned_self]
  rw [← scaled, accounts_of_aligned]
  conv_rhs => rw [← deltaX.of_aligned_self, accounts_of_aligned]
  cases c.align deltaX.codes with
  | error fault => rfl
  | ok aligned => exact congrArg Except.ok (c.accounts_of_scaled ..)

end Coefficients

namespace Run

theorem sensitivity_run_alone (model : RegisteredModel K) (limit : K) (schedule : Schedule K)
    (mode : ShockMode) (coefficients : Coefficients K) (factor : K) (runId : Uuid) :
    (sensitivityRun model limit schedule mode coefficients factor runId).alone =
      (model.solveSchedule limit (schedule.scaled factor) mode).alone >>=
        sensitivityTotals coefficients factor runId := by
  simp only [sensitivityRun, Scalar.is_finite_exact, Bool.not_true, Bool.false_eq_true, if_false,
    Solving.alone_bind]
  rfl

theorem sensitivity_totals_scaled {coefficients : Coefficients K} {base : Uuid}
    {phased scaled : Phased K} {sets : OrderedMap Int (ResultSet K)} (factor : K) (runId : Uuid)
    (made : resultSets base coefficients phased = .ok sets)
    (annual : scaled.annual = phased.annual.map (·.scaled factor)) :
    sensitivityTotals coefficients factor runId scaled = .ok {
      multiplier := factor
      runId
      totalOutput := sets.map fun set => set.impact.deltaX.total * factor
      totalEmployment := sets.map fun set => set.accounts.totals.employment * factor
      peakYear := scaled.peakYear } := by
  have totals := Outcome.mapM_carried_image
    (fun entry : Int × Impact K => do
      let accounts ← coefficients.accounts entry.2.deltaX
      return (entry.1, ResultSet.mk base entry.1 entry.2 accounts))
    (fun entry : Int × Impact K => do
      let accounts ← coefficients.accounts entry.2.deltaX
      return (entry.1, entry.2.deltaX.total, accounts.totals.employment))
    (fun entry => (entry.1, entry.2.scaled factor))
    (fun entry => (entry.1, entry.2.impact.deltaX.total * factor,
      entry.2.accounts.totals.employment * factor))
    (fun entry => by
      dsimp only [Impact.scaled]
      rw [Coefficients.accounts_scaled, SectorVector.total_scaled, Outcome.bind_map,
        Outcome.map_bind]
      rfl)
    phased.annual.entries
  rw [result_sets_entries made] at totals
  unfold sensitivityTotals
  rw [annual]
  refine (congrArg (· >>= _) totals).trans (congrArg Except.ok ?_)
  have read {β : Type} (f : ResultSet K → β) :
      OrderedMap.ofList (sets.entries.map fun entry => (entry.1, f entry.2)) = sets.map f := by
    rw [OrderedMap.of_list_map, OrderedMap.of_list_self]
  simp only [List.map_map, ← read]
  rfl

end Run

structure SensitivityRun.Scales (run : SensitivityRun K) (factor : K) (result : RunResult K)
    (years : List Int) : Prop where
  multiplier : run.multiplier = factor
  outputYears : run.totalOutput.keys = years
  employmentYears : run.totalEmployment.keys = years
  totalOutput : run.totalOutput = result.resultSets.map fun set => factor * set.impact.deltaX.total
  totalEmployment : run.totalEmployment =
    result.resultSets.map fun set => factor * set.accounts.totals.employment
  peak_kept : 0 < factor → run.peakYear = result.peakYear
  peak_first : factor = 0 → run.peakYear = years.head?

variable [IsStrictOrderedRing K]

namespace RegisteredModel

variable {model : RegisteredModel K} {optimise : Optimiser K} {settings : Settings K}
  {stamp : RunStamp} {request : RunRequest K} {phased : Phased K} {result : RunResult K}

theorem Stages.sensitivity_scales
    (stages : model.Stages optimise settings stamp request phased result) (factor : K) (runId : Uuid)
    (run : SensitivityRun K)
    (ran : (Run.sensitivityRun model settings.solver.maxConditionNumber request.scenario.schedule
      (request.mode settings) (request.ratios model.economy) factor runId).alone = .ok run) :
    run.Scales factor result request.scenario.schedule.years := by
  obtain ⟨shocks, inverse, resolved, inverted, solved⟩ := stages.phased_solved
  obtain ⟨scaled, solvedScaled, annual⟩ := Phased.solve_scaled solved factor
  have totals := Run.sensitivity_totals_scaled factor runId stages.resultSets annual
  rw [Run.sensitivity_run_alone, solve_schedule_alone, Schedule.effective_shocks_scaled, resolved,
    inverted] at ran
  obtain ⟨again, solvedAgain, ran⟩ := (Outcome.bind_ok_iff _ _ _).mp ran
  cases solvedScaled.symm.trans solvedAgain
  cases totals.symm.trans ran
  have years : (shocks.map (·.1)).Pairwise (· < ·) :=
    Schedule.scheduled_years _ _ _ shocks resolved ▸ request.scenario.schedule.shocks.ascending
  obtain ⟨kept, first⟩ := Phased.scaled_peak_year annual (Phased.solve_peak_year years solved)
    (Phased.solve_peak_year (by rwa [years_of_dated]) solvedScaled)
  refine ⟨rfl, ?_, ?_, ?_, ?_, ?_, ?_⟩
  · rw [OrderedMap.map_keys, stages.years]
  · rw [OrderedMap.map_keys, stages.years]
  · simp only [mul_comm]
  · simp only [mul_comm]
  · rw [stages.peakYear]
    exact kept
  · rw [← stages.annual_years]
    exact first

end RegisteredModel

variable [SpectralRoutine K] [BitImage K]

theorem sensitivity_runs_scale (settings : Settings K) (optimise : Optimiser K)
    (commands : List (Session.Command K)) (s : Session K) (stamp : RunStamp)
    (request : RunRequest K) (result : RunResult K)
    (reached : ((Session.start settings).performAll optimise commands).2 = s)
    (ran : (s.perform optimise (.run stamp request)).1 = .ok (.run result)) :
    result.resultSets.keys = request.scenario.schedule.years ∧
      List.Forall₂ (fun factor run =>
          SensitivityRun.Scales run factor result request.scenario.schedule.years)
        request.scenario.sensitivityMultipliers result.sensitivity := by
  obtain ⟨sound, -⟩ := Session.reached_sound reached
  obtain ⟨model, found⟩ := Session.run_found optimise stamp request result ran
  obtain ⟨phased, stages⟩ := Session.stages_of_run sound optimise stamp request model found result ran
  refine ⟨stages.years, ?_⟩
  rw [← List.zipIdx_map_fst 0 request.scenario.sensitivityMultipliers, List.forall₂_map_left_iff]
  have runs := (Outcome.mapM_ok_iff _ _ _).mp stages.sensitivity
  exact runs.imp fun numbered run ran => stages.sensitivity_scales numbered.1 _ run ran

def scaledRequest : RunRequest ℚ where
  scenario := {
    id := .nil
    name := ""
    modelVersionId := .nil
    schedule := mixedSchedule
    shockMode := some .perYear
    sensitivityMultipliers := [2, 0, -1 / 2] }
  coefficients := some ⟨.nil, ⟨[("B", 3), ("A", 1 / 2)]⟩, ⟨[("A", 0), ("B", 0)]⟩,
    ⟨[("A", 1), ("B", 1)]⟩⟩
  constraints := none
  workforce := none

theorem tied_peaks_scale :
    ∃ (s : Session ℚ) (stamp : RunStamp) (result : RunResult ℚ)
      (doubled level turned : SensitivityRun ℚ),
      ((Session.start Settings.standard).performAll simplex
        [.register .nil "" twoSectorSnapshot "test"]).2 = s ∧
      (s.perform simplex (.run stamp scaledRequest)).1 = .ok (.run result) ∧
      result.sensitivity = [doubled, level, turned] ∧
      result.resultSets.keys = [2025, 2026, 2030] ∧ result.peakYear = some 2025 ∧
      doubled.Scales 2 result [2025, 2026, 2030] ∧ level.Scales 0 result [2025, 2026, 2030] ∧
      turned.Scales (-1 / 2) result [2025, 2026, 2030] ∧ turned.peakYear = some 2026 := by
  let stamp : RunStamp := ⟨.nil, fun _ => .nil, ""⟩
  have facts : (((Session.start (α := ℚ) Settings.standard).performAll simplex
      [.register .nil "" twoSectorSnapshot "test"]).2.registry.get .nil).toOption.any (fun model =>
        (model.run simplex Settings.standard stamp scaledRequest).alone.toOption.any fun result =>
          result.peakYear == some 2025 &&
          result.sensitivity.map (·.peakYear) == [some 2025, some 2025, some 2026]) = true := by
    decide +kernel
  obtain ⟨model, found, ran⟩ := (Outcome.any_ok_iff _ _).mp facts
  obtain ⟨result, ran, peaks⟩ := (Outcome.any_ok_iff _ _).mp ran
  simp only [Bool.and_eq_true, beq_iff_eq] at peaks
  obtain ⟨sound, kept⟩ := Session.reached_sound (rfl :
    ((Session.start Settings.standard).performAll simplex
      [.register .nil "" twoSectorSnapshot "test"]).2 = _)
  have performed := Session.perform_run sound simplex stamp scaledRequest model found
  rw [kept, ran] at performed
  obtain ⟨years, scales⟩ := sensitivity_runs_scale Settings.standard simplex _ _ stamp scaledRequest
    result rfl performed
  have scheduled : scaledRequest.scenario.schedule.years = [2025, 2026, 2030] := by decide
  rw [scheduled] at years scales
  change List.Forall₂ _ [2, 0, -1 / 2] _ at scales
  generalize runs : result.sensitivity = variants at scales peaks
  match variants, scales with
  | [doubled, level, turned], .cons double (.cons zero (.cons half .nil)) =>
      simp only [List.map_cons, List.cons.injEq] at peaks
      exact ⟨_, stamp, result, doubled, level, turned, rfl, performed, runs, years, peaks.1, double,
        zero, half, peaks.2.2.2.1⟩

end EconomicImpact
