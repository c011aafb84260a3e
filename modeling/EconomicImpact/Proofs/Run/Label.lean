import Mathlib
import EconomicImpact.Proofs.OrderedMap
import EconomicImpact.Proofs.Outcome
import EconomicImpact.Proofs.Run.Solving

set_option autoImplicit false

namespace EconomicImpact

variable {α : Type}

def ResultSet.labelled (runId : Uuid) (set : ResultSet α) : ResultSet α := { set with runId }

def FeasibilityResult.labelled (runId : Uuid) (r : FeasibilityResult α) : FeasibilityResult α :=
  { r with unconstrainedRunId := some runId }

def WorkforceResult.labelled (runId : Uuid) (r : WorkforceResult α) : WorkforceResult α :=
  { r with key := { r.key with runId } }

def SensitivityRun.labelled (runId : Uuid) (r : SensitivityRun α) : SensitivityRun α :=
  { r with runId }

def RunResult.labelled (version : Uuid) (stamp : RunStamp) (r : RunResult α) : RunResult α :=
  { r with
    snapshot := { r.snapshot with
      runId := stamp.runId
      modelVersionId := version
      createdAt := stamp.createdAt }
    resultSets := r.resultSets.map (·.labelled stamp.runId)
    feasibility := r.feasibility.map (·.labelled stamp.runId)
    workforce := r.workforce.map (·.labelled stamp.runId)
    sensitivity := r.sensitivity.mapIdx fun i s => s.labelled (stamp.sensitivityId i) }

variable [Scalar α]

namespace Run

open Outcome

variable (runId other : Uuid)

theorem result_sets_labelled (coefficients : Coefficients α) (phased : Phased α) :
    resultSets other coefficients phased =
      (resultSets runId coefficients phased).map (·.map (·.labelled other)) := by
  let results (run : Uuid) (entry : Int × Impact α) : Except (Fault α) (Int × ResultSet α) := do
    let accounts ← coefficients.accounts entry.2.deltaX
    return (entry.1, ⟨run, entry.1, entry.2, accounts⟩)
  have each (entry : Int × Impact α) :
      results other entry = (results runId entry).map fun set => (set.1, set.2.labelled other) := by
    simp only [results]
    cases coefficients.accounts entry.2.deltaX <;> rfl
  have entries := mapM_map_image _ _ _ each phased.annual.entries
  refine (congrArg (· >>= _) entries).trans ?_
  change _ = (phased.annual.entries.mapM (results runId) >>= _).map _
  cases phased.annual.entries.mapM (results runId) with
  | error fault => rfl
  | ok entries => exact congrArg Except.ok (OrderedMap.of_list_map _ entries)

theorem solve_labelled (optimise : Optimiser α) (settings : FeasibilitySettings α)
    (u : SectorVector α) (set : ConstraintSet α) (context : SolveContext α) :
    Feasibility.solve optimise settings u set { context with unconstrainedRunId := some other } =
      (Feasibility.solve optimise settings u set context).map (·.labelled other) := by
  unfold Feasibility.solve
  cases u.values.toList.any fun v => !Scalar.isFinite v with
  | true => rfl
  | false =>
      dsimp only
      cases set.hardConflicts context.year with
      | cons first rest => rfl
      | nil =>
          dsimp only
          cases set.resolve u.codes ⟨context.year, context.baseOutput, context.coefficients⟩ with
          | error fault => rfl
          | ok resolution =>
              dsimp only [bind, Except.bind]
              cases Feasibility.candidate optimise settings u.values resolution.active with
              | error fault => rfl
              | ok found =>
                  dsimp only
                  cases Feasibility.settle settings.bindingTolerance u.values resolution.active
                    found <;> rfl

theorem feasibility_labelled (optimise : Optimiser α) (settings : FeasibilitySettings α)
    (economy : Economy α) (request : RunRequest α) (coefficients : Coefficients α)
    (sets : OrderedMap Int (ResultSet α)) :
    feasibility optimise settings economy request coefficients other
        (sets.map (·.labelled other)) =
      (feasibility optimise settings economy request coefficients runId sets).map
        (·.map (·.labelled other)) := by
  unfold feasibility
  cases request.constraints with
  | none => rfl
  | some set =>
      dsimp only
      cases request.workforce.mapM (·.baselineShares) with
      | error fault => rfl
      | ok shares =>
          let solved (run : Uuid) (entry : Int × ResultSet α) :
              Except (Fault α) (Int × FeasibilityResult α) := do
            let result ← Feasibility.solve optimise settings entry.2.impact.deltaX set {
              unconstrainedRunId := some run
              year := some entry.1
              baseOutput := some economy.outputVector
              coefficients := some coefficients
              nationalShare := shares }
            return (entry.1, result)
          have each (entry : Int × ResultSet α) : solved other entry =
              (solved runId entry).map fun result => (result.1, result.2.labelled other) := by
            have result := solve_labelled other optimise settings entry.2.impact.deltaX set {
              unconstrainedRunId := some runId
              year := some entry.1
              baseOutput := some economy.outputVector
              coefficients := some coefficients
              nationalShare := shares }
            refine (congrArg (· >>= _) result).trans ?_
            dsimp only [solved]
            cases Feasibility.solve optimise settings entry.2.impact.deltaX set _ <;> rfl
          have entries := mapM_map_image _ _ _ each sets.entries
          change (((sets.map _).entries.mapM (solved other)) >>= _) =
            ((sets.entries.mapM (solved runId)) >>= _).map _
          have moved : (sets.map (·.labelled other)).entries.mapM (solved other) =
              sets.entries.mapM (solved other) := by
            simp only [OrderedMap.map, List.mapM_map]
            rfl
          rw [moved, entries]
          cases sets.entries.mapM (solved runId) with
          | error fault => rfl
          | ok entries => exact congrArg Except.ok (OrderedMap.of_list_map _ entries)

theorem jobs_of_labelled (year : Int) (coefficients : Coefficients α)
    (sets : OrderedMap Int (ResultSet α)) (feasible : OrderedMap Int (FeasibilityResult α)) :
    jobsOf year coefficients (sets.map (·.labelled other)) (feasible.map (·.labelled other)) =
      jobsOf year coefficients sets feasible := by
  simp only [jobsOf, OrderedMap.get_map]
  cases feasible.get? year with
  | some solved => rfl
  | none => cases sets.get? year <;> rfl

theorem workforce_labelled (settings : WorkforceSettings α) (request : RunRequest α)
    (coefficients : Coefficients α) (peakYear : Option Int) (sets : OrderedMap Int (ResultSet α))
    (feasible : OrderedMap Int (FeasibilityResult α)) :
    workforce settings request coefficients other peakYear (sets.map (·.labelled other))
        (feasible.map (·.labelled other)) =
      (workforce settings request coefficients runId peakYear sets feasible).map
        (·.map (·.labelled other)) := by
  unfold workforce
  cases request.workforce with
  | none => rfl
  | some inputs =>
      cases peakYear with
      | none => rfl
      | some year =>
          dsimp only
          rw [jobs_of_labelled]
          cases jobsOf year coefficients sets feasible with
          | error fault => rfl
          | ok found =>
              obtain ⟨source, jobs⟩ := found
              dsimp only [bind, Except.bind, Workforce.decompose]
              cases settings.tierBands.check <;> rfl

theorem sensitivity_totals_labelled (coefficients : Coefficients α) (multiplier : α)
    (phased : Phased α) :
    sensitivityTotals coefficients multiplier other phased =
      (sensitivityTotals coefficients multiplier runId phased).map (·.labelled other) := by
  unfold sensitivityTotals
  generalize (phased.annual.entries.mapM _ : Except (Fault α) (List (Int × α × α))) = totals
  cases totals <;> rfl

theorem sensitivity_run_labelled (version again : ModelVersion) (economy : Economy α) (limit : α)
    (schedule : Schedule α) (mode : ShockMode) (coefficients : Coefficients α) (multiplier : α) :
    (sensitivityRun ⟨again, economy⟩ limit schedule mode coefficients multiplier other).alone =
      (sensitivityRun ⟨version, economy⟩ limit schedule mode coefficients multiplier
        runId).alone.map (·.labelled other) := by
  unfold sensitivityRun
  by_cases refused : (!Scalar.isFinite multiplier) = true
  · rw [if_pos refused, if_pos refused]
    rfl
  · rw [if_neg refused, if_neg refused]
    dsimp only
    rw [Solving.alone_bind, Solving.alone_bind, RegisteredModel.solve_schedule_alone,
      RegisteredModel.solve_schedule_alone]
    -- The schedule is solved on the economy, whatever version it is registered under.
    change (_ >>= fun phased => sensitivityTotals coefficients multiplier other phased) = _
    simp only [sensitivity_totals_labelled runId other, map_bind]
    rfl

end Run

omit [Scalar α] in
theorem Solving.alone_mapM {β δ : Type} (f : δ → Solving α β) (items : List δ) :
    (items.mapM f).alone = items.mapM fun item => (f item).alone := by
  induction items with
  | nil => rfl
  | cons item rest ih =>
      rw [List.mapM_cons, List.mapM_cons, Solving.alone_bind]
      refine congrArg ((f item).alone >>= ·) (funext fun b => ?_)
      rw [Solving.alone_bind, ih]
      rfl

theorem RegisteredModel.run_labelled (version other : ModelVersion) (economy : Economy α)
    (checksum : other.checksum = version.checksum) (optimise : Optimiser α)
    (settings : Settings α) (stamp again : RunStamp) (request : RunRequest α) (id : Uuid) :
    (RegisteredModel.run ⟨other, economy⟩ optimise settings again
      { request with scenario := { request.scenario with modelVersionId := id } }).alone =
      (RegisteredModel.run ⟨version, economy⟩ optimise settings stamp request).alone.map
        (·.labelled other.id again) := by
  unfold run
  simp only [Solving.alone_bind, Solving.alone_mapM, solve_schedule_alone, checksum]
  rw [Outcome.map_bind]
  refine congrArg₂ (· >>= ·) rfl (funext fun phased => ?_)
  rw [Outcome.map_bind, Solving.alone_of_except, Run.result_sets_labelled stamp.runId,
    Outcome.bind_map]
  refine congrArg₂ (· >>= ·) rfl (funext fun sets => ?_)
  rw [Outcome.map_bind, Solving.alone_of_except, Run.feasibility_labelled stamp.runId,
    Outcome.bind_map]
  refine congrArg₂ (· >>= ·) rfl (funext fun feasible => ?_)
  rw [Outcome.map_bind, Solving.alone_of_except, Run.workforce_labelled stamp.runId,
    Outcome.bind_map]
  refine congrArg₂ (· >>= ·) rfl (funext fun workforce => ?_)
  rw [Outcome.map_bind]
  let variant (version : ModelVersion) (stamp : RunStamp) (input : α × Nat) :=
    (Run.sensitivityRun ⟨version, economy⟩ settings.solver.maxConditionNumber
      request.scenario.schedule (request.scenario.shockMode.getD settings.solver.shockMode)
      (request.coefficients.getD (.zeros economy.sectors.toList)) input.1
      (stamp.sensitivityId input.2)).alone
  have variants := Outcome.mapM_zip_idx_image (variant version stamp) (variant other again)
    (fun i s => s.labelled (again.sensitivityId i))
    (fun multiplier i => Run.sensitivity_run_labelled _ _ version other economy _ _ _ _ multiplier)
    request.scenario.sensitivityMultipliers 0
  refine (congrArg (· >>= _) variants).trans ?_
  rw [Outcome.bind_map]
  refine congrArg₂ (· >>= ·) rfl (funext fun runs => ?_)
  have findings : Run.findings (sets.map (·.labelled again.runId)) = Run.findings sets := by
    obtain ⟨entries, ascending⟩ := sets
    cases entries <;> rfl
  simp only [findings, Nat.zero_add]
  rfl

end EconomicImpact
