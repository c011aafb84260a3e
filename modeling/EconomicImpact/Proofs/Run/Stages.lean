import Mathlib
import EconomicImpact.Proofs.Run.Label
import EconomicImpact.Proofs.Run.Session
import EconomicImpact.Proofs.Shock.Schedule

set_option autoImplicit false

namespace EconomicImpact

variable {α : Type} [Scalar α]

def RunRequest.ratios (request : RunRequest α) (economy : Economy α) : Coefficients α :=
  request.coefficients.getD (.zeros economy.sectors.toList)

def RunRequest.mode (request : RunRequest α) (settings : Settings α) : ShockMode :=
  request.scenario.shockMode.getD settings.solver.shockMode

theorem Phased.solve_annual {n : Nat} {inverse : SquareTable α} {codes : Vector String n}
    {mode : ShockMode} {shocks : List (Int × Vector α n)} {phased : Phased α}
    (ascending : (shocks.map (·.1)).Pairwise (· < ·))
    (solved : solve inverse codes mode shocks = .ok phased) :
    (shocks.mapM fun entry => do
      return (entry.1, ← inverse.impact codes.toList entry.2.toList)) =
        .ok phased.annual.entries := by
  obtain ⟨annual, mapped, same⟩ := (Outcome.bind_ok_iff _ _ _).mp solved
  cases (Outcome.pure_ok_iff _ _).mp same
  rw [OrderedMap.of_list_entries annual (Outcome.mapM_keyed_keys mapped ▸ ascending)]
  exact mapped

theorem Run.result_sets_entries {runId : Uuid} {coefficients : Coefficients α} {phased : Phased α}
    {sets : OrderedMap Int (ResultSet α)} (made : resultSets runId coefficients phased = .ok sets) :
    (phased.annual.entries.mapM fun entry => do
      let accounts ← coefficients.accounts entry.2.deltaX
      return (entry.1, ResultSet.mk runId entry.1 entry.2 accounts)) = .ok sets.entries := by
  obtain ⟨entries, mapped, same⟩ := (Outcome.bind_ok_iff _ _ _).mp made
  cases (Outcome.pure_ok_iff _ _).mp same
  rw [OrderedMap.of_list_keyed (Outcome.mapM_keyed_keys mapped)]
  exact mapped

namespace RegisteredModel

variable (model : RegisteredModel α) (optimise : Optimiser α) (settings : Settings α)
  (stamp : RunStamp) (request : RunRequest α)

structure Stages (phased : Phased α) (result : RunResult α) : Prop where
  solved : (model.solveSchedule settings.solver.maxConditionNumber request.scenario.schedule
    (request.mode settings)).alone = .ok phased
  resultSets : Run.resultSets stamp.runId (request.ratios model.economy) phased =
    .ok result.resultSets
  feasibility : Run.feasibility optimise settings.feasibility model.economy request
    (request.ratios model.economy) stamp.runId result.resultSets = .ok result.feasibility
  sensitivity : (request.scenario.sensitivityMultipliers.zipIdx.mapM fun (multiplier, i) =>
    (Run.sensitivityRun model settings.solver.maxConditionNumber request.scenario.schedule
      (request.mode settings) (request.ratios model.economy) multiplier
      (stamp.sensitivityId i)).alone) = .ok result.sensitivity
  peakYear : result.peakYear = phased.peakYear

theorem run_stages (result : RunResult α)
    (ran : (model.run optimise settings stamp request).alone = .ok result) :
    ∃ phased, model.Stages optimise settings stamp request phased result := by
  unfold run at ran
  simp only [Solving.alone_bind, Solving.alone_mapM] at ran
  obtain ⟨phased, solved, ran⟩ := (Outcome.bind_ok_iff _ _ _).mp ran
  obtain ⟨sets, resultSets, ran⟩ := (Outcome.bind_ok_iff _ _ _).mp ran
  obtain ⟨feasible, feasibility, ran⟩ := (Outcome.bind_ok_iff _ _ _).mp ran
  obtain ⟨workforce, -, ran⟩ := (Outcome.bind_ok_iff _ _ _).mp ran
  obtain ⟨variants, sensitivity, ran⟩ := (Outcome.bind_ok_iff _ _ _).mp ran
  cases ran
  exact ⟨phased, solved, resultSets, feasibility, sensitivity, rfl⟩

variable {model optimise settings stamp request} {phased : Phased α} {result : RunResult α}

theorem Stages.phased_solved (stages : model.Stages optimise settings stamp request phased result) :
    ∃ shocks inverse,
      request.scenario.schedule.effectiveShocks model.economy.sectors (request.mode settings) =
        .ok shocks ∧
      model.ownInverse settings.solver.maxConditionNumber = .ok inverse ∧
      Phased.solve inverse model.economy.sectors (request.mode settings) shocks = .ok phased := by
  have solved := stages.solved
  rw [solve_schedule_alone] at solved
  obtain ⟨shocks, resolved, solved⟩ := (Outcome.bind_ok_iff _ _ _).mp solved
  obtain ⟨inverse, inverted, solved⟩ := (Outcome.bind_ok_iff _ _ _).mp solved
  exact ⟨shocks, inverse, resolved, inverted, solved⟩

theorem Stages.annual_years
    (stages : model.Stages optimise settings stamp request phased result) :
    phased.annual.keys = request.scenario.schedule.years := by
  obtain ⟨shocks, inverse, resolved, -, solved⟩ := stages.phased_solved
  have years := Schedule.scheduled_years _ _ _ shocks resolved
  have annual := Outcome.mapM_keyed_keys
    (Phased.solve_annual (years ▸ request.scenario.schedule.shocks.ascending) solved)
  exact annual.trans years

theorem Stages.years (stages : model.Stages optimise settings stamp request phased result) :
    result.resultSets.keys = request.scenario.schedule.years :=
  (Outcome.mapM_keyed_keys (Run.result_sets_entries stages.resultSets)).trans stages.annual_years

end RegisteredModel

namespace Session

variable [SpectralRoutine α] {s : Session α}

theorem perform_run [BitImage α] (sound : s.Sound) (optimise : Optimiser α) (stamp : RunStamp)
    (request : RunRequest α) (model : RegisteredModel α)
    (found : s.registry.get request.scenario.modelVersionId = .ok model) :
    (s.perform optimise (.run stamp request)).1 =
      (model.run optimise s.settings stamp request).alone.map .run :=
  answer_alone sound _ model found .run _
    (model.run_transparent _ optimise s.settings stamp request (s.keeps_own _ model found))

theorem run_found [BitImage α] (optimise : Optimiser α) (stamp : RunStamp) (request : RunRequest α)
    (result : RunResult α)
    (ran : (s.perform optimise (.run stamp request)).1 = .ok (.run result)) :
    ∃ model, s.registry.get request.scenario.modelVersionId = .ok model := by
  cases found : s.registry.get request.scenario.modelVersionId with
  | ok model => exact ⟨model, rfl⟩
  | error fault =>
      simp only [perform, run, onModel, found] at ran
      cases ran

theorem stages_of_run [BitImage α] (sound : s.Sound) (optimise : Optimiser α) (stamp : RunStamp)
    (request : RunRequest α) (model : RegisteredModel α)
    (found : s.registry.get request.scenario.modelVersionId = .ok model) (result : RunResult α)
    (ran : (s.perform optimise (.run stamp request)).1 = .ok (.run result)) :
    ∃ phased, model.Stages optimise s.settings stamp request phased result := by
  rw [perform_run sound optimise stamp request model found] at ran
  obtain ⟨own, ran, same⟩ := (Outcome.map_ok_iff _ _ _).mp ran
  cases same
  exact model.run_stages optimise s.settings stamp request result ran

end Session

end EconomicImpact
