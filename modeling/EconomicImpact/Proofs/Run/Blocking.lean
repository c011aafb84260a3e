import Mathlib
import EconomicImpact.Proofs.Fault
import EconomicImpact.Proofs.Feasibility.Infeasible
import EconomicImpact.Proofs.Leontief.Productive
import EconomicImpact.Proofs.Run.Stages

/-!
Which runs rule out their model. On a model that has its inverse every stage of a run but one fails, if it
does, for a reason that lies with the request. The exception are the national shares that a constrained run
derives from the baseline of its workforce: a sector that is reported there twice counts against the model.
-/

set_option autoImplicit false

namespace EconomicImpact

open Outcome

variable {α : Type} [Scalar α]

theorem ConstraintSet.resolve_free {n : Nat} (set : ConstraintSet α) (order : Vector String n)
    (context : ResolutionContext α) : Free Fault.Blocks (set.resolve order context) := by
  rw [resolve_eq]
  refine free_bind (free_mapM_option (fun base => ?_) _) fun base => ?_
  · exact free_of_misaligned (base.align_exact_misaligned order _)
  refine free_bind ?_ fun coefficients => ?_
  · unfold weighedWith
    split
    · exact free_mapM_option (fun c => free_of_misaligned (c.align_misaligned order)) _
    · exact free_ok none
  refine free_bind (free_mapM (fun c => ?_) _) fun outcomes => free_ok _
  have refused (defect : ConstraintDefect α) : ¬Fault.Blocks (.invalidConstraint c.id defect) :=
    Bool.false_ne_true
  unfold Constraint.resolve
  split
  · exact free_map_error refused _
  · exact free_ok _

theorem Feasibility.solve_free (optimise : Optimiser α) (settings : FeasibilitySettings α)
    (u : SectorVector α) (set : ConstraintSet α) (context : SolveContext α) :
    Free Fault.Blocks (solve optimise settings u set context) := by
  by_cases finite : ∀ i, Scalar.isFinite (u.values.get i) = true
  · by_cases consistent : set.hardConflicts context.year = []
    · rw [solve_of_consistent optimise finite consistent]
      exact free_bind (set.resolve_free u.codes _) fun resolution =>
        finish_free (fun _ _ _ => Bool.false_ne_true) optimise settings u set context resolution
    · rw [solve_of_conflicts optimise finite consistent]
      exact free_error Bool.false_ne_true
  · rw [solve_of_not_finite optimise finite]
    exact free_error Bool.false_ne_true

theorem Workforce.decompose_free (settings : WorkforceSettings α) (jobs : SectorVector α)
    (inputs : WorkforceInputs α) (key : WorkforceKey) :
    Free Fault.Blocks (decompose settings jobs inputs key) := by
  have each (band : Band α) : Free Fault.Blocks band.checkShares := by
    unfold Band.checkShares
    split
    · exact free_ok _
    · exact free_error Bool.false_ne_true
  have checked : Free Fault.Blocks settings.tierBands.check :=
    free_bind (each _) fun _ => free_bind (each _) fun _ => each _
  exact free_bind checked fun _ => free_ok _

namespace WorkforceInputs

def reportingSectors (inputs : WorkforceInputs α) : List String :=
  (inputs.baseline.filter fun b => b.nationalEmployment.isSome && decide (0 < b.totalEmployment)).map
    (·.sectorCode)

theorem reported_codes (inputs : WorkforceInputs α) :
    (inputs.baseline.filterMap fun b => b.nationalEmployment.bind fun national =>
      if 0 < b.totalEmployment then some (b.sectorCode, national / b.totalEmployment) else none).map
        (·.1) = inputs.reportingSectors := by
  unfold reportingSectors
  induction inputs.baseline with
  | nil => rfl
  | cons b rest ih =>
      cases reported : b.nationalEmployment with
      | none => simpa [reported] using ih
      | some national =>
          by_cases positive : 0 < b.totalEmployment
          · simpa [reported, positive] using ih
          · simpa [reported, positive] using ih

theorem baseline_shares_eq (inputs : WorkforceInputs α) :
    inputs.baselineShares = SectorVector.ofPairs (inputs.baseline.filterMap fun b =>
      b.nationalEmployment.bind fun national =>
        if 0 < b.totalEmployment then some (b.sectorCode, national / b.totalEmployment)
        else none) := by
  refine congrArg SectorVector.ofPairs (List.filterMap_congr fun b _ => ?_)
  cases b.nationalEmployment <;> rfl

-- The shares fail in one way alone: a sector is reported twice.
theorem baseline_shares_error_iff (inputs : WorkforceInputs α) (fault : Fault α) :
    inputs.baselineShares = .error fault ↔ ∃ code,
      firstRepeat? inputs.reportingSectors = some code ∧
      fault = .invalidModel (.duplicateVectorSector code) := by
  rw [baseline_shares_eq, SectorVector.ofPairs, reported_codes]
  cases repeated : firstRepeat? inputs.reportingSectors with
  | none => simp
  | some code => simp [eq_comm]

end WorkforceInputs

namespace Run

theorem result_sets_free (runId : Uuid) (coefficients : Coefficients α) (phased : Phased α) :
    Free Fault.Blocks (resultSets runId coefficients phased) := by
  refine free_bind (free_mapM (fun entry => ?_) _) fun entries => free_ok _
  exact free_bind (coefficients.accounts_free entry.2.deltaX) fun accounts => free_ok _

-- Of the constrained solves only the national shares that go into them can rule the model out.
theorem feasibility_error_iff (optimise : Optimiser α) (settings : FeasibilitySettings α)
    (economy : Economy α) (request : RunRequest α) (coefficients : Coefficients α) (runId : Uuid)
    (sets : OrderedMap Int (ResultSet α)) {fault : Fault α} (blocks : fault.Blocks) :
    feasibility optimise settings economy request coefficients runId sets = .error fault ↔
      request.constraints.isSome ∧
        ∃ inputs, request.workforce = some inputs ∧ inputs.baselineShares = .error fault := by
  unfold feasibility
  cases request.constraints with
  | none => exact iff_of_false (fun failed => nomatch failed) fun given => Bool.false_ne_true given.1
  | some set =>
      rw [stopped_before_iff (fun shares => ?_) blocks]
      · cases request.workforce with
        | none => simp [Option.mapM, pure, Except.pure]
        | some inputs => exact (map_stopped_iff inputs.baselineShares some fault).trans (by simp)
      · refine free_bind (free_mapM (fun entry => ?_) _) fun entries => free_ok _
        exact free_bind (Feasibility.solve_free optimise settings _ set _) fun solved => free_ok _

theorem workforce_free (settings : WorkforceSettings α) (request : RunRequest α)
    (coefficients : Coefficients α) (runId : Uuid) (peakYear : Option Int)
    (sets : OrderedMap Int (ResultSet α)) (feasible : OrderedMap Int (FeasibilityResult α)) :
    Free Fault.Blocks
      (workforce settings request coefficients runId peakYear sets feasible) := by
  have jobs (year : Int) : Free Fault.Blocks (jobsOf year coefficients sets feasible) := by
    unfold jobsOf
    split
    · exact free_bind (coefficients.accounts_free _) fun accounts => free_ok _
    · split
      · exact free_ok _
      · exact free_error Bool.false_ne_true
  unfold workforce
  split
  · refine free_bind (jobs _) fun counted => ?_
    exact free_bind (Workforce.decompose_free settings _ _ _) fun result => free_ok _
  · exact free_ok none

end Run

namespace RegisteredModel

variable (model : RegisteredModel α) {limit : α}

theorem solve_schedule_free (own : Free Fault.Blocks (model.ownInverse limit))
    (schedule : Schedule α) (mode : ShockMode) :
    Free Fault.Blocks (model.solveSchedule limit schedule mode).alone := by
  rw [solve_schedule_alone]
  refine free_bind (schedule.effective_shocks_free _ mode) fun shocks => ?_
  exact free_bind own fun inverse => Phased.solve_free inverse _ mode shocks

theorem sensitivity_run_free (own : Free Fault.Blocks (model.ownInverse limit))
    (schedule : Schedule α) (mode : ShockMode) (coefficients : Coefficients α) (multiplier : α)
    (runId : Uuid) :
    Free Fault.Blocks
      (Run.sensitivityRun model limit schedule mode coefficients multiplier runId).alone := by
  unfold Run.sensitivityRun
  by_cases refused : (!Scalar.isFinite multiplier) = true
  · rw [if_pos refused]
    exact free_error Bool.false_ne_true
  · rw [if_neg refused]
    simp only [Solving.alone_bind]
    refine free_bind (model.solve_schedule_free own _ mode) fun phased => ?_
    refine free_bind (free_mapM (fun entry => ?_) _) fun totals => free_ok _
    exact free_bind (coefficients.accounts_free _) fun accounts => free_ok _

variable (optimise : Optimiser α) (settings : Settings α) (stamp : RunStamp)
  (request : RunRequest α)

def Reaches : Prop :=
  ∃ phased sets,
    (model.solveSchedule settings.solver.maxConditionNumber request.scenario.schedule
      (request.mode settings)).alone = .ok phased ∧
    Run.resultSets stamp.runId (request.ratios model.economy) phased = .ok sets

theorem run_error_iff
    (own : Free Fault.Blocks (model.ownInverse settings.solver.maxConditionNumber))
    {fault : Fault α} (blocks : fault.Blocks) :
    (model.run optimise settings stamp request).alone = .error fault ↔
      model.Reaches settings stamp request ∧ request.constraints.isSome ∧
        ∃ inputs, request.workforce = some inputs ∧ inputs.baselineShares = .error fault := by
  unfold run
  simp only [Solving.alone_bind, Solving.alone_mapM]
  have resulted (phased : Phased α) :=
    Run.result_sets_free stamp.runId (request.ratios model.economy) phased
  have constrained := Run.feasibility_error_iff optimise settings.feasibility model.economy request
    (request.ratios model.economy) stamp.runId
  refine ((model.solve_schedule_free own _ _).stopped_iff blocks).trans ?_
  refine (exists_congr fun phased => and_congr_right fun _ =>
    ((resulted phased).stopped_iff blocks).trans <| exists_congr fun sets => and_congr_right fun _ =>
      (stopped_before_iff (fun feasible => ?rest) blocks).trans (constrained sets blocks)).trans ?_
  case rest =>
    refine free_bind (Run.workforce_free _ request _ _ _ sets feasible) fun result => ?_
    refine free_bind (free_mapM (fun numbered => ?_) _) fun variants => free_ok _
    exact model.sensitivity_run_free own _ _ _ numbered.1 _
  constructor
  · rintro ⟨phased, solved, sets, made, shares⟩
    exact ⟨⟨phased, sets, solved, made⟩, shares⟩
  · rintro ⟨⟨phased, sets, solved, made⟩, shares⟩
    exact ⟨phased, solved, sets, made, shares⟩

end RegisteredModel

variable [SpectralRoutine α] [BitImage α]

-- A run on a model that has its inverse rules the model out exactly if a sector is reported twice in the baseline
-- of a constrained request that comes as far as its constrained solves.
theorem run_blocks_model_iff (settings : Settings α) (optimise : Optimiser α)
    (commands : List (Session.Command α)) (s : Session α) (stamp : RunStamp)
    (request : RunRequest α) (model : RegisteredModel α) (inverse : SquareTable α)
    (fault : Fault α)
    (reached : ((Session.start settings).performAll optimise commands).2 = s)
    (found : s.registry.get request.scenario.modelVersionId = .ok model)
    (own : model.ownInverse settings.solver.maxConditionNumber = .ok inverse) :
    (s.perform optimise (.run stamp request)).1 = .error fault ∧ fault.blocksModel = true ↔
      model.Reaches settings stamp request ∧ request.constraints.isSome ∧
        ∃ inputs code, request.workforce = some inputs ∧
          firstRepeat? inputs.reportingSectors = some code ∧
          fault = .invalidModel (.duplicateVectorSector code) := by
  obtain ⟨sound, kept⟩ := Session.reached_sound reached
  rw [Session.perform_run sound optimise stamp request model found, kept, map_stopped_iff]
  have inverted : Free Fault.Blocks (model.ownInverse settings.solver.maxConditionNumber) :=
    free_of_ok own
  constructor
  · rintro ⟨failed, blocks⟩
    obtain ⟨reaches, constrained, inputs, given, shares⟩ :=
      (model.run_error_iff optimise settings stamp request inverted blocks).mp failed
    obtain ⟨code, repeated, rfl⟩ := (inputs.baseline_shares_error_iff fault).mp shares
    exact ⟨reaches, constrained, inputs, code, given, repeated, rfl⟩
  · rintro ⟨reaches, constrained, inputs, code, given, repeated, rfl⟩
    have shares := (inputs.baseline_shares_error_iff _).mpr ⟨code, repeated, rfl⟩
    have blocks : Fault.Blocks (α := α) (.invalidModel (.duplicateVectorSector code)) := rfl
    exact ⟨(model.run_error_iff optimise settings stamp request inverted blocks).mpr
      ⟨reaches, constrained, inputs, given, shares⟩, blocks⟩

def reportedRequest (shock : Shock ℚ) (sectors : List String) : RunRequest ℚ where
  scenario := {
    id := .nil
    name := ""
    modelVersionId := .nil
    schedule := Schedule.empty.withYear 2026 shock
    shockMode := none
    sensitivityMultipliers := [] }
  coefficients := none
  constraints := some { id := .nil, version := 1, name := "", constraints := [] }
  workforce := some {
    bridge := ⟨"", .empty⟩
    classifications := ⟨"", []⟩
    goals := []
    baseline := sectors.map fun code => ⟨code, 10, some 5⟩ }

theorem repeated_baseline_blocks_model :
    ∃ (s : Session ℚ) (model : RegisteredModel ℚ) (inverse : SquareTable ℚ) (stamp : RunStamp)
      (fault : Fault ℚ),
      ((Session.start Settings.standard).performAll simplex
        [.register .nil "" twoSectorSnapshot "test"]).2 = s ∧
      s.registry.get .nil = .ok model ∧
      model.ownInverse (Settings.standard : Settings ℚ).solver.maxConditionNumber = .ok inverse ∧
      (s.perform simplex
        (.run stamp (reportedRequest (.positional [100, 0]) ["A", "A"]))).1 = .error fault ∧
      fault.blocksModel = true := by
  let stamp : RunStamp := ⟨.nil, fun _ => .nil, ""⟩
  let request := reportedRequest (.positional [100, 0]) ["A", "A"]
  let limit := (Settings.standard : Settings ℚ).solver.maxConditionNumber
  have facts : (((Session.start (α := ℚ) Settings.standard).performAll simplex
      [.register .nil "" twoSectorSnapshot "test"]).2.registry.get .nil).toOption.any (fun model =>
        (model.ownInverse limit).toOption.any fun _ =>
          (model.solveSchedule limit request.scenario.schedule
            (request.mode Settings.standard)).alone.toOption.any fun phased =>
              (Run.resultSets stamp.runId (request.ratios model.economy) phased).toOption.any
                fun _ => true) = true := by
    decide +kernel
  obtain ⟨model, found, facts⟩ := (any_ok_iff _ _).mp facts
  obtain ⟨inverse, own, facts⟩ := (any_ok_iff _ _).mp facts
  obtain ⟨phased, solved, facts⟩ := (any_ok_iff _ _).mp facts
  obtain ⟨sets, made, -⟩ := (any_ok_iff _ _).mp facts
  let fault : Fault ℚ := .invalidModel (.duplicateVectorSector "A")
  have shares : ∃ inputs, request.workforce = some inputs ∧ inputs.baselineShares = .error fault :=
    ⟨_, rfl, rfl⟩
  have blocking : fault.blocksModel = true := rfl
  have stopped := (model.run_error_iff simplex Settings.standard stamp request (free_of_ok own)
    blocking).mpr ⟨⟨phased, sets, solved, made⟩, rfl, shares⟩
  obtain ⟨sound, kept⟩ := Session.reached_sound (rfl :
    ((Session.start Settings.standard).performAll simplex
      [.register .nil "" twoSectorSnapshot "test"]).2 = _)
  have performed := Session.perform_run sound simplex stamp request model found
  rw [kept, stopped] at performed
  exact ⟨_, model, inverse, stamp, fault, rfl, found, own, performed, rfl⟩

theorem unknown_shock_spares_model :
    ∃ (s : Session ℚ) (stamp : RunStamp) (fault : Fault ℚ),
      ((Session.start Settings.standard).performAll simplex
        [.register .nil "" twoSectorSnapshot "test"]).2 = s ∧
      (s.perform simplex
        (.run stamp (reportedRequest (.keyed ⟨[("C", 100)]⟩) ["A", "B"]))).1 = .error fault ∧
      fault.blocksModel = false := by
  let stamp : RunStamp := ⟨.nil, fun _ => .nil, ""⟩
  let request := reportedRequest (.keyed ⟨[("C", 100)]⟩) ["A", "B"]
  have facts : (((Session.start (α := ℚ) Settings.standard).performAll simplex
      [.register .nil "" twoSectorSnapshot "test"]).2.registry.get .nil).toOption.any (fun model =>
        (model.ownInverse (Settings.standard : Settings ℚ).solver.maxConditionNumber).toOption.any
          fun _ => (model.run simplex Settings.standard stamp request).alone.toOption.isNone) =
            true := by
    decide +kernel
  obtain ⟨model, found, facts⟩ := (any_ok_iff _ _).mp facts
  obtain ⟨inverse, own, facts⟩ := (any_ok_iff _ _).mp facts
  cases stopped : (model.run simplex Settings.standard stamp request).alone with
  | ok result =>
      rw [stopped] at facts
      cases facts
  | error fault =>
      obtain ⟨sound, kept⟩ := Session.reached_sound (rfl :
        ((Session.start Settings.standard).performAll simplex
          [.register .nil "" twoSectorSnapshot "test"]).2 = _)
      have performed := Session.perform_run sound simplex stamp request model found
      rw [kept, stopped] at performed
      have spared : ¬fault.blocksModel = true := fun blocks => by
        obtain ⟨-, -, inputs, code, given, repeated, -⟩ :=
          (run_blocks_model_iff Settings.standard simplex _ _ stamp request model inverse fault rfl
            found own).mp ⟨performed, blocks⟩
        cases given
        have distinct : firstRepeat? ["A", "B"] = none := by decide
        exact nomatch distinct.symm.trans repeated
      exact ⟨_, stamp, fault, rfl, performed, Bool.eq_false_iff.mpr spared⟩

end EconomicImpact
