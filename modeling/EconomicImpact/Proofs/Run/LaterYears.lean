import Mathlib
import EconomicImpact.Proofs.Run.History
import EconomicImpact.Proofs.Run.Stages
import EconomicImpact.Proofs.Shock.Phased

set_option autoImplicit false

namespace EconomicImpact

variable {α : Type} {n : Nat} {last : Int}

-- Computations entry by entry that agree up to a year lead from entries that do to entries that do.
theorem Outcome.mapM_up_to {ε β γ δ : Type} {x y : Int × β → Except ε γ}
    {image : Int × β → γ → δ} (agree : ∀ entry, entry.1 ≤ last → x entry = y entry)
    {inputs others : List (Int × β)} {outputs results : List (Int × δ)}
    (same : inputs.filter (·.1 ≤ last) = others.filter (·.1 ≤ last))
    (mapped : (inputs.mapM fun entry => do return (entry.1, image entry (← x entry))) =
      .ok outputs)
    (mappedOther : (others.mapM fun entry => do
      return (entry.1, image entry (← y entry))) = .ok results) :
    outputs.filter (·.1 ≤ last) = results.filter (·.1 ≤ last) := by
  have first := Outcome.mapM_ok_filter _ (·.1 ≤ last) (·.1 ≤ last)
    (fun _ entry made => by rw [Outcome.keyed_ok _ _ _ entry made]) _ _ mapped
  have second := Outcome.mapM_ok_filter _ (·.1 ≤ last) (·.1 ≤ last)
    (fun _ entry made => by rw [Outcome.keyed_ok _ _ _ entry made]) _ _ mappedOther
  rw [same, Outcome.mapM_congr _ fun entry member => by
    rw [agree entry (of_decide_eq_true (List.mem_filter.mp member).2)], second] at first
  exact (Except.ok.inj first).symm

namespace Schedule

def AgreesUpTo (last : Int) (s t : Schedule α) : Prop :=
  ∀ year ≤ last, s.shocks.get? year = t.shocks.get? year ∧
    s.deflators.get? year = t.deflators.get? year

variable [Scalar α] {s t : Schedule α}

theorem running_sums_up_to (start : Vector α n) (entries : List (Int × Vector α n))
    (ascending : (entries.map (·.1)).Pairwise (· < ·)) :
    (runningSums start entries).filter (·.1 ≤ last) =
      runningSums start (entries.filter (·.1 ≤ last)) := by
  induction entries generalizing start with
  | nil => rfl
  | cons entry rest ih =>
      obtain ⟨year, v⟩ := entry
      obtain ⟨above, later⟩ := List.pairwise_cons.mp ascending
      by_cases counted : year ≤ last
      · simp only [runningSums, List.filter_cons, counted, decide_true, if_true, ih _ later]
      · -- The years after this one are past the last one as well.
        have none (dated : List (Int × Vector α n)) (years : dated.map (·.1) = rest.map (·.1)) :
            dated.filter (·.1 ≤ last) = [] := by
          refine List.filter_eq_nil_iff.mpr fun entry member within => counted ?_
          have listed : entry.1 ∈ rest.map (·.1) := years ▸ List.mem_map_of_mem member
          exact (above entry.1 listed).le.trans (of_decide_eq_true within)
        simp only [runningSums, List.filter_cons, counted, decide_false, Bool.false_eq_true,
          if_false]
        rw [none rest rfl, none _ (running_sums_years _ rest), runningSums]

variable (agree : s.AgreesUpTo last t)

include agree

theorem real_shock_eq (order : Vector String n) (year : Int) (counted : year ≤ last)
    (shock : Shock α) : s.realShock order year shock = t.realShock order year shock := by
  rw [realShock, realShock, (agree year counted).2]

theorem effective_shocks_up_to (order : Vector String n) (mode : ShockMode) {shocks others : List (Int × Vector α n)}
    (resolved : s.effectiveShocks order mode = .ok shocks)
    (resolvedOther : t.effectiveShocks order mode = .ok others) :
    shocks.filter (·.1 ≤ last) = others.filter (·.1 ≤ last) := by
  have real {own other : List (Int × Vector α n)}
      (resolved : s.effectiveShocks order .perYear = .ok own)
      (resolvedOther : t.effectiveShocks order .perYear = .ok other) :
      own.filter (·.1 ≤ last) = other.filter (·.1 ≤ last) := by
    rw [effective_shocks_per_year] at resolved resolvedOther
    have shocks := OrderedMap.up_to_of_get last fun year counted => (agree year counted).1
    refine Outcome.mapM_up_to (fun entry counted => ?_) (congrArg OrderedMap.entries shocks) resolved
      resolvedOther
    exact real_shock_eq agree order entry.1 counted entry.2
  cases mode with
  | perYear => exact real resolved resolvedOther
  | cumulative =>
      rw [effective_shocks_cumulative] at resolved resolvedOther
      obtain ⟨own, found, rfl⟩ := (Outcome.map_ok_iff _ _ _).mp resolved
      obtain ⟨other, foundOther, rfl⟩ := (Outcome.map_ok_iff _ _ _).mp resolvedOther
      have years := s.effective_shocks_years order own found
      have yearsOther := t.effective_shocks_years order other foundOther
      rw [running_sums_up_to _ own (years ▸ s.shocks.ascending), running_sums_up_to _ other
        (yearsOther ▸ t.shocks.ascending), real found foundOther]

end Schedule

variable [Scalar α]

theorem Phased.annual_up_to {inverse : SquareTable α} {codes : Vector String n} {mode : ShockMode}
    {shocks others : List (Int × Vector α n)} {phased other : Phased α}
    (ascending : (shocks.map (·.1)).Pairwise (· < ·))
    (alike : (others.map (·.1)).Pairwise (· < ·))
    (same : shocks.filter (·.1 ≤ last) = others.filter (·.1 ≤ last))
    (solved : solve inverse codes mode shocks = .ok phased)
    (solvedOther : solve inverse codes mode others = .ok other) :
    phased.annual.upTo last = other.annual.upTo last :=
  OrderedMap.ext_entries (Outcome.mapM_up_to (fun _ _ => rfl) same (solve_annual ascending solved)
    (solve_annual alike solvedOther))

namespace Run

theorem result_sets_up_to {runId : Uuid} {coefficients : Coefficients α} {phased other : Phased α}
    {sets others : OrderedMap Int (ResultSet α)}
    (same : phased.annual.upTo last = other.annual.upTo last)
    (made : resultSets runId coefficients phased = .ok sets)
    (madeOther : resultSets runId coefficients other = .ok others) :
    sets.upTo last = others.upTo last :=
  OrderedMap.ext_entries (Outcome.mapM_up_to (fun _ _ => rfl) (congrArg OrderedMap.entries same)
    (result_sets_entries made) (result_sets_entries madeOther))

theorem feasibility_up_to {optimise : Optimiser α} {settings : FeasibilitySettings α}
    {economy : Economy α} {request : RunRequest α} {coefficients : Coefficients α} {runId : Uuid}
    {sets others : OrderedMap Int (ResultSet α)}
    {feasible results : OrderedMap Int (FeasibilityResult α)}
    (same : sets.upTo last = others.upTo last)
    (solved : feasibility optimise settings economy request coefficients runId sets = .ok feasible)
    (solvedOther :
      feasibility optimise settings economy request coefficients runId others = .ok results) :
    feasible.upTo last = results.upTo last := by
  unfold feasibility at solved solvedOther
  cases given : request.constraints with
  | none =>
      rw [given] at solved solvedOther
      cases solved
      cases solvedOther
      rfl
  | some set =>
      rw [given] at solved solvedOther
      obtain ⟨shares, found, solved⟩ := (Outcome.bind_ok_iff _ _ _).mp solved
      obtain ⟨again, foundAgain, solvedOther⟩ := (Outcome.bind_ok_iff _ _ _).mp solvedOther
      cases found.symm.trans foundAgain
      obtain ⟨entries, mapped, made⟩ := (Outcome.bind_ok_iff _ _ _).mp solved
      obtain ⟨entriesOther, mappedOther, madeOther⟩ := (Outcome.bind_ok_iff _ _ _).mp solvedOther
      cases (Outcome.pure_ok_iff _ _).mp made
      cases (Outcome.pure_ok_iff _ _).mp madeOther
      rw [← OrderedMap.of_list_keyed (Outcome.mapM_keyed_keys mapped)] at mapped
      rw [← OrderedMap.of_list_keyed (Outcome.mapM_keyed_keys mappedOther)] at mappedOther
      exact OrderedMap.ext_entries (Outcome.mapM_up_to (fun _ _ => rfl)
        (congrArg OrderedMap.entries same) mapped mappedOther)

theorem feasibility_years {optimise : Optimiser α} {settings : FeasibilitySettings α}
    {economy : Economy α} {request : RunRequest α} {coefficients : Coefficients α} {runId : Uuid}
    {sets : OrderedMap Int (ResultSet α)} {feasible : OrderedMap Int (FeasibilityResult α)}
    (constrained : request.constraints.isSome)
    (solved : feasibility optimise settings economy request coefficients runId sets = .ok feasible) :
    feasible.keys = sets.keys := by
  unfold feasibility at solved
  cases given : request.constraints with
  | none => simp [given] at constrained
  | some set =>
      rw [given] at solved
      obtain ⟨shares, found, solved⟩ := (Outcome.bind_ok_iff _ _ _).mp solved
      obtain ⟨entries, mapped, made⟩ := (Outcome.bind_ok_iff _ _ _).mp solved
      cases (Outcome.pure_ok_iff _ _).mp made
      have keys := Outcome.mapM_keyed_keys mapped
      rw [OrderedMap.keys, OrderedMap.of_list_keyed keys]
      exact keys

end Run

def RunRequest.withSchedule (request : RunRequest α) (schedule : Schedule α) : RunRequest α :=
  { request with scenario := { request.scenario with schedule } }

namespace RegisteredModel

variable {model : RegisteredModel α} {optimise : Optimiser α} {settings : Settings α}
  {stamp again : RunStamp} {request : RunRequest α} {schedule : Schedule α}
  {phased other : Phased α} {first second : RunResult α}

-- The second run is the one that it would be under the run id of the first, with its own run id.
theorem Stages.up_to (agree : request.scenario.schedule.AgreesUpTo last schedule)
    (stages : model.Stages optimise settings stamp request phased first)
    (stagesOther : model.Stages optimise settings again (request.withSchedule schedule) other second) :
    second.resultSets.upTo last = (first.resultSets.map (·.labelled again.runId)).upTo last ∧
      second.feasibility.upTo last =
        (first.feasibility.map (·.labelled again.runId)).upTo last := by
  obtain ⟨shocks, inverse, resolved, inverted, solved⟩ := stages.phased_solved
  obtain ⟨others, inverseOther, resolvedOther, invertedOther, solvedOther⟩ :=
    stagesOther.phased_solved
  cases inverted.symm.trans invertedOther
  have sameShocks := Schedule.effective_shocks_up_to agree _ _ resolved resolvedOther
  have years := Schedule.scheduled_years _ _ _ shocks resolved
  have yearsOther := Schedule.scheduled_years _ _ _ others resolvedOther
  have annual := Phased.annual_up_to (years ▸ request.scenario.schedule.shocks.ascending)
    (yearsOther ▸ schedule.shocks.ascending) sameShocks solved solvedOther
  have sets := stages.resultSets
  have feasible := stages.feasibility
  have relabelled : Run.resultSets again.runId (request.ratios model.economy) phased =
      .ok (first.resultSets.map (·.labelled again.runId)) := by
    rw [Run.result_sets_labelled stamp.runId, sets]
    rfl
  have resolvedAgain : Run.feasibility optimise settings.feasibility model.economy request
      (request.ratios model.economy) again.runId
        (first.resultSets.map (·.labelled again.runId)) =
          .ok (first.feasibility.map (·.labelled again.runId)) := by
    rw [Run.feasibility_labelled stamp.runId, feasible]
    rfl
  have sameSets := Run.result_sets_up_to annual relabelled stagesOther.resultSets
  exact ⟨sameSets.symm, (Run.feasibility_up_to sameSets resolvedAgain stagesOther.feasibility).symm⟩

end RegisteredModel

variable [SpectralRoutine α] [BitImage α]

theorem later_years_leave_earlier_alone (settings : Settings α) (optimise : Optimiser α)
    (commands others : List (Session.Command α)) (s r : Session α) (model : RegisteredModel α)
    (request : RunRequest α) (schedule : Schedule α) (last : Int) (stamp again : RunStamp)
    (first second : RunResult α)
    (reached : ((Session.start settings).performAll optimise commands).2 = s)
    (reachedOther : ((Session.start settings).performAll optimise others).2 = r)
    (found : s.registry.get request.scenario.modelVersionId = .ok model)
    (foundOther : r.registry.get request.scenario.modelVersionId = .ok model)
    (agree : request.scenario.schedule.AgreesUpTo last schedule)
    (ran : (s.perform optimise (.run stamp request)).1 = .ok (.run first))
    (ranOther : (r.perform optimise (.run again (request.withSchedule schedule))).1 =
      .ok (.run second)) :
    ∀ year ∈ request.scenario.schedule.years, year ≤ last →
      (∃ set, first.resultSets.get? year = some set ∧
        second.resultSets.get? year = some (set.labelled again.runId)) ∧
      second.feasibility.get? year =
        (first.feasibility.get? year).map (·.labelled again.runId) ∧
      (request.constraints.isSome → (first.feasibility.get? year).isSome) := by
  obtain ⟨sound, kept⟩ := Session.reached_sound reached
  obtain ⟨soundOther, keptOther⟩ := Session.reached_sound reachedOther
  obtain ⟨phased, stages⟩ := Session.stages_of_run sound optimise stamp request model found first ran
  obtain ⟨other, stagesOther⟩ := Session.stages_of_run soundOther optimise again
    (request.withSchedule schedule) model foundOther second ranOther
  rw [kept] at stages
  rw [keptOther] at stagesOther
  obtain ⟨sets, feasible⟩ := stages.up_to agree stagesOther
  intro year scheduled counted
  have years := stages.years
  refine ⟨?_, ?_, fun constrained => ?_⟩
  · rw [← years, ← OrderedMap.get_is_some_iff] at scheduled
    obtain ⟨set, value⟩ := Option.isSome_iff_exists.mp scheduled
    refine ⟨set, value, ?_⟩
    rw [OrderedMap.get_of_up_to sets year counted, OrderedMap.get_map, value]
    rfl
  · rw [OrderedMap.get_of_up_to feasible year counted, OrderedMap.get_map]
  · rw [OrderedMap.get_is_some_iff, Run.feasibility_years constrained stages.feasibility, years]
    exact scheduled

def windowedCap : ConstraintSet ℚ where
  id := .nil
  version := 1
  name := ""
  constraints := [{
    id := .nil
    kind := .capacityCap
    scope := .sector "A"
    value := 100
    unit := ""
    confidence := .hard
    boundScope := .deltaOnly
    window := some (2025, 2026)
    description := none }]

def cappedRequest : RunRequest ℚ where
  scenario := {
    id := .nil
    name := ""
    modelVersionId := .nil
    schedule := mixedSchedule
    shockMode := some .cumulative
    sensitivityMultipliers := [] }
  coefficients := none
  constraints := some windowedCap
  workforce := none

def alteredSchedule : Schedule ℚ :=
  (((Schedule.empty.withYear 2028 (.positional [7, 7])).withYear 2026
    (.keyed ⟨[("B", -30)]⟩)).withYear 2025 (.keyed ⟨[("B", 40), ("A", 100)]⟩)).withDeflator 2028 2

theorem altered_later_year_leaves_earlier_alone :
    ∃ (s : Session ℚ) (first second : RunResult ℚ) (stamp again : RunStamp),
      ((Session.start Settings.standard).performAll simplex
        [.register .nil "" twoSectorSnapshot "test"]).2 = s ∧
      (s.perform simplex (.run stamp cappedRequest)).1 = .ok (.run first) ∧
      (s.perform simplex (.run again (cappedRequest.withSchedule alteredSchedule))).1 =
        .ok (.run second) ∧
      first.resultSets.keys = [2025, 2026, 2030] ∧ second.resultSets.keys = [2025, 2026, 2028] ∧
      (∃ set, first.resultSets.get? 2026 = some set ∧
        second.resultSets.get? 2026 = some (set.labelled again.runId)) ∧
      second.feasibility.get? 2026 =
        (first.feasibility.get? 2026).map (·.labelled again.runId) ∧
      (first.feasibility.get? 2026).isSome = true := by
  let stamp : RunStamp := ⟨.nil, fun _ => .nil, ""⟩
  let again : RunStamp := ⟨secondId, fun _ => .nil, ""⟩
  have facts : (((Session.start (α := ℚ) Settings.standard).performAll simplex
      [.register .nil "" twoSectorSnapshot "test"]).2.registry.get .nil).toOption.any (fun model =>
        (model.run simplex Settings.standard stamp cappedRequest).alone.toOption.any (fun first =>
          (model.run simplex Settings.standard again
            (cappedRequest.withSchedule alteredSchedule)).alone.toOption.any fun second =>
              first.resultSets.keys == [2025, 2026, 2030] &&
              second.resultSets.keys == [2025, 2026, 2028])) = true := by
    decide +kernel
  obtain ⟨model, found, runs⟩ := (Outcome.any_ok_iff _ _).mp facts
  obtain ⟨first, ran, runs⟩ := (Outcome.any_ok_iff _ _).mp runs
  obtain ⟨second, ranOther, years⟩ := (Outcome.any_ok_iff _ _).mp runs
  simp only [Bool.and_eq_true, beq_iff_eq] at years
  obtain ⟨sound, kept⟩ := Session.reached_sound (rfl :
    ((Session.start Settings.standard).performAll simplex
      [.register .nil "" twoSectorSnapshot "test"]).2 = _)
  have performed := Session.perform_run sound simplex stamp cappedRequest model found
  have performedOther := Session.perform_run sound simplex again
    (cappedRequest.withSchedule alteredSchedule) model found
  rw [kept, ran] at performed
  rw [kept, ranOther] at performedOther
  have shocks : mixedSchedule.shocks.upTo 2027 = alteredSchedule.shocks.upTo 2027 := by
    decide +kernel
  have deflators : mixedSchedule.deflators.upTo 2027 = alteredSchedule.deflators.upTo 2027 := by
    decide +kernel
  have agree : mixedSchedule.AgreesUpTo 2027 alteredSchedule := fun year counted =>
    ⟨OrderedMap.get_of_up_to shocks year counted, OrderedMap.get_of_up_to deflators year counted⟩
  obtain ⟨sets, feasible, constrained⟩ := later_years_leave_earlier_alone Settings.standard simplex
    _ _ _ _ model cappedRequest alteredSchedule 2027 stamp again first second rfl rfl found found
    agree performed performedOther 2026 (by decide) (by decide)
  exact ⟨_, first, second, stamp, again, rfl, performed, performedOther, years.1, years.2, sets,
    feasible, constrained rfl⟩

end EconomicImpact
