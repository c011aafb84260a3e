import Mathlib
import EconomicImpact.Proofs.Leontief.Accounting
import EconomicImpact.Proofs.Shock.Schedule

set_option autoImplicit false

namespace EconomicImpact

variable {K : Type} [Field K] [LinearOrder K] {n : Nat}

namespace Phased

-- The pair of the earliest year among those with the largest number.
def IsPeak (totals : List (Int × K)) (best : Int × K) : Prop :=
  best ∈ totals ∧ ∀ p ∈ totals, p.2 ≤ best.2 ∧ (p.2 = best.2 → best.1 ≤ p.1)

theorem fold_is_peak (first : Int × K) (rest : List (Int × K))
    (ascending : ((first :: rest).map (·.1)).Pairwise (· < ·)) :
    IsPeak (first :: rest) (rest.foldl (fun best p => if best.2 < p.2 then p else best) first) := by
  induction rest generalizing first with
  | nil => exact ⟨List.mem_singleton_self first, by simp⟩
  | cons p rest ih =>
      obtain ⟨above, later⟩ := List.pairwise_cons.mp ascending
      rw [List.foldl_cons]
      by_cases larger : first.2 < p.2
      · rw [if_pos larger]
        obtain ⟨member, greatest⟩ := ih p later
        have beaten := larger.trans_le (greatest p List.mem_cons_self).1
        refine ⟨List.mem_cons_of_mem _ member, List.forall_mem_cons.mpr ⟨⟨beaten.le, ?_⟩, greatest⟩⟩
        exact fun same => absurd same beaten.ne
      · rw [if_neg larger]
        have shorter : ((first :: rest).map (·.1)).Pairwise (· < ·) :=
          List.pairwise_cons.mpr ⟨fun year member => above year (List.mem_cons_of_mem _ member),
            (List.pairwise_cons.mp later).2⟩
        obtain ⟨member, greatest⟩ := ih first shorter
        obtain ⟨first_le, first_earliest⟩ := greatest first List.mem_cons_self
        have p_le := (not_lt.mp larger).trans first_le
        refine ⟨?_, List.forall_mem_cons.mpr ⟨greatest first List.mem_cons_self,
          List.forall_mem_cons.mpr ⟨⟨p_le, fun same => ?_⟩, fun q listed =>
            greatest q (List.mem_cons_of_mem _ listed)⟩⟩⟩
        · rcases List.mem_cons.mp member with chosen | listed
          · rw [chosen]
            exact List.mem_cons_self
          · exact List.mem_cons_of_mem _ (List.mem_cons_of_mem _ listed)
        · -- A tie with `p` is a tie with `first` as well, which stands before `p`.
          have tied : first.2 = _ := le_antisymm first_le (same ▸ not_lt.mp larger)
          exact (first_earliest tied).trans (above p.1 List.mem_cons_self).le

theorem peak_cases (totals : List (Int × K)) (ascending : (totals.map (·.1)).Pairwise (· < ·)) :
    (totals = [] ∧ peak? totals = none) ∨ ∃ best, peak? totals = some best ∧ IsPeak totals best := by
  cases totals with
  | nil => exact .inl ⟨rfl, rfl⟩
  | cons first rest => exact .inr ⟨_, rfl, fold_is_peak first rest ascending⟩

structure Peaks (phased : Phased K) : Prop where
  reached : ∀ year, phased.peakYear = some year →
    ∃ impact, (year, impact) ∈ phased.annual.entries ∧ impact.deltaX.total = phased.peakTotal
  greatest : ∀ entry ∈ phased.annual.entries, entry.2.deltaX.total ≤ phased.peakTotal
  earliest : ∀ year, phased.peakYear = some year → ∀ entry ∈ phased.annual.entries,
    entry.2.deltaX.total = phased.peakTotal → year ≤ entry.1
  none_iff : phased.peakYear = none ↔ phased.annual.isEmpty = true
  nothing : phased.annual.isEmpty = true → phased.peakTotal = 0

def annualTotals (phased : Phased K) : List (Int × K) :=
  phased.annual.entries.map fun entry => (entry.1, entry.2.deltaX.total)

theorem peaks_of_fold (phased : Phased K)
    (year : phased.peakYear = (peak? phased.annualTotals).map (·.1))
    (total : phased.peakTotal = ((peak? phased.annualTotals).map (·.2)).getD 0) : phased.Peaks := by
  have keys : phased.annualTotals.map (·.1) = phased.annual.keys :=
    years_of_dated phased.annual.entries fun entry => entry.2.deltaX.total
  rcases peak_cases phased.annualTotals (keys ▸ phased.annual.ascending) with ⟨empty, none⟩ | ⟨best, some, peak⟩
  · have entries : phased.annual.entries = [] := List.map_eq_nil_iff.mp empty
    rw [none] at year total
    constructor <;> simp [entries, year, total, OrderedMap.isEmpty]
  · rw [some] at year total
    obtain ⟨member, greatest⟩ := peak
    obtain ⟨⟨y, impact⟩, listed, same⟩ := List.mem_map.mp member
    have each : ∀ entry ∈ phased.annual.entries, entry.2.deltaX.total ≤ best.2 ∧
        (entry.2.deltaX.total = best.2 → best.1 ≤ entry.1) := fun entry present =>
      greatest _ (List.mem_map_of_mem present)
    have filled : phased.annual.isEmpty = false := by
      rw [OrderedMap.isEmpty, List.isEmpty_eq_false_iff_exists_mem]
      exact ⟨_, listed⟩
    cases same
    simp only [Option.map_some, Option.getD_some] at year total
    rw [← total] at each
    refine ⟨?_, fun entry present => (each entry present).1, ?_, ?_, ?_⟩
    · intro chosen peakYear
      rw [year, Option.some.injEq] at peakYear
      exact ⟨impact, peakYear ▸ listed, total.symm⟩
    · intro chosen peakYear entry present tied
      rw [year, Option.some.injEq] at peakYear
      exact peakYear ▸ (each entry present).2 tied
    · simp [year, filled]
    · simp [filled]

structure Reports (phased : Phased K) (codes : Vector String n)
    (deltas : List (Int × Vector K n)) : Prop where
  annual : phased.annual.entries.map (fun entry => (entry.1, entry.2.deltaX)) =
    deltas.map fun entry => (entry.1, .ofAligned codes entry.2)
  cumulative : phased.cumulativeDeltaX = .ofAligned codes (vectorTotal (deltas.map (·.2)))
  peakYear : phased.peakYear = (peak? phased.annualTotals).map (·.1)
  peakTotal : phased.peakTotal = ((peak? phased.annualTotals).map (·.2)).getD 0

theorem Reports.years {phased : Phased K} {codes : Vector String n}
    {deltas : List (Int × Vector K n)} (reports : phased.Reports codes deltas) :
    phased.annual.entries.map (·.1) = deltas.map (·.1) := by
  have impacts := years_of_dated phased.annual.entries fun entry => entry.2.deltaX
  have changes := years_of_dated deltas fun entry => SectorVector.ofAligned codes entry.2
  rw [← reports.annual, impacts] at changes
  exact changes

theorem Reports.peaks {phased : Phased K} {codes : Vector String n}
    {deltas : List (Int × Vector K n)} (reports : phased.Reports codes deltas) : phased.Peaks :=
  peaks_of_fold phased reports.peakYear reports.peakTotal

theorem Peaks.nothing_iff {phased : Phased K} (peaks : phased.Peaks) (schedule : Schedule K)
    (years : phased.annual.keys = schedule.years) :
    phased.peakYear = none ∧ phased.peakTotal = 0 ↔ schedule.isEmpty = true := by
  have same : schedule.isEmpty = true ↔ phased.annual.isEmpty = true := by
    rw [OrderedMap.is_empty_iff_keys, years]
    exact schedule.shocks.is_empty_iff_keys
  rw [same, ← peaks.none_iff]
  exact ⟨And.left, fun none => ⟨none, peaks.nothing (peaks.none_iff.mp none)⟩⟩

-- The sum over all years is the sum up to the last one.
theorem Reports.cumulative_eq_last {perYear cumulative : Phased K} {codes : Vector String n}
    {deltas : List (Int × Vector K n)} (own : perYear.Reports codes deltas)
    (sums : cumulative.Reports codes (deltas.map fun entry => (entry.1, totalUpTo deltas entry.1)))
    (year : Int) (impact : Impact K)
    (last : cumulative.annual.entries.getLast? = some (year, impact)) :
    perYear.cumulativeDeltaX = impact.deltaX := by
  have ends := congrArg List.getLast? sums.annual
  rw [List.getLast?_map, last, List.map_map, List.getLast?_map] at ends
  obtain ⟨final, listed, same⟩ := Option.map_eq_some_iff.mp ends.symm
  obtain ⟨-, value⟩ := Prod.mk.inj same
  obtain ⟨earlier, rfl⟩ := List.getLast?_eq_some_iff.mp listed
  have within : ∀ entry ∈ earlier ++ [final], entry.1 ≤ final.1 := by
    intro entry member
    have ascending := perYear.annual.ascending
    rw [own.years, List.map_append, List.pairwise_append] at ascending
    rcases List.mem_append.mp member with before | itself
    · exact (ascending.2.2 entry.1 (List.mem_map_of_mem before) final.1 (by simp)).le
    · rw [List.mem_singleton.mp itself]
  rw [own.cumulative, ← value]
  exact congrArg (SectorVector.ofAligned codes) (total_up_to_end _ _ within).symm

theorem fold_values (vectors : List (Vector K n)) (start : Vector K n) :
    vectors.foldl (fun sums v => sums.zipWith (· + ·) v.toList) start.toList =
      (start.zipWith (· + ·) (vectorTotal vectors)).toList := by
  induction vectors generalizing start with
  | nil =>
      refine congrArg Vector.toList (vector_ext_get (congrFun ?_))
      rw [sum_get, vector_total_nil_get, add_zero]
  | cons v rest ih =>
      have summed : start.toList.zipWith (· + ·) v.toList = (start.zipWith (· + ·) v).toList := by
        simp
      rw [List.foldl_cons, summed, ih]
      refine congrArg Vector.toList (vector_ext_get (congrFun ?_))
      rw [sum_get, sum_get, sum_get, vector_total_cons_get, add_assoc]

theorem solve_entries (mode : ShockMode) {inverse : SquareTable K} {codes : Vector String n}
    {shocks : List (Int × Vector K n)} {annual : List (Int × Impact K)}
    (ascending : (annual.map (·.1)).Pairwise (· < ·))
    (mapped : (shocks.mapM fun entry => do
      return (entry.1, ← inverse.impact codes.toList entry.2.toList)) = .ok annual) :
    ∃ phased, solve inverse codes mode shocks = .ok phased ∧ phased.annual.entries = annual ∧
      phased.cumulativeDeltaX = .ofZip codes.toList (annual.foldl
        (fun sums (_, impact) => sums.zipWith (· + ·) (impact.deltaX.entries.map (·.2)))
        (List.replicate n 0)) ∧
      phased.peakYear = (peak? phased.annualTotals).map (·.1) ∧
      phased.peakTotal = ((peak? phased.annualTotals).map (·.2)).getD 0 := by
  have entries := OrderedMap.of_list_entries annual ascending
  refine ⟨_, congrArg (· >>= _) mapped, entries, rfl, ?_, ?_⟩
  · rw [annualTotals, entries]
  · rw [annualTotals, entries]

variable [IsStrictOrderedRing K]

theorem solve_reports {a : Table K n n} {limit : K} {inverse : Table K n n}
    (found : leontiefInverse a limit = .ok inverse) (codes : Vector String n) (mode : ShockMode)
    (shocks : List (Int × Vector K n)) (ascending : (shocks.map (·.1)).Pairwise (· < ·)) :
    ∃ phased, solve ⟨n, inverse⟩ codes mode shocks = .ok phased ∧
      phased.Reports codes (shocks.map fun entry => (entry.1, inverse.apply entry.2)) := by
  have annual := Outcome.mapM_eq_map
    (fun entry : Int × Vector K n => do
      return (entry.1, ← (SquareTable.mk n inverse).impact codes.toList entry.2.toList))
    _ (fun entry => congrArg (Except.map (entry.1, ·)) (impact_of_inverse found codes entry.2)) shocks
  obtain ⟨phased, solved, entries, cumulative, peakYear, peakTotal⟩ :=
    solve_entries mode (by rwa [years_of_dated]) annual
  refine ⟨phased, solved, ?_, ?_, peakYear, peakTotal⟩
  · simp only [entries, List.map_map, Function.comp_def]
  · have values : List.replicate n (0 : K) = (Vector.replicate n 0).toList := by simp
    have summed := fold_values (shocks.map fun entry => inverse.apply entry.2) (Vector.replicate n 0)
    rw [sum_from_zero, List.foldl_map] at summed
    rw [cumulative]
    simp only [List.foldl_map, List.map_map, Function.comp_def, SectorVector.values_of_aligned,
      values, summed]
    rfl

theorem solve_accumulates {a : Table K n n} {limit : K} {inverse : Table K n n}
    (found : leontiefInverse a limit = .ok inverse) (codes : Vector String n)
    {real deltas : List (Int × Vector K n)}
    (applied : deltas = real.map fun entry => (entry.1, inverse.apply entry.2))
    (ascending : (deltas.map (·.1)).Pairwise (· < ·)) :
    ∃ perYear cumulative : Phased K,
      solve ⟨n, inverse⟩ codes .perYear real = .ok perYear ∧
      solve ⟨n, inverse⟩ codes .cumulative (Schedule.runningSums (Vector.replicate n 0) real) =
        .ok cumulative ∧
      perYear.Reports codes deltas ∧
      cumulative.Reports codes (deltas.map fun entry => (entry.1, totalUpTo deltas entry.1)) := by
  rw [applied, years_of_dated] at ascending
  obtain ⟨perYear, solved, own⟩ := solve_reports found codes .perYear real ascending
  obtain ⟨cumulative, accumulated, sums⟩ := solve_reports found codes .cumulative
    (Schedule.runningSums (Vector.replicate n 0) real)
    ((Schedule.running_sums_years _ real).symm ▸ ascending)
  refine ⟨perYear, cumulative, solved, accumulated, applied ▸ own, ?_⟩
  rw [Schedule.running_sums_eq _ _ ascending] at sums
  simpa only [applied, sum_from_zero, List.map_map, Function.comp_def, total_up_to_apply] using sums

end Phased

variable [IsStrictOrderedRing K] [SpectralRoutine K] [BitImage K]

theorem cumulative_schedule_accumulates (settings : Settings K) (optimise : Optimiser K)
    (commands : List (Session.Command K)) (s : Session K) (id : Uuid) (model : RegisteredModel K)
    (schedule : Schedule K)
    (reached : ((Session.start settings).performAll optimise commands).2 = s)
    (found : s.registry.get id = .ok model) :
    (∃ fault,
      (schedule.effectiveShocks model.economy.sectors .perYear = .error fault ∨
        leontiefInverse model.economy.coefficients settings.solver.maxConditionNumber =
          .error fault) ∧
      (s.perform optimise (.schedule id schedule .perYear)).1 = .error fault ∧
      (s.perform optimise (.schedule id schedule .cumulative)).1 = .error fault) ∨
    ∃ (inverse : Table K model.economy.size model.economy.size)
      (real deltas : List (Int × Vector K model.economy.size)) (perYear cumulative : Phased K),
      leontiefInverse model.economy.coefficients settings.solver.maxConditionNumber =
        .ok inverse ∧
      schedule.effectiveShocks model.economy.sectors .perYear = .ok real ∧
      (deltas = real.map fun entry => (entry.1, inverse.apply entry.2)) ∧
      (s.perform optimise (.schedule id schedule .perYear)).1 = .ok (.phased perYear) ∧
      (s.perform optimise (.schedule id schedule .cumulative)).1 = .ok (.phased cumulative) ∧
      deltas.map (·.1) = schedule.years ∧
      perYear.annual.entries.map (fun entry => (entry.1, entry.2.deltaX)) =
        deltas.map (fun entry => (entry.1, .ofAligned model.economy.sectors entry.2)) ∧
      cumulative.annual.entries.map (fun entry => (entry.1, entry.2.deltaX)) =
        deltas.map (fun entry =>
          (entry.1, .ofAligned model.economy.sectors (totalUpTo deltas entry.1))) ∧
      (∀ year impact, cumulative.annual.entries.getLast? = some (year, impact) →
        perYear.cumulativeDeltaX = impact.deltaX) ∧
      ∀ phased ∈ [perYear, cumulative], phased.Peaks ∧
        (phased.peakYear = none ∧ phased.peakTotal = 0 ↔ schedule.isEmpty = true) := by
  obtain ⟨sound, kept⟩ := Session.reached_sound reached
  have asked := Session.perform_schedule sound optimise id model found schedule
  rw [asked .perYear, asked .cumulative, kept, Schedule.effective_shocks_cumulative]
  cases resolved : schedule.effectiveShocks model.economy.sectors .perYear with
  | error fault => exact .inl ⟨fault, .inl rfl, rfl, rfl⟩
  | ok real =>
    rw [RegisteredModel.ownInverse]
    cases inverted : leontiefInverse model.economy.coefficients
        settings.solver.maxConditionNumber with
    | error fault => exact .inl ⟨fault, .inr rfl, rfl, rfl⟩
    | ok inverse =>
      obtain ⟨deltas, applied⟩ : ∃ deltas, deltas = real.map fun entry =>
        (entry.1, inverse.apply entry.2) := ⟨_, rfl⟩
      have years : deltas.map (·.1) = schedule.years := by
        rw [applied, years_of_dated]
        exact schedule.effective_shocks_years model.economy.sectors real resolved
      have rising : (deltas.map (·.1)).Pairwise (· < ·) := years ▸ schedule.shocks.ascending
      have dated := years_of_dated deltas fun entry => totalUpTo deltas entry.1
      obtain ⟨perYear, cumulative, solved, accumulated, own, sums⟩ :=
        Phased.solve_accumulates inverted model.economy.sectors applied rising
      refine .inr ⟨inverse, real, deltas, perYear, cumulative, rfl, rfl, applied, ?_, ?_, years,
        own.annual, ?_, own.cumulative_eq_last sums, ?_⟩
      · exact congrArg (Except.map Session.Answer.phased) solved
      · exact congrArg (Except.map Session.Answer.phased) accumulated
      · rw [sums.annual, List.map_map]
        rfl
      · refine List.forall_mem_cons.mpr ⟨⟨own.peaks, own.peaks.nothing_iff schedule ?_⟩,
          List.forall_mem_singleton.mpr ⟨sums.peaks, sums.peaks.nothing_iff schedule ?_⟩⟩
        · exact own.years.trans years
        · exact sums.years.trans (dated.trans years)

def mixedSchedule : Schedule ℚ :=
  ((((Schedule.empty.withYear 2030 (.positional [125, 50])).withDeflator 2030 (5 / 4)).withYear 2026
    (.keyed ⟨[("B", -30)]⟩)).withYear 2025 (.keyed ⟨[("B", 40), ("A", 100)]⟩))

theorem mixed_schedule_accumulates :
    ∃ (s : Session ℚ) (perYear cumulative : Phased ℚ),
      ((Session.start Settings.standard).performAll simplex
        [.register .nil "" twoSectorSnapshot "test"]).2 = s ∧
      mixedSchedule.years = [2025, 2026, 2030] ∧
      (s.perform simplex (.schedule .nil mixedSchedule .perYear)).1 = .ok (.phased perYear) ∧
      (s.perform simplex (.schedule .nil mixedSchedule .cumulative)).1 = .ok (.phased cumulative) ∧
      (∀ year impact, cumulative.annual.entries.getLast? = some (year, impact) →
        perYear.cumulativeDeltaX = impact.deltaX) ∧
      perYear.Peaks ∧ cumulative.Peaks ∧ perYear.peakYear = some 2025 := by
  have facts : (((Session.start (α := ℚ) Settings.standard).performAll simplex
      [.register .nil "" twoSectorSnapshot "test"]).2.registry.get .nil).toOption.any (fun model =>
        (mixedSchedule.effectiveShocks model.economy.sectors .perYear >>= fun shocks =>
          model.ownInverse (Settings.standard : Settings ℚ).solver.maxConditionNumber >>=
            fun inverse => Phased.solve inverse model.economy.sectors .perYear shocks).toOption.any
              fun phased => phased.peakYear == some 2025) = true := by
    decide +kernel
  obtain ⟨model, found, solved⟩ := (Outcome.any_ok_iff _ _).mp facts
  obtain ⟨phased, solved, first⟩ := (Outcome.any_ok_iff _ _).mp solved
  have sound := Session.perform_all_sound (Session.start_sound Settings.standard) simplex
    [.register .nil "" twoSectorSnapshot "test"]
  have answered := Session.perform_schedule sound simplex .nil model found mixedSchedule .perYear
  rw [Session.perform_all_settings] at answered
  have answered := answered.trans (congrArg (Except.map Session.Answer.phased) solved)
  rcases cumulative_schedule_accumulates Settings.standard simplex
      [.register .nil "" twoSectorSnapshot "test"] _ .nil model mixedSchedule rfl found with
    ⟨fault, -, failed, -⟩ | ⟨_, _, _, _, cumulative, -, -, -, own, sums, -, -, -, last, peaks⟩
  · rw [failed] at answered
    cases answered
  · rw [own] at answered
    cases answered
    exact ⟨_, phased, cumulative, rfl, rfl, own, sums, last,
      (peaks phased (by simp)).1, (peaks cumulative (by simp)).1, eq_of_beq first⟩

end EconomicImpact
